import Pango.Bbb.MainClient
import Pango.Server.Device

/-!
# The board, the BBB and the server together

One STM board, one BBB and the server, over a network that delivers every
message whole.  The three are stepped in any order: the button may be pressed
whenever the BBB waits for it, a thread of the server receives what the BBB has
sent on its connection, and the BBB receives what the thread has answered.

Nothing here is new about the programs.  The state is that of the BBB's loop and that of
the server, side by side, and a wire for each direction in between; the steps are
theirs, put together by what a `connect` and a `send` of the BBB do to the server and
by what a reply of the server does to the wire.  The other devices of the server are left
out here; they come in with `Joint.Fleet`.

* `system` — the transition system.
* `perform` — what the calls of the BBB do to the wires and the server.
* `Clean` — a press finds the server at rest, and the board answers it, from
  within the map, save twice.
-/

namespace Pango.Joint

open Server (Reply Event Thread)

variable {D : Type*}

/-! ## States and labels -/

/-- The three programs, what is on the wire, and what has happened. -/
structure System (D : Type*) where
  bbb : Bbb.Main D
  /-- The buffer of the board. -/
  sendBuff : Frame
  server : Server.State D
  /-- The slot of the connection `client_socket` belongs to. -/
  socket : ℕ
  /-- Sent by the BBB on each connection, and not received yet. -/
  toServer : ℕ → List Frame
  /-- Sent by the server on each connection, and not received yet. -/
  toClient : ℕ → List (Reply D)
  /-- Has the BBB closed the connection? -/
  hungUp : ℕ → Bool
  /-- The presses, with the frame the board answered, if it did. -/
  presses : List (Option Frame)
  /-- The frames sent to the server. -/
  sent : List Frame
  /-- The receipts shown. -/
  receipts : List (D × D)

/-- Who moves. -/
inductive Label
  /-- The button is pressed, and the board answers with these coordinates or not
  at all; a connection, if one is opened, is accepted into the slot. -/
  | press (coordinates : Option (UInt8 × UInt8)) (slot : ℕ) (fd : Int)
  /-- The `recv` of the BBB returns. -/
  | receive
  /-- One step of a connection thread; what its `recv` returns is on the wire. -/
  | client (i : ℕ) (env : Server.Env)
  | backup (clock : ℕ → Int) (sqlFails : List ℕ)

/-- The bytes of a reply that are read as a location. -/
def locationBytes : Reply D → Option (List UInt8)
  | .location bytes => some bytes.toList
  | .errMsg => some (ascii ['E', 'R', 'R', 'O', 'R'])
  | .payment .. => none

/-- The reply an action puts on the wire. -/
def delivered : Event D → Option (Reply D)
  | .send reply true => some reply
  | _ => none

namespace System

/-- All programs at their start; the buffers of the BBB hold anything. -/
def start [CDouble D] (dataBuff : Frame) (location : Buf UInt8 12) (payment : D × D)
    (rows : List Server.Row) : System D where
  bbb := { dataBuff, location, payment }
  sendBuff := .fill 10 0
  server := .start rows
  socket := 0
  toServer _ := []
  toClient _ := []
  hungUp _ := false
  presses := []
  sent := []
  receipts := []

/-- An action of the BBB. -/
def act (slot : ℕ) (fd : Int) (sys : System D) : Bbb.Action D → Option (System D)
  | .uart1 _ => some sys
  | .connect ok =>
    if ok = true ∧ sys.server.thread slot = none then
      some { sys with server := sys.server.accepted slot fd, socket := slot }
    else none
  | .send f ok =>
    if ok = true then
      some { sys with
        toServer := Function.update sys.toServer sys.socket (sys.toServer sys.socket ++ [f])
        sent := sys.sent ++ [f] }
    else none
  | .finalPriceForCostumer payment => some { sys with receipts := sys.receipts ++ [payment] }
  | .close => some { sys with hungUp := Function.update sys.hungUp sys.socket true }

/-- The BBB gets to its next wait. -/
def perform (slot : ℕ) (fd : Int) (sys : System D) (r : Bbb.Main D × List (Bbb.Action D)) :
    Option (System D) := r.2.foldlM (act slot fd) { sys with bbb := r.1 }

/-- What the board makes of the status it is sent. -/
def answer (m : Buf UInt8 6) (sys : System D) (coordinates : Option (UInt8 × UInt8)) :
    Option Frame :=
  coordinates.map fun c => Stm.fillSendBuff ⟨sys.bbb.status, m, c.1, c.2⟩ sys.sendBuff

/-- The answer to the `recv` of thread `i`, if the thread calls it, and what is
left on the wire. -/
def fetch (sys : System D) (i : ℕ) (t : Thread) (env : Server.Env) :
    Option (Server.Env × List Frame) :=
  if t.pc = .recv then
    match sys.toServer i with
    | f :: rest => some ({ env with recv := Server.recvFrame f }, rest)
    | [] => if sys.hungUp i then some ({ env with recv := .closed }, []) else none
  else some (env, sys.toServer i)

/-- Put a step of thread `i` into the system. -/
def turn (sys : System D) (i : ℕ) (rest : List Frame) (r : Server.Turn D) : System D :=
  { sys with
    server := sys.server.turn i r
    toServer := Function.update sys.toServer i rest
    toClient := Function.update sys.toClient i (sys.toClient i ++ r.events.filterMap delivered) }

end System

/-- The system with the board `m`. -/
def system [CDouble D] (cfg : Server.Config D) (m : Buf UInt8 6) : Lts (System D) Label where
  step sys
    | .press coordinates slot fd =>
      if sys.bbb.pc = .head then
        let answer := sys.answer m coordinates
        { sys with
          sendBuff := answer.getD sys.sendBuff, presses := sys.presses ++ [answer] }.perform
          slot fd (sys.bbb.pressed { uart := answer.map Buf.toList })
      else none
    | .receive =>
      match sys.bbb.pc, sys.toClient sys.socket with
      | .location, reply :: rest => (locationBytes reply).bind fun bytes =>
          { sys with toClient := Function.update sys.toClient sys.socket rest }.perform
            sys.socket 0 (sys.bbb.gotLocation (some bytes) .sends)
      | .payment, .payment price seconds :: rest =>
          { sys with toClient := Function.update sys.toClient sys.socket rest }.perform
            sys.socket 0 (sys.bbb.gotPayment (some (price, seconds)))
      | _, _ => none
    | .client i env => (sys.server.thread i).bind fun t => (sys.fetch i t env).bind fun fetched =>
        (Server.pangoClientStep cfg fetched.1 (sys.server.client i) t sys.server.yourTable).map
          (sys.turn i fetched.2)
    | .backup clock sqlFails =>
      some { sys with server := sys.server.backedUp cfg.updateThreadMaxNumClients clock sqlFails }

/-! ## Clean runs -/

/-- The server has finished its reaction: nothing is on its way to it, and its
thread waits for the next frame or has ended. -/
def Rested (sys : System D) : Prop :=
  sys.toServer sys.socket = [] ∧ ∀ t ∈ sys.server.thread sys.socket, t.pc = .recv ∨ t.pc = .done

instance (sys : System D) : Decidable (Rested sys) := inferInstanceAs (Decidable (_ ∧ _))

/-- A press finds the server at rest; the board answers from within the map, and
fails to answer twice at most; SQLite and sends work. -/
def Clean (sys : System D) : Label → Prop
  | .press coordinates _ _ => Rested sys ∧ (∀ c ∈ coordinates, c.1 ≤ 127 ∧ c.2 ≤ 127) ∧
      (coordinates = none → sys.presses.count none < 2)
  | .client _ env => env.sqlFails = [] ∧ env.sendFails = false
  | .receive | .backup .. => True

instance (sys : System D) : (l : Label) → Decidable (Clean sys l)
  | .press coordinates _ _ =>
    -- looked at by the option, not by running over all pairs of coordinates
    letI : Decidable (∀ c ∈ coordinates, c.1 ≤ 127 ∧ c.2 ≤ 127) := coordinates.decidableForallMem
    inferInstanceAs (Decidable (_ ∧ _ ∧ _))
  | .client .. => inferInstanceAs (Decidable (_ ∧ _))
  | .receive | .backup .. => isTrue trivial

end Pango.Joint
