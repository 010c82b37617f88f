import Pango.Bbb.ClientFunc

/-!
# `main_client.c`

The main loop of the BBB, cut at the three calls it waits in: the poll for the
button, the `recv` of the location and the `recv` of the payment.  What it does
from one of them to the next is a function of its variables and of what the
calls in between answer.

Two of these calls may not return.  `connect_to_pango_server` leaves the process
with `exit` when it gets no socket, and a `send` on a connection that is not there
raises SIGPIPE: the program sends without `MSG_NOSIGNAL` and installs no handler,
so the process ends unless it was started with the signal ignored, in which case
`send` returns -1.  That is the fate of every start whose `connect` was refused,
since `main` takes the refusal for a success and goes on to `send`.

* `Main.pressed` — from the button to the next wait.
* `Main.gotLocation`, `Main.gotPayment` — from either `recv` to the next wait.
-/

namespace Pango.Bbb

variable {D : Type*}

/-! ## The loop -/

/-- Where the loop waits. -/
inductive Pc
  /-- At its head, for the button. -/
  | head
  /-- In the `recv` of `send_data_and_receive_location`. -/
  | location
  /-- In the `recv` of the payment. -/
  | payment
  /-- After the loop. -/
  | ended
  /-- Nowhere any more: the process has ended within a call. -/
  | aborted
  deriving DecidableEq, Repr

/-- The variables of `main`, as they are before the loop.  The three buffers are
not initialised. -/
structure Main (D : Type*) where
  pc : Pc := .head
  dataBuff : Frame
  status : UInt8 := AppStatus.on
  stmDataReceiveError : UInt8 := 0
  connected : IsConnected := .notConnected
  location : Buf UInt8 12
  payment : D × D

/-- What the loop does that can be seen from outside. -/
inductive Action (D : Type*)
  /-- Bytes written to the STM board. -/
  | uart1 (bytes : List UInt8)
  /-- `connect` on a new socket, with or without success. -/
  | connect (ok : Bool)
  | send (dataBuff : Frame) (ok : Bool)
  | finalPriceForCostumer (payment : D × D)
  /-- `close(client_socket)`. -/
  | close
  deriving DecidableEq

/-- What `socket` and `connect` come to. -/
inductive Connecting
  /-- `socket` returns -1. -/
  | noSocket
  /-- `connect` returns -1. -/
  | refused
  | connects
  deriving DecidableEq, Repr

/-- What `send` comes to. -/
inductive Sending
  | sends
  /-- It returns -1. -/
  | fails
  /-- It raises SIGPIPE, which ends the process. -/
  | signal
  deriving DecidableEq, Repr

theorem unconnected_of_connects : Connecting.connects = .refused → Sending.sends ≠ .sends := by
  intro h
  cases h

/-- What the calls after a press answer. -/
structure Env where
  /-- What is read from the STM board, if it answers within a second. -/
  uart : Option (List UInt8)
  connect : Connecting := .connects
  send : Sending := .sends
  /-- Nothing is sent on a socket whose `connect` was refused. -/
  unconnected : connect = .refused → send ≠ .sends := by exact Pango.Bbb.unconnected_of_connects

/-- `ERROR`. -/
abbrev error : Int := -1

/-- The four bytes of the variable `restart`. -/
def restart : List UInt8 := [AppStatus.restart, 0, 0, 0]

/-- `connect_to_pango_server`: without a socket it leaves the process, and the `-1`
of a refusal is returned as a `uint8_t`. -/
def connectToPangoServer : Connecting → Option UInt8
  | .noSocket => none
  | .refused => some 255
  | .connects => some 0

namespace Main

variable (b : Main D)

/-- After the loop. -/
def closeResources : Main D × List (Action D) := ({ b with pc := .ended }, [.uart1 restart, .close])

/-- The end of the loop's body. -/
def update : Main D := { b with pc := .head, status := updatingStatusValue b.status }

/-- From `ready_to_quit` on. -/
def closeApp (send : Sending) : Main D × List (Action D) :=
  if readyToQuit b.status b.connected = .quit then
    match send with
    | .sends => ({ b with pc := .payment }, [.send b.dataBuff true])
    | .fails =>
      let r := b.closeResources
      (r.1, .send b.dataBuff false :: r.2)
    | .signal => ({ b with pc := .aborted }, [.send b.dataBuff false])
  else (b.update, [])

/-- From the return of `send_data_and_receive_location` on.  The variable
`return_value` is a `uint8_t`, so it is never `ERROR`. -/
def afterExchange (returnValue : UInt8) (send : Sending) : Main D × List (Action D) :=
  if (returnValue.toNat : Int) = error then b.closeResources
  else
    let r := crc8ServerSideValue b.status b.location
    closeApp { b with status := r.1, connected := r.2 } send

/-- The button has been pressed. -/
def pressed (env : Env) : Main D × List (Action D) :=
  let request := Action.uart1 [b.status]
  match env.uart with
  | none =>
    let b := { b with stmDataReceiveError := b.stmDataReceiveError + 1 }
    if b.stmDataReceiveError = AppStatus.restart then
      let r := b.closeResources
      (r.1, request :: .uart1 restart :: r.2)
    else (b, [request])
  | some bytes =>
    if receivedDataFromStm b.status then
      let dataBuff := b.dataBuff.write 0 bytes
      let b := { b with dataBuff, status := crc8Check dataBuff pangoDataSize (getStatus dataBuff) }
      if alreadyConnectedToServerCheck b.status b.connected = .notConnected then
        match connectToPangoServer env.connect with
        | none => ({ b with pc := .aborted }, [request])
        | some returned =>
          let connect := Action.connect (env.connect = .connects)
          if (returned.toNat : Int) = error then
            let r := b.closeResources
            (r.1, request :: connect :: r.2)
          else
            match env.send with
            | .sends => ({ b with pc := .location }, [request, connect, .send dataBuff true])
            | .fails =>
              let r := b.afterExchange 255 env.send
              (r.1, request :: connect :: .send dataBuff false :: r.2)
            | .signal => ({ b with pc := .aborted }, [request, connect, .send dataBuff false])
      else
        let r := b.closeApp env.send
        (r.1, request :: r.2)
    else (b.update, [request])

/-- The `recv` of the location returned these bytes, or -1. -/
def gotLocation (received : Option (List UInt8)) (send : Sending) : Main D × List (Action D) :=
  match received with
  | none => b.afterExchange 255 send
  | some bytes => { b with location := b.location.write 0 bytes }.afterExchange 0 send

/-- The `recv` of the payment left this in `payment`, or returned -1. -/
def gotPayment (received : Option (D × D)) : Main D × List (Action D) :=
  match received with
  | none => b.closeResources
  | some payment =>
    (update { b with payment, connected := .notConnected },
     [.finalPriceForCostumer payment, .close])

/-! ## What the loop does when nothing fails -/

variable {b}

/-- A frame that asks for a start is sent on a new connection. -/
theorem pressed_on {f : Frame} (hst : b.status = AppStatus.on) (hcon : b.connected = .notConnected)
    (hv : f.crc = calculateCRC8 f.toList pangoDataSize) (hf : f.status = AppStatus.on) :
    b.pressed { uart := some f.toList }
      = ({ b with pc := .location, dataBuff := f },
          [.uart1 [AppStatus.on], .connect true, .send f true]) := by
  have hget : getStatus f = AppStatus.on := hf
  have hrecv : receivedDataFromStm AppStatus.on = true := by decide
  have hask : alreadyConnectedToServerCheck AppStatus.on .notConnected = .notConnected := by decide
  have hconnect : ¬ ((0 : UInt8).toNat : Int) = error := by decide
  obtain ⟨pc, dataBuff, status, errors, con, location, payment⟩ := b
  simp only at hst hcon
  subst hst hcon
  simp only [pressed, hrecv, if_true, Buf.write_full, hget, crc8Check_of_valid hv, hask,
    connectToPangoServer, if_neg hconnect, decide_true]

/-- A frame that asks for the end is sent on the connection there is. -/
theorem pressed_off {f : Frame} (hst : b.status = AppStatus.off) (hcon : b.connected = .connected)
    (hv : f.crc = calculateCRC8 f.toList pangoDataSize) (hf : f.status = AppStatus.off) :
    b.pressed { uart := some f.toList }
      = ({ b with pc := .payment, dataBuff := f }, [.uart1 [AppStatus.off], .send f true]) := by
  have hget : getStatus f = AppStatus.off := hf
  have hrecv : receivedDataFromStm AppStatus.off = true := by decide
  have hask : alreadyConnectedToServerCheck AppStatus.off .connected ≠ .notConnected := by decide
  have hquit : readyToQuit AppStatus.off .connected = .quit := by decide
  obtain ⟨pc, dataBuff, status, errors, con, location, payment⟩ := b
  simp only at hst hcon
  subst hst hcon
  simp only [pressed, hrecv, if_true, Buf.write_full, hget, crc8Check_of_valid hv, if_neg hask,
    closeApp, hquit]

theorem pressed_none (h : b.stmDataReceiveError + 1 ≠ AppStatus.restart) :
    b.pressed { uart := none } = ({ b with stmDataReceiveError := b.stmDataReceiveError + 1 },
      [.uart1 [b.status]]) := by
  simp only [pressed, if_neg h]

/-- A location other than the text `ERROR` leaves the BBB connected. -/
theorem gotLocation_of_city {loc : Buf UInt8 12} (hst : b.status = AppStatus.on)
    (hloc : cstr loc.toList ≠ ascii ['E', 'R', 'R', 'O', 'R']) :
    b.gotLocation (some loc.toList) .sends
      = ({ b with pc := .head, status := AppStatus.off, connected := .connected, location := loc },
        []) := by
  have hret : ¬ ((0 : UInt8).toNat : Int) = error := by decide
  have hquit : readyToQuit AppStatus.on .connected ≠ .quit := by decide
  have hcrc : crc8ServerSideValue AppStatus.on loc = (AppStatus.on, .connected) := if_pos hloc
  obtain ⟨pc, dataBuff, status, errors, con, location, payment⟩ := b
  simp only at hst
  subst hst
  simp only [gotLocation, Buf.write_full, afterExchange, if_neg hret, hcrc, closeApp,
    if_neg hquit, update, updatingStatusValue_on]

end Main

end Pango.Bbb
