import Pango.Bbb.MainClient
import Pango.Lib.Lts

/-!
# Runs of the BBB

The main loop as a transition system: the button is pressed, a `recv` returns.
The board, the connection and the server answer as they like, with whatever bytes
they like, or not at all.

Nothing in the loop says in which phase of a parking it is.  What the next press asks
the board for is computed from a status byte that has been overwritten with the first
byte of a frame, then by the check of that frame, then by the answer of the server, and
toggled at the end; and whether a parking is under way is one flag, set from what the
location buffer holds.  The questions are what follows from this for the frames the
server is sent, whatever goes wrong, and when the button means what its user thinks.

* `pressed_cases` — what a press can come to.
* `frames_conform` — on every connection the BBB sends a start and then an end at
  most, both with a right check byte.
* `right_button_iff` — when the next press asks for what the user wants.
* `wrong_button` — a corrupted answer of the board after which it does not.
* `error_exit_iff` — a failing call of the start exchange never leads to the error
  exit: the loop goes on, or SIGPIPE ends the process.
-/

namespace Pango.Bbb

variable {D : Type*}

/-! ## The transition system -/

/-- The variables of the loop, and all it has done. -/
structure State (D : Type*) where
  main : Main D
  actions : List (Action D)

/-- What the loop has been waiting for. -/
inductive Label (D : Type*)
  /-- The button is pressed. -/
  | press (env : Env)
  /-- The `recv` of the location returns bytes or -1; should the loop call `send`
  after that, this is what it comes to. -/
  | location (received : Option (List UInt8)) (send : Sending)
  /-- The `recv` of the payment returns. -/
  | payment (received : Option (D × D))

namespace State

/-- Before the loop; the buffers hold anything. -/
def start (dataBuff : Frame) (location : Buf UInt8 12) (payment : D × D) : State D where
  main := { dataBuff, location, payment }
  actions := []

/-- The loop goes on to its next wait, if it waits for this. -/
def goesOn (s : State D) (pc : Pc) (r : Main D × List (Action D)) : Option (State D) :=
  if s.main.pc = pc then some ⟨r.1, s.actions ++ r.2⟩ else none

end State

/-- The loop. -/
def loop : Lts (State D) (Label D) where
  step s
    | .press env => s.goesOn .head (s.main.pressed env)
    | .location received send => s.goesOn .location (s.main.gotLocation received send)
    | .payment received => s.goesOn .payment (s.main.gotPayment received)

theorem step_cases {s s' : State D} {l : Label D} (h : loop.step s l = some s') :
    (∃ env, l = .press env ∧ s.main.pc = .head ∧
        s' = ⟨(s.main.pressed env).1, s.actions ++ (s.main.pressed env).2⟩)
    ∨ (∃ received send, l = .location received send ∧ s.main.pc = .location ∧
        s' = ⟨(s.main.gotLocation received send).1,
          s.actions ++ (s.main.gotLocation received send).2⟩)
    ∨ (∃ received, l = .payment received ∧ s.main.pc = .payment ∧
        s' = ⟨(s.main.gotPayment received).1, s.actions ++ (s.main.gotPayment received).2⟩) := by
  cases l with
  | press env =>
    simp only [loop, State.goesOn] at h
    split_ifs at h with hpc
    exact .inl ⟨env, rfl, hpc, (Option.some.inj h).symm⟩
  | location received send =>
    simp only [loop, State.goesOn] at h
    split_ifs at h with hpc
    exact .inr (.inl ⟨received, send, rfl, hpc, (Option.some.inj h).symm⟩)
  | payment received =>
    simp only [loop, State.goesOn] at h
    split_ifs at h with hpc
    exact .inr (.inr ⟨received, rfl, hpc, (Option.some.inj h).symm⟩)

/-! ## What a press can come to -/

theorem alreadyConnectedToServerCheck_eq_notConnected_iff {status : UInt8} {con : IsConnected} :
    alreadyConnectedToServerCheck status con = .notConnected
      ↔ status = AppStatus.on ∧ con = .notConnected := by
  unfold alreadyConnectedToServerCheck
  split_ifs with h <;> simp [h]

theorem readyToQuit_eq_quit_iff {status : UInt8} {con : IsConnected} :
    readyToQuit status con = .quit ↔ status = AppStatus.off ∧ con = .connected := by
  unfold readyToQuit
  split_ifs with h <;> simp [h]

/-- A `uint8_t` is never `ERROR`. -/
theorem ne_error (n : UInt8) : (n.toNat : Int) ≠ error := by
  have : (0 : Int) ≤ n.toNat := Int.natCast_nonneg _
  unfold error
  omega

/-- With a socket `connect_to_pango_server` returns, whatever `connect` does. -/
theorem connectToPangoServer_of_ne {connect : Connecting} (h : connect ≠ .noSocket) :
    ∃ returned, connectToPangoServer connect = some returned := by
  cases connect with
  | noSocket => exact absurd rfl h
  | refused => exact ⟨255, rfl⟩
  | connects => exact ⟨0, rfl⟩

namespace Main

/-- A frame has been read and checked. -/
def read (b : Main D) (bytes : List UInt8) : Main D :=
  let dataBuff := b.dataBuff.write 0 bytes
  { b with dataBuff, status := crc8Check dataBuff pangoDataSize (getStatus dataBuff) }

/-- The end of an iteration in which the start exchange has been gone through. -/
def exchanged (b : Main D) : Main D :=
  let r := crc8ServerSideValue b.status b.location
  update { b with status := r.1, connected := r.2 }

variable {b : Main D}

/-- The answer of the server leads back to the head of the loop. -/
theorem afterExchange_of_on (h : b.status = AppStatus.on) (returnValue : UInt8) (send : Sending) :
    b.afterExchange returnValue send = (b.exchanged, []) := by
  have hquit : ¬ readyToQuit (crc8ServerSideValue b.status b.location).1
      (crc8ServerSideValue b.status b.location).2 = .quit := by
    rw [readyToQuit_eq_quit_iff, h]
    unfold crc8ServerSideValue
    split_ifs <;> decide
  rw [afterExchange, if_neg (ne_error returnValue), closeApp.eq_def, if_neg hquit, exchanged]

/-- So does the `recv` of it, whatever it returns. -/
theorem gotLocation_of_on (h : b.status = AppStatus.on) (received : Option (List UInt8))
    (send : Sending) : ∃ location,
      b.gotLocation received send = (exchanged { b with location }, []) := by
  cases received with
  | none => exact ⟨b.location, afterExchange_of_on h 255 send⟩
  | some bytes =>
    have hst : { b with location := b.location.write 0 bytes }.status = AppStatus.on := h
    exact ⟨b.location.write 0 bytes, afterExchange_of_on hst 0 send⟩

/-- The board has answered, and its answer is read. -/
structure Answered (b : Main D) (env : Env) (bytes : List UInt8) : Prop where
  uart : env.uart = some bytes
  recv : receivedDataFromStm b.status = true

/-- The answer asks for a start, and nobody parks. -/
structure Starts (b : Main D) (env : Env) (bytes : List UInt8) : Prop
    extends Answered b env bytes where
  on : (b.read bytes).status = AppStatus.on
  notConnected : b.connected = .notConnected

/-- The answer asks for the end, and somebody parks. -/
structure Closes (b : Main D) (env : Env) (bytes : List UInt8) : Prop
    extends Answered b env bytes where
  off : (b.read bytes).status = AppStatus.off
  connected : b.connected = .connected

/-- What a press can come to. -/
inductive Pressed (b : Main D) (env : Env) : Main D × List (Action D) → Prop
  /-- The board does not answer, and will be asked again. -/
  | silent (huart : env.uart = none) (hagain : b.stmDataReceiveError + 1 ≠ AppStatus.restart) :
      Pressed b env ({ b with stmDataReceiveError := b.stmDataReceiveError + 1 },
        [.uart1 [b.status]])
  /-- The board does not answer, and the loop is left. -/
  | thirdSilent (huart : env.uart = none)
      (hthird : b.stmDataReceiveError + 1 = AppStatus.restart) :
      Pressed b env ({ b with pc := .ended, stmDataReceiveError := b.stmDataReceiveError + 1 },
        [.uart1 [b.status], .uart1 restart, .uart1 restart, .close])
  /-- The answer is not read. -/
  | unread {bytes : List UInt8} (huart : env.uart = some bytes)
      (hrecv : receivedDataFromStm b.status = false) :
      Pressed b env (b.update, [.uart1 [b.status]])
  /-- A start for which there is no socket. -/
  | noSocket {bytes : List UInt8} (hstart : Starts b env bytes)
      (hconnect : env.connect = .noSocket) :
      Pressed b env ({ b.read bytes with pc := .aborted }, [.uart1 [b.status]])
  /-- A start that is sent. -/
  | start {bytes : List UInt8} (hstart : Starts b env bytes) (hconnect : env.connect ≠ .noSocket)
      (hsend : env.send = .sends) :
      Pressed b env ({ b.read bytes with pc := .location }, [.uart1 [b.status],
        .connect (env.connect = .connects), .send (b.read bytes).dataBuff true])
  /-- A start whose `send` returns -1. -/
  | startFails {bytes : List UInt8} (hstart : Starts b env bytes)
      (hconnect : env.connect ≠ .noSocket) (hsend : env.send = .fails) :
      Pressed b env ((b.read bytes).exchanged, [.uart1 [b.status],
        .connect (env.connect = .connects), .send (b.read bytes).dataBuff false])
  /-- A start whose `send` ends the process. -/
  | startSignal {bytes : List UInt8} (hstart : Starts b env bytes)
      (hconnect : env.connect ≠ .noSocket) (hsend : env.send = .signal) :
      Pressed b env ({ b.read bytes with pc := .aborted }, [.uart1 [b.status],
        .connect (env.connect = .connects), .send (b.read bytes).dataBuff false])
  /-- An end that is sent. -/
  | close {bytes : List UInt8} (hclose : Closes b env bytes) (hsend : env.send = .sends) :
      Pressed b env ({ b.read bytes with pc := .payment },
        [.uart1 [b.status], .send (b.read bytes).dataBuff true])
  /-- An end whose `send` returns -1. -/
  | closeFails {bytes : List UInt8} (hclose : Closes b env bytes) (hsend : env.send = .fails) :
      Pressed b env ({ b.read bytes with pc := .ended },
        [.uart1 [b.status], .send (b.read bytes).dataBuff false, .uart1 restart, .close])
  /-- An end whose `send` ends the process. -/
  | closeSignal {bytes : List UInt8} (hclose : Closes b env bytes) (hsend : env.send = .signal) :
      Pressed b env ({ b.read bytes with pc := .aborted },
        [.uart1 [b.status], .send (b.read bytes).dataBuff false])
  /-- An answer that asks for neither. -/
  | nothing {bytes : List UInt8} (hread : Answered b env bytes)
      (hstart : ¬ Starts b env bytes) (hclose : ¬ Closes b env bytes) :
      Pressed b env ((b.read bytes).update, [.uart1 [b.status]])

/-- After an answer that asks for a start, the loop calls the server. -/
theorem pressed_of_starts {env : Env} {bytes : List UInt8} (h : Starts b env bytes) :
    b.pressed env = match connectToPangoServer env.connect with
      | none => ({ b.read bytes with pc := .aborted }, [.uart1 [b.status]])
      | some _ => match env.send with
        | .sends => ({ b.read bytes with pc := .location }, [.uart1 [b.status],
            .connect (env.connect = .connects), .send (b.read bytes).dataBuff true])
        | .fails => ((b.read bytes).exchanged, [.uart1 [b.status],
            .connect (env.connect = .connects), .send (b.read bytes).dataBuff false])
        | .signal => ({ b.read bytes with pc := .aborted }, [.uart1 [b.status],
            .connect (env.connect = .connects), .send (b.read bytes).dataBuff false]) := by
  have hask := alreadyConnectedToServerCheck_eq_notConnected_iff.mpr ⟨h.on, h.notConnected⟩
  have hafter := afterExchange_of_on h.on 255 .fails
  unfold read at hask hafter ⊢
  cases hreturned : connectToPangoServer env.connect with
  | none => simp only [pressed, h.uart, h.recv, if_true, hask, hreturned]
  | some returned =>
    -- what `connect` has returned is a `uint8_t` by now, so the comparison with `ERROR` fails
    cases hsend : env.send <;>
      simp only [pressed, h.uart, h.recv, if_true, hask, hreturned, if_neg (ne_error _), hsend,
        hafter]

/-- After any other, it may call it for the end of a parking. -/
theorem pressed_of_not_starts {env : Env} {bytes : List UInt8} (hread : Answered b env bytes)
    (h : ¬ Starts b env bytes) : b.pressed env
      = (((b.read bytes).closeApp env.send).1,
          .uart1 [b.status] :: ((b.read bytes).closeApp env.send).2) := by
  have hask : ¬ alreadyConnectedToServerCheck (b.read bytes).status (b.read bytes).connected
      = .notConnected := by
    rw [alreadyConnectedToServerCheck_eq_notConnected_iff]
    exact fun ⟨hon, hnot⟩ => h ⟨hread, hon, hnot⟩
  unfold read at hask ⊢
  simp only [pressed, hread.uart, hread.recv, if_true, if_neg hask]

theorem pressed_cases (b : Main D) (env : Env) : Pressed b env (b.pressed env) := by
  cases huart : env.uart with
  | none =>
    by_cases herr : b.stmDataReceiveError + 1 = AppStatus.restart
    · have h : b.pressed env
          = ({ b with pc := .ended, stmDataReceiveError := b.stmDataReceiveError + 1 },
            [.uart1 [b.status], .uart1 restart, .uart1 restart, .close]) := by
        simp only [pressed, huart, herr, if_true, closeResources]
      exact h ▸ .thirdSilent huart herr
    · have h : b.pressed env
          = ({ b with stmDataReceiveError := b.stmDataReceiveError + 1 }, [.uart1 [b.status]]) := by
        simp only [pressed, huart, if_neg herr]
      exact h ▸ .silent huart herr
  | some bytes =>
    cases hrecv : receivedDataFromStm b.status with
    | false =>
      have h : b.pressed env = (b.update, [.uart1 [b.status]]) := by
        simp only [pressed, huart, hrecv, Bool.false_eq_true, if_false]
      exact h ▸ .unread huart hrecv
    | true =>
      by_cases hstart : Starts b env bytes
      · rw [pressed_of_starts hstart]
        by_cases hconnect : env.connect = .noSocket
        · rw [hconnect]
          exact .noSocket hstart hconnect
        · obtain ⟨returned, hreturned⟩ := connectToPangoServer_of_ne hconnect
          rw [hreturned]
          cases hsend : env.send with
          | sends => exact .start hstart hconnect hsend
          | fails => exact .startFails hstart hconnect hsend
          | signal => exact .startSignal hstart hconnect hsend
      · rw [pressed_of_not_starts ⟨huart, hrecv⟩ hstart, closeApp.eq_def]
        by_cases hquit : readyToQuit (b.read bytes).status (b.read bytes).connected = .quit
        · obtain ⟨hoff, hcon⟩ := readyToQuit_eq_quit_iff.mp hquit
          rw [if_pos hquit]
          cases hsend : env.send with
          | sends => exact .close ⟨⟨huart, hrecv⟩, hoff, hcon⟩ hsend
          | fails => exact .closeFails ⟨⟨huart, hrecv⟩, hoff, hcon⟩ hsend
          | signal => exact .closeSignal ⟨⟨huart, hrecv⟩, hoff, hcon⟩ hsend
        · rw [if_neg hquit]
          exact .nothing ⟨huart, hrecv⟩ hstart
            fun h => hquit (readyToQuit_eq_quit_iff.mpr ⟨h.off, h.connected⟩)

end Main

/-! ## Frames and answers -/

/-- A frame that passes the check and asks for `status`. -/
def Request (status : UInt8) (f : Frame) : Prop :=
  f.crc = calculateCRC8 f.toList pangoDataSize ∧ getStatus f = status

instance (status : UInt8) (f : Frame) : Decidable (Request status f) :=
  inferInstanceAs (Decidable (_ ∧ _))

/-- Only a right frame leaves `ON` or `OFF` behind. -/
theorem crc8Check_eq_iff {status : UInt8} (h : status = AppStatus.on ∨ status = AppStatus.off)
    (f : Frame) :
    crc8Check f pangoDataSize (getStatus f) = status ↔ Request status f := by
  unfold Request
  by_cases hv : f.crc = calculateCRC8 f.toList pangoDataSize
  · rw [crc8Check_of_valid hv, and_iff_right hv]
  · have hstay : AppStatus.stayOn ≠ status ∧ AppStatus.stayOff ≠ status := by
      rcases h with rfl | rfl <;> decide
    rw [crc8Check, if_pos hv]
    refine iff_of_false ?_ fun hr => hv hr.1
    split_ifs
    · exact hstay.1
    · exact hstay.2

/-- After the answer of the server the BBB is connected and the next press asks
for the end, or it is not and the next press asks for a start. -/
theorem exchanged_cases {b : Main D} (h : b.status = AppStatus.on) :
    (cstr b.location.toList ≠ ascii ['E', 'R', 'R', 'O', 'R'] ∧ b.exchanged
        = { b with pc := .head, status := AppStatus.off, connected := .connected })
    ∨ (cstr b.location.toList = ascii ['E', 'R', 'R', 'O', 'R'] ∧ b.exchanged
        = { b with pc := .head, status := AppStatus.on, connected := .notConnected }) := by
  have hstay : updatingStatusValue AppStatus.stayOn = AppStatus.on := by decide
  by_cases hloc : cstr b.location.toList = ascii ['E', 'R', 'R', 'O', 'R']
  · refine .inr ⟨hloc, ?_⟩
    simp only [Main.exchanged, crc8ServerSideValue, if_neg (not_not.mpr hloc), Main.update, hstay]
  · refine .inl ⟨hloc, ?_⟩
    simp only [Main.exchanged, crc8ServerSideValue, if_pos hloc, Main.update, h,
      updatingStatusValue_on]

theorem status_update (b : Main D) :
    b.update.status = AppStatus.on ∨ b.update.status = AppStatus.off := by
  have h := receivedDataFromStm_updatingStatusValue b.status
  unfold receivedDataFromStm at h
  split_ifs at h with hs
  exact hs

/-! ## What is sent on a connection -/

/-- The frames handed to `send`: on the sockets before, and on the current one. -/
structure Sockets where
  before : List (List Frame) := []
  current : List Frame := []

/-- What an action adds. -/
def Sockets.step (S : Sockets) : Action D → Sockets
  | .connect _ => ⟨S.before ++ [S.current], []⟩
  | .send f _ => { S with current := S.current ++ [f] }
  | _ => S

def sockets (actions : List (Action D)) : Sockets := actions.foldl Sockets.step {}

theorem sockets_append (a b : List (Action D)) :
    sockets (a ++ b) = b.foldl Sockets.step (sockets a) :=
  List.foldl_append

/-- A start and then an end, or as much of it. -/
inductive Conforms : List Frame → Prop
  | nil : Conforms []
  | start {f : Frame} (hf : Request AppStatus.on f) : Conforms [f]
  | close {f g : Frame} (hf : Request AppStatus.on f)
    (hg : Request AppStatus.off g) : Conforms [f, g]

/-- How far the current connection has got, where the loop waits. -/
def Phase (b : Main D) (current : List Frame) : Prop :=
  match b.pc with
  | .head => (b.status = AppStatus.on ∨ b.status = AppStatus.off) ∧ Conforms current ∧
      (b.connected = .connected → ∃ f, current = [f] ∧ Request AppStatus.on f)
  | .location => b.status = AppStatus.on ∧ b.connected = .notConnected ∧
      ∃ f, current = [f] ∧ Request AppStatus.on f
  | .payment => b.status = AppStatus.off ∧ b.connected = .connected ∧ Conforms current
  | .ended | .aborted => Conforms current

/-- What the BBB keeps to. -/
structure Orderly (s : State D) : Prop where
  before : ∀ frames ∈ (sockets s.actions).before, Conforms frames
  phase : Phase s.main (sockets s.actions).current
  /-- A status written to the board is one of the two. -/
  written : ∀ byte, .uart1 [byte] ∈ s.actions → byte = AppStatus.on ∨ byte = AppStatus.off

section Orderly

variable {s s' : State D} {b : Main D} {es : List (Action D)}

theorem orderly_of_sockets {S : Sockets} (hS : sockets (s.actions ++ es) = S) (hJ : Orderly s)
    (hbefore : ∀ frames ∈ S.before, Conforms frames) (hphase : Phase b S.current)
    (hw : ∀ byte, .uart1 [byte] ∈ es → byte = AppStatus.on ∨ byte = AppStatus.off) :
    Orderly ⟨b, s.actions ++ es⟩ := by
  subst hS
  exact ⟨hbefore, hphase, fun byte hmem => (List.mem_append.mp hmem).elim (hJ.written byte)
    (hw byte)⟩

/-- Actions that send nothing leave every connection as it is. -/
theorem orderly_append (hJ : Orderly s)
    (hes : es.foldl Sockets.step (sockets s.actions) = sockets s.actions)
    (hphase : Phase b (sockets s.actions).current)
    (hw : ∀ byte, .uart1 [byte] ∈ es → byte = AppStatus.on ∨ byte = AppStatus.off) :
    Orderly ⟨b, s.actions ++ es⟩ :=
  orderly_of_sockets ((sockets_append _ _).trans hes) hJ hJ.before hphase hw

theorem phase_update {current : List Frame} (hc : Conforms current)
    (hcon : b.connected = .connected → ∃ f, current = [f] ∧ Request AppStatus.on f) :
    Phase b.update current := ⟨status_update b, hc, hcon⟩

theorem phase_exchanged {f : Frame} (hst : b.status = AppStatus.on) (hf : Request AppStatus.on f) :
    Phase b.exchanged [f] := by
  rcases exchanged_cases hst with ⟨-, h⟩ | ⟨-, h⟩ <;> rw [h]
  · exact ⟨.inr rfl, .start hf, fun _ => ⟨f, rfl, hf⟩⟩
  · exact ⟨.inl rfl, .start hf, nofun⟩

/-- Whatever a press comes to, a start goes out on a new connection only, and an end on
the connection of its start. -/
theorem orderly_press (hJ : Orderly s) (hpc : s.main.pc = .head) (env : Env) :
    Orderly ⟨(s.main.pressed env).1, s.actions ++ (s.main.pressed env).2⟩ := by
  have hphase := hJ.phase
  simp only [Phase, hpc] at hphase
  obtain ⟨hst, hconf, hcon⟩ := hphase
  -- what is written first is the status
  have hwrite : ∀ rest : List (Action D), (∀ byte, .uart1 [byte] ∉ rest) →
      ∀ byte, .uart1 [byte] ∈ .uart1 [s.main.status] :: rest →
        byte = AppStatus.on ∨ byte = AppStatus.off := by
    intro rest hrest byte hmem
    rcases List.mem_cons.mp hmem with heq | hmem
    · cases heq
      exact hst
    · exact absurd hmem (hrest byte)
  -- after a start its frame is all there is on the new connection
  have hstarted : ∀ {bytes : List UInt8} (b : Main D) (ok ok' : Bool), s.main.Starts env bytes →
      (∀ f, Request AppStatus.on f → Phase b [f]) →
      Orderly ⟨b, s.actions ++ [.uart1 [s.main.status], .connect ok,
        .send (s.main.read bytes).dataBuff ok']⟩ := by
    intro bytes b ok ok' hstart hphase
    refine orderly_of_sockets (S := ⟨(sockets s.actions).before ++ [(sockets s.actions).current],
      [(s.main.read bytes).dataBuff]⟩) (sockets_append _ _) hJ (fun frames hmem => ?_)
      (hphase _ ((crc8Check_eq_iff (.inl rfl) _).mp hstart.on)) (hwrite _ (by simp))
    rcases List.mem_append.mp hmem with hmem | hmem
    · exact hJ.before frames hmem
    · exact List.mem_singleton.mp hmem ▸ hconf
  -- after an end its frame follows that of the start
  have hclosed : ∀ {bytes : List UInt8} (b : Main D) (ok : Bool) (rest : List (Action D)),
      s.main.Closes env bytes → (∀ byte, .uart1 [byte] ∉ rest) →
      (∀ S : Sockets, rest.foldl Sockets.step S = S) →
      (∀ f g, Request AppStatus.on f → Request AppStatus.off g → Phase b [f, g]) →
      Orderly ⟨b, s.actions ++ .uart1 [s.main.status] ::
        .send (s.main.read bytes).dataBuff ok :: rest⟩ := by
    intro bytes b ok rest hclose hw hrest hphase
    obtain ⟨f, hcur, hf⟩ := hcon hclose.connected
    refine orderly_of_sockets (S := ⟨(sockets s.actions).before,
      [f, (s.main.read bytes).dataBuff]⟩) ?_ hJ hJ.before
      (hphase _ _ hf ((crc8Check_eq_iff (.inr rfl) _).mp hclose.off)) (hwrite _ (by simpa using hw))
    rw [sockets_append, List.foldl_cons, List.foldl_cons, hrest]
    simp only [Sockets.step, hcur, List.singleton_append]
  have h := s.main.pressed_cases env
  generalize s.main.pressed env = r at h ⊢
  cases h with
  | silent _ _ =>
    refine orderly_append hJ rfl ?_ (hwrite [] (by simp))
    simp only [Phase, hpc]
    exact ⟨hst, hconf, hcon⟩
  | thirdSilent _ _ => exact orderly_append hJ rfl hconf (hwrite _ (by simp [restart]))
  | unread _ _ => exact orderly_append hJ rfl (phase_update hconf hcon) (hwrite [] (by simp))
  | noSocket _ _ => exact orderly_append hJ rfl hconf (hwrite [] (by simp))
  | start hstart _ _ =>
    exact hstarted _ _ true hstart fun f hf => ⟨hstart.on, hstart.notConnected, f, rfl, hf⟩
  | startFails hstart _ _ =>
    exact hstarted _ _ false hstart fun f hf => phase_exchanged hstart.on hf
  | startSignal hstart _ _ => exact hstarted _ _ false hstart fun f hf => .start hf
  | close hclose _ =>
    exact hclosed _ true [] hclose (by simp) (fun _ => rfl)
      fun f g hf hg => ⟨hclose.off, hclose.connected, .close hf hg⟩
  | closeFails hclose _ =>
    exact hclosed _ false [.uart1 restart, .close] hclose (by simp [restart]) (fun _ => rfl)
      fun f g hf hg => Conforms.close hf hg
  | closeSignal hclose _ =>
    exact hclosed _ false [] hclose (by simp) (fun _ => rfl)
      fun f g hf hg => Conforms.close hf hg
  | nothing _ _ _ => exact orderly_append hJ rfl (phase_update hconf hcon) (hwrite [] (by simp))

theorem orderly_step {l : Label D} (hJ : Orderly s) (hs : loop.step s l = some s') :
    Orderly s' := by
  have hphase := hJ.phase
  rcases step_cases hs with ⟨env, rfl, hpc, rfl⟩ | ⟨received, send, rfl, hpc, rfl⟩
    | ⟨received, rfl, hpc, rfl⟩
  · exact orderly_press hJ hpc env
  · simp only [Phase, hpc] at hphase
    obtain ⟨hst, -, f, hcur, hf⟩ := hphase
    obtain ⟨location, hgot⟩ := Main.gotLocation_of_on hst received send
    have hst' : { s.main with location }.status = AppStatus.on := hst
    rw [hgot]
    exact orderly_append hJ rfl (hcur ▸ phase_exchanged hst' hf) (by simp)
  · simp only [Phase, hpc] at hphase
    obtain ⟨hst, -, hconf⟩ := hphase
    cases received with
    | none =>
      exact orderly_append hJ rfl hconf
        (by simp [Main.gotPayment, Main.closeResources, restart])
    | some payment =>
      exact orderly_append hJ rfl (phase_update hconf nofun)
        (by simp [Main.gotPayment])

end Orderly

theorem orderly_start (dataBuff : Frame) (location : Buf UInt8 12) (payment : D × D) :
    Orderly (.start dataBuff location payment) :=
  ⟨fun _ hmem => (nomatch hmem), ⟨.inl rfl, .nil, nofun⟩, fun _ hmem => (nomatch hmem)⟩

/-- **What the BBB sends**, in every run: on each connection a start and then an end
at most, and to the board no status but `ON` and `OFF`. -/
theorem frames_conform {dataBuff : Frame} {location : Buf UInt8 12} {payment : D × D}
    {ls : List (Label D)} {s : State D}
    (h : loop.Exec (fun _ _ => True) (.start dataBuff location payment) ls s) :
    (∀ frames ∈ (sockets s.actions).before ++ [(sockets s.actions).current], Conforms frames) ∧
      ∀ byte, .uart1 [byte] ∈ s.actions → byte = AppStatus.on ∨ byte = AppStatus.off := by
  have hJ : Orderly s := h.invariant (orderly_start dataBuff location payment)
    fun _ _ _ _ hJ hs => orderly_step hJ hs
  refine ⟨fun frames hmem => ?_, hJ.written⟩
  rcases List.mem_append.mp hmem with hmem | hmem
  · exact hJ.before frames hmem
  · rw [List.mem_singleton.mp hmem]
    have hphase := hJ.phase
    unfold Phase at hphase
    split at hphase
    · exact hphase.2.1
    · obtain ⟨-, -, f, hcur, hf⟩ := hphase
      exact hcur ▸ .start hf
    · exact hphase.2.2
    · exact hphase
    · exact hphase

/-- The board's answers to a start and to an end. -/
def startBytes : List UInt8 := [1, 2, 0, 94, 16, 0, 1, 10, 20, 56]
def closeBytes : List UInt8 := [2, 2, 0, 94, 16, 0, 1, 90, 20, 46]

/-- A start is refused by the server, a press comes to nothing, a parking is started
and ended. -/
def refusedOnce : List (Label Int) :=
  [.press { uart := some startBytes },
   .location (some (ascii ['E', 'R', 'R', 'O', 'R'] ++ [0])) .sends,
    .press { uart := none }, .press { uart := some startBytes },
    .location (some (ascii ['H', 'e', 'r', 'z', 'l', 'i', 'y', 'a'] ++ [0])) .sends,
    .press { uart := some closeBytes }, .payment (some (2, 1))]

/-- The refused start has a connection of its own. -/
theorem frames_conform_after_refusal : ∃ s : State Int,
    ((sockets s.actions).before ++ [(sockets s.actions).current]).map (List.map Buf.toList)
        = [[], [startBytes], [startBytes, closeBytes]] ∧
      ∀ frames ∈ (sockets s.actions).before ++ [(sockets s.actions).current], Conforms frames := by
  have hrun : (loop.run (State.start (.fill 10 0) (.fill 12 0) (0, 0)) refusedOnce).map (fun s =>
      ((sockets s.actions).before ++ [(sockets s.actions).current]).map (List.map Buf.toList))
      = some [[], [startBytes], [startBytes, closeBytes]] := by decide +kernel
  obtain ⟨s, hs, hsent⟩ := Option.map_eq_some_iff.mp hrun
  exact ⟨s, hsent, (frames_conform (Lts.exec_of_run _ hs)).1⟩

/-! ## What the next press asks for -/

/-- The status that asks for a start if nobody parks, and for the end if somebody
does. -/
def asksFor : IsConnected → UInt8
  | .notConnected => AppStatus.on
  | .connected => AppStatus.off

/-- At the head of the loop the status is `ON` exactly if the BBB is not connected,
and a press asks the board for the right thing. -/
def RightButton (s : State D) : Prop :=
  s.main.pc = .head →
    (s.main.status = AppStatus.on ↔ s.main.connected = .notConnected) ∧
      ∀ env, (s.main.pressed env).2.head? = some (.uart1 [asksFor s.main.connected])

/-- A frame that keeps the button right, if `requested` was asked for: one that passes
the check carries the status asked for, or one that the end of the loop's body turns
into it; and the first byte of one that fails is `ON` exactly if `ON` was asked for. -/
def Keeps (requested : UInt8) (f : Frame) : Prop :=
  if f.crc = calculateCRC8 f.toList pangoDataSize then
    getStatus f = requested ∨ updatingStatusValue (getStatus f) = requested
  else getStatus f = AppStatus.on ↔ requested = AppStatus.on

/-- After every answer of the board, such a frame is in the buffer. -/
def BoardAnswers (s : State D) : Label D → Prop
  | .press env => ∀ bytes ∈ env.uart, Keeps s.main.status (s.main.dataBuff.write 0 bytes)
  | _ => True

section Button

variable {s s' : State D} {b : Main D}

/-- The first thing a press does is to ask the board. -/
theorem head_pressed (b : Main D) (env : Env) :
    (b.pressed env).2.head? = some (.uart1 [b.status]) := by
  have h := b.pressed_cases env
  generalize b.pressed env = r at h ⊢
  cases h <;> rfl

theorem rightButton_iff :
    RightButton s ↔ (s.main.pc = .head → s.main.status = asksFor s.main.connected) := by
  refine forall_congr' fun hpc =>
    ⟨fun ⟨_, hask⟩ => ?_, fun h => ⟨?_, fun env => by rw [head_pressed, h]⟩⟩
  · have hasked := hask { uart := none }
    rw [head_pressed] at hasked
    simpa using hasked
  · rw [h]
    cases s.main.connected <;> decide

theorem asks_exchanged (h : b.status = AppStatus.on) :
    b.exchanged.status = asksFor b.exchanged.connected := by
  rcases exchanged_cases h with ⟨-, hex⟩ | ⟨-, hex⟩ <;> rw [hex] <;> rfl

/-- After a frame that came to nothing, the toggle leads to the status asked for exactly if
the frame keeps the button right. -/
theorem toggle_iff {requested : UInt8} {f : Frame}
    (hone : requested = AppStatus.on ∨ requested = AppStatus.off) (hne : ¬ Request requested f) :
    updatingStatusValue (crc8Check f pangoDataSize (getStatus f)) = requested
      ↔ Keeps requested f := by
  unfold Keeps
  split_ifs with hv
  · rw [crc8Check_of_valid hv]
    exact ⟨.inr, fun h => h.resolve_left fun hget => hne ⟨hv, hget⟩⟩
  · have hon : updatingStatusValue AppStatus.stayOn = AppStatus.on := by decide
    have hoff : updatingStatusValue AppStatus.stayOff = AppStatus.off := by decide
    rw [crc8Check, if_pos hv]
    split_ifs with hget
    · rw [hon]
      exact ⟨fun h => iff_of_true hget h.symm, fun h => (h.mp hget).symm⟩
    · rw [hoff]
      rcases hone with h | h <;> rw [h]
      · exact ⟨fun h => absurd h (by decide), fun h => absurd (h.mpr rfl) hget⟩
      · exact ⟨fun _ => iff_of_false hget (by decide), fun _ => rfl⟩

/-- The status a press leaves at the head of the loop is the right one exactly if the
board's answer keeps the button right. -/
theorem asks_pressed (hst : b.status = asksFor b.connected) (env : Env) :
    ((b.pressed env).1.pc = .head → (b.pressed env).1.status = asksFor (b.pressed env).1.connected)
      ↔ ∀ bytes ∈ env.uart, Keeps b.status (b.dataBuff.write 0 bytes) := by
  have hone : b.status = AppStatus.on ∨ b.status = AppStatus.off := by
    rw [hst]
    cases b.connected <;> simp [asksFor]
  -- an answer is what is read, and one that asks for what was asked for keeps the button right
  have hread : ∀ {bytes}, env.uart = some bytes →
      ((∀ a ∈ env.uart, Keeps b.status (b.dataBuff.write 0 a))
        ↔ Keeps b.status (b.read bytes).dataBuff) := fun huart => by
    rw [huart]
    simp [Main.read]
  have hkept : ∀ {bytes}, env.uart = some bytes → (b.read bytes).status = b.status →
      ∀ a ∈ env.uart, Keeps b.status (b.dataBuff.write 0 a) := by
    intro bytes huart heq
    have hreq : Request b.status (b.read bytes).dataBuff := (crc8Check_eq_iff hone _).mp heq
    rw [hread huart, Keeps, if_pos hreq.1]
    exact .inl hreq.2
  have hon : ∀ {bytes}, b.Starts env bytes → (b.read bytes).status = b.status := fun h => by
    rw [h.on, hst, h.notConnected]
    rfl
  have hoff : ∀ {bytes}, b.Closes env bytes → (b.read bytes).status = b.status := fun h => by
    rw [h.off, hst, h.connected]
    rfl
  have h := b.pressed_cases env
  generalize b.pressed env = r at h ⊢
  cases h with
  | silent huart _ =>
    rw [huart]
    simpa using fun _ => hst
  | thirdSilent huart _ =>
    rw [huart]
    simp
  | unread _ hrecv =>
    rw [show receivedDataFromStm b.status = true from if_pos hone] at hrecv
    cases hrecv
  | startFails hstart _ _ =>
    exact iff_of_true (fun _ => asks_exchanged hstart.on) (hkept hstart.uart (hon hstart))
  | noSocket hstart _ | start hstart _ _ | startSignal hstart _ _ =>
    exact iff_of_true (by simp) (hkept hstart.uart (hon hstart))
  | close hclose _ | closeFails hclose _ | closeSignal hclose _ =>
    exact iff_of_true (by simp) (hkept hclose.uart (hoff hclose))
  | @nothing bytes hanswer hstart hclose =>
    -- nothing is exchanged: the status is what the check and the toggle leave
    have hne : ¬ Request b.status (b.read bytes).dataBuff := fun hreq => by
      have hst' : (b.read bytes).status = b.status := (crc8Check_eq_iff hone _).mpr hreq
      cases hb : b.connected with
      | notConnected => exact hstart ⟨hanswer, by rw [hst', hst, hb]; rfl, hb⟩
      | connected => exact hclose ⟨hanswer, by rw [hst', hst, hb]; rfl, hb⟩
    have hcon : (b.read bytes).update.connected = b.connected := rfl
    rw [hread hanswer.uart, ← toggle_iff hone hne, hcon, ← hst]
    exact forall_prop_of_true rfl

/-- **The button always means the right thing** exactly in the runs in which every
answer of the board keeps it right, whatever the server answers. -/
theorem right_button_iff (dataBuff : Frame) (location : Buf UInt8 12) (payment : D × D)
    (ls : List (Label D)) (s : State D) :
    loop.Exec (fun s _ => RightButton s) (.start dataBuff location payment) ls s ∧ RightButton s
      ↔ loop.Exec BoardAnswers (.start dataBuff location payment) ls s := by
  have horder : ∀ C : State D → Label D → Prop,
      loop.Exec C (.start dataBuff location payment) ls s →
      loop.Exec (fun s l => C s l ∧ Orderly s) (.start dataBuff location payment) ls s := fun C h =>
    (h.strengthen (orderly_start dataBuff location payment)
      fun _ _ _ _ hJ hs => orderly_step hJ hs).1
  have hinit : RightButton (.start dataBuff location payment) := rightButton_iff.mpr fun _ => rfl
  have hstep : ∀ (s : State D) l s', Orderly s → RightButton s → loop.step s l = some s' →
      (RightButton s' ↔ BoardAnswers s l) := by
    intro s l s' hJ hP hs
    rw [rightButton_iff]
    rcases step_cases hs with ⟨env, rfl, hpc, rfl⟩ | ⟨received, send, rfl, hpc, rfl⟩
      | ⟨received, rfl, hpc, rfl⟩
    · exact asks_pressed (rightButton_iff.mp hP hpc) env
    · -- whatever the server answers, the loop is back at its head with the right status
      have hphase := hJ.phase
      simp only [Phase, hpc] at hphase
      obtain ⟨location, hgot⟩ := Main.gotLocation_of_on hphase.1 received send
      have hst : { s.main with location }.status = AppStatus.on := hphase.1
      rw [hgot]
      exact iff_of_true (fun _ => asks_exchanged hst) trivial
    · have hphase := hJ.phase
      simp only [Phase, hpc] at hphase
      refine iff_of_true ?_ trivial
      cases received with
      | none => exact nofun
      | some payment =>
        refine fun _ => ?_
        simp only [Main.gotPayment, Main.update, hphase.1, updatingStatusValue_off, asksFor]
  have hiff : loop.Exec (fun s l => Orderly s ∧ BoardAnswers s l)
      (.start dataBuff location payment) ls s ↔
      loop.Exec (fun s _ => Orderly s ∧ RightButton s) (.start dataBuff location payment) ls s
        ∧ RightButton s := Lts.Exec.meets_iff hinit hstep
  constructor
  · rintro ⟨h, hs⟩
    exact (hiff.mpr ⟨(horder _ h).mono fun _ _ hC => hC.symm, hs⟩).mono fun _ _ hC => hC.2
  · intro h
    obtain ⟨h, hs⟩ := hiff.mp ((horder _ h).mono fun _ _ hC => hC.symm)
    exact ⟨h.mono fun _ _ hC => hC.2, hs⟩

end Button

/-- All calls to the server work, and its answers arrive whole. -/
def ServerAnswers : Label D → Prop
  | .press env => env.connect = .connects ∧ env.send = .sends
  | .location received send => send = .sends ∧
      ∃ text rest, (∀ c ∈ text, c ≠ 0) ∧ received = some (text ++ 0 :: rest)
  | .payment received => received ≠ none

/-- **A wrong button.**  It is not true that the button always means the right thing:
at the first press the board is asked for a start, the first byte of its answer is
damaged, and the check finds that out. -/
theorem wrong_button :
    ¬ ∀ (dataBuff : Frame) (location : Buf UInt8 12) (payment : Int × Int) (ls : List (Label Int))
      (s : State Int),
      loop.Exec (fun _ l => ServerAnswers l) (.start dataBuff location payment) ls s →
      RightButton s := by
  intro hclaim
  -- the answer with first byte 1 would have the check byte 56
  have hrun : (loop.step (State.start (D := Int) (.fill 10 0) (.fill 12 0) (0, 0))
      (.press { uart := some [3, 2, 0, 94, 16, 0, 1, 10, 20, 56] })).map (fun s =>
        (s.main.pc, s.main.status, s.main.connected))
          = some (.head, AppStatus.off, .notConnected) := by
    decide +kernel
  obtain ⟨s, hs, hparts⟩ := Option.map_eq_some_iff.mp hrun
  obtain ⟨hpc, hparts⟩ := Prod.mk.inj hparts
  obtain ⟨hst, hcon⟩ := Prod.mk.inj hparts
  have hworks : ServerAnswers
      (.press (D := Int) { uart := some [3, 2, 0, 94, 16, 0, 1, 10, 20, 56] }) :=
    ⟨rfl, rfl⟩
  have hright := hclaim _ _ _ _ s (.snoc .nil hworks hs) hpc
  rw [hst, hcon] at hright
  exact absurd hright.1 (by decide)

/-! ## Failures of the start exchange -/

/-- One iteration of the loop, with what `recv` returns if it comes to that. -/
def iteration (b : Main D) (env : Env) (received : Option (List UInt8)) (send : Sending) :
    Main D :=
  let b' := (b.pressed env).1
  if b'.pc = .location then (b'.gotLocation received send).1 else b'

/-- The iteration goes through the start exchange. -/
def Exchanges (b : Main D) (env : Env) : Prop :=
  receivedDataFromStm b.status = true ∧ ∃ bytes, env.uart = some bytes ∧
    alreadyConnectedToServerCheck (b.read bytes).status (b.read bytes).connected = .notConnected

/-- One of its calls returns -1: `connect`, or after it `send`, or after that `recv`. -/
def Fails (env : Env) (received : Option (List UInt8)) : Prop :=
  env.connect = .refused ∨
    env.connect = .connects ∧ (env.send = .fails ∨ env.send = .sends ∧ received = none)

theorem starts_of_exchanges {b : Main D} {env : Env} (h : Exchanges b env) :
    ∃ bytes, b.Starts env bytes := by
  obtain ⟨hrecv, bytes, huart, hask⟩ := h
  obtain ⟨hon, hnot⟩ := alreadyConnectedToServerCheck_eq_notConnected_iff.mp hask
  exact ⟨bytes, ⟨huart, hrecv⟩, hon, hnot⟩

/-- The loop goes on after every start exchange that does not end the process, and is connected
unless the location buffer holds the text `ERROR`, whatever its calls return. -/
theorem iteration_of_exchanges {b : Main D} {env : Env} (h : Exchanges b env)
    (received : Option (List UInt8)) (send : Sending) :
    (iteration b env received send).pc = .aborted ∨
      (iteration b env received send).pc = .head ∧
        ((iteration b env received send).connected = .connected
          ↔ cstr (iteration b env received send).location.toList
            ≠ ascii ['E', 'R', 'R', 'O', 'R']) := by
  obtain ⟨bytes, hstart⟩ := starts_of_exchanges h
  -- the exchange ends at the head of the loop, with the flag read off the buffer
  have hex : ∀ b : Main D, b.status = AppStatus.on → b.exchanged.pc = .head ∧
      (b.exchanged.connected = .connected
        ↔ cstr b.exchanged.location.toList ≠ ascii ['E', 'R', 'R', 'O', 'R']) := by
    intro b hst
    rcases exchanged_cases hst with ⟨hloc, h⟩ | ⟨hloc, h⟩ <;> rw [h]
    · exact ⟨rfl, iff_of_true rfl hloc⟩
    · exact ⟨rfl, iff_of_false (by simp) (not_not.mpr hloc)⟩
  unfold iteration
  rw [Main.pressed_of_starts hstart]
  by_cases hconnect : env.connect = .noSocket
  · rw [hconnect]
    exact .inl rfl
  · obtain ⟨returned, hreturned⟩ := connectToPangoServer_of_ne hconnect
    rw [hreturned]
    cases env.send with
    | sends =>
      have hon : { b.read bytes with pc := .location }.status = AppStatus.on := hstart.on
      obtain ⟨location, hgot⟩ := Main.gotLocation_of_on hon received send
      dsimp only
      rw [if_pos rfl, hgot]
      exact .inr (hex _ hstart.on)
    | fails =>
      dsimp only
      rw [if_neg (by rw [(hex _ hstart.on).1]; decide)]
      exact .inr (hex _ hstart.on)
    | signal => exact .inl rfl

/-- **No error exit.**  In an iteration that goes through the start exchange, a failing call
leads to the error exit exactly if no call fails. -/
theorem error_exit_iff {b : Main D} {env : Env} (h : Exchanges b env)
    (received : Option (List UInt8)) (send : Sending) :
    (Fails env received → (iteration b env received send).pc = .ended ∧
        (iteration b env received send).connected ≠ .connected)
      ↔ ¬ Fails env received := by
  refine ⟨fun hexit hfails => ?_, fun hno hfails => absurd hfails hno⟩
  have hended := (hexit hfails).1
  rcases iteration_of_exchanges h received send with hpc | ⟨hpc, -⟩ <;>
    rw [hpc] at hended <;> cases hended

/-- The first press is answered, the server is reached and the start is sent. -/
def reached : Env := { uart := some startBytes }

/-- The connection is lost before the location arrives. -/
def firstIteration : Main Int :=
  iteration { dataBuff := .fill 10 0, location := .fill 12 0, payment := (0, 0) }
  reached none .sends

theorem exchanges_reached : Exchanges (D := Int)
    { dataBuff := .fill 10 0, location := .fill 12 0, payment := (0, 0) } reached :=
  ⟨by decide, startBytes, rfl, by decide +kernel⟩

theorem fails_of_loss : Fails reached none := .inr ⟨rfl, .inr ⟨rfl, rfl⟩⟩

/-- The loss does not lead to the error exit. -/
theorem no_error_exit_of_loss :
    ¬ (firstIteration.pc = .ended ∧ firstIteration.connected ≠ .connected) := fun h =>
  (error_exit_iff exchanges_reached none .sends).mp (fun _ => h) fails_of_loss

/-- **A parking that never started.**  It is not true that a failing call leads to the
error exit: after the `recv` that returns -1 the BBB takes itself for connected. -/
theorem connected_of_loss :
    ¬ ∀ (b : Main Int) (env : Env) (received : Option (List UInt8)) (send : Sending),
      Exchanges b env →
      Fails env received → (iteration b env received send).pc = .ended ∧
        (iteration b env received send).connected ≠ .connected := by
  intro hclaim
  have hcon : firstIteration.connected = .connected := by decide +kernel
  exact (hclaim _ _ none .sends exchanges_reached fails_of_loss).2 hcon

end Pango.Bbb
