import Pango.Joint.Firmware
import Pango.Wire.Corruption

/-!
# Noise on the line of the board

The joint system has the board answer with a frame of its own, or not at all.  Here
the bytes the BBB reads are anything: damaged, cut short, late, or left over.  The
buffer keeps what they do not overwrite, and the status it is left with may be the
wrong one for the next press.

* `noisy` — the transition system.
* `Bearable` — a frame that passes the check and that the BBB acts on is one of its
  board; the BBB waits in vain for an answer twice at most.
* `System.undisturbed` — the system as if the BBB had read only what it acted on.
* `system_of_noisy` — **the check filters the noise**: what is heard of a run is a
  clean run of the joint system.
* `noisy_agreement` — so device and server agree.
* `bearable_of_corrupt` — an answer damaged by a burst or in two bits is bearable.
* `two_presses_suffice` — after any noise, two presses that the board answers do what
  one does without.
-/

namespace Pango.Joint

open Server (macKey selectMac clocks readings Stay ClocksInOrder sampleMac samplePrices)
open Stm (fillSendBuff)

variable {D : Type*}

/-! ## The transition system -/

/-- Who moves. -/
inductive NoisyLabel
  /-- The button is pressed, and the BBB reads these bytes, or nothing within a second; a
  connection, if one is opened, is accepted into the slot. -/
  | press (bytes : Option (List UInt8)) (slot : ℕ) (fd : Int)
  /-- Anything but the button. -/
  | other (l : Label)

/-- What is in the buffer of the BBB once it has read the bytes. -/
def System.buffered (sys : System D) (bytes : List UInt8) : Frame := sys.bbb.dataBuff.write 0 bytes

/-- The system with anything on the line between board and BBB. -/
def noisy [CDouble D] (cfg : Server.Config D) (m : Buf UInt8 6) : Lts (System D) NoisyLabel where
  step sys
    | .press bytes slot fd =>
      if sys.bbb.pc = .head then
        { sys with presses := sys.presses ++ [bytes.map sys.buffered] }.perform
          slot fd (sys.bbb.pressed { uart := bytes })
      else none
    | .other l => if l.isPress = true then none else (system cfg m).step sys l

/-- The frame passes the check, and asks for a start while the BBB is not connected or for an
end while it is. -/
def Heeded (b : Bbb.Main D) (f : Frame) : Prop := Bbb.Request (Bbb.asksFor b.connected) f

instance (b : Bbb.Main D) (f : Frame) : Decidable (Heeded b f) :=
  inferInstanceAs (Decidable (Bbb.Request _ _))

/-- A frame of the board, from within the map. -/
def Genuine (m : Buf UInt8 6) (f : Frame) : Prop := f.mac = m.toList ∧ f.x ≤ 127 ∧ f.y ≤ 127

instance (m : Buf UInt8 6) (f : Frame) : Decidable (Genuine m f) :=
  inferInstanceAs (Decidable (_ ∧ _ ∧ _))

/-- What the BBB acts on is a frame of its board, and finds the server at rest; there is
nothing to read twice at most; SQLite and sends work. -/
def Bearable (m : Buf UInt8 6) (sys : System D) : NoisyLabel → Prop
  | .press none _ _ => sys.presses.count none < 2
  | .press (some bytes) _ _ =>
    Heeded sys.bbb (sys.buffered bytes) → Rested sys ∧ Genuine m (sys.buffered bytes)
  | .other l => Clean sys l

instance (m : Buf UInt8 6) (sys : System D) : (l : NoisyLabel) → Decidable (Bearable m sys l)
  | .press none _ _ => inferInstanceAs (Decidable (_ < _))
  | .press (some _) _ _ => inferInstanceAs (Decidable (_ → _))
  | .other l => inferInstanceAs (Decidable (Clean _ l))

/-! ## What is heard -/

/-- What the joint system knows of a step. -/
def System.heard (sys : System D) : NoisyLabel → List Label
  | .press none _ _ => []
  | .press (some bytes) slot fd =>
    if Heeded sys.bbb (sys.buffered bytes) then
      [.press (some ((sys.buffered bytes).x, (sys.buffered bytes).y)) slot fd]
    else []
  | .other l => [l]

/-- The system as if the BBB had read the frames it acted on, and nothing else; at the start
there is `dataBuff` in its buffer. -/
def System.undisturbed (dataBuff : Frame) (sys : System D) : System D :=
  { sys with
    bbb := { sys.bbb with
      dataBuff := sys.sent.getLastD dataBuff
      status := if sys.bbb.pc = .head then Bbb.asksFor sys.bbb.connected else sys.bbb.status
      stmDataReceiveError := 0 }
    sendBuff := sys.sent.getLastD (.fill 10 0)
    presses := sys.sent.map some }

/-- What the noise cannot do to the BBB. -/
structure Composed (sys : System D) : Prop where
  asks : Asks sys.bbb
  payment : sys.bbb.pc = .payment → sys.bbb.status = Bbb.AppStatus.off
  silent : sys.bbb.stmDataReceiveError.toNat = sys.presses.count none ∧
    sys.presses.count none ≤ 2

/-! ### What the BBB makes of what it reads -/

section Read

variable {b : Bbb.Main D} {bytes : List UInt8}

theorem status_read_iff :
    (b.read bytes).status = Bbb.asksFor b.connected ↔ Heeded b (b.dataBuff.write 0 bytes) := by
  have hone : Bbb.asksFor b.connected = Bbb.AppStatus.on ∨
      Bbb.asksFor b.connected = Bbb.AppStatus.off := by
    cases b.connected
    · exact .inl rfl
    · exact .inr rfl
  exact Bbb.crc8Check_eq_iff hone _

theorem pressed_start (hrecv : Bbb.receivedDataFromStm b.status = true)
    (hcon : b.connected = .notConnected) (h : Heeded b (b.dataBuff.write 0 bytes)) :
    b.pressed { uart := some bytes } = ({ b.read bytes with pc := .location },
      [.uart1 [b.status], .connect true, .send (b.dataBuff.write 0 bytes) true]) := by
  have hst : (b.read bytes).status = Bbb.AppStatus.on := by
    rw [status_read_iff.mpr h, hcon]
    rfl
  exact Bbb.Main.pressed_of_starts ⟨⟨rfl, hrecv⟩, hst, hcon⟩

theorem pressed_end (hrecv : Bbb.receivedDataFromStm b.status = true)
    (hcon : b.connected = .connected) (h : Heeded b (b.dataBuff.write 0 bytes)) :
    b.pressed { uart := some bytes } = ({ b.read bytes with pc := .payment },
      [.uart1 [b.status], .send (b.dataBuff.write 0 bytes) true]) := by
  have hst : (b.read bytes).status = Bbb.AppStatus.off := by
    rw [status_read_iff.mpr h, hcon]
    rfl
  have hno : ¬ b.Starts { uart := some bytes } bytes := fun h => by
    cases hcon.symm.trans h.notConnected
  have hquit : Bbb.readyToQuit (b.read bytes).status (b.read bytes).connected = .quit :=
    Bbb.readyToQuit_eq_quit_iff.mpr ⟨hst, hcon⟩
  rw [Bbb.Main.pressed_of_not_starts ⟨rfl, hrecv⟩ hno, Bbb.Main.closeApp.eq_def, if_pos hquit]
  rfl

/-- A frame that is not heeded comes to nothing. -/
theorem pressed_unheeded (hrecv : Bbb.receivedDataFromStm b.status = true)
    (h : ¬ Heeded b (b.dataBuff.write 0 bytes)) :
    b.pressed { uart := some bytes } = ((b.read bytes).update, [.uart1 [b.status]]) := by
  have hst := mt status_read_iff.mp h
  have hno : ¬ b.Starts { uart := some bytes } bytes := fun h =>
    hst (by rw [h.on, h.notConnected]; rfl)
  have hquit : ¬ Bbb.readyToQuit (b.read bytes).status (b.read bytes).connected = .quit := by
    rw [Bbb.readyToQuit_eq_quit_iff]
    rintro ⟨hoff, hcon⟩
    have hcon' : b.connected = .connected := hcon
    exact hst (by rw [hoff, hcon']; rfl)
  rw [Bbb.Main.pressed_of_not_starts ⟨rfl, hrecv⟩ hno, Bbb.Main.closeApp.eq_def, if_neg hquit]

end Read

/-! ### A press -/

section Press

variable {m : Buf UInt8 6} {sys u : System D} (dataBuff : Frame) {bytes : List UInt8} {slot : ℕ}
  {fd : Int}

theorem composed_start [CDouble D] (dataBuff : Frame) (location : Buf UInt8 12) (payment : D × D)
    (rows : List Server.Row) : Composed (.start dataBuff location payment rows) where
  asks := ⟨fun _ => .inl rfl, fun h => (nomatch h)⟩
  payment h := nomatch h
  silent := ⟨rfl, by simp [System.start]⟩

/-- At the head of the loop the BBB listens to the board. -/
theorem Composed.listens (h : Composed sys) (hpc : sys.bbb.pc = .head) :
    Bbb.receivedDataFromStm sys.bbb.status = true := if_pos (h.asks.head hpc)

/-- A frame of the board is what the board makes of its own data. -/
theorem fillSendBuff_of_genuine {status : UInt8} {f : Frame} (hf : Bbb.Request status f)
    (hg : Genuine m f) (b : Frame) : fillSendBuff ⟨status, m, f.x, f.y⟩ b = f := by
  obtain ⟨hv, hst⟩ := hf
  obtain ⟨hmac, -, -⟩ := hg
  refine Buf.ext' ?_
  have hpay : Stm.payload ⟨status, m, f.x, f.y⟩ = f.toList.take 9 := by
    rw [Stm.payload, ← hmac, ← hst]
    obtain ⟨s, m₀, m₁, m₂, m₃, m₄, m₅, x, y, c, rfl⟩ := f.exists_bytes
    rfl
  have hcrc : f.crc = crcLoop crcPolynomial (f.toList.take 9) := hv
  rw [Stm.fillSendBuff_toList, hpay, ← hcrc]
  obtain ⟨s, m₀, m₁, m₂, m₃, m₄, m₅, x, y, c, rfl⟩ := f.exists_bytes
  rfl

theorem answer_undisturbed (hpc : sys.bbb.pc = .head)
    (hyes : Heeded sys.bbb (sys.buffered bytes)) (hg : Genuine m (sys.buffered bytes)) :
    (sys.undisturbed dataBuff).answer m (some ((sys.buffered bytes).x, (sys.buffered bytes).y))
      = some (sys.buffered bytes) := by
  have hst : (sys.undisturbed dataBuff).bbb.status = Bbb.asksFor sys.bbb.connected := if_pos hpc
  rw [System.answer, Option.map_some, hst, fillSendBuff_of_genuine hyes hg]

theorem count_answered (presses : List (Option Frame)) (f : Frame) :
    (presses ++ [some f]).count none = presses.count none := by
  simp [List.count_append]

variable [CDouble D] {cfg : Server.Config D}

theorem silent_step (hK : Composed sys) (hB : Bearable m sys (.press none slot fd))
    (hs : (noisy cfg m).step sys (.press none slot fd) = some u) :
    Composed u ∧ u.undisturbed dataBuff = sys.undisturbed dataBuff := by
  simp only [noisy] at hs
  split_ifs at hs with hpc
  obtain ⟨herr, -⟩ := hK.silent
  have hcount : sys.presses.count none < 2 := hB
  have hnext : (sys.bbb.stmDataReceiveError + 1).toNat = sys.presses.count none + 1 := by
    rw [UInt8.toNat_add, herr, show (1 : UInt8).toNat = 1 from rfl]
    omega
  have hne : sys.bbb.stmDataReceiveError + 1 ≠ Bbb.AppStatus.restart := by
    intro heq
    rw [heq, show Bbb.AppStatus.restart.toNat = 3 from rfl] at hnext
    omega
  rw [Bbb.Main.pressed_none hne] at hs
  cases hs
  refine ⟨⟨⟨hK.asks.head, hK.asks.location⟩, hK.payment, ?_⟩, rfl⟩
  simp only [Option.map_none, List.count_append, List.count_singleton_self]
  exact ⟨hnext, by omega⟩

/-- What is not acted on leaves its bytes in the buffer and a status behind. -/
theorem unheeded_press (hK : Composed sys) (hpc : sys.bbb.pc = .head)
    (hno : ¬ Heeded sys.bbb (sys.buffered bytes)) :
    (noisy cfg m).step sys (.press (some bytes) slot fd) = some { sys with
      bbb := (sys.bbb.read bytes).update
      presses := sys.presses ++ [some (sys.buffered bytes)] } := by
  simp only [noisy, if_pos hpc]
  rw [pressed_unheeded (hK.listens hpc) hno]
  rfl

theorem unheeded_step (hK : Composed sys) (hno : ¬ Heeded sys.bbb (sys.buffered bytes))
    (hs : (noisy cfg m).step sys (.press (some bytes) slot fd) = some u) :
    Composed u ∧ u.undisturbed dataBuff = sys.undisturbed dataBuff := by
  have hpc : sys.bbb.pc = .head := by
    by_contra hpc
    simp [noisy, hpc] at hs
  rw [unheeded_press hK hpc hno] at hs
  cases hs
  have hhead : (sys.bbb.read bytes).update.pc = .head := rfl
  refine ⟨⟨⟨fun _ => Bbb.status_update _, fun h => absurd (hhead.symm.trans h) (by decide)⟩,
    fun h => absurd (hhead.symm.trans h) (by decide), ?_⟩, ?_⟩
  · rw [count_answered]
    exact hK.silent
  · simp only [System.undisturbed, Bbb.Main.update, Bbb.Main.read, hpc, if_true]

theorem heeded_step (hK : Composed sys) (hyes : Heeded sys.bbb (sys.buffered bytes))
    (hg : Genuine m (sys.buffered bytes))
    (hs : (noisy cfg m).step sys (.press (some bytes) slot fd) = some u) :
    Composed u ∧ (system cfg m).step (sys.undisturbed dataBuff)
      (.press (some ((sys.buffered bytes).x, (sys.buffered bytes).y)) slot fd)
        = some (u.undisturbed dataBuff) := by
  simp only [noisy] at hs
  split_ifs at hs with hpc
  have hlisten := hK.listens hpc
  have hread : (sys.bbb.read bytes).status = Bbb.asksFor sys.bbb.connected :=
    status_read_iff.mpr hyes
  have hst : (sys.undisturbed dataBuff).bbb.status = Bbb.asksFor sys.bbb.connected := if_pos hpc
  have hpc' : (sys.undisturbed dataBuff).bbb.pc = .head := hpc
  obtain ⟨hv, hget⟩ := hyes
  simp only [system, if_pos hpc', answer_undisturbed dataBuff hpc ⟨hv, hget⟩ hg, Option.map_some,
    Option.getD_some]
  -- the frame is the last one sent, on either side
  have hsilent : sys.bbb.stmDataReceiveError.toNat
      = (sys.presses ++ [some (sys.buffered bytes)]).count none ∧
        (sys.presses ++ [some (sys.buffered bytes)]).count none ≤ 2 := by
    rw [count_answered]
    exact hK.silent
  cases hcon : sys.bbb.connected with
  | notConnected =>
    have hcon' : (sys.bbb.read bytes).connected = .notConnected := hcon
    rw [hcon] at hread hst hget
    rw [Bbb.Main.pressed_on hst hcon hv hget]
    rw [pressed_start hlisten hcon ⟨hv, hcon ▸ hget⟩] at hs
    simp only [System.perform, List.foldlM, System.act, Option.pure_def, Option.bind_eq_bind,
      Option.bind_some, true_and, if_true] at hs ⊢
    split_ifs at hs with hslot
    · have hslot' : (sys.undisturbed dataBuff).server.thread slot = none := hslot
      rw [if_pos hslot']
      cases hs
      refine ⟨⟨⟨fun h => absurd h (by simp), fun _ => hread⟩, fun h => absurd h (by simp),
        hsilent⟩, ?_⟩
      simp only [System.undisturbed, List.getLastD_concat, List.map_append, hpc, hcon, hcon', hread]
      rfl
    · cases hs
  | connected =>
    have hcon' : (sys.bbb.read bytes).connected = .connected := hcon
    rw [hcon] at hread hst hget
    rw [Bbb.Main.pressed_off hst hcon hv hget]
    rw [pressed_end hlisten hcon ⟨hv, hcon ▸ hget⟩] at hs
    simp only [System.perform, List.foldlM, System.act, Option.pure_def, Option.bind_eq_bind,
      Option.bind_some, if_true] at hs ⊢
    cases hs
    refine ⟨⟨asks_of_other (by simp) (by simp), fun _ => hread, hsilent⟩, ?_⟩
    simp only [System.undisturbed, List.getLastD_concat, List.map_append, hpc, hcon, hcon', hread]
    rfl

end Press

/-! ### Any other step -/

section Other

variable {sys u : System D} (dataBuff : Frame)

/-- The location is read whole, and the loop goes on. -/
theorem gotLocation_read {b : Bbb.Main D} (hst : b.status = Bbb.AppStatus.on)
    (bytes : List UInt8) : b.gotLocation (some bytes) .sends
      = ({ b with location := b.location.write 0 bytes }.exchanged, []) := by
  have hst' : { b with location := b.location.write 0 bytes }.status = Bbb.AppStatus.on := hst
  exact Bbb.Main.afterExchange_of_on hst' 0 .sends

/-- Off the head of the loop, the noise is in the buffer and the counter only. -/
theorem undisturbed_bbb (hpc : sys.bbb.pc ≠ .head) : (sys.undisturbed dataBuff).bbb =
    { sys.bbb with dataBuff := sys.sent.getLastD dataBuff, stmDataReceiveError := 0 } := by
  simp only [System.undisturbed, if_neg hpc]

variable [CDouble D] {cfg : Server.Config D} {m : Buf UInt8 6}

/-- The answers of the server find the BBB where they find it without the noise. -/
theorem receive_step (hK : Composed sys) (hs : (system cfg m).step sys .receive = some u) :
    Composed u ∧ (system cfg m).step (sys.undisturbed dataBuff) .receive
      = some (u.undisturbed dataBuff) := by
  simp only [system] at hs
  split at hs
  · rename_i reply rest hpc hq
    obtain ⟨bytes, hbytes, hs⟩ := Option.bind_eq_some_iff.mp hs
    have hst := hK.asks.location hpc
    have hne : sys.bbb.pc ≠ .head := by rw [hpc]; decide
    have hst' : (sys.undisturbed dataBuff).bbb.status = Bbb.AppStatus.on := by
      rw [undisturbed_bbb dataBuff hne]
      exact hst
    have hask := Bbb.asks_exchanged
      (b := { sys.bbb with location := sys.bbb.location.write 0 bytes }) hst
    have hhead : ({ sys.bbb with location := sys.bbb.location.write 0 bytes } :
      Bbb.Main D).exchanged.pc = .head := rfl
    rw [gotLocation_read hst] at hs
    cases hs
    refine ⟨⟨asks_exchanged _, fun h => absurd (hhead.symm.trans h) (by decide), hK.silent⟩, ?_⟩
    have hpc' : (sys.undisturbed dataBuff).bbb.pc = .location := hpc
    have hq' : (sys.undisturbed dataBuff).toClient (sys.undisturbed dataBuff).socket
      = reply :: rest := hq
    simp only [system, hpc', hq', hbytes, Option.bind_some, gotLocation_read hst']
    rw [undisturbed_bbb dataBuff hne]
    simp only [System.undisturbed, System.perform, hhead, if_true, ← hask]
    rfl
  · rename_i price seconds rest hpc hq
    have hst := hK.payment hpc
    have hne : sys.bbb.pc ≠ .head := by rw [hpc]; decide
    have hpc' : (sys.undisturbed dataBuff).bbb.pc = .payment := hpc
    have hq' : (sys.undisturbed dataBuff).toClient (sys.undisturbed dataBuff).socket
      = .payment price seconds :: rest := hq
    simp only [Bbb.Main.gotPayment] at hs
    cases hs
    refine ⟨⟨asks_update _, fun h => ?_, hK.silent⟩, ?_⟩
    · cases h
    · simp only [system, hpc', hq', Bbb.Main.gotPayment]
      rw [undisturbed_bbb dataBuff hne]
      simp only [System.undisturbed, System.perform, Bbb.Main.update, hst,
        Bbb.updatingStatusValue_off, if_true]
      rfl
  · cases hs

/-- Server and backup do not look at the BBB. -/
theorem other_step {l : Label} (hK : Composed sys) (hC : Clean sys l)
    (hs : (noisy cfg m).step sys (.other l) = some u) :
    Composed u ∧ Clean (sys.undisturbed dataBuff) l ∧
      (system cfg m).step (sys.undisturbed dataBuff) l = some (u.undisturbed dataBuff) := by
  simp only [noisy] at hs
  split_ifs at hs with hpress
  cases l with
  | press => exact absurd rfl hpress
  | receive =>
    obtain ⟨hK', hstep⟩ := receive_step dataBuff hK hs
    exact ⟨hK', trivial, hstep⟩
  | client i env =>
    obtain ⟨t, ht, hs⟩ := Option.bind_eq_some_iff.mp hs
    obtain ⟨fetched, hfetch, hs⟩ := Option.bind_eq_some_iff.mp hs
    obtain ⟨r, hr, rfl⟩ := Option.map_eq_some_iff.mp hs
    refine ⟨⟨⟨hK.asks.head, hK.asks.location⟩, hK.payment, hK.silent⟩, hC, ?_⟩
    refine Option.bind_eq_some_iff.mpr ⟨t, ht, Option.bind_eq_some_iff.mpr ⟨fetched, hfetch, ?_⟩⟩
    exact Option.map_eq_some_iff.mpr ⟨r, hr, rfl⟩
  | backup clock sqlFails =>
    cases hs
    exact ⟨⟨⟨hK.asks.head, hK.asks.location⟩, hK.payment, hK.silent⟩, hC, rfl⟩

end Other

/-! ## The check filters the noise -/

section Run

variable [CDouble D] {cfg : Server.Config D} {m : Buf UInt8 6} {sys u : System D}
  {dataBuff : Frame} {location : Buf UInt8 12} {payment : D × D} {rows : List Server.Row}
  {ls : List NoisyLabel}

/-- What is heard of a bearable step is a clean run of the joint system, of one step or none. -/
theorem heard_step (dataBuff : Frame) {l : NoisyLabel} (hK : Composed sys) (hB : Bearable m sys l)
    (hs : (noisy cfg m).step sys l = some u) :
    Composed u ∧ (system cfg m).Exec Clean (sys.undisturbed dataBuff) (sys.heard l)
      (u.undisturbed dataBuff) := by
  cases l with
  | press bytes slot fd =>
    cases bytes with
    | none =>
      obtain ⟨hK', hsame⟩ := silent_step dataBuff hK hB hs
      exact ⟨hK', hsame ▸ .nil⟩
    | some bytes =>
      simp only [System.heard]
      split_ifs with hyes
      · obtain ⟨hrest, hg⟩ := hB hyes
        obtain ⟨hK', hstep⟩ := heeded_step dataBuff hK hyes hg hs
        refine ⟨hK', .single ⟨hrest, fun c hc => ?_, fun hno => ?_⟩ hstep⟩
        · cases hc
          exact hg.2
        · cases hno
      · obtain ⟨hK', hsame⟩ := unheeded_step dataBuff hK hyes hs
        exact ⟨hK', hsame ▸ .nil⟩
  | other l =>
    obtain ⟨hK', hclean, hstep⟩ := other_step dataBuff hK hB hs
    exact ⟨hK', .single hclean hstep⟩

/-- The noise never gets the BBB out of its ways. -/
theorem composed_step {l : NoisyLabel} (hK : Composed sys) (hB : Bearable m sys l)
    (hs : (noisy cfg m).step sys l = some u) : Composed u :=
  (heard_step sys.bbb.dataBuff hK hB hs).1

theorem composed_of_exec
    (h : (noisy cfg m).Exec (Bearable m) (.start dataBuff location payment rows) ls sys) :
    Composed sys :=
  h.invariant (composed_start dataBuff location payment rows)
    fun _ _ _ hB hK hs => composed_step hK hB hs

/-- **The check filters the noise.**  What is heard of a bearable run is a clean run of the
joint system, to the state as it would be without the noise. -/
theorem system_of_noisy {heard : List Label}
    (h : ((noisy cfg m).watched (Lts.writeDown System.heard)).Exec (fun p l => Bearable m p.1 l)
      (.start dataBuff location payment rows, []) ls (sys, heard)) :
    (system cfg m).Exec Clean (.start dataBuff location payment rows) heard
      (sys.undisturbed dataBuff) := by
  have hrun := (h.strengthen (I := fun p => Composed p.1)
    (composed_start dataBuff location payment rows)
    fun p l q hB hK hs => composed_step hK hB (Lts.watched_step hs).1).1
  exact Lts.Exec.refines (C := fun sys l => Bearable m sys l ∧ Composed sys) hrun
    (System.undisturbed dataBuff) fun t l u hC hs => (heard_step dataBuff hC.2 hC.1 hs).2

/-- What device and server agree on whatever has been on the line. -/
structure Settled (m : Buf UInt8 6) (sys : System D) : Prop where
  /-- At the head of the loop, with the server at rest, flag, table and slot say the same. -/
  rested : sys.bbb.pc = .head → Rested sys →
    (sys.bbb.connected = .connected ↔ selectMac (macKey m) sys.server.yourTable ≠ []) ∧
      (selectMac (macKey m) sys.server.yourTable ≠ [] ↔
        (sys.server.client sys.socket).connected = true)
  /-- What has been sent asks for a start and for an end in turn. -/
  inTurn : sys.sent.map Frame.status = toggles sys.sent.length
  /-- The receipts show the differences of the pairs of readings the server took at a start
  and at the end after it, from the first pair on. -/
  receipts : ∃ stays : List Stay,
    sys.receipts.map Prod.snd = stays.map (fun s => CDouble.ofInt (s.stop - s.start)) ∧
      stays.flatMap Stay.readings <+: readings (sys.record m)

theorem reduceOption_map_some {α : Type*} (l : List α) : (l.map some).reduceOption = l := by
  rw [List.reduceOption, List.filterMap_map]
  exact List.filterMap_some

/-- **Device and server agree through the noise**, in every bearable run from a table without a
row for the device, with clock readings that do not decrease and fit an `int`. -/
theorem noisy_agreement
    (h : (noisy cfg m).Exec (Bearable m) (.start dataBuff location payment rows) ls sys)
    (hrows : selectMac (macKey m) rows = []) (hclock : ClocksInOrder (sys.record m)) :
    Settled m sys := by
  obtain ⟨heard, hw⟩ : ∃ heard, ((noisy cfg m).watched (Lts.writeDown System.heard)).Exec
      (fun p l => Bearable m p.1 l) (.start dataBuff location payment rows, []) ls (sys, heard) :=
    h.watch []
  have hA : Agreement m (sys.undisturbed dataBuff) :=
    agreement_of_bond (bond_of_exec (system_of_noisy hw) hrows) hclock
  refine ⟨fun hpc hrest => ?_, ?_, hA.receipts⟩
  · have hst : (sys.undisturbed dataBuff).bbb.status = Bbb.asksFor sys.bbb.connected := if_pos hpc
    obtain ⟨hrow, hslot⟩ := hA.rested hpc hrest
    refine ⟨?_, hslot⟩
    rw [← show (sys.undisturbed dataBuff).server.yourTable = sys.server.yourTable from rfl, ← hrow,
      hst]
    cases sys.bbb.connected <;> decide
  · have hturn := hA.inTurn.1
    have hpresses : (sys.undisturbed dataBuff).presses = sys.sent.map some := rfl
    rw [hpresses, reduceOption_map_some] at hturn
    exact hturn

end Run

/-- The bytes of the board's answer to a status. -/
def boardBytes (status x y : UInt8) : List UInt8 :=
  (fillSendBuff ⟨status, sampleMac, x, y⟩ (.fill 10 0)).toList

/-- A whole parking in slot `i`, from `a` to `b`: noise and a silent press before it, so that
the board is asked for an end and the start needs a second press; an empty read and a flipped
bit in it. -/
def parkNoisy (i : ℕ) (a b : Int) : List NoisyLabel :=
  [.press (some (List.replicate 10 0)) i 4, .press none i 4,
    .press (some (boardBytes Bbb.AppStatus.off 10 20)) i 4,
    .press (some (boardBytes Bbb.AppStatus.on 10 20)) i 4,
    .other (.client i {}), .other (.client i {}), .other (.client i {}),
    .other (.client i { now := a }), .other (.client i {}), .other (.client i {}),
    .other .receive, .other (.client i {}),
    .press (some []) i 4,
    .press (some (corrupt (boardBytes Bbb.AppStatus.off 90 20) (0 :: 16 :: .replicate 8 0))) i 4,
    .press (some (boardBytes Bbb.AppStatus.off 90 20)) i 4,
    .other (.client i {}), .other (.client i {}), .other (.client i { now := b }),
    .other (.client i {}), .other .receive, .other (.client i {}), .other (.client i {})]

/-- A parking through the noise. -/
theorem noisy_agreement_of_parking : ∃ sys : System Int, sys.receipts = [(120, 60)] ∧
    Settled sampleMac sys := by
  have hrun : ((noisy samplePrices sampleMac).runIf (Bearable sampleMac)
      (.start (.fill 10 0) (.fill 12 0) (0, 0) []) (parkNoisy 0 100 160)).map (fun sys =>
        (sys.receipts, clocks (sys.record sampleMac)))
      = some ([(120, 60)], [100, 160]) := by decide +kernel
  obtain ⟨sys, hs, hparts⟩ := Option.map_eq_some_iff.mp hrun
  obtain ⟨hreceipts, hclocks⟩ := Prod.mk.inj hparts
  refine ⟨sys, hreceipts, noisy_agreement (Lts.exec_of_runIf _ hs) rfl ?_⟩
  rw [ClocksInOrder, hclocks]
  decide

/-! ## What the check keeps out, and what gets through -/

/-- **A damaged answer is bearable**, in every state: a frame that passes the check, with a burst
of up to eight bits or any two bits of it flipped, is never acted on. -/
theorem bearable_of_corrupt {f : Frame} {e : List UInt8} (hf : Server.CrcValid f)
    (hlen : e.length = 10) (hne : ∃ b ∈ e, b ≠ 0) (hshape : Burst e ∨ TwoBits 80 e)
    (m : Buf UInt8 6) (sys : System D) (slot : ℕ) (fd : Int) :
    Bearable m sys (.press (some (corrupt f.toList e)) slot fd) := by
  have hlength : (corrupt f.toList e).length = 10 := by simp [corrupt, f.length_eq, hlen]
  have hshape' : Burst e ∨ TwoBits 255 e := by
    rcases hshape with hburst | ⟨p, q, hpq, hdist, hq, hl⟩
    · exact .inl hburst
    · exact .inr ⟨p, q, hpq, hdist.trans (by decide), hq, hl⟩
  have hbuff : sys.buffered (corrupt f.toList e) = ⟨corrupt f.toList e, hlength⟩ :=
    Buf.write_full sys.bbb.dataBuff ⟨corrupt f.toList e, hlength⟩
  intro hyes
  refine absurd ?_ (not_crcValid_corrupt hf hlen hne hshape' (g := ⟨_, hlength⟩) rfl)
  rw [← hbuff]
  exact hyes.1

section Heal

variable (m : Buf UInt8 6) {sys : System D} (coordinates : System D → UInt8 × UInt8) (slot : ℕ)
  (fd : Int)

/-- The frame the board makes of the status it is sent. -/
def System.boardFrame (m : Buf UInt8 6) (coordinates : System D → UInt8 × UInt8)
    (sys : System D) : Frame :=
  fillSendBuff ⟨sys.bbb.status, m, (coordinates sys).1, (coordinates sys).2⟩ sys.sendBuff

/-- The press that the board answers, and whose answer is read whole. -/
def System.answered (m : Buf UInt8 6) (coordinates : System D → UInt8 × UInt8) (slot : ℕ)
    (fd : Int) (sys : System D) : NoisyLabel :=
  .press (some (sys.boardFrame m coordinates).toList) slot fd

theorem buffered_boardFrame :
    sys.buffered (sys.boardFrame m coordinates).toList = sys.boardFrame m coordinates :=
  Buf.write_full _ _

/-- The BBB acts on the answer exactly if it has asked for the right thing. -/
theorem heeded_boardFrame_iff :
    Heeded sys.bbb (sys.boardFrame m coordinates)
      ↔ sys.bbb.status = Bbb.asksFor sys.bbb.connected := by
  have hst : Bbb.getStatus (sys.boardFrame m coordinates) = sys.bbb.status :=
    Stm.status_fillSendBuff _ _
  have hv : (sys.boardFrame m coordinates).crc
      = Bbb.calculateCRC8 (sys.boardFrame m coordinates).toList Bbb.pangoDataSize :=
    Stm.crc_fillSendBuff _ _
  rw [Heeded, Bbb.Request, hst, and_iff_right hv]

/-- An answer of the board is bearable at rest. -/
theorem bearable_answered {coordinates : System D → UInt8 × UInt8}
    (hmap : ∀ s, (coordinates s).1 ≤ 127 ∧ (coordinates s).2 ≤ 127)
    (hrest : Rested sys) : Bearable m sys (sys.answered m coordinates slot fd) := by
  intro _
  rw [buffered_boardFrame]
  refine ⟨hrest, Stm.mac_fillSendBuff _ _, ?_, ?_⟩
  · exact (Stm.x_fillSendBuff _ _).symm ▸ (hmap sys).1
  · exact (Stm.y_fillSendBuff _ _).symm ▸ (hmap sys).2

variable [CDouble D] (cfg : Server.Config D)

/-- The answer to the right request is sent to the server. -/
theorem answered_right (hK : Composed sys) (hpc : sys.bbb.pc = .head)
    (hslot : sys.bbb.connected = .notConnected → sys.server.thread slot = none)
    (hst : sys.bbb.status = Bbb.asksFor sys.bbb.connected) :
    ∃ u, (noisy cfg m).step sys (sys.answered m coordinates slot fd) = some u ∧
      u.sent = sys.sent ++ [sys.boardFrame m coordinates] := by
  have hwrite : (sys.bbb.dataBuff.write 0 (sys.boardFrame m coordinates).toList : Frame)
      = sys.boardFrame m coordinates := buffered_boardFrame m coordinates
  have hyes : Heeded sys.bbb
      (sys.bbb.dataBuff.write 0 (sys.boardFrame m coordinates).toList) := by
    rw [hwrite]
    exact (heeded_boardFrame_iff m coordinates).mpr hst
  simp only [noisy, System.answered, if_pos hpc]
  cases hcon : sys.bbb.connected with
  | notConnected =>
    rw [pressed_start (hK.listens hpc) hcon hyes, hwrite]
    simp only [System.perform, List.foldlM, System.act, Option.pure_def, Option.bind_eq_bind,
      Option.bind_some, true_and, if_pos (hslot hcon), if_true]
    exact ⟨_, rfl, rfl⟩
  | connected =>
    rw [pressed_end (hK.listens hpc) hcon hyes, hwrite]
    simp only [System.perform, List.foldlM, System.act, Option.pure_def, Option.bind_eq_bind,
      Option.bind_some, if_true]
    exact ⟨_, rfl, rfl⟩

/-- The answer to the wrong request is for nothing, but it sets the button right. -/
theorem answered_wrong (hK : Composed sys) (hpc : sys.bbb.pc = .head)
    (hst : sys.bbb.status ≠ Bbb.asksFor sys.bbb.connected) :
    ∃ u, (noisy cfg m).step sys (sys.answered m coordinates slot fd) = some u ∧
      u.sent = sys.sent ∧ u.server = sys.server ∧ u.toServer = sys.toServer ∧
      u.socket = sys.socket ∧ u.bbb.pc = .head ∧ u.bbb.connected = sys.bbb.connected ∧
      u.bbb.status = Bbb.asksFor sys.bbb.connected := by
  have hwrite : (sys.bbb.dataBuff.write 0 (sys.boardFrame m coordinates).toList : Frame)
      = sys.boardFrame m coordinates := buffered_boardFrame m coordinates
  have hno : ¬ Heeded sys.bbb
      (sys.bbb.dataBuff.write 0 (sys.boardFrame m coordinates).toList) := by
    rw [hwrite]
    exact mt (heeded_boardFrame_iff m coordinates).mp hst
  -- the frame carries the status asked for, and the end of the loop's body toggles it
  have hread : (sys.bbb.read (sys.boardFrame m coordinates).toList).status = sys.bbb.status := by
    have hv : Server.CrcValid (sys.boardFrame m coordinates) := crcValid_fillSendBuff _ _
    have hget : Bbb.getStatus (sys.boardFrame m coordinates) = sys.bbb.status :=
      Stm.status_fillSendBuff _ _
    simp only [Bbb.Main.read, hwrite, Bbb.crc8Check_of_valid hv, hget]
  have htoggle : Bbb.updatingStatusValue sys.bbb.status = Bbb.asksFor sys.bbb.connected := by
    rcases hK.asks.head hpc with hon | hoff
    · cases hcon : sys.bbb.connected with
      | notConnected => exact absurd (by rw [hon, hcon]; rfl) hst
      | connected => rw [hon, Bbb.updatingStatusValue_on]; rfl
    · cases hcon : sys.bbb.connected with
      | notConnected => rw [hoff, Bbb.updatingStatusValue_off]; rfl
      | connected => exact absurd (by rw [hoff, hcon]; rfl) hst
  have hstep : (noisy cfg m).step sys (sys.answered m coordinates slot fd) = some _ :=
    unheeded_press hK hpc hno
  unfold System.answered at hstep ⊢
  generalize (sys.boardFrame m coordinates).toList = bytes at hstep hread
  have hupdate : (sys.bbb.read bytes).update.status
      = Bbb.updatingStatusValue (sys.bbb.read bytes).status := rfl
  refine ⟨_, hstep, rfl, rfl, rfl, rfl, rfl, rfl, ?_⟩
  rw [hupdate, hread, htoggle]

/-- **Two presses suffice.**  Whatever has been on the line, once the BBB waits at the head of
its loop and the server is at rest, the next presses that the board answers ask for what is
due, with the first of them if the button is right and with the second if it is not. -/
theorem two_presses_suffice {cfg : Server.Config D} {m : Buf UInt8 6} {dataBuff : Frame}
    {location : Buf UInt8 12} {payment : D × D} {rows : List Server.Row} {ls : List NoisyLabel}
    (h : (noisy cfg m).Exec (Bearable m) (.start dataBuff location payment rows) ls sys)
    (hpc : sys.bbb.pc = .head) (hrest : Rested sys)
    (hslot : sys.bbb.connected = .notConnected → sys.server.thread slot = none)
    (hmap : ∀ s, (coordinates s).1 ≤ 127 ∧ (coordinates s).2 ≤ 127) :
    ∃ ls' v f,
      (noisy cfg m).Exec (fun s l => Bearable m s l ∧ l = s.answered m coordinates slot fd)
        sys ls' v ∧
      ls'.length = (if sys.bbb.status = Bbb.asksFor sys.bbb.connected then 1 else 2) ∧
      v.sent = sys.sent ++ [f] ∧ Bbb.Request (Bbb.asksFor sys.bbb.connected) f ∧
      f.mac = m.toList := by
  have hK := composed_of_exec h
  have hB := bearable_answered m slot fd hmap hrest
  by_cases hst : sys.bbb.status = Bbb.asksFor sys.bbb.connected
  · obtain ⟨v, hv, hsent⟩ := answered_right m coordinates slot fd cfg hK hpc hslot hst
    refine ⟨[_], v, sys.boardFrame m coordinates, .cons ⟨hB, rfl⟩ hv .nil, ?_, hsent,
      (heeded_boardFrame_iff m coordinates).mpr hst, Stm.mac_fillSendBuff _ _⟩
    rw [if_pos hst, List.length_singleton]
  · obtain ⟨u, hu, hsent, hserver, hwire, hsocket, hpc', hcon, hst'⟩ :=
      answered_wrong m coordinates slot fd cfg hK hpc hst
    have hrest' : Rested u := by
      unfold Rested
      rw [hserver, hwire, hsocket]
      exact hrest
    have hright : u.bbb.status = Bbb.asksFor u.bbb.connected := by rw [hst', hcon]
    obtain ⟨v, hv, hsent'⟩ := answered_right m coordinates slot fd cfg (composed_step hK hB hu) hpc'
      (by rw [hserver, hcon]; exact hslot) hright
    refine ⟨[_, _], v, u.boardFrame m coordinates, .cons ⟨hB, rfl⟩ hu
      (.cons ⟨bearable_answered m slot fd hmap hrest', rfl⟩ hv .nil), ?_, by rw [hsent', hsent], ?_,
      Stm.mac_fillSendBuff _ _⟩
    · rw [if_neg hst]
      rfl
    · rw [← hcon]
      exact (heeded_boardFrame_iff m coordinates).mpr hright

end Heal

/-- Zeros are read at the first press: the next one asks for an end, and the one after it
for the start. -/
theorem two_presses_after_zeros : ∃ (sys v : System Int) (ls : List NoisyLabel) (f : Frame),
    (noisy samplePrices sampleMac).Exec (Bearable sampleMac)
      (.start (.fill 10 0) (.fill 12 0) (0, 0) []) [.press (some (List.replicate 10 0)) 0 4] sys ∧
    (noisy samplePrices sampleMac).Exec (fun s l => Bearable sampleMac s l ∧
      l = s.answered sampleMac (fun _ => (10, 20)) 0 4) sys ls v ∧
    ls.length = 2 ∧ v.sent = [f] ∧ Bbb.Request Bbb.AppStatus.on f := by
  have hrun : ((noisy samplePrices sampleMac).runIf (Bearable sampleMac)
      (.start (.fill 10 0) (.fill 12 0) (0, 0) []) [.press (some (List.replicate 10 0)) 0 4]).map
        (fun sys => ((sys.bbb.pc, sys.bbb.status, sys.bbb.connected), sys.sent,
          decide (Rested sys), decide (sys.server.thread 0 = none)))
      = some ((.head, Bbb.AppStatus.off, .notConnected), [], true, true) := by decide +kernel
  obtain ⟨sys, hs, hparts⟩ := Option.map_eq_some_iff.mp hrun
  obtain ⟨hbbb, hparts⟩ := Prod.mk.inj hparts
  obtain ⟨hpc, hbbb⟩ := Prod.mk.inj hbbb
  obtain ⟨hst, hcon⟩ := Prod.mk.inj hbbb
  obtain ⟨hsent, hparts⟩ := Prod.mk.inj hparts
  obtain ⟨hrest, hslot⟩ := Prod.mk.inj hparts
  have hexec := Lts.exec_of_runIf _ hs
  obtain ⟨ls, v, f, hanswered, hlen, hsent', hreq, -⟩ := two_presses_suffice (fun _ => (10, 20)) 0 4
    hexec hpc (of_decide_eq_true hrest) (fun _ => of_decide_eq_true hslot) fun _ => by decide
  refine ⟨sys, v, ls, f, hexec, hanswered, ?_, by rw [hsent', hsent]; rfl, ?_⟩
  · rw [hlen, hst, hcon]
    rfl
  · rw [hcon] at hreq
    exact hreq

end Pango.Joint
