import Pango.Bbb.Loop
import Pango.Joint.Agreement
import Pango.Stm.Echo

/-!
# The firmware in the place of the board

The joint system takes the board's answer for one step with the press.  Here the
board is its firmware: `main_PNG` goes on statement by statement, the interrupt
comes when the byte of the BBB arrives, the frame is on the line once it has been
transmitted, and the BBB reads it or gives up, while the server goes on.

* `wired` — the transition system.
* `Timely` — the button is pressed when the board waits, and the BBB gives up only
  on a byte that got lost.
* `Working` — statement by statement, what the firmware has made of the request.
* `system_of_wired` — **the firmware is the board**: every timely run is one of the
  joint system.
* `wired_agreement` — so device and server agree in it.
-/

namespace Pango.Joint

open Server (macKey selectMac clocks ClocksInOrder sampleMac samplePrices)
open Stm (Board PangoClientData fillSendBuff packPangoBuffer OnMap)

variable {D : Type*}

/-! ## The transition system -/

/-- The joint system, its board as firmware, and the line between board and BBB. -/
structure Wired (D : Type*) where
  sys : System D
  board : Board
  /-- Does the BBB wait for an answer of the board? -/
  asked : Bool
  /-- Transmitted by the board, and neither read nor flushed. -/
  line : List Frame

/-- Who moves. -/
inductive WiredLabel
  /-- The button is pressed; the BBB writes its status, which may get lost, and flushes what
  it has not read. -/
  | request (arrives : Bool)
  /-- A statement of `main_PNG`. -/
  | main (random : UInt32 × UInt32)
  /-- The BBB reads a frame, and goes on to its next wait. -/
  | answered (f : Frame) (slot : ℕ) (fd : Int)
  /-- A second has passed, and there is nothing to read. -/
  | silent (slot : ℕ) (fd : Int)
  /-- Anything but the button. -/
  | other (l : Label)

/-- The label is that of the button. -/
def Label.isPress : Label → Bool
  | .press .. => true
  | _ => false

namespace Wired

/-- Everything at its start; the board has got its MAC address. -/
def start [CDouble D] (m : Buf UInt8 6) (dataBuff : Frame) (location : Buf UInt8 12)
    (payment : D × D) (rows : List Server.Row) : Wired D where
  sys := .start dataBuff location payment rows
  board := .start m
  asked := false
  line := []

/-- The byte that the BBB writes reaches the board, if it waits for one. -/
def delivered (w : Wired D) (arrives : Bool) : Board :=
  if arrives = true ∧ w.board.armed = true ∧ w.board.pc ≠ .ended then
    w.board.received w.sys.bbb.status
  else w.board

/-- The BBB goes on with what it has read. -/
def returned (w : Wired D) (answer : Option Frame) (slot : ℕ) (fd : Int) : Option (System D) :=
  { w.sys with
    sendBuff := answer.getD w.sys.sendBuff, presses := w.sys.presses ++ [answer] }.perform
    slot fd (w.sys.bbb.pressed { uart := answer.map Buf.toList })

end Wired

/-- The system with the firmware. -/
def wired [CDouble D] (cfg : Server.Config D) (m : Buf UInt8 6) : Lts (Wired D) WiredLabel where
  step w
    | .request arrives =>
      if w.sys.bbb.pc = .head ∧ w.asked = false then
        some { w with board := w.delivered arrives, asked := true, line := [] }
      else none
    | .main random => (w.board.mainPng random).map fun b =>
        { w with
          board := b
          line := if w.board.pc = .transmit then w.line ++ [w.board.sendBuff] else w.line }
    | .answered f slot fd =>
      if w.asked = true ∧ w.line.head? = some f then
        (w.returned (some f) slot fd).map fun sys =>
          { w with sys, asked := false, line := w.line.tail }
      else none
    | .silent slot fd =>
      if w.asked = true then
        (w.returned none slot fd).map fun sys => { w with sys, asked := false }
      else none
    | .other l =>
      if l.isPress = true then none
      else ((system cfg m).step w.sys l).map fun sys => { w with sys }

/-- The board waits for a byte. -/
def Waits (b : Board) : Prop :=
  b.pc = .head ∧ b.interruptFlag = Stm.RestartFlag.off ∧ b.armed = true

instance (b : Board) : Decidable (Waits b) := inferInstanceAs (Decidable (_ ∧ _ ∧ _))

/-- The button is pressed when the board waits, the server at rest; the BBB gives up when the
byte got lost only, and twice at most; SQLite and sends work. -/
def Timely (w : Wired D) : WiredLabel → Prop
  | .request _ => Waits w.board
  | .main _ => True
  | .answered .. => Rested w.sys
  | .silent .. => Waits w.board ∧ w.line = [] ∧ Rested w.sys ∧ w.sys.presses.count none < 2
  | .other l => Clean w.sys l

instance (w : Wired D) : (l : WiredLabel) → Decidable (Timely w l)
  | .request _ => inferInstanceAs (Decidable (Waits _))
  | .main _ => isTrue trivial
  | .answered .. => inferInstanceAs (Decidable (Rested _))
  | .silent .. => inferInstanceAs (Decidable (_ ∧ _ ∧ _ ∧ _))
  | .other l => inferInstanceAs (Decidable (Clean _ l))

/-! ## What the BBB asks for -/

/-- At the head of its loop the BBB asks for `ON` or `OFF`, and it asks the server for a
location after an `ON` only. -/
structure Asks (b : Bbb.Main D) : Prop where
  head : b.pc = .head → b.status = Bbb.AppStatus.on ∨ b.status = Bbb.AppStatus.off
  location : b.pc = .location → b.status = Bbb.AppStatus.on

section Asks

variable {b : Bbb.Main D}

theorem asks_update (b : Bbb.Main D) : Asks b.update :=
  ⟨fun _ => Bbb.status_update b, fun h => (nomatch h)⟩

theorem asks_exchanged (b : Bbb.Main D) : Asks b.exchanged := asks_update _

theorem asks_of_other (hhead : b.pc ≠ .head) (hloc : b.pc ≠ .location) : Asks b :=
  ⟨fun h => absurd h hhead, fun h => absurd h hloc⟩

theorem asks_pressed (h : Asks b) (hpc : b.pc = .head) (env : Bbb.Env) :
    Asks (b.pressed env).1 := by
  have hpressed := b.pressed_cases env
  generalize b.pressed env = r at hpressed ⊢
  cases hpressed with
  | silent _ _ =>
    exact ⟨fun _ => h.head hpc, fun hloc => absurd (hpc.symm.trans hloc) (by decide)⟩
  | unread _ _ => exact asks_update b
  | start hstart _ _ => exact ⟨fun hno => absurd hno (by simp), fun _ => hstart.on⟩
  | startFails _ _ _ => exact asks_exchanged _
  | nothing _ _ _ => exact asks_update _
  | thirdSilent _ _ | noSocket _ _ | startSignal _ _ _ | close _ _ | closeFails _ _
    | closeSignal _ _ => exact asks_of_other (by simp) (by simp)

theorem asks_gotLocation (h : Asks b) (hpc : b.pc = .location) (received : Option (List UInt8))
    (send : Bbb.Sending) : Asks (b.gotLocation received send).1 := by
  obtain ⟨location, heq⟩ := Bbb.Main.gotLocation_of_on (h.location hpc) received send
  rw [heq]
  exact asks_exchanged _

theorem asks_gotPayment (b : Bbb.Main D) (payment : D × D) :
    Asks (b.gotPayment (some payment)).1 := asks_update _

end Asks

/-! ## What the actions of the BBB leave alone -/

section Perform

variable {sys t : System D} {slot : ℕ} {fd : Int}

theorem bbb_sendBuff_act {a : Bbb.Action D} (h : sys.act slot fd a = some t) :
    t.bbb = sys.bbb ∧ t.sendBuff = sys.sendBuff := by
  cases a with
  | connect ok | send f ok =>
    simp only [System.act] at h
    split_ifs at h
    cases h
    exact ⟨rfl, rfl⟩
  | uart1 | finalPriceForCostumer | close =>
    cases h
    exact ⟨rfl, rfl⟩

/-- Only the BBB itself moves, not the board. -/
theorem bbb_sendBuff_perform {r : Bbb.Main D × List (Bbb.Action D)}
    (h : sys.perform slot fd r = some t) : t.bbb = r.1 ∧ t.sendBuff = sys.sendBuff := by
  refine Lts.foldlM_invariant (I := fun u : System D => u.bbb = r.1 ∧ u.sendBuff = sys.sendBuff) h
    ⟨rfl, rfl⟩ fun u a _ v hu hv => ?_
  obtain ⟨hb, hs⟩ := bbb_sendBuff_act hv
  exact ⟨hb.trans hu.1, hs.trans hu.2⟩

/-- Without a press the frame of the board stays as it is, and so does the BBB at the head of
its loop. -/
theorem bbb_sendBuff_step [CDouble D] {cfg : Server.Config D} {m : Buf UInt8 6} {l : Label}
    (hl : l.isPress = false) (hasks : Asks sys.bbb) (h : (system cfg m).step sys l = some t) :
    Asks t.bbb ∧ t.sendBuff = sys.sendBuff ∧ (sys.bbb.pc = .head → t.bbb = sys.bbb) := by
  cases l with
  | press coordinates slot fd => cases hl
  | receive =>
    simp only [system] at h
    split at h
    · rename_i reply rest hpc _
      obtain ⟨bytes, -, h⟩ := Option.bind_eq_some_iff.mp h
      obtain ⟨hb, hs⟩ := bbb_sendBuff_perform h
      refine ⟨?_, hs, fun hhead => absurd (hpc.symm.trans hhead) (by decide)⟩
      rw [hb]
      exact asks_gotLocation hasks hpc _ _
    · rename_i price seconds rest hpc _
      obtain ⟨hb, hs⟩ := bbb_sendBuff_perform h
      refine ⟨?_, hs, fun hhead => absurd (hpc.symm.trans hhead) (by decide)⟩
      rw [hb]
      exact asks_gotPayment _ _
    · cases h
  | client i env =>
    obtain ⟨u, -, h⟩ := Option.bind_eq_some_iff.mp h
    obtain ⟨fetched, -, h⟩ := Option.bind_eq_some_iff.mp h
    obtain ⟨r, -, rfl⟩ := Option.map_eq_some_iff.mp h
    exact ⟨hasks, rfl, fun _ => rfl⟩
  | backup clock sqlFails =>
    cases h
    exact ⟨hasks, rfl, fun _ => rfl⟩

end Perform

/-! ## What the firmware has made of the request -/

/-- Nothing is on the line, and the buffer holds what was read last. -/
def Quiet (w : Wired D) : Prop := w.line = [] ∧ w.board.sendBuff = w.sys.sendBuff

/-- The request has arrived, and nothing has been transmitted since. -/
structure Taken (w : Wired D) : Prop where
  asked : w.asked = true
  line : w.line = []
  status : w.board.pangoClientData.status = w.sys.bbb.status

/-- The answer is on the line, or it has been read, or the request got lost. -/
def Replied (w : Wired D) : Prop :=
  Quiet w ∨ (w.asked = true ∧ w.board.pangoClientData.status = w.sys.bbb.status ∧
    OnMap w.board.pangoClientData ∧
    w.board.sendBuff = fillSendBuff w.board.pangoClientData w.sys.sendBuff ∧
    w.line = [w.board.sendBuff])

/-- Statement by statement. -/
def Working (w : Wired D) : Prop :=
  match w.board.pc with
  | .receive => w.board.interruptFlag = Stm.RestartFlag.off ∧ Quiet w
  | .head => (w.board.interruptFlag = Stm.RestartFlag.on ∧ Taken w ∧
        w.board.sendBuff = w.sys.sendBuff)
      ∨ (w.board.interruptFlag = Stm.RestartFlag.off ∧ Replied w)
  | .restart | .coordinates => Taken w ∧ w.board.sendBuff = w.sys.sendBuff
  | .pack => Taken w ∧ OnMap w.board.pangoClientData ∧ w.board.sendBuff = w.sys.sendBuff
  | .crc => Taken w ∧ OnMap w.board.pangoClientData ∧
      w.board.sendBuff = packPangoBuffer w.board.pangoClientData w.sys.sendBuff
  | .transmit => Taken w ∧ OnMap w.board.pangoClientData ∧
      w.board.sendBuff = fillSendBuff w.board.pangoClientData w.sys.sendBuff
  | .rearm | .clear => Replied w
  | .ended => False

/-- The invariant. -/
structure Firm (m : Buf UInt8 6) (w : Wired D) : Prop where
  mac : w.board.pangoClientData.macAddress = m
  wrongStatus : w.board.wrongStatus = 1
  asks : Asks w.sys.bbb
  head : w.asked = true → w.sys.bbb.pc = .head
  working : Working w

section Step

variable {m : Buf UInt8 6} {w : Wired D}

theorem Firm.status (h : Firm m w) (hasked : w.asked = true) :
    w.sys.bbb.status = Stm.RestartFlag.on ∨ w.sys.bbb.status = Stm.RestartFlag.off :=
  h.asks.head (h.head hasked)

/-- A frame on the line is the answer to what was asked. -/
theorem Firm.answer (h : Firm m w) {f : Frame} (hline : w.line.head? = some f) :
    w.line = [f] ∧ w.board.sendBuff = f ∧ f.x < 128 ∧ f.y < 128 ∧
      f = fillSendBuff ⟨w.sys.bbb.status, m, f.x, f.y⟩ w.sys.sendBuff := by
  have hreplied : Replied w → w.line = [f] ∧ w.board.sendBuff = f ∧ f.x < 128 ∧ f.y < 128 ∧
      f = fillSendBuff ⟨w.sys.bbb.status, m, f.x, f.y⟩ w.sys.sendBuff := by
    rintro (⟨hnil, -⟩ | ⟨-, hst, hmap, hbuff, hone⟩)
    · rw [hnil] at hline
      cases hline
    · rw [hone] at hline ⊢
      cases hline
      have hx : w.board.sendBuff.x = w.board.pangoClientData.xCoor := by
        rw [hbuff, Stm.x_fillSendBuff]
      have hy : w.board.sendBuff.y = w.board.pangoClientData.yCoor := by
        rw [hbuff, Stm.y_fillSendBuff]
      refine ⟨rfl, rfl, hx ▸ hmap.1, hy ▸ hmap.2, ?_⟩
      rw [hx, hy, ← hst, ← h.mac]
      exact hbuff
  have htaken : Taken w → w.line = [f] ∧ w.board.sendBuff = f ∧ f.x < 128 ∧ f.y < 128 ∧
      f = fillSendBuff ⟨w.sys.bbb.status, m, f.x, f.y⟩ w.sys.sendBuff := by
    intro ht
    rw [ht.line] at hline
    cases hline
  have hw := h.working
  unfold Working at hw
  cases hpc : w.board.pc <;> simp only [hpc] at hw
  case receive => exact hreplied (.inl hw.2)
  case head =>
    rcases hw with ⟨-, ht, -⟩ | ⟨-, hr⟩
    · exact htaken ht
    · exact hreplied hr
  case rearm | clear => exact hreplied hw
  case restart | coordinates | pack | crc | transmit => exact htaken hw.1

theorem working_main {b : Board} {random : UInt32 × UInt32} (h : Firm m w)
    (hs : w.board.mainPng random = some b) : Working { w with
      board := b
      line := if w.board.pc = .transmit then w.line ++ [w.board.sendBuff] else w.line } := by
  have hw := h.working
  cases hpc : w.board.pc with
  | receive =>
    simp only [Working, hpc] at hw
    simp only [Board.mainPng, hpc] at hs
    cases hs
    exact .inr ⟨hw.1, .inl hw.2⟩
  | head =>
    simp only [Working, hpc] at hw
    simp only [Board.mainPng, hpc] at hs
    cases hs
    rcases hw with ⟨hflag, htaken, hbuff⟩ | ⟨hflag, hreplied⟩
    · rw [if_pos hflag]
      exact ⟨⟨htaken.asked, htaken.line, htaken.status⟩, hbuff⟩
    · rw [if_neg (hflag ▸ Stm.off_ne_on)]
      exact .inr ⟨hflag, hreplied⟩
  | restart =>
    simp only [Working, hpc] at hw
    simp only [Board.mainPng, hpc] at hs
    cases hs
    obtain ⟨htaken, hbuff⟩ := hw
    have hst : w.board.pangoClientData.status ≠ Stm.RestartFlag.restart := by
      rw [htaken.status]
      rcases h.status htaken.asked with hst | hst <;> rw [hst] <;> decide
    rw [if_neg hst]
    exact ⟨⟨htaken.asked, htaken.line, htaken.status⟩, hbuff⟩
  | coordinates =>
    simp only [Working, hpc] at hw
    simp only [Board.mainPng, hpc] at hs
    cases hs
    obtain ⟨htaken, hbuff⟩ := hw
    exact ⟨⟨htaken.asked, htaken.line, htaken.status⟩,
      ⟨Stm.randUint128_lt _, Stm.randUint128_lt _⟩, hbuff⟩
  | pack =>
    simp only [Working, hpc] at hw
    simp only [Board.mainPng, hpc] at hs
    cases hs
    obtain ⟨htaken, hmap, hbuff⟩ := hw
    exact ⟨⟨htaken.asked, htaken.line, htaken.status⟩, hmap,
      congrArg (packPangoBuffer w.board.pangoClientData) hbuff⟩
  | crc =>
    simp only [Working, hpc] at hw
    simp only [Board.mainPng, hpc] at hs
    cases hs
    obtain ⟨htaken, hmap, hbuff⟩ := hw
    refine ⟨⟨htaken.asked, htaken.line, htaken.status⟩, hmap, ?_⟩
    simp only [hbuff, fillSendBuff]
  | transmit =>
    simp only [Working, hpc] at hw
    simp only [Board.mainPng, hpc] at hs
    cases hs
    obtain ⟨htaken, hmap, hbuff⟩ := hw
    refine .inr ⟨htaken.asked, htaken.status, hmap, hbuff, ?_⟩
    simp only [if_true, htaken.line, List.nil_append]
  | rearm =>
    simp only [Working, hpc] at hw
    simp only [Board.mainPng, hpc] at hs
    cases hs
    exact hw
  | clear =>
    simp only [Working, hpc] at hw
    simp only [Board.mainPng, hpc] at hs
    cases hs
    exact .inr ⟨rfl, hw⟩
  | ended => simp [Board.mainPng, hpc] at hs

theorem firm_main {b : Board} {random : UInt32 × UInt32} (h : Firm m w)
    (hs : w.board.mainPng random = some b) : Firm m { w with
      board := b
      line := if w.board.pc = .transmit then w.line ++ [w.board.sendBuff] else w.line } where
  mac := by
    rw [← h.mac]
    simp only [Board.mainPng] at hs
    split at hs <;> first | contradiction | (cases hs; rfl)
  wrongStatus := by
    rw [← h.wrongStatus]
    simp only [Board.mainPng] at hs
    split at hs <;> first | contradiction | (cases hs; rfl)
  asks := h.asks
  head := h.head
  working := working_main h hs

/-- A waiting board raises its flag for the byte of the BBB. -/
theorem received_request (h : Firm m w) (hpc : w.sys.bbb.pc = .head) :
    w.board.received w.sys.bbb.status = { w.board with
      pangoClientData := { w.board.pangoClientData with status := w.sys.bbb.status }
      armed := false
      interruptFlag := Stm.RestartFlag.on } := by
  have hwrong : ¬ w.board.wrongStatus % 5 = 0 := by
    rw [h.wrongStatus]
    decide
  have hknown : Board.known w.sys.bbb.status = true := by
    rcases h.asks.head hpc with hst | hst <;> rw [hst] <;> rfl
  unfold Board.received Board.rxCpltCallback
  dsimp only
  rw [if_neg hwrong, if_pos hknown]

theorem firm_request (h : Firm m w) (hwaits : Waits w.board) (hpc : w.sys.bbb.pc = .head)
    (hasked : w.asked = false) (arrives : Bool) :
    Firm m { w with board := w.delivered arrives, asked := true, line := [] } := by
  obtain ⟨hhead, hflag, harmed⟩ := hwaits
  have hquiet : Quiet w := by
    have hw := h.working
    simp only [Working, hhead] at hw
    rcases hw with ⟨hon, -⟩ | ⟨-, hquiet | ⟨hno, -⟩⟩
    · exact absurd (hflag.symm.trans hon) Stm.off_ne_on
    · exact hquiet
    · rw [hasked] at hno
      cases hno
  unfold Wired.delivered
  split_ifs with harrives
  · rw [received_request h hpc]
    refine ⟨h.mac, h.wrongStatus, h.asks, fun _ => hpc, ?_⟩
    simp only [Working, hhead]
    exact .inl ⟨trivial, ⟨rfl, rfl, rfl⟩, hquiet.2⟩
  · refine ⟨h.mac, h.wrongStatus, h.asks, fun _ => hpc, ?_⟩
    simp only [Working, hhead]
    exact .inr ⟨hflag, .inl ⟨rfl, hquiet.2⟩⟩

theorem firm_other {sys : System D} (h : Firm m w) (hasks : Asks sys.bbb)
    (hbuff : sys.sendBuff = w.sys.sendBuff) (hbbb : w.sys.bbb.pc = .head → sys.bbb = w.sys.bbb) :
    Firm m { w with sys } := by
  have hsame : w.asked = true → sys.bbb = w.sys.bbb := fun hasked => hbbb (h.head hasked)
  have htaken : Taken w → Taken { w with sys } := fun ht =>
    ⟨ht.asked, ht.line, by rw [hsame ht.asked]; exact ht.status⟩
  have hquiet : Quiet w → Quiet { w with sys } := fun hq => ⟨hq.1, hq.2.trans hbuff.symm⟩
  have hreplied : Replied w → Replied { w with sys } := by
    refine Or.imp hquiet ?_
    rintro ⟨hasked, hst, hmap, hsend, hline⟩
    exact ⟨hasked, by rw [hsame hasked]; exact hst, hmap, by rw [hbuff]; exact hsend, hline⟩
  refine ⟨h.mac, h.wrongStatus, hasks, fun hasked => ?_, ?_⟩
  · rw [hsame hasked]
    exact h.head hasked
  · have hw := h.working
    unfold Working at hw ⊢
    cases hpc : w.board.pc <;> simp only [hpc, hbuff] at hw ⊢
    case receive => exact ⟨hw.1, hquiet hw.2⟩
    case head =>
      rcases hw with ⟨hflag, ht, hsend⟩ | ⟨hflag, hr⟩
      · exact .inl ⟨hflag, htaken ht, hsend⟩
      · exact .inr ⟨hflag, hreplied hr⟩
    case rearm | clear => exact hreplied hw
    case restart | coordinates | pack | crc | transmit => exact ⟨htaken hw.1, hw.2⟩

/-- What the BBB has read is on the line no longer. -/
theorem firm_answered {f : Frame} {slot : ℕ} {fd : Int} {sys : System D} (h : Firm m w)
    (hasked : w.asked = true) (hline : w.line.head? = some f)
    (hs : w.returned (some f) slot fd = some sys) :
    Firm m { w with sys, asked := false, line := w.line.tail } := by
  obtain ⟨hone, hsend, -⟩ := h.answer hline
  obtain ⟨hbbb, hbuff⟩ := bbb_sendBuff_perform hs
  have hquiet : Quiet { w with sys, asked := false, line := w.line.tail } :=
    ⟨congrArg List.tail hone, hsend.trans hbuff.symm⟩
  refine ⟨h.mac, h.wrongStatus, ?_, fun hno => (nomatch hno), ?_⟩
  · rw [hbbb]
    exact asks_pressed h.asks (h.head hasked) _
  · -- with a frame on the line the firmware is behind its transmission
    have hno : ¬ Taken w := fun ht => by
      rw [ht.line] at hline
      cases hline
    have hw := h.working
    unfold Working at hw ⊢
    cases hpc : w.board.pc <;> simp only [hpc] at hw ⊢
    case receive => exact ⟨hw.1, hquiet⟩
    case head =>
      rcases hw with ⟨-, ht, -⟩ | ⟨hflag, -⟩
      · exact absurd ht hno
      · exact .inr ⟨hflag, .inl hquiet⟩
    case rearm | clear => exact .inl hquiet
    case restart | coordinates | pack | crc | transmit => exact absurd hw.1 hno

/-- The BBB gives up on a byte that got lost. -/
theorem firm_silent {slot : ℕ} {fd : Int} {sys : System D} (h : Firm m w)
    (hwaits : Waits w.board) (hline : w.line = []) (hasked : w.asked = true)
    (hs : w.returned none slot fd = some sys) : Firm m { w with sys, asked := false } := by
  obtain ⟨hhead, hflag, harmed⟩ := hwaits
  obtain ⟨hbbb, hbuff⟩ := bbb_sendBuff_perform hs
  have hquiet : Quiet w := by
    have hw := h.working
    simp only [Working, hhead] at hw
    rcases hw with ⟨hon, -⟩ | ⟨-, hquiet | ⟨-, -, -, -, hone⟩⟩
    · exact absurd (hflag.symm.trans hon) Stm.off_ne_on
    · exact hquiet
    · rw [hline] at hone
      cases hone
  refine ⟨h.mac, h.wrongStatus, ?_, fun hno => (nomatch hno), ?_⟩
  · rw [hbbb]
    exact asks_pressed h.asks (h.head hasked) _
  · simp only [Working, hhead]
    exact .inr ⟨hflag, .inl ⟨hquiet.1, hquiet.2.trans hbuff.symm⟩⟩

end Step

/-! ## Refinement -/

theorem le_of_lt_128 {x : UInt8} (h : x < 128) : x ≤ 127 := by
  rw [UInt8.lt_iff_toNat_lt] at h
  rw [UInt8.le_iff_toNat_le]
  exact Nat.le_of_lt_succ h

/-- What the joint system knows of a step. -/
def WiredLabel.seen : WiredLabel → Option Label
  | .request _ | .main _ => none
  | .answered f slot fd => some (.press (some (f.x, f.y)) slot fd)
  | .silent slot fd => some (.press none slot fd)
  | .other l => some l

section Refinement

variable [CDouble D] {cfg : Server.Config D} {m : Buf UInt8 6} {w u : Wired D} {l : WiredLabel}

/-- A step the joint system knows is a clean step of it. -/
theorem matched_step {l' : Label} (h : Firm m w) (hT : Timely w l) (hl : l.seen = some l')
    (hs : (wired cfg m).step w l = some u) :
    Clean w.sys l' ∧ (system cfg m).step w.sys l' = some u.sys ∧ Firm m u := by
  cases l with
  | request | main => cases hl
  | answered f slot fd =>
    cases hl
    simp only [wired] at hs
    split_ifs at hs with hen
    obtain ⟨hasked, hline⟩ := hen
    obtain ⟨sys, hret, rfl⟩ := Option.map_eq_some_iff.mp hs
    obtain ⟨-, -, hx, hy, hf⟩ := h.answer hline
    refine ⟨⟨hT, fun c hc => ?_, fun hno => ?_⟩, ?_, firm_answered h hasked hline hret⟩
    · cases hc
      exact ⟨le_of_lt_128 hx, le_of_lt_128 hy⟩
    · cases hno
    · have hanswer : w.sys.answer m (some (f.x, f.y)) = some f := congrArg some hf.symm
      simp only [system, h.head hasked, if_true, hanswer]
      exact hret
  | silent slot fd =>
    cases hl
    simp only [wired] at hs
    split_ifs at hs with hasked
    obtain ⟨sys, hret, rfl⟩ := Option.map_eq_some_iff.mp hs
    obtain ⟨hwaits, hline, hrest, hcount⟩ := hT
    refine ⟨⟨hrest, fun c hc => ?_, fun _ => hcount⟩, ?_,
      firm_silent h hwaits hline hasked hret⟩
    · cases hc
    · simp only [system, h.head hasked, if_true]
      exact hret
  | other l =>
    cases hl
    simp only [wired] at hs
    split_ifs at hs with hpress
    obtain ⟨sys, hsys, rfl⟩ := Option.map_eq_some_iff.mp hs
    obtain ⟨hasks, hbuff, hbbb⟩ := bbb_sendBuff_step (Bool.eq_false_iff.mpr hpress) h.asks hsys
    exact ⟨hT, hsys, firm_other h hasks hbuff hbbb⟩

/-- A step it does not know changes nothing it sees. -/
theorem unmatched_step (h : Firm m w) (hT : Timely w l) (hl : l.seen = none)
    (hs : (wired cfg m).step w l = some u) : u.sys = w.sys ∧ Firm m u := by
  cases l with
  | request arrives =>
    simp only [wired] at hs
    split_ifs at hs with hen
    cases hs
    exact ⟨rfl, firm_request h hT hen.1 hen.2 arrives⟩
  | main random =>
    obtain ⟨b, hb, rfl⟩ := Option.map_eq_some_iff.mp hs
    exact ⟨rfl, firm_main h hb⟩
  | answered | silent | other => cases hl

theorem firm_start (dataBuff : Frame) (location : Buf UInt8 12) (payment : D × D)
    (rows : List Server.Row) : Firm m (.start m dataBuff location payment rows) :=
  ⟨rfl, rfl, ⟨fun _ => .inl rfl, fun h => (nomatch h)⟩, fun h => (nomatch h), rfl, rfl, rfl⟩

/-- **The firmware is the board.**  In every timely run of the system with the firmware, what
the joint system knows of is a clean run of it, to the same state: every answer is the frame
its board makes of the request, with coordinates from within the map. -/
theorem system_of_wired {dataBuff : Frame} {location : Buf UInt8 12} {payment : D × D}
    {rows : List Server.Row} {ls : List WiredLabel}
    (h : (wired cfg m).Exec Timely (.start m dataBuff location payment rows) ls w) :
    (system cfg m).Exec Clean (.start dataBuff location payment rows) (ls.filterMap WiredLabel.seen)
      w.sys ∧ Firm m w := by
  obtain ⟨sys, hexec, rfl, hfirm⟩ := h.project (N := system cfg m) (K := Clean)
    (R := fun w sys => sys = w.sys ∧ Firm m w) WiredLabel.seen
    ⟨rfl, firm_start dataBuff location payment rows⟩
    (fun w sys l l' u hT hR hl hs => by
      obtain ⟨rfl, hfirm⟩ := hR
      obtain ⟨hclean, hstep, hfirm'⟩ := matched_step hfirm hT hl hs
      exact ⟨hclean, u.sys, hstep, rfl, hfirm'⟩)
    (fun w sys l u hT hR hl hs => by
      obtain ⟨rfl, hfirm⟩ := hR
      obtain ⟨hsys, hfirm'⟩ := unmatched_step hfirm hT hl hs
      exact ⟨hsys.symm, hfirm'⟩)
  exact ⟨hexec, hfirm⟩

/-- **Device and server agree with the firmware in between.**  Every timely run from a table
without a row for the device, with clock readings that do not decrease and fit an `int`, is, seen
from the joint system, a clean run of it to the same state, and device and server agree there. -/
theorem wired_agreement {dataBuff : Frame} {location : Buf UInt8 12} {payment : D × D}
    {rows : List Server.Row} {ls : List WiredLabel}
    (h : (wired cfg m).Exec Timely (.start m dataBuff location payment rows) ls w)
    (hrows : selectMac (macKey m) rows = []) (hclock : ClocksInOrder (w.sys.record m)) :
    (system cfg m).Exec Clean (.start dataBuff location payment rows)
        (ls.filterMap WiredLabel.seen) w.sys ∧
      Agreement m w.sys := by
  have hexec := (system_of_wired h).1
  exact ⟨hexec, agreement_of_bond (bond_of_exec hexec hrows) hclock⟩

end Refinement

/-- A press that the board answers, its request cleared behind the back of the BBB. -/
def pressWired (status : UInt8) (random : UInt32 × UInt32) (f : Frame) (i : ℕ) :
    List WiredLabel :=
  let d : PangoClientData :=
    ⟨status, sampleMac, Stm.randUint128 random.1, Stm.randUint128 random.2⟩
  let answer := fillSendBuff d f
  .request true :: .replicate 6 (.main random) ++ [.answered answer i 4] ++
    .replicate 2 (.main random)

/-- A whole parking in slot `i`, from `a` to `b`, after a request that got lost. -/
def parkWired (i : ℕ) (a b : Int) : List WiredLabel :=
  let first := fillSendBuff ⟨Bbb.AppStatus.on, sampleMac, 10, 20⟩ (.fill 10 0)
  [.main (0, 0), .request false, .silent i 4] ++
    pressWired Bbb.AppStatus.on (138, 20) (.fill 10 0) i ++
    [.other (.client i {}), .other (.client i {}), .other (.client i {}),
      .other (.client i { now := a }), .other (.client i {}), .other (.client i {}),
      .other .receive, .other (.client i {})] ++
    pressWired Bbb.AppStatus.off (90, 20) first i ++
    [.other (.client i {}), .other (.client i {}), .other (.client i { now := b }),
      .other (.client i {}), .other .receive, .other (.client i {}), .other (.client i {})]

/-- A parking with the firmware, after a request that got lost. -/
theorem wired_agreement_after_lost : ∃ w : Wired Int, w.sys.receipts = [(120, 60)] ∧
    (system samplePrices sampleMac).Exec Clean (.start (.fill 10 0) (.fill 12 0) (0, 0) [])
      ((parkWired 0 100 160).filterMap WiredLabel.seen) w.sys ∧
    Agreement sampleMac w.sys := by
  have hrun : ((wired samplePrices sampleMac).runIf Timely
      (.start sampleMac (.fill 10 0) (.fill 12 0) (0, 0) []) (parkWired 0 100 160)).map (fun w =>
        (w.sys.receipts, clocks (w.sys.record sampleMac)))
      = some ([(120, 60)], [100, 160]) := by decide +kernel
  obtain ⟨w, hw, hparts⟩ := Option.map_eq_some_iff.mp hrun
  obtain ⟨hreceipts, hclocks⟩ := Prod.mk.inj hparts
  refine ⟨w, hreceipts, wired_agreement (Lts.exec_of_runIf _ hw) rfl ?_⟩
  rw [ClocksInOrder, hclocks]
  decide

end Pango.Joint
