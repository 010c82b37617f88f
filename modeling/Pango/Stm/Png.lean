import Pango.Lib.Lts
import Pango.Stm.Pack

/-!
# The STM board: `PNG.c`

`main_PNG` statement by statement, and `HAL_UART_RxCpltCallback`, which may run
between any two of them when a receive is armed.  The HAL calls work.

The two share the flag and the structure that a byte is received into, with no lock
between them.  What keeps them apart is that a receive is armed for one byte at a time;
but the loop arms it before it lowers the flag, and a request that comes in between is
forgotten without anything being armed for the next.  Nothing but a reset brings such a
board back.

* `board` — the transition system.
* `awake_iff` — at the head of the loop a request waits or a receive is armed,
  exactly in the runs in which no request arrives between the arming of the receive
  and the resetting of the flag.
* `deaf_board` — a run in which one does.
-/

namespace Pango.Stm

/-! ## The board -/

/-- `restart_flag`. -/
abbrev RestartFlag.on : UInt8 := 1
abbrev RestartFlag.off : UInt8 := 2
abbrev RestartFlag.restart : UInt8 := 3

/-- The statement of `main_PNG` that comes next. -/
inductive Pc
  /-- The first `HAL_UART_Receive_IT`. -/
  | receive
  /-- The head of the loop: the test of the flag. -/
  | head
  /-- The test for `RESTART`. -/
  | restart
  | coordinates
  | pack
  | crc
  | transmit
  /-- `HAL_UART_Receive_IT` in the loop. -/
  | rearm
  /-- `interrupt_flag = OFF`. -/
  | clear
  /-- After `NVIC_SystemReset` or `Error_Handler`. -/
  | ended
  deriving DecidableEq, Repr

/-- The variables of `PNG.c` and the UART. -/
structure Board where
  pc : Pc := .receive
  interruptFlag : UInt8 := RestartFlag.off
  /-- How often a received status was none of those the program knows. -/
  wrongStatus : UInt8 := 1
  pangoClientData : PangoClientData
  sendBuff : Frame := .fill 10 0
  /-- Does the UART wait for a byte? -/
  armed : Bool := false
  transmitted : List Frame := []
  /-- How many bytes have been sent for `HARDWARE_ERROR`.  The cast in the callback makes an
  address of that number, so such a byte may have any value. -/
  hardwareErrors : ℕ := 0

/-- `rand_uint128`. -/
def randUint128 (random : UInt32) : UInt8 := (random % 128).toUInt8

/-- `get_coordinates`. -/
def getCoordinates (random : UInt32 × UInt32) (clientData : PangoClientData) : PangoClientData :=
  { clientData with xCoor := randUint128 random.1, yCoor := randUint128 random.2 }

namespace Board

variable (b : Board)

/-- The board when `main_PNG` has got its MAC address. -/
def start (macAddress : Buf UInt8 6) : Board where
  pangoClientData := { status := 0, macAddress, xCoor := 0, yCoor := 0 }

/-- The next statement of `main_PNG`. -/
def mainPng (random : UInt32 × UInt32) : Option Board :=
  match b.pc with
  | .receive => some { b with armed := true, pc := .head }
  | .head => some { b with pc := if b.interruptFlag = RestartFlag.on then .restart else .head }
  | .restart => some { b with
      pc := if b.pangoClientData.status = RestartFlag.restart then .ended else .coordinates }
  | .coordinates =>
    some { b with pangoClientData := getCoordinates random b.pangoClientData, pc := .pack }
  | .pack => some { b with sendBuff := packPangoBuffer b.pangoClientData b.sendBuff, pc := .crc }
  | .crc => some { b with
      sendBuff := b.sendBuff.write 9 [calculateCrc8 b.sendBuff.toList 9], pc := .transmit }
  | .transmit => some { b with transmitted := b.transmitted ++ [b.sendBuff], pc := .rearm }
  | .rearm => some { b with armed := true, pc := .clear }
  | .clear => some { b with interruptFlag := RestartFlag.off, pc := .head }
  | .ended => none

/-- The statuses `HAL_UART_RxCpltCallback` knows. -/
def known (status : UInt8) : Bool :=
  decide (status = RestartFlag.on ∨ status = RestartFlag.off ∨ status = RestartFlag.restart)

/-- `HAL_UART_RxCpltCallback`.  Before `Error_Handler` it sends one byte. -/
def rxCpltCallback : Board :=
  if b.wrongStatus % 5 = 0 then { b with hardwareErrors := b.hardwareErrors + 1, pc := .ended }
  else if known b.pangoClientData.status then { b with interruptFlag := RestartFlag.on }
  else { b with wrongStatus := b.wrongStatus + 1, interruptFlag := RestartFlag.off, armed := true }

/-- A byte arrives: the receive is complete. -/
def received (status : UInt8) : Board :=
  rxCpltCallback { b with pangoClientData := { b.pangoClientData with status }, armed := false }

end Board

/-- Who moves. -/
inductive Label
  /-- The main program, with the numbers the generator would give it. -/
  | main (random : UInt32 × UInt32)
  /-- A byte arrives. -/
  | interrupt (status : UInt8)

/-- The board. -/
def board : Lts Board Label where
  step b
    | .main random => b.mainPng random
    | .interrupt status => if b.armed = true ∧ b.pc ≠ .ended then some (b.received status) else none

/-! ## Awake or deaf -/

/-- A request waits to be answered, or a receive is armed, and not both. -/
def Awake (b : Board) : Prop :=
  Xor (b.interruptFlag = RestartFlag.on ∧ b.armed = false)
    (b.interruptFlag = RestartFlag.off ∧ b.armed = true)

/-- No request arrives between the arming of the receive and the resetting of the
flag; none is taken as one, if too many unknown statuses came before. -/
def NoneLost (b : Board) : Label → Prop
  | .main _ => True
  | .interrupt status => b.pc = .clear → Board.known status = true → b.wrongStatus % 5 = 0

instance (b : Board) : (l : Label) → Decidable (NoneLost b l)
  | .main _ => isTrue trivial
  | .interrupt _ => inferInstanceAs (Decidable (_ → _ → _))

/-- What leads to being awake, statement by statement. -/
def Wakeful (b : Board) : Prop :=
  match b.pc with
  | .receive => b.interruptFlag = RestartFlag.off ∧ b.armed = false
  | .head => (b.interruptFlag = RestartFlag.on ∧ b.armed = false)
      ∨ (b.interruptFlag = RestartFlag.off ∧ b.armed = true)
  | .restart | .coordinates | .pack | .crc | .transmit | .rearm =>
      b.interruptFlag = RestartFlag.on ∧ b.armed = false
  | .clear => b.armed = true
  | .ended => True

/-- Nothing is armed, and nothing will be. -/
def Deaf (b : Board) : Prop :=
  b.armed = false ∧ (b.pc = .clear ∨ b.pc = .head ∧ b.interruptFlag = RestartFlag.off)

section Step

variable {b b' : Board} {l : Label}

theorem off_ne_on : RestartFlag.off ≠ RestartFlag.on := by decide

theorem not_wakeful_of_deaf (h : Deaf b) : ¬ Wakeful b := by
  obtain ⟨harmed, hpc | ⟨hpc, hflag⟩⟩ := h
  · simp [Wakeful, hpc, harmed]
  · simp [Wakeful, hpc, harmed, hflag, off_ne_on]

/-- **For ever deaf.**  Nothing wakes a board that is deaf. -/
theorem deaf_step (h : Deaf b) (hs : board.step b l = some b') : Deaf b' := by
  obtain ⟨harmed, hpc⟩ := h
  cases l with
  | interrupt status => simp [board, harmed] at hs
  | main random =>
    rcases hpc with hpc | ⟨hpc, hflag⟩
    · simp only [board, Board.mainPng, hpc] at hs
      cases hs
      exact ⟨harmed, .inr ⟨rfl, rfl⟩⟩
    · simp only [board, Board.mainPng, hpc, hflag, if_neg off_ne_on] at hs
      cases hs
      exact ⟨harmed, .inr ⟨rfl, rfl⟩⟩

theorem wakeful_mainPng {random : UInt32 × UInt32} (h : Wakeful b)
    (hs : b.mainPng random = some b') :
    Wakeful b' := by
  cases hpc : b.pc with
  | receive =>
    simp only [Wakeful, hpc] at h
    simp only [Board.mainPng, hpc] at hs
    cases hs
    exact .inr ⟨h.1, rfl⟩
  | head =>
    simp only [Wakeful, hpc] at h
    simp only [Board.mainPng, hpc] at hs
    cases hs
    rcases h with ⟨hflag, harmed⟩ | ⟨hflag, harmed⟩
    · simp [Wakeful, hflag, harmed]
    · simp [Wakeful, hflag, harmed, off_ne_on]
  | restart =>
    simp only [Wakeful, hpc] at h
    simp only [Board.mainPng, hpc] at hs
    cases hs
    by_cases hst : b.pangoClientData.status = RestartFlag.restart
    · simp [Wakeful, hst]
    · simpa [Wakeful, hst] using h
  | coordinates | pack | crc | transmit =>
    simp only [Wakeful, hpc] at h
    simp only [Board.mainPng, hpc] at hs
    cases hs
    exact h
  | rearm =>
    simp only [Board.mainPng, hpc] at hs
    cases hs
    rfl
  | clear =>
    simp only [Wakeful, hpc] at h
    simp only [Board.mainPng, hpc] at hs
    cases hs
    exact .inr ⟨rfl, h⟩
  | ended => simp [Board.mainPng, hpc] at hs

/-- A byte that arrives leaves the board wakeful, or it is a request that is lost. -/
theorem wakeful_received (h : Wakeful b) (harmed : b.armed = true) (status : UInt8) :
    (Wakeful (b.received status) ↔ NoneLost b (.interrupt status)) ∧
      (¬ Wakeful (b.received status) → Deaf (b.received status)) := by
  have hpc : b.pc = .head ∨ b.pc = .clear ∨ b.pc = .ended := by
    cases hpc : b.pc <;> simp [Wakeful, hpc, harmed] at h ⊢
  unfold Board.received Board.rxCpltCallback
  dsimp only
  split_ifs with hwrong hknown
  · have hw : Wakeful { b with
        pc := .ended
        armed := false
        pangoClientData := { b.pangoClientData with status }
        hardwareErrors := b.hardwareErrors + 1 } := trivial
    exact ⟨iff_of_true hw fun _ _ => hwrong, fun hno => absurd hw hno⟩
  · rcases hpc with hpc | hpc | hpc
    · simp [Wakeful, NoneLost, hpc]
    · simp [Wakeful, NoneLost, Deaf, hpc, hknown, hwrong]
    · simp [Wakeful, NoneLost, hpc]
  · rcases hpc with hpc | hpc | hpc <;> simp [Wakeful, NoneLost, hpc, hknown]

/-- **One step** keeps the board wakeful exactly if no request is lost; else it is
deaf. -/
theorem wakeful_step (h : Wakeful b) (hs : board.step b l = some b') :
    (Wakeful b' ↔ NoneLost b l) ∧ (¬ Wakeful b' → Deaf b') := by
  cases l with
  | interrupt status =>
    simp only [board] at hs
    split_ifs at hs with harmed
    cases hs
    exact wakeful_received h harmed.1 status
  | main random =>
    refine ⟨iff_of_true ?_ trivial, fun hno => absurd ?_ hno⟩ <;> exact wakeful_mainPng h hs

/-- A board is awake or deaf, whatever happens. -/
theorem wakeful_or_deaf_step (h : Wakeful b ∨ Deaf b) (hs : board.step b l = some b') :
    Wakeful b' ∨ Deaf b' := by
  rcases h with hw | hdeaf
  · exact (em (Wakeful b')).imp_right (wakeful_step hw hs).2
  · exact .inr (deaf_step hdeaf hs)

/-- At the head of the loop, wakeful is awake. -/
theorem wakeful_iff_awake (hpc : b.pc = .head) : Wakeful b ↔ Awake b := by
  simp only [Wakeful, hpc, Awake, Xor]
  constructor
  · rintro (⟨hflag, harmed⟩ | ⟨hflag, harmed⟩)
    · exact .inl ⟨⟨hflag, harmed⟩, by simp [harmed]⟩
    · exact .inr ⟨⟨hflag, harmed⟩, by simp [harmed]⟩
  · rintro (⟨h, -⟩ | ⟨h, -⟩)
    · exact .inl h
    · exact .inr h

end Step

/-- **The board never goes deaf** exactly in the runs in which no request arrives
between the arming of the receive and the resetting of the flag. -/
theorem awake_iff {macAddress : Buf UInt8 6} {ls : List Label} {b : Board}
    (h : board.Exec (fun _ _ => True) (.start macAddress) ls b) (hpc : b.pc = .head) :
    Awake b ↔ board.Exec NoneLost (.start macAddress) ls b := by
  have hstart : Wakeful (.start macAddress) := ⟨rfl, rfl⟩
  constructor
  · intro hawake
    have hrun : board.Exec (fun b _ => True ∧ (Wakeful b ∨ Deaf b)) (.start macAddress) ls b :=
      (h.strengthen (I := fun b => Wakeful b ∨ Deaf b) (.inl hstart)
        fun b l b' _ hJ hs => wakeful_or_deaf_step hJ hs).1
    have hiff := hrun.meets_iff_of_stable (K := NoneLost) hstart
      (fun b l b' hC hs hw =>
        hC.2.resolve_right fun hdeaf => not_wakeful_of_deaf (deaf_step hdeaf hs) hw)
      fun b l b' _ hw hs => (wakeful_step hw hs).1
    exact (hiff.mpr ((wakeful_iff_awake hpc).mpr hawake)).mono fun _ _ hC => hC.2
  · intro hlost
    exact (wakeful_iff_awake hpc).mp (hlost.invariant hstart fun b l b' hC hw hs =>
      (wakeful_step hw hs).1.mpr hC)

/-- A request and its answer. -/
def requestLabels : List Label :=
  [.main (0, 0), .interrupt RestartFlag.on] ++ List.replicate 8 (.main (5, 7))

/-- After one request, answered, the board waits for the next. -/
theorem awake_after_request :
    ∃ b, board.Exec NoneLost (.start (.fill 6 0)) requestLabels b ∧ Awake b := by
  have hrun : (board.runIf NoneLost (.start (.fill 6 0)) requestLabels).map (fun b => b.pc)
      = some .head := by
    decide +kernel
  obtain ⟨b, hb, hpc⟩ := Option.map_eq_some_iff.mp hrun
  have hexec := Lts.exec_of_runIf _ hb
  exact ⟨b, hexec, (awake_iff (hexec.mono fun _ _ _ => trivial) hpc).mpr hexec⟩

/-- The same, and the next request comes before the flag is reset. -/
def hastyLabels : List Label :=
  [.main (0, 0), .interrupt RestartFlag.on] ++ List.replicate 7 (.main (5, 7)) ++
    [.interrupt RestartFlag.off, .main (0, 0)]

/-- A board that is deaf at the head of its loop. -/
theorem deaf_board :
    ¬ ∀ (macAddress : Buf UInt8 6) (ls : List Label) (b : Board),
      board.Exec (fun _ _ => True) (.start macAddress) ls b → b.pc = .head → Awake b := by
  intro hall
  have hrun : (board.run (.start (.fill 6 0)) hastyLabels).map
      (fun b => (b.pc, b.interruptFlag, b.armed)) = some (.head, RestartFlag.off, false) := by
    decide +kernel
  obtain ⟨b, hb, hparts⟩ := Option.map_eq_some_iff.mp hrun
  obtain ⟨hpc, hflag, harmed⟩ : b.pc = .head ∧ b.interruptFlag = RestartFlag.off ∧
    b.armed = false := by
    simpa using hparts
  have hw := (wakeful_iff_awake hpc).mpr (hall _ _ b (Lts.exec_of_run _ hb) hpc)
  exact not_wakeful_of_deaf ⟨harmed, .inr ⟨hpc, hflag⟩⟩ hw

end Pango.Stm
