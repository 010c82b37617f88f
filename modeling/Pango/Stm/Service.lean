import Pango.Stm.Echo

/-!
# What the STM board is for

To the BBB the board is a small machine: it takes a byte, answers it with a frame before
it takes the next, resets when it is told to, and gives up over bytes it does not know.
`main_PNG` and its interrupt are that machine, as long as no request is lost.

Giving up is not silent.  The callback counts the bytes it does not know and never forgets
one; with the byte behind the fourth of them it sends a last byte, meant to be
`HARDWARE_ERROR`, and stops the board.  Through a cast that takes the number for an address,
what is sent is whatever byte of memory lies there, so the machine leaves its value open.

* `Service`, `service` — the machine, in terms of bytes and frames.
* `seen` — what is seen of a step of the board.
* `serves` — what is seen of a run in which no request is lost is a run of the machine.
* `gives_up_iff` — in every run, lost requests or not, the board ends exactly by a reset it
  was asked for or by the byte behind the fourth unknown one.
-/

namespace Pango.Stm

/-! ## The service -/

/-- What the BBB may know of the board. -/
structure Service where
  /-- How many bytes it did not know. -/
  strikes : ℕ := 0
  /-- The byte that is being served. -/
  request : Option UInt8 := none
  /-- It has had enough, and has not yet said so. -/
  failing : Bool := false
  ended : Bool := false
  deriving DecidableEq, Repr

/-- What passes between them. -/
inductive Act
  | byte (status : UInt8)
  | answer (f : Frame)
  /-- The byte that is sent for `HARDWARE_ERROR`. -/
  | hardwareError
  /-- The board resets itself. -/
  | reset

/-- The byte of an act, if the board does not know it. -/
def Act.unknown : Act → Bool
  | .byte status => !Board.known status
  | _ => false

/-- How many unknown bytes have been sent. -/
def unknowns (acts : List Act) : ℕ := acts.countP Act.unknown

/-- A frame of the board `m` for a request. -/
def Serving (m : Buf UInt8 6) (f : Frame) : Prop :=
  IsRequest f.status ∧ f.mac = m.toList ∧ f.x < 128 ∧ f.y < 128 ∧ f.crc = calculateCrc8 f.toList 9

instance (m : Buf UInt8 6) (f : Frame) : Decidable (Serving m f) :=
  inferInstanceAs (Decidable (_ ∧ _ ∧ _ ∧ _ ∧ _))

namespace Service

/-- A byte is taken. -/
def take (v : Service) (status : UInt8) : Service :=
  if v.strikes = 4 then { v with failing := true }
  else if Board.known status then { v with request := some status }
  else { v with strikes := v.strikes + 1 }

end Service

/-- One byte at a time, and one frame for it. -/
def service (m : Buf UInt8 6) : Lts Service Act where
  step v
    | .byte status =>
      if v.ended = false ∧ v.failing = false ∧ v.request = none then some (v.take status) else none
    | .hardwareError =>
      if v.failing = true then some { v with failing := false, ended := true } else none
    | .answer f =>
      if v.ended = false ∧ v.request = some f.status ∧ Serving m f then
        some { v with request := none }
      else none
    | .reset =>
      if v.ended = false ∧ v.request = some RestartFlag.restart then
        some { v with request := none, ended := true }
      else none

/-! ## What is seen of the board -/

/-- What is seen of a step. -/
def seen (b : Board) : Label → List Act
  | .interrupt status =>
    if (b.received status).hardwareErrors = b.hardwareErrors then [.byte status]
    else [.byte status, .hardwareError]
  | .main _ =>
    match b.pc with
    | .transmit => [.answer b.sendBuff]
    | .restart => if b.pangoClientData.status = RestartFlag.restart then [.reset] else []
    | _ => []

namespace Board

/-- The byte the board is at work on. -/
def request (b : Board) : Option UInt8 :=
  match b.pc with
  | .head => if b.interruptFlag = RestartFlag.on then some b.pangoClientData.status else none
  | .restart | .coordinates | .pack | .crc | .transmit => some b.pangoClientData.status
  | .receive | .rearm | .clear | .ended => none

/-- The board as it is seen. -/
def service (b : Board) : Service where
  strikes := b.wrongStatus.toNat - 1
  request := b.request
  ended := decide (b.pc = .ended)

end Board

/-! ## The invariant -/

/-- What is ready for the answer, statement by statement. -/
def Prepared (b : Board) : Prop :=
  match b.pc with
  | .head => b.interruptFlag = RestartFlag.on → Board.known b.pangoClientData.status = true
  | .restart => Board.known b.pangoClientData.status = true
  | .coordinates => IsRequest b.pangoClientData.status
  | .pack => IsRequest b.pangoClientData.status ∧ OnMap b.pangoClientData
  | .crc => IsRequest b.pangoClientData.status ∧ OnMap b.pangoClientData ∧
      ∃ old, b.sendBuff = packPangoBuffer b.pangoClientData old
  | .transmit => IsRequest b.pangoClientData.status ∧ OnMap b.pangoClientData ∧
      ∃ old, b.sendBuff = fillSendBuff b.pangoClientData old
  | .receive | .rearm | .clear | .ended => True

/-- The board is fit to serve. -/
structure Fit (m : Buf UInt8 6) (b : Board) : Prop where
  mac : b.pangoClientData.macAddress = m
  wakeful : Wakeful b
  prepared : Prepared b
  strikes : 1 ≤ b.wrongStatus.toNat ∧ b.wrongStatus.toNat ≤ 5

section Step

variable {m : Buf UInt8 6} {b b' : Board} {status : UInt8} {l : Label}
  {random : UInt32 × UInt32}

/-- The counter starts at one, and at five the callback gives up. -/
theorem fifth_iff (h : 1 ≤ b.wrongStatus.toNat ∧ b.wrongStatus.toNat ≤ 5) :
    b.wrongStatus % 5 = 0 ↔ b.wrongStatus.toNat = 5 := by
  rw [← UInt8.toNat_inj, UInt8.toNat_mod]
  show b.wrongStatus.toNat % 5 = 0 ↔ b.wrongStatus.toNat = 5
  omega

theorem received_cases (hn : 1 ≤ b.wrongStatus.toNat ∧ b.wrongStatus.toNat ≤ 5) (status : UInt8) :
    (b.wrongStatus.toNat = 5 ∧ (b.received status).pc = .ended ∧
        seen b (.interrupt status) = [.byte status, .hardwareError] ∧
        (b.received status).wrongStatus.toNat = 5) ∨
      (b.wrongStatus.toNat < 5 ∧ (b.received status).pc = b.pc ∧
        seen b (.interrupt status) = [.byte status] ∧
        ((Board.known status = true ∧ (b.received status).interruptFlag = RestartFlag.on ∧
            (b.received status).wrongStatus.toNat = b.wrongStatus.toNat) ∨
          (Board.known status = false ∧ (b.received status).interruptFlag = RestartFlag.off ∧
            (b.received status).wrongStatus.toNat = b.wrongStatus.toNat + 1))) := by
  have hfifth := fifth_iff hn
  unfold seen Board.received Board.rxCpltCallback
  dsimp only
  by_cases hwrong : b.wrongStatus % 5 = 0
  · rw [if_pos hwrong]
    exact .inl ⟨hfifth.mp hwrong, rfl, if_neg (Nat.succ_ne_self _), hfifth.mp hwrong⟩
  · rw [if_neg hwrong]
    have hlt : b.wrongStatus.toNat < 5 := by
      have := mt hfifth.mpr hwrong
      omega
    refine .inr ⟨hlt, ?_⟩
    cases hknown : Board.known status with
    | true => exact ⟨rfl, if_pos rfl, .inl ⟨rfl, rfl, rfl⟩⟩
    | false =>
      refine ⟨rfl, if_pos rfl, .inr ⟨rfl, rfl, ?_⟩⟩
      show (b.wrongStatus + 1).toNat = b.wrongStatus.toNat + 1
      rw [UInt8.toNat_add, show (1 : UInt8).toNat = 1 from rfl]
      omega

theorem received_data (b : Board) (status : UInt8) :
    (b.received status).pangoClientData = { b.pangoClientData with status } := by
  unfold Board.received Board.rxCpltCallback
  dsimp only
  split_ifs <;> rfl

/-- A byte is taken at the head of the loop, the flag down, or before the flag is reset. -/
theorem idle_of_armed (h : Wakeful b) (harmed : b.armed = true) (hpc : b.pc ≠ .ended) :
    (b.pc = .head ∧ b.interruptFlag = RestartFlag.off) ∨ b.pc = .clear := by
  cases hpc' : b.pc with
  | head =>
    simp only [Wakeful, hpc', harmed] at h
    exact .inl ⟨rfl, by simpa using h⟩
  | clear => exact .inr rfl
  | ended => exact absurd hpc' hpc
  | receive | restart | coordinates | pack | crc | transmit | rearm =>
    simp [Wakeful, hpc', harmed] at h

/-- A known byte that is not `RESTART` asks for an answer. -/
theorem isRequest_of_known (h : Board.known status = true) (hne : status ≠ RestartFlag.restart) :
    IsRequest status := by
  unfold Board.known at h
  unfold IsRequest
  simpa [hne] using h

theorem prepared_mainPng {random : UInt32 × UInt32} (h : Prepared b) (hw : Wakeful b)
    (hs : b.mainPng random = some b') : Prepared b' := by
  cases hpc : b.pc with
  | receive =>
    simp only [Wakeful, hpc] at hw
    simp only [Board.mainPng, hpc] at hs
    cases hs
    exact fun hon => absurd (hw.1.symm.trans hon) off_ne_on
  | head =>
    simp only [Prepared, hpc] at h
    simp only [Board.mainPng, hpc] at hs
    cases hs
    by_cases hflag : b.interruptFlag = RestartFlag.on
    · rw [if_pos hflag]
      exact h hflag
    · rw [if_neg hflag]
      exact fun hon => absurd hon hflag
  | restart =>
    simp only [Prepared, hpc] at h
    simp only [Board.mainPng, hpc] at hs
    cases hs
    by_cases hst : b.pangoClientData.status = RestartFlag.restart
    · rw [if_pos hst]
      trivial
    · rw [if_neg hst]
      exact isRequest_of_known h hst
  | coordinates =>
    simp only [Prepared, hpc] at h
    simp only [Board.mainPng, hpc] at hs
    cases hs
    exact ⟨h, randUint128_lt _, randUint128_lt _⟩
  | pack =>
    simp only [Prepared, hpc] at h
    simp only [Board.mainPng, hpc] at hs
    cases hs
    exact ⟨h.1, h.2, b.sendBuff, rfl⟩
  | crc =>
    simp only [Prepared, hpc] at h
    simp only [Board.mainPng, hpc] at hs
    cases hs
    obtain ⟨hreq, hmap, old, hbuff⟩ := h
    refine ⟨hreq, hmap, old, ?_⟩
    rw [hbuff, fillSendBuff]
  | transmit | rearm =>
    simp only [Board.mainPng, hpc] at hs
    cases hs
    trivial
  | clear =>
    simp only [Board.mainPng, hpc] at hs
    cases hs
    exact fun hon => absurd hon off_ne_on
  | ended => simp [Board.mainPng, hpc] at hs

theorem prepared_received (hw : Wakeful b) (harmed : b.armed = true) (hpc : b.pc ≠ .ended)
    (hn : 1 ≤ b.wrongStatus.toNat ∧ b.wrongStatus.toNat ≤ 5) (status : UInt8) :
    Prepared (b.received status) := by
  rcases received_cases hn status with ⟨-, hended, -⟩ | ⟨-, hsame, -, hflag⟩
  · simp only [Prepared, hended]
  · rcases idle_of_armed hw harmed hpc with ⟨hpc', -⟩ | hpc'
    · simp only [Prepared, hsame, hpc', received_data]
      rcases hflag with ⟨hknown, -⟩ | ⟨-, hoff, -⟩
      · exact fun _ => hknown
      · exact fun hon => absurd (hoff.symm.trans hon) off_ne_on
    · simp only [Prepared, hsame, hpc']

/-- **One step** keeps the board fit, unless a request is lost. -/
theorem fit_step (hJ : Fit m b) (hlost : NoneLost b l) (hs : board.step b l = some b') :
    Fit m b' := by
  have hwakeful := (wakeful_step hJ.wakeful hs).1.mpr hlost
  cases l with
  | main random =>
    have hprepared := prepared_mainPng hJ.prepared hJ.wakeful hs
    have hsame : b'.wrongStatus = b.wrongStatus ∧
        b'.pangoClientData.macAddress = b.pangoClientData.macAddress := by
      simp only [board, Board.mainPng] at hs
      split at hs <;> first | contradiction | (cases hs; exact ⟨rfl, rfl⟩)
    exact ⟨hsame.2.trans hJ.mac, hwakeful, hprepared, hsame.1 ▸ hJ.strikes⟩
  | interrupt status =>
    simp only [board] at hs
    split_ifs at hs with hen
    cases hs
    refine ⟨?_, hwakeful, prepared_received hJ.wakeful hen.1 hen.2 hJ.strikes status, ?_⟩
    · rw [received_data]
      exact hJ.mac
    · obtain ⟨hone, -⟩ := hJ.strikes
      rcases received_cases hJ.strikes status with
        ⟨-, -, -, hn⟩ | ⟨hlt, -, -, ⟨-, -, hn⟩ | ⟨-, -, hn⟩⟩ <;> omega

/-! ## Refinement -/

/-- A byte is a byte to the service, and the one it gives up over is answered with one. -/
theorem service_received (hJ : Fit m b) (harmed : b.armed = true) (hpc : b.pc ≠ .ended)
    (hlost : NoneLost b (.interrupt status)) :
    (service m).Exec (fun _ _ => True) b.service (seen b (.interrupt status))
      (b.received status).service := by
  obtain ⟨hone, hfive⟩ := hJ.strikes
  have hidle := idle_of_armed hJ.wakeful harmed hpc
  have hreq : b.request = none := by
    rcases hidle with ⟨hpc', hflag⟩ | hpc'
    · simp only [Board.request, hpc', hflag, if_neg off_ne_on]
    · simp only [Board.request, hpc']
  have hstep : (service m).step b.service (.byte status) = some (b.service.take status) :=
    if_pos ⟨decide_eq_false hpc, rfl, hreq⟩
  rcases received_cases hJ.strikes status with ⟨hn, hended, hseen, hn'⟩ | ⟨hlt, hsame, hseen, hbyte⟩
  · rw [hseen]
    have hreq' : (b.received status).request = none := by simp only [Board.request, hended]
    refine .cons trivial hstep (.single trivial ?_)
    simp [service, Service.take, Board.service, hreq, hreq', hended, hn, hn']
  · rw [hseen]
    refine .single trivial (hstep.trans (congrArg some ?_))
    have hgoes : ¬ (b.received status).pc = .ended := hsame ▸ hpc
    simp only [Service.take, Board.service, hreq, decide_eq_false hpc]
    rw [if_neg (by omega)]
    rcases hbyte with ⟨hknown, hflag, hn'⟩ | ⟨hknown, hflag, hn'⟩
    · -- before the flag is reset, no known byte comes
      have hhead : b.pc = .head := by
        rcases hidle with ⟨hpc', -⟩ | hpc'
        · exact hpc'
        · have hfifth := (fifth_iff hJ.strikes).mp (hlost hpc' hknown)
          omega
      simp [Board.request, hsame, hhead, hflag, hknown, hn', received_data]
    · have hnone : (b.received status).request = none := by
        rcases hidle with ⟨hpc', -⟩ | hpc'
        · simp only [Board.request, hsame, hpc', hflag, if_neg off_ne_on]
        · simp only [Board.request, hsame, hpc']
      simp only [hknown, Bool.false_eq_true, if_false, hnone, hn', decide_eq_false hgoes,
        Service.mk.injEq, and_true]
      omega

/-- What is ready in the buffer when it is sent is an answer of the service. -/
theorem service_transmit (hJ : Fit m b) (hpc : b.pc = .transmit)
    (hs : board.step b (.main random) = some b') :
    (service m).step b.service (.answer b.sendBuff) = some b'.service := by
  have hprepared := hJ.prepared
  simp only [Prepared, hpc] at hprepared
  obtain ⟨hreq, hmap, old, hbuff⟩ := hprepared
  have hserving : Serving m b.sendBuff := by
    obtain ⟨hx, hy, hcrc⟩ := inOrder_fillSendBuff hmap old
    rw [hbuff]
    exact ⟨(status_fillSendBuff _ _).symm ▸ hreq, (mac_fillSendBuff _ _).trans
      (congrArg Buf.toList hJ.mac), hx, hy, hcrc⟩
  have hready : b.service.ended = false ∧ b.service.request = some b.sendBuff.status ∧
      Serving m b.sendBuff := by
    refine ⟨by simp [Board.service, hpc], ?_, hserving⟩
    simp only [Board.service, Board.request, hpc, hbuff, status_fillSendBuff]
  simp only [board, Board.mainPng, hpc] at hs
  cases hs
  simp only [service, if_pos hready]
  simp [Board.service, Board.request, hpc]

/-- What is seen of a statement of the main program is a step of the service, or none. -/
theorem service_main (hJ : Fit m b) (hs : board.step b (.main random) = some b') :
    (service m).Exec (fun _ _ => True) b.service (seen b (.main random)) b'.service := by
  -- a statement of which nothing is seen changes nothing
  have hstays : seen b (.main random) = [] → b'.service = b.service →
      (service m).Exec (fun _ _ => True) b.service (seen b (.main random)) b'.service :=
    fun hseen hsame => by
      rw [hseen, hsame]
      exact .nil
  cases hpc : b.pc with
  | transmit =>
    simp only [seen, hpc]
    exact .single trivial (service_transmit hJ hpc hs)
  | restart =>
    by_cases hst : b.pangoClientData.status = RestartFlag.restart
    · have htold : b.service.ended = false ∧ b.service.request = some RestartFlag.restart :=
        ⟨by simp [Board.service, hpc], by simp only [Board.service, Board.request, hpc, hst]⟩
      simp only [board, Board.mainPng, hpc, if_pos hst] at hs
      cases hs
      simp only [seen, hpc, if_pos hst]
      refine .single trivial ?_
      simp only [service, if_pos htold]
      simp [Board.service, Board.request]
    · refine hstays (by simp only [seen, hpc, if_neg hst]) ?_
      simp only [board, Board.mainPng, hpc, if_neg hst] at hs
      cases hs
      simp [Board.service, Board.request, hpc]
  | receive =>
    have hwakeful := hJ.wakeful
    simp only [Wakeful, hpc] at hwakeful
    refine hstays (by simp only [seen, hpc]) ?_
    simp only [board, Board.mainPng, hpc] at hs
    cases hs
    simp [Board.service, Board.request, hpc, hwakeful.1, off_ne_on]
  | head =>
    refine hstays (by simp only [seen, hpc]) ?_
    simp only [board, Board.mainPng, hpc] at hs
    cases hs
    by_cases hflag : b.interruptFlag = RestartFlag.on <;>
      simp [Board.service, Board.request, hpc, hflag]
  | coordinates | pack | crc | rearm =>
    refine hstays (by simp only [seen, hpc]) ?_
    simp only [board, Board.mainPng, hpc] at hs
    cases hs
    simp [Board.service, Board.request, hpc, getCoordinates]
  | clear =>
    refine hstays (by simp only [seen, hpc]) ?_
    simp only [board, Board.mainPng, hpc] at hs
    cases hs
    simp [Board.service, Board.request, hpc, off_ne_on]
  | ended => simp [board, Board.mainPng, hpc] at hs

theorem service_step (hJ : Fit m b) (hlost : NoneLost b l) (hs : board.step b l = some b') :
    (service m).Exec (fun _ _ => True) b.service (seen b l) b'.service := by
  cases l with
  | main random => exact service_main hJ hs
  | interrupt status =>
    simp only [board] at hs
    split_ifs at hs with hen
    cases hs
    exact service_received hJ hen.1 hen.2 hlost

end Step

theorem fit_start (m : Buf UInt8 6) : Fit m (.start m) where
  mac := rfl
  wakeful := ⟨rfl, rfl⟩
  prepared := trivial
  strikes := ⟨Nat.le_refl 1, Nat.le_add_left 1 4⟩

/-- **The board is the service.**  In every run in which no request is lost, what is seen of
the board, byte by byte and frame by frame, is a run of the service, and it leads to what is
seen of the board at the end. -/
theorem serves {m : Buf UInt8 6} {ls : List Label} {b : Board} {acts : List Act}
    (h : (board.watched (Lts.writeDown seen)).Exec (fun p l => NoneLost p.1 l)
      (.start m, []) ls (b, acts)) :
    (service m).Exec (fun _ _ => True) {} acts b.service := by
  have hrun := (h.strengthen (I := fun p => Fit m p.1) (fit_start m) fun p l q hC hJ hs =>
    fit_step hJ hC (Lts.watched_step hs).1).1
  exact Lts.Exec.refines (C := fun b l => NoneLost b l ∧ Fit m b) hrun Board.service
    fun b l b' hC hs => service_step hC.2 hC.1 hs

/-- Two unknown bytes, a request that is answered, two more unknown bytes, and a request. -/
def sixBytes : List Label :=
  [.main (0, 0), .interrupt 9, .interrupt 0, .interrupt RestartFlag.on] ++
    List.replicate 8 (.main (300, 7)) ++ [.interrupt 255, .interrupt 9, .interrupt RestartFlag.off]

/-- The service answers the first request and is over with the second. -/
theorem serves_once : ∃ (b : Board) (acts : List Act),
    b.transmitted.map Frame.status = [RestartFlag.on] ∧ b.service = ⟨4, none, false, true⟩ ∧
      (service (.fill 6 0)).Exec (fun _ _ => True) {} acts b.service := by
  have hrun : (((board.watched (Lts.writeDown seen)).runIf (fun p l => NoneLost p.1 l)
      (.start (.fill 6 0), []) sixBytes).map
        fun p => (p.1.transmitted.map Frame.status, p.1.service))
      = some ([RestartFlag.on], ⟨4, none, false, true⟩) := by decide +kernel
  obtain ⟨⟨b, acts⟩, hp, hparts⟩ := Option.map_eq_some_iff.mp hrun
  obtain ⟨hans, hservice⟩ := Prod.mk.inj hparts
  exact ⟨b, acts, hans, hservice, serves (Lts.exec_of_runIf _ hp)⟩

/-! ## The end of the board -/

/-- The last that was seen is the reset the byte before it asked for, or a byte behind the
fourth unknown one and what was sent for `HARDWARE_ERROR`. -/
def Fatal (acts : List Act) : Prop :=
  (∃ before, acts = before ++ [.byte RestartFlag.restart, .reset]) ∨
    ∃ before status, acts = before ++ [.byte status, .hardwareError] ∧ unknowns before = 4

/-- Only a reset and a `HARDWARE_ERROR` are fatal. -/
theorem not_fatal_concat {acts : List Act} {a : Act} (hreset : a ≠ .reset)
    (herror : a ≠ .hardwareError) : ¬ Fatal (acts ++ [a]) := by
  rintro (⟨before, heq⟩ | ⟨before, status, heq, -⟩)
  · exact hreset (by simpa using congrArg List.getLast? heq)
  · exact herror (by simpa using congrArg List.getLast? heq)

/-- What the bytes have come to. -/
structure Counted (p : Board × List Act) : Prop where
  awake : Wakeful p.1 ∨ Deaf p.1
  strikes : p.1.pc ≠ .ended → p.1.wrongStatus.toNat = unknowns p.2 + 1 ∧ unknowns p.2 ≤ 4
  /-- A byte that is being looked at is the last that was seen. -/
  asked : p.1.pc = .head ∧ p.1.interruptFlag = RestartFlag.on ∨ p.1.pc = .restart →
    ∃ before, p.2 = before ++ [.byte p.1.pangoClientData.status]
  ended : p.1.pc = .ended ↔ Fatal p.2

section Count

variable {b b' : Board} {acts : List Act} {l : Label}

theorem Counted.goes_on (hJ : Counted (b, acts)) (hpc : b.pc ≠ .ended) (hpc' : b'.pc ≠ .ended)
    (hawake : Wakeful b' ∨ Deaf b') (hsame : b'.wrongStatus = b.wrongStatus)
    (hasked : b'.pc = .head ∧ b'.interruptFlag = RestartFlag.on ∨ b'.pc = .restart →
      ∃ before, acts = before ++ [.byte b'.pangoClientData.status]) : Counted (b', acts) where
  awake := hawake
  strikes _ := hsame ▸ hJ.strikes hpc
  asked := hasked
  ended := iff_of_false hpc' (mt hJ.ended.mpr hpc)

theorem counted_main {random : UInt32 × UInt32} (hJ : Counted (b, acts))
    (hs : b.mainPng random = some b') :
    Counted (b', acts ++ seen b (.main random)) := by
  have hawake : Wakeful b' ∨ Deaf b' := wakeful_or_deaf_step (l := .main random) hJ.awake hs
  cases hpc : b.pc with
  | ended => simp [Board.mainPng, hpc] at hs
  | receive =>
    -- no byte has come yet
    have hoff : b.interruptFlag = RestartFlag.off := by
      rcases hJ.awake with hw | ⟨-, hno | ⟨hno, -⟩⟩
      · simp only [Wakeful, hpc] at hw
        exact hw.1
      · cases hpc.symm.trans hno
      · cases hpc.symm.trans hno
    simp only [Board.mainPng, hpc] at hs
    cases hs
    simp only [seen, hpc, List.append_nil]
    refine hJ.goes_on (hpc ▸ Pc.noConfusion) Pc.noConfusion hawake rfl fun hno => ?_
    rcases hno with ⟨-, hno⟩ | hno
    · exact absurd (hoff.symm.trans hno) off_ne_on
    · cases hno
  | head =>
    simp only [Board.mainPng, hpc] at hs
    cases hs
    simp only [seen, hpc, List.append_nil]
    by_cases hflag : b.interruptFlag = RestartFlag.on
    · rw [if_pos hflag] at hawake ⊢
      exact hJ.goes_on (hpc ▸ Pc.noConfusion) Pc.noConfusion hawake rfl
        fun _ => hJ.asked (.inl ⟨hpc, hflag⟩)
    · rw [if_neg hflag] at hawake ⊢
      refine hJ.goes_on (hpc ▸ Pc.noConfusion) Pc.noConfusion hawake rfl fun hno => ?_
      rcases hno with ⟨-, hno⟩ | hno
      · exact absurd hno hflag
      · cases hno
  | restart =>
    obtain ⟨before, hacts⟩ := hJ.asked (.inr hpc)
    simp only [Board.mainPng, hpc] at hs
    cases hs
    by_cases hst : b.pangoClientData.status = RestartFlag.restart
    · rw [if_pos hst] at hawake ⊢
      simp only [seen, hpc, if_pos hst]
      refine ⟨hawake, fun hno => absurd rfl hno, fun hno => ?_, iff_of_true rfl (.inl ⟨before, ?_⟩)⟩
      · rcases hno with ⟨hno, -⟩ | hno <;> cases hno
      · rw [show acts = before ++ [.byte b.pangoClientData.status] from hacts, hst,
          List.append_assoc]
        rfl
    · rw [if_neg hst] at hawake ⊢
      simp only [seen, hpc, if_neg hst, List.append_nil]
      refine hJ.goes_on (hpc ▸ Pc.noConfusion) Pc.noConfusion hawake rfl fun hno => ?_
      rcases hno with ⟨hno, -⟩ | hno <;> cases hno
  | transmit =>
    simp only [Board.mainPng, hpc] at hs
    cases hs
    simp only [seen, hpc]
    refine ⟨hawake, fun _ => ?_, fun hno => ?_,
      iff_of_false Pc.noConfusion (not_fatal_concat (by simp) (by simp))⟩
    · rw [unknowns, List.countP_append]
      exact hJ.strikes (hpc ▸ Pc.noConfusion)
    · rcases hno with ⟨hno, -⟩ | hno <;> cases hno
  | coordinates | pack | crc | rearm =>
    simp only [Board.mainPng, hpc] at hs
    cases hs
    simp only [seen, hpc, List.append_nil]
    refine hJ.goes_on (hpc ▸ Pc.noConfusion) Pc.noConfusion hawake rfl fun hno => ?_
    rcases hno with ⟨hno, -⟩ | hno <;> cases hno
  | clear =>
    simp only [Board.mainPng, hpc] at hs
    cases hs
    simp only [seen, hpc, List.append_nil]
    refine hJ.goes_on (hpc ▸ Pc.noConfusion) Pc.noConfusion hawake rfl fun hno => ?_
    rcases hno with ⟨-, hno⟩ | hno
    · exact absurd hno off_ne_on
    · cases hno

theorem counted_received (hJ : Counted (b, acts)) (hpc : b.pc ≠ .ended) (harmed : b.armed = true)
    (status : UInt8) : Counted (b.received status, acts ++ seen b (.interrupt status)) := by
  obtain ⟨hn, hle⟩ : b.wrongStatus.toNat = unknowns acts + 1 ∧ unknowns acts ≤ 4 := hJ.strikes hpc
  have hawake : Wakeful (b.received status) ∨ Deaf (b.received status) :=
    wakeful_or_deaf_step (l := .interrupt status) hJ.awake (if_pos ⟨harmed, hpc⟩)
  rcases received_cases (b := b) ⟨by omega, by omega⟩ status with
    ⟨hfive, hended, hseen, -⟩ | ⟨hlt, hsame, hseen, hbyte⟩
  · rw [hseen]
    refine ⟨hawake, fun hno => absurd hended hno, fun hno => ?_,
      iff_of_true hended (.inr ⟨acts, status, rfl, by omega⟩)⟩
    simp [hended] at hno
  · rw [hseen]
    refine ⟨hawake, fun _ => ?_, fun _ => ⟨acts, by rw [received_data]⟩,
      iff_of_false (hsame ▸ hpc) (not_fatal_concat (by simp) (by simp))⟩
    rw [unknowns, List.countP_append, List.countP_singleton]
    rcases hbyte with ⟨hknown, -, hn'⟩ | ⟨hknown, -, hn'⟩
    · simp only [Act.unknown, hknown]
      exact ⟨hn'.trans hn, hle⟩
    · simp only [Act.unknown, hknown]
      refine ⟨by rw [hn', hn]; rfl, ?_⟩
      show unknowns acts + 1 ≤ 4
      omega

theorem counted_step {p q : Board × List Act} (hJ : Counted p)
    (hs : (board.watched (Lts.writeDown seen)).step p l = some q) : Counted q := by
  obtain ⟨b, acts⟩ := p
  obtain ⟨b', acts'⟩ := q
  obtain ⟨hs, rfl⟩ := Lts.watched_step hs
  cases l with
  | main random => exact counted_main hJ hs
  | interrupt status =>
    simp only [board] at hs
    split_ifs at hs with hen
    cases hs
    exact counted_received hJ hen.2 hen.1 status

end Count

/-- **How the board ends.**  In every run, whether requests are lost or not, the board has
ended exactly if the last that was seen of it is the reset the byte before it asked for, or a
byte, known or not, behind the fourth unknown one, and the byte sent for `HARDWARE_ERROR`; that
requests have been answered between the unknown bytes does not help. -/
theorem gives_up_iff {m : Buf UInt8 6} {ls : List Label} {b : Board} {acts : List Act}
    (h : (board.watched (Lts.writeDown seen)).Exec (fun _ _ => True) (.start m, []) ls (b, acts)) :
    b.pc = .ended ↔ Fatal acts := by
  have hstart : Counted (Board.start m, []) := by
    refine ⟨.inl ⟨rfl, rfl⟩, fun _ => ⟨rfl, Nat.zero_le 4⟩, fun hno => ?_,
      iff_of_false Pc.noConfusion ?_⟩
    · rcases hno with ⟨hno, -⟩ | hno <;> cases hno
    · rintro (⟨before, heq⟩ | ⟨before, status, heq, -⟩) <;> simp at heq
  exact (h.invariant hstart fun p l q _ hJ hs => counted_step hJ hs).ended

/-- A request that is answered, and one that ends the board. -/
theorem gives_up_on_request : ∃ (b : Board) (acts : List Act),
    b.transmitted.map Frame.status = [RestartFlag.on] ∧ Fatal acts := by
  have hrun : (((board.watched (Lts.writeDown seen)).run (.start (.fill 6 0), []) sixBytes).map
      fun p => (p.1.transmitted.map Frame.status, p.1.pc))
      = some ([RestartFlag.on], .ended) := by decide +kernel
  obtain ⟨⟨b, acts⟩, hp, hparts⟩ := Option.map_eq_some_iff.mp hrun
  obtain ⟨hans, hpc⟩ := Prod.mk.inj hparts
  exact ⟨b, acts, hans, (gives_up_iff (Lts.exec_of_run _ hp)).mp hpc⟩

end Pango.Stm
