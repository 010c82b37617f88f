import Pango.Stm.Png

/-!
# The STM board answers in order

The status byte of a request is written by the UART into the very structure that
`main_PNG` packs, without a copy.  That no answer carries the byte of another
request rests on where the receive is armed: between the packing and the sending
it never is.

An observer notes the requests the callback accepts; the board keeps in step with the notes,
a request behind at most, except for one that is accepted before the flag is lowered, which
is never answered and after which nothing is accepted any more.

* `noteAccepted` — the requests the callback has accepted.
* `Echoes` — statement by statement, what is still to be answered.
* `echo_in_order` — in every run the statuses that have been sent are a prefix of
  the requests that have been accepted, and every frame sent is in order.
-/

namespace Pango.Stm

/-! ## Requests and answers -/

/-- The statuses that ask for an answer. -/
def IsRequest (status : UInt8) : Prop := status = RestartFlag.on ∨ status = RestartFlag.off

instance (status : UInt8) : Decidable (IsRequest status) := inferInstanceAs (Decidable (_ ∨ _))

/-- The requests `HAL_UART_RxCpltCallback` has accepted: those it has raised the flag for. -/
def noteAccepted (b : Board) : Label → List UInt8 → List UInt8
  | .main _, accepted => accepted
  | .interrupt status, accepted =>
    if (b.received status).pc ≠ .ended ∧ (b.received status).interruptFlag = RestartFlag.on
        ∧ IsRequest status then accepted ++ [status] else accepted

/-- The statuses that have been sent. -/
def Board.answered (b : Board) : List UInt8 := b.transmitted.map Frame.status

/-- A frame as the board should send it. -/
structure InOrder (f : Frame) : Prop where
  x : f.x < 128
  y : f.y < 128
  crc : f.crc = calculateCrc8 f.toList 9

/-- Both coordinates are on the map. -/
def OnMap (d : PangoClientData) : Prop := d.xCoor < 128 ∧ d.yCoor < 128

/-- The byte received last is to be answered, or is `RESTART`. -/
def Due (b : Board) (accepted : List UInt8) : Prop :=
  accepted = b.answered ++ [b.pangoClientData.status] ∨
    b.pangoClientData.status = RestartFlag.restart ∧ accepted = b.answered

/-- The byte received last is to be answered, and cannot change until it has been. -/
def Answering (b : Board) (accepted : List UInt8) : Prop :=
  b.armed = false ∧ accepted = b.answered ++ [b.pangoClientData.status]

/-- While a receive is armed, everything has been answered; else a request may have been
lost. -/
def Rested (b : Board) (accepted : List UInt8) : Prop :=
  (b.armed = true → accepted = b.answered) ∧ b.answered <+: accepted

/-- What is still to be answered, statement by statement. -/
def Echoes (b : Board) (accepted : List UInt8) : Prop :=
  match b.pc with
  | .receive => b.interruptFlag = RestartFlag.off ∧ b.armed = false ∧ accepted = b.answered
  | .head => (b.interruptFlag = RestartFlag.on ∧ b.armed = false ∧ Due b accepted)
      ∨ (b.interruptFlag = RestartFlag.off ∧ Rested b accepted)
  | .restart => b.armed = false ∧ Due b accepted
  | .coordinates => Answering b accepted
  | .pack => Answering b accepted ∧ OnMap b.pangoClientData
  | .crc => Answering b accepted ∧ OnMap b.pangoClientData ∧
      ∃ old, b.sendBuff = packPangoBuffer b.pangoClientData old
  | .transmit => Answering b accepted ∧ OnMap b.pangoClientData ∧
      ∃ old, b.sendBuff = fillSendBuff b.pangoClientData old
  | .rearm => b.armed = false ∧ accepted = b.answered
  | .clear => Rested b accepted
  | .ended => b.answered <+: accepted

/-- The invariant. -/
structure Faithful (p : Board × List UInt8) : Prop where
  echoes : Echoes p.1 p.2
  requests : ∀ status ∈ p.2, IsRequest status
  frames : ∀ f ∈ p.1.transmitted, InOrder f

/-! ## One step -/

section Step

variable {b b' : Board} {accepted : List UInt8}

/-- The generator's numbers are cut to seven bits. -/
theorem randUint128_lt (random : UInt32) : randUint128 random < 128 := by
  have hlt : (random % 128).toNat < 128 := by
    rw [UInt32.toNat_mod]
    exact Nat.mod_lt _ (by decide)
  rw [randUint128, UInt8.lt_iff_toNat_lt, UInt32.toNat_toUInt8]
  exact (Nat.mod_le _ _).trans_lt hlt

/-- What `main_PNG` makes of the data is a frame in order. -/
theorem inOrder_fillSendBuff {d : PangoClientData} (h : OnMap d) (old : Frame) :
    InOrder (fillSendBuff d old) where
  x := by
    rw [x_fillSendBuff]
    exact h.1
  y := by
    rw [y_fillSendBuff]
    exact h.2
  crc := crc_fillSendBuff d old

theorem Due.answer (h : Due b accepted) (hst : b.pangoClientData.status ≠ RestartFlag.restart) :
    accepted = b.answered ++ [b.pangoClientData.status] := h.resolve_right fun hr => hst hr.1

theorem Due.isPrefix (h : Due b accepted) : b.answered <+: accepted := by
  rcases h with h | ⟨-, h⟩
  · rw [h]
    exact List.prefix_append _ _
  · exact h ▸ List.prefix_rfl

theorem echoes_mainPng {random : UInt32 × UInt32} (h : Echoes b accepted)
    (hs : b.mainPng random = some b') : Echoes b' accepted := by
  cases hpc : b.pc with
  | receive =>
    simp only [Echoes, hpc] at h
    simp only [Board.mainPng, hpc] at hs
    cases hs
    obtain ⟨hflag, -, hacc⟩ := h
    exact .inr ⟨hflag, fun _ => hacc, hacc ▸ List.prefix_rfl⟩
  | head =>
    simp only [Echoes, hpc] at h
    simp only [Board.mainPng, hpc] at hs
    cases hs
    rcases h with ⟨hflag, harmed, hdue⟩ | ⟨hflag, hrest⟩
    · rw [if_pos hflag]
      exact ⟨harmed, hdue⟩
    · rw [if_neg (hflag ▸ off_ne_on)]
      exact .inr ⟨hflag, hrest⟩
  | restart =>
    simp only [Echoes, hpc] at h
    simp only [Board.mainPng, hpc] at hs
    cases hs
    obtain ⟨harmed, hdue⟩ := h
    by_cases hst : b.pangoClientData.status = RestartFlag.restart
    · rw [if_pos hst]
      exact hdue.isPrefix
    · rw [if_neg hst]
      exact ⟨harmed, hdue.answer hst⟩
  | coordinates =>
    simp only [Echoes, hpc] at h
    simp only [Board.mainPng, hpc] at hs
    cases hs
    exact ⟨h, randUint128_lt _, randUint128_lt _⟩
  | pack =>
    simp only [Echoes, hpc] at h
    simp only [Board.mainPng, hpc] at hs
    cases hs
    exact ⟨h.1, h.2, b.sendBuff, rfl⟩
  | crc =>
    simp only [Echoes, hpc] at h
    simp only [Board.mainPng, hpc] at hs
    cases hs
    obtain ⟨hans, hmap, old, hbuff⟩ := h
    refine ⟨hans, hmap, old, ?_⟩
    rw [hbuff, fillSendBuff]
  | transmit =>
    simp only [Echoes, hpc] at h
    simp only [Board.mainPng, hpc] at hs
    cases hs
    obtain ⟨⟨harmed, hacc⟩, -, old, hbuff⟩ := h
    refine ⟨harmed, ?_⟩
    rw [Board.answered, List.map_append, List.map_singleton, hbuff, status_fillSendBuff]
    exact hacc
  | rearm =>
    simp only [Echoes, hpc] at h
    simp only [Board.mainPng, hpc] at hs
    cases hs
    exact ⟨fun _ => h.2, h.2 ▸ List.prefix_rfl⟩
  | clear =>
    simp only [Echoes, hpc] at h
    simp only [Board.mainPng, hpc] at hs
    cases hs
    exact .inr ⟨rfl, h⟩
  | ended => simp [Board.mainPng, hpc] at hs

/-- A byte can arrive at the head of the loop and before the flag is reset only. -/
theorem rested_of_armed (h : Echoes b accepted) (harmed : b.armed = true) (hpc : b.pc ≠ .ended) :
    (b.pc = .head ∨ b.pc = .clear) ∧ accepted = b.answered := by
  cases hpc' : b.pc with
  | head =>
    simp only [Echoes, hpc'] at h
    rcases h with ⟨-, hno, -⟩ | ⟨-, hrest⟩
    · rw [hno] at harmed
      cases harmed
    · exact ⟨.inl rfl, hrest.1 harmed⟩
  | clear =>
    simp only [Echoes, hpc'] at h
    exact ⟨.inr rfl, h.1 harmed⟩
  | ended => exact absurd hpc' hpc
  | receive | restart | coordinates | pack | crc | transmit | rearm =>
    simp [Echoes, hpc', Answering, harmed] at h

/-- The callback accepts a request unless too many unknown statuses came before. -/
theorem noteAccepted_interrupt (b : Board) (status : UInt8) (accepted : List UInt8)
    (hpc : b.pc ≠ .ended) : noteAccepted b (.interrupt status) accepted
      = if b.wrongStatus % 5 ≠ 0 ∧ IsRequest status then accepted ++ [status] else accepted := by
  have hflag : RestartFlag.off ≠ RestartFlag.on := off_ne_on
  unfold noteAccepted Board.received Board.rxCpltCallback
  by_cases hwrong : b.wrongStatus % 5 = 0
  · simp [hwrong]
  · by_cases hreq : IsRequest status
    · have hknown : Board.known status = true := by
        rcases hreq with rfl | rfl <;> rfl
      simp [hwrong, hknown, hreq, hpc]
    · simp [hreq]

theorem echoes_received (h : Echoes b accepted) (harmed : b.armed = true) (hpc : b.pc ≠ .ended)
    (status : UInt8) :
    Echoes (b.received status) (noteAccepted b (.interrupt status) accepted) := by
  obtain ⟨hpc', hacc⟩ := rested_of_armed h harmed hpc
  rw [noteAccepted_interrupt b status accepted hpc]
  unfold Board.received Board.rxCpltCallback
  dsimp only
  by_cases hwrong : b.wrongStatus % 5 = 0
  · rw [if_pos hwrong, if_neg fun hno => hno.1 hwrong]
    exact hacc ▸ List.prefix_rfl
  · rw [if_neg hwrong]
    by_cases hknown : Board.known status = true
    · rw [if_pos hknown]
      have hdue : Due { b with pangoClientData := { b.pangoClientData with status } }
          (if b.wrongStatus % 5 ≠ 0 ∧ IsRequest status then accepted ++ [status]
            else accepted) := by
        by_cases hreq : IsRequest status
        · rw [if_pos ⟨hwrong, hreq⟩]
          exact .inl (congrArg (· ++ [status]) hacc)
        · rw [if_neg fun hyes => hreq hyes.2]
          refine .inr ⟨?_, hacc⟩
          unfold IsRequest at hreq
          unfold Board.known at hknown
          simpa [not_or.mp hreq] using hknown
      -- at the head of the loop it will be answered; before the flag is reset it is lost
      rcases hpc' with hpc' | hpc'
      · simp only [Echoes, hpc']
        exact .inl ⟨trivial, trivial, hdue⟩
      · simp only [Echoes, hpc']
        exact ⟨fun hno => (nomatch hno), hdue.isPrefix⟩
    · rw [if_neg hknown, if_neg ?_]
      · have hrest : ∀ b' : Board, b'.transmitted = b.transmitted → Rested b' accepted := by
          intro b' hb'
          have hans : accepted = b'.answered := hacc.trans (congrArg (List.map _) hb'.symm)
          exact ⟨fun _ => hans, hans ▸ List.prefix_rfl⟩
        rcases hpc' with hpc' | hpc'
        · simp only [Echoes, hpc']
          exact .inr ⟨trivial, hrest _ rfl⟩
        · simp only [Echoes, hpc']
          exact hrest _ rfl
      · rintro ⟨-, hreq⟩
        rcases hreq with rfl | rfl <;> exact hknown rfl

theorem faithful_step {p q : Board × List UInt8} {l : Label} (hJ : Faithful p)
    (hs : (board.watched noteAccepted).step p l = some q) : Faithful q := by
  obtain ⟨b, accepted⟩ := p
  obtain ⟨b', accepted'⟩ := q
  obtain ⟨hs, rfl⟩ := Lts.watched_step hs
  cases l with
  | main random =>
    refine ⟨echoes_mainPng hJ.echoes hs, hJ.requests, fun f hf => ?_⟩
    by_cases hpc : b.pc = .transmit
    · have hecho := hJ.echoes
      simp only [Echoes, hpc] at hecho
      obtain ⟨-, hmap, old, hbuff⟩ := hecho
      simp only [board, Board.mainPng, hpc] at hs
      cases hs
      rcases List.mem_append.mp hf with hf | hf
      · exact hJ.frames f hf
      · rw [List.mem_singleton.mp hf, hbuff]
        exact inOrder_fillSendBuff hmap old
    · have hsame : b'.transmitted = b.transmitted := by
        simp only [board, Board.mainPng] at hs
        split at hs <;> first | contradiction | (cases hs; rfl)
      exact hJ.frames f (hsame ▸ hf)
  | interrupt status =>
    simp only [board] at hs
    split_ifs at hs with hen
    cases hs
    refine ⟨echoes_received hJ.echoes hen.1 hen.2 status, fun st hst => ?_, fun f hf => ?_⟩
    · rw [noteAccepted_interrupt b status accepted hen.2] at hst
      split_ifs at hst with hacc
      · rcases List.mem_append.mp hst with hst | hst
        · exact hJ.requests st hst
        · exact List.mem_singleton.mp hst ▸ hacc.2
      · exact hJ.requests st hst
    · have hsame : (b.received status).transmitted = b.transmitted := by
        unfold Board.received Board.rxCpltCallback
        dsimp only
        split_ifs <;> rfl
      exact hJ.frames f (hsame ▸ hf)

/-- What is sent is, at any time, what was asked for up to some request. -/
theorem Echoes.isPrefix (h : Echoes b accepted) : b.answered <+: accepted := by
  cases hpc : b.pc with
  | receive =>
    simp only [Echoes, hpc] at h
    exact h.2.2 ▸ List.prefix_rfl
  | head =>
    simp only [Echoes, hpc] at h
    rcases h with ⟨-, -, hdue⟩ | ⟨-, hrest⟩
    · exact hdue.isPrefix
    · exact hrest.2
  | restart =>
    simp only [Echoes, hpc] at h
    exact h.2.isPrefix
  | coordinates =>
    simp only [Echoes, hpc] at h
    exact h.2 ▸ List.prefix_append _ _
  | pack | crc | transmit =>
    simp only [Echoes, hpc] at h
    exact h.1.2 ▸ List.prefix_append _ _
  | rearm =>
    simp only [Echoes, hpc] at h
    exact h.2 ▸ List.prefix_rfl
  | clear =>
    simp only [Echoes, hpc] at h
    exact h.2
  | ended => simpa only [Echoes, hpc] using h

end Step

/-- **The board answers in order.**  In every run, wherever the bytes arrive, the statuses
that have been sent are a prefix of the requests that have been accepted; nothing else is
answered, and every frame has its coordinates on the map and its check byte right. -/
theorem echo_in_order {macAddress : Buf UInt8 6} {ls : List Label} {b : Board}
    {accepted : List UInt8} (h : (board.watched noteAccepted).Exec (fun _ _ => True)
      (.start macAddress, []) ls (b, accepted)) :
    b.transmitted.map Frame.status <+: accepted ∧ (∀ status ∈ accepted, IsRequest status) ∧
      ∀ f ∈ b.transmitted, InOrder f := by
  have hstart : Faithful (.start macAddress, []) :=
    ⟨⟨rfl, rfl, rfl⟩, fun _ hst => (nomatch hst), fun _ hf => (nomatch hf)⟩
  have hJ := h.invariant hstart fun _ _ _ _ hJ hs => faithful_step hJ hs
  exact ⟨hJ.echoes.isPrefix, hJ.requests, hJ.frames⟩

/-- An unknown byte and two requests, the second of which comes before the flag is reset. -/
def threeBytes : List Label :=
  [.main (0, 0), .interrupt 9, .interrupt RestartFlag.on] ++ List.replicate 7 (.main (300, 7)) ++
    [.interrupt RestartFlag.off, .main (0, 0), .main (0, 0)]

/-- The first is answered, and the second has been lost. -/
theorem echo_of_first : ∃ (b : Board) (accepted : List UInt8),
    b.transmitted.map Frame.status = [RestartFlag.on] ∧
      accepted = [RestartFlag.on, RestartFlag.off] ∧
      b.transmitted.map Frame.status <+: accepted := by
  have hrun : (((board.watched noteAccepted).run (.start (.fill 6 0), []) threeBytes).map
      fun p => (p.1.transmitted.map Frame.status, p.2))
      = some ([RestartFlag.on], [RestartFlag.on, RestartFlag.off]) := by decide +kernel
  obtain ⟨⟨b, accepted⟩, hp, hparts⟩ := Option.map_eq_some_iff.mp hrun
  obtain ⟨hans, hacc⟩ := Prod.mk.inj hparts
  exact ⟨b, accepted, hans, hacc, (echo_in_order (Lts.exec_of_run _ hp)).1⟩

end Pango.Stm
