import Pango.Server.Billing

/-!
# After a payment

A device that has received its bill may be back before the row of the parking it
paid for has been deleted: the thread sends the bill first, and deletes the row in a later
critical section.  If the device is looked up after that, the next parking starts from
zero; if it is looked up in between, the parking it has paid for is resumed, and the
seconds of it are billed once more.

It is a matter of a moment, but nothing makes the device wait.

* `HeardAfterPayment`, `LookedUpAfterDeletion` — when the device is heard again, and
  when it is looked up.
* `StartsAfresh` — every parking after a payment starts from zero.
* `starts_afresh` — the bills of a device that is never looked up in between.
* `paid_twice` — a device that is.
-/

namespace Pango.Server

open CInt

variable {D : Type*}

/-! ## The condition -/

/-- The device is heard on a connection only when it has been sent the bill of its
last parking, and its other connections are past that point or have not been
heard. -/
def HeardAfterPayment (others : State D → ℕ → (ℕ → Thread → Prop) → Prop) (macOf : ℕ → Buf UInt8 6)
    (m : Buf UInt8 6) (s : State D) : Label → Prop
  | .client i _ => macOf i = m → ∀ t ∈ s.thread i, t.Early → t.pc = .check →
      (others s i fun j u => macOf j = m → u.Early ∨ u.pc.over = true) ∧
        (s.meterOf macOf m).parking = none
  | _ => True

/-- The device is looked up only when none of its other connections has its row
left to delete. -/
def LookedUpAfterDeletion (others : State D → ℕ → (ℕ → Thread → Prop) → Prop)
    (macOf : ℕ → Buf UInt8 6) (m : Buf UInt8 6) (s : State D) : Label → Prop
  | .client i _ => macOf i = m → ∀ t ∈ s.thread i, t.pc = .exist →
      others s i fun j u => macOf j = m → u.pc ≠ .remove
  | _ => True

instance (n : ℕ) (macOf : ℕ → Buf UInt8 6) (m : Buf UInt8 6) (s : State D) :
    (l : Label) → Decidable (HeardAfterPayment (OthersBelow n) macOf m s l)
  | .client i _ => inferInstanceAs (Decidable (macOf i = m → ∀ t ∈ s.thread i, _))
  | .accept .. | .backup .. => isTrue trivial

instance (n : ℕ) (macOf : ℕ → Buf UInt8 6) (m : Buf UInt8 6) (s : State D) :
    (l : Label) → Decidable (LookedUpAfterDeletion (OthersBelow n) macOf m s l)
  | .client i _ => inferInstanceAs (Decidable (macOf i = m → ∀ t ∈ s.thread i, _))
  | .accept .. | .backup .. => isTrue trivial

theorem HeardAfterPayment.of_below {n : ℕ} {macOf : ℕ → Buf UInt8 6} {m : Buf UInt8 6} {s : State D}
    {l : Label} (h : HeardAfterPayment (OthersBelow n) macOf m s l)
    (hothers : ∀ i P, OthersBelow n s i P → Others s i P) :
    HeardAfterPayment Others macOf m s l := by
  cases l with
  | client i env =>
    intro hm t ht he hpc
    obtain ⟨hrest, hnone⟩ := h hm t ht he hpc
    exact ⟨hothers i _ hrest, hnone⟩
  | accept i fd => trivial
  | backup c f => trivial

theorem LookedUpAfterDeletion.of_below {n : ℕ} {macOf : ℕ → Buf UInt8 6} {m : Buf UInt8 6}
    {s : State D} {l : Label} (h : LookedUpAfterDeletion (OthersBelow n) macOf m s l)
    (hothers : ∀ i P, OthersBelow n s i P → Others s i P) :
    LookedUpAfterDeletion Others macOf m s l := by
  cases l with
  | client i env => exact fun hm t ht hpc => hothers i _ (h hm t ht hpc)
  | accept i fd => trivial
  | backup c f => trivial

/-! ## A new parking -/

/-- The connection is parking, or has ended and is about to be sent its bill. -/
def Thread.Parks (t : Thread) : Prop :=
  t.AtWork ∧ t.pc ≠ .exist ∧ t.pc ≠ .init ∧ t.pc ≠ .process

/-- Every parking of the device starts from zero: all of them if `clean`, and
else those after its first payment. -/
structure StartsAfresh [CDouble D] (macOf : ℕ → Buf UInt8 6) (m : Buf UInt8 6) (clean : Prop)
    (s : State D) : Prop where
  /-- Its bill counts the seconds of the one connection that pays. -/
  bills : ∀ pre i e post, eventsOf (macOf · = m) s.trace = pre ++ (i, e) :: post →
    e.isPayment = true → Tracked clean pre →
    ∃ x y a b, (meter pre).parking = some ⟨x, y, [⟨i, a, b⟩], none⟩ ∧
      ∃ total ok, e = .send (.payment total (CDouble.ofInt (toInt32 (b - a)))) ok
  /-- No second is counted twice. -/
  disjoint : ClocksInOrder (eventsOf (macOf · = m) s.trace) → ∀ pre e mid post,
    eventsOf (macOf · = m) s.trace = pre ++ e :: mid ++ post → e.2.isPayment = true →
    ∀ p ∈ (meter pre).parking, ∀ q ∈ (meter (pre ++ e :: mid)).parking,
      ∀ u ∈ p.stays, ∀ v ∈ q.stays, u.stop ≤ v.start
  /-- Nobody deletes its row before it has been paid. -/
  kept : Tracked clean (eventsOf (macOf · = m) s.trace) → ∀ i, macOf i = m → ∀ t ∈ s.thread i,
    t.Parks → ∃ timeUsed location, selectMac (macKey m) s.yourTable
      = [⟨macKey m, timeUsed, location⟩]

section Run

variable [CDouble D] {cfg : Config D} {macOf : ℕ → Buf UInt8 6} {m : Buf UInt8 6} {s : State D}
  {rows : List Row} {ls : List Label} {l : Label}

omit [CDouble D] in
theorem served_of_restart (hmac : OneMac macOf s l) (hd : Driven macOf m s l)
    (hheard : HeardAfterPayment Others macOf m s l)
    (hlook : LookedUpAfterDeletion Others macOf m s l) : Served macOf m True s l := by
  refine ⟨hmac, hd, ?_, ?_⟩ <;> cases l with
  | accept i fd => trivial
  | backup c f => trivial
  | client i env => ?_
  · exact fun hm t ht => ⟨fun he => (hheard hm t ht he.1 he.2).1, hlook hm t ht⟩
  · exact fun hm t ht he _ => (hheard hm t ht he.1 he.2).2

theorem row_of_accounts {i : ℕ} {settled : Prop} {M : Meter} {R : List Row} {client : PangoData D}
    {t : Thread} (hshape : Shape m client t) (hp : t.Parks)
    (hA : Accounts cfg m True i settled M R client t) :
    ∃ timeUsed location, R = [⟨macKey m, timeUsed, location⟩] := by
  obtain ⟨hw, hexist, hinit, hprocess⟩ := hp
  cases hpc : t.pc with
  | exist => exact absurd hpc hexist
  | init => exact absurd hpc hinit
  | process => exact absurd hpc hprocess
  | retriev =>
    simp only [Accounts, hpc] at hA
    exact absurd trivial hA.1
  | sendLocation | setConnected | recv | check | lost | close | update =>
    simp only [Accounts, hpc] at hA
    obtain ⟨p, t₀, hR⟩ := hA
    obtain ⟨timeUsed, hrow⟩ := hR.row
    exact ⟨timeUsed, _, hrow⟩
  | pay =>
    simp only [Accounts, hpc] at hA
    obtain ⟨p, hB⟩ := hA
    obtain ⟨timeUsed, hrow⟩ := hB.row
    exact ⟨timeUsed, _, hrow⟩
  | sendErrMsg =>
    obtain ⟨-, hH, -⟩ := hshape.2 hw.1
    simp only [Heard, hpc] at hH
  | remove | closeFd | done =>
    have hover := hw.2
    rw [hpc] at hover
    cases hover

/-- **A paid parking is over.**  In every run in which a device is heard again
only after a payment, and looked up only when the row it paid for has been
deleted, every parking after a payment starts from zero. -/
theorem starts_afresh
    (h : (server cfg).Exec (fun s l => OneMac macOf s l ∧ Driven macOf m s l ∧
      HeardAfterPayment Others macOf m s l ∧ LookedUpAfterDeletion Others macOf m s l)
      (.start rows) ls s) :
    StartsAfresh macOf m (selectMac (macKey m) rows = []) s := by
  have hbooks : Books cfg macOf m True (selectMac (macKey m) rows = []) s :=
    books_of_exec (h.mono fun s l hC => served_of_restart hC.1 hC.2.1 hC.2.2.1 hC.2.2.2) id
  refine ⟨fun pre i e post heq hpay htracked => ?_, fun hclock pre e mid post heq hpay => ?_,
    fun htracked i hm t ht hp => ?_⟩
  · obtain ⟨⟨x, y, stays, since⟩, hpark, hsince, honce, ok, he⟩ :=
      hbooks.bills pre (i, e) post heq hpay htracked
    obtain ⟨a, b, hstays⟩ := honce trivial
    simp only at hsince hstays
    subst hsince hstays
    have hsec : (Parking.mk x y [⟨i, a, b⟩] none).seconds = b - a := by simp [Parking.seconds]
    rw [hsec] at he
    exact ⟨x, y, a, b, hpark, _, ok, he⟩
  · rw [heq] at hclock
    exact fun p hp q hq u hu v hv => stop_le_start hclock hpay hp hq hu hv
  · exact row_of_accounts (hbooks.shape.1 i t ht hm) hp
      ((hbooks.ledger htracked).atWork i hm t ht hp.1)

end Run

/-- Connection 0 parks from 100 to 160 and is sent its bill. -/
def paidOnce : List Label :=
  sampleStart 0 100 ++ [.client 0 { recv := recvFrame (sampleFrame closeApp) }, .client 0 {},
    .client 0 { now := 160 }, .client 0 {}]

/-- Connection 1 closes at 180 and is sent its bill. -/
def paidAgain : List Label :=
  [.client 1 { recv := recvFrame (sampleFrame closeApp) }, .client 1 {}, .client 1 { now := 180 },
    .client 1 {}]

/-- The device is heard on connection 1 before its row has been deleted, and
looked up after that. -/
theorem starts_afresh_after_deletion : ∃ s : State Int, .send (.payment 20 10) true ∈ own 1 s ∧
    StartsAfresh (fun _ => sampleMac) sampleMac (selectMac (macKey sampleMac) [] = []) s := by
  have hrun : ((server samplePrices).runIf (fun s l => l.Below 2 ∧ OneMac (fun _ => sampleMac) s l ∧
      Driven (fun _ => sampleMac) sampleMac s l ∧
      HeardAfterPayment (OthersBelow 2) (fun _ => sampleMac) sampleMac s l ∧
      LookedUpAfterDeletion (OthersBelow 2) (fun _ => sampleMac) sampleMac s l) (.start [])
      (paidOnce ++ [.accept 1 5, .client 1 { recv := recvFrame (sampleFrame startApp) },
        .client 1 {}, .client 0 {}, .client 1 {}, .client 0 {}, .client 1 { now := 170 },
        .client 1 {}, .client 1 {}, .client 1 {}] ++ paidAgain)).map
      (fun s => (own 1 s).filter Event.isPayment)
      = some [.send (.payment 20 10) true] := by decide +kernel
  obtain ⟨s, hs, hpay⟩ := Option.map_eq_some_iff.mp hrun
  refine ⟨s, (List.mem_filter.mp (hpay ▸ List.mem_singleton_self _)).1,
    starts_afresh (exec_of_below 2 (Lts.exec_of_runIf _ hs) (fun _ _ h => h.1) ?_)⟩
  rintro s l ⟨-, hmac, hdriven, hheard, hlook⟩ hothers
  exact ⟨hmac, hdriven, hheard.of_below hothers, hlook.of_below hothers⟩

/-! ## A parking paid for twice -/

/-- The device is looked up on connection 1 before its row has been deleted. -/
def hastyRun : List Label :=
  paidOnce ++ [.accept 1 5, .client 1 { recv := recvFrame (sampleFrame startApp) }, .client 1 {},
    .client 1 {}, .client 1 { now := 170 }, .client 0 {}] ++ paidAgain

/-- **Paid twice.**  It is not true that every parking after a payment starts from
zero: ten seconds are billed as seventy. -/
theorem paid_twice :
    ¬ ∀ (rows : List Row) (ls : List Label) (s : State Int) (macOf : ℕ → Buf UInt8 6)
      (m : Buf UInt8 6),
      (server samplePrices).Exec (fun s l => OneMac macOf s l ∧ Driven macOf m s l ∧
        HeardAfterPayment Others macOf m s l) (.start rows) ls s →
      StartsAfresh macOf m (selectMac (macKey m) rows = []) s := by
  intro hclaim
  have hrun : ((server samplePrices).runIf (fun s l => l.Below 2 ∧ OneMac (fun _ => sampleMac) s l ∧
      Driven (fun _ => sampleMac) sampleMac s l ∧
      HeardAfterPayment (OthersBelow 2) (fun _ => sampleMac) sampleMac s l)
        (.start []) hastyRun).map
      (fun s =>
        let record := eventsOf (fun _ => sampleMac = sampleMac) s.trace
        (record.getLast?, (meter record.dropLast).parking))
      = some (some (1, .send (.payment 140 70) true), some ⟨10, 20, [⟨1, 170, 180⟩], none⟩) := by
    decide +kernel
  obtain ⟨s, hs, hparts⟩ := Option.map_eq_some_iff.mp hrun
  obtain ⟨hlast, hmeter⟩ := Prod.mk.inj hparts
  have hexec : (server samplePrices).Exec (fun s l => OneMac (fun _ => sampleMac) s l ∧
      Driven (fun _ => sampleMac) sampleMac s l ∧
      HeardAfterPayment Others (fun _ => sampleMac) sampleMac s l) (.start []) hastyRun s := by
    refine exec_of_below 2 (Lts.exec_of_runIf _ hs) (fun _ _ h => h.1) ?_
    rintro s l ⟨-, hmac, hdriven, hheard⟩ hothers
    exact ⟨hmac, hdriven, hheard.of_below hothers⟩
  obtain ⟨x, y, a, b, hstay, total, ok, hbill⟩ :=
    (hclaim [] hastyRun s _ sampleMac hexec).bills _ 1 _ []
    (List.dropLast_append_getLast? _ hlast).symm rfl (.inl rfl)
  rw [hmeter] at hstay
  cases hstay
  cases hbill

end Pango.Server
