import Pango.Server.Billing
import Pango.Server.Framing

/-!
# One connection after another

A device that ends each connection before it is heard on the next pays, at every
close, exactly the seconds between its starts and its ends, at the price of the
place where the parking began, however often the connection was lost in between
and wherever the backup passes fall.

This is what the server is for.  Everything it keeps in more than one place, and everything
that happens to a parking between its start and its bill, has to come out right for it, so
the proof is that of `Server.Billing`; what is added is that such a device takes turns with
itself, in the sense of `Server.Turns`.

* `OneAfterAnother` — the condition on the connections of a device.
* `inTurn_of_oneOpen` — its connections take turns.
* `serial_billing` — what is paid, that a close is always answered, and that
  nothing is left behind.
-/

namespace Pango.Server

open CInt

variable {D : Type*}

/-! ## The condition -/

/-- The first frame of a connection of the device is handled only when each other
connection of the device has not been heard yet or has ended. -/
def OneAfterAnother (others : State D → ℕ → (ℕ → Thread → Prop) → Prop) (macOf : ℕ → Buf UInt8 6)
    (m : Buf UInt8 6) (s : State D) : Label → Prop
  | .client i _ => macOf i = m → ∀ t ∈ s.thread i, t.Early → t.pc = .check →
      others s i fun j u => macOf j = m → u.Early ∨ u.pc = .done
  | _ => True

theorem OneAfterAnother.of_below {n : ℕ} {macOf : ℕ → Buf UInt8 6} {m : Buf UInt8 6} {s : State D}
    {l : Label} (h : OneAfterAnother (OthersBelow n) macOf m s l)
    (hothers : ∀ i P, OthersBelow n s i P → Others s i P) : OneAfterAnother Others macOf m s l := by
  cases l with
  | client i env => exact fun hm t ht he hpc => hothers i _ (h hm t ht he hpc)
  | accept i fd => trivial
  | backup c f => trivial

/-- At most one connection of the device has been heard and has not ended. -/
def OneOpen (macOf : ℕ → Buf UInt8 6) (m : Buf UInt8 6) (s : State D) : Prop :=
  ∀ i, macOf i = m → ∀ t ∈ s.thread i, ¬ t.Early → t.pc ≠ .done →
    Others s i fun j u => macOf j = m → u.Early ∨ u.pc = .done

section Step

variable [CDouble D] {cfg : Config D} {macOf : ℕ → Buf UInt8 6} {m : Buf UInt8 6} {s s' : State D}
  {l : Label}

omit [CDouble D] in
theorem done_of_others {i j : ℕ} {u : Thread}
    (h : Others s i fun j u => macOf j = m → u.Early ∨ u.pc = .done) (hji : j ≠ i)
    (hu : u ∈ s.thread j) (hj : macOf j = m) (he : ¬ u.Early) : u.pc = .done :=
  (h j hji u hu hj).resolve_left he

/-- **One step** keeps one connection open at most, if the first thing heard on a connection is a
whole frame. -/
theorem oneOpen_step
    (hframe : ∀ i env, l = .client i env → macOf i = m → ∀ t ∈ s.thread i, t.Early →
      t.pc = .recv → ∃ f, env.recv = recvFrame f) (hC : OneAfterAnother Others macOf m s l)
    (hJ : OneOpen macOf m s) (hs : (server cfg).step s l = some s') : OneOpen macOf m s' := by
  rcases step_cases hs with
      ⟨i, fd, rfl, hi, rfl⟩ | ⟨i, env, t, r, rfl, ht, hr, rfl⟩ | ⟨c, f, rfl, rfl⟩
  · -- a thread that has just been started has not been heard
    intro j hj u hu he hdone k hkj v hv hk
    rcases mem_thread_accepted s hu with ⟨-, rfl⟩ | ⟨-, hu⟩
    · exact absurd ⟨rfl, .inl rfl⟩ he
    · rcases mem_thread_accepted s hv with ⟨-, rfl⟩ | ⟨-, hv⟩
      · exact .inl ⟨rfl, .inl rfl⟩
      · exact hJ j hj u hu he hdone k hkj v hv hk
  · -- when connection `i` has been heard, all others are early or ended
    have hheard : macOf i = m → ¬ r.thread.Early →
        Others s i fun j u => macOf j = m → u.Early ∨ u.pc = .done := by
      intro hm hlate
      by_cases he : t.Early
      · rcases he.2 with hpc | hpc
        · obtain ⟨f, hf⟩ := hframe i env rfl hm t ht he hpc
          rw [pangoClientStep_recvFrame hpc hf] at hr
          cases hr
          exact absurd ⟨he.1, .inr rfl⟩ hlate
        · exact hC hm t ht he hpc
      · refine hJ i hm t ht he fun hpc => ?_
        simp [pangoClientStep, hpc] at hr
    intro j hj u hu he hdone k hkj v hv hk
    rcases mem_thread_turn s hu with ⟨rfl, rfl⟩ | ⟨hji, hold⟩
    · rcases mem_thread_turn s hv with ⟨hkj', -⟩ | ⟨-, hv⟩
      · exact absurd hkj' hkj
      · exact hheard hj he k hkj v hv hk
    · rcases mem_thread_turn s hv with ⟨rfl, rfl⟩ | ⟨-, hv⟩
      · by_cases hlate : r.thread.Early
        · exact .inl hlate
        · exact absurd (done_of_others (hheard hk hlate) hji hold hj he) hdone
      · exact hJ j hj u hold he hdone k hkj v hv hk
  · exact hJ

omit [CDouble D] in
/-- A device's first frame arrives whole. -/
theorem recvFrame_of_driven (hd : Driven macOf m s l) {i : ℕ} {env : Env} (hl : l = .client i env)
    (hm : macOf i = m) {t : Thread} (ht : t ∈ s.thread i) (he : t.Early) (hpc : t.pc = .recv) :
    ∃ f, env.recv = recvFrame f := by
  subst hl
  have hdr := (hd hm).2 t ht hpc
  rw [if_pos he.1] at hdr
  obtain ⟨f, hf, -⟩ := hdr
  exact ⟨f, Recv.eq_recvFrame hf⟩

omit [CDouble D] in
theorem inTurn_of_oneOpen (hC : OneAfterAnother Others macOf m s l) (hJ : OneOpen macOf m s) :
    InTurn Others macOf m s l := by
  cases l with
  | client i env =>
    refine fun hm t ht => ⟨fun he j hji u hu hj => ?_, fun hpc j hji u hu hj hrem => ?_⟩
    · refine (hC hm t ht he.1 he.2 j hji u hu hj).imp_right fun hdone => ?_
      rw [hdone]
      rfl
    · have he : ¬ t.Early := not_early_of_pc (by rw [hpc]; decide) (by rw [hpc]; decide)
      rcases hJ i hm t ht he (by rw [hpc]; decide) j hji u hu hj with hu' | hu'
      · exact absurd hu' (not_early_of_pc (by rw [hrem]; decide) (by rw [hrem]; decide))
      · cases hrem.symm.trans hu'
  | accept i fd => trivial
  | backup c f => trivial

end Step

/-! ## Every close is answered -/

/-- A connection that has handed over a `CLOSE_APP` frame is about to pay, or has
paid. -/
def Answered (t : Thread) (events : List (Event D)) : Prop :=
  (∃ f ∈ events.filterMap Event.handed, f.status = closeApp) →
    t.pc = .close ∨ t.pc = .pay ∨ ∃ e ∈ events, e.isPayment = true

section Answered

variable [CDouble D] {cfg : Config D} {env : Env} {m : Buf UInt8 6} {client : PangoData D}
  {t : Thread} {rows : List Row} {r : Turn D} {events : List (Event D)}

theorem answered_pangoClientStep (hsql : env.sqlFails = []) (hshape : Shape m client t)
    (hJ : Answered t events) (h : pangoClientStep cfg env client t rows = some r) :
    Answered r.thread (events ++ r.events) := by
  have hhand := (taken_pangoClientStep h).2
  rintro ⟨f, hf, hclose⟩
  rw [List.filterMap_append, hhand, List.mem_append] at hf
  rcases hf with hf | hf
  · rcases hJ ⟨f, hf, hclose⟩ with hpc | hpc | ⟨e, he, hpay⟩
    · obtain ⟨-, hH, -⟩ := hshape.2 (not_early_of_pc (by rw [hpc]; decide) (by rw [hpc]; decide))
      simp only [Heard, hpc] at hH
      rw [pangoClientStep_close hpc hH.2 hsql] at h
      cases h
      exact .inr (.inl rfl)
    · simp only [pangoClientStep, hpc] at h
      cases h
      exact .inr (.inr ⟨_, List.mem_append_right _ (List.mem_singleton_self _), rfl⟩)
    · exact .inr (.inr ⟨e, List.mem_append_left _ he, hpay⟩)
  · -- the frame has just been handed over, and it is not the first
    unfold Thread.pending at hf
    split_ifs at hf with hpc
    · obtain rfl := List.mem_singleton.mp hf
      by_cases he : t.Early
      · have hstart := ((hshape.1 he).buff hpc).2.1
        exact absurd (hstart.symm.trans hclose) (by decide)
      · obtain ⟨-, hH, -⟩ := hshape.2 he
        simp only [Heard, hpc] at hH
        obtain ⟨b, -, hstep⟩ := pangoClientStep_check cfg env client rows hpc hH.2.2.1
          (by rw [hH.2.1]; decide)
        rw [hstep] at h
        cases h
        refine .inl ?_
        show switchStatus t.clientDataBuff.status = .close
        rw [hclose]
        rfl
    · cases hf

end Answered

/-! ## The bills -/

/-- Every payment of the record is the time on the meter, and that time at the
price of the place where the parking began. -/
def PaysExactly [CDouble D] (cfg : Config D) (record : List (ℕ × Event D)) : Prop :=
  ∀ pre i e post, record = pre ++ (i, e) :: post → e.isPayment = true →
    ∃ p, (meter pre).parking = some p ∧ p.since = none ∧
      ∃ total ok, e = .send (.payment total (CDouble.ofInt p.seconds)) ok ∧
        ∀ row, selectCity (cityName p.x p.y) cfg.cityParking = [row] →
          total = CDouble.mul row.price (CDouble.ofInt p.seconds)

/-- What a device may rely on. -/
structure Served.Right [CDouble D] (cfg : Config D) (macOf : ℕ → Buf UInt8 6) (m : Buf UInt8 6)
    (s : State D) : Prop where
  exact : PaysExactly cfg (eventsOf (macOf · = m) s.trace)
  /-- A connection that handed over a `CLOSE_APP` frame does not end without a payment. -/
  answered : ∀ i, macOf i = m → ∀ t ∈ s.thread i, t.pc = .done →
    (∃ f ∈ handed i s, f.status = closeApp) → ∃ e ∈ own i s, e.isPayment = true
  /-- When its connections have ended and nothing is owed, the table has no row for it. -/
  cleared : (∀ i, macOf i = m → ∀ t ∈ s.thread i, t.Early ∨ t.pc = .done) →
    (s.meterOf macOf m).parking = none → selectMac (macKey m) s.yourTable = []

section Run

variable [CDouble D] {cfg : Config D} {macOf : ℕ → Buf UInt8 6} {m : Buf UInt8 6}
  {s : State D} {rows : List Row} {ls : List Label}

/-- **The bills are exact** if the clock readings do not decrease and fit an `int`. -/
theorem paysExactly_of_bills {once : Prop} {record : List (ℕ × Event D)}
    (h : Bills cfg once True record) (hclock : ClocksInOrder record) : PaysExactly cfg record := by
  intro pre i e post heq hpay
  obtain ⟨p, hpark, hsince, -, ok, he⟩ := h pre (i, e) post heq hpay (.inl trivial)
  obtain ⟨h0, h1⟩ := seconds_of_clocks (heq ▸ hclock).of_append hpark
  rw [toInt32_of_mem ⟨by omega, h1⟩] at he
  refine ⟨p, hpark, hsince, _, ok, he, fun row hrow => ?_⟩
  rw [Config.priceOf, hrow]

/-- **Serial billing.**  In every run in which the connections of a device come
one after another, from a table without a row for it and with clock readings
that do not decrease, the device pays what the meter shows, is always answered,
and leaves no row behind. -/
theorem serial_billing
    (h : (server cfg).Exec (fun s l => OneMac macOf s l ∧ Driven macOf m s l ∧
      OneAfterAnother Others macOf m s l) (.start rows) ls s)
    (hrows : selectMac (macKey m) rows = [])
    (hclock : ClocksInOrder (eventsOf (macOf · = m) s.trace)) : Served.Right cfg macOf m s := by
  have hopen := (h.strengthen (I := OneOpen macOf m) (fun _ _ _ ht => (nomatch ht))
    fun _ _ _ hC hJ hs => oneOpen_step
      (fun _ _ hl hm _ ht he hpc => recvFrame_of_driven hC.2.1 hl hm ht he hpc) hC.2.2 hJ hs).1
  have hserved : (server cfg).Exec (Served macOf m False) (.start rows) ls s := by
    refine hopen.mono fun s l hC => ⟨hC.1.1, hC.1.2.1, inTurn_of_oneOpen hC.1.2.2 hC.2, ?_⟩
    cases l with
    | client i env => exact fun _ _ _ _ ho => ho.elim
    | accept i fd => trivial
    | backup c f => trivial
  have hbooks : Books cfg macOf m False True s := books_of_exec hserved fun _ => hrows
  refine ⟨paysExactly_of_bills hbooks.bills hclock, ?_, fun hidle hpark => ?_⟩
  · have hJ := local_invariant (J := fun i client t events => macOf i = m →
      Shape m client t ∧ Answered t events) hserved
      (fun _ _ _ => ⟨shape_start _, fun hex => by simp at hex⟩) ?_
    · intro i hm t ht hdone hclose
      rcases (hJ.1 i t ht hm).2 hclose with hpc | hpc | hpay
      · cases hpc.symm.trans hdone
      · cases hpc.symm.trans hdone
      · exact hpay
    · intro s i env t r hC ht hJ hr hm
      obtain ⟨hsql, hd⟩ := hC.2.1 hm
      exact ⟨shape_pangoClientStep hsql (hd t ht) (hJ hm).1 hr,
        answered_pangoClientStep hsql (hJ hm).1 (hJ hm).2 hr⟩
  · have hstored := (hbooks.ledger (.inl trivial)).idle
      (fun i hm t ht hw => ?_) fun i hm t ht hrem => ?_
    · unfold Stored at hstored
      rw [hpark] at hstored
      exact hstored
    · rcases hidle i hm t ht with he | hdone
      · exact hw.1 he
      · have hover := hw.2
        rw [hdone] at hover
        cases hover
    · rcases hidle i hm t ht with he | hdone
      · exact absurd he (not_early_of_pc (by rw [hrem]; decide) (by rw [hrem]; decide))
      · cases hrem.symm.trans hdone

end Run

instance (n : ℕ) (macOf : ℕ → Buf UInt8 6) (m : Buf UInt8 6) (s : State D) :
    (l : Label) → Decidable (OneAfterAnother (OthersBelow n) macOf m s l)
  | .client i _ => inferInstanceAs (Decidable (macOf i = m → ∀ t ∈ s.thread i, _))
  | .accept .. | .backup .. => isTrue trivial

/-- A device parks from 100 to 160, is lost, comes back at 200 and closes at 230;
backup passes fall into both stays and between them. -/
def lostAndClosed : List Label :=
  sampleStart 0 100 ++
    [.backup (fun _ => 130) [], .client 0 {}, .client 0 {}, .client 0 { now := 160 },
    .client 0 {}, .backup (fun _ => 180) [], .accept 1 5,
    .client 1 { recv := recvFrame (sampleFrame startApp) }, .client 1 {}, .client 1 {},
    .client 1 { now := 200 }, .backup (fun _ => 210) []] ++ sampleClose 1 230

/-- It pays for 90 seconds. -/
theorem serial_billing_of_lost : ∃ s : State Int,
    .send (.payment 180 90) true ∈ own 1 s ∧
    Served.Right samplePrices (fun _ => sampleMac) sampleMac s := by
  have hrun : ((server samplePrices).runIf (fun s l => l.Below 2 ∧ OneMac (fun _ => sampleMac) s l ∧
      Driven (fun _ => sampleMac) sampleMac s l ∧
      OneAfterAnother (OthersBelow 2) (fun _ => sampleMac) sampleMac s l)
        (.start []) lostAndClosed).map
      (fun s => ((own 1 s).filter Event.isPayment,
       clocks (eventsOf (fun _ => sampleMac = sampleMac) s.trace)))
      = some ([.send (.payment 180 90) true], [100, 160, 200, 230]) := by decide +kernel
  obtain ⟨s, hs, hparts⟩ := Option.map_eq_some_iff.mp hrun
  obtain ⟨hpay, hclocks⟩ := Prod.mk.inj hparts
  refine ⟨s, (List.mem_filter.mp (hpay ▸ List.mem_singleton_self _)).1,
    serial_billing (exec_of_below 2 (Lts.exec_of_runIf _ hs) (fun _ _ h => h.1) ?_) rfl ?_⟩
  · rintro s l ⟨-, hmac, hdriven, halone⟩ hothers
    exact ⟨hmac, hdriven, halone.of_below hothers⟩
  · rw [ClocksInOrder, hclocks]
    decide

end Pango.Server
