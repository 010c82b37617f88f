import Pango.Server.Upkeep

/-!
# From a lost connection to the next

The thread of a lost connection clears `connected` in one critical section and writes the time
used in a later one.  The thread of the device's next connection reads the time used once, at its
start, and keeps it in the slot's start time; what is written to the row afterwards never reaches
its bill.

* `reconnect` — what is noted of the old connection and of the new one.
* `account_step` — **one step** of the new connection: its slot and thread, in terms of the notes.
* `handover_iff` — the bill is for both connections, exactly if the time used that is found at
  the start of the new one already covers the old one.
* `handover_loses_time` — a start that overtakes the writing of the time used.
-/

namespace Pango.Server

open CInt

variable {D : Type*}

/-! ## Notes on two connections -/

/-- The steps that read the clock, and the one that clears `connected`. -/
def Pc.timed : Pc → Bool
  | .init | .retriev | .close | .update | .lost => true
  | _ => false

/-- Time does not run backwards: none of these steps is taken before a clock reading
made earlier. -/
def OnTime (cfg : Config D) (s : State D) : Label → Prop
  | .accept .. => True
  | .client i env => ∀ u ∈ s.thread i, u.pc.timed = true → ∀ t ∈ clocks s.trace, t ≤ env.now
  | .backup clock _ => ∀ i < cfg.updateThreadMaxNumClients, (s.client i).connected = true →
      ∀ t ∈ clocks s.trace, t ≤ clock i

/-- The first frame of connection `j` is handled while the thread of connection `i` is between
noticing that its client is gone and its end. -/
def Overlap (i j : ℕ) (s : State D) : Label → Prop
  | .client k _ => k = j → ∀ t ∈ s.thread j, t.Early → t.pc = .check →
      ∃ u ∈ s.thread i, u.pc = .lost ∨ u.pc = .update ∨ u.pc = .closeFd
  | _ => True

/-- What is noted of an old connection and of a new one. -/
structure Reconnection where
  /-- The clock reading at the first start of the old connection. -/
  parked : Option Int := none
  /-- The seconds from there until its thread cleared `connected`. -/
  stayed : Option Int := none
  /-- The time used that the thread of the new connection found at its start, and the clock reading
  there. -/
  resumed : Option (Int × Int) := none
  /-- The clock reading at its close. -/
  closed : Option Int := none
  /-- The seconds on its bill. -/
  bill : Option Int := none
  deriving DecidableEq

/-- The seconds of a payment. -/
def Event.billed [CDouble D] : Event D → Option Int
  | .send (.payment _ seconds) _ => some (CDouble.toInt seconds)
  | _ => none

/-- The time used in the row that is found, or what stands in its place. -/
def timeFound (client : PangoData D) (rows : List Row) : Int :=
  (retrieveTimeStartParkingValueFromDatabase false false rows client).2.timeStartParking

/-- What is noted of a step of the old connection. -/
def noteOld (now : Int) (t : Thread) (N : Reconnection) : Reconnection :=
  match t.pc with
  | .init | .retriev => { N with parked := N.parked.or (some now) }
  | .lost => { N with stayed := N.parked.map (now - ·) }
  | _ => N

/-- What is noted of a step of the new connection. -/
def noteNew [CDouble D] (now : Int) (client : PangoData D) (t : Thread) (rows : List Row)
    (events : List (Event D)) (N : Reconnection) : Reconnection :=
  match t.pc with
  | .init => { N with resumed := some (0, now) }
  | .retriev => { N with resumed := some (timeFound client rows, now) }
  | .close => { N with closed := some now }
  | .pay => { N with bill := events.findSome? Event.billed }
  | _ => N

/-- What is noted of a step, of the old connection `i` and the new connection `j`. -/
def reconnect [CDouble D] (cfg : Config D) (i j : ℕ) (s : State D) :
    Label → Reconnection → Reconnection
  | .client k env, N => (s.thread k).elim N fun t =>
      if k = j then noteNew env.now (s.client j) t s.yourTable (acts cfg j s (.client k env)) N
      else if k = i then noteOld env.now t N
      else N
  | _, N => N

/-! ## The new connection -/

/-- The new connection, in terms of the notes. -/
structure Account (H : List Int) (client : PangoData D) (t : Thread) (N : Reconnection) : Prop where
  /-- Before the start the slot's start time is zero. -/
  fresh : N.resumed = none → client.timeStartParking = 0
  /-- Then it is set back by the time used that was found. -/
  start : ∀ found now, N.resumed = some (found, now) →
    client.timeStartParking = toInt32 (now - found) ∧ InInt32 found ∧ now ∈ H
  lost : t.pc = .lost → t.status = connectionLost
  close : t.pc = .pay → ∃ now, N.closed = some now ∧ t.endTime = toUInt32 now ∧
    ∀ found start, N.resumed = some (found, start) → start ≤ now
  bill : ∀ secs, N.bill = some secs → (t.pc = .remove ∨ t.pc = .closeFd ∨ t.pc = .done) ∧
    ∀ found start, N.resumed = some (found, start) → ∃ now, N.closed = some now ∧ start ≤ now ∧
      secs = toInt32 (now - start + found)

section Account

variable {H : List Int} {client client' : PangoData D} {t t' : Thread} {N : Reconnection}

theorem Account.mono (h : Account H client t N) (H' : List Int) : Account (H ++ H') client t N :=
  ⟨h.fresh, fun found now hN => ⟨(h.start found now hN).1, (h.start found now hN).2.1,
    List.mem_append_left _ (h.start found now hN).2.2⟩, h.lost, h.close, h.bill⟩

theorem Account.keep (h : Account H client t N)
    (htime : client'.timeStartParking = client.timeStartParking)
    (hno : N.bill = none) (hlost : t'.pc = .lost → t'.status = connectionLost)
    (hpay : t'.pc ≠ .pay) :
    Account H client' t' N :=
  ⟨fun hN => htime.trans (h.fresh hN), fun found now hN => ⟨htime.trans (h.start found now hN).1,
    (h.start found now hN).2⟩, hlost, fun hpc => absurd hpc hpay, fun secs hN => by
      rw [hno] at hN
      cases hN⟩

theorem Account.not_billed (h : Account H client t N)
    (hpc : t.pc ≠ .remove ∧ t.pc ≠ .closeFd ∧ t.pc ≠ .done) :
    N.bill = none := by
  cases hN : N.bill with
  | none => rfl
  | some secs =>
    rcases (h.bill secs hN).1 with h | h | h
    · exact absurd h hpc.1
    · exact absurd h hpc.2.1
    · exact absurd h hpc.2.2

variable [CDouble D] {cfg : Config D} {env : Env} {rows : List Row} {r : Turn D}

omit [CDouble D] in
theorem Account.inInt32 (h : Account H client t N) : InInt32 client.timeStartParking := by
  cases hN : N.resumed with
  | none =>
    rw [h.fresh hN]
    exact ⟨by decide, by decide⟩
  | some p =>
    rw [(h.start p.1 p.2 hN).1]
    exact inInt32_toInt32 _

omit [CDouble D] in
theorem Account.inInt32_timeFound (h : Account H client t N) (rows : List Row) :
    InInt32 (timeFound client rows) := by
  unfold timeFound retrieveTimeStartParkingValueFromDatabase
  simp only [Bool.false_eq_true, if_false]
  split
  · exact inInt32_toInt32 _
  · exact h.inInt32

omit [CDouble D] in
variable (cfg client rows) in
/-- A resumption sets the start time back by the time used that is found. -/
theorem timeStartParking_retriev (hsql : env.sqlFails = []) (status : UInt8) :
    (retrievClientData cfg env client status rows).client.timeStartParking
        = toInt32 (env.now - timeFound client rows) ∧
      .clock .updateClientAndContinueTime env.now ∈
        (retrievClientData cfg env client status rows).events := by
  unfold retrievClientData timeFound
  simp only [Env.fails_of_nil hsql, retrieveTime_fst, updateClientAndContinueTime_fst,
    retrieveParkingPrice_fst, Bool.false_eq_true, if_false, reduceCtorEq]
  refine ⟨?_, by simp⟩
  obtain ⟨p, hp⟩ := retrieveParkingPrice_client (D := D) false false cfg.cityParking
    (updateClientAndContinueTime env false false rows
      (retrieveTimeStartParkingValueFromDatabase false false rows client).2).2
  rw [hp]
  unfold updateClientAndContinueTime
  simp only [Bool.false_eq_true, if_false]
  split <;> rfl

omit [CDouble D] in
/-- At a start the notes take the time used that was found, and the clock reading. -/
theorem account_started (hbill : N.bill = none) {found now : Int}
    (htime : client'.timeStartParking = toInt32 (now - found)) (hfound : InInt32 found)
    {H' : List Int} (hnow : now ∈ H') (hpc : t'.pc ≠ .lost ∧ t'.pc ≠ .pay) :
    Account H' client' t' { N with resumed := some (found, now) } := by
  refine ⟨fun hN => ?_, fun found' now' hN => ?_, fun hl => absurd hl hpc.1,
    fun hp => absurd hp hpc.2, fun secs hN => ?_⟩
  · cases hN
  · cases hN
    exact ⟨htime, hfound, hnow⟩
  · rw [hbill] at hN
    cases hN

theorem account_step (hsql : env.sqlFails = []) (hnow : t.pc.timed = true → ∀ t ∈ H, t ≤ env.now)
    (hJ : Account H client t N) (h : pangoClientStep cfg env client t rows = some r) :
    Account (H ++ r.readings) r.client r.thread (noteNew env.now client t rows r.events N) := by
  have hnext := pc_pangoClientStep h
  cases hpc : t.pc with
  | recv =>
    have hno := hJ.not_billed (by simp [hpc])
    simp only [pangoClientStep, hpc] at h
    simp only [noteNew, hpc]
    split at h <;> cases h
    · exact (hJ.mono _).keep rfl hno (fun _ => rfl) (by simp)
    · exact (hJ.mono _).keep rfl hno (by simp) (by simp)
    · exact (hJ.mono _).keep rfl hno (by simp) (by simp)
  | check =>
    have hno := hJ.not_billed (by simp [hpc])
    have hpc' : r.thread.pc ≠ .lost ∧ r.thread.pc ≠ .pay := by
      constructor <;> intro hr <;> simp [hr, hpc, Pc.next] at hnext
    simp only [noteNew, hpc]
    rcases check_cases hpc h with ⟨-, rfl⟩ | ⟨-, -, rfl⟩ | ⟨-, -, b, -, rfl⟩
    · exact (hJ.mono _).keep rfl hno (by simp) (by simp)
    · exact (hJ.mono _).keep rfl hno (by simp) (by simp)
    · exact (hJ.mono _).keep rfl hno (fun hl => absurd hl hpc'.1) hpc'.2
  | lost =>
    rw [pangoClientStep_lost hpc (hJ.lost hpc)] at h
    simp only [noteNew, hpc]
    cases h
    exact (hJ.mono _).keep rfl (hJ.not_billed (by simp [hpc])) (by simp) (by simp)
  | exist =>
    have hpc' : r.thread.pc ≠ .lost ∧ r.thread.pc ≠ .pay := by
      constructor <;> intro hr <;> simp [hr, hpc, Pc.next] at hnext
    simp only [pangoClientStep, hpc] at h
    simp only [noteNew, hpc]
    cases h
    exact (hJ.mono _).keep rfl (hJ.not_billed (by simp [hpc])) (fun hl => absurd hl hpc'.1) hpc'.2
  | retriev =>
    obtain ⟨hstay, hst, -⟩ := retrievClientData_stay cfg client t.status rows hsql
    obtain ⟨htime, hclock⟩ := timeStartParking_retriev client cfg rows hsql t.status
    simp only [pangoClientStep, hpc, hstay, ne_eq, reduceCtorEq, not_false_eq_true, if_true] at h
    simp only [noteNew, hpc]
    cases h
    refine account_started (hJ.not_billed (by simp [hpc])) htime (hJ.inInt32_timeFound rows) ?_
      (by simp)
    refine List.mem_append_right _ ?_
    exact List.mem_filterMap.mpr ⟨(0, _), List.mem_map_of_mem hclock, rfl⟩
  | init =>
    simp only [pangoClientStep, hpc, initializeAndGetStartTime] at h
    simp only [noteNew, hpc]
    cases h
    refine account_started (hJ.not_billed (by simp [hpc])) ?_ ⟨by decide, by decide⟩ ?_ (by simp)
    · rw [sub_zero]
    · exact List.mem_append_right _ (List.mem_singleton_self env.now)
  | process =>
    simp only [pangoClientStep, hpc, processClientData_of_ok hsql] at h
    simp only [noteNew, hpc]
    cases h
    exact (hJ.mono _).keep rfl (hJ.not_billed (by simp [hpc])) (by simp) (by simp)
  | sendLocation | setConnected | update | sendErrMsg =>
    simp only [pangoClientStep, hpc] at h
    simp only [noteNew, hpc]
    cases h
    exact (hJ.mono _).keep rfl (hJ.not_billed (by simp [hpc])) (by simp) (by simp)
  | close =>
    have hno := hJ.not_billed (by simp [hpc])
    have hlost : r.thread.pc ≠ .lost := by
      intro hr
      simp [hr, hpc, Pc.next] at hnext
    have hle : ∀ found start, N.resumed = some (found, start) → start ≤ env.now :=
      fun found start hN => hnow (by rw [hpc]; rfl) start (hJ.start found start hN).2.2
    simp only [pangoClientStep, hpc] at h
    simp only [noteNew, hpc]
    cases h
    refine ⟨hJ.fresh, fun found now hN => ((hJ.mono _).start found now hN),
      fun hl => absurd hl hlost,
      fun _ => ⟨env.now, rfl, rfl, hle⟩, fun secs hN => ?_⟩
    rw [show N.bill = some secs from hN] at hno
    cases hno
  | pay =>
    obtain ⟨now, hclosed, hend, hle⟩ := hJ.close hpc
    simp only [pangoClientStep, hpc, calculateAndSendPaymentData] at h
    simp only [noteNew, hpc]
    cases h
    refine ⟨hJ.fresh, fun found now hN => (hJ.mono _).start found now hN, by simp, by simp,
      fun secs hN => ⟨.inl rfl, fun found start hres => ⟨now, hclosed, hle found start hres, ?_⟩⟩⟩
    obtain rfl : CDouble.toInt (CDouble.ofInt (D := D)
        (toInt32 (toInt32 t.endTime - client.timeStartParking))) = secs := Option.some.inj hN
    rw [CDouble.toInt_ofInt _ (inInt32_toInt32 _), hend, (hJ.start found start hres).1,
      toInt32_toUInt32, toInt32_toInt32_sub, toInt32_sub_toInt32]
    congr 1
    omega
  | remove | closeFd =>
    simp only [pangoClientStep, hpc] at h
    simp only [noteNew, hpc]
    cases h
    exact ⟨hJ.fresh, (hJ.mono _).start, by simp, by simp,
      fun secs hN => ⟨by simp, (hJ.bill secs hN).2⟩⟩
  | done => simp [pangoClientStep, hpc] at h

end Account

/-! ## Both connections, over runs -/

/-- A bill covers both connections exactly if the time used that was found does, and the sum fits an
`int`. -/
theorem covers_iff {stayed found start now : Int} (hstayed : 0 ≤ stayed) (hle : start ≤ now)
    (hfound : InInt32 found) : stayed + (now - start) ≤ toInt32 (now - start + found) ↔
      stayed ≤ found ∧ now - start + found < 2147483648 := by
  unfold InInt32 at hfound
  unfold toInt32
  omega

/-- The notes on the two connections. -/
structure Noted [CDouble D] (j : ℕ) (s : State D) (N : Reconnection) : Prop where
  parked : ∀ now, N.parked = some now → now ∈ clocks s.trace
  stayed : ∀ secs, N.stayed = some secs → 0 ≤ secs
  account : Account (clocks s.trace) (s.client j) ((s.thread j).getD {}) N
  sent : ∀ secs, N.bill = some secs →
    ∃ total ok, .send (.payment total (CDouble.ofInt secs)) ok ∈ own j s

section Step

variable [CDouble D] {cfg : Config D} {env : Env} {client : PangoData D} {t : Thread}
    {rows : List Row} {r : Turn D} {N : Reconnection} {i j : ℕ} {s s' : State D} {l : Label}

theorem noted_start (j : ℕ) (rows : List Row) : Noted j (.start rows : State D) {} where
  parked _ hN := by cases hN
  stayed _ hN := by cases hN
  account := {
    fresh := fun _ => rfl
    start := fun _ _ hN => by cases hN
    lost := fun hpc => by cases hpc
    close := fun hpc => by cases hpc
    bill := fun _ hN => by cases hN }
  sent _ hN := by cases hN

omit [CDouble D] in
theorem noteOld_eq (now : Int) (t : Thread) (N : Reconnection) :
    ∃ parked stayed, noteOld now t N = { N with parked, stayed } := by
  unfold noteOld
  split
  · exact ⟨_, _, rfl⟩
  · exact ⟨_, _, rfl⟩
  · exact ⟨_, _, rfl⟩
  · exact ⟨N.parked, N.stayed, rfl⟩

theorem noteNew_eq (now : Int) (client : PangoData D) (t : Thread) (rows : List Row)
    (events : List (Event D)) (N : Reconnection) :
    ∃ resumed closed bill, noteNew now client t rows events N
      = { N with resumed, closed, bill } := by
  unfold noteNew
  split
  · exact ⟨_, N.closed, N.bill, rfl⟩
  · exact ⟨_, N.closed, N.bill, rfl⟩
  · exact ⟨N.resumed, _, N.bill, rfl⟩
  · exact ⟨N.resumed, N.closed, _, rfl⟩
  · exact ⟨N.resumed, N.closed, N.bill, rfl⟩

theorem now_mem_readings (hsql : env.sqlFails = []) (hpc : t.pc = .init ∨ t.pc = .retriev)
    (h : pangoClientStep cfg env client t rows = some r) : env.now ∈ r.readings := by
  rcases hpc with hpc | hpc
  · simp only [pangoClientStep, hpc] at h
    cases h
    exact List.mem_singleton_self env.now
  · obtain ⟨hstay, -⟩ := retrievClientData_stay cfg client t.status rows hsql
    simp only [pangoClientStep, hpc, hstay, ne_eq, reduceCtorEq, not_false_eq_true, if_true] at h
    cases h
    exact List.mem_filterMap.mpr
      ⟨(0, _), List.mem_map_of_mem (timeStartParking_retriev client cfg rows hsql t.status).2, rfl⟩

/-- The seconds of a bill that is noted have been sent. -/
theorem sent_of_noteNew (h : pangoClientStep cfg env client t rows = some r) {secs : Int}
    (hbill : (noteNew env.now client t rows r.events N).bill = some secs) : N.bill = some secs ∨
      ∃ total ok, .send (.payment total (CDouble.ofInt secs)) ok ∈ r.events := by
  by_cases hpc : t.pc = .pay
  · simp only [pangoClientStep, hpc, calculateAndSendPaymentData] at h
    simp only [noteNew, hpc] at hbill
    cases h
    obtain rfl : CDouble.toInt (CDouble.ofInt (D := D)
        (toInt32 (toInt32 t.endTime - client.timeStartParking))) = secs := Option.some.inj hbill
    rw [CDouble.toInt_ofInt _ (inInt32_toInt32 _)]
    exact .inr ⟨_, _, List.mem_singleton_self _⟩
  · have hsame : (noteNew env.now client t rows r.events N).bill = N.bill := by
      unfold noteNew
      split <;> first | rfl | exact absurd ‹_› hpc
    exact .inl (hsame ▸ hbill)

theorem noted_old (hsql : env.sqlFails = [])
    (hnow : t.pc.timed = true → ∀ t ∈ clocks s.trace, t ≤ env.now)
    (hji : j ≠ i) (hr : pangoClientStep cfg env (s.client i) t s.yourTable = some r)
    (hJ : Noted j s N) :
    Noted j (s.turn i r) (noteOld env.now t N) := by
  have hclocks : clocks (s.turn i r).trace = clocks s.trace ++ r.readings := clocks_turn [] s i r
  refine ⟨fun now hN => ?_, fun secs hN => ?_, ?_, fun secs hN => ?_⟩
  · rw [hclocks]
    have hold : N.parked = some now → now ∈ clocks s.trace ++ r.readings := fun hN =>
      List.mem_append_left _ (hJ.parked now hN)
    have hstart : t.pc = .init ∨ t.pc = .retriev → (N.parked.or (some env.now)) = some now →
        now ∈ clocks s.trace ++ r.readings := by
      intro hpc hN
      rcases Option.or_eq_some_iff.mp hN with hN | ⟨-, hN⟩
      · exact hold hN
      · cases hN
        exact List.mem_append_right _ (now_mem_readings hsql hpc hr)
    unfold noteOld at hN
    split at hN
    · exact hstart (.inl ‹_›) hN
    · exact hstart (.inr ‹_›) hN
    · exact hold hN
    · exact hold hN
  · unfold noteOld at hN
    split at hN
    · exact hJ.stayed secs hN
    · exact hJ.stayed secs hN
    · rename_i hpc
      obtain ⟨a, ha, rfl⟩ := Option.map_eq_some_iff.mp hN
      have hle := hnow (by rw [hpc]; rfl) a (hJ.parked a ha)
      omega
    · exact hJ.stayed secs hN
  · obtain ⟨p, d, heq⟩ := noteOld_eq env.now t N
    have hA := hJ.account.mono r.readings
    rw [heq, hclocks, turn_client_of_ne s r hji, turn_thread_of_ne s r hji]
    exact ⟨hA.fresh, hA.start, hA.lost, hA.close, hA.bill⟩
  · obtain ⟨p, d, heq⟩ := noteOld_eq env.now t N
    rw [heq] at hN
    rw [own_turn_of_ne s hji]
    exact hJ.sent secs hN

theorem noted_new (hsql : env.sqlFails = [])
    (hnow : t.pc.timed = true → ∀ t ∈ clocks s.trace, t ≤ env.now)
    (ht : s.thread j = some t) (hr : pangoClientStep cfg env (s.client j) t s.yourTable = some r)
    (hJ : Noted j s N) :
    Noted j (s.turn j r) (noteNew env.now (s.client j) t s.yourTable r.events N) := by
  have hclocks : clocks (s.turn j r).trace = clocks s.trace ++ r.readings := clocks_turn [] s j r
  obtain ⟨u, e, b, heq⟩ := noteNew_eq env.now (s.client j) t s.yourTable r.events N
  refine ⟨fun now hN => ?_, fun secs hN => ?_, ?_, fun secs hN => ?_⟩
  · rw [heq] at hN
    rw [hclocks]
    exact List.mem_append_left _ (hJ.parked now hN)
  · rw [heq] at hN
    exact hJ.stayed secs hN
  · have hA := hJ.account
    rw [ht, Option.getD_some] at hA
    rw [hclocks, turn_client_self, turn_thread_self, Option.getD_some]
    exact account_step hsql hnow hA hr
  · rw [own_turn_self]
    rcases sent_of_noteNew hr hN with hold | ⟨total, ok, hsent⟩
    · obtain ⟨total, ok, hmem⟩ := hJ.sent secs hold
      exact ⟨total, ok, List.mem_append_left _ hmem⟩
    · exact ⟨total, ok, List.mem_append_right _ hsent⟩

theorem noted_step (hsql : ∀ k env, l = .client k env → k = i ∨ k = j → env.sqlFails = [])
    (hon : OnTime cfg s l) (hs : (server cfg).step s l = some s') (hJ : Noted j s N) :
    Noted j s' (reconnect cfg i j s l N) := by
  rcases step_cases hs with
      ⟨k, fd, rfl, hk, rfl⟩ | ⟨k, env, t, r, rfl, ht, hr, rfl⟩ | ⟨c, f, rfl, rfl⟩
  · refine ⟨hJ.parked, hJ.stayed, ?_, fun secs hN => ?_⟩
    · have hA := hJ.account
      by_cases hjk : j = k
      · subst hjk
        rw [hk] at hA
        rw [accepted_thread_self, accepted_client_self]
        exact ⟨hA.fresh, hA.start, hA.lost, hA.close, hA.bill⟩
      · rw [accepted_thread_of_ne s fd hjk, accepted_client_of_ne s fd hjk]
        exact hA
    · rw [own_accepted]
      exact hJ.sent secs hN
  · have hnote : reconnect cfg i j s (.client k env) N
        = if k = j then noteNew env.now (s.client j) t s.yourTable (acts cfg j s (.client k env)) N
          else if k = i then noteOld env.now t N else N := by
      simp only [reconnect, ht, Option.elim_some]
    rw [hnote]
    by_cases hkj : k = j
    · subst hkj
      rw [if_pos rfl, acts_client ht hr]
      exact noted_new (hsql k env rfl (.inr rfl)) (hon t ht) ht hr hJ
    · rw [if_neg hkj]
      by_cases hki : k = i
      · subst hki
        rw [if_pos rfl]
        exact noted_old (hsql k env rfl (.inl rfl)) (hon t ht) (Ne.symm hkj) hr hJ
      · rw [if_neg hki]
        have hclocks : clocks (s.turn k r).trace = clocks s.trace ++ r.readings :=
          clocks_turn [] s k r
        refine ⟨fun now hN => ?_, hJ.stayed, ?_, fun secs hN => ?_⟩
        · rw [hclocks]
          exact List.mem_append_left _ (hJ.parked now hN)
        · rw [hclocks, turn_client_of_ne s r (Ne.symm hkj), turn_thread_of_ne s r (Ne.symm hkj)]
          exact hJ.account.mono _
        · rw [own_turn_of_ne s (Ne.symm hkj)]
          exact hJ.sent secs hN
  · have hclocks :
        clocks (s.backedUp cfg.updateThreadMaxNumClients c f).trace = clocks s.trace ++ _ :=
      clocks_backedUp [] s cfg.updateThreadMaxNumClients c f
    refine ⟨fun now hN => ?_, hJ.stayed, ?_, fun secs hN => ?_⟩
    · rw [hclocks]
      exact List.mem_append_left _ (hJ.parked now hN)
    · rw [hclocks]
      exact hJ.account.mono _
    · rw [own_backedUp]
      exact hJ.sent secs hN

end Step

section Run

variable [CDouble D] {cfg : Config D} {macOf : ℕ → Buf UInt8 6} {m : Buf UInt8 6} {i j : ℕ}
  {s : State D} {rows : List Row} {ls : List Label} {N : Reconnection}

/-- **From a lost connection to the next.**  Let two connections of a device have one start each,
however their threads, the backup passes and other connections are interleaved.  The bill at the
close of the new connection covers the seconds of the old one, from its start until `connected`
was cleared, and its own, exactly if the time used that was found in the table at the start of
the new one covers the old one and the sum fits an `int`. -/
theorem handover_iff (hi : macOf i = m) (hj : macOf j = m)
    (h : ((server cfg).watched (reconnect cfg i j)).Exec (fun q l => OneMac macOf q.1 l ∧
      Visited macOf m True q.1 l ∧ OnTime cfg q.1 l) (.start rows, {}) ls (s, N))
    {stayed found start close secs : Int} (hstayed : N.stayed = some stayed)
    (hresumed : N.resumed = some (found, start)) (hclosed : N.closed = some close)
    (hbill : N.bill = some secs) :
    (∃ total ok, .send (.payment total (CDouble.ofInt secs)) ok ∈ own j s) ∧
      (stayed + (close - start) ≤ secs ↔ stayed ≤ found ∧ close - start + found < 2147483648) := by
  have hnoted : Noted j s N := by
    refine h.invariant (I := fun q => Noted j q.1 q.2) ?_ fun q l q' hC hJ hs => ?_
    · exact noted_start j rows
    · obtain ⟨hs, hnote⟩ := Lts.watched_step hs
      rw [hnote]
      refine noted_step (fun k env hl hk => ?_) hC.2.2 hs hJ
      have hvisited := hC.2.1
      subst hl
      rcases hk with rfl | rfl
      · exact (hvisited hi).1
      · exact (hvisited hj).1
  obtain ⟨hsent, hA⟩ : _ ∧ Account (clocks s.trace) (s.client j) ((s.thread j).getD {}) N :=
    ⟨hnoted.sent secs hbill, hnoted.account⟩
  refine ⟨hsent, ?_⟩
  obtain ⟨close', hclosed', hle, rfl⟩ := (hA.bill secs hbill).2 found start hresumed
  obtain rfl : close' = close := Option.some.inj (hclosed'.symm.trans hclosed)
  exact covers_iff (hnoted.stayed stayed hstayed) hle (hA.start found start hresumed).2.1

end Run

/-! ## A start that overtakes the writing of the time used -/

instance (cfg : Config D) (s : State D) : (l : Label) → Decidable (OnTime cfg s l)
  | .accept .. => isTrue trivial
  | .client i _ => inferInstanceAs (Decidable (∀ u ∈ s.thread i, _))
  | .backup .. => inferInstanceAs (Decidable (∀ i < cfg.updateThreadMaxNumClients, _))

instance (i j : ℕ) (s : State D) : (l : Label) → Decidable (Overlap i j s l)
  | .accept .. | .backup .. => isTrue trivial
  | .client k _ => inferInstanceAs (Decidable (k = j → ∀ t ∈ s.thread j, t.Early → t.pc = .check →
      ∃ u ∈ s.thread i, _))

/-- A device parks at 100 and is lost; `connected` is cleared at 160.  It comes back at 170, before
the thread of the old connection writes the time used at 175, and closes at 200. -/
def lostTime : List Label :=
  sampleStart 0 100 ++ [.client 0 {}, .client 0 { now := 160 }] ++ sampleResume 1 170 ++
    [.client 0 { now := 175 }, .client 0 {}] ++ sampleClose 1 200

/-- It is billed 30 seconds for 60 and 30. -/
theorem handover_loses_time : ∃ (s : State Int) (N : Reconnection) (stayed start close secs : Int),
    ((server samplePrices).watched (reconnect samplePrices 0 1)).Exec (fun q l =>
      OneMac (fun _ => sampleMac) q.1 l ∧ Visited (fun _ => sampleMac) sampleMac True q.1 l ∧
        OnTime samplePrices q.1 l ∧ Overlap 0 1 q.1 l) (.start [], {}) lostTime (s, N) ∧
      .send (.payment 60 secs) true ∈ own 1 s ∧ N.stayed = some stayed ∧
      N.resumed = some (0, start) ∧ N.closed = some close ∧ N.bill = some secs ∧
      ¬ stayed + (close - start) ≤ secs := by
  have hrun : (((server samplePrices).watched (reconnect samplePrices 0 1)).runIf (fun q l =>
      OneMac (fun _ => sampleMac) q.1 l ∧ Visited (fun _ => sampleMac) sampleMac True q.1 l ∧
        OnTime samplePrices q.1 l ∧ Overlap 0 1 q.1 l) (.start [], {}) lostTime).map
      (fun q => ((own 1 q.1).filter Event.isPayment, q.2))
      = some ([.send (.payment 60 30) true],
        ⟨some 100, some 60, some (0, 170), some 200, some 30⟩) := by
    decide +kernel
  obtain ⟨⟨s, N⟩, hs, hparts⟩ := Option.map_eq_some_iff.mp hrun
  obtain ⟨hpay, rfl⟩ := Prod.mk.inj hparts
  exact ⟨s, _, 60, 170, 200, 30, Lts.exec_of_runIf _ hs,
    (List.mem_filter.mp (hpay ▸ List.mem_singleton_self _)).1, rfl, rfl, rfl, rfl, by decide⟩

/-- The same, but the time used is written at 165, while the thread of the new
connection is on its way to reading it. -/
def writtenTime : List Label :=
  sampleStart 0 100 ++ [.client 0 {}, .client 0 { now := 160 }, .accept 1 5] ++
    sampleSend 1 startApp ++
    [.client 0 { now := 165 }, .client 1 {}, .client 1 { now := 170 }, .client 0 {}] ++
    sampleClose 1 200

/-- It is billed 65 and 30 seconds. -/
theorem handover_iff_of_writtenTime : ∃ s : State Int, .send (.payment 190 95) true ∈ own 1 s ∧
    ((60 : Int) + (200 - 170) ≤ 95 ↔ (60 : Int) ≤ 65 ∧ (200 : Int) - 170 + 65 < 2147483648) := by
  have hrun : (((server samplePrices).watched (reconnect samplePrices 0 1)).runIf (fun q l =>
      OneMac (fun _ => sampleMac) q.1 l ∧ Visited (fun _ => sampleMac) sampleMac True q.1 l ∧
        OnTime samplePrices q.1 l) (.start [], {}) writtenTime).map
      (fun q => ((own 1 q.1).filter Event.isPayment, q.2))
      = some ([.send (.payment 190 95) true],
        ⟨some 100, some 60, some (65, 170), some 200, some 95⟩) := by
    decide +kernel
  obtain ⟨⟨s, N⟩, hs, hparts⟩ := Option.map_eq_some_iff.mp hrun
  obtain ⟨hpay, rfl⟩ := Prod.mk.inj hparts
  have hiff := handover_iff (by rfl) (by rfl) (Lts.exec_of_runIf _ hs) rfl rfl rfl rfl
  exact ⟨s, (List.mem_filter.mp (hpay ▸ List.mem_singleton_self _)).1, hiff.2⟩

end Pango.Server
