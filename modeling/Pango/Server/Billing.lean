import Pango.Server.Ledger

/-!
# Every bill is what the meter shows

The accounts of the one connection at work, carried over whole runs: through
backup passes, through the steps of other devices' connections, and past
connections that have not been heard or are over.  `Server.Ledger` has them for a step of
the connection itself; what is left is that nobody else disturbs them, and that they pass
from one connection of the device to the next.

* `Ledger` — the accounts of a device.
* `ledger_turn`, `ledger_turn_of_ne`, `ledger_backedUp` — what each kind of step
  of the server makes of them.
* `Bills` — the payments in a record, each next to what the meter shows at that point.
* `books_of_exec` — over runs: the accounts balance, and every payment is what
  the meter shows at that moment, as an `int`.
-/

namespace Pango.Server

open CInt

variable {D : Type*} [CDouble D]

/-! ## The invariant -/

/-- No connection of the device has a row left to delete. -/
def Settled (macOf : ℕ → Buf UInt8 6) (m : Buf UInt8 6) (s : State D) : Prop :=
  ∀ i, macOf i = m → ∀ t ∈ s.thread i, t.pc ≠ .remove

/-- The accounts of a device. -/
structure Ledger (cfg : Config D) (macOf : ℕ → Buf UInt8 6) (m : Buf UInt8 6) (once : Prop)
    (s : State D) : Prop where
  idle : (∀ i, macOf i = m → ∀ t ∈ s.thread i, ¬ t.AtWork) → Settled macOf m s →
    Stored m (s.meterOf macOf m) (selectMac (macKey m) s.yourTable)
  paid : ∀ i, macOf i = m → ∀ t ∈ s.thread i, t.pc = .remove → (s.meterOf macOf m).parking = none
  atWork : ∀ i, macOf i = m → ∀ t ∈ s.thread i, t.AtWork →
    Accounts cfg m once i (Settled macOf m s) (s.meterOf macOf m)
      (selectMac (macKey m) s.yourTable) (s.client i) t

/-- When the device is heard on a connection, no parking of it is open; asked for
if `once`. -/
def Opens (macOf : ℕ → Buf UInt8 6) (m : Buf UInt8 6) (once : Prop) (s : State D) : Label → Prop
  | .client i _ => macOf i = m → ∀ t ∈ s.thread i, t.Early ∧ t.pc = .check → once →
      (s.meterOf macOf m).parking = none
  | _ => True

section Step

variable {cfg : Config D} {macOf : ℕ → Buf UInt8 6} {m : Buf UInt8 6} {once : Prop} {s s' : State D}
  {i : ℕ} {env : Env} {t : Thread} {r : Turn D}

theorem Accounts.mono {settled settled' : Prop} {M : Meter} {R : List Row} {client : PangoData D}
    (h : settled' → settled) (hA : Accounts cfg m once i settled M R client t) :
    Accounts cfg m once i settled' M R client t := by
  cases hpc : t.pc with
  | exist =>
    simp only [Accounts, hpc] at hA ⊢
    exact ⟨hA.1, hA.2.1, hA.2.2.1, fun hs => hA.2.2.2 (h hs)⟩
  | remove | closeFd | done | sendErrMsg => simp only [Accounts, hpc]
  | recv | lost | check | retriev | init | process | sendLocation | setConnected | close | pay
  | update =>
    simp only [Accounts, hpc] at hA ⊢
    exact hA

omit [CDouble D] in
theorem Stored.of_parking {M M' : Meter} {R : List Row} (h : M'.parking = M.parking)
    (hS : Stored m M R) : Stored m M' R := by
  unfold Stored at hS ⊢
  rw [h]
  exact hS

theorem ledger_accepted (hi : s.thread i = none) (hJ : Ledger cfg macOf m once s) (fd : Int) :
    Ledger cfg macOf m once (s.accepted i fd) := by
  have hfresh : ¬ ({} : Thread).AtWork := fun h => h.1 ⟨rfl, .inl rfl⟩
  have hold : ∀ j, ∀ u ∈ s.thread j, u ∈ (s.accepted i fd).thread j := by
    intro j u hu
    have hji : j ≠ i := by
      rintro rfl
      rw [hi] at hu
      cases hu
    rwa [accepted_thread_of_ne s fd hji]
  have hset : Settled macOf m (s.accepted i fd) → Settled macOf m s :=
    fun h j hj u hu => h j hj u (hold j u hu)
  refine ⟨fun hidle h => hJ.idle (fun j hj u hu => hidle j hj u (hold j u hu)) (hset h), ?_, ?_⟩
  · intro j hj u hu hrem
    rcases mem_thread_accepted s hu with ⟨-, rfl⟩ | ⟨-, hu⟩
    · cases hrem
    · exact hJ.paid j hj u hu hrem
  · intro j hj u hu hw
    rcases mem_thread_accepted s hu with ⟨-, rfl⟩ | ⟨hji, hu⟩
    · exact absurd hw hfresh
    · rw [accepted_client_of_ne s fd hji]
      exact (hJ.atWork j hj u hu hw).mono hset

theorem ledger_turn_of_ne (hfiled : AllFiled macOf s) (hm : macOf i ≠ m)
    (hr : pangoClientStep cfg env (s.client i) t s.yourTable = some r)
    (hJ : Ledger cfg macOf m once s) : Ledger cfg macOf m once (s.turn i r) := by
  have hji : ∀ j, macOf j = m → j ≠ i := by
    rintro j hj rfl
    exact hm hj
  have hthread : ∀ j, macOf j = m → (s.turn i r).thread j = s.thread j := fun j hj =>
    turn_thread_of_ne s r (hji j hj)
  have hR : selectMac (macKey m) (s.turn i r).yourTable = selectMac (macKey m) s.yourTable :=
    select_turn_of_ne hfiled hm hr
  have hset : Settled macOf m (s.turn i r) → Settled macOf m s :=
    fun h j hj u hu => h j hj u (hthread j hj ▸ hu)
  refine ⟨fun hidle h => ?_, fun j hj u hu hrem => ?_, fun j hj u hu hw => ?_⟩
  · rw [meterOf_turn_of_ne s hm, hR]
    exact hJ.idle (fun j hj u hu => hidle j hj u (hthread j hj ▸ hu)) (hset h)
  · rw [meterOf_turn_of_ne s hm]
    exact hJ.paid j hj u (hthread j hj ▸ hu) hrem
  · rw [meterOf_turn_of_ne s hm, hR, turn_client_of_ne s r (hji j hj)]
    exact (hJ.atWork j hj u (hthread j hj ▸ hu) hw).mono hset

/-- A slot is connected only while its connection is parking. -/
theorem running_of_connected {client : PangoData D} (hshape : Shape m client t)
    (hcon : client.connected = true) :
    t.AtWork ∧ (t.pc = .recv ∨ t.pc = .check ∨ t.pc = .lost ∨ t.pc = .close) := by
  by_cases he : t.Early
  · rw [(hshape.1 he).connected] at hcon
    cases hcon
  · obtain ⟨-, hH, -⟩ := hshape.2 he
    have hpc : t.pc = .recv ∨ t.pc = .check ∨ t.pc = .lost ∨ t.pc = .close := by
      cases hpc : t.pc <;> simp [Heard, hpc, hcon] at hH ⊢
    exact ⟨⟨he, by rcases hpc with hpc | hpc | hpc | hpc <;> rw [hpc] <;> rfl⟩, hpc⟩

/-- A backup pass writes for the connection at work at most, whose row is of no account until
it ends. -/
theorem ledger_backedUp (hfiled : AllFiled macOf s) (hshape : Shapely macOf m s)
    (hturns : Turns macOf m s) (hJ : Ledger cfg macOf m once s) (n : ℕ) (clock : ℕ → Int)
    (sqlFails : List ℕ) : Ledger cfg macOf m once (s.backedUp n clock sqlFails) := by
  have hset : Settled macOf m (s.backedUp n clock sqlFails) → Settled macOf m s := id
  by_cases hcon : ∃ k, (s.client k).connected = true ∧ (s.client k).mac = macKey m
  · -- connection `k` is parking
    obtain ⟨k, hcon, hmac⟩ := hcon
    have hk : macOf k = m := by
      by_contra hk
      exact mac_ne_of_filed hfiled hk hmac
    obtain ⟨u, hu⟩ : ∃ u, s.thread k = some u := by
      cases hu : s.thread k with
      | none =>
        rw [(hshape.2 k hu).1] at hcon
        cases hcon
      | some u => exact ⟨u, rfl⟩
    obtain ⟨hwork, hpc⟩ := running_of_connected (hshape.1 k u hu hk) hcon
    refine ⟨fun hidle => absurd hwork (hidle k hk u hu), fun j hj v hv hrem => ?_,
      fun j hj v hv hw => ?_⟩
    · rw [meterOf_backedUp]
      exact hJ.paid j hj v hv hrem
    · have hjk : j = k := by
        by_contra hjk
        exact hturns.single k hk u hu hwork j hjk v hv hj hw
      subst hjk
      cases hu.symm.trans hv
      rw [meterOf_backedUp]
      have hA := hJ.atWork j hj u hu hwork
      have hrun : ∃ p t₀, Running cfg m once j (s.meterOf macOf m)
          (selectMac (macKey m) s.yourTable) (s.client j) p t₀ := by
        rcases hpc with hpc | hpc | hpc | hpc <;> simpa only [Accounts, hpc] using hA
      obtain ⟨p, t₀, hR⟩ := hrun
      obtain ⟨timeUsed, hrow⟩ := hR.row
      have hrun' : ∃ p t₀, Running cfg m once j (s.meterOf macOf m)
          (selectMac (macKey m) (s.backedUp n clock sqlFails).yourTable)
          ((s.backedUp n clock sqlFails).client j) p t₀ :=
        ⟨p, t₀, hR.parking, hR.since, hR.time, hR.price,
          select_updateClients_singleton hrow n s.client clock sqlFails, hR.once⟩
      rcases hpc with hpc | hpc | hpc | hpc <;> simpa only [Accounts, hpc] using hrun'
  · have hR : selectMac (macKey m) (s.backedUp n clock sqlFails).yourTable
        = selectMac (macKey m) s.yourTable :=
      select_updateClients_of_idle clock sqlFails s.yourTable fun k hk hmac => hcon ⟨k, hk, hmac⟩
    refine ⟨fun hidle h => ?_, fun j hj u hu hrem => ?_, fun j hj u hu hw => ?_⟩
    · rw [meterOf_backedUp, hR]
      exact hJ.idle hidle (hset h)
    · rw [meterOf_backedUp]
      exact hJ.paid j hj u hu hrem
    · rw [meterOf_backedUp, hR]
      exact (hJ.atWork j hj u hu hw).mono hset

/-! ### A step of the device's own connection -/

/-- A connection at work stays at work, unless it records its disconnection or
sends its bill. -/
theorem stillAtWork (hd : Drives m env t) (hsql : env.sqlFails = []) {client : PangoData D}
    {rows : List Row} (hshape : Shape m client t) (hw : t.AtWork)
    (h : pangoClientStep cfg env client t rows = some r) (hu : t.pc ≠ .update) (hp : t.pc ≠ .pay) :
    r.thread.AtWork := by
  obtain ⟨-, hH, -⟩ := hshape.2 hw.1
  cases hpc : t.pc with
  | recv =>
    simp only [Heard, hpc] at hH
    have hd := hd hpc
    rw [if_neg (by rw [hH.2]; decide)] at hd
    rcases hd with hclosed | ⟨f, hf, -⟩
    · simp only [pangoClientStep, hpc, hclosed] at h
      cases h
      exact atWork_of_pc rfl (by simp) (by simp)
    · rw [pangoClientStep_recvFrame hpc (Recv.eq_recvFrame hf)] at h
      cases h
      exact ⟨not_early_of_status hH.2, rfl⟩
  | check =>
    simp only [Heard, hpc] at hH
    obtain ⟨-, hst, hv, hclose⟩ := hH
    obtain ⟨b, -, hstep⟩ := pangoClientStep_check cfg env client rows hpc hv (by rw [hst]; decide)
    rw [hstep] at h
    cases h
    have hsw : switchStatus t.clientDataBuff.status = .close := by
      rw [hclose, switchStatus_closeApp]
    exact atWork_of_pc (by simp [hsw, Pc.over]) (by simp [hsw]) (by simp [hsw])
  | exist =>
    simp only [Heard, hpc] at hH
    simp only [pangoClientStep, hpc, Env.fails_of_nil hsql, clinetExistInDatabaseCheck_of_ok,
      hH.2.2.2] at h
    cases h
    cases hrow : (selectMac client.mac rows).isEmpty <;>
      exact atWork_of_pc (by simp [afterLookup, newClient, Pc.over])
        (by simp [afterLookup, newClient]) (by simp [afterLookup, newClient])
  | retriev =>
    simp only [Heard, hpc] at hH
    obtain ⟨hstay, hst, -⟩ := retrievClientData_stay cfg client t.status rows hsql
    simp only [pangoClientStep, hpc, hstay] at h
    cases h
    exact ⟨not_early_of_status (hst.trans hH.2.2), rfl⟩
  | init =>
    simp only [pangoClientStep, hpc] at h
    cases h
    exact atWork_of_pc rfl (by simp) (by simp)
  | process =>
    simp only [pangoClientStep, hpc, processClientData_of_ok hsql] at h
    cases h
    exact atWork_of_pc rfl (by simp) (by simp)
  | sendLocation =>
    simp only [pangoClientStep, hpc] at h
    cases h
    exact atWork_of_pc rfl (by simp) (by simp)
  | setConnected =>
    simp only [Heard, hpc] at hH
    simp only [pangoClientStep, hpc] at h
    cases h
    exact ⟨not_early_of_status hH.2, rfl⟩
  | lost =>
    simp only [Heard, hpc] at hH
    rw [pangoClientStep_lost hpc hH.2] at h
    cases h
    exact atWork_of_pc rfl (by simp) (by simp)
  | close =>
    simp only [Heard, hpc] at hH
    rw [pangoClientStep_close hpc hH.2 hsql] at h
    cases h
    exact atWork_of_pc rfl (by simp) (by simp)
  | update => exact absurd hpc hu
  | pay => exact absurd hpc hp
  | sendErrMsg => simp only [Heard, hpc] at hH
  | remove | closeFd | done =>
    have := hw.2
    rw [hpc] at this
    cases this

omit [CDouble D] in
theorem others_turn {P : ℕ → Thread → Prop} (h : Others s i fun j u => macOf j = m → P j u) :
    ∀ j, macOf j = m → ∀ u ∈ (s.turn i r).thread j,
      (j = i ∧ u = r.thread) ∨ (j ≠ i ∧ u ∈ s.thread j ∧ P j u) := by
  intro j hj u hu
  rcases mem_thread_turn s hu with hji | ⟨hji, hu⟩
  · exact .inl hji
  · exact .inr ⟨hji, hu, h j hji u hu hj⟩

omit [CDouble D] in
/-- If no connection has a row left to delete afterwards, none but `i` had one
before. -/
theorem settled_of_turn (ht : s.thread i = some t) (hpc : t.pc ≠ .remove)
    (h : Settled macOf m (s.turn i r)) : Settled macOf m s := by
  intro j hj u hu
  by_cases hji : j = i
  · subst hji
    cases ht.symm.trans hu
    exact hpc
  · exact h j hj u (by rwa [turn_thread_of_ne s r hji])

theorem ledger_rest (ht : s.thread i = some t) (hw : ¬ t.AtWork) (hw' : ¬ r.thread.AtWork)
    (hpc : t.pc ≠ .remove) (hpc' : r.thread.pc ≠ .remove)
    (hM : (s.turn i r).meterOf macOf m = s.meterOf macOf m) (hR : r.yourTable = s.yourTable)
    (hJ : Ledger cfg macOf m once s) : Ledger cfg macOf m once (s.turn i r) := by
  have hR' : (s.turn i r).yourTable = s.yourTable := hR
  refine ⟨fun hidle h => ?_, fun j hj u hu hrem => ?_, fun j hj u hu hw'' => ?_⟩
  · rw [hM, hR']
    refine hJ.idle (fun j hj u hu => ?_) (settled_of_turn ht hpc h)
    by_cases hji : j = i
    · subst hji
      cases ht.symm.trans hu
      exact hw
    · exact hidle j hj u (by rwa [turn_thread_of_ne s r hji])
  · rw [hM]
    rcases mem_thread_turn s hu with ⟨-, rfl⟩ | ⟨-, hu⟩
    · exact absurd hrem hpc'
    · exact hJ.paid j hj u hu hrem
  · rw [hM, hR']
    rcases mem_thread_turn s hu with ⟨-, rfl⟩ | ⟨hji, hu⟩
    · exact absurd hw'' hw'
    · rw [turn_client_of_ne s r hji]
      exact (hJ.atWork j hj u hu hw'').mono (settled_of_turn ht hpc)

theorem ledger_heard (hm : macOf i = m) (ht : s.thread i = some t) (he : t.Early)
    (hpc : t.pc = .check) (hU : Unheard m (s.client i) t)
    (hopen : once → (s.meterOf macOf m).parking = none)
    (hturn : Others s i fun j u => macOf j = m → u.Early ∨ u.pc.over = true)
    (hr : pangoClientStep cfg env (s.client i) t s.yourTable = some r)
    (hJ : Ledger cfg macOf m once s) : Ledger cfg macOf m once (s.turn i r) := by
  obtain ⟨hv, hstart, -⟩ := hU.buff hpc
  obtain ⟨b, -, hstep⟩ := pangoClientStep_check cfg env (s.client i) s.yourTable hpc hv
    (by rw [he.1]; decide)
  rw [hstep] at hr
  cases hr
  have hsw : switchStatus t.clientDataBuff.status = .exist := by rw [hstart, switchStatus_startApp]
  have hM : (s.meterOf macOf m).after i [Event.check (D := D) t.clientDataBuff]
      = { s.meterOf macOf m with x := t.clientDataBuff.x, y := t.clientDataBuff.y } := if_pos hstart
  have hrest : ∀ u : Thread, u.Early ∨ u.pc.over = true → ¬ u.AtWork := by
    rintro u (hu | hu) hw
    · exact hw.1 hu
    · rw [hw.2] at hu
      cases hu
  have hwork : ∀ u : Thread, u.pc = .exist → u.AtWork := fun u hu =>
    atWork_of_pc (by rw [hu]; rfl) (by rw [hu]; decide) (by rw [hu]; decide)
  refine ⟨fun hidle => ?_, fun j hj u hu hrem => ?_, fun j hj u hu hw => ?_⟩
  · exact absurd (hwork _ hsw) (hidle i hm _ (turn_thread_self s i _))
  · rw [meterOf_turn s hm]
    rcases others_turn hturn j hj u hu with ⟨-, rfl⟩ | ⟨-, hu, -⟩
    · exact absurd (hrem.symm.trans hsw) (by decide)
    · exact (congrArg Meter.parking hM).trans (hJ.paid j hj u hu hrem)
  · rcases others_turn hturn j hj u hu with ⟨rfl, rfl⟩ | ⟨-, -, hu⟩
    · rw [turn_client_self, meterOf_turn s hm]
      simp only [Accounts, hsw]
      refine ⟨congrArg Meter.x hM, congrArg Meter.y hM, fun ho => ?_, fun hset => ?_⟩
      · exact (congrArg Meter.parking hM).trans (hopen ho)
      · refine Stored.of_parking (congrArg Meter.parking hM) ?_
        refine hJ.idle (fun k hk v hv => ?_) (settled_of_turn ht (by rw [hpc]; decide) hset)
        by_cases hki : k = j
        · subst hki
          cases ht.symm.trans hv
          exact fun hw => hw.1 he
        · exact hrest v (hturn k hki v hv hk)
    · exact absurd hw (hrest u hu)

theorem ledger_remove (hm : macOf i = m) (ht : s.thread i = some t) (hpc : t.pc = .remove)
    (hsql : env.sqlFails = []) (hmac : (s.client i).mac = macKey m) (hturns : Turns macOf m s)
    (hr : pangoClientStep cfg env (s.client i) t s.yourTable = some r)
    (hJ : Ledger cfg macOf m once s) : Ledger cfg macOf m once (s.turn i r) := by
  simp only [pangoClientStep, hpc, removeClientData, sqlite3Exec, Env.fails_of_nil hsql,
    Bool.not_false, Bool.false_eq_true, if_false] at hr
  cases hr
  have hpark := hJ.paid i hm t ht hpc
  have hM : (s.meterOf macOf m).after i
      (.lock :: [Event.exec (D := D) (.delete (s.client i).mac) true] ++ [.unlock])
      = s.meterOf macOf m := rfl
  have hR : selectMac (macKey m) ((Stmt.delete (s.client i).mac).apply s.yourTable) = [] := by
    rw [hmac]
    exact Stmt.select_delete
  have hstored : Stored m (s.meterOf macOf m)
      (selectMac (macKey m) ((Stmt.delete (s.client i).mac).apply s.yourTable)) := by
    rw [Stored, hpark]
    exact hR
  refine ⟨fun _ _ => ?_, fun j hj u hu hrem => ?_, fun j hj u hu hw => ?_⟩
  · rw [meterOf_turn s hm]
    exact hstored
  · rw [meterOf_turn s hm]
    exact hpark
  · rw [meterOf_turn s hm]
    rcases mem_thread_turn s hu with ⟨-, rfl⟩ | ⟨hji, hu⟩
    · exact absurd hw.2 (by simp [Pc.over])
    · have hexist := hturns.overlap j hj u hu hw i (Ne.symm hji) t ht hm hpc
      have hA := hJ.atWork j hj u hu hw
      simp only [Accounts, hexist] at hA ⊢
      rw [turn_client_of_ne s _ hji]
      exact ⟨hA.1, hA.2.1, hA.2.2.1, fun _ => hstored⟩

theorem ledger_atWork (hm : macOf i = m) (ht : s.thread i = some t) (hw : t.AtWork)
    (hsql : env.sqlFails = []) (hd : Drives m env t) (hshape : Shape m (s.client i) t)
    (hturns : Turns macOf m s)
    (hlook : t.pc = .exist → Others s i fun j u => macOf j = m → u.pc ≠ .remove)
    (hr : pangoClientStep cfg env (s.client i) t s.yourTable = some r)
    (hJ : Ledger cfg macOf m once s) : Ledger cfg macOf m once (s.turn i r) := by
  have hrem : t.pc ≠ .remove := by
    intro hpc
    have := hw.2
    rw [hpc] at this
    cases this
  have hsettled : t.pc = .exist → Settled macOf m s := by
    intro hpc j hj u hu
    by_cases hji : j = i
    · subst hji
      cases ht.symm.trans hu
      exact hrem
    · exact hlook hpc j hji u hu hj
  obtain ⟨hacc, hupdate, hpay⟩ := accounts_pangoClientStep hsql hd hsettled hw hshape
    (hJ.atWork i hm t ht hw) hr
  -- none of the others is at work, and none of them has a row left to delete
  have hother : Others s i fun j u => macOf j = m → ¬ u.AtWork ∧ u.pc ≠ .remove := by
    intro j hji u hu hj
    refine ⟨hturns.single i hm t ht hw j hji u hu hj, fun hpc => ?_⟩
    exact hlook (hturns.overlap i hm t ht hw j hji u hu hj hpc) j hji u hu hj hpc
  refine ⟨fun hidle h => ?_, fun j hj u hu hpc => ?_, fun j hj u hu hw' => ?_⟩
  · rw [meterOf_turn s hm]
    have hnot := hidle i hm _ (turn_thread_self s i r)
    by_cases hu : t.pc = .update
    · exact hupdate hu
    · have hp : t.pc = .pay := by
        by_contra hp
        exact hnot (stillAtWork hd hsql hshape hw hr hu hp)
      simp only [pangoClientStep, hp] at hr
      cases hr
      exact absurd rfl (h i hm _ (turn_thread_self s i _))
  · rw [meterOf_turn s hm]
    rcases others_turn hother j hj u hu with ⟨-, rfl⟩ | ⟨-, -, -, hne⟩
    · exact hpay (remove_pangoClientStep hr hpc)
    · exact absurd hpc hne
  · rw [meterOf_turn s hm]
    rcases others_turn hother j hj u hu with ⟨rfl, rfl⟩ | ⟨-, -, hno, -⟩
    · rw [turn_client_self]
      exact (hacc hw').mono (settled_of_turn ht hrem)
    · exact absurd hw' hno

/-- A payment settles the accounts, whatever they were. -/
theorem ledger_pay (hm : macOf i = m) (ht : s.thread i = some t) (hpc : t.pc = .pay)
    (hturns : Turns macOf m s)
    (hr : pangoClientStep cfg env (s.client i) t s.yourTable = some r) :
    Ledger cfg macOf m once (s.turn i r) := by
  have hw : t.AtWork := atWork_of_pc (by rw [hpc]; rfl) (by rw [hpc]; decide) (by rw [hpc]; decide)
  have hother : Others s i fun j u => macOf j = m → ¬ u.AtWork := hturns.single i hm t ht hw
  simp only [pangoClientStep, hpc, calculateAndSendPaymentData] at hr
  cases hr
  refine ⟨fun _ h => absurd rfl (h i hm _ (turn_thread_self s i _)), fun j hj u hu hrem => ?_,
    fun j hj u hu hw' => ?_⟩
  · rw [meterOf_turn s hm]
    rfl
  · rcases others_turn hother j hj u hu with ⟨-, rfl⟩ | ⟨-, -, hno⟩
    · exact absurd hw'.2 (by simp [Pc.over])
    · exact absurd hw' hno

theorem ledger_turn (hm : macOf i = m) (ht : s.thread i = some t) (hsql : env.sqlFails = [])
    (hd : Drives m env t) (hshape : Shapely macOf m s) (hturns : Turns macOf m s)
    (hturn : (t.Early ∧ t.pc = .check →
        Others s i fun j u => macOf j = m → u.Early ∨ u.pc.over = true) ∧
      (t.pc = .exist → Others s i fun j u => macOf j = m → u.pc ≠ .remove))
    (hopen : t.Early ∧ t.pc = .check → once → (s.meterOf macOf m).parking = none)
    (hr : pangoClientStep cfg env (s.client i) t s.yourTable = some r)
    (hJ : Ledger cfg macOf m once s) : Ledger cfg macOf m once (s.turn i r) := by
  have hsh := hshape.1 i t ht hm
  by_cases he : t.Early
  · have hU := hsh.1 he
    rcases he.2 with hpc | hpc
    · have hd := hd hpc
      rw [if_pos he.1] at hd
      obtain ⟨f, hf, -⟩ := hd
      rw [pangoClientStep_recvFrame hpc (Recv.eq_recvFrame hf)] at hr
      cases hr
      refine ledger_rest ht (fun hw => hw.1 he) (fun hw => hw.1 ⟨he.1, .inr rfl⟩) ?_ ?_ ?_ rfl hJ
      · simp [hpc]
      · simp
      · exact meterOf_turn s hm _
    · exact ledger_heard hm ht he hpc hU (hopen ⟨he, hpc⟩) (hturn.1 ⟨he, hpc⟩) hr hJ
  · cases hover : t.pc.over with
    | false => exact ledger_atWork hm ht ⟨he, hover⟩ hsql hd hsh hturns hturn.2 hr hJ
    | true =>
      have hpc : t.pc = .remove ∨ t.pc = .closeFd ∨ t.pc = .done := by
        cases hpc : t.pc <;> simp [hpc, Pc.over] at hover ⊢
      rcases hpc with hpc | hpc | hpc
      · exact ledger_remove hm ht hpc hsql (hsh.2 he).1 hturns hr hJ
      · simp only [pangoClientStep, hpc] at hr
        cases hr
        refine ledger_rest ht (fun hw => ?_) (fun hw => ?_) ?_ ?_ ?_ rfl hJ
        · rw [hw.2] at hover
          cases hover
        · exact absurd hw.2 (by simp [Pc.over])
        · simp [hpc]
        · simp
        · exact meterOf_turn s hm _
      · simp [pangoClientStep, hpc] at hr

end Step

/-! ## The bills -/

/-- The accounts of a device are known from a clean table on, or from its first
payment on. -/
def Tracked (clean : Prop) (record : List (ℕ × Event D)) : Prop :=
  clean ∨ ∃ e ∈ record, e.2.isPayment = true

/-- A payment of what the meter shows: the seconds of the parking, as an `int`,
and their price in the place where it began.  If `once`, the parking was one stay
on the connection that pays. -/
def Bill (cfg : Config D) (once : Prop) (M : Meter) (e : ℕ × Event D) : Prop :=
  ∃ p, M.parking = some p ∧ p.since = none ∧ (once → ∃ a b, p.stays = [⟨e.1, a, b⟩]) ∧
    ∃ ok, e.2 = .send (.payment
      (CDouble.mul (cfg.priceOf (cityName p.x p.y) (CDouble.ofInt 0))
       (CDouble.ofInt (toInt32 p.seconds))) (CDouble.ofInt (toInt32 p.seconds))) ok

/-- Every payment of the record is what the meter showed at that moment. -/
def Bills (cfg : Config D) (once clean : Prop) (record : List (ℕ × Event D)) : Prop :=
  ∀ pre e post, record = pre ++ e :: post → e.2.isPayment = true → Tracked clean pre →
    Bill cfg once (meter pre) e

section Bills

variable {cfg : Config D} {once clean : Prop} {record : List (ℕ × Event D)}

theorem bills_concat {e : ℕ × Event D} (h : Bills cfg once clean record)
    (he : e.2.isPayment = true → Tracked clean record → Bill cfg once (meter record) e) :
    Bills cfg once clean (record ++ [e]) := by
  intro pre e' post heq
  rcases List.eq_nil_or_concat post with rfl | ⟨post, b, rfl⟩
  · obtain ⟨hpre, he'⟩ := List.append_inj' heq rfl
    cases he'
    exact hpre ▸ he
  · rw [List.concat_eq_append, ← List.cons_append, ← List.append_assoc] at heq
    exact h pre e' post (List.append_inj' heq rfl).1

theorem bills_append (h : Bills cfg once clean record) {es : List (ℕ × Event D)}
    (hes : ∀ e ∈ es, e.2.isPayment = false) : Bills cfg once clean (record ++ es) := by
  induction es using List.reverseRecOn with
  | nil => rwa [List.append_nil]
  | append_singleton es e ih =>
    rw [← List.append_assoc]
    refine bills_concat (ih fun b hb => hes b (List.mem_append_left _ hb)) fun he => ?_
    rw [hes e (by simp)] at he
    cases he

end Bills

/-! ## The books of a device, over runs -/

/-- The connections of each device carry its address, and the device drives its
own one after another. -/
def Served (macOf : ℕ → Buf UInt8 6) (m : Buf UInt8 6) (once : Prop) (s : State D) (l : Label) :
    Prop :=
  OneMac macOf s l ∧ Driven macOf m s l ∧ InTurn Others macOf m s l ∧ Opens macOf m once s l

/-- Everything that is kept about a device. -/
structure Books (cfg : Config D) (macOf : ℕ → Buf UInt8 6) (m : Buf UInt8 6) (once clean : Prop)
    (s : State D) : Prop where
  filed : AllFiled macOf s
  shape : Shapely macOf m s
  turns : Turns macOf m s
  ledger : Tracked clean (eventsOf (macOf · = m) s.trace) → Ledger cfg macOf m once s
  bills : Bills cfg once clean (eventsOf (macOf · = m) s.trace)

section Run

variable {cfg : Config D} {macOf : ℕ → Buf UInt8 6} {m : Buf UInt8 6} {once clean : Prop}
  {s s' : State D} {l : Label} {rows : List Row} {ls : List Label}

theorem books_start (hrows : clean → selectMac (macKey m) rows = []) :
    Books cfg macOf m once clean (.start rows) where
  filed := locally_start rows
  shape := locally_start rows
  turns := ⟨fun _ _ _ h => (nomatch h), fun _ _ _ h => (nomatch h)⟩
  ledger := by
    rintro (hclean | ⟨e, he, -⟩)
    · exact ⟨fun _ _ => hrows hclean, fun _ _ _ h => (nomatch h), fun _ _ _ h => (nomatch h)⟩
    · cases he
  bills := fun pre e post h => by simp [eventsOf, State.start] at h

/-- Every step of the server keeps the books. -/
theorem books_step (hC : Served macOf m once s l) (hJ : Books cfg macOf m once clean s)
    (hs : (server cfg).step s l = some s') : Books cfg macOf m once clean s' := by
  obtain ⟨hmac, hdriven, hturn, hopen⟩ := hC
  have hfiled' := filed_step hmac hJ.filed hs
  have hshape' := shapely_step hdriven hJ.shape hs
  have hturns' := turns_step hdriven hturn hJ.shape hJ.turns hs
  rcases step_cases hs with
      ⟨i, fd, rfl, hi, rfl⟩ | ⟨i, env, t, r, rfl, ht, hr, rfl⟩ | ⟨c, f, rfl, rfl⟩
  · exact ⟨hfiled', hshape', hturns', fun h => ledger_accepted hi (hJ.ledger h) fd, hJ.bills⟩
  · by_cases hm : macOf i = m
    · obtain ⟨hsql, hd⟩ := hdriven hm
      have hev := eventsOf_turn (macOf · = m) s hm r
      by_cases hpay : t.pc = .pay
      · refine ⟨hfiled', hshape', hturns', fun _ => ledger_pay hm ht hpay hJ.turns hr, ?_⟩
        have hpays : ∃ e, r.events = [e] := by
          simp only [pangoClientStep, hpay] at hr
          cases hr
          exact ⟨_, rfl⟩
        obtain ⟨e, he⟩ := hpays
        rw [hev, he]
        refine bills_concat hJ.bills fun _ htracked => ?_
        have hA := (hJ.ledger htracked).atWork i hm t ht
          (atWork_of_pc (by rw [hpay]; rfl) (by rw [hpay]; decide) (by rw [hpay]; decide))
        simp only [Accounts, hpay] at hA
        obtain ⟨p, hB⟩ := hA
        rw [bill_pay hpay hB hr] at he
        cases he
        exact ⟨p, hB.parking, hB.since, hB.once, _, rfl⟩
      · have hno : ∀ e ∈ r.events.map (Prod.mk i), e.2.isPayment = false := by
          simpa using isPayment_pangoClientStep hr hpay
        have hold : Tracked clean (eventsOf (macOf · = m) (s.turn i r).trace) →
            Tracked clean (eventsOf (macOf · = m) s.trace) := by
          rw [hev]
          rintro (hclean | ⟨e, he, hp⟩)
          · exact .inl hclean
          · rcases List.mem_append.mp he with he | he
            · exact .inr ⟨e, he, hp⟩
            · rw [hno e he] at hp
              cases hp
        refine ⟨hfiled', hshape', hturns', fun h => ?_, ?_⟩
        · exact ledger_turn hm ht hsql (hd t ht) hJ.shape hJ.turns (hturn hm t ht)
            (hopen hm t ht) hr
            (hJ.ledger (hold h))
        · rw [hev]
          exact bills_append hJ.bills hno
    · have hev := eventsOf_turn_of_not (macOf · = m) s hm r
      refine ⟨hfiled', hshape', hturns', ?_, ?_⟩ <;> rw [hev]
      · exact fun h => ledger_turn_of_ne hJ.filed hm hr (hJ.ledger h)
      · exact hJ.bills
  · refine ⟨hfiled', hshape', hturns', ?_, ?_⟩ <;> rw [eventsOf_backedUp]
    · exact fun h => ledger_backedUp hJ.filed hJ.shape hJ.turns (hJ.ledger h) _ c f
    · exact hJ.bills

/-- The books of a device are kept in every run in which it is served. -/
theorem books_of_exec (h : (server cfg).Exec (Served macOf m once) (.start rows) ls s)
    (hrows : clean → selectMac (macKey m) rows = []) : Books cfg macOf m once clean s :=
  h.invariant (books_start hrows) fun _ _ _ hC hJ hs => books_step hC hJ hs

end Run

end Pango.Server
