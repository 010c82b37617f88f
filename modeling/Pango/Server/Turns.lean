import Pango.Server.Device

/-!
# The connections of one device, taking turns

A device drives each of its connections in one way: a `START_APP` frame, then a
`CLOSE_APP` frame or a hang-up.  Among its connections some have not been heard
yet, some are over, and in between at most one is at work — provided that the
device is heard on a connection only when its last one is over, or has been paid
for.

* `Shape` — what a connection driven in this way looks like at each program
  point.
* `InTurn` — the condition on the steps of the device's connections.
* `Turns` — at most one connection is at work; and while a paid one has yet to
  delete its row, the next has not got past its lookup.
-/

namespace Pango.Server

variable {D : Type*}

/-! ## Stages of a connection -/

/-- The first frame has not been handled yet. -/
def Thread.Early (t : Thread) : Prop :=
  t.status = statusInitialValue ∧ (t.pc = .recv ∨ t.pc = .check)

instance (t : Thread) : Decidable t.Early := inferInstanceAs (Decidable (_ ∧ _))

/-- The bill has been sent, or the disconnection recorded. -/
def Pc.over : Pc → Bool
  | .remove | .closeFd | .done => true
  | _ => false

/-- Neither. -/
def Thread.AtWork (t : Thread) : Prop := ¬ t.Early ∧ t.pc.over = false

/-- What the device sends on a connection: first a start, then an end. -/
def Drives (m : Buf UInt8 6) (env : Env) (t : Thread) : Prop :=
  t.pc = .recv →
    if t.status = statusInitialValue then
      ∃ f ∈ env.recv.frame?, CrcValid f ∧ f.status = startApp ∧ f.mac = m.toList
    else env.recv = .closed ∨
      ∃ f ∈ env.recv.frame?, CrcValid f ∧ f.status = closeApp ∧ f.mac = m.toList

instance (m : Buf UInt8 6) (env : Env) (t : Thread) : Decidable (Drives m env t) :=
  inferInstanceAs (Decidable (_ → _))

/-- The connections of `m` are driven by the device, and SQLite works for them. -/
def Driven (macOf : ℕ → Buf UInt8 6) (m : Buf UInt8 6) (s : State D) : Label → Prop
  | .client i env => macOf i = m → env.sqlFails = [] ∧ ∀ t ∈ s.thread i, Drives m env t
  | _ => True

instance (macOf : ℕ → Buf UInt8 6) (m : Buf UInt8 6) (s : State D) :
    (l : Label) → Decidable (Driven macOf m s l)
  | .client i env => inferInstanceAs (Decidable (macOf i = m → env.sqlFails = [] ∧ _))
  | .accept .. | .backup .. => isTrue trivial

/-- The device is heard on a connection only when each of its others has not been
heard yet, or is over; and it is looked up when none of them has a row left to
delete. -/
def InTurn (others : State D → ℕ → (ℕ → Thread → Prop) → Prop) (macOf : ℕ → Buf UInt8 6)
    (m : Buf UInt8 6) (s : State D) : Label → Prop
  | .client i _ => macOf i = m → ∀ t ∈ s.thread i,
      (t.Early ∧ t.pc = .check →
        others s i fun j u => macOf j = m → u.Early ∨ u.pc.over = true) ∧
      (t.pc = .exist → others s i fun j u => macOf j = m → u.pc ≠ .remove)
  | _ => True

/-! ## The shape of a connection -/

section Shape

variable [CDouble D] {cfg : Config D} {env : Env} {m : Buf UInt8 6} {client : PangoData D}
  {t : Thread} {rows : List Row} {r : Turn D}

/-- A connection before its first frame is handled. -/
structure Unheard (m : Buf UInt8 6) (client : PangoData D) (t : Thread) : Prop where
  connected : client.connected = false
  price : client.price = CDouble.ofInt 0
  checked : t.checkedDatabase = false
  buff : t.pc = .check → CrcValid t.clientDataBuff ∧ t.clientDataBuff.status = startApp ∧
    t.clientDataBuff.mac = m.toList

/-- A connection after its first frame has been handled. -/
def Heard (client : PangoData D) (t : Thread) : Prop :=
  match t.pc with
  | .exist => client.connected = false ∧ client.price = CDouble.ofInt 0 ∧ t.status = startApp ∧
      t.checkedDatabase = false
  | .retriev | .init | .process => client.connected = false ∧
      client.price = CDouble.ofInt 0 ∧ t.status = startApp
  | .sendLocation | .setConnected => client.connected = false ∧ t.status = startApp
  | .recv => client.connected = true ∧ t.status = startApp
  | .check => client.connected = true ∧ t.status = startApp ∧ CrcValid t.clientDataBuff ∧
      t.clientDataBuff.status = closeApp
  | .lost => client.connected = true ∧ t.status = connectionLost
  | .close => client.connected = true ∧ t.status = closeApp
  | .pay | .remove | .update | .closeFd | .done => client.connected = false
  | .sendErrMsg => False

/-- A connection the device drives, and its slot. -/
def Shape (m : Buf UInt8 6) (client : PangoData D) (t : Thread) : Prop :=
  (t.Early → Unheard m client t) ∧
    (¬ t.Early → client.mac = macKey m ∧ Heard client t ∧
      (t.pc = .check → t.clientDataBuff.mac = m.toList))

theorem shape_start (fd : UInt8) :
    Shape m ({ PangoData.zero with clientFd := fd } : PangoData D) {} :=
  ⟨fun _ => ⟨rfl, rfl, rfl, nofun⟩, fun he => absurd ⟨rfl, .inl rfl⟩ he⟩

omit [CDouble D] in
theorem not_early_of_pc (hr : t.pc ≠ .recv) (hc : t.pc ≠ .check) : ¬ t.Early :=
  fun he => he.2.elim hr hc

omit [CDouble D] in
theorem not_early_of_status (hst : t.status = startApp) : ¬ t.Early :=
  fun he => absurd (hst.symm.trans he.1) (by decide)

theorem shape_check_early (hpc : t.pc = .check) (he : t.Early) (hJ : Unheard m client t)
    (h : pangoClientStep cfg env client t rows = some r) :
    r.thread.pc = .exist ∧ Shape m r.client r.thread := by
  obtain ⟨hv, hstart, hmac⟩ := hJ.buff hpc
  obtain ⟨b, hb, hstep⟩ := pangoClientStep_check cfg env client rows hpc hv
    (by rw [he.1]; decide)
  rw [hstep] at h
  cases h
  have hsw : switchStatus t.clientDataBuff.status = .exist := by rw [hstart, switchStatus_startApp]
  refine ⟨hsw, fun he' => absurd he' (not_early_of_status hstart), fun _ => ⟨?_, ?_, ?_⟩⟩
  · exact hb.trans (macText_eq_macKey hmac)
  · simp only [Heard, hsw]
    exact ⟨hJ.connected, hJ.price, hstart, hJ.checked⟩
  · rw [hsw]
    nofun

theorem shape_check_late (hpc : t.pc = .check) (hst : t.status = startApp)
    (hcon : client.connected = true) (hv : CrcValid t.clientDataBuff)
    (hclose : t.clientDataBuff.status = closeApp) (hmac : t.clientDataBuff.mac = m.toList)
    (h : pangoClientStep cfg env client t rows = some r) : Shape m r.client r.thread := by
  obtain ⟨b, hb, hstep⟩ := pangoClientStep_check cfg env client rows hpc hv (by rw [hst]; decide)
  rw [hstep] at h
  cases h
  have hsw : switchStatus t.clientDataBuff.status = .close := by rw [hclose, switchStatus_closeApp]
  refine ⟨fun he => absurd he (not_early_of_pc ?_ ?_), fun _ => ⟨?_, ?_, ?_⟩⟩
  · simp [hsw]
  · simp [hsw]
  · exact hb.trans (macText_eq_macKey hmac)
  · simp only [Heard, hsw]
    exact ⟨hcon, hclose⟩
  · rw [hsw]
    nofun

theorem shape_pangoClientStep (hsql : env.sqlFails = []) (hd : Drives m env t)
    (hJ : Shape m client t) (h : pangoClientStep cfg env client t rows = some r) :
    Shape m r.client r.thread := by
  by_cases he : t.Early
  · have hU := hJ.1 he
    rcases he.2 with hpc | hpc
    · have hd := hd hpc
      rw [if_pos he.1] at hd
      obtain ⟨f, hf, hv, hstart, hmac⟩ := hd
      rw [pangoClientStep_recvFrame hpc (Recv.eq_recvFrame hf)] at h
      cases h
      exact ⟨fun _ => ⟨hU.connected, hU.price, hU.checked, fun _ => ⟨hv, hstart, hmac⟩⟩,
        fun he' => absurd ⟨he.1, .inr rfl⟩ he'⟩
    · exact (shape_check_early hpc he hU h).2
  · obtain ⟨hmac, hH, hbuff⟩ := hJ.2 he
    -- past the first frame, the status tells that no first frame is awaited
    have hlate : ∀ (c : PangoData D) (u : Thread), u.pc ≠ .check → c.mac = macKey m → Heard c u →
        (u.pc = .recv → u.status = startApp) → Shape m c u := by
      intro c u hc hmac hH hr
      refine ⟨fun he => ?_, fun _ => ⟨hmac, hH, fun hc' => absurd hc' hc⟩⟩
      rcases he.2 with hpc | hpc
      · exact absurd he (not_early_of_status (hr hpc))
      · exact absurd hpc hc
    cases hpc : t.pc with
    | recv =>
      simp only [Heard, hpc] at hH
      obtain ⟨hcon, hst⟩ := hH
      have hd := hd hpc
      rw [if_neg (by rw [hst]; decide)] at hd
      rcases hd with hclosed | ⟨f, hf, hv, hclose, hfm⟩
      · simp only [pangoClientStep, hpc, hclosed] at h
        cases h
        exact hlate _ _ (by simp) hmac (by simp [Heard, hcon]) (by simp)
      · rw [pangoClientStep_recvFrame hpc (Recv.eq_recvFrame hf)] at h
        cases h
        refine ⟨fun he => absurd he (not_early_of_status hst), fun _ => ⟨hmac, ?_, fun _ => hfm⟩⟩
        simp only [Heard]
        exact ⟨hcon, hst, hv, hclose⟩
    | check =>
      simp only [Heard, hpc] at hH
      exact shape_check_late hpc hH.2.1 hH.1 hH.2.2.1 hH.2.2.2 (hbuff hpc) h
    | sendErrMsg => simp only [Heard, hpc] at hH
    | exist =>
      simp only [Heard, hpc] at hH
      obtain ⟨hcon, hprice, hst, hch⟩ := hH
      simp only [pangoClientStep, hpc, Env.fails_of_nil hsql, clinetExistInDatabaseCheck_of_ok,
        hch] at h
      cases h
      cases hrow : (selectMac client.mac rows).isEmpty <;>
        exact hlate _ _ (by simp [afterLookup, newClient]) hmac (by simp [Heard, hcon, hprice, hst])
          (by simp)
    | retriev =>
      simp only [Heard, hpc] at hH
      obtain ⟨hcon, hprice, hst⟩ := hH
      obtain ⟨hstay, hst', hcon'⟩ := retrievClientData_stay cfg client t.status rows hsql
      obtain ⟨_, _, _, hclient⟩ := retrievClientData_client cfg env client t.status rows
      simp only [pangoClientStep, hpc, hstay] at h
      cases h
      refine hlate _ _ (by simp) ?_ ?_ ?_
      · rw [hclient]
        exact hmac
      · simp only [Heard, afterLookup_true]
        exact ⟨hcon', hst'.trans hst⟩
      · exact fun _ => hst'.trans hst
    | init =>
      simp only [Heard, hpc] at hH
      simp only [pangoClientStep, hpc] at h
      cases h
      exact hlate _ _ (by simp) hmac hH (by simp)
    | process =>
      simp only [Heard, hpc] at hH
      obtain ⟨hcon, hprice, hst⟩ := hH
      simp only [pangoClientStep, hpc, processClientData_of_ok hsql] at h
      cases h
      exact hlate _ _ (by simp) hmac (by simp [Heard, hcon, hst]) (by simp)
    | sendLocation =>
      simp only [Heard, hpc] at hH
      simp only [pangoClientStep, hpc] at h
      cases h
      exact hlate _ _ (by simp) hmac hH (by simp)
    | setConnected =>
      simp only [Heard, hpc] at hH
      simp only [pangoClientStep, hpc] at h
      cases h
      exact hlate _ _ (by simp) hmac ⟨rfl, hH.2⟩ fun _ => hH.2
    | lost =>
      simp only [Heard, hpc] at hH
      rw [pangoClientStep_lost hpc hH.2] at h
      cases h
      exact hlate _ _ (by simp) hmac (by simp [Heard]) (by simp)
    | close =>
      simp only [Heard, hpc] at hH
      rw [pangoClientStep_close hpc hH.2 hsql] at h
      cases h
      exact hlate _ _ (by simp) hmac (by simp [Heard]) (by simp)
    | pay | remove | update | closeFd =>
      simp only [Heard, hpc] at hH
      simp only [pangoClientStep, hpc] at h
      cases h
      exact hlate _ _ (by simp) hmac hH (by simp)
    | done => simp [pangoClientStep, hpc] at h

/-- A connection that is at work was so before, or has just been heard. -/
theorem atWork_pangoClientStep (hd : Drives m env t) (hJ : Shape m client t)
    (h : pangoClientStep cfg env client t rows = some r) (hr : r.thread.AtWork) :
    t.AtWork ∨ (t.Early ∧ t.pc = .check) ∧ r.thread.pc = .exist := by
  by_cases he : t.Early
  · rcases he.2 with hpc | hpc
    · have hd := hd hpc
      rw [if_pos he.1] at hd
      obtain ⟨f, hf, -⟩ := hd
      rw [pangoClientStep_recvFrame hpc (Recv.eq_recvFrame hf)] at h
      cases h
      exact absurd ⟨he.1, .inr rfl⟩ hr.1
    · exact .inr ⟨⟨he, hpc⟩, (shape_check_early hpc he (hJ.1 he) h).1⟩
  · refine .inl ⟨he, ?_⟩
    by_contra hover
    have hover : r.thread.pc.over = true := by
      cases hpc : t.pc <;> simp [hpc, Pc.over] at hover <;>
        simp only [pangoClientStep, hpc] at h <;> cases h <;> rfl
    rw [hr.2] at hover
    cases hover

omit [CDouble D] in
theorem atWork_of_pc (h : t.pc.over = false) (hr : t.pc ≠ .recv) (hc : t.pc ≠ .check) : t.AtWork :=
  ⟨not_early_of_pc hr hc, h⟩

/-- Only a payment leads to the deletion. -/
theorem remove_pangoClientStep (h : pangoClientStep cfg env client t rows = some r)
    (hr : r.thread.pc = .remove) : t.pc = .pay := by
  have hnext := pc_pangoClientStep h
  cases hpc : t.pc with
  | pay => rfl
  | _ => simp [hr, hpc, Pc.next] at hnext

end Shape

/-! ## Taking turns -/

/-- At most one connection of the device is at work, and it has not got past its
lookup as long as another has its row to delete. -/
structure Turns (macOf : ℕ → Buf UInt8 6) (m : Buf UInt8 6) (s : State D) : Prop where
  single : ∀ i, macOf i = m → ∀ t ∈ s.thread i, t.AtWork →
    Others s i fun j u => macOf j = m → ¬ u.AtWork
  overlap : ∀ i, macOf i = m → ∀ t ∈ s.thread i, t.AtWork →
    Others s i fun j u => macOf j = m → u.pc = .remove → t.pc = .exist

section Turns

variable [CDouble D] {cfg : Config D} {macOf : ℕ → Buf UInt8 6} {m : Buf UInt8 6} {s s' : State D}
  {l : Label}

/-- All connections of the device have their shape. -/
abbrev Shapely (macOf : ℕ → Buf UInt8 6) (m : Buf UInt8 6) : State D → Prop :=
  Locally fun i client t _ => macOf i = m → Shape m client t

theorem shapely_step (hC : Driven macOf m s l) (hJ : Shapely macOf m s)
    (hs : (server cfg).step s l = some s') : Shapely macOf m s' := by
  refine locally_step hs (fun _ _ _ => shape_start _) ?_ hJ
  rintro i env t r rfl ht hJ hr hm
  obtain ⟨hsql, hd⟩ := hC hm
  exact shape_pangoClientStep hsql (hd t ht) (hJ hm) hr

/-- **One step** of the server keeps the turns. -/
theorem turns_step (hC : Driven macOf m s l) (hturn : InTurn Others macOf m s l)
    (hshape : Shapely macOf m s) (hJ : Turns macOf m s) (hs : (server cfg).step s l = some s') :
    Turns macOf m s' := by
  rcases step_cases hs with
      ⟨i, fd, rfl, hi, rfl⟩ | ⟨i, env, t, r, rfl, ht, hr, rfl⟩ | ⟨c, f, rfl, rfl⟩
  · -- a thread that has just been started is not at work
    have hfresh : ¬ ({} : Thread).AtWork := fun h => h.1 ⟨rfl, .inl rfl⟩
    refine ⟨fun j hj u hu hwork k hkj v hv hk => ?_, fun j hj u hu hwork k hkj v hv hk hrem => ?_⟩
    · rcases mem_thread_accepted s hv with ⟨-, rfl⟩ | ⟨-, hv⟩
      · exact hfresh
      · rcases mem_thread_accepted s hu with ⟨-, rfl⟩ | ⟨-, hu⟩
        · exact absurd hwork hfresh
        · exact hJ.single j hj u hu hwork k hkj v hv hk
    · rcases mem_thread_accepted s hv with ⟨-, rfl⟩ | ⟨-, hv⟩
      · cases hrem
      · rcases mem_thread_accepted s hu with ⟨-, rfl⟩ | ⟨-, hu⟩
        · exact absurd hwork hfresh
        · exact hJ.overlap j hj u hu hwork k hkj v hv hk hrem
  · have hother : ∀ j, j ≠ i → ∀ u ∈ (s.turn i r).thread j, u ∈ s.thread j := by
      intro j hji u hu
      rwa [turn_thread_of_ne s r hji] at hu
    by_cases hm : macOf i = m
    · obtain ⟨hsql, hd⟩ := hC hm
      obtain ⟨hheard, hlook⟩ := hturn hm t ht
      have hwork := atWork_pangoClientStep (hd t ht) (hshape.1 i t ht hm) hr
      -- while connection `i` is at work after the step, no other one is
      have halone : r.thread.AtWork → Others s i fun j u => macOf j = m → ¬ u.AtWork := by
        intro hr' j hji u hu hj hu'
        rcases hwork hr' with hold | ⟨hnew, -⟩
        · exact hJ.single i hm t ht hold j hji u hu hj hu'
        · rcases hheard hnew j hji u hu hj with he | ho
          · exact hu'.1 he
          · rw [hu'.2] at ho
            cases ho
      refine ⟨fun j hj u hu hw k hkj v hv hk => ?_, fun j hj u hu hw k hkj v hv hk hrem => ?_⟩
      · by_cases hji : j = i
        · subst hji
          rw [turn_thread_self] at hu
          cases hu
          exact halone hw k hkj v (hother k hkj v hv) hk
        · have huj := hother j hji u hu
          by_cases hki : k = i
          · subst hki
            rw [turn_thread_self] at hv
            cases hv
            exact fun hv' => halone hv' j hji u huj hj hw
          · exact hJ.single j hj u huj hw k hkj v (hother k hki v hv) hk
      · by_cases hji : j = i
        · subst hji
          rw [turn_thread_self] at hu
          cases hu
          have hvk := hother k hkj v hv
          rcases hwork hw with hold | ⟨-, hexist⟩
          · have hpc := hJ.overlap j hj t ht hold k hkj v hvk hk hrem
            exact absurd hrem (hlook hpc k hkj v hvk hk)
          · exact hexist
        · have huj := hother j hji u hu
          by_cases hki : k = i
          · subst hki
            rw [turn_thread_self] at hv
            cases hv
            have hpay : t.pc = .pay := remove_pangoClientStep hr hrem
            have hold : t.AtWork := atWork_of_pc (by rw [hpay]; rfl) (by rw [hpay]; decide)
              (by rw [hpay]; decide)
            exact absurd hw (hJ.single k hk t ht hold j hji u huj hj)
          · exact hJ.overlap j hj u huj hw k hkj v (hother k hki v hv) hk hrem
    · have hmi : ∀ j, macOf j = m → j ≠ i := by
        rintro j hj rfl
        exact hm hj
      exact ⟨fun j hj u hu hw k hkj v hv hk =>
          hJ.single j hj u (hother j (hmi j hj) u hu) hw k hkj v (hother k (hmi k hk) v hv) hk,
        fun j hj u hu hw k hkj v hv hk =>
          hJ.overlap j hj u (hother j (hmi j hj) u hu) hw k hkj v (hother k (hmi k hk) v hv) hk⟩
  · exact ⟨hJ.single, hJ.overlap⟩

end Turns

end Pango.Server
