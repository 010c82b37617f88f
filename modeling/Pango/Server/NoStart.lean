import Pango.Server.Framing

/-!
# A connection that never starts

The close and the disconnect paths write the time used of whatever address the
slot carries, without asking whether the slot was ever connected, as the backup
thread does.

* `Harmless` — when a connection without a `START_APP` frame leaves no mark: its
  last statement fails, or no `CLOSE_APP` frame was obeyed and the rows of its
  address already hold what it writes.
* `untouched_iff` — over any table and any such frames, the table is as it was
  and no payment was sent exactly in this case.
* `suspended_parking_overwritten` — a frame with any other status, and a hang-up,
  overwrite the time of a suspended parking.
-/

namespace Pango.Server

variable {D : Type*}

/-! ## Frames and their effect -/

/-- The frames that are stored: up to the first whose status byte is
`CRC8_TEST_FAILED`, which makes the thread pass over all that follow. -/
def obeyed : List Frame → List Frame
  | [] => []
  | f :: fs => if f.status = crc8TestFailed then [f] else f :: obeyed fs

/-- The address of the last frame stored, or none. -/
def lastMac (fs : List Frame) : List UInt8 := ((obeyed fs).getLast?.map macText).getD []

/-- What leaves no mark on `rows`, at the clock reading of the ending. -/
def Harmless (now : Int) (updateFails : Bool) (rows : List Row) (fs : List Frame) : Prop :=
  updateFails = true ∨ ((∀ f ∈ obeyed fs, f.status ≠ closeApp) ∧
    ∀ r ∈ rows, r.macAdr = lastMac fs → r.timeUsed = CInt.toInt32 now)

/-- Frames none of which silences the thread are all stored. -/
theorem obeyed_of_forall {fs : List Frame} (h : ∀ f ∈ fs, f.status ≠ crc8TestFailed) :
    obeyed fs = fs := by
  induction fs with
  | nil => rfl
  | cons g fs ih =>
    rw [obeyed, if_neg (h g List.mem_cons_self), ih fun f hf => h f (List.mem_cons_of_mem g hf)]

theorem obeyed_append_of_forall {fs : List Frame} (h : ∀ f ∈ fs, f.status ≠ crc8TestFailed)
    (f : Frame) : obeyed (fs ++ [f]) = fs ++ [f] := by
  induction fs with
  | nil => simp [obeyed]
  | cons g fs ih =>
    rw [List.cons_append, obeyed, if_neg (h g List.mem_cons_self),
      ih fun f hf => h f (List.mem_cons_of_mem g hf)]

theorem obeyed_append_of_exists {fs : List Frame} (h : ∃ f ∈ fs, f.status = crc8TestFailed)
    (f : Frame) : obeyed (fs ++ [f]) = obeyed fs := by
  induction fs with
  | nil => simp at h
  | cons g fs ih =>
    rw [List.cons_append, obeyed, obeyed]
    split_ifs with hg
    · rfl
    · rw [ih (by simpa [hg] using h)]

/-! ## The runs -/

/-- Connection `i` receives whole frames that pass the check and are no
`START_APP` until it hangs up or ends, and its last `UPDATE` reads the clock at
`now`; nobody else moves. -/
def NeverStarts (i : ℕ) (now : Int) (updateFails : Bool) (s : State D) : Label → Prop
  | .accept .. => True
  | .client j env => j = i ∧ ∀ t ∈ s.thread i,
      (t.pc = .recv → env.recv = .closed ∨
        ∃ f ∈ env.recv.frame?, CrcValid f ∧ f.status ≠ startApp) ∧
      (t.pc = .close ∨ t.pc = .update → env.now = now ∧ env.fails 0 = updateFails)
  | .backup .. => False

/-- The table is as it was, and no payment was sent. -/
def Untouched (rows yourTable : List Row) (events : List (Event D)) : Prop :=
  yourTable = rows ∧ ∀ e ∈ events, e.isPayment = false

/-! ## The invariant -/

/-- A thread that has been told neither to start nor to close, and its slot. -/
structure Waiting (fs : List Frame) (client : PangoData D) (t : Thread) : Prop where
  mac : client.mac = lastMac fs
  time : client.timeStartParking = 0
  noClose : ∀ f ∈ obeyed fs, f.status ≠ closeApp
  silenced : t.pc = .recv ∨ t.pc = .check →
    (t.status = crc8TestFailed ↔ ∃ f ∈ fs, f.status = crc8TestFailed)
  buff : t.pc = .check → CrcValid t.clientDataBuff ∧ t.clientDataBuff.status ≠ startApp
  lost : t.pc = .lost → t.status = connectionLost

/-- Where a connection that never starts can stand. -/
def Stands (now : Int) (updateFails : Bool) (rows : List Row) (client : PangoData D) (t : Thread)
    (yourTable : List Row) (events : List (Event D)) : Prop :=
  let fs := events.filterMap Event.handed
  match t.pc with
  | .recv | .check | .lost | .update => Untouched rows yourTable events ∧ Waiting fs client t
  | .close => Untouched rows yourTable events ∧ t.status = closeApp ∧ ∃ f ∈ obeyed fs,
    f.status = closeApp
  | .pay => updateFails = false ∧ ∃ f ∈ obeyed fs, f.status = closeApp
  | .remove => (updateFails = false ∧ ∃ f ∈ obeyed fs, f.status = closeApp)
      ∧ ∃ e ∈ events, e.isPayment = true
  | .closeFd | .done => Untouched rows yourTable events ↔ Harmless now updateFails rows fs
  | _ => False

section Step

variable [CDouble D] {cfg : Config D} {env : Env} {client : PangoData D} {t : Thread}
  {yourTable rows : List Row} {r : Turn D} {i : ℕ} {now : Int} {updateFails : Bool}
  {events : List (Event D)}

omit [CDouble D] in
/-- Actions that hand nothing over and pay nothing change neither side. -/
theorem untouched_append {es : List (Event D)} (hes : ∀ e ∈ es, e.isPayment = false)
    (h : Untouched rows yourTable events) : Untouched rows yourTable (events ++ es) :=
  ⟨h.1, fun e he => (List.mem_append.mp he).elim (h.2 e) (hes e)⟩

omit [CDouble D] in
theorem handed_append (es : List (Event D)) (hes : ∀ e ∈ es, e.handed = none) :
    (events ++ es).filterMap Event.handed = events.filterMap Event.handed := by
  rw [List.filterMap_append, List.filterMap_eq_nil_iff.mpr hes, List.append_nil]

theorem stands_check (hpc : t.pc = .check) (hkept : Untouched rows yourTable events)
    (hw : Waiting (events.filterMap Event.handed) client t)
    (h : pangoClientStep cfg env client t yourTable = some r) :
    Stands now updateFails rows r.client r.thread r.yourTable (events ++ r.events) := by
  obtain ⟨hv, hns⟩ := hw.buff hpc
  have hkept' : Untouched rows yourTable (events ++ [.check t.clientDataBuff]) :=
    untouched_append (by simp [Event.isPayment]) hkept
  have hfs : (events ++ [Event.check t.clientDataBuff]).filterMap Event.handed
      = events.filterMap Event.handed ++ [t.clientDataBuff] := by
    rw [List.filterMap_append]
    rfl
  by_cases hst : t.status = crc8TestFailed
  · rw [pangoClientStep_check_ignored hpc hv hst] at h
    cases h
    have hex := (hw.silenced (.inr hpc)).mp hst
    have hob := obeyed_append_of_exists hex t.clientDataBuff
    simp only [Stands, hfs]
    refine ⟨hkept', ?_, hw.time, ?_, fun _ => ?_, by simp, by simp⟩
    · rw [lastMac, hob]
      exact hw.mac
    · exact hob ▸ hw.noClose
    · obtain ⟨f, hf, hf255⟩ := hex
      exact iff_of_true hst ⟨f, List.mem_append_left _ hf, hf255⟩
  · obtain ⟨m, hm, hstep⟩ := pangoClientStep_check cfg env client yourTable hpc hv hst
    rw [hstep] at h
    cases h
    have hnone : ∀ f ∈ events.filterMap Event.handed, f.status ≠ crc8TestFailed := by
      intro f hf hf255
      exact hst ((hw.silenced (.inr hpc)).mpr ⟨f, hf, hf255⟩)
    have hnc := hw.noClose
    rw [obeyed_of_forall hnone] at hnc
    have hob := obeyed_append_of_forall hnone t.clientDataBuff
    by_cases hcl : t.clientDataBuff.status = closeApp
    · have hsw : switchStatus t.clientDataBuff.status = .close := by rw [hcl, switchStatus_closeApp]
      simp only [Stands, hsw, hfs, hob]
      exact ⟨hkept', hcl, t.clientDataBuff, by simp, hcl⟩
    · have hsw := switchStatus_of_ne hns hcl
      simp only [Stands, hsw, hfs]
      refine ⟨hkept', ?_, hw.time, ?_, fun _ => ⟨fun h => ?_, fun hex => ?_⟩, by simp, by simp⟩
      · rw [lastMac, hob, List.getLast?_concat]
        exact hm
      · rw [hob]
        intro f hf
        rcases List.mem_append.mp hf with hf | hf
        · exact hnc f hf
        · rw [List.mem_singleton.mp hf]
          exact hcl
      · exact ⟨t.clientDataBuff, by simp, h⟩
      · obtain ⟨f, hf, hf255⟩ := hex
        rcases List.mem_append.mp hf with hf | hf
        · exact absurd hf255 (hnone f hf)
        · rw [← List.mem_singleton.mp hf]
          exact hf255

omit [CDouble D] in
theorem update_events (env : Env) (client : PangoData D) (yourTable : List Row) :
    ∀ e ∈ Event.lock :: (updateClientData env client yourTable).events ++ [Event.unlock],
      e.handed = none ∧ e.isPayment = false := by
  simp [updateClientData, Event.handed, Event.isPayment]

/-- **The writing of a disconnect** leaves no mark exactly if it is harmless. -/
theorem stands_update (hpc : t.pc = .update) (hnow : env.now = now) (hf : env.fails 0 = updateFails)
    (hkept : Untouched rows yourTable events)
    (hw : Waiting (events.filterMap Event.handed) client t)
    (h : pangoClientStep cfg env client t yourTable = some r) :
    Stands now updateFails rows r.client r.thread r.yourTable (events ++ r.events) := by
  simp only [pangoClientStep, hpc] at h
  cases h
  obtain ⟨rfl, hpay⟩ := hkept
  have hev := update_events env client yourTable
  have hpay' := fun e (he : e ∈ events ++ _) =>
    (List.mem_append.mp he).elim (hpay e) fun he => (hev e he).2
  have hsec : secondsUsed client env.now = CInt.toInt32 now := by
    rw [secondsUsed_eq, hw.time, Int.sub_zero, hnow]
  simp only [Stands, handed_append _ fun e he => (hev e he).1]
  rw [Untouched, and_iff_left hpay', Harmless, and_iff_right hw.noClose, ← hw.mac]
  cases hb : updateFails with
  | true =>
    rw [hb] at hf
    simp [updateClientData, sqlite3Exec, hf]
  | false =>
    rw [hb] at hf
    simp only [updateClientData, sqlite3Exec, hf, hsec, Stmt.apply, Bool.false_eq_true, if_false,
      false_or]
    refine KeyedTable.update_eq_self_iff.trans (forall₃_congr fun row _ _ => ?_)
    obtain ⟨_, _, _⟩ := row
    simp [Row.setTimeUsed, eq_comm]

/-- **The writing of a close** goes on to the payment, unless it fails. -/
theorem stands_close (hpc : t.pc = .close) (hf : env.fails 0 = updateFails)
    (hkept : Untouched rows yourTable events) (hst : t.status = closeApp)
    (hcl : ∃ f ∈ obeyed (events.filterMap Event.handed), f.status = closeApp)
    (h : pangoClientStep cfg env client t yourTable = some r) :
    Stands now updateFails rows r.client r.thread r.yourTable (events ++ r.events) := by
  simp only [pangoClientStep, hpc] at h
  cases h
  have hev := update_events env client yourTable
  cases hb : updateFails with
  | true =>
    rw [hb] at hf
    have hpc' : exitSwitch (if (updateClientData env client yourTable).returnValue = errorCode then
        closeAppError else t.status) = .closeFd := by
      simp [updateClientData, hf]
    have htable : (updateClientData env client yourTable).yourTable = yourTable := by
      simp [updateClientData, sqlite3Exec, hf]
    simp only [Stands, hpc', htable, handed_append _ fun e he => (hev e he).1]
    exact iff_of_true (untouched_append (fun e he => (hev e he).2) hkept) (.inl rfl)
  | false =>
    rw [hb] at hf
    have hpc' : exitSwitch (if (updateClientData env client yourTable).returnValue = errorCode then
        closeAppError else t.status) = .pay := by
      have hret : (updateClientData env client yourTable).returnValue = 0 := by
        simp [updateClientData, hf]
      rw [hret, if_neg (by decide), hst]
      rfl
    simp only [Stands, hpc', handed_append _ fun e he => (hev e he).1]
    exact ⟨trivial, hcl⟩

theorem stands_pangoClientStep (hC : (t.pc = .recv → env.recv = .closed ∨
      ∃ f ∈ env.recv.frame?, CrcValid f ∧ f.status ≠ startApp) ∧
      (t.pc = .close ∨ t.pc = .update → env.now = now ∧ env.fails 0 = updateFails))
    (hJ : Stands now updateFails rows client t yourTable events)
    (h : pangoClientStep cfg env client t yourTable = some r) :
    Stands now updateFails rows r.client r.thread r.yourTable (events ++ r.events) := by
  cases hpc : t.pc with
  | recv =>
    simp only [Stands, hpc] at hJ
    obtain ⟨hkept, hw⟩ := hJ
    rcases hC.1 hpc with hclosed | ⟨f, hf, hv, hns⟩
    · simp only [pangoClientStep, hpc, hclosed] at h
      cases h
      simp only [Stands, handed_append [.hangup] (by simp [Event.handed])]
      exact ⟨untouched_append (by simp [Event.isPayment]) hkept, hw.mac, hw.time, hw.noClose,
        by simp, by simp, fun _ => rfl⟩
    · rw [pangoClientStep_recvFrame hpc (Recv.eq_recvFrame hf)] at h
      cases h
      simp only [Stands, handed_append [.recv f.toList] (by simp [Event.handed])]
      exact ⟨untouched_append (by simp [Event.isPayment]) hkept, hw.mac, hw.time, hw.noClose,
        fun _ => hw.silenced (.inl hpc), fun _ => ⟨hv, hns⟩, by simp⟩
  | check =>
    simp only [Stands, hpc] at hJ
    exact stands_check hpc hJ.1 hJ.2 h
  | lost =>
    simp only [Stands, hpc] at hJ
    obtain ⟨hkept, hw⟩ := hJ
    rw [pangoClientStep_lost hpc (hw.lost hpc)] at h
    cases h
    simp only [Stands, handed_append [.lock, .unlock] (by simp [Event.handed])]
    exact ⟨untouched_append (by simp [Event.isPayment]) hkept, hw.mac, hw.time, hw.noClose,
      by simp, by simp, by simp⟩
  | update =>
    simp only [Stands, hpc] at hJ
    obtain ⟨hnow, hf⟩ := hC.2 (.inr hpc)
    exact stands_update hpc hnow hf hJ.1 hJ.2 h
  | close =>
    simp only [Stands, hpc] at hJ
    exact stands_close hpc (hC.2 (.inl hpc)).2 hJ.1 hJ.2.1 hJ.2.2 h
  | pay =>
    simp only [Stands, hpc] at hJ
    simp only [pangoClientStep, hpc, calculateAndSendPaymentData] at h
    cases h
    simp only [Stands, handed_append [.send (.payment _ _) _] (by simp [Event.handed])]
    exact ⟨hJ, _, List.mem_append_right _ (List.mem_singleton_self _), rfl⟩
  | remove =>
    simp only [Stands, hpc] at hJ
    simp only [pangoClientStep, hpc, removeClientData] at h
    cases h
    obtain ⟨⟨hf, f, hfm, hcl⟩, e, he, hpay⟩ := hJ
    simp only [Stands, handed_append (.lock :: [.exec _ _] ++ [.unlock]) (by simp [Event.handed])]
    refine iff_of_false (fun hkept => ?_) ?_
    · rw [hkept.2 e (List.mem_append_left _ he)] at hpay
      cases hpay
    · rintro (hfail | ⟨hnc, -⟩)
      · rw [hf] at hfail
        cases hfail
      · exact hnc f hfm hcl
  | closeFd =>
    simp only [Stands, hpc] at hJ
    simp only [pangoClientStep, hpc] at h
    cases h
    simp only [Stands, handed_append [.close] (by simp [Event.handed])]
    rw [← hJ]
    refine ⟨fun hkept => ⟨hkept.1, fun e he => hkept.2 e (List.mem_append_left _ he)⟩,
      untouched_append (by simp [Event.isPayment])⟩
  | exist | retriev | init | process | sendLocation | setConnected | sendErrMsg =>
    simp only [Stands, hpc] at hJ
  | done => simp [pangoClientStep, hpc] at h

end Step

/-! ## Runs -/

section Run

variable [CDouble D] {cfg : Config D} {rows : List Row} {ls : List Label} {s : State D} {i : ℕ}
  {now : Int} {updateFails : Bool}

theorem stands_of_exec (h : (server cfg).Exec (NeverStarts i now updateFails) (.start rows) ls s) :
    (∀ t ∈ s.thread i, Stands now updateFails rows (s.client i) t s.yourTable (own i s))
      ∧ (s.thread i = none → s.yourTable = rows ∧ own i s = [] ∧ s.client i = .zero) := by
  refine h.invariant (I := fun s =>
    (∀ t ∈ s.thread i, Stands now updateFails rows (s.client i) t s.yourTable (own i s))
      ∧ (s.thread i = none → s.yourTable = rows ∧ own i s = [] ∧ s.client i = .zero))
    ⟨fun _ ht => (nomatch ht), fun _ => ⟨rfl, rfl, rfl⟩⟩ ?_
  rintro s l s' hC ⟨hJ, hnone⟩ hs
  rcases step_cases hs with
      ⟨j, fd, rfl, hj, rfl⟩ | ⟨j, env, t, r, rfl, ht, hr, rfl⟩ | ⟨c, f, rfl, rfl⟩
  · by_cases hij : i = j
    · subst hij
      obtain ⟨htable, hown, hzero⟩ := hnone hj
      refine ⟨fun u hu => ?_, fun hi => by simp at hi⟩
      rw [accepted_thread_self] at hu
      cases hu
      rw [accepted_client_self, own_accepted, hown, hzero]
      exact ⟨⟨htable, by simp⟩, mac_zero (D := D), rfl, by simp [obeyed],
        fun _ => iff_of_false (by decide) (by simp), nofun, nofun⟩
    · rw [accepted_thread_of_ne s fd hij, accepted_client_of_ne s fd hij]
      exact ⟨hJ, hnone⟩
  · obtain ⟨rfl, hC⟩ := hC
    refine ⟨fun u hu => ?_, fun hi => by simp at hi⟩
    rw [turn_thread_self] at hu
    cases hu
    rw [turn_client_self, own_turn_self]
    exact stands_pangoClientStep (hC t ht) (hJ t ht) hr
  · exact hC.elim

/-- **No start, hardly any effect.**  When a connection that never starts has
ended, the table is as it was and no payment was sent exactly if its ending was
harmless. -/
theorem untouched_iff (h : (server cfg).Exec (NeverStarts i now updateFails) (.start rows) ls s)
    {t : Thread} (ht : s.thread i = some t) (hdone : t.pc = .done) :
    Untouched rows s.yourTable (own i s) ↔ Harmless now updateFails rows (handed i s) := by
  have := (stands_of_exec h).1 t ht
  simp only [Stands, hdone] at this
  exact this

end Run

instance (i : ℕ) (now : Int) (updateFails : Bool) (s : State D) :
    (l : Label) → Decidable (NeverStarts i now updateFails s l)
  | .client j _ => inferInstanceAs (Decidable (j = i ∧ ∀ t ∈ s.thread i, _))
  | .accept .. => isTrue trivial
  | .backup .. => isFalse id

/-- A connection that sends one frame with another status and hangs up at `now`. -/
def glance (now : Int) : List Label :=
  [.accept 0 4, .client 0 { recv := recvFrame (sampleFrame 7) }, .client 0 {}, .client 0 {},
    .client 0 {}, .client 0 { now }, .client 0 {}]

/-- The rule at work on a parking suspended at the very second it was resumed at. -/
theorem untouched_at_sixty : ∃ s : State Int,
    Untouched [⟨macKey sampleMac, 60, ashkelon⟩] s.yourTable (own 0 s) := by
  have hrun : ((server samplePrices).runIf (NeverStarts 0 60 false)
      (.start [⟨macKey sampleMac, 60, ashkelon⟩]) (glance 60)).map (fun s =>
        ((s.thread 0).map Thread.pc, handed 0 s)) = some (some .done, [sampleFrame 7]) := by
    decide +kernel
  obtain ⟨s, hs, hparts⟩ := Option.map_eq_some_iff.mp hrun
  obtain ⟨hpc, hhand⟩ := Prod.mk.inj hparts
  obtain ⟨t, ht, hdone⟩ := Option.map_eq_some_iff.mp hpc
  refine ⟨s, (untouched_iff (Lts.exec_of_runIf _ hs) ht hdone).mpr (.inr ?_)⟩
  rw [hhand]
  decide +kernel

/-! ## A suspended parking overwritten -/

/-- **A hang-up that writes.**  It is not true that a connection that never
starts always leaves the table as it was and sends no payment. -/
theorem suspended_parking_overwritten :
    ¬ ∀ (rows : List Row) (ls : List Label) (s : State Int) (i : ℕ) (t : Thread) (now : Int)
      (updateFails : Bool),
      (server samplePrices).Exec (NeverStarts i now updateFails) (.start rows) ls s →
      s.thread i = some t → t.pc = .done → Untouched rows s.yourTable (own i s) := by
  intro hclaim
  have hrun : ((server samplePrices).runIf (NeverStarts 0 500 false)
      (.start [⟨macKey sampleMac, 60, ashkelon⟩]) (glance 500)).map (fun s =>
        ((s.thread 0).map Thread.pc, s.yourTable))
      = some (some .done, [⟨macKey sampleMac, 500, ashkelon⟩]) := by
    decide +kernel
  obtain ⟨s, hs, hparts⟩ := Option.map_eq_some_iff.mp hrun
  obtain ⟨hpc, htable⟩ := Prod.mk.inj hparts
  obtain ⟨t, ht, hdone⟩ := Option.map_eq_some_iff.mp hpc
  have := (hclaim _ _ s 0 t 500 false (Lts.exec_of_runIf _ hs) ht hdone).1
  rw [htable] at this
  exact absurd this (by decide +kernel)

end Pango.Server
