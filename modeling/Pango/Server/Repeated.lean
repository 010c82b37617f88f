import Pango.Server.ExitCause
import Pango.Server.Meter
import Pango.Server.OneRow

/-!
# Starting twice

A device may send `START_APP` again while its connection counts the time.  On a connection
that has resumed a parking this is passed over.  On one that has begun a new parking the
lookup finds the row that was inserted then, and `retriev_client_data` takes the start time
from it: from a time used that was written by the last backup pass, or from zero.

* `Further` — the steps that take in and handle a further `START_APP` frame.
* `Alike` — what they leave of a connection, next to a connection without them.
* `repeated_start` — without them, the table is the same, and so are all bills and all times
  written, if each time used that is found is up to date.
* `lost_by_repetition` — a minute that is not billed.
-/

namespace Pango.Server

open CInt

variable {D : Type*}

/-! ## Further starts -/

/-- The thread handles a `START_APP` frame. -/
def Thread.Starting (t : Thread) : Prop :=
  (t.pc = .check ∧ CrcValid t.clientDataBuff ∧ t.clientDataBuff.status = startApp) ∨
    t.pc ∈ [Pc.exist, .retriev, .init, .process, .sendLocation, .setConnected]

instance (t : Thread) : Decidable t.Starting := inferInstanceAs (Decidable (_ ∨ _))

/-- `recv` returns a `START_APP` frame. -/
def Recv.Start (recv : Recv) : Prop := ∃ f ∈ recv.frame?, CrcValid f ∧ f.status = startApp

instance (recv : Recv) : Decidable recv.Start :=
  letI : Decidable (∃ f ∈ recv.frame?, CrcValid f ∧ f.status = startApp) :=
    recv.frame?.decidableExistsMem
  this

/-- The step takes in or handles a further `START_APP` frame of connection `i`: one that comes
while the slot is connected. -/
def Further (i : ℕ) (s : State D) : Label → Prop
  | .client j env => j = i ∧ (s.client i).connected = true ∧
      ∃ t ∈ s.thread i, t.Starting ∨ t.pc = .recv ∧ env.recv.Start
  | _ => False

instance (i : ℕ) (s : State D) : (l : Label) → Decidable (Further i s l)
  | .client _ env =>
    letI : Decidable (∃ t ∈ s.thread i, t.Starting ∨ t.pc = .recv ∧ env.recv.Start) :=
      (s.thread i).decidableExistsMem
    inferInstanceAs (Decidable (_ ∧ _ ∧ _))
  | .accept .. | .backup .. => isFalse id

/-- A further `START_APP` frame carries the address of the slot. -/
def SameMac (i : ℕ) (s : State D) : Label → Prop
  | .client j _ => j = i → (s.client i).connected = true → ∀ t ∈ s.thread i, t.pc = .check →
      t.Starting → macText t.clientDataBuff = (s.client i).mac
  | _ => True

/-- A further start that looks for its row finds it, with a time used that is up to date. -/
def UpToDate (i : ℕ) (s : State D) : Label → Prop
  | .client j env => j = i → (s.client i).connected = true → ∀ t ∈ s.thread i,
      (t.pc = .exist → t.checkedDatabase = false →
        selectMac (s.client i).mac s.yourTable ≠ []) ∧
      (t.pc = .retriev → ∃ row ∈ (selectMac (s.client i).mac s.yourTable).head?,
        toInt32 (env.now - row.timeUsed) = (s.client i).timeStartParking)
  | _ => True

/-! ## Connections with and without them -/

/-- The slots agree in what the time used depends on. -/
structure SameTime (c c' : PangoData D) : Prop where
  mac : c'.mac = c.mac
  connected : c'.connected = c.connected
  timeStartParking : c'.timeStartParking = c.timeStartParking

theorem SameTime.refl (c : PangoData D) : SameTime c c := ⟨rfl, rfl, rfl⟩

/-- A connection, and the same connection without its further starts. -/
inductive Alike : PangoData D → Thread → PangoData D → Thread → Prop
  /-- There has been none. -/
  | before {c : PangoData D} {t : Thread} : (t.Starting → c.connected = false) → Alike c t c t
  /-- One is handled; without it the thread waits. -/
  | within {c c' : PangoData D} {t t' : Thread} : SameTime c c' → c.connected = true →
      t.Starting → t.pc ∈ [Pc.check, .exist, .retriev] → t'.pc = .recv → t'.endTime = t.endTime →
      (t'.status = crc8TestFailed ↔ t.status = crc8TestFailed) → Alike c t c' t'
  /-- There have been some; what remains of them in buffer and status is read by no one. -/
  | after {c c' : PangoData D} {t t' : Thread} : SameTime c c' → ¬ t.Starting → t'.pc = t.pc →
      t'.endTime = t.endTime → (t.pc = .check → t'.clientDataBuff = t.clientDataBuff) →
      (if t.pc = .recv ∨ t.pc = .check then
        c.connected = true ∧ (t'.status = crc8TestFailed ↔ t.status = crc8TestFailed)
      else t'.status = t.status) → Alike c t c' t'

/-- What an action tells of the time used: the seconds of a bill, or those an `UPDATE` writes. -/
def Event.time : Event D → Option (D ⊕ Int)
  | .send (.payment _ seconds) _ => some (.inl seconds)
  | .exec (.update timeUsed _) _ => some (.inr timeUsed)
  | _ => none

section Step

variable [CDouble D] {cfg : Config D} {env : Env} {c c' : PangoData D} {t t' : Thread}
  {rows : List Row} {r : Turn D}

/-- A thread that comes to handle a start handles one already, or receives one. -/
theorem starting_pangoClientStep
    (hrecv : t.pc = .recv → env.recv = .closed ∨ ∃ f, env.recv = recvFrame f)
    (h : pangoClientStep cfg env c t rows = some r) (hs : r.thread.Starting) :
    r.client.connected = c.connected ∧ (t.Starting ∨ t.pc = .recv ∧ env.recv.Start) := by
  have hexit : ∀ u : Thread, u.pc ∈ [Pc.pay, .update, .sendErrMsg, .closeFd, .recv] →
      ¬ u.Starting := by
    intro u hu
    simp only [List.mem_cons, List.not_mem_nil, or_false] at hu
    rcases hu with hu | hu | hu | hu | hu <;> simp [Thread.Starting, hu]
  have hswitch : ∀ status, exitSwitch status ∈ [Pc.pay, .update, .sendErrMsg, .closeFd, .recv] :=
    fun status => List.mem_append_left [Pc.recv] (exitSwitch_mem status)
  cases hpc : t.pc with
  | recv =>
    rcases hrecv hpc with hr | ⟨f, hr⟩
    · simp only [pangoClientStep, hpc, hr] at h
      cases h
      simp [Thread.Starting] at hs
    · rw [pangoClientStep_recvFrame hpc hr] at h
      cases h
      obtain ⟨hv, hst⟩ : CrcValid f ∧ f.status = startApp := by
        simpa [Thread.Starting] using hs
      exact ⟨rfl, .inr ⟨rfl, f, by simp [hr, Recv.frame?, recvFrame, f.length_eq], hv, hst⟩⟩
  | check =>
    rcases check_cases hpc h with ⟨-, rfl⟩ | ⟨-, -, rfl⟩ | ⟨hv, -, m, -, rfl⟩
    · exact absurd hs (hexit _ (by simp))
    · exact absurd hs (hexit _ (by simp))
    · refine ⟨rfl, .inl (.inl ⟨hpc, hv, ?_⟩)⟩
      by_contra hne
      have hpc' : switchStatus t.clientDataBuff.status = .close
          ∨ switchStatus t.clientDataBuff.status = .recv := by
        unfold switchStatus
        split_ifs <;> simp
      rcases hpc' with hpc' | hpc' <;> simp [Thread.Starting, hpc'] at hs
  | retriev =>
    simp only [pangoClientStep, hpc] at h
    split at h <;> cases h
    · exact absurd hs (hexit _ (by simp))
    · exact absurd hs (hexit _ (hswitch _))
  | process =>
    obtain ⟨_, _, _, _, _, heq⟩ := processClientData_eq cfg env c t.status
    simp only [pangoClientStep, hpc, heq] at h
    cases h
    exact ⟨rfl, .inl (.inr (by simp [hpc]))⟩
  | exist | init | sendLocation =>
    simp only [pangoClientStep, hpc] at h
    cases h
    exact ⟨rfl, .inl (.inr (by simp [hpc]))⟩
  | setConnected | pay | remove | update | sendErrMsg | closeFd =>
    simp only [pangoClientStep, hpc] at h
    cases h
    simp [Thread.Starting] at hs
  | lost | close =>
    simp only [pangoClientStep, hpc] at h
    cases h
    exact absurd hs (hexit _ (hswitch _))
  | done => simp [pangoClientStep, hpc] at h

omit [CDouble D] in
/-- `update_client_data` does the same for slots that agree in what the time used depends
on. -/
theorem SameTime.updateClientData (h : SameTime c c') (env : Env) (rows : List Row) :
    updateClientData env c' rows = updateClientData env c rows := by
  have hseconds : secondsUsed c' env.now = secondsUsed c env.now := by
    rw [secondsUsed, h.timeStartParking, secondsUsed]
  unfold Server.updateClientData
  rw [hseconds, h.mac]

/-- Is it a step of a further start? -/
def StepsFurther (env : Env) (c : PangoData D) (t : Thread) : Prop :=
  c.connected = true ∧ (t.Starting ∨ t.pc = .recv ∧ env.recv.Start)

/-- What a step and the step beside it leave. -/
structure AlikeTurns (r r' : Turn D) : Prop where
  alike : Alike r.client r.thread r'.client r'.thread
  yourTable : r'.yourTable = r.yourTable
  times : r'.events.filterMap Event.time = r.events.filterMap Event.time

theorem within_of_recv (hpc : t.pc = .recv) (hstart : env.recv.Start) (hc : SameTime c c')
    (hcon : c.connected = true) (hpc' : t'.pc = .recv) (hend : t'.endTime = t.endTime)
    (hst : t'.status = crc8TestFailed ↔ t.status = crc8TestFailed)
    (h : pangoClientStep cfg env c t rows = some r) :
    Alike r.client r.thread c' t' ∧ r.yourTable = rows ∧ r.events.filterMap Event.time = [] := by
  obtain ⟨f, hf, hv, hf'⟩ := hstart
  rw [pangoClientStep_recvFrame hpc (Recv.eq_recvFrame hf)] at h
  cases h
  exact ⟨.within hc hcon (.inl ⟨rfl, hv, hf'⟩) (by simp) hpc' hend hst, rfl, rfl⟩

omit [CDouble D] in
/-- A further start is passed over, or has been resumed. -/
theorem after_of_waiting {u : Thread} (hc : SameTime c c') (hcon : c.connected = true)
    (hu : u.pc = .recv) (hpc' : t'.pc = .recv) (hend : t'.endTime = u.endTime)
    (hst : t'.status = crc8TestFailed ↔ u.status = crc8TestFailed) : Alike c u c' t' := by
  refine .after hc (by simp [Thread.Starting, hu]) (hpc'.trans hu.symm) hend (by simp [hu]) ?_
  rw [if_pos (.inl hu)]
  exact ⟨hcon, hst⟩

/-- **A step of a further start** is not missed where it is left out. -/
theorem alike_of_further (hsql : env.sqlFails = [])
    (hmac : t.pc = .check → t.Starting → macText t.clientDataBuff = c.mac)
    (hfound : t.pc = .exist → t.checkedDatabase = false → selectMac c.mac rows ≠ [])
    (hdate : t.pc = .retriev → ∃ row ∈ (selectMac c.mac rows).head?,
      toInt32 (env.now - row.timeUsed) = c.timeStartParking)
    (hfurther : StepsFurther env c t) (hA : Alike c t c' t')
    (h : pangoClientStep cfg env c t rows = some r) :
    Alike r.client r.thread c' t' ∧ r.yourTable = rows ∧ r.events.filterMap Event.time = [] := by
  obtain ⟨hcon, hfurther⟩ := hfurther
  cases hA with
  | before hbefore =>
    have hno : ¬ t.Starting := fun hs => by simp [hbefore hs] at hcon
    obtain ⟨hpc, hstart⟩ := hfurther.resolve_left hno
    exact within_of_recv hpc hstart (.refl c) hcon hpc rfl Iff.rfl h
  | after hc hno hpc' hend _ hst =>
    obtain ⟨hpc, hstart⟩ := hfurther.resolve_left hno
    rw [if_pos (.inl hpc)] at hst
    exact within_of_recv hpc hstart hc hcon (hpc'.trans hpc) hend hst.2 h
  | within hc _ hstart hpc hpc' hend hst =>
    simp only [List.mem_cons, List.not_mem_nil, or_false] at hpc
    rcases hpc with hpc | hpc | hpc
    · obtain ⟨hv, hf⟩ : CrcValid t.clientDataBuff ∧ t.clientDataBuff.status = startApp := by
        simpa [Thread.Starting, hpc] using hstart
      by_cases hfailed : t.status = crc8TestFailed
      · rw [pangoClientStep_check_ignored hpc hv hfailed] at h
        cases h
        exact ⟨after_of_waiting hc hcon rfl hpc' hend hst, rfl, rfl⟩
      · obtain ⟨m, hm, hstep⟩ := pangoClientStep_check cfg env c rows hpc hv hfailed
        rw [hstep] at h
        cases h
        rw [hf]
        have hsame : c'.mac = cstr m.toList := hc.mac.trans ((hmac hpc hstart).symm.trans hm.symm)
        refine ⟨.within ⟨hsame, hc.connected, hc.timeStartParking⟩ hcon (.inr (by simp)) (by simp)
          hpc' hend ?_, rfl, rfl⟩
        exact iff_of_false (fun hfailed' => hfailed (hst.mp hfailed'))
          (by decide : startApp ≠ crc8TestFailed)
    · simp only [pangoClientStep, hpc, clinetExistInDatabaseCheck_eq, Env.fails_of_nil hsql] at h
      cases h
      cases hch : t.checkedDatabase with
      | true =>
        simp only [Bool.not_true, Bool.and_false, Bool.false_and, Bool.false_eq_true, if_false,
          afterLookup_true]
        exact ⟨after_of_waiting hc hcon rfl hpc' hend hst, trivial, rfl⟩
      | false =>
        have hrow : (selectMac c.mac rows).isEmpty = false := by simpa using hfound hpc hch
        simp only [Bool.not_false, Bool.and_true, hrow, if_true]
        exact ⟨.within hc hcon (.inr (by simp)) (by simp) hpc' hend hst, trivial, rfl⟩
    · obtain ⟨row, hrow, htime⟩ := hdate hpc
      obtain ⟨rest, hsel⟩ := List.head?_eq_some_iff.mp hrow
      simp only [pangoClientStep, hpc, retrievClientData_of_ok hsql hsel, ne_eq, reduceCtorEq,
        not_false_eq_true, if_true] at h
      cases h
      refine ⟨after_of_waiting ⟨hc.mac, hc.connected.trans hcon, ?_⟩ rfl rfl hpc' hend hst, rfl,
        rfl⟩
      rw [hc.timeStartParking, htime]

omit [CDouble D] in
/-- Behind the loop the status has to agree. -/
theorem after_of_afterLoop {u u' : Thread} (hc : SameTime c c') (hu : u.pc.afterLoop = true)
    (hpc : u'.pc = u.pc) (hend : u'.endTime = u.endTime) (hst : u'.status = u.status) :
    Alike c u c' u' := by
  refine .after hc ?_ hpc hend ?_ ?_
  · rintro (⟨hs, -⟩ | hs)
    · simp [hs, Pc.afterLoop] at hu
    · simp only [List.mem_cons, List.not_mem_nil, or_false] at hs
      rcases hs with hs | hs | hs | hs | hs | hs <;> simp [hs, Pc.afterLoop] at hu
  · intro hs
    simp [hs, Pc.afterLoop] at hu
  · rw [if_neg ?_]
    · exact hst
    · rintro (hs | hs) <;> simp [hs, Pc.afterLoop] at hu

/-- A frame is taken in that is no further start. -/
theorem alike_of_check (hpc : t.pc = .check) (hc : SameTime c c') (hno : ¬ t.Starting)
    (hpc' : t'.pc = .check) (hend : t'.endTime = t.endTime)
    (hbuff : t'.clientDataBuff = t.clientDataBuff) (hcon : c.connected = true)
    (hst : t'.status = crc8TestFailed ↔ t.status = crc8TestFailed)
    (h : pangoClientStep cfg env c t rows = some r) :
    ∃ r', pangoClientStep cfg env c' t' rows = some r' ∧ AlikeTurns r r' := by
  by_cases hv : CrcValid t.clientDataBuff
  · have hv' : CrcValid t'.clientDataBuff := hbuff ▸ hv
    by_cases hfailed : t.status = crc8TestFailed
    · rw [pangoClientStep_check_ignored hpc hv hfailed] at h
      cases h
      refine ⟨_, pangoClientStep_check_ignored hpc' hv' (hst.mpr hfailed), ?_, rfl, rfl⟩
      exact after_of_waiting hc hcon rfl rfl hend hst
    · obtain ⟨m, hm, hstep⟩ := pangoClientStep_check cfg env c rows hpc hv hfailed
      obtain ⟨m', hm', hstep'⟩ := pangoClientStep_check cfg env c' rows hpc' hv' (mt hst.mp hfailed)
      rw [hbuff] at hm' hstep'
      rw [hstep] at h
      cases h
      refine ⟨_, hstep', ?_, rfl, rfl⟩
      have hne : t.clientDataBuff.status ≠ startApp := fun hf => hno (.inl ⟨hpc, hv, hf⟩)
      have hsame : cstr m'.toList = cstr m.toList := hm'.trans hm.symm
      refine .after ⟨hsame, hc.connected, hc.timeStartParking⟩ ?_ rfl hend (fun _ => rfl) ?_
      · unfold switchStatus
        rw [if_neg hne]
        split_ifs <;> simp [Thread.Starting]
      · split_ifs
        · exact ⟨hcon, Iff.rfl⟩
        · rfl
  · have hv' : ¬ CrcValid t'.clientDataBuff := hbuff ▸ hv
    rw [pangoClientStep_check_invalid hpc hv] at h
    cases h
    refine ⟨_, pangoClientStep_check_invalid hpc' hv', ?_, rfl, rfl⟩
    exact after_of_afterLoop hc rfl rfl hend rfl

/-- Without further starts on its way, a connection that has seen some is like one that has
not. -/
theorem alike_of_after
    (hrecv : t.pc = .recv → env.recv = .closed ∨ ∃ f, env.recv = recvFrame f)
    (hfurther : ¬ StepsFurther env c t) (hc : SameTime c c') (hno : ¬ t.Starting)
    (hpc : t'.pc = t.pc) (hend : t'.endTime = t.endTime)
    (hbuff : t.pc = .check → t'.clientDataBuff = t.clientDataBuff)
    (hst : if t.pc = .recv ∨ t.pc = .check then
        c.connected = true ∧ (t'.status = crc8TestFailed ↔ t.status = crc8TestFailed)
      else t'.status = t.status)
    (h : pangoClientStep cfg env c t rows = some r) :
    ∃ r', pangoClientStep cfg env c' t' rows = some r' ∧ AlikeTurns r r' := by
  cases hpc₀ : t.pc with
  | recv =>
    rw [if_pos (.inl hpc₀)] at hst
    rw [hpc₀] at hpc
    rcases hrecv hpc₀ with hr | ⟨f, hr⟩
    · simp only [pangoClientStep, hpc₀, hpc, hr] at h ⊢
      cases h
      refine ⟨_, rfl, ?_, rfl, rfl⟩
      exact .after hc (by simp [Thread.Starting]) rfl hend (by simp) (by simp)
    · rw [pangoClientStep_recvFrame hpc₀ hr] at h
      cases h
      refine ⟨_, pangoClientStep_recvFrame hpc hr, ?_, rfl, rfl⟩
      refine .after hc ?_ rfl hend (fun _ => rfl) hst
      rintro (⟨-, hv, hf⟩ | hs)
      · exact hfurther ⟨hst.1, .inr ⟨hpc₀, f, by simp [hr, Recv.frame?, recvFrame, f.length_eq],
          hv, hf⟩⟩
      · simp at hs
  | check =>
    rw [if_pos (.inr hpc₀)] at hst
    exact alike_of_check hpc₀ hc hno (hpc.trans hpc₀) hend (hbuff hpc₀) hst.1 hst.2 h
  | lost =>
    replace hst : t'.status = t.status := by simpa [hpc₀] using hst
    simp only [pangoClientStep, hpc.trans hpc₀, hpc₀, hst] at h ⊢
    cases h
    refine ⟨_, rfl, ?_, rfl, rfl⟩
    exact after_of_afterLoop ⟨hc.mac, rfl, hc.timeStartParking⟩ (afterLoop_exitSwitch _) rfl hend
      rfl
  | close =>
    replace hst : t'.status = t.status := by simpa [hpc₀] using hst
    simp only [pangoClientStep, hpc.trans hpc₀, hpc₀, hst, hc.updateClientData] at h ⊢
    cases h
    refine ⟨_, rfl, ?_, rfl, rfl⟩
    exact after_of_afterLoop ⟨hc.mac, rfl, hc.timeStartParking⟩ (afterLoop_exitSwitch _) rfl rfl rfl
  | pay =>
    replace hst : t'.status = t.status := by simpa [hpc₀] using hst
    simp only [pangoClientStep, hpc.trans hpc₀, hpc₀, hc.timeStartParking, hend] at h ⊢
    cases h
    refine ⟨_, rfl, ?_, rfl, rfl⟩
    exact after_of_afterLoop hc rfl rfl rfl hst
  | update =>
    replace hst : t'.status = t.status := by simpa [hpc₀] using hst
    simp only [pangoClientStep, hpc.trans hpc₀, hpc₀, hc.updateClientData] at h ⊢
    cases h
    refine ⟨_, rfl, ?_, rfl, rfl⟩
    exact after_of_afterLoop hc rfl rfl rfl hst
  | remove | sendErrMsg | closeFd =>
    replace hst : t'.status = t.status := by simpa [hpc₀] using hst
    simp only [pangoClientStep, hpc.trans hpc₀, hpc₀, hc.mac] at h ⊢
    cases h
    refine ⟨_, rfl, ?_, rfl, rfl⟩
    exact after_of_afterLoop hc rfl rfl hend hst
  | done => simp [pangoClientStep, hpc₀] at h
  | exist | retriev | init | process | sendLocation | setConnected =>
    exact absurd (.inr (by simp [hpc₀])) hno

/-- **Any other step** is taken there as well. -/
theorem alike_of_not_further
    (hrecv : t.pc = .recv → env.recv = .closed ∨ ∃ f, env.recv = recvFrame f)
    (hfurther : ¬ StepsFurther env c t) (hA : Alike c t c' t')
    (h : pangoClientStep cfg env c t rows = some r) :
    ¬ StepsFurther env c' t' ∧
      ∃ r', pangoClientStep cfg env c' t' rows = some r' ∧ AlikeTurns r r' := by
  cases hA with
  | before hbefore =>
    refine ⟨hfurther, r, h, .before fun hs => ?_, rfl, rfl⟩
    obtain ⟨hcon, hstart⟩ := starting_pangoClientStep hrecv h hs
    rw [hcon]
    by_contra htrue
    exact hfurther ⟨by simpa using htrue, hstart⟩
  | within _ hcon hstart => exact absurd ⟨hcon, .inl hstart⟩ hfurther
  | after hc hno hpc hend hbuff hst =>
    refine ⟨?_, alike_of_after hrecv hfurther hc hno hpc hend hbuff hst h⟩
    rintro ⟨hcon, hstart⟩
    refine hfurther ⟨hc.connected ▸ hcon, hstart.imp (fun hs => absurd ?_ hno) fun hs => ?_⟩
    · rcases hs with ⟨hs, hv⟩ | hs
      · have hcheck := hpc.symm.trans hs
        exact .inl ⟨hcheck, hbuff hcheck ▸ hv⟩
      · exact .inr (hpc ▸ hs)
    · exact ⟨hpc.symm.trans hs.1, hs.2⟩

end Step

/-! ## Servers with and without them -/

/-- Two servers, the second of which does not see the further starts of connection `i`. -/
structure SameParking (i : ℕ) (s s' : State D) : Prop where
  yourTable : s'.yourTable = s.yourTable
  alike : ∀ t, s.thread i = some t →
    ∃ t', s'.thread i = some t' ∧ Alike (s.client i) t (s'.client i) t'
  unused : s.thread i = none → s'.thread i = none ∧ s'.client i = s.client i
  others : ∀ j, j ≠ i → s'.thread j = s.thread j ∧ s'.client j = s.client j
  /-- The same bills and the same times written. -/
  times : (own i s').filterMap Event.time = (own i s).filterMap Event.time

/-- SQLite works, connection `i` receives whole frames until its peer hangs up, and its further
starts come from the same device. -/
def Repeats (i : ℕ) (s : State D) (l : Label) : Prop :=
  SqlWorks l ∧ FrameOrEnd i s l ∧ SameMac i s l

section Server

variable [CDouble D] {cfg : Config D} {i : ℕ} {s s' u : State D} {l : Label}

omit [CDouble D] in
theorem Alike.sameTime {c c' : PangoData D} {t t' : Thread} (h : Alike c t c' t') :
    SameTime c c' := by
  cases h with
  | before => exact .refl c
  | within hc => exact hc
  | after hc => exact hc

omit [CDouble D] in
theorem SameParking.sameTime (hR : SameParking i s s') (j : ℕ) :
    SameTime (s.client j) (s'.client j) := by
  by_cases hj : j = i
  · subst hj
    cases ht : s.thread j with
    | none =>
      rw [(hR.unused ht).2]
      exact .refl _
    | some t =>
      obtain ⟨t', -, hA⟩ := hR.alike t ht
      exact hA.sameTime
  · rw [(hR.others j hj).2]
    exact .refl _

omit [CDouble D] in
theorem updateClients_sameTime {client client' : ℕ → PangoData D}
    (h : ∀ j, SameTime (client j) (client' j)) (n : ℕ) (clock : ℕ → Int) (sqlFails : List ℕ)
    (rows : List Row) :
    updateClients n client' clock sqlFails rows = updateClients n client clock sqlFails rows := by
  have hturn : updateClientsTurn client' clock sqlFails
      = updateClientsTurn client clock sqlFails := by
    funext rows j
    simp only [updateClientsTurn, backupStmt, secondsBackedUp, (h j).connected, (h j).mac,
      (h j).timeStartParking]
  rw [updateClients, hturn, updateClients]

omit [CDouble D] in
theorem further_iff {env : Env} {t : Thread} (ht : s.thread i = some t) :
    Further i s (.client i env) ↔ StepsFurther env (s.client i) t := by
  simp [Further, StepsFurther, ht]

omit [CDouble D] in
theorem SameParking.accepted (hR : SameParking i s s') {j : ℕ} (fd : Int) (hj : s.thread j = none) :
    s'.thread j = none ∧ SameParking i (s.accepted j fd) (s'.accepted j fd) := by
  by_cases hji : j = i
  · subst hji
    obtain ⟨hthread, hclient⟩ := hR.unused hj
    refine ⟨hthread, hR.yourTable, fun t ht => ?_, fun hnone => ?_, fun k hk => ?_, hR.times⟩
    · cases (accepted_thread_self s j fd).symm.trans ht
      refine ⟨_, accepted_thread_self s' j fd, ?_⟩
      rw [accepted_client_self, accepted_client_self, hclient]
      exact .before fun hs => by simp [Thread.Starting] at hs
    · simp at hnone
    · rw [accepted_thread_of_ne s fd hk, accepted_thread_of_ne s' fd hk,
        accepted_client_of_ne s fd hk, accepted_client_of_ne s' fd hk]
      exact hR.others k hk
  · have hij : i ≠ j := Ne.symm hji
    refine ⟨(hR.others j hji).1.trans hj, hR.yourTable, ?_, ?_, fun k hk => ?_, hR.times⟩
    · rw [accepted_thread_of_ne s fd hij, accepted_thread_of_ne s' fd hij,
        accepted_client_of_ne s fd hij, accepted_client_of_ne s' fd hij]
      exact hR.alike
    · rw [accepted_thread_of_ne s fd hij, accepted_thread_of_ne s' fd hij,
        accepted_client_of_ne s fd hij, accepted_client_of_ne s' fd hij]
      exact hR.unused
    · by_cases hkj : k = j
      · subst hkj
        rw [accepted_thread_self, accepted_thread_self, accepted_client_self, accepted_client_self,
          (hR.others k hk).2]
        exact ⟨rfl, rfl⟩
      · rw [accepted_thread_of_ne s fd hkj, accepted_thread_of_ne s' fd hkj,
          accepted_client_of_ne s fd hkj, accepted_client_of_ne s' fd hkj]
        exact hR.others k hk

omit [CDouble D] in
theorem SameParking.turn (hR : SameParking i s s') {r r' : Turn D} (hr : AlikeTurns r r') :
    SameParking i (s.turn i r) (s'.turn i r') := by
  refine ⟨hr.yourTable, fun t ht => ?_, fun hnone => ?_, fun k hk => ?_, ?_⟩
  · cases (turn_thread_self s i r).symm.trans ht
    refine ⟨_, turn_thread_self s' i r', ?_⟩
    rw [turn_client_self, turn_client_self]
    exact hr.alike
  · simp at hnone
  · rw [turn_thread_of_ne s r hk, turn_thread_of_ne s' r' hk, turn_client_of_ne s r hk,
      turn_client_of_ne s' r' hk]
    exact hR.others k hk
  · rw [own_turn_self, own_turn_self, List.filterMap_append, List.filterMap_append, hR.times,
      hr.times]

omit [CDouble D] in
theorem SameParking.turn_other (hR : SameParking i s s') {j : ℕ} (hji : j ≠ i) (r : Turn D) :
    SameParking i (s.turn j r) (s'.turn j r) := by
  have hij : i ≠ j := Ne.symm hji
  refine ⟨rfl, ?_, ?_, fun k hk => ?_, ?_⟩
  · rw [turn_thread_of_ne s r hij, turn_thread_of_ne s' r hij, turn_client_of_ne s r hij,
      turn_client_of_ne s' r hij]
    exact hR.alike
  · rw [turn_thread_of_ne s r hij, turn_thread_of_ne s' r hij, turn_client_of_ne s r hij,
      turn_client_of_ne s' r hij]
    exact hR.unused
  · by_cases hkj : k = j
    · subst hkj
      rw [turn_thread_self, turn_thread_self, turn_client_self, turn_client_self]
      exact ⟨rfl, rfl⟩
    · rw [turn_thread_of_ne s r hkj, turn_thread_of_ne s' r hkj, turn_client_of_ne s r hkj,
        turn_client_of_ne s' r hkj]
      exact hR.others k hk
  · rw [own_turn_of_ne s hij, own_turn_of_ne s' hij]
    exact hR.times

/-- **A step that is no step of a further start** is taken by the second server too. -/
theorem sameParking_keep (hC : FrameOrEnd i s l) (hR : SameParking i s s') (hno : ¬ Further i s l)
    (hs : (server cfg).step s l = some u) :
    ¬ Further i s' l ∧ ∃ u', (server cfg).step s' l = some u' ∧ SameParking i u u' := by
  rcases step_cases hs with
      ⟨j, fd, rfl, hj, rfl⟩ | ⟨j, env, t, r, rfl, ht, hr, rfl⟩ | ⟨c, f, rfl, rfl⟩
  · obtain ⟨hj', hR'⟩ := hR.accepted fd hj
    exact ⟨id, _, by simp [server, hj'], hR'⟩
  · by_cases hji : j = i
    · subst hji
      obtain ⟨t', ht', hA⟩ := hR.alike t ht
      rw [further_iff ht] at hno
      obtain ⟨hno', r', hr', hturns⟩ := alike_of_not_further (hC rfl t ht) hno hA hr
      refine ⟨mt (further_iff ht').mp hno', s'.turn j r', ?_, hR.turn hturns⟩
      simp [server, ht', hR.yourTable, hr']
    · obtain ⟨hthread, hclient⟩ := hR.others j hji
      refine ⟨fun hf => hji hf.1, s'.turn j r, ?_, hR.turn_other hji r⟩
      simp [server, hthread, hclient, hR.yourTable, ht, hr]
  · refine ⟨id, _, rfl, ?_, hR.alike, hR.unused, hR.others, ?_⟩
    · show updateClients _ s'.client c f s'.yourTable = updateClients _ s.client c f s.yourTable
      rw [updateClients_sameTime hR.sameTime, hR.yourTable]
    · rw [own_backedUp, own_backedUp]
      exact hR.times

/-- **A step of a further start** is not missed. -/
theorem sameParking_pass (hC : Repeats i s l) (hdate : UpToDate i s l) (hR : SameParking i s s')
    (hfurther : Further i s l) (hs : (server cfg).step s l = some u) : SameParking i u s' := by
  obtain ⟨hsql, -, hmac⟩ := hC
  rcases step_cases hs with
      ⟨j, fd, rfl, -, -⟩ | ⟨j, env, t, r, rfl, ht, hr, rfl⟩ | ⟨c, f, rfl, -⟩
  · exact hfurther.elim
  · obtain rfl : j = i := hfurther.1
    rw [further_iff ht] at hfurther
    obtain ⟨t', ht', hA⟩ := hR.alike t ht
    obtain ⟨hA', htable, htimes⟩ := alike_of_further hsql
      (hmac rfl hfurther.1 t ht) (hdate rfl hfurther.1 t ht).1 (hdate rfl hfurther.1 t ht).2
      hfurther hA hr
    refine ⟨hR.yourTable.trans htable.symm, fun v hv => ?_, fun hnone => ?_, fun k hk => ?_, ?_⟩
    · cases (turn_thread_self s j r).symm.trans hv
      rw [turn_client_self]
      exact ⟨t', ht', hA'⟩
    · simp at hnone
    · rw [turn_thread_of_ne s r hk, turn_client_of_ne s r hk]
      exact hR.others k hk
    · rw [own_turn_self, List.filterMap_append, htimes, List.append_nil]
      exact hR.times
  · exact hfurther.elim

/-- **Starting twice is starting once**, in every run in which a further start that looks for its
row finds it with a time used that is up to date.  Without the further starts the run is a run,
it ends with the same table, and the connection is sent the same bills and writes the same times
used; whatever the other connections do, and wherever the backup passes fall. -/
theorem repeated_start {rows : List Row} {ls kept : List Label}
    (h : ((server cfg).watched (Lts.keep (Further i))).Exec
      (fun p l => Repeats i p.1 l ∧ UpToDate i p.1 l) (.start rows, []) ls (s, kept)) :
    ∃ s', (server cfg).Exec (fun s l => ¬ Further i s l) (.start rows) kept s' ∧
      s'.yourTable = s.yourTable ∧
      (own i s').filterMap Event.time = (own i s).filterMap Event.time := by
  have hstart : SameParking i (State.start (D := D) rows) (.start rows) :=
    ⟨rfl, fun _ ht => (nomatch ht), fun _ => ⟨rfl, rfl⟩, fun _ _ => ⟨rfl, rfl⟩, rfl⟩
  obtain ⟨s', hexec, hR⟩ := Lts.Exec.unwind (C := fun s l => Repeats i s l ∧ UpToDate i s l) h
    hstart (fun _ _ _ _ hC hR hno hs => sameParking_keep hC.1.2.1 hR hno hs)
    fun _ _ _ _ hC hR hfurther hs => sameParking_pass hC.1 hC.2 hR hfurther hs
  exact ⟨s', hexec, hR.yourTable, hR.times⟩

end Server

instance (i : ℕ) (s : State D) : (l : Label) → Decidable (SameMac i s l)
  | .client j _ => inferInstanceAs (Decidable (j = i → (s.client i).connected = true →
      ∀ t ∈ s.thread i, t.pc = .check → t.Starting → _))
  | .accept .. | .backup .. => isTrue trivial

instance (i : ℕ) (s : State D) (l : Label) : Decidable (Repeats i s l) :=
  inferInstanceAs (Decidable (_ ∧ _ ∧ _))

instance (i : ℕ) (s : State D) : (l : Label) → Decidable (UpToDate i s l)
  | .client j env =>
    letI : Decidable (∃ row ∈ (selectMac (s.client i).mac s.yourTable).head?,
        toInt32 (env.now - row.timeUsed) = (s.client i).timeStartParking) :=
      (selectMac (s.client i).mac s.yourTable).head?.decidableExistsMem
    inferInstanceAs (Decidable (j = i → (s.client i).connected = true → ∀ t ∈ s.thread i,
      (t.pc = .exist → t.checkedDatabase = false → selectMac (s.client i).mac s.yourTable ≠ []) ∧
      (t.pc = .retriev → _)))
  | .accept .. | .backup .. => isTrue trivial

/-- A device parks from 100 on and starts again at 160; a backup pass at `backup` comes before.
It closes at 190. -/
def startedTwice (backup : Int) : List Label :=
  sampleStart 0 100 ++ [.backup (fun _ => backup) []] ++ sampleSend 0 startApp ++
    [.client 0 {}, .client 0 { now := 160 }] ++ sampleClose 0 190

/-- The pass falls into the second of the further start: ninety seconds are billed, as without. -/
theorem repeated_start_of_backup : ∃ (kept : List Label) (s s' : State Int),
    (own 0 s).filterMap Event.time = [.inr 90, .inl 90] ∧
    (server samplePrices).Exec (fun s l => ¬ Further 0 s l) (.start []) kept s' ∧
    s'.yourTable = s.yourTable ∧
    (own 0 s').filterMap Event.time = (own 0 s).filterMap Event.time := by
  have hrun : (((server samplePrices).watched (Lts.keep (Further 0))).runIf
      (fun p l => Repeats 0 p.1 l ∧ UpToDate 0 p.1 l) (.start [], []) (startedTwice 160)).map
      (fun p => (own 0 p.1).filterMap Event.time) = some [.inr 90, .inl 90] := by decide +kernel
  obtain ⟨⟨s, kept⟩, hp, htimes⟩ := Option.map_eq_some_iff.mp hrun
  obtain ⟨s', hs'⟩ := repeated_start (Lts.exec_of_runIf _ hp)
  exact ⟨kept, s, s', htimes, hs'⟩

/-- **A minute lost.**  It is not true that further starts change nothing: the pass has come
right behind the first start, so the second one begins to count afresh. -/
theorem lost_by_repetition :
    ¬ ∀ (rows : List Row) (ls kept : List Label) (s : State Int) (i : ℕ),
      ((server samplePrices).watched (Lts.keep (Further i))).Exec (fun p l => Repeats i p.1 l)
        (.start rows, []) ls (s, kept) → ClocksInOrder s.trace →
      ∃ s', (server samplePrices).Exec (fun s l => ¬ Further i s l) (.start rows) kept s' ∧
        s'.yourTable = s.yourTable ∧
        (own i s').filterMap Event.time = (own i s).filterMap Event.time := by
  intro hclaim
  have hrun : (((server samplePrices).watched (Lts.keep (Further 0))).runIf
      (fun p l => Repeats 0 p.1 l) (.start [], []) (startedTwice 100)).map
      (fun p => ((own 0 p.1).filterMap Event.time, clocks p.1.trace,
        ((server samplePrices).run (.start []) p.2).map fun s' => (own 0 s').filterMap Event.time))
      = some ([.inr 30, .inl 30], [100, 100, 160, 190], some [.inr 90, .inl 90]) := by
    decide +kernel
  obtain ⟨⟨s, kept⟩, hp, hparts⟩ := Option.map_eq_some_iff.mp hrun
  obtain ⟨htimes, hparts⟩ := Prod.mk.inj hparts
  obtain ⟨hclocks, hwithout⟩ := Prod.mk.inj hparts
  obtain ⟨s', hexec, -, hsame⟩ := hclaim [] _ kept s 0 (Lts.exec_of_runIf _ hp) (by
    rw [ClocksInOrder, hclocks]
    decide)
  rw [hexec.run_eq, Option.map_some, hsame, htimes] at hwithout
  exact absurd (Option.some.inj hwithout) (by decide)

end Pango.Server
