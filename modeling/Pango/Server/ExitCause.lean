import Pango.Server.Intake
import Pango.Server.Zombie

/-!
# Why the loop was left

The variable `status` carries the status bytes of the clients, and the errors of
the server under numbers a client may send as well.  The `switch` behind the loop
goes by it, and pays, writes or reports an error; so it had better name the
reason for which the loop was left, whatever the client has sent.

The observer here does not look at the variable.  He notes the results of the calls in the
loop, and says from them why it was left; the `switch` is right if it does what the notes
call for.

* `LoopNotes` — what an observer of the loop knows of the calls in it.
* `ExitMatches` — the status names the reason, and no other value is possible.
* `exit_matches` — so it does in every run, for whole frames with arbitrary bytes.
-/

namespace Pango.Server

variable {D : Type*} [CDouble D] {cfg : Config D}

/-! ## Watching the loop -/

/-- What an observer of the loop of `pango_client` knows. -/
structure LoopNotes where
  lastRecv : Option Recv := none
  /-- The last frame received. -/
  lastFrame : Option Frame := none
  /-- The last frame `store_client_data_in_struct` has stored. -/
  lastStored : Option Frame := none
  /-- `retriev_client_data` has returned `QUIT`. -/
  retrievFailed : Bool := false
  /-- `process_client_data` has returned `QUIT`. -/
  processFailed : Bool := false
  /-- The `UPDATE` of the `CLOSE_APP` case has been executed, without error. -/
  updated : Bool := false

/-- What he notes at a step of the thread. -/
def LoopNotes.note (cfg : Config D) (env : Env) (client : PangoData D) (t : Thread)
    (rows : List Row) (n : LoopNotes) : LoopNotes :=
  match t.pc with
  | .recv => { n with lastRecv := some env.recv, lastFrame := env.recv.frame? <|> n.lastFrame }
  | .check => if t.stores then { n with lastStored := some t.clientDataBuff } else n
  | .retriev =>
    let r := retrievClientData cfg env client t.status rows
    { n with retrievFailed := n.retrievFailed || decide (r.returnValue = .quit) }
  | .process =>
    let r := processClientData cfg env client t.status rows
    { n with processFailed := n.processFailed || decide (r.returnValue = .quit) }
  | .close => { n with updated := !env.fails 0 }
  | _ => n

/-- The observer of connection `i`. -/
def noteLoop (cfg : Config D) (i : ℕ) (s : State D) : Label → LoopNotes → LoopNotes
  | .client j env, n =>
    if j = i then (s.thread i).elim n fun t => n.note cfg env (s.client i) t s.yourTable else n
  | _, n => n

/-- Every `recv` of connection `i` returns 10 or 0. -/
def FrameOrEnd (i : ℕ) (s : State D) : Label → Prop
  | .client j env => j = i → ∀ t ∈ s.thread i, t.pc = .recv →
      env.recv = .closed ∨ ∃ f, env.recv = recvFrame f
  | _ => True

/-! ## Reasons -/

/-- The last frame stored was a `CLOSE_APP` frame. -/
def LoopNotes.Closed (n : LoopNotes) : Prop := ∃ f ∈ n.lastStored, f.status = closeApp

/-- **The status names the reason** for which the loop was left. -/
structure ExitMatches (status : UInt8) (n : LoopNotes) : Prop where
  lost : status = connectionLost ↔ n.lastRecv = some .closed
  corrupt : status = crc8TestFailed ↔ ∃ f ∈ n.lastFrame, ¬ CrcValid f
  existing : status = errorStatusInClientExistSubfunctions ↔ n.retrievFailed = true
  new : status = errorStatusInNewClientSubfunctions ↔ n.processFailed = true
  closed : status = closeApp ↔ n.Closed ∧ n.updated = true
  notClosed : status = closeAppError ↔ n.Closed ∧ n.updated = false
  /-- No other value is possible. -/
  known : status ∈ [connectionLost, crc8TestFailed, errorStatusInClientExistSubfunctions,
    errorStatusInNewClientSubfunctions, closeApp, closeAppError]

/-- Inside the loop no reason to leave it has come up, but for the one the thread is just
about to see. -/
structure NoReasonYet (t : Thread) (n : LoopNotes) : Prop where
  lost : if t.pc = .lost then n.lastRecv = some .closed ∧ t.status = connectionLost
    else n.lastRecv ≠ some .closed
  valid : if t.pc = .check then n.lastFrame = some t.clientDataBuff
    else ∀ f ∈ n.lastFrame, CrcValid f
  existing : n.retrievFailed = false
  new : n.processFailed = false
  closed : if t.pc = .close then n.Closed ∧ t.status = closeApp else ¬ n.Closed

/-- What the observer's notes say of the thread. -/
def Explained (t : Thread) (n : LoopNotes) : Prop :=
  if t.pc.afterLoop then ExitMatches t.status n else NoReasonYet t n

section Step

variable {env : Env} {client : PangoData D} {t : Thread} {rows : List Row} {r : Turn D}
  {n : LoopNotes}

omit [CDouble D] in
theorem afterLoop_exitSwitch (status : UInt8) : (exitSwitch status).afterLoop = true := by
  unfold exitSwitch
  split_ifs <;> rfl

omit [CDouble D] in
/-- Behind the loop there is nothing to note any more. -/
theorem note_of_afterLoop (h : t.pc.afterLoop = true) : n.note cfg env client t rows = n := by
  unfold LoopNotes.note
  cases hpc : t.pc <;> first | rfl | (rw [hpc] at h; cases h)

/-- Behind the loop the status stays as it is. -/
theorem afterLoop_pangoClientStep (hpc : t.pc.afterLoop = true)
    (h : pangoClientStep cfg env client t rows = some r) :
    r.thread.pc.afterLoop = true ∧ r.thread.status = t.status := by
  cases hpc' : t.pc with
  | pay | remove | update | sendErrMsg | closeFd =>
    simp only [pangoClientStep, hpc'] at h
    cases h
    exact ⟨rfl, rfl⟩
  | done => simp [pangoClientStep, hpc'] at h
  | recv | lost | check | exist | retriev | init | process | sendLocation | setConnected | close =>
    rw [hpc'] at hpc
    cases hpc

omit [CDouble D] in
/-- Without a `CLOSE_APP` frame there are four reasons. -/
theorem exitMatches_of_not_closed {status : UInt8} (hclosed : ¬ n.Closed)
    (hlost : status = connectionLost ↔ n.lastRecv = some .closed)
    (hcorrupt : status = crc8TestFailed ↔ ∃ f ∈ n.lastFrame, ¬ CrcValid f)
    (hex : status = errorStatusInClientExistSubfunctions ↔ n.retrievFailed = true)
    (hnew : status = errorStatusInNewClientSubfunctions ↔ n.processFailed = true)
    (hknown : status ∈ [connectionLost, crc8TestFailed, errorStatusInClientExistSubfunctions,
      errorStatusInNewClientSubfunctions]) : ExitMatches status n := by
  have hne : status ≠ closeApp ∧ status ≠ closeAppError := by
    simp only [List.mem_cons, List.not_mem_nil, or_false] at hknown
    rcases hknown with rfl | rfl | rfl | rfl <;> decide
  exact
    { lost := hlost
      corrupt := hcorrupt
      existing := hex
      new := hnew
      closed := iff_of_false hne.1 fun hc => hclosed hc.1
      notClosed := iff_of_false hne.2 fun hc => hclosed hc.1
      known := List.mem_append_left [closeApp, closeAppError] hknown }

/-- A `CLOSE_APP` frame is the only reason, and what has become of its `UPDATE` decides. -/
theorem exitMatches_of_closed (hclosed : n.Closed) (hlost : n.lastRecv ≠ some .closed)
    (hcorrupt : ¬ ∃ f ∈ n.lastFrame, ¬ CrcValid f) (hex : n.retrievFailed = false)
    (hnew : n.processFailed = false) :
    ExitMatches (if n.updated then closeApp else closeAppError) n := by
  cases hupdated : n.updated with
  | true =>
    exact
      { lost := iff_of_false (by decide) hlost
        corrupt := iff_of_false (by decide) hcorrupt
        existing := iff_of_false (by decide) (by simp [hex])
        new := iff_of_false (by decide) (by simp [hnew])
        closed := iff_of_true rfl ⟨hclosed, hupdated⟩
        notClosed := iff_of_false (by decide) (by simp [hupdated])
        known := by decide }
  | false =>
    exact
      { lost := iff_of_false (by decide) hlost
        corrupt := iff_of_false (by decide) hcorrupt
        existing := iff_of_false (by decide) (by simp [hex])
        new := iff_of_false (by decide) (by simp [hnew])
        closed := iff_of_false (by decide) (by simp [hupdated])
        notClosed := iff_of_true rfl ⟨hclosed, hupdated⟩
        known := by decide }

theorem explained_of_plain {u : Thread} (hJ : NoReasonYet t n)
    (hpc : t.pc ≠ .lost ∧ t.pc ≠ .check ∧ t.pc ≠ .close)
    (hu : u.pc ≠ .lost ∧ u.pc ≠ .check ∧ u.pc ≠ .close ∧ u.pc.afterLoop = false) :
    Explained u n := by
  obtain ⟨hlost, hvalid, hex, hnew, hclosed⟩ := hJ
  rw [if_neg hpc.1] at hlost
  rw [if_neg hpc.2.1] at hvalid
  rw [if_neg hpc.2.2] at hclosed
  rw [Explained, hu.2.2.2, if_neg Bool.false_ne_true]
  exact ⟨by rwa [if_neg hu.1], by rwa [if_neg hu.2.1], hex, hnew, by rwa [if_neg hu.2.2.1]⟩

theorem explained_recv (hpc : t.pc = .recv)
    (hrecv : env.recv = .closed ∨ ∃ f, env.recv = recvFrame f) (hJ : NoReasonYet t n)
    (h : pangoClientStep cfg env client t rows = some r) :
    Explained r.thread (n.note cfg env client t rows) := by
  obtain ⟨-, hvalid, hex, hnew, hclosed⟩ := hJ
  rw [if_neg (by simp [hpc])] at hvalid hclosed
  rcases hrecv with hr | ⟨f, hr⟩
  · simp only [pangoClientStep, hpc, hr] at h
    cases h
    simp only [Explained, Pc.afterLoop, if_neg Bool.false_ne_true, LoopNotes.note, hpc, hr]
    exact ⟨⟨rfl, rfl⟩, hvalid, hex, hnew, hclosed⟩
  · rw [pangoClientStep_recvFrame hpc hr] at h
    cases h
    simp only [Explained, Pc.afterLoop, if_neg Bool.false_ne_true, LoopNotes.note, hpc, hr]
    refine ⟨by simp, ?_, hex, hnew, hclosed⟩
    simp [Recv.frame?, recvFrame, f.length_eq]

theorem explained_check (hpc : t.pc = .check) (hJ : NoReasonYet t n)
    (h : pangoClientStep cfg env client t rows = some r) :
    Explained r.thread (n.note cfg env client t rows) := by
  obtain ⟨hlost, hframe, hex, hnew, hclosed⟩ := hJ
  rw [if_neg (by simp [hpc])] at hlost hclosed
  rw [if_pos hpc] at hframe
  have hvalid : CrcValid t.clientDataBuff → ∀ f ∈ n.lastFrame, CrcValid f := by
    intro hv
    simpa [hframe] using hv
  rcases check_cases hpc h with ⟨hv, rfl⟩ | ⟨hv, hst, rfl⟩ | ⟨hv, hst, m, -, rfl⟩
  · have hno : ¬ t.stores := fun hs => hv (stores_iff.mp hs).2.1
    simp only [Explained, Pc.afterLoop, if_true, LoopNotes.note, hpc, if_neg hno]
    exact exitMatches_of_not_closed hclosed (iff_of_false (by decide) hlost)
      (iff_of_true rfl ⟨_, hframe, hv⟩) (iff_of_false (by decide) (by simp [hex]))
      (iff_of_false (by decide) (by simp [hnew])) (by decide)
  · have hno : ¬ t.stores := fun hs => (stores_iff.mp hs).2.2 hst
    simp only [Explained, Pc.afterLoop, if_neg Bool.false_ne_true, LoopNotes.note, hpc, if_neg hno]
    exact ⟨hlost, hvalid hv, hex, hnew, hclosed⟩
  · have hstores : t.stores := stores_iff.mpr ⟨hpc, hv, hst⟩
    have hloop := afterLoop_switchStatus t.clientDataBuff.status
    have hmem := switchStatus_mem t.clientDataBuff.status
    simp only [Explained, hloop, if_neg Bool.false_ne_true, LoopNotes.note, hpc, if_pos hstores]
    have hne : switchStatus t.clientDataBuff.status ≠ .lost
        ∧ switchStatus t.clientDataBuff.status ≠ .check := by
      simp only [List.mem_cons, List.not_mem_nil, or_false] at hmem
      rcases hmem with hs | hs | hs <;> simp [hs]
    have hvalid' := hvalid hv
    refine ⟨by rwa [if_neg hne.1], by rwa [if_neg hne.2], hex, hnew, ?_⟩
    by_cases hc : t.clientDataBuff.status = closeApp
    · rw [if_pos (by rw [hc, switchStatus_closeApp])]
      exact ⟨⟨_, rfl, hc⟩, hc⟩
    · have hpc' : switchStatus t.clientDataBuff.status ≠ .close := by
        unfold switchStatus
        split_ifs <;> simp
      rw [if_neg hpc']
      rintro ⟨f, hf, hclose⟩
      cases hf
      exact hc hclose

theorem explained_start (hpc : t.pc = .retriev ∨ t.pc = .process) (hJ : NoReasonYet t n)
    (h : pangoClientStep cfg env client t rows = some r) :
    Explained r.thread (n.note cfg env client t rows) := by
  have hplain : t.pc ≠ .lost ∧ t.pc ≠ .check ∧ t.pc ≠ .close := by
    rcases hpc with hpc | hpc <;> simp [hpc]
  obtain ⟨hlost, hvalid, hex, hnew, hclosed⟩ := id hJ
  rw [if_neg hplain.1] at hlost
  rw [if_neg hplain.2.1] at hvalid
  rw [if_neg hplain.2.2] at hclosed
  have hnone : ¬ ∃ f ∈ n.lastFrame, ¬ CrcValid f := by simpa using hvalid
  rcases hpc with hpc | hpc
  · have hstatus := retrievClientData_status cfg env client t.status rows
    simp only [pangoClientStep, hpc] at h
    by_cases hq : (retrievClientData cfg env client t.status rows).returnValue = .quit
    · rw [if_pos hq] at hstatus
      rw [if_neg (not_not.mpr hq), hstatus] at h
      cases h
      simp only [Explained, exitSwitch_errorStatusInClientExist, Pc.afterLoop, if_true,
        LoopNotes.note, hpc, hq, decide_true, Bool.or_true]
      exact exitMatches_of_not_closed hclosed (iff_of_false (by decide) hlost)
        (iff_of_false (by decide) hnone) (iff_of_true rfl rfl)
        (iff_of_false (by decide) (by simp [hnew])) (by decide)
    · rw [if_pos hq] at h
      cases h
      have hnote : n.note cfg env client t rows = n := by simp [LoopNotes.note, hpc, hq]
      rw [hnote]
      exact explained_of_plain hJ hplain (by simp [Pc.afterLoop])
  · have hstatus := processClientData_status cfg env client t.status rows
    simp only [pangoClientStep, hpc] at h
    cases h
    by_cases hq : (processClientData cfg env client t.status rows).returnValue = .quit
    · rw [if_pos hq] at hstatus
      simp only [Explained, hq, ne_eq, not_true_eq_false, if_false, hstatus,
        exitSwitch_errorStatusInNewClient, Pc.afterLoop, if_true, LoopNotes.note, hpc, decide_true,
        Bool.or_true]
      exact exitMatches_of_not_closed hclosed (iff_of_false (by decide) hlost)
        (iff_of_false (by decide) hnone) (iff_of_false (by decide) (by simp [hex]))
        (iff_of_true rfl rfl) (by decide)
    · have hnote : n.note cfg env client t rows = n := by simp [LoopNotes.note, hpc, hq]
      rw [hnote]
      exact explained_of_plain hJ hplain (by simp [hq, Pc.afterLoop])

theorem explained_close (hpc : t.pc = .close) (hJ : NoReasonYet t n)
    (h : pangoClientStep cfg env client t rows = some r) :
    Explained r.thread (n.note cfg env client t rows) := by
  obtain ⟨hlost, hvalid, hex, hnew, hclosed⟩ := hJ
  rw [if_neg (by simp [hpc])] at hlost hvalid
  rw [if_pos hpc] at hclosed
  obtain ⟨hclosed, hst⟩ := hclosed
  have hnone : ¬ ∃ f ∈ n.lastFrame, ¬ CrcValid f := by simpa using hvalid
  have hret : (0 : UInt8) ≠ errorCode := by decide
  simp only [pangoClientStep, hpc] at h
  cases h
  rw [Explained, if_pos (afterLoop_exitSwitch _)]
  have hmatch := exitMatches_of_closed (n := { n with updated := !env.fails 0 })
    hclosed hlost hnone hex hnew
  cases hf : env.fails 0 with
  | true => simpa [LoopNotes.note, hpc, updateClientData, hf] using hmatch
  | false => simpa [LoopNotes.note, hpc, updateClientData, hf, hret, hst] using hmatch

theorem explained_lost (hpc : t.pc = .lost) (hJ : NoReasonYet t n)
    (h : pangoClientStep cfg env client t rows = some r) :
    Explained r.thread (n.note cfg env client t rows) := by
  obtain ⟨hlost, hvalid, hex, hnew, hclosed⟩ := hJ
  rw [if_pos hpc] at hlost
  rw [if_neg (by simp [hpc])] at hvalid hclosed
  obtain ⟨hlost, hst⟩ := hlost
  simp only [pangoClientStep, hpc] at h
  cases h
  have hnote : n.note cfg env client t rows = n := by simp [LoopNotes.note, hpc]
  rw [hnote, Explained, if_pos (afterLoop_exitSwitch _), hst]
  exact exitMatches_of_not_closed hclosed (iff_of_true rfl hlost)
    (iff_of_false (by decide) (by simpa using hvalid)) (iff_of_false (by decide) (by simp [hex]))
    (iff_of_false (by decide) (by simp [hnew])) (by decide)

theorem explained_pangoClientStep
    (hrecv : t.pc = .recv → env.recv = .closed ∨ ∃ f, env.recv = recvFrame f)
    (hJ : Explained t n) (h : pangoClientStep cfg env client t rows = some r) :
    Explained r.thread (n.note cfg env client t rows) := by
  by_cases hover : t.pc.afterLoop = true
  · obtain ⟨hover', hst⟩ := afterLoop_pangoClientStep hover h
    rw [Explained, if_pos hover] at hJ
    rwa [note_of_afterLoop hover, Explained, if_pos hover', hst]
  · rw [Explained, if_neg hover] at hJ
    cases hpc : t.pc with
    | recv => exact explained_recv hpc (hrecv hpc) hJ h
    | lost => exact explained_lost hpc hJ h
    | check => exact explained_check hpc hJ h
    | retriev => exact explained_start (.inl hpc) hJ h
    | process => exact explained_start (.inr hpc) hJ h
    | close => exact explained_close hpc hJ h
    | exist | init | sendLocation | setConnected =>
      have hplain : ∀ pc ∈ t.pc.next, pc ≠ .lost ∧ pc ≠ .check ∧ pc ≠ .close
          ∧ pc.afterLoop = false := by
        rw [hpc]
        decide
      have hnote : n.note cfg env client t rows = n := by simp [LoopNotes.note, hpc]
      rw [hnote]
      exact explained_of_plain hJ (by simp [hpc]) (hplain _ (pc_pangoClientStep h))
    | pay | remove | update | sendErrMsg | closeFd | done =>
      rw [hpc] at hover
      exact absurd rfl hover

end Step

/-! ## Runs -/

section Run

variable {i : ℕ} {l : Label}

/-- The thread of connection `i` is explained by the notes, which are empty before there
is one. -/
def ExplainedOn (i : ℕ) (p : State D × LoopNotes) : Prop :=
  (∀ t, p.1.thread i = some t → Explained t p.2) ∧ (p.1.thread i = none → p.2 = {})

theorem explained_step {p q : State D × LoopNotes} (hC : FrameOrEnd i p.1 l)
    (hJ : ExplainedOn i p) (hs : ((server cfg).watched (noteLoop cfg i)).step p l = some q) :
    ExplainedOn i q := by
  obtain ⟨s, n⟩ := p
  obtain ⟨s', n'⟩ := q
  obtain ⟨hs, rfl⟩ := Lts.watched_step hs
  rcases step_cases hs with
      ⟨j, fd, rfl, hj, rfl⟩ | ⟨j, env, t, r, rfl, ht, hr, rfl⟩ | ⟨c, f, rfl, rfl⟩
  · by_cases hij : i = j
    · subst hij
      obtain rfl : n = {} := hJ.2 hj
      refine ⟨fun t ht => ?_, fun hnone => ?_⟩
      · cases (accepted_thread_self s i fd).symm.trans ht
        exact ⟨by simp [noteLoop], by simp [noteLoop], rfl, rfl,
          by simp [noteLoop, LoopNotes.Closed]⟩
      · simp [accepted_thread_self] at hnone
    · refine ⟨fun t ht => hJ.1 t ?_, fun hnone => hJ.2 ?_⟩
      · rwa [accepted_thread_of_ne s fd hij] at ht
      · rwa [accepted_thread_of_ne s fd hij] at hnone
  · by_cases hij : i = j
    · subst hij
      refine ⟨fun u hu => ?_, fun hnone => ?_⟩
      · cases (turn_thread_self s i r).symm.trans hu
        have hthread : s.thread i = some t := ht
        simp only [noteLoop, if_true, hthread, Option.elim_some]
        exact explained_pangoClientStep (hC rfl t ht) (hJ.1 t ht) hr
      · simp [turn_thread_self] at hnone
    · have hji : ¬ j = i := fun h => hij h.symm
      simp only [noteLoop, if_neg hji]
      refine ⟨fun u hu => hJ.1 u ?_, fun hnone => hJ.2 ?_⟩
      · rwa [turn_thread_of_ne s r hij] at hu
      · rwa [turn_thread_of_ne s r hij] at hnone
  · exact hJ

/-- **The exit matches its cause.**  In every run in which connection `i` receives whole
frames, with arbitrary bytes, until its peer hangs up, the status is the reason for which
the loop was left from the moment it is left; whatever the other threads do, and whatever
SQLite answers. -/
theorem exit_matches {rows : List Row} {ls : List Label} {s : State D} {n : LoopNotes}
    (h : ((server cfg).watched (noteLoop cfg i)).Exec (fun p l => FrameOrEnd i p.1 l)
      (.start rows, {}) ls (s, n)) {t : Thread} (ht : s.thread i = some t)
    (hover : t.pc.afterLoop = true) : ExitMatches t.status n := by
  have hJ := h.invariant (I := ExplainedOn i) ⟨fun _ hnone => (nomatch hnone), fun _ => rfl⟩
    fun _ _ _ hC hJ hs => explained_step hC hJ hs
  have hex := hJ.1 t ht
  rwa [Explained, if_pos hover] at hex

end Run

instance (i : ℕ) (s : State D) : (l : Label) → Decidable (FrameOrEnd i s l)
  | .client j env => decidable_of_iff
      (j = i → ∀ t ∈ s.thread i, t.pc = .recv → env.recv = .closed ∨ env.recv.frame?.isSome = true)
      (forall_congr' fun _ => forall₃_congr fun _ _ _ => or_congr_right Recv.isSome_frame?)
  | .accept .. | .backup .. => isTrue trivial

/-- A device sends the numbers of all errors but one, and hangs up. -/
def sentinelsSent : List Label :=
  [.accept 0 4] ++ sampleSend 0 connectionLost ++ sampleSend 0 closeAppError ++
    sampleSend 0 errorStatusInNewClientSubfunctions ++
    sampleSend 0 errorStatusInClientExistSubfunctions ++ [.client 0 {}, .client 0 {}]

/-- The loop is left because the connection is lost, and the status says so. -/
theorem exit_matches_of_sentinels : ∃ (n : LoopNotes) (s : State Int) (t : Thread),
    s.thread 0 = some t ∧ t.status = connectionLost ∧ ExitMatches t.status n := by
  have hrun : (((server samplePrices).watched (noteLoop samplePrices 0)).runIf
      (fun p l => FrameOrEnd 0 p.1 l) (.start [], {}) sentinelsSent).map
      (fun p => (p.1.thread 0).map fun t => (t.pc, t.status))
      = some (some (.update, connectionLost)) := by decide +kernel
  obtain ⟨⟨s, n⟩, hp, hparts⟩ := Option.map_eq_some_iff.mp hrun
  obtain ⟨t, ht, hparts⟩ := Option.map_eq_some_iff.mp hparts
  obtain ⟨hpc, hst⟩ := Prod.mk.inj hparts
  exact ⟨n, s, t, ht, hst, exit_matches (Lts.exec_of_runIf _ hp) ht (by rw [hpc]; rfl)⟩

end Pango.Server
