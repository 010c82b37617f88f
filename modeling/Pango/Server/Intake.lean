import Pango.Server.NoStart

/-!
# Taking frames in

The buffer of a connection lives as long as its thread, and so does the variable
`status`, which holds the status bytes of the clients and the errors of the
server alike.  Both are read again when they should not be.

* `replay_iff` — what goes on to the `switch` is what was received, frame for frame,
  exactly if no `recv` fails behind a frame that passes the check and no such frame
  comes behind one with status byte `CRC8_TEST_FAILED`.
* `replayed_start` — a frame handed on twice.
* `taken_iff` — every frame is stored exactly if behind a frame with status byte
  `CRC8_TEST_FAILED` only copies of it come.
* `passed_over` — a frame that is not stored.
-/

namespace Pango.Server

variable {D : Type*}

/-! ## What was received and what goes on -/

/-- Ten bytes are a frame. -/
def wholeFrame (bytes : List UInt8) : Option Frame :=
  if h : bytes.length = 10 then some ⟨bytes, h⟩ else none

/-- The whole frames connection `i` received that pass the check. -/
def validReceived (i : ℕ) (s : State D) : List Frame :=
  ((received i s).filterMap wholeFrame).filter fun f => decide (CrcValid f)

/-- Is the buffer about to be stored, so that the `switch` sees its first byte? -/
def Thread.stores (t : Thread) : Prop :=
  t.pc = .check ∧ (crc8Check t.clientDataBuff pangoDataSize t.status).1 = true
    ∧ t.status ≠ crc8TestFailed

instance (t : Thread) : Decidable t.stores := inferInstanceAs (Decidable (_ ∧ _ ∧ _))

/-- The frame the thread of connection `i` is about to store, if there is one. -/
def storing (i : ℕ) (s : State D) : List Frame :=
  (s.thread i).toList.flatMap fun t => if t.stores then [t.clientDataBuff] else []

/-- The observer of connection `i`, who notes the frames that are stored. -/
def noteStored (i : ℕ) (s : State D) : Label → List Frame → List Frame
  | .client j _, fs => if j = i then fs ++ storing i s else fs
  | _, fs => fs

/-- Every `recv` of connection `i` returns a whole frame, 0 or -1. -/
def WholeFrames (i : ℕ) (s : State D) : Label → Prop
  | .client j env => j = i → ∀ t ∈ s.thread i, t.pc = .recv →
      env.recv = .closed ∨ env.recv = .error ∨ ∃ f, env.recv = recvFrame f
  | _ => True

/-- No `recv` of connection `i` fails while the buffer holds a frame the thread would
store, and none returns such a frame to a thread that has taken in the status
`CRC8_TEST_FAILED`. -/
def NothingStale (i : ℕ) (s : State D) : Label → Prop
  | .client j env => j = i → ∀ t ∈ s.thread i, t.pc = .recv →
      (env.recv = .error → CrcValid t.clientDataBuff → t.status = crc8TestFailed) ∧
      ∀ f, env.recv = recvFrame f → CrcValid f → t.status ≠ crc8TestFailed
  | _ => True

/-- What was stored, and what is about to be, is what was received. -/
def InStep (i : ℕ) (p : State D × List Frame) : Prop :=
  p.2 ++ storing i p.1 = validReceived i p.1

section Replay

variable [CDouble D] {cfg : Config D}

omit [CDouble D] in
theorem stores_iff {t : Thread} :
    t.stores ↔ t.pc = .check ∧ CrcValid t.clientDataBuff ∧ t.status ≠ crc8TestFailed := by
  unfold Thread.stores
  by_cases hv : CrcValid t.clientDataBuff
  · simp [crc8Check_of_valid hv, hv]
  · simp [crc8Check_of_not_valid hv, hv]

omit [CDouble D] in
theorem storing_of_thread {i : ℕ} {s : State D} {t : Thread} (ht : s.thread i = some t) :
    storing i s = if t.stores then [t.clientDataBuff] else [] := by
  simp [storing, ht]

omit [CDouble D] in
theorem storing_of_not_check {i : ℕ} {s : State D} {t : Thread} (ht : s.thread i = some t)
    (hpc : t.pc ≠ .check) : storing i s = [] := by
  rw [storing_of_thread ht, if_neg fun h => hpc h.1]

omit [CDouble D] in
theorem validReceived_turn (i : ℕ) (s : State D) (r : Turn D) :
    validReceived i (s.turn i r) = validReceived i s ++
      ((r.events.filterMap Event.received).filterMap wholeFrame).filter
        fun f => decide (CrcValid f) := by
  simp only [validReceived, received, own_turn_self, List.filterMap_append, List.filter_append]

omit [CDouble D] in
theorem wholeFrame_toList (f : Frame) : wholeFrame f.toList = some f := by
  simp [wholeFrame, f.length_eq]

/-- **A `recv`** keeps what was stored and what was received in step exactly if nothing
stale is about to be stored, and nothing fresh passed over. -/
theorem inStep_recv {i : ℕ} {s : State D} {fs : List Frame} {env : Env} {t : Thread} {r : Turn D}
    (ht : s.thread i = some t) (hpc : t.pc = .recv)
    (hC : env.recv = .closed ∨ env.recv = .error ∨ ∃ f, env.recv = recvFrame f)
    (hP : InStep i (s, fs)) (hr : pangoClientStep cfg env (s.client i) t s.yourTable = some r) :
    InStep i (s.turn i r, fs) ↔
      (env.recv = .error → CrcValid t.clientDataBuff → t.status = crc8TestFailed) ∧
      ∀ f, env.recv = recvFrame f → CrcValid f → t.status ≠ crc8TestFailed := by
  have hfs : fs = validReceived i s := by
    simpa [InStep, storing_of_not_check ht (by simp [hpc])] using hP
  simp only [InStep, validReceived_turn, hfs, storing_of_thread (turn_thread_self s i r),
    List.append_cancel_left_eq, stores_iff]
  rcases hC with hrecv | hrecv | ⟨f, hrecv⟩
  · simp only [pangoClientStep, hpc, hrecv] at hr
    cases hr
    simp [Event.received, hrecv, (recvFrame_ne_closed _).symm]
  · simp only [pangoClientStep, hpc, hrecv] at hr
    cases hr
    by_cases hv : CrcValid t.clientDataBuff <;>
      simp [Event.received, hrecv, (recvFrame_ne_error _).symm, hv]
  · rw [pangoClientStep_recvFrame hpc hrecv] at hr
    cases hr
    by_cases hv : CrcValid f <;>
      simp [Event.received, wholeFrame_toList, hrecv, recvFrame_inj, hv]

/-- **One step** of the server keeps them in step exactly if nothing stale is about to be
stored. -/
theorem inStep_step {i : ℕ} {p q : State D × List Frame} {l : Label} (hC : WholeFrames i p.1 l)
    (hP : InStep i p) (hs : ((server cfg).watched (noteStored i)).step p l = some q) :
    InStep i q ↔ NothingStale i p.1 l := by
  obtain ⟨s, fs⟩ := p
  obtain ⟨s', fs'⟩ := q
  obtain ⟨hs, rfl⟩ := Lts.watched_step hs
  rcases step_cases hs with
      ⟨j, fd, rfl, hj, rfl⟩ | ⟨j, env, t, r, rfl, ht, hr, rfl⟩ | ⟨c, f, rfl, rfl⟩
  · refine iff_of_true ?_ trivial
    have hsame : storing i (s.accepted j fd) = storing i s := by
      by_cases hij : i = j
      · subst hij
        have hnone : s.thread i = none := hj
        simp [storing, hnone, stores_iff]
      · simp [storing, accepted_thread_of_ne s fd hij]
    simpa [InStep, noteStored, hsame, validReceived, received] using hP
  · by_cases hij : i = j
    · subst hij
      by_cases hpc : t.pc = .recv
      · have hnote : noteStored i s (.client i env) fs = fs := by
          simp [noteStored, storing_of_not_check ht (by simp [hpc] : t.pc ≠ .check)]
        dsimp only
        rw [hnote, inStep_recv ht hpc (hC rfl t ht hpc) hP hr]
        exact ⟨fun h _ u hu _ => Option.some.inj (ht.symm.trans hu) ▸ h, fun h => h rfl t ht hpc⟩
      · refine iff_of_true ?_ fun _ u hu hu' =>
          absurd (Option.some.inj (ht.symm.trans hu) ▸ hu') hpc
        obtain ⟨hrecv, -⟩ := taken_pangoClientStep hr
        have hnext := storing_of_not_check (turn_thread_self s i r) (check_pangoClientStep hr hpc)
        simpa [InStep, noteStored, validReceived_turn, hrecv hpc, hnext] using hP
    · refine iff_of_true ?_ fun h => absurd h.symm hij
      have hji : ¬ j = i := fun h => hij h.symm
      simpa [InStep, noteStored, hji, storing, turn_thread_of_ne s r hij, validReceived, received,
        own_turn_of_ne s hij] using hP
  · refine iff_of_true ?_ trivial
    have hown : own i (s.backedUp cfg.updateThreadMaxNumClients c f) = own i s := own_backedUp ..
    have hthread : (s.backedUp cfg.updateThreadMaxNumClients c f).thread = s.thread := rfl
    simpa [InStep, noteStored, storing, validReceived, received, hown, hthread] using hP

/-- **Frame for frame.**  Let every `recv` of a connection return a whole frame, 0 or -1.
Throughout a run the frames that go on to the `switch` are those received that pass the
check, exactly if nothing stale is ever about to be stored. -/
theorem replay_iff {i : ℕ} {rows : List Row} {ls : List Label} {p : State D × List Frame} :
    ((server cfg).watched (noteStored i)).Exec (fun p l => WholeFrames i p.1 l ∧ InStep i p)
        (.start rows, []) ls p ∧ InStep i p ↔
      ((server cfg).watched (noteStored i)).Exec
      (fun p l => WholeFrames i p.1 l ∧ NothingStale i p.1 l) (.start rows, []) ls p := by
  have hstart : InStep i (State.start (D := D) rows, []) := rfl
  exact (Lts.Exec.meets_iff hstart fun _ _ _ hC hP hs => inStep_step hC hP hs).symm

end Replay

instance (i : ℕ) (s : State D) : (l : Label) → Decidable (WholeFrames i s l)
  | .client j env => decidable_of_iff
      (j = i → ∀ t ∈ s.thread i, t.pc = .recv →
        env.recv = .closed ∨ env.recv = .error ∨ env.recv.frame?.isSome = true)
      (forall_congr' fun _ => forall₃_congr fun _ _ _ => or_congr_right (or_congr_right
        Recv.isSome_frame?))
  | .accept .. | .backup .. => isTrue trivial

/-- A `START_APP` frame, and a `recv` that fails. -/
def failedRecv : List Label :=
  sampleStart 0 100 ++ [.client 0 { recv := .error }]

/-- **A frame handed on twice.**  It is not true that what goes on to the `switch` is
always what was received. -/
theorem replayed_start :
    ¬ ∀ (rows : List Row) (ls : List Label) (p : State Int × List Frame) (i : ℕ),
      ((server samplePrices).watched (noteStored i)).Exec (fun p l => WholeFrames i p.1 l)
        (.start rows, []) ls p → InStep i p := by
  intro hall
  have hrun : (((server samplePrices).watched (noteStored 0)).runIf (fun p l => WholeFrames 0 p.1 l)
      (.start [], []) failedRecv).map (fun p => (p.2 ++ storing 0 p.1, validReceived 0 p.1))
      = some ([sampleFrame startApp, sampleFrame startApp], [sampleFrame startApp]) := by
    decide +kernel
  obtain ⟨p, hp, hparts⟩ := Option.map_eq_some_iff.mp hrun
  obtain ⟨hstored, hreceived⟩ := Prod.mk.inj hparts
  have hstep : p.2 ++ storing 0 p.1 = validReceived 0 p.1 := hall _ _ p 0 (Lts.exec_of_runIf _ hp)
  rw [hstored, hreceived] at hstep
  exact absurd (congrArg List.length hstep) (by decide)

/-! ## What the loop keeps of the frames -/

/-- Is the thread in its loop, with the frame it works on taken in? -/
def Pc.inLoop : Pc → Bool
  | .recv | .check | .exist | .retriev | .init | .process | .sendLocation | .setConnected => true
  | _ => false

/-- What the slot and the `status` variable say of the frames checked so far. -/
structure TakenIn (fs : List Frame) (client : PangoData D) (t : Thread) : Prop where
  mac : client.mac = lastMac fs
  silenced : t.pc.inLoop = true → (t.status = crc8TestFailed ↔ ∃ f ∈ fs, f.status = crc8TestFailed)

/-- Every frame connection `i` checks passes. -/
def ValidOn (i : ℕ) (s : State D) : Label → Prop
  | .client j _ => j = i → ∀ t ∈ s.thread i, t.pc = .check → CrcValid t.clientDataBuff
  | _ => True

instance (i : ℕ) (s : State D) : (l : Label) → Decidable (ValidOn i s l)
  | .client j _ => inferInstanceAs (Decidable (j = i → ∀ t ∈ s.thread i, _))
  | .accept .. | .backup .. => isTrue trivial

section Loop

variable [CDouble D] {cfg : Config D} {env : Env} {client : PangoData D} {t : Thread}
  {rows : List Row} {r : Turn D}

theorem not_inLoop_exitSwitch (status : UInt8) : (exitSwitch status).inLoop = false := by
  unfold exitSwitch
  split_ifs <;> rfl

omit [CDouble D] in
/-- The sections of the `START_APP` case keep the status, unless they leave the loop. -/
theorem start_status (cfg : Config D) (env : Env) (client : PangoData D) (status : UInt8)
    (rows : List Row) :
    ((retrievClientData cfg env client status rows).returnValue ≠ .quit →
      (retrievClientData cfg env client status rows).status = status) ∧
    ((processClientData cfg env client status rows).returnValue ≠ .quit →
      (processClientData cfg env client status rows).status = status) := by
  unfold retrievClientData processClientData
  dsimp only
  refine ⟨?_, ?_⟩ <;> split_ifs <;> simp

/-- **Between two frames** the thread stays in its loop with the status it has. -/
theorem status_pangoClientStep (h : pangoClientStep cfg env client t rows = some r)
    (hpc : t.pc ≠ .check) (hloop : r.thread.pc.inLoop = true) :
    t.pc.inLoop = true ∧ r.thread.status = t.status := by
  obtain ⟨hretriev, hprocess⟩ := start_status cfg env client t.status rows
  have hexit := not_inLoop_exitSwitch
  cases hpc' : t.pc with
  | check => exact absurd hpc' hpc
  | recv =>
    simp only [pangoClientStep, hpc'] at h
    split at h <;> cases h
    · cases hloop
    · exact ⟨rfl, rfl⟩
    · exact ⟨rfl, rfl⟩
  | retriev =>
    simp only [pangoClientStep, hpc'] at h
    split at h <;> cases h
    · exact ⟨rfl, hretriev ‹_›⟩
    · rw [hexit] at hloop
      cases hloop
  | process =>
    simp only [pangoClientStep, hpc'] at h
    cases h
    dsimp only at hloop
    split at hloop
    · exact ⟨rfl, hprocess ‹_›⟩
    · rw [hexit] at hloop
      cases hloop
  | exist | init | sendLocation | setConnected =>
    simp only [pangoClientStep, hpc'] at h
    cases h
    exact ⟨rfl, rfl⟩
  | lost | close =>
    simp only [pangoClientStep, hpc'] at h
    cases h
    rw [hexit] at hloop
    cases hloop
  | pay | remove | update | sendErrMsg | closeFd =>
    simp only [pangoClientStep, hpc'] at h
    cases h
    cases hloop
  | done => simp [pangoClientStep, hpc'] at h

/-- Only storing a frame changes the slot's coordinates. -/
theorem coordinates_pangoClientStep (h : pangoClientStep cfg env client t rows = some r)
    (hpc : t.pc ≠ .check) : r.client.xAxis = client.xAxis ∧ r.client.yAxis = client.yAxis := by
  cases hpc' : t.pc with
  | check => exact absurd hpc' hpc
  | recv =>
    simp only [pangoClientStep, hpc'] at h
    split at h <;> cases h <;> exact ⟨rfl, rfl⟩
  | retriev =>
    obtain ⟨_, _, _, hc⟩ := retrievClientData_client cfg env client t.status rows
    simp only [pangoClientStep, hpc'] at h
    split at h <;> cases h <;> rw [hc] <;> exact ⟨rfl, rfl⟩
  | process =>
    obtain ⟨_, _, _, _, _, heq⟩ := processClientData_eq cfg env client t.status
    simp only [pangoClientStep, hpc', heq] at h
    cases h
    exact ⟨rfl, rfl⟩
  | lost | exist | init | sendLocation | setConnected | close | pay | remove | update | sendErrMsg
  | closeFd =>
    simp only [pangoClientStep, hpc'] at h
    cases h
    exact ⟨rfl, rfl⟩
  | done => simp [pangoClientStep, hpc'] at h

/-- **One step** keeps what slot and status say of the frames. -/
theorem takenIn_pangoClientStep {fs : List Frame} (hv : t.pc = .check → CrcValid t.clientDataBuff)
    (hJ : TakenIn fs client t) (h : pangoClientStep cfg env client t rows = some r) :
    TakenIn (fs ++ r.events.filterMap Event.handed) r.client r.thread := by
  by_cases hpc : t.pc = .check
  · have hsil := hJ.silenced (by rw [hpc]; rfl)
    by_cases hst : t.status = crc8TestFailed
    · rw [pangoClientStep_check_ignored hpc (hv hpc) hst] at h
      cases h
      have hex := hsil.mp hst
      refine ⟨?_, fun _ => iff_of_true hst ?_⟩
      · show client.mac = lastMac (fs ++ [t.clientDataBuff])
        rw [lastMac, obeyed_append_of_exists hex]
        exact hJ.mac
      · obtain ⟨f, hf, hf255⟩ := hex
        exact ⟨f, List.mem_append_left _ hf, hf255⟩
    · obtain ⟨m, hm, hstep⟩ := pangoClientStep_check cfg env client rows hpc (hv hpc) hst
      rw [hstep] at h
      cases h
      have hnone : ∀ f ∈ fs, f.status ≠ crc8TestFailed :=
        fun f hf hf255 => hst (hsil.mpr ⟨f, hf, hf255⟩)
      refine ⟨?_, fun _ => ⟨fun h255 => ⟨t.clientDataBuff, by simp [Event.handed], h255⟩, ?_⟩⟩
      · show cstr m.toList = lastMac (fs ++ [t.clientDataBuff])
        rw [lastMac, obeyed_append_of_forall hnone, List.getLast?_concat]
        exact hm
      · rintro ⟨f, hf, hf255⟩
        rcases List.mem_append.mp hf with hf | hf
        · exact absurd hf255 (hnone f hf)
        · rw [← List.mem_singleton.mp hf]
          exact hf255
  · rw [(taken_pangoClientStep h).2, Thread.pending, if_neg hpc, List.append_nil]
    refine ⟨(mac_pangoClientStep h hpc).trans hJ.mac, fun hloop => ?_⟩
    obtain ⟨hloop', hst⟩ := status_pangoClientStep h hpc hloop
    rw [hst]
    exact hJ.silenced hloop'

theorem takenIn_step {i : ℕ} {s s' : State D} {l : Label} (hC : ValidOn i s l)
    (hJ : Locally (fun j client t events =>
      j = i → TakenIn (events.filterMap Event.handed) client t) s)
    (hs : (server cfg).step s l = some s') :
    Locally (fun j client t events =>
      j = i → TakenIn (events.filterMap Event.handed) client t) s' := by
  refine locally_step hs
    (fun j fd _ => ⟨mac_zero (D := D), fun _ => iff_of_false (by decide) (by simp)⟩) ?_ hJ
  rintro j env t r rfl ht hJ hr rfl
  rw [List.filterMap_append]
  exact takenIn_pangoClientStep (hC rfl t ht) (hJ rfl) hr

end Loop

/-! ## Every frame -/

/-- A check on connection `i` leaves the frame's first byte in `status` and the rest of it in
the slot. -/
def Taken [CDouble D] (cfg : Config D) (i : ℕ) (s : State D) : Label → Prop
  | .client j env => j = i → ∀ t ∈ s.thread i, t.pc = .check →
      ∀ r ∈ pangoClientStep cfg env (s.client i) t s.yourTable,
        r.thread.status = t.clientDataBuff.status ∧ r.client.mac = macText t.clientDataBuff ∧
          r.client.xAxis = t.clientDataBuff.x ∧ r.client.yAxis = t.clientDataBuff.y
  | _ => True

/-- Behind a frame with status byte `CRC8_TEST_FAILED` only copies of it are checked. -/
def OnlyCopies (i : ℕ) (s : State D) : Label → Prop
  | .client j _ => j = i → ∀ t ∈ s.thread i, t.pc = .check →
      ∀ f ∈ handed i s, f.status = crc8TestFailed → t.clientDataBuff = f
  | _ => True

instance (i : ℕ) (s : State D) : (l : Label) → Decidable (OnlyCopies i s l)
  | .client j _ => inferInstanceAs (Decidable (j = i → ∀ t ∈ s.thread i, _))
  | .accept .. | .backup .. => isTrue trivial

/-- The slot holds a frame. -/
def Holds (client : PangoData D) (f : Frame) : Prop :=
  client.mac = macText f ∧ client.xAxis = f.x ∧ client.yAxis = f.y

/-- A frame that silenced the thread is what the slot still holds. -/
def Copies (fs : List Frame) (client : PangoData D) (t : Thread) : Prop :=
  t.pc.inLoop = true → ∀ f ∈ fs, f.status = crc8TestFailed → CrcValid f ∧ Holds client f

/-- A frame that passes the check is known by the rest of it. -/
theorem eq_of_crcValid {f g : Frame} (hf : CrcValid f) (hg : CrcValid g)
    (hstatus : f.status = g.status)
    (hmac : macText f = macText g) (hx : f.x = g.x) (hy : f.y = g.y) : f = g := by
  have hmac := macText_eq_iff.mp hmac
  obtain ⟨s, m₀, m₁, m₂, m₃, m₄, m₅, x, y, c, rfl⟩ := f.exists_bytes
  obtain ⟨s', m₀', m₁', m₂', m₃', m₄', m₅', x', y', c', rfl⟩ := g.exists_bytes
  simp only [Frame.status, Frame.mac, Frame.x, Frame.y, Buf.getD] at hstatus hmac hx hy
  obtain rfl : s = s' := by simpa using hstatus
  obtain rfl : x = x' := by simpa using hx
  obtain rfl : y = y' := by simpa using hy
  obtain ⟨rfl, rfl, rfl, rfl, rfl, rfl⟩ :
      m₀ = m₀' ∧ m₁ = m₁' ∧ m₂ = m₂' ∧ m₃ = m₃' ∧ m₄ = m₄' ∧ m₅ = m₅' := by simpa using hmac
  obtain rfl : c = c' := by
    simpa [CrcValid, Frame.crc, Buf.getD, calculateCRC8] using hf.trans hg.symm
  rfl

section Every

variable [CDouble D] {cfg : Config D} {env : Env} {client : PangoData D} {t : Thread}
  {rows : List Row} {r : Turn D} {fs : List Frame}

/-- **One check** takes the frame in exactly if it is a copy of every frame that silenced the
thread. -/
theorem taken_check_iff (hpc : t.pc = .check) (hv : CrcValid t.clientDataBuff)
    (hJ : TakenIn fs client t) (hcopies : Copies fs client t) :
    (∀ r ∈ pangoClientStep cfg env client t rows,
      r.thread.status = t.clientDataBuff.status ∧ Holds r.client t.clientDataBuff) ↔
      ∀ f ∈ fs, f.status = crc8TestFailed → t.clientDataBuff = f := by
  have hloop : t.pc.inLoop = true := by rw [hpc]; rfl
  by_cases hst : t.status = crc8TestFailed
  · rw [pangoClientStep_check_ignored hpc hv hst]
    simp only [Option.mem_some_iff, forall_eq']
    constructor
    · rintro ⟨hstatus, hmac, hx, hy⟩ f hf hf255
      obtain ⟨hvf, hmac', hx', hy'⟩ := hcopies hloop f hf hf255
      exact eq_of_crcValid hv hvf (by rw [← hstatus, hst, hf255]) (hmac.symm.trans hmac')
        (hx.symm.trans hx') (hy.symm.trans hy')
    · intro hall
      obtain ⟨f, hf, hf255⟩ := (hJ.silenced hloop).mp hst
      rw [hall f hf hf255]
      exact ⟨hst.trans hf255.symm, (hcopies hloop f hf hf255).2⟩
  · obtain ⟨m, hm, hstep⟩ := pangoClientStep_check cfg env client rows hpc hv hst
    rw [hstep]
    refine iff_of_true (fun r' hr' => ?_) fun f hf hf255 => ?_
    · cases Option.mem_some_iff.mp hr'
      exact ⟨rfl, hm, rfl, rfl⟩
    · exact absurd ((hJ.silenced hloop).mpr ⟨f, hf, hf255⟩) hst

/-- **One step** in which what is checked is taken in keeps the copies. -/
theorem copies_pangoClientStep (hv : t.pc = .check → CrcValid t.clientDataBuff)
    (htaken : t.pc = .check →
      r.thread.status = t.clientDataBuff.status ∧ Holds r.client t.clientDataBuff)
    (hJ : TakenIn fs client t) (hcopies : Copies fs client t)
    (h : pangoClientStep cfg env client t rows = some r) :
    Copies (fs ++ r.events.filterMap Event.handed) r.client r.thread := by
  intro hloop f hf hf255
  rw [(taken_pangoClientStep h).2, Thread.pending] at hf
  by_cases hpc : t.pc = .check
  · have hloop' : t.pc.inLoop = true := by rw [hpc]; rfl
    rw [if_pos hpc] at hf
    rcases List.mem_append.mp hf with hf | hf
    · have hst := (hJ.silenced hloop').mpr ⟨f, hf, hf255⟩
      rw [pangoClientStep_check_ignored hpc (hv hpc) hst] at h
      cases h
      exact hcopies hloop' f hf hf255
    · rw [List.mem_singleton.mp hf]
      exact ⟨hv hpc, (htaken hpc).2⟩
  · rw [if_neg hpc, List.append_nil] at hf
    obtain ⟨hloop', -⟩ := status_pangoClientStep h hpc hloop
    obtain ⟨hx, hy⟩ := coordinates_pangoClientStep h hpc
    obtain ⟨hvf, hmac', hx', hy'⟩ := hcopies hloop' f hf hf255
    exact ⟨hvf, (mac_pangoClientStep h hpc).trans hmac', hx.trans hx', hy.trans hy'⟩

/-- **Every frame is taken in**, whatever came before, in exactly the runs in which behind a frame
with status byte `CRC8_TEST_FAILED` only copies of it come. -/
theorem taken_iff {i : ℕ} {ls : List Label} {s : State D} :
    (server cfg).Exec (fun s l => ValidOn i s l ∧ Taken cfg i s l) (.start rows) ls s ↔
      (server cfg).Exec (fun s l => ValidOn i s l ∧ OnlyCopies i s l) (.start rows) ls s := by
  refine Lts.Exec.exact (J := Locally fun j client t events => j = i →
    TakenIn (events.filterMap Event.handed) client t ∧
    Copies (events.filterMap Event.handed) client t) (locally_start rows) ?_ ?_
  · rintro s (_ | ⟨j, env⟩ | _) hC hJ
    · exact Iff.rfl
    · refine forall_congr' fun hji => forall₂_congr fun t ht => forall_congr' fun hpc => ?_
      obtain ⟨htaken, hcopies⟩ := hJ.1 i t ht rfl
      exact taken_check_iff hpc (hC hji t ht hpc) htaken hcopies
    · exact Iff.rfl
  · intro s l s' hC hJ hQ hs
    refine locally_step hs
      (fun j fd _ => ⟨⟨mac_zero (D := D), fun _ => iff_of_false (by decide) (by simp)⟩,
      fun _ => by simp⟩) ?_ hJ
    rintro j env t r rfl ht hJ hr rfl
    obtain ⟨htaken, hcopies⟩ := hJ rfl
    rw [List.filterMap_append]
    exact ⟨takenIn_pangoClientStep (hC rfl t ht) htaken hr,
      copies_pangoClientStep (hC rfl t ht) (fun hpc => hQ rfl t ht hpc r hr) htaken hcopies hr⟩

end Every

/-- A frame with status byte `CRC8_TEST_FAILED`, and behind it a `START_APP` frame. -/
def silencedStart : List Label :=
  [.accept 0 4, .client 0 { recv := recvFrame (sampleFrame crc8TestFailed) }, .client 0 {},
    .client 0 { recv := recvFrame (sampleFrame startApp) }]

/-- **A frame passed over.**  It is not true that every frame that passes the check is taken in. -/
theorem passed_over :
    ¬ ∀ (rows : List Row) (ls : List Label) (s : State Int) (i : ℕ) (l : Label),
      (server samplePrices).Exec (ValidOn i) (.start rows) ls s → ValidOn i s l →
      Taken samplePrices i s l := by
  intro hall
  have hrun : ((server samplePrices).runIf (ValidOn 0) (.start []) silencedStart).map
      (fun s => (s.thread 0).map fun t => (t.pc, t.clientDataBuff,
        (pangoClientStep samplePrices {} (s.client 0) t s.yourTable).map fun r => r.thread.status))
      = some (some (.check, sampleFrame startApp, some crc8TestFailed)) := by
    decide +kernel
  obtain ⟨s, hs, hparts⟩ := Option.map_eq_some_iff.mp hrun
  obtain ⟨t, ht, hparts⟩ := Option.map_eq_some_iff.mp hparts
  obtain ⟨hpc, hbuff, hr⟩ : t.pc = .check ∧ t.clientDataBuff = sampleFrame startApp ∧ _ := by
    simpa using hparts
  obtain ⟨r, hr, hstatus⟩ := hr
  have hvalid : ValidOn 0 s (.client 0 {}) := by
    intro _ u hu _
    rw [← Option.some.inj (ht.symm.trans hu), hbuff]
    decide +kernel
  have htaken := (hall [] silencedStart s 0 (.client 0 {})
    (Lts.exec_of_runIf _ hs) hvalid rfl t ht hpc r hr).1
  rw [hstatus, hbuff] at htaken
  exact absurd htaken (by decide +kernel)

end Pango.Server
