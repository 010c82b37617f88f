import Pango.Server.Device

/-!
# Handling one frame

What becomes of a frame that is handled without another thread coming between:
one turn of the loop of `pango_client` from `CRC_8_check` on, and what follows
the loop if the turn is the last.  The system may answer as it likes at every
program point; each is passed once at most.

The machine of `Server.ClientThread` is cut finer than a reader of the source expects, since
other threads may come in anywhere.  Here the pieces are put together again, and come out as
the source reads: a start inserts a row or resumes one, a close pays and deletes it.

* `handleFrame_rests` — a frame is handled in seven steps at most.
* `exec_handled` — and these are steps of the server.
* `handleFrame_found`, `handleFrame_not_found`, `handleFrame_checked` — a start.
* `handleFrame_close` — a close.
* `handleFrame_invalid`, `handleFrame_ignored` — a frame that is not taken in.
-/

namespace Pango.Server

variable {D : Type*}

/-! ## A turn of the loop -/

/-- What the system answers at each program point. -/
abbrev Answers := Pc → Env

/-- At most `n` steps of a thread, until it waits for the next frame or has ended. -/
def handled [CDouble D] (cfg : Config D) (answers : Answers) : ℕ → Turn D → Turn D
  | 0, s => s
  | n + 1, s =>
    if s.thread.pc = .recv then s
    else
      match pangoClientStep cfg (answers s.thread.pc) s.client s.thread s.yourTable with
      | none => s
      | some r => handled cfg answers n { r with events := s.events ++ r.events }

/-- The thread before `CRC_8_check`, with a frame in its buffer. -/
def Thread.received (t : Thread) (f : Frame) : Thread :=
  { t with clientDataBuff := f, pc := .check }

@[simp] theorem Thread.received_pc (t : Thread) (f : Frame) : (t.received f).pc = .check := rfl

@[simp] theorem Thread.received_clientDataBuff (t : Thread) (f : Frame) :
    (t.received f).clientDataBuff = f := rfl

/-- The frame `f` has been received and is handled. -/
def handleFrame [CDouble D] (cfg : Config D) (answers : Answers) (client : PangoData D)
    (t : Thread) (rows : List Row) (f : Frame) : Turn D :=
  handled cfg answers 7 ⟨client, t.received f, rows, []⟩

/-- The slot after `store_client_data_in_struct`, but for `mac_address`. -/
def PangoData.stored (client : PangoData D) (m : Buf UInt8 18) (f : Frame) : PangoData D :=
  { client with macAddress := m, xAxis := f.x, yAxis := f.y }

section Handled

variable [CDouble D] {cfg : Config D} {answers : Answers} {n : ℕ} {s r : Turn D}

theorem handled_of_step (hpc : s.thread.pc ≠ .recv)
    (h : pangoClientStep cfg (answers s.thread.pc) s.client s.thread s.yourTable = some r) :
    handled cfg answers (n + 1) s
      = handled cfg answers n { r with events := s.events ++ r.events } := by
  rw [handled, if_neg hpc, h]

@[simp] theorem handled_recv (hpc : s.thread.pc = .recv) : handled cfg answers n s = s := by
  cases n with
  | zero => rfl
  | succ n => rw [handled, if_pos hpc]

@[simp] theorem handled_done (hpc : s.thread.pc = .done) : handled cfg answers n s = s := by
  cases n with
  | zero => rfl
  | succ n => simp [handled, hpc, pangoClientStep]

/-- How many steps a thread may take from here until it waits or has ended. -/
def Pc.stepsLeft : Pc → ℕ
  | .recv | .done => 0
  | .setConnected | .closeFd => 1
  | .sendLocation | .remove | .update | .sendErrMsg => 2
  | .pay => 3
  | .lost | .close | .process | .retriev => 4
  | .init => 5
  | .exist => 6
  | .check => 7

theorem Pc.stepsLeft_lt {pc pc' : Pc} (hpc : pc ≠ .recv) (h : pc' ∈ pc.next) :
    pc'.stepsLeft < pc.stepsLeft := by
  have hall : ∀ pc' ∈ pc.next, pc'.stepsLeft < pc.stepsLeft := by
    cases pc <;> first | exact absurd rfl hpc | decide
  exact hall pc' h

theorem handled_rests (h : s.thread.pc.stepsLeft ≤ n) :
    (handled cfg answers n s).thread.pc = .recv ∨ (handled cfg answers n s).thread.pc = .done := by
  induction n generalizing s with
  | zero =>
    rw [handled]
    cases hpc : s.thread.pc <;> simp [hpc, Pc.stepsLeft] at h ⊢
  | succ n ih =>
    by_cases hpc : s.thread.pc = .recv
    · rw [handled_recv hpc]
      exact .inl hpc
    · cases hstep : pangoClientStep cfg (answers s.thread.pc) s.client s.thread s.yourTable with
      | none =>
        have hdone := pc_of_pangoClientStep_none hstep
        rw [handled_done hdone]
        exact .inr hdone
      | some r =>
        rw [handled_of_step hpc hstep]
        have hlt := Pc.stepsLeft_lt hpc (pc_pangoClientStep hstep)
        exact ih (Nat.le_of_lt_succ (hlt.trans_le h))

/-- **A frame is handled in seven steps at most**: then the thread waits for the next
one, or it has ended. -/
theorem handleFrame_rests (client : PangoData D) (t : Thread) (rows : List Row) (f : Frame) :
    (handleFrame cfg answers client t rows f).thread.pc = .recv ∨
      (handleFrame cfg answers client t rows f).thread.pc = .done :=
  handled_rests le_rfl

/-- **The steps are steps of the server**: a run of connection `i` alone. -/
theorem exec_handled (s : State D) (i n : ℕ) (r : Turn D) : ∃ ls,
    (server cfg).Exec (fun _ l => ∃ env, l = .client i env) (s.turn i r) ls
      (s.turn i (handled cfg answers n r)) := by
  induction n generalizing r with
  | zero => exact ⟨[], .nil⟩
  | succ n ih =>
    by_cases hpc : r.thread.pc = .recv
    · refine ⟨[], ?_⟩
      rw [handled_recv hpc]
      exact .nil
    · cases hstep : pangoClientStep cfg (answers r.thread.pc) r.client r.thread r.yourTable with
      | none =>
        refine ⟨[], ?_⟩
        rw [handled, if_neg hpc, hstep]
        exact .nil
      | some r' =>
        obtain ⟨ls, hls⟩ := ih { r' with events := r.events ++ r'.events }
        refine ⟨.client i (answers r.thread.pc) :: ls, ?_⟩
        rw [handled_of_step hpc hstep]
        refine .cons ⟨_, rfl⟩ ?_ hls
        simp [server, hstep, State.turn, Function.update_idem]

end Handled

/-! ## A start -/

section Start

variable [CDouble D] {cfg : Config D} {answers : Answers} {client : PangoData D} {t : Thread}
  {rows : List Row} {f : Frame}

variable (cfg answers client rows) in
/-- A start is stored, and the device is looked up. -/
theorem handleFrame_start (hv : CrcValid f) (hst : f.status = startApp)
    (ht : t.status ≠ crc8TestFailed) : ∃ m : Buf UInt8 18, cstr m.toList = macText f ∧
      handleFrame cfg answers client t rows f = handled cfg answers 6
        ⟨client.stored m f, { t.received f with status := startApp, pc := .exist }, rows,
          [.check f]⟩ := by
  obtain ⟨m, hm, hstep⟩ := pangoClientStep_check (t := t.received f) cfg (answers .check) client
    rows rfl hv ht
  rw [Thread.received_clientDataBuff] at hm
  refine ⟨m, hm, ?_⟩
  rw [Thread.received_clientDataBuff, hst, switchStatus_startApp] at hstep
  exact handled_of_step (s := ⟨client, t.received f, rows, []⟩) (by simp) hstep

/-- The lookup finds a row for the address, and the device has not been looked up on
this connection before. -/
def found (answers : Answers) (mac : List UInt8) (t : Thread) (rows : List Row) : Bool :=
  clinetExistInDatabaseCheck ((answers .exist).fails 0) ((answers .exist).fails 1) mac
    t.checkedDatabase rows

variable (cfg answers client rows) in
/-- A start of a device that is found resumes its parking, or is answered with `err_msg`. -/
theorem handleFrame_found (hv : CrcValid f) (hst : f.status = startApp)
    (ht : t.status ≠ crc8TestFailed) (hfound : found answers (macText f) t rows = true) :
    ∃ m : Buf UInt8 18, cstr m.toList = macText f ∧
      let r := retrievClientData cfg (answers .retriev) (client.stored m f) startApp rows
      handleFrame cfg answers client t rows f =
        if r.returnValue = .quit then
          ⟨r.client, { t.received f with
              status := errorStatusInClientExistSubfunctions, pc := .done }, rows,
            .check f :: r.events ++ [.send .errMsg (!(answers .sendErrMsg).sendFails), .close]⟩
        else
          ⟨r.client, { t.received f with
              status := startApp, checkedDatabase := true, pc := .recv }, rows,
            .check f :: r.events⟩ := by
  obtain ⟨m, hm, hstart⟩ := handleFrame_start cfg answers client rows hv hst ht
  refine ⟨m, hm, ?_⟩
  have hexist : pangoClientStep cfg (answers .exist) (client.stored m f)
      { t.received f with status := startApp, pc := .exist } rows
      = some ⟨client.stored m f, { t.received f with status := startApp, pc := .retriev }, rows,
          []⟩ := by
    have hlookup : clinetExistInDatabaseCheck ((answers .exist).fails 0)
        ((answers .exist).fails 1) (client.stored m f).mac t.checkedDatabase rows = true :=
      (congrArg (clinetExistInDatabaseCheck _ _ · _ _) hm).trans hfound
    simp only [pangoClientStep, Thread.received, hlookup, if_true]
  have hstatus := retrievClientData_status cfg (answers .retriev) (client.stored m f) startApp rows
  rw [hstart, handled_of_step (by simp) hexist]
  dsimp only
  split_ifs with hq
  · rw [if_pos hq] at hstatus
    simp [handled, pangoClientStep, hq, hstatus, retrievClientData_yourTable]
  · rw [if_neg hq] at hstatus
    simp [handled, pangoClientStep, hq, hstatus, retrievClientData_yourTable]

variable (cfg answers client rows) in
/-- A start of a device that is not found registers it, on a connection that has not resumed a
parking, or is answered with `err_msg`. -/
theorem handleFrame_not_found (hv : CrcValid f) (hst : f.status = startApp)
    (ht : t.status ≠ crc8TestFailed) (hfound : found answers (macText f) t rows = false)
    (hch : t.checkedDatabase = false) :
    ∃ m : Buf UInt8 18, cstr m.toList = macText f ∧
      let r := processClientData cfg (answers .process)
        (initializeAndGetStartTime (answers .init) (client.stored m f)) startApp rows
      let clock := Event.clock .initializeAndGetStartTime (answers .init).now
      handleFrame cfg answers client t rows f =
        if r.returnValue = .quit then
          ⟨r.client, { t.received f with
              status := errorStatusInNewClientSubfunctions, pc := .done }, rows,
            .check f :: clock :: r.events
              ++ [.send .errMsg (!(answers .sendErrMsg).sendFails), .close]⟩
        else
          ⟨{ r.client with connected := true }, { t.received f with
              status := startApp, pc := .recv }, r.yourTable,
            .check f :: clock :: r.events
              ++ [.send (.location r.client.location) (!(answers .sendLocation).sendFails)]⟩ := by
  obtain ⟨m, hm, hstart⟩ := handleFrame_start cfg answers client rows hv hst ht
  refine ⟨m, hm, ?_⟩
  have hexist : pangoClientStep cfg (answers .exist) (client.stored m f)
      { t.received f with status := startApp, pc := .exist } rows
      = some ⟨client.stored m f, { t.received f with status := startApp, pc := .init }, rows,
          []⟩ := by
    have hlookup : clinetExistInDatabaseCheck ((answers .exist).fails 0)
        ((answers .exist).fails 1) (client.stored m f).mac t.checkedDatabase rows = false :=
      (congrArg (clinetExistInDatabaseCheck _ _ · _ _) hm).trans hfound
    rw [hch] at hlookup
    simp only [pangoClientStep, Thread.received, hch, hlookup, Bool.false_eq_true, if_false,
      afterLookup_false]
  have hstatus := processClientData_status cfg (answers .process)
    (initializeAndGetStartTime (answers .init) (client.stored m f)) startApp rows
  rw [hstart, handled_of_step (by simp) hexist]
  dsimp only
  split_ifs with hq
  · rw [if_pos hq] at hstatus
    simp [handled, pangoClientStep, hq, hstatus, processClientData_yourTable_of_quit hq]
  · rw [if_neg hq] at hstatus
    simp [handled, pangoClientStep, hq, hstatus]

variable (cfg answers client rows) in
/-- A start on a connection that has resumed a parking is passed over. -/
theorem handleFrame_checked (hv : CrcValid f) (hst : f.status = startApp)
    (ht : t.status ≠ crc8TestFailed) (hch : t.checkedDatabase = true) :
    ∃ m : Buf UInt8 18, cstr m.toList = macText f ∧
      handleFrame cfg answers client t rows f
        = ⟨client.stored m f, { t.received f with status := startApp, pc := .recv }, rows,
            [.check f]⟩ := by
  obtain ⟨m, hm, hstart⟩ := handleFrame_start cfg answers client rows hv hst ht
  refine ⟨m, hm, ?_⟩
  rw [hstart]
  simp [handled, pangoClientStep, Thread.received, hch, clinetExistInDatabaseCheck_eq]

/-! ## A close -/

variable (cfg answers client rows) in
/-- A close writes the time used and, if that works, sends the bill and deletes the row. -/
theorem handleFrame_close (hv : CrcValid f) (hst : f.status = closeApp)
    (ht : t.status ≠ crc8TestFailed) :
    ∃ m : Buf UInt8 18, cstr m.toList = macText f ∧
      let env := answers .close
      let u := updateClientData env (client.stored m f) rows
      let d := removeClientData (answers .remove) (macText f) u.yourTable
      let written := Event.check f :: .lock :: u.events ++ [.unlock]
      handleFrame cfg answers client t rows f =
        if env.fails 0 then
          ⟨{ client.stored m f with connected := false }, { t.received f with
              status := closeAppError, endTime := u.endTime, pc := .done }, rows,
            written ++ [.close]⟩
        else
          ⟨{ client.stored m f with connected := false }, { t.received f with
              status := closeApp, endTime := u.endTime, pc := .done }, d.1,
            written ++ .send (calculateAndSendPaymentData client.timeStartParking
              (CInt.toInt32 u.endTime) client.price) (!(answers .pay).sendFails)
              :: .lock :: d.2 ++ [.unlock, .close]⟩ := by
  obtain ⟨m, hm, hstep⟩ := pangoClientStep_check (t := t.received f) cfg (answers .check) client
    rows rfl hv ht
  refine ⟨m, hm, ?_⟩
  have hret : (0 : UInt8) ≠ errorCode := by decide
  rw [Thread.received_clientDataBuff] at hm
  rw [Thread.received_clientDataBuff, hst, switchStatus_closeApp] at hstep
  rw [handleFrame, handled_of_step (s := ⟨client, t.received f, rows, []⟩) (by simp) hstep]
  dsimp only
  cases hf : (answers .close).fails 0 with
  | true => simp [handled, pangoClientStep, updateClientData, hf, sqlite3Exec, PangoData.stored]
  | false =>
    simp [handled, pangoClientStep, updateClientData, hf, hret, PangoData.stored, removeClientData,
      PangoData.mac, hm]

/-- A frame that fails the check is answered with `err_msg`, and the thread ends. -/
theorem handleFrame_invalid (hv : ¬ CrcValid f) :
    handleFrame cfg answers client t rows f
      = ⟨client, { t.received f with status := crc8TestFailed, pc := .done }, rows,
          [.check f, .send .errMsg (!(answers .sendErrMsg).sendFails), .close]⟩ := by
  have hstep : pangoClientStep cfg (answers .check) client (t.received f) rows = _ :=
    pangoClientStep_check_invalid rfl hv
  rw [handleFrame, handled_of_step (s := ⟨client, t.received f, rows, []⟩) (by simp) hstep]
  simp [handled, pangoClientStep]

/-- A frame behind one with status byte `CRC8_TEST_FAILED` is passed over. -/
theorem handleFrame_ignored (hv : CrcValid f) (ht : t.status = crc8TestFailed) :
    handleFrame cfg answers client t rows f
      = ⟨client, { t.received f with pc := .recv }, rows, [.check f]⟩ := by
  have hstep : pangoClientStep cfg (answers .check) client (t.received f) rows = _ :=
    pangoClientStep_check_ignored rfl hv ht
  rw [handleFrame, handled_of_step (s := ⟨client, t.received f, rows, []⟩) (by simp) hstep,
    handled_recv rfl]
  rfl

end Start

end Pango.Server
