import Pango.Server.ClientThreadFunc
import Pango.Server.ExistingClient

/-!
# `client_thread.c`: the connection thread, step by step

`pango_client` as a machine.  A step is what other threads cannot see the inside
of: one critical section, one SQLite statement outside a critical section, or
one access to the slot, the socket or the clock outside one.  `Pc` names the
step that comes next; between two of them any other thread may come in.

Most of what follows needs of a step only where it leads, what it does to the table and
what it reads of it, and these are stated here once, for every program point.

* `pangoClientStep` — the step at each program point.
* `pc_pangoClientStep` — **where it leads**.
* `yourTable_pangoClientStep` — what it writes is one statement, or nothing.
* `select_pangoClientStep_of_ne` — a step leaves the rows of every MAC address
  but the slot's alone.
* `pangoClientStep_congr` — and it sees of the table only the rows of the slot's
  address.
-/

namespace Pango.Server

variable {D : Type*}

/-! ## The thread -/

/-- Where the thread stands. -/
inductive Pc
  /-- At the head of the loop, before `recv`. -/
  | recv
  /-- `recv` returned 0; before the critical section of
  `wait_for_data_from_client`. -/
  | lost
  /-- Before `CRC_8_check`, `store_client_data_in_struct` and the `switch`. -/
  | check
  /-- `START_APP`: before `clinet_exist_in_database_check`. -/
  | exist
  /-- Before `retriev_client_data`. -/
  | retriev
  /-- Before `initialize_and_get_start_time`. -/
  | init
  /-- Before the critical section of `process_client_data`. -/
  | process
  /-- Before the `send_client_location` of `process_client_data`. -/
  | sendLocation
  /-- Before `client->connected = TRUE`. -/
  | setConnected
  /-- `CLOSE_APP`: before its critical section. -/
  | close
  /-- After the loop: before `calculate_and_send_payment_data`. -/
  | pay
  /-- Before the critical section of `remove_client_data`. -/
  | remove
  /-- `CONNECTION_LOST`: before the critical section of `update_client_data`. -/
  | update
  /-- Before the `send` of `err_msg`. -/
  | sendErrMsg
  /-- Before `close(client->client_fd)`. -/
  | closeFd
  /-- After `pthread_exit`. -/
  | done
  deriving DecidableEq, Repr

/-- The local variables of `pango_client`, as they are when it starts.  The
variable `return_value` is part of the program point: the loop goes on while it
is not `QUIT`. -/
structure Thread where
  pc : Pc := .recv
  clientDataBuff : Frame := .fill 10 0
  status : UInt8 := statusInitialValue
  checkedDatabase : Bool := false
  endTime : Int := 0
  deriving DecidableEq

/-- The `switch (status)` inside the loop, with `return_value` still `STAY`. -/
def switchStatus (status : UInt8) : Pc :=
  if status = startApp then .exist else if status = closeApp then .close else .recv

/-- The `switch (status)` after the loop. -/
def exitSwitch (status : UInt8) : Pc :=
  if status = closeApp then .pay
  else if status = connectionLost then .update
  else if status = crc8TestFailed ∨ status = errorStatusInClientExistSubfunctions
      ∨ status = errorStatusInNewClientSubfunctions then .sendErrMsg
  else .closeFd

/-- The `if (new_client(checked_database) == TRUE)` of the `START_APP` case. -/
def afterLookup (checkedDatabase : Bool) : Pc := if newClient checkedDatabase then .init else .recv

/-- What a step of a thread leaves behind. -/
structure Turn (D : Type*) where
  client : PangoData D
  thread : Thread
  yourTable : List Row
  events : List (Event D)

/-- One step of `pango_client`. -/
def pangoClientStep [CDouble D] (cfg : Config D) (env : Env) (client : PangoData D) (t : Thread)
    (yourTable : List Row) : Option (Turn D) :=
  match t.pc with
  | .recv =>
    match env.recv with
    | .closed => some ⟨client, { t with status := connectionLost, pc := .lost }, yourTable,
      [.hangup]⟩
    | .data bytes _ =>
      some ⟨client, { t with clientDataBuff := t.clientDataBuff.write 0 bytes, pc := .check },
        yourTable, [.recv bytes]⟩
    -- only the value 0 is tested for: after an error the old buffer is processed
    | .error => some ⟨client, { t with pc := .check }, yourTable, []⟩
  | .lost =>
    some ⟨{ client with connected := false }, { t with pc := exitSwitch t.status }, yourTable,
      [.lock, .unlock]⟩
  | .check =>
    let (valid, status) := crc8Check t.clientDataBuff pangoDataSize t.status
    if valid then
      let (status, client) := storeClientDataInStruct status t.clientDataBuff client
      some ⟨client, { t with status, pc := switchStatus status }, yourTable,
        [.check t.clientDataBuff]⟩
    else
      some ⟨client, { t with status, pc := exitSwitch status }, yourTable,
        [.check t.clientDataBuff]⟩
  | .exist =>
    let found := clinetExistInDatabaseCheck (env.fails 0) (env.fails 1) client.mac
      t.checkedDatabase yourTable
    some ⟨client, { t with pc := if found then .retriev else afterLookup t.checkedDatabase },
      yourTable, []⟩
  | .retriev =>
    let r := retrievClientData cfg env client t.status yourTable
    if r.returnValue ≠ .quit then
      some ⟨r.client, { t with
          status := r.status, checkedDatabase := true, pc := afterLookup true }, r.yourTable,
        r.events⟩
    else
      some ⟨r.client, { t with status := r.status, pc := exitSwitch r.status }, r.yourTable,
        r.events⟩
  | .init =>
    some ⟨initializeAndGetStartTime env client, { t with pc := .process }, yourTable,
      [.clock .initializeAndGetStartTime env.now]⟩
  | .process =>
    let r := processClientData cfg env client t.status yourTable
    some ⟨r.client, { t with
        status := r.status
        pc := if r.returnValue ≠ .quit then .sendLocation else exitSwitch r.status },
      r.yourTable, r.events⟩
  | .sendLocation =>
    -- its return value is not looked at
    some ⟨client, { t with pc := .setConnected }, yourTable,
      [.send (.location client.location) (!env.sendFails)]⟩
  | .setConnected => some ⟨{ client with connected := true }, { t with pc := .recv }, yourTable, []⟩
  | .close =>
    let u := updateClientData env client yourTable
    let status := if u.returnValue = errorCode then closeAppError else t.status
    some ⟨{ client with connected := false },
      { t with status, endTime := u.endTime, pc := exitSwitch status }, u.yourTable,
      .lock :: u.events ++ [.unlock]⟩
  | .pay =>
    some ⟨client, { t with pc := .remove }, yourTable,
      [.send (calculateAndSendPaymentData client.timeStartParking (CInt.toInt32 t.endTime)
        client.price) (!env.sendFails)]⟩
  | .remove =>
    let r := removeClientData env client.mac yourTable
    some ⟨client, { t with pc := .closeFd }, r.1, .lock :: r.2 ++ [.unlock]⟩
  | .update =>
    let u := updateClientData env client yourTable
    some ⟨client, { t with endTime := u.endTime, pc := .closeFd }, u.yourTable,
      .lock :: u.events ++ [.unlock]⟩
  | .sendErrMsg =>
    some ⟨client, { t with pc := .closeFd }, yourTable, [.send .errMsg (!env.sendFails)]⟩
  | .closeFd => some ⟨client, { t with pc := .done }, yourTable, [.close]⟩
  | .done => none

/-! ## What a step does -/

section Step

variable [CDouble D] {cfg : Config D} {env : Env} {client : PangoData D} {t : Thread}
  {rows : List Row} {r : Turn D}

@[simp] theorem afterLookup_true : afterLookup true = .recv := rfl
@[simp] theorem afterLookup_false : afterLookup false = .init := rfl
@[simp] theorem switchStatus_startApp : switchStatus startApp = .exist := rfl
@[simp] theorem switchStatus_closeApp : switchStatus closeApp = .close := rfl
@[simp] theorem exitSwitch_closeApp : exitSwitch closeApp = .pay := rfl
@[simp] theorem exitSwitch_connectionLost : exitSwitch connectionLost = .update := rfl
@[simp] theorem exitSwitch_crc8TestFailed : exitSwitch crc8TestFailed = .sendErrMsg := rfl
@[simp] theorem exitSwitch_closeAppError : exitSwitch closeAppError = .closeFd := rfl
@[simp] theorem exitSwitch_errorStatusInClientExist :
    exitSwitch errorStatusInClientExistSubfunctions = .sendErrMsg := rfl
@[simp] theorem exitSwitch_errorStatusInNewClient :
    exitSwitch errorStatusInNewClientSubfunctions = .sendErrMsg := rfl

/-- Inside the loop any other status waits for the next frame. -/
theorem switchStatus_of_ne {status : UInt8} (hs : status ≠ startApp) (hc : status ≠ closeApp) :
    switchStatus status = .recv := by
  rw [switchStatus, if_neg hs, if_neg hc]

theorem switchStatus_mem (status : UInt8) : switchStatus status ∈ [Pc.exist, .close, .recv] := by
  unfold switchStatus
  split_ifs <;> decide

theorem exitSwitch_mem (status : UInt8) :
    exitSwitch status ∈ [Pc.pay, .update, .sendErrMsg, .closeFd] := by
  unfold exitSwitch
  split_ifs <;> decide

variable (cfg env client rows) in
/-- A frame that passes the check is stored, and its first byte decides. -/
theorem pangoClientStep_check (hpc : t.pc = .check) (hv : CrcValid t.clientDataBuff)
    (hst : t.status ≠ crc8TestFailed) :
    ∃ m : Buf UInt8 18, cstr m.toList = macText t.clientDataBuff ∧
      pangoClientStep cfg env client t rows = some
        { client := { client with
            macAddress := m, xAxis := t.clientDataBuff.x, yAxis := t.clientDataBuff.y }
          thread := { t with
            status := t.clientDataBuff.status, pc := switchStatus t.clientDataBuff.status }
          yourTable := rows
          events := [.check t.clientDataBuff] } := by
  obtain ⟨m, hm, hstore⟩ := storeClientDataInStruct_eq hst t.clientDataBuff client
  refine ⟨m, hm, ?_⟩
  simp only [pangoClientStep, hpc, crc8Check_of_valid hv, hstore, if_true]

/-- A valid frame that finds the status `CRC8_TEST_FAILED` is passed over. -/
theorem pangoClientStep_check_ignored (hpc : t.pc = .check) (hv : CrcValid t.clientDataBuff)
    (hst : t.status = crc8TestFailed) :
    pangoClientStep cfg env client t rows
      = some ⟨client, { t with pc := .recv }, rows, [.check t.clientDataBuff]⟩ := by
  have hswitch : switchStatus crc8TestFailed = .recv := rfl
  simp [pangoClientStep, hpc, crc8Check_of_valid hv, storeClientDataInStruct, hst, hswitch]

/-- A frame that fails the check ends the loop. -/
theorem pangoClientStep_check_invalid (hpc : t.pc = .check) (hv : ¬ CrcValid t.clientDataBuff) :
    pangoClientStep cfg env client t rows
      = some ⟨client, { t with status := crc8TestFailed, pc := .sendErrMsg }, rows,
          [.check t.clientDataBuff]⟩ := by
  simp [pangoClientStep, hpc, crc8Check_of_not_valid hv]

/-- Checking a frame ends the loop, passes the frame over or stores it. -/
theorem check_cases (hpc : t.pc = .check) (h : pangoClientStep cfg env client t rows = some r) :
    (¬ CrcValid t.clientDataBuff ∧
      r = ⟨client, { t with status := crc8TestFailed, pc := .sendErrMsg }, rows,
        [.check t.clientDataBuff]⟩)
    ∨ (CrcValid t.clientDataBuff ∧ t.status = crc8TestFailed ∧
      r = ⟨client, { t with pc := .recv }, rows, [.check t.clientDataBuff]⟩)
    ∨ (CrcValid t.clientDataBuff ∧ t.status ≠ crc8TestFailed ∧
      ∃ m : Buf UInt8 18, cstr m.toList = macText t.clientDataBuff ∧
        r = ⟨{ client with
            macAddress := m, xAxis := t.clientDataBuff.x, yAxis := t.clientDataBuff.y },
          { t with status := t.clientDataBuff.status, pc := switchStatus t.clientDataBuff.status },
          rows, [.check t.clientDataBuff]⟩) := by
  by_cases hv : CrcValid t.clientDataBuff
  · by_cases hst : t.status = crc8TestFailed
    · rw [pangoClientStep_check_ignored hpc hv hst] at h
      exact .inr (.inl ⟨hv, hst, (Option.some.inj h).symm⟩)
    · obtain ⟨m, hm, hstep⟩ := pangoClientStep_check cfg env client rows hpc hv hst
      rw [hstep] at h
      exact .inr (.inr ⟨hv, hst, m, hm, (Option.some.inj h).symm⟩)
  · rw [pangoClientStep_check_invalid hpc hv] at h
    exact .inl ⟨hv, (Option.some.inj h).symm⟩

/-- A lost connection is no longer connected; then its time used is written. -/
theorem pangoClientStep_lost (hpc : t.pc = .lost) (hst : t.status = connectionLost) :
    pangoClientStep cfg env client t rows
      = some ⟨{ client with connected := false }, { t with pc := .update }, rows,
        [.lock, .unlock]⟩ := by
  simp only [pangoClientStep, hpc, hst, exitSwitch_connectionLost]

/-- Without failures a close writes the time used and goes on to the bill. -/
theorem pangoClientStep_close (hpc : t.pc = .close) (hst : t.status = closeApp)
    (hsql : env.sqlFails = []) :
    pangoClientStep cfg env client t rows
      = some
        { client := { client with connected := false }
          thread := { t with endTime := CInt.toUInt32 env.now, pc := .pay }
          yourTable := (Stmt.update (secondsUsed client env.now) client.mac).apply rows
          events := [.lock, .clock .updateClientData env.now,
            .exec (.update (secondsUsed client env.now) client.mac) true, .unlock] } := by
  have hret : (0 : UInt8) ≠ errorCode := by decide
  simp only [pangoClientStep, hpc, hst, updateClientData, sqlite3Exec, Env.fails_of_nil hsql,
    Bool.not_false, Bool.false_eq_true, if_false, if_neg hret, exitSwitch_closeApp]
  rfl

/-- The program points a step may lead to. -/
def Pc.next : Pc → List Pc
  | .recv => [.lost, .check]
  | .check => [.exist, .close, .recv, .sendErrMsg]
  | .exist => [.retriev, .init, .recv]
  | .init => [.process]
  | .sendLocation => [.setConnected]
  | .setConnected => [.recv]
  | .pay => [.remove]
  | .remove | .update | .sendErrMsg => [.closeFd]
  | .closeFd => [.done]
  | .done => []
  -- the loop goes on, or the `switch` after it decides
  | .retriev => [.recv, .pay, .update, .sendErrMsg, .closeFd]
  | .process => [.sendLocation, .pay, .update, .sendErrMsg, .closeFd]
  | .lost | .close => [.pay, .update, .sendErrMsg, .closeFd]

theorem pc_pangoClientStep (h : pangoClientStep cfg env client t rows = some r) :
    r.thread.pc ∈ t.pc.next := by
  cases hpc : t.pc with
  | recv =>
    simp only [pangoClientStep, hpc] at h
    split at h <;> cases h <;> simp [Pc.next]
  | check =>
    rcases check_cases hpc h with ⟨-, rfl⟩ | ⟨-, -, rfl⟩ | ⟨-, -, m, -, rfl⟩
    · simp [Pc.next]
    · simp [Pc.next]
    · exact List.mem_append_left [.sendErrMsg] (switchStatus_mem _)
  | exist =>
    simp only [pangoClientStep, hpc] at h
    cases h
    cases t.checkedDatabase <;> simp only [Pc.next, afterLookup_true, afterLookup_false]
      <;> split <;> simp
  | retriev =>
    simp only [pangoClientStep, hpc] at h
    split at h <;> cases h
    · simp [Pc.next]
    · exact List.mem_cons_of_mem _ (exitSwitch_mem _)
  | process =>
    simp only [pangoClientStep, hpc] at h
    cases h
    dsimp only
    split
    · simp [Pc.next]
    · exact List.mem_cons_of_mem _ (exitSwitch_mem _)
  | lost | close =>
    simp only [pangoClientStep, hpc] at h
    cases h
    exact exitSwitch_mem _
  | init | sendLocation | setConnected | pay | remove | update | sendErrMsg | closeFd =>
    simp only [pangoClientStep, hpc] at h
    cases h
    simp [Pc.next]
  | done => simp [pangoClientStep, hpc] at h

/-- Only a thread that has ended does not move. -/
theorem pc_of_pangoClientStep_none (h : pangoClientStep cfg env client t rows = none) :
    t.pc = .done := by
  cases hpc : t.pc with
  | done => rfl
  | recv | check | retriev =>
    simp only [pangoClientStep, hpc] at h
    split at h <;> cases h
  | lost | exist | init | process | sendLocation | setConnected | close | pay | remove | update
  | sendErrMsg | closeFd => simp [pangoClientStep, hpc] at h

/-- A step executes one statement at most, at four program points and keyed by the slot's
address, and does nothing else to the table. -/
theorem yourTable_pangoClientStep (h : pangoClientStep cfg env client t rows = some r) :
    r.yourTable = rows
      ∨ (t.pc = .process ∧ r.yourTable = (Stmt.insert (newRow client)).apply rows)
      ∨ ((t.pc = .close ∨ t.pc = .update)
          ∧ r.yourTable = (Stmt.update (secondsUsed client env.now) client.mac).apply rows)
      ∨ (t.pc = .remove ∧ r.yourTable = (Stmt.delete client.mac).apply rows) := by
  have hexec : ∀ (b : Bool) (stmt : Stmt),
      sqlite3Exec b stmt rows = rows ∨ sqlite3Exec b stmt rows = stmt.apply rows := by
    intro b stmt
    cases b
    · exact .inr rfl
    · exact .inl rfl
  cases hpc : t.pc with
  | recv =>
    simp only [pangoClientStep, hpc] at h
    split at h <;> cases h <;> exact .inl rfl
  | check =>
    simp only [pangoClientStep, hpc] at h
    split at h <;> cases h <;> exact .inl rfl
  | retriev =>
    simp only [pangoClientStep, hpc] at h
    split at h <;> cases h <;> exact .inl (retrievClientData_yourTable ..)
  | process =>
    obtain ⟨_, _, _, b, _, heq⟩ := processClientData_eq cfg env client t.status
    simp only [pangoClientStep, hpc, heq] at h
    cases h
    rcases hexec b (.insert (newRow client)) with h | h
    · exact .inl h
    · exact .inr (.inl ⟨rfl, h⟩)
  | close =>
    simp only [pangoClientStep, hpc] at h
    cases h
    rcases hexec (env.fails 0) (.update (secondsUsed client env.now) client.mac) with h | h
    · exact .inl h
    · exact .inr (.inr (.inl ⟨.inl rfl, h⟩))
  | update =>
    simp only [pangoClientStep, hpc] at h
    cases h
    rcases hexec (env.fails 0) (.update (secondsUsed client env.now) client.mac) with h | h
    · exact .inl h
    · exact .inr (.inr (.inl ⟨.inr rfl, h⟩))
  | remove =>
    simp only [pangoClientStep, hpc] at h
    cases h
    rcases hexec (env.fails 0) (.delete client.mac) with h | h
    · exact .inl h
    · exact .inr (.inr (.inr ⟨rfl, h⟩))
  | lost | exist | init | sendLocation | setConnected | pay | sendErrMsg | closeFd =>
    simp only [pangoClientStep, hpc] at h
    cases h
    exact .inl rfl
  | done => simp [pangoClientStep, hpc] at h

/-- **Frame.**  A step leaves the rows of every address but the slot's alone. -/
theorem select_pangoClientStep_of_ne (h : pangoClientStep cfg env client t rows = some r)
    {mac : List UInt8} (hne : client.mac ≠ mac) :
    selectMac mac r.yourTable = selectMac mac rows := by
  rcases yourTable_pangoClientStep h with h | ⟨-, h⟩ | ⟨-, h⟩ | ⟨-, h⟩ <;> rw [h]
  · exact Stmt.select_apply_of_ne hne
  · exact Stmt.select_apply_of_ne hne
  · exact Stmt.select_apply_of_ne hne

/-- Only storing a frame changes the slot's address. -/
theorem mac_pangoClientStep (h : pangoClientStep cfg env client t rows = some r)
    (hpc : t.pc ≠ .check) : r.client.mac = client.mac := by
  cases hpc' : t.pc with
  | recv =>
    simp only [pangoClientStep, hpc'] at h
    split at h <;> cases h <;> rfl
  | check => exact absurd hpc' hpc
  | retriev =>
    obtain ⟨_, _, _, hc⟩ := retrievClientData_client cfg env client t.status rows
    simp only [pangoClientStep, hpc'] at h
    split at h <;> cases h <;> rw [hc] <;> rfl
  | process =>
    obtain ⟨_, _, _, _, _, heq⟩ := processClientData_eq cfg env client t.status
    simp only [pangoClientStep, hpc', heq] at h
    cases h
    rfl
  | lost | exist | init | sendLocation | setConnected | close | pay | remove | update | sendErrMsg
  | closeFd =>
    simp only [pangoClientStep, hpc'] at h
    cases h
    rfl
  | done => simp [pangoClientStep, hpc'] at h

/-- **Locality.**  A step sees of the table only the rows of the slot's address,
and these only at the two program points that look them up.  Over any table that
agrees there it does the same, and the same to the rows of every address. -/
theorem pangoClientStep_congr {rows' : List Row}
    (hread : t.pc = .exist ∨ t.pc = .retriev →
      selectMac client.mac rows = selectMac client.mac rows')
    (h : pangoClientStep cfg env client t rows = some r) :
    ∃ r', pangoClientStep cfg env client t rows' = some r' ∧ r'.client = r.client ∧
      r'.thread = r.thread ∧ r'.events = r.events ∧
      ∀ mac, selectMac mac rows = selectMac mac rows' →
        selectMac mac r.yourTable = selectMac mac r'.yourTable := by
  have hexec : ∀ (b : Bool) (stmt : Stmt) (mac : List UInt8),
      selectMac mac rows = selectMac mac rows' →
      selectMac mac (sqlite3Exec b stmt rows) = selectMac mac (sqlite3Exec b stmt rows') := by
    intro b stmt mac hrows
    cases b
    · exact Stmt.select_apply_congr stmt hrows
    · exact hrows
  cases hpc : t.pc with
  | recv =>
    simp only [pangoClientStep, hpc] at h ⊢
    split at h <;> cases h <;> exact ⟨_, rfl, rfl, rfl, rfl, fun _ => id⟩
  | check =>
    simp only [pangoClientStep, hpc] at h ⊢
    split at h <;> cases h
    · rename_i hv
      exact ⟨_, if_pos hv, rfl, rfl, rfl, fun _ => id⟩
    · rename_i hv
      exact ⟨_, if_neg hv, rfl, rfl, rfl, fun _ => id⟩
  | exist =>
    have hfound : ∀ pf sf ch, clinetExistInDatabaseCheck pf sf client.mac ch rows'
        = clinetExistInDatabaseCheck pf sf client.mac ch rows := by
      intro pf sf ch
      unfold clinetExistInDatabaseCheck
      rw [hread (.inl hpc)]
    simp only [pangoClientStep, hpc, hfound] at h ⊢
    cases h
    exact ⟨_, rfl, rfl, rfl, rfl, fun _ => id⟩
  | retriev =>
    simp only [pangoClientStep, hpc, retrievClientData_congr (hread (.inr hpc))] at h ⊢
    split at h <;> cases h
    · rename_i hq
      refine ⟨_, if_pos hq, rfl, rfl, rfl, fun _ hrows => ?_⟩
      rw [retrievClientData_yourTable]
      exact hrows
    · rename_i hq
      refine ⟨_, if_neg hq, rfl, rfl, rfl, fun _ hrows => ?_⟩
      rw [retrievClientData_yourTable]
      exact hrows
  | process =>
    obtain ⟨_, _, _, b, _, heq⟩ := processClientData_eq cfg env client t.status
    simp only [pangoClientStep, hpc, heq] at h ⊢
    cases h
    exact ⟨_, rfl, rfl, rfl, rfl, hexec b _⟩
  | close | update | remove =>
    simp only [pangoClientStep, hpc] at h ⊢
    cases h
    exact ⟨_, rfl, rfl, rfl, rfl, hexec _ _⟩
  | lost | init | sendLocation | setConnected | pay | sendErrMsg | closeFd =>
    simp only [pangoClientStep, hpc] at h ⊢
    cases h
    exact ⟨_, rfl, rfl, rfl, rfl, fun _ => id⟩
  | done => simp [pangoClientStep, hpc] at h

/-- Only a stored frame leads to the lookup, and only the lookup to a
resumption. -/
theorem lookup_pangoClientStep (h : pangoClientStep cfg env client t rows = some r)
    (hr : r.thread.pc = .exist ∨ r.thread.pc = .retriev) : t.pc = .check ∨ t.pc = .exist := by
  have hnext := pc_pangoClientStep h
  cases hpc : t.pc with
  | check => exact .inl rfl
  | exist => exact .inr rfl
  | _ => rcases hr with hr | hr <;> simp [hr, hpc, Pc.next] at hnext

/-- Only `calculate_and_send_payment_data` sends a payment. -/
theorem isPayment_pangoClientStep (h : pangoClientStep cfg env client t rows = some r)
    (hpc : t.pc ≠ .pay) : ∀ e ∈ r.events, e.isPayment = false := by
  have hstart : ∀ st, (∀ e ∈ (retrievClientData cfg env client st rows).events, e.isPayment = false)
      ∧ ∀ e ∈ (processClientData cfg env client st rows).events, e.isPayment = false := by
    intro st
    unfold retrievClientData processClientData
    dsimp only
    refine ⟨?_, ?_⟩ <;> split_ifs <;> simp [Event.isPayment]
  cases hpc' : t.pc with
  | pay => exact absurd hpc' hpc
  | recv | check =>
    simp only [pangoClientStep, hpc'] at h
    split at h <;> cases h <;> simp [Event.isPayment]
  | retriev =>
    simp only [pangoClientStep, hpc'] at h
    split at h <;> cases h <;> exact (hstart t.status).1
  | process =>
    simp only [pangoClientStep, hpc'] at h
    cases h
    exact (hstart t.status).2
  | lost | exist | init | sendLocation | setConnected | close | remove | update | sendErrMsg
  | closeFd =>
    simp only [pangoClientStep, hpc', removeClientData, updateClientData] at h
    cases h
    simp [Event.isPayment]
  | done => simp [pangoClientStep, hpc'] at h

end Step

end Pango.Server
