import Pango.Server.Handling

/-!
# What a failing call leaves behind

A start and a close are chains of calls that can fail one by one.  A failed
start should leave table and slot as they were; a close should send the bill and
delete the row, or do neither.

* `failed_start_iff` — a failed start is clean exactly if it does not fail behind
  the point where `update_client_and_continue_time` marks the slot connected.
* `dirty_start` — one that does.
* `close_all_or_nothing_iff` — a close is all or nothing exactly if it stops at the
  `UPDATE`, or the `send` of the bill and the `DELETE` succeed or fail together.
* `row_left_behind` — a bill is sent and the row stays.
-/

namespace Pango.Server

variable {D : Type*}

/-! ## Starts -/

/-- The start left no trace but the error code and the message to the client, with
which the thread ends. -/
def FailsCleanly (rows : List Row) (code : UInt8) (ok : Bool) (s : Turn D) : Prop :=
  s.yourTable = rows ∧ s.client.connected = false ∧ s.thread.status = code ∧
    [.send .errMsg ok, .close] <:+ s.events

instance [DecidableEq D] (rows : List Row) (code : UInt8) (ok : Bool) (s : Turn D) :
    Decidable (FailsCleanly rows code ok s) := inferInstanceAs (Decidable (_ ∧ _ ∧ _ ∧ _))

/-- The error code of the section a start fails in. -/
def startError (found : Bool) : UInt8 :=
  if found then errorStatusInClientExistSubfunctions else errorStatusInNewClientSubfunctions

section Start

variable [CDouble D] {cfg : Config D} {answers : Answers} {client : PangoData D} {t : Thread}
  {rows : List Row} {f : Frame}

/-- A thread that ends over a start has not passed it over. -/
theorem status_ne_of_done (hv : CrcValid f)
    (hdone : (handleFrame cfg answers client t rows f).thread.pc = .done) :
    t.status ≠ crc8TestFailed := by
  intro ht
  rw [handleFrame_ignored hv ht] at hdone
  cases hdone

/-- **When a start fails**: the thread ends over it exactly if the section it comes to,
`retriev_client_data` or `process_client_data`, returns `QUIT`. -/
theorem start_done_iff (hv : CrcValid f) (hst : f.status = startApp)
    (ht : t.status ≠ crc8TestFailed) :
    (handleFrame cfg answers client t rows f).thread.pc = .done ↔
      if found answers (macText f) t rows then
        (answers .retriev).fails 0 = true ∨ (answers .retriev).fails 2 = true
          ∨ (answers .retriev).fails 4 = true
      else t.checkedDatabase = false ∧
        ((answers .process).fails 0 = true ∨ (answers .process).fails 2 = true) := by
  cases hfound : found answers (macText f) t rows with
  | true =>
    obtain ⟨m, -, heq⟩ := handleFrame_found cfg answers client rows hv hst ht hfound
    rw [heq, if_pos rfl, ← retrievClientData_eq_quit_iff cfg (answers .retriev) (client.stored m f)
      startApp rows]
    dsimp only
    split_ifs with hq <;> simp [hq]
  | false =>
    rw [if_neg Bool.false_ne_true]
    cases hch : t.checkedDatabase with
    | true =>
      obtain ⟨m, -, heq⟩ := handleFrame_checked cfg answers client rows hv hst ht hch
      simp [heq]
    | false =>
      obtain ⟨m, -, heq⟩ := handleFrame_not_found cfg answers client rows hv hst ht hfound hch
      rw [heq, ← processClientData_eq_quit_iff cfg (answers .process)
        (initializeAndGetStartTime (answers .init) (client.stored m f)) startApp rows]
      dsimp only
      split_ifs with hq <;> simp [hq]

/-- **A failed start**, of a device with a row or without, leaves no trace exactly if it
does not fail behind the first statement of `retriev_client_data`. -/
theorem failed_start_iff (hcon : client.connected = false) (hv : CrcValid f)
    (hst : f.status = startApp)
    (hquit : (handleFrame cfg answers client t rows f).thread.pc = .done) :
    FailsCleanly rows (startError (found answers (macText f) t rows))
        (!(answers .sendErrMsg).sendFails) (handleFrame cfg answers client t rows f)
      ↔ (found answers (macText f) t rows = true → (answers .retriev).fails 0 = true) := by
  have ht := status_ne_of_done hv hquit
  cases hfound : found answers (macText f) t rows with
  | true =>
    obtain ⟨m, -, heq⟩ := handleFrame_found cfg answers client rows hv hst ht hfound
    obtain ⟨_, _, _, hclient⟩ := retrievClientData_client cfg (answers .retriev)
      (client.stored m f) startApp rows
    dsimp only at heq
    split_ifs at heq with hq
    · have hcon' : (client.stored m f).connected = false := hcon
      rw [heq]
      simp only [FailsCleanly, startError, if_true, hclient, true_and, true_imp_iff]
      cases hf : (answers .retriev).fails 0 with
      | true => exact iff_of_true ⟨hcon', List.suffix_append ..⟩ rfl
      | false => simp
    · rw [heq] at hquit
      cases hquit
  | false =>
    have hch : t.checkedDatabase = false :=
      (by simpa [hfound] using (start_done_iff hv hst ht).mp hquit : _ ∧ _).1
    obtain ⟨m, -, heq⟩ := handleFrame_not_found cfg answers client rows hv hst ht hfound hch
    dsimp only at heq
    split_ifs at heq with hq
    · obtain ⟨_, _, _, _, _, hproc⟩ := processClientData_eq cfg (answers .process)
        (initializeAndGetStartTime (answers .init) (client.stored m f)) startApp
      refine iff_of_true ?_ (by simp)
      rw [heq]
      refine ⟨rfl, ?_, rfl, List.suffix_append ..⟩
      rw [hproc]
      exact hcon
    · rw [heq] at hquit
      cases hquit

end Start

/-- The table of a device that has parked for 30 seconds. -/
def oneRow : List Row := [⟨macKey sampleMac, 30, ashkelon⟩]

/-- The `k`-th SQLite call at a program point fails, and nothing else. -/
def failingAt (pc : Pc) (k : ℕ) : Answers := fun pc' => if pc' = pc then { sqlFails := [k] } else {}

/-- `retriev_client_data` cannot prepare its first statement: the device is sent
`err_msg`, and nothing has changed. -/
theorem failed_start_of_first : FailsCleanly oneRow errorStatusInClientExistSubfunctions true
    (handleFrame samplePrices (failingAt .retriev 0) .zero {} oneRow (sampleFrame startApp)) :=
  (@failed_start_iff Int _ samplePrices (failingAt .retriev 0) .zero {} oneRow
    (sampleFrame startApp) rfl (by decide +kernel) (by decide +kernel)
    (by decide +kernel)).mpr fun _ => by decide

/-- **A start that leaves the slot connected.**  It is not true that a failed start
changes nothing: `update_client_and_continue_time` cannot prepare its statement. -/
theorem dirty_start :
    ¬ ∀ (rows : List Row) (answers : Answers) (client : PangoData Int) (t : Thread) (f : Frame),
      client.connected = false → CrcValid f → f.status = startApp →
      (handleFrame samplePrices answers client t rows f).thread.pc = .done →
      FailsCleanly rows (startError (found answers (macText f) t rows))
        (!(answers .sendErrMsg).sendFails) (handleFrame samplePrices answers client t rows f) := by
  intro hclaim
  have hclean := hclaim oneRow (failingAt .retriev 2) .zero {} (sampleFrame startApp) rfl
    (by decide +kernel) (by decide +kernel) (by decide +kernel)
  have hconnected : (handleFrame samplePrices (failingAt .retriev 2) .zero {} oneRow
      (sampleFrame startApp)).client.connected = true := by decide +kernel
  rw [hclean.2.1] at hconnected
  cases hconnected

/-! ## Closes -/

/-- A payment has been sent. -/
def paymentSent (events : List (Event D)) : Bool := events.any fun
  | .send (.payment ..) ok => ok
  | _ => false

/-- The bill has been sent and the row is gone, or neither. -/
def AllOrNothing (mac : List UInt8) (s : Turn D) : Prop :=
  paymentSent s.events = true ∧ selectMac mac s.yourTable = []
    ∨ paymentSent s.events = false ∧ selectMac mac s.yourTable ≠ []

section Close

variable [CDouble D] {cfg : Config D} {answers : Answers} {client : PangoData D} {t : Thread}
  {rows : List Row} {f : Frame}

/-- **A close** of a device with a row is all or nothing exactly if it is passed over, or
its `UPDATE` fails, or the `send` of the bill and the `DELETE` succeed or fail together. -/
theorem close_all_or_nothing_iff (hv : CrcValid f) (hst : f.status = closeApp)
    (hrow : selectMac (macText f) rows ≠ []) :
    AllOrNothing (macText f) (handleFrame cfg answers client t rows f) ↔
      t.status = crc8TestFailed ∨ (answers .close).fails 0 = true ∨
        (answers .pay).sendFails = (answers .remove).fails 0 := by
  by_cases ht : t.status = crc8TestFailed
  · rw [handleFrame_ignored hv ht]
    exact iff_of_true (.inr ⟨rfl, hrow⟩) (.inl ht)
  · obtain ⟨m, hm, heq⟩ := handleFrame_close cfg answers client rows hv hst ht
    rw [heq]
    dsimp only
    cases hclose : (answers .close).fails 0 with
    | true =>
      rw [if_pos rfl]
      exact iff_of_true (.inr ⟨by simp [paymentSent, updateClientData], hrow⟩) (.inr (.inl rfl))
    | false =>
      have hmac : (client.stored m f).mac = macText f := hm
      have hkept : selectMac (macText f)
          (updateClientData (answers .close) (client.stored m f) rows).yourTable ≠ [] := by
        simp only [updateClientData, hclose, sqlite3Exec, Bool.false_eq_true, if_false, hmac,
          Stmt.select_update]
        simpa using hrow
      have hgone : selectMac (macText f) (removeClientData (D := D) (answers .remove) (macText f)
          (updateClientData (answers .close) (client.stored m f) rows).yourTable).1 = []
          ↔ (answers .remove).fails 0 = false := by
        cases hdel : (answers .remove).fails 0 with
        | true =>
          simp only [removeClientData, hdel, sqlite3Exec, if_true]
          exact iff_of_false hkept (by decide)
        | false =>
          simp only [removeClientData, hdel, sqlite3Exec, Bool.false_eq_true, if_false]
          exact iff_of_true Stmt.select_delete trivial
      rw [if_neg Bool.false_ne_true]
      simp only [AllOrNothing, hgone, ne_eq, ht, Bool.false_eq_true, false_or]
      simp only [paymentSent, updateClientData, removeClientData, calculateAndSendPaymentData,
        List.any_append, List.any_cons, List.any_nil, Bool.or_false, Bool.false_or]
      cases (answers .pay).sendFails <;> cases (answers .remove).fails 0 <;> decide

end Close

/-- The device has started at 100, on a connection of its own. -/
def started : Turn Int :=
  handleFrame samplePrices (fun _ => { now := 100 }) .zero {} [] (sampleFrame startApp)

/-- Nothing fails: the bill is sent, and the row is gone. -/
theorem close_all_or_nothing_of_works : AllOrNothing (macText (sampleFrame closeApp))
    (handleFrame samplePrices (fun _ => {}) started.client started.thread started.yourTable
      (sampleFrame closeApp)) :=
  (@close_all_or_nothing_iff Int _ samplePrices (fun _ => {}) started.client started.thread
    started.yourTable (sampleFrame closeApp) (by decide +kernel) (by decide +kernel)
    (by decide +kernel)).mpr (.inr (.inr rfl))

/-- **A row left behind.**  It is not true that a close is all or nothing: the bill is
sent and the `DELETE` fails, so the device can be billed again. -/
theorem row_left_behind :
    ¬ ∀ (rows : List Row) (answers : Answers) (client : PangoData Int) (t : Thread) (f : Frame),
      client.connected = true → client.mac = macText f → CrcValid f → f.status = closeApp →
      selectMac (macText f) rows ≠ [] →
      AllOrNothing (macText f) (handleFrame samplePrices answers client t rows f) := by
  intro hclaim
  have hclose := hclaim started.yourTable (failingAt .remove 0) started.client started.thread
    (sampleFrame closeApp) (by decide +kernel) (by decide +kernel) (by decide +kernel)
    (by decide +kernel) (by decide +kernel)
  have hboth : paymentSent (handleFrame samplePrices (failingAt .remove 0) started.client
        started.thread started.yourTable (sampleFrame closeApp)).events = true ∧
      selectMac (macText (sampleFrame closeApp)) (handleFrame samplePrices (failingAt .remove 0)
        started.client started.thread started.yourTable (sampleFrame closeApp)).yourTable ≠ [] := by
    decide +kernel
  rcases hclose with ⟨-, hgone⟩ | ⟨hunsent, -⟩
  · exact hboth.2 hgone
  · rw [hboth.1] at hunsent
    cases hunsent

end Pango.Server
