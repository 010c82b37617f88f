import Pango.Server.Framing
import Pango.Server.Handling

/-!
# The conversation with a client

What a connection takes from its client, does to the table and answers, in order.

A client that has sent a frame waits for what the thread says to it: a location, the text
`ERROR` or a payment.  Whether it waits in vain is a question about the order of things, and
the thread decides it by three variables and the results of a dozen calls, most of which it
looks at and some of which it does not.  `Talk` says what may follow what, without the
variables: a start is answered before the next frame is received, unless the connection was
resumed before; an end is answered or the connection is closed; after a failure nothing
follows but the error and the closing.

* `Talk` — where a conversation stands, and what may come next.
* `conversation` — **every connection keeps to it**, whatever its client sends, whatever
  fails and whatever the other threads do.
* `steps_le` — a thread takes eight steps at most for each frame it hands to the check and
  for the end of its client.
-/

namespace Pango.Server

variable {D : Type*}

/-! ## The conversation -/

/-- Where a conversation stands. -/
inductive Talk
  /-- The next frame is waited for. -/
  | listening
  /-- It is waited for on a connection that goes on with an earlier parking. -/
  | resumed
  /-- A valid frame had the status byte of a failed check: none is taken any more. -/
  | passingOver
  /-- The last frame taken is a start, and it has not been answered. -/
  | starting
  /-- The row of a new client is in, and its location has not been sent. -/
  | entered
  /-- There is nothing left to say but that it is an error. -/
  | refused
  /-- The last frame taken is an end. -/
  | closing
  | billing
  | paid
  | lost
  | leaving
  | closed
  deriving DecidableEq, Repr

/-- A frame is taken, or it is the last.  On a resumed connection a start says nothing new. -/
def Talk.heard (k : Talk) (f : Frame) : Talk :=
  if ¬ CrcValid f then .refused
  else if f.status = startApp then if k = .resumed then .resumed else .starting
  else if f.status = closeApp then .closing
  else if f.status = crc8TestFailed then .passingOver
  else k

/-- What may come next, and where it leads. -/
def Talk.next : Talk → Event D → Option Talk
  | .closed, _ => none
  | k, .lock | k, .unlock | k, .clock .. => some k
  | .listening, .recv _ => some .listening
  | .resumed, .recv _ => some .resumed
  | .passingOver, .recv _ => some .passingOver
  | .listening, .check f => some (Talk.listening.heard f)
  | .resumed, .check f => some (Talk.resumed.heard f)
  | .passingOver, .check f => some (if CrcValid f then .passingOver else .refused)
  | .listening, .hangup | .resumed, .hangup | .passingOver, .hangup => some .lost
  -- a client without a row, as the thread sees it
  | .starting, .exec (.insert _) ok => some (if ok then .entered else .refused)
  | .entered, .send (.location _) _ => some .listening
  -- a client with a row
  | .starting, .send (.location _) _ => some .resumed
  | .starting, .send .errMsg _ | .refused, .send .errMsg _ => some .leaving
  | .closing, .exec (.update ..) ok => some (if ok then .billing else .leaving)
  | .billing, .send (.payment ..) _ => some .paid
  | .paid, .exec (.delete _) _ => some .leaving
  | .lost, .exec (.update ..) _ => some .leaving
  | .leaving, .close => some .closed
  | _, _ => none

/-- Where a list of actions leads. -/
def Talk.after (k : Talk) (events : List (Event D)) : Option Talk := events.foldlM Talk.next k

theorem Talk.after_append (k : Talk) (a b : List (Event D)) :
    k.after (a ++ b) = (k.after a).bind fun k' => k'.after b := List.foldlM_append

/-! ## What a thread says -/

/-- Where the conversation stands while the thread waits for a frame. -/
def Talk.waiting (checkedDatabase : Bool) : Talk := if checkedDatabase then .resumed else .listening

/-- Where the conversation stands when the thread is at its program point. -/
def Speaks (t : Thread) (k : Talk) : Prop :=
  match t.pc with
  | .recv | .check => (t.status = crc8TestFailed ∧ k = .passingOver) ∨
      (t.status ≠ crc8TestFailed ∧ k = .waiting t.checkedDatabase)
  | .exist => t.status ≠ crc8TestFailed ∧ k = if t.checkedDatabase then .resumed else .starting
  | .retriev | .init | .process =>
      t.status ≠ crc8TestFailed ∧ t.checkedDatabase = false ∧ k = .starting
  | .sendLocation => t.status ≠ crc8TestFailed ∧ t.checkedDatabase = false ∧ k = .entered
  | .setConnected => t.status ≠ crc8TestFailed ∧ t.checkedDatabase = false ∧ k = .listening
  | .lost => t.status = connectionLost ∧ k = .lost
  | .close => t.status = closeApp ∧ k = .closing
  | .pay => k = .billing
  | .remove => k = .paid
  | .update => k = .lost
  | .sendErrMsg => k = .refused ∨ k = .starting
  | .closeFd => k = .leaving
  | .done => k = .closed

theorem waiting_cases (checkedDatabase : Bool) :
    Talk.waiting checkedDatabase = .listening ∨ Talk.waiting checkedDatabase = .resumed := by
  cases checkedDatabase
  · exact .inl rfl
  · exact .inr rfl

section Step

variable [CDouble D] {cfg : Config D} {env : Env} {client : PangoData D} {t : Thread}
  {rows : List Row} {r : Turn D} {k : Talk}

/-- The check of a frame leads to the point of the `switch` that its status asks for. -/
theorem speaks_check (hpc : t.pc = .check) (hk : Speaks t k)
    (h : pangoClientStep cfg env client t rows = some r) :
    ∃ k', k.after r.events = some k' ∧ Speaks r.thread k' := by
  simp only [Speaks, hpc] at hk
  rcases check_cases hpc h with ⟨hv, rfl⟩ | ⟨hv, hst, rfl⟩ | ⟨hv, hst, m, -, rfl⟩
  · -- the loop is over, whether or not frames have been taken
    refine ⟨.refused, ?_, .inl rfl⟩
    rcases hk with ⟨-, rfl⟩ | ⟨-, rfl⟩
    · simp [Talk.after, Talk.next, hv]
    · rcases waiting_cases t.checkedDatabase with h | h <;>
        simp [h, Talk.after, Talk.next, Talk.heard, hv]
  · rcases hk with ⟨-, rfl⟩ | ⟨hno, -⟩
    · exact ⟨.passingOver, by simp [Talk.after, Talk.next, hv], .inl ⟨hst, rfl⟩⟩
    · exact absurd hst hno
  · have hwaiting : k = .waiting t.checkedDatabase := by
      rcases hk with ⟨hno, -⟩ | ⟨-, hk⟩
      · exact absurd hno hst
      · exact hk
    subst hwaiting
    refine ⟨(Talk.waiting t.checkedDatabase).heard t.clientDataBuff, ?_, ?_⟩
    · rcases waiting_cases t.checkedDatabase with h | h <;> rw [h] <;> rfl
    · have hstart_ne : startApp ≠ crc8TestFailed := by decide
      have hclose_ne : closeApp ≠ startApp := by decide
      by_cases hstart : t.clientDataBuff.status = startApp
      · cases t.checkedDatabase <;>
          simp [Talk.heard, Talk.waiting, hv, hstart, Speaks, hstart_ne]
      · by_cases hclose : t.clientDataBuff.status = closeApp
        · simp [Talk.heard, hv, hclose, Speaks, hclose_ne]
        · rw [Talk.heard, if_neg (not_not.mpr hv), if_neg hstart, if_neg hclose]
          simp only [Speaks, switchStatus_of_ne hstart hclose]
          split_ifs with hfail
          · exact .inl ⟨hfail, rfl⟩
          · exact .inr ⟨hfail, rfl⟩

omit [CDouble D] in
/-- To a client with a row the location is sent only if nothing has failed. -/
theorem after_retrievClientData (cfg : Config D) (env : Env) (client : PangoData D)
    (status : UInt8) (rows : List Row) :
    Talk.starting.after (retrievClientData cfg env client status rows).events
      = some (if (retrievClientData cfg env client status rows).returnValue = .quit then .starting
        else .resumed) := by
  unfold retrievClientData
  dsimp only
  split_ifs <;> first | rfl | contradiction

omit [CDouble D] in
/-- A client without one has got it, or it is refused, or nothing has been done for it. -/
theorem after_processClientData (cfg : Config D) (env : Env) (client : PangoData D)
    (status : UInt8) (rows : List Row) :
    ∃ k, Talk.starting.after (processClientData cfg env client status rows).events = some k ∧
      if (processClientData cfg env client status rows).returnValue = .quit then
        k = .refused ∨ k = .starting
      else k = .entered := by
  unfold processClientData insertClientDataIntoDatabase
  dsimp only
  by_cases hprice : (retrieveParkingPricePerCityFromDatabase (env.fails 0) (env.fails 1)
      cfg.cityParking client).1 = .quit
  · rw [if_pos hprice]
    exact ⟨.starting, rfl, .inr rfl⟩
  · rw [if_neg hprice]
    cases env.fails 2 with
    | true => exact ⟨.refused, rfl, .inl rfl⟩
    | false => exact ⟨.entered, rfl, rfl⟩

/-- **A step** leads the conversation to where the thread then stands. -/
theorem speaks_pangoClientStep (hk : Speaks t k)
    (h : pangoClientStep cfg env client t rows = some r) :
    ∃ k', k.after r.events = some k' ∧ Speaks r.thread k' := by
  cases hpc : t.pc with
  | recv =>
    simp only [Speaks, hpc] at hk
    simp only [pangoClientStep, hpc] at h
    have hlistens : k = .passingOver ∨ k = .listening ∨ k = .resumed := by
      rcases hk with ⟨-, rfl⟩ | ⟨-, rfl⟩
      · exact .inl rfl
      · exact .inr (waiting_cases t.checkedDatabase)
    split at h <;> cases h
    · refine ⟨.lost, ?_, rfl, rfl⟩
      rcases hlistens with rfl | rfl | rfl <;> rfl
    · refine ⟨k, ?_, hk⟩
      rcases hlistens with rfl | rfl | rfl <;> rfl
    · exact ⟨k, rfl, hk⟩
  | check => exact speaks_check hpc hk h
  | exist =>
    simp only [Speaks, hpc] at hk
    simp only [pangoClientStep, hpc] at h
    cases h
    obtain ⟨hst, rfl⟩ := hk
    refine ⟨_, rfl, ?_⟩
    cases hchecked : t.checkedDatabase with
    | true =>
      -- on a resumed connection nothing is found, and nobody is new
      simp only [clinetExistInDatabaseCheck_eq, Bool.not_true, Bool.and_false, Bool.false_and,
        Bool.false_eq_true, if_false, afterLookup_true]
      exact .inr ⟨hst, rfl⟩
    | false =>
      cases clinetExistInDatabaseCheck (env.fails 0) (env.fails 1) client.mac false rows with
      | true => exact ⟨hst, rfl, rfl⟩
      | false => exact ⟨hst, rfl, rfl⟩
  | retriev =>
    simp only [Speaks, hpc] at hk
    obtain ⟨hst, -, rfl⟩ := hk
    have hafter := after_retrievClientData cfg env client t.status rows
    have hstatus := retrievClientData_status cfg env client t.status rows
    simp only [pangoClientStep, hpc] at h
    split at h <;> rename_i hq <;> cases h
    · rw [if_neg hq] at hafter hstatus
      exact ⟨.resumed, hafter, .inr ⟨fun hno => hst (hstatus.symm.trans hno), rfl⟩⟩
    · rw [if_pos (not_not.mp hq)] at hafter hstatus
      refine ⟨.starting, hafter, ?_⟩
      simp only [Speaks, hstatus, exitSwitch_errorStatusInClientExist, or_true]
  | process =>
    simp only [Speaks, hpc] at hk
    obtain ⟨hst, hchecked, rfl⟩ := hk
    obtain ⟨k', hafter, hk'⟩ := after_processClientData cfg env client t.status rows
    have hstatus := processClientData_status cfg env client t.status rows
    simp only [pangoClientStep, hpc] at h
    cases h
    refine ⟨k', hafter, ?_⟩
    split_ifs at hk' hstatus with hq
    · simpa only [Speaks, hq, ne_eq, not_true_eq_false, if_false, hstatus,
        exitSwitch_errorStatusInNewClient] using hk'
    · simp only [Speaks, ne_eq, hq, not_false_eq_true, if_true, hstatus]
      exact ⟨hst, hchecked, hk'⟩
  | close =>
    simp only [Speaks, hpc] at hk
    obtain ⟨hst, rfl⟩ := hk
    have hok : (0 : UInt8) ≠ errorCode := by decide
    cases hfails : env.fails 0 with
    | true =>
      simp only [pangoClientStep, hpc, updateClientData, hfails, if_true] at h
      cases h
      exact ⟨.leaving, rfl, rfl⟩
    | false =>
      simp only [pangoClientStep, hpc, updateClientData, hfails, Bool.false_eq_true, if_false,
        if_neg hok, hst, exitSwitch_closeApp] at h
      cases h
      exact ⟨.billing, rfl, rfl⟩
  | lost =>
    simp only [Speaks, hpc] at hk
    obtain ⟨hst, rfl⟩ := hk
    simp only [pangoClientStep, hpc, hst] at h
    cases h
    exact ⟨.lost, rfl, rfl⟩
  | sendErrMsg =>
    simp only [Speaks, hpc] at hk
    simp only [pangoClientStep, hpc] at h
    cases h
    refine ⟨.leaving, ?_, rfl⟩
    rcases hk with rfl | rfl <;> rfl
  | init | sendLocation | setConnected =>
    simp only [Speaks, hpc] at hk
    simp only [pangoClientStep, hpc] at h
    cases h
    obtain ⟨hst, hchecked, rfl⟩ := hk
    exact ⟨_, rfl, by simp [Speaks, Talk.waiting, hst, hchecked]⟩
  | pay | remove | update | closeFd =>
    simp only [Speaks, hpc] at hk
    simp only [pangoClientStep, hpc, calculateAndSendPaymentData, removeClientData,
      updateClientData] at h
    cases h
    subst hk
    exact ⟨_, rfl, rfl⟩
  | done => simp [pangoClientStep, hpc] at h

/-! ## How long it takes -/

/-- A frame is taken, or the end of the client. -/
def Event.takes : Event D → Bool
  | .check _ | .hangup => true
  | _ => false

/-- The steps that have been paid for and not been taken yet. -/
def Pc.debt (pc : Pc) : ℕ := if pc = .check then 0 else pc.stepsLeft + 1

/-- What a step takes from the client pays for it and for what it leads to. -/
theorem debt_pangoClientStep (h : pangoClientStep cfg env client t rows = some r) :
    r.thread.pc.debt + 1 ≤ t.pc.debt + 8 * r.events.countP Event.takes := by
  by_cases hrecv : t.pc = .recv
  · simp only [pangoClientStep, hrecv] at h
    split at h <;> cases h <;> rw [hrecv]
    · exact (by decide : Pc.lost.debt + 1 ≤ Pc.recv.debt + 8 * 1)
    · exact Nat.le_add_right _ _
    · exact Nat.le_add_right _ _
  · have hlt := Pc.stepsLeft_lt hrecv (pc_pangoClientStep h)
    have hdebt : r.thread.pc.debt = r.thread.pc.stepsLeft + 1 :=
      if_neg (check_pangoClientStep h hrecv)
    by_cases hcheck : t.pc = .check
    · have htakes : r.events.countP Event.takes = 1 := by
        rcases check_cases hcheck h with ⟨-, rfl⟩ | ⟨-, -, rfl⟩ | ⟨-, -, m, -, rfl⟩ <;> rfl
      have hseven : t.pc.stepsLeft = 7 := by rw [hcheck]; rfl
      rw [htakes, hdebt]
      omega
    · rw [hdebt, Pc.debt, if_neg hcheck]
      omega

end Step

/-! ## Runs -/

/-- Is it the turn of connection `i`? -/
def Label.turnsOf (i : ℕ) : Label → ℕ
  | .client j _ => if j = i then 1 else 0
  | _ => 0

section Runs

variable [CDouble D] {cfg : Config D} {rows : List Row} {ls : List Label} {s : State D}

/-- **What a frame costs.**  In every run a thread takes eight steps at most for each frame it has
handed to the check and for the end of its client, and one more.  A `recv` that keeps returning -1
hands the same frame to the check for ever. -/
theorem steps_le (h : (server cfg).Exec (fun _ _ => True) (.start rows) ls s) (i : ℕ) :
    (ls.map (Label.turnsOf i)).sum ≤ 8 * (own i s).countP Event.takes + 1 := by
  have hrun := h.amortized (fun s => (s.thread i).elim 1 fun t => t.pc.debt)
    (fun s => 8 * (own i s).countP Event.takes) (Label.turnsOf i) ?_
  · simp only [State.start, Option.elim_none] at hrun
    omega
  · intro s l s' _ hs
    rcases step_cases hs with ⟨j, fd, rfl, hj, rfl⟩ | ⟨j, env, t, r, rfl, ht, hr, rfl⟩
      | ⟨clock, fails, rfl, rfl⟩
    · rw [own_accepted]
      by_cases hij : i = j
      · subst hij
        rw [accepted_thread_self, hj]
        exact le_rfl
      · rw [accepted_thread_of_ne s fd hij]
        exact le_rfl
    · by_cases hij : i = j
      · subst hij
        have hdebt := debt_pangoClientStep hr
        rw [turn_thread_self, own_turn_self, List.countP_append, ht]
        simp only [Option.elim_some, Label.turnsOf, if_true]
        omega
      · rw [turn_thread_of_ne s r hij, own_turn_of_ne s hij]
        simp [Label.turnsOf, Ne.symm hij]
    · rw [own_backedUp]
      exact le_rfl

end Runs

/-- A parking, its start repeated, and closed. -/
def talkedOver : List Label :=
  sampleStart 0 100 ++ [.client 0 { recv := recvFrame (sampleFrame startApp) }, .client 0 {},
    .client 0 {}, .client 0 { now := 130 }] ++ sampleClose 0 160

/-- Its seventeen steps are for three frames. -/
theorem steps_le_closed : ∃ s : State Int, (own 0 s).countP Event.takes = 3 ∧
    17 ≤ 8 * (own 0 s).countP Event.takes + 1 := by
  have hrun : ((server samplePrices).run (.start []) talkedOver).map (fun s =>
      (own 0 s).countP Event.takes) = some 3 := by decide +kernel
  obtain ⟨s, hs, hcount⟩ := Option.map_eq_some_iff.mp hrun
  exact ⟨s, hcount, steps_le (Lts.exec_of_run _ hs) 0⟩

end Pango.Server
