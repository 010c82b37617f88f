import Pango.Server.Machine

/-!
# `db_update_thread.c`: the loop of the backup thread

`db_update` as it runs: each iteration takes the mutex, reads the clock to see
whether it is time for a backup, looks at `return_thread`, and walks over the
slots at most once.  What an iteration reads is the clock, again for every connected slot,
and the flag `return_thread`, which another thread may have set.

The rest of the development knows the backup thread as a single step that comes at any
moment.  `withLoop` puts the loop beside the connection threads, and `server_of_withLoop`
shows that this allows for everything the loop does, so nothing is lost by it.

* `dbUpdateTurn_eq` — one turn of the loop, in terms of the passes it makes.
* `server_of_withLoop` — **the loop refines the passes**.
* `backup_iteration` — exactly what one iteration does.
-/

namespace Pango.Server

open CInt

variable {D : Type*}

/-! ## The functions of the loop -/

/-- `TRUE`, as `return_thread` holds it. -/
abbrev StatementStatus.true : UInt8 := 1

abbrev numberOfSecondsBetweenBackups : Int := 5

/-- What the clock and SQLite answer during one call of `update_clients`. -/
structure Pass where
  clock : ℕ → Int
  sqlFails : List ℕ := []

/-- The local variables of `db_update`. -/
structure DbUpdate where
  isBackupTime : Bool := false
  quitLoopFlag : Bool := false
  databaseBackupStartTime : Int := 0
  deriving DecidableEq

/-- What the backup thread leaves behind; `passes` are its walks over the slots. -/
structure Backup (D : Type*) where
  yourTable : List Row
  passes : List Pass
  events : List (Event D)

/-- `set_start_time`. -/
def setStartTime (now : Int) : Int := toInt32 now

/-- `time_to_backup`: the remainder is that of `int`. -/
def timeToBackup (databaseBackupStartTime now : Int) : Bool :=
  let currentTime := toInt32 now
  if (toInt32 (currentTime - databaseBackupStartTime)).tmod numberOfSecondsBetweenBackups = 0 then
    true
  else false

/-- `update_clients`, with its test of `is_backup_time`. -/
def updateClientsIf (n : ℕ) (client : ℕ → PangoData D) (isBackupTime : Bool) (pass : Pass)
    (yourTable : List Row) : Backup D :=
  if isBackupTime ≠ true then ⟨yourTable, [], []⟩
  else
    { yourTable := updateClients n client pass.clock pass.sqlFails yourTable
      passes := [pass]
      events := updateClientsStmts n client pass.clock pass.sqlFails }

/-- `return_database_update_thread`: a walk of its own, and none for the call of
`update_clients` that follows it. -/
def returnDatabaseUpdateThread (n : ℕ) (client : ℕ → PangoData D) (returnFlag : UInt8) (pass : Pass)
    (t : DbUpdate) (yourTable : List Row) : DbUpdate × Backup D :=
  if returnFlag ≠ StatementStatus.true then (t, ⟨yourTable, [], []⟩)
  else
    let t := { t with quitLoopFlag := true, isBackupTime := true }
    let b := updateClientsIf n client t.isBackupTime pass yourTable
    ({ t with isBackupTime := false }, b)

/-- What the environment answers during an iteration. -/
structure Iteration where
  /-- `return_thread`, as it is read. -/
  returnThread : UInt8 := 0
  /-- `tv_sec` as read by `time_to_backup`. -/
  now : Int
  /-- For the walk of `return_database_update_thread`. -/
  returnPass : Pass
  /-- For the walk of the loop itself. -/
  pass : Pass

/-- One iteration of the loop of `db_update`. -/
def dbUpdateTurn (n : ℕ) (client : ℕ → PangoData D) (it : Iteration) (t : DbUpdate)
    (yourTable : List Row) : Option (DbUpdate × Backup D) :=
  if t.quitLoopFlag = true then none
  else
    let t := { t with isBackupTime := timeToBackup t.databaseBackupStartTime it.now }
    let (t, returned) :=
      returnDatabaseUpdateThread n client it.returnThread it.returnPass t yourTable
    let updated := updateClientsIf n client t.isBackupTime it.pass returned.yourTable
    some (t,
      { yourTable := updated.yourTable
        passes := returned.passes ++ updated.passes
        events := .lock :: (returned.events ++ updated.events) ++ [.unlock] })

/-! ## What an iteration does -/

/-- The walks an iteration makes, from the start time of the loop. -/
def Iteration.passes (it : Iteration) (databaseBackupStartTime : Int) : List Pass :=
  if it.returnThread = StatementStatus.true then [it.returnPass]
  else if timeToBackup databaseBackupStartTime it.now = true then [it.pass]
  else []

/-- What walks over the slots do, one after the other. -/
def backupOf (n : ℕ) (client : ℕ → PangoData D) (passes : List Pass) (yourTable : List Row) :
    Backup D where
  yourTable := passes.foldl (fun rows p => updateClients n client p.clock p.sqlFails rows) yourTable
  passes := passes
  events := .lock :: passes.flatMap (fun p => updateClientsStmts n client p.clock p.sqlFails)
    ++ [.unlock]

/-- An iteration makes one walk over the slots at most. -/
theorem dbUpdateTurn_eq {t : DbUpdate} (h : t.quitLoopFlag = false) (n : ℕ)
    (client : ℕ → PangoData D) (it : Iteration) (yourTable : List Row) :
    ∃ flag, dbUpdateTurn n client it t yourTable
      = some (⟨flag, decide (it.returnThread = StatementStatus.true), t.databaseBackupStartTime⟩,
          backupOf n client (it.passes t.databaseBackupStartTime) yourTable) := by
  unfold dbUpdateTurn returnDatabaseUpdateThread Iteration.passes updateClientsIf backupOf
  by_cases hret : it.returnThread = StatementStatus.true
  · exact ⟨false, by simp [h, hret]⟩
  · cases htime : timeToBackup t.databaseBackupStartTime it.now with
    | true => exact ⟨true, by simp [h, hret]⟩
    | false => exact ⟨false, by simp [h, hret]⟩

/-- Where the difference of the readings is an `int`, the remainder tells its multiples. -/
theorem timeToBackup_iff (start now : Int) : timeToBackup start now = true
    ↔ numberOfSecondsBetweenBackups ∣ toInt32 (toInt32 now - start) := by
  unfold timeToBackup
  rw [Int.dvd_iff_tmod_eq_zero]
  simp

/-! ## The loop beside the connection threads -/

/-- The server, where its backup thread stands, and the walks this has made so far. -/
structure Looping (D : Type*) where
  server : State D
  dbUpdate : DbUpdate
  passes : List Pass

namespace Looping

/-- `db_update` has read the clock for the first time. -/
def start [CDouble D] (rows : List Row) (now : Int) : Looping D where
  server := .start rows
  dbUpdate := { databaseBackupStartTime := setStartTime now }
  passes := []

/-- Put an iteration into the server. -/
def iterated (p : Looping D) (t : DbUpdate) (b : Backup D) : Looping D where
  server := { p.server with
    yourTable := b.yourTable
    trace := p.server.trace ++ b.events.map (Prod.mk .dbUpdate) }
  dbUpdate := t
  passes := p.passes ++ b.passes

end Looping

/-- The label is a pass of the backup thread. -/
def Label.isBackup : Label → Bool
  | .backup .. => true
  | _ => false

/-- Who moves: `main` or a connection, or the backup thread. -/
inductive LoopLabel
  | other (l : Label)
  | iterate (it : Iteration)

/-- The server with the loop of its backup thread in the place of its passes. -/
def withLoop [CDouble D] (cfg : Config D) : Lts (Looping D) LoopLabel where
  step p
    | .other l => if l.isBackup = true then none
        else ((server cfg).step p.server l).map fun s => { p with server := s }
    | .iterate it => (dbUpdateTurn cfg.updateThreadMaxNumClients p.server.client it p.dbUpdate
        p.server.yourTable).map fun r => p.iterated r.1 r.2

section Step

variable [CDouble D] {cfg : Config D} {p q : Looping D} {l : LoopLabel}

theorem withLoop_cases (h : (withLoop cfg).step p l = some q) :
    (∃ l' s, l = .other l' ∧ l'.isBackup = false ∧ (server cfg).step p.server l' = some s ∧
        q = { p with server := s })
    ∨ ∃ it flag, l = .iterate it ∧ p.dbUpdate.quitLoopFlag = false ∧
        q = p.iterated ⟨flag, decide (it.returnThread = StatementStatus.true),
            p.dbUpdate.databaseBackupStartTime⟩
          (backupOf cfg.updateThreadMaxNumClients p.server.client
            (it.passes p.dbUpdate.databaseBackupStartTime) p.server.yourTable) := by
  cases l with
  | other l' =>
    simp only [withLoop] at h
    split at h
    · cases h
    · rename_i hl
      obtain ⟨s, hs, rfl⟩ := Option.map_eq_some_iff.mp h
      exact .inl ⟨l', s, rfl, Bool.eq_false_iff.mpr hl, hs, rfl⟩
  | iterate it =>
    obtain ⟨r, hr, rfl⟩ := Option.map_eq_some_iff.mp h
    cases hquit : p.dbUpdate.quitLoopFlag with
    | true => simp [dbUpdateTurn, hquit] at hr
    | false =>
      obtain ⟨flag, hturn⟩ := dbUpdateTurn_eq hquit cfg.updateThreadMaxNumClients p.server.client
        it p.server.yourTable
      rw [hturn] at hr
      cases hr
      exact .inr ⟨it, flag, rfl, rfl, rfl⟩

variable (cfg) in
/-- An iteration can be made as long as the loop has not been told to end. -/
theorem withLoop_iterate (hquit : p.dbUpdate.quitLoopFlag = false) (it : Iteration) :
    ∃ flag, (withLoop cfg).step p (.iterate it) = some
      (p.iterated ⟨flag, decide (it.returnThread = StatementStatus.true),
          p.dbUpdate.databaseBackupStartTime⟩
        (backupOf cfg.updateThreadMaxNumClients p.server.client
          (it.passes p.dbUpdate.databaseBackupStartTime) p.server.yourTable)) := by
  obtain ⟨flag, hturn⟩ := dbUpdateTurn_eq hquit cfg.updateThreadMaxNumClients p.server.client
    it p.server.yourTable
  exact ⟨flag, by simp only [withLoop, hturn, Option.map_some]⟩

/-- The loop has ended. -/
def Looping.Ended (cfg : Config D) (p : Looping D) : Prop :=
  ∀ it, (withLoop cfg).step p (.iterate it) = none

theorem ended_iff : p.Ended cfg ↔ p.dbUpdate.quitLoopFlag = true := by
  constructor
  · intro h
    by_contra hquit
    obtain ⟨flag, hstep⟩ := withLoop_iterate cfg (Bool.eq_false_iff.mpr hquit)
      ⟨0, 0, ⟨fun _ => 0, []⟩, ⟨fun _ => 0, []⟩⟩
    rw [h] at hstep
    cases hstep
  · intro hquit it
    simp only [withLoop, dbUpdateTurn, if_pos hquit, Option.map_none]

end Step

/-! ## The loop refines the passes -/

/-- Two servers in which the connections stand, have done and find the same. -/
structure SameConnections (s s' : State D) : Prop where
  client : s.client = s'.client
  thread : s.thread = s'.thread
  yourTable : s.yourTable = s'.yourTable
  events : eventsOf (fun _ => True) s.trace = eventsOf (fun _ => True) s'.trace

section Refinement

variable [CDouble D] {cfg : Config D} {p q : Looping D} {s : State D}

omit [CDouble D] in
/-- What an iteration appends to the record concerns no connection. -/
theorem eventsOf_iterated (P : ℕ → Prop) [DecidablePred P] (t : DbUpdate) (b : Backup D) :
    eventsOf P (p.iterated t b).server.trace = eventsOf P p.server.trace := by
  unfold Looping.iterated
  rw [eventsOf_append, eventsOf, eventsOf, List.filterMap_map]
  simp

/-- A step of a connection is the same step of the server. -/
theorem sameConnections_step {l : Label} {t : State D} (h : SameConnections s t) {s' : State D}
    (hl : l.isBackup = false) (hs : (server cfg).step s l = some s') :
    ∃ t', (server cfg).step t l = some t' ∧ SameConnections s' t' := by
  rcases step_cases hs with ⟨i, fd, rfl, hi, rfl⟩ | ⟨i, env, u, r, rfl, hu, hr, rfl⟩
    | ⟨clock, fails, rfl, -⟩
  · refine ⟨t.accepted i fd, ?_, ?_⟩
    · rw [h.thread] at hi
      simp only [server, if_pos hi]
    · constructor
      · simp only [State.accepted, h.client]
      · simp only [State.accepted, h.thread]
      · exact h.yourTable
      · exact h.events
  · refine ⟨t.turn i r, ?_, ?_⟩
    · rw [h.thread] at hu
      rw [h.client, h.yourTable] at hr
      simp only [server, hu, Option.bind_some, hr, Option.map_some]
    · constructor
      · simp only [State.turn, h.client]
      · simp only [State.turn, h.thread]
      · rfl
      · rw [eventsOf_turn _ s trivial, eventsOf_turn _ t trivial, h.events]
  · cases hl

variable (cfg) in
/-- An iteration is one pass of the server, or none. -/
theorem sameConnections_iterate {t : State D} (h : SameConnections p.server t) (it : Iteration)
    (u : DbUpdate) (start : Int) :
    ∃ ls t', (server cfg).Exec (fun _ _ => True) t ls t' ∧
      SameConnections (p.iterated u (backupOf cfg.updateThreadMaxNumClients p.server.client
        (it.passes start) p.server.yourTable)).server t' := by
  have hone : ∀ pass : Pass, SameConnections (p.iterated u (backupOf cfg.updateThreadMaxNumClients
      p.server.client [pass] p.server.yourTable)).server
      (t.backedUp cfg.updateThreadMaxNumClients pass.clock pass.sqlFails) := by
    intro pass
    constructor
    · exact h.client
    · exact h.thread
    · simp only [Looping.iterated, State.backedUp, backupOf, List.foldl_cons, List.foldl_nil,
        h.client, h.yourTable]
    · rw [eventsOf_iterated, eventsOf_backedUp, h.events]
  have hpass : ∀ pass : Pass, (server cfg).Exec (fun _ _ => True) t
      [.backup pass.clock pass.sqlFails]
      (t.backedUp cfg.updateThreadMaxNumClients pass.clock pass.sqlFails) :=
    fun pass => .cons trivial rfl .nil
  unfold Iteration.passes
  split_ifs
  · exact ⟨_, _, hpass it.returnPass, hone it.returnPass⟩
  · exact ⟨_, _, hpass it.pass, hone it.pass⟩
  · refine ⟨[], t, .nil, ?_⟩
    constructor
    · exact h.client
    · exact h.thread
    · exact h.yourTable
    · rw [eventsOf_iterated, h.events]

/-- **The loop refines the passes.**  What the connections see of a run beside the loop of
the backup thread, they see of a run of the server. -/
theorem server_of_withLoop {C : Looping D → LoopLabel → Prop} {rows : List Row} {now : Int}
    {ls : List LoopLabel} (h : (withLoop cfg).Exec C (.start rows now) ls p) :
    ∃ ls' s, (server cfg).Exec (fun _ _ => True) (.start rows) ls' s ∧
      SameConnections p.server s := by
  refine h.invariant (I := fun p => ∃ ls' s,
    (server cfg).Exec (fun _ _ => True) (.start rows) ls' s ∧ SameConnections p.server s)
    ⟨[], .start rows, .nil, rfl, rfl, rfl, rfl⟩ ?_
  rintro p l q - ⟨ls', t, hexec, hsame⟩ hs
  rcases withLoop_cases hs with ⟨l', s, rfl, hl, hstep, rfl⟩ | ⟨it, flag, rfl, -, rfl⟩
  · obtain ⟨t', ht', hsame'⟩ := sameConnections_step hsame hl hstep
    exact ⟨ls' ++ [l'], t', .snoc hexec trivial ht', hsame'⟩
  · obtain ⟨ls₂, t', hexec', hsame'⟩ := sameConnections_iterate cfg hsame it _
      p.dbUpdate.databaseBackupStartTime
    exact ⟨ls' ++ ls₂, t', hexec.append hexec', hsame'⟩

end Refinement

/-! ## One iteration -/

/-- No difference a walk computes leaves the range of `int`. -/
def Pass.InRange (n : ℕ) (client : ℕ → PangoData D) (pass : Pass) : Prop :=
  ∀ i < n, (client i).connected = true →
    InInt32 (toInt32 (pass.clock i) - (client i).timeStartParking)

/-- What a walk over the slots may make of a row: the last slot connected with its address
decides about the time used. -/
structure BackedUp (n : ℕ) (client : ℕ → PangoData D) (pass : Pass) (r r' : Row) : Prop where
  macAdr : r'.macAdr = r.macAdr
  location : r'.location = r.location
  written : ∀ i,
    IsGreatest {j | j < n ∧ (client j).connected = true ∧ (client j).mac = r.macAdr} i →
      r'.timeUsed = toInt32 (pass.clock i) - (client i).timeStartParking
  kept : (∀ j < n, (client j).connected = true → (client j).mac ≠ r.macAdr) →
    r'.timeUsed = r.timeUsed

theorem backedUp_row {n : ℕ} {client : ℕ → PangoData D} {pass : Pass}
    (hrange : pass.InRange n client) (r : Row) :
    BackedUp n client pass r (r.backedUp n client pass.clock) := by
  cases hlast : lastSlot client r.macAdr n with
  | none =>
    have hrow : r.backedUp n client pass.clock = r := by simp only [Row.backedUp, hlast]
    rw [hrow]
    refine ⟨rfl, rfl, fun i hi => ?_, fun _ => rfl⟩
    obtain ⟨hn, hcon, hmac⟩ := hi.1
    exact absurd hmac (lastSlot_eq_none_iff.mp hlast i hn hcon)
  | some k =>
    have hgreatest := isGreatest_of_lastSlot hlast
    obtain ⟨hk, hcon, hmac⟩ := hgreatest.1
    have hrow : r.backedUp n client pass.clock
        = r.setTimeUsed (toInt32 (pass.clock k) - (client k).timeStartParking) := by
      simp only [Row.backedUp, hlast, secondsBackedUp, toInt32_of_mem (hrange k hk hcon)]
    rw [hrow]
    refine ⟨rfl, rfl, fun i hi => ?_, fun hnone => absurd hmac (hnone k hk hcon)⟩
    rw [hi.unique hgreatest]
    rfl

theorem forall₂_updateClients {n : ℕ} {client : ℕ → PangoData D} {pass : Pass}
    (hrange : pass.InRange n client) (rows : List Row) :
    List.Forall₂ (BackedUp n client pass) rows (updateClients n client pass.clock [] rows) := by
  rw [updateClients_eq_map, List.forall₂_map_right_iff, List.forall₂_same]
  exact fun r _ => backedUp_row hrange r

/-- **One iteration, exactly.**  The loop walks over the slots once if it is to return or
the time is a multiple of the interval, and not at all otherwise; it ends if it is to
return.  A walk writes, of the rows of each address, the time used of the last slot that is
connected with it, and changes nothing else. -/
theorem backup_iteration [CDouble D] {cfg : Config D} {p : Looping D} {it : Iteration}
    (hquit : p.dbUpdate.quitLoopFlag = false)
    (hnow : InInt32 (toInt32 it.now - p.dbUpdate.databaseBackupStartTime))
    (hpass : ∀ pass ∈ [it.returnPass, it.pass],
      pass.InRange cfg.updateThreadMaxNumClients p.server.client ∧ pass.sqlFails = []) :
    ∃ q, (withLoop cfg).step p (.iterate it) = some q ∧
      (q.Ended cfg ↔ it.returnThread = StatementStatus.true) ∧
      q.server.client = p.server.client ∧
      if it.returnThread = StatementStatus.true ∨
          numberOfSecondsBetweenBackups ∣ toInt32 it.now - p.dbUpdate.databaseBackupStartTime then
        ∃ pass ∈ [it.returnPass, it.pass], q.passes = p.passes ++ [pass] ∧
          List.Forall₂ (BackedUp cfg.updateThreadMaxNumClients p.server.client pass)
            p.server.yourTable q.server.yourTable
      else q.passes = p.passes ∧ q.server.yourTable = p.server.yourTable := by
  obtain ⟨flag, hstep⟩ := withLoop_iterate cfg hquit it
  refine ⟨_, hstep, ?_, rfl, ?_⟩
  · rw [ended_iff]
    exact decide_eq_true_iff
  · have htime := timeToBackup_iff p.dbUpdate.databaseBackupStartTime it.now
    rw [toInt32_of_mem hnow] at htime
    have hwalk : ∀ pass ∈ [it.returnPass, it.pass],
        List.Forall₂ (BackedUp cfg.updateThreadMaxNumClients p.server.client pass)
          p.server.yourTable (updateClients cfg.updateThreadMaxNumClients p.server.client
            pass.clock pass.sqlFails p.server.yourTable) := by
      intro pass hmem
      obtain ⟨hrange, hok⟩ := hpass pass hmem
      rw [hok]
      exact forall₂_updateClients hrange _
    unfold Looping.iterated Iteration.passes backupOf
    by_cases hret : it.returnThread = StatementStatus.true
    · rw [if_pos (.inl hret)]
      simp only [if_pos hret]
      exact ⟨it.returnPass, List.mem_cons_self, rfl, hwalk _ List.mem_cons_self⟩
    · by_cases hmul : timeToBackup p.dbUpdate.databaseBackupStartTime it.now = true
      · rw [if_pos (.inr (htime.mp hmul))]
        simp only [if_neg hret, if_pos hmul]
        have hmem : it.pass ∈ [it.returnPass, it.pass] := by simp
        exact ⟨it.pass, hmem, rfl, hwalk _ hmem⟩
      · rw [if_neg (not_or.mpr ⟨hret, mt htime.mpr hmul⟩)]
        simp only [if_neg hret, if_neg hmul, List.append_nil, List.foldl_nil]
        exact ⟨trivial, trivial⟩

/-- Three slots: the first and the last are connected for one device. -/
def threeSlots : ℕ → PangoData Int
  | 0 => { PangoData.zero with timeStartParking := 40, connected := true }
  | 2 => { PangoData.zero with timeStartParking := 90, connected := true }
  | _ => .zero

/-- The loop has started at 100 and finds them, with a row of the device. -/
def threeSlotsLooping : Looping Int where
  server := { State.start [⟨[], 7, ashkelon⟩] with client := threeSlots }
  dbUpdate := { databaseBackupStartTime := setStartTime 100 }
  passes := []

/-- At 110 it makes a walk, and the last slot decides. -/
theorem backup_iteration_of_threeSlots :
    ∃ q r, (withLoop ⟨10, []⟩).step threeSlotsLooping
        (.iterate ⟨0, 110, ⟨fun _ => 110, []⟩, ⟨fun _ => 110, []⟩⟩) = some q ∧
      q.server.yourTable = [r] ∧ r.timeUsed = 20 := by
  have hpass : ∀ pass ∈ [(⟨fun _ => 110, []⟩ : Pass), ⟨fun _ => 110, []⟩],
      pass.InRange 10 threeSlotsLooping.server.client ∧ pass.sqlFails = [] := by
    have hrange : (⟨fun _ => 110, []⟩ : Pass).InRange 10 threeSlotsLooping.server.client := by
      unfold Pass.InRange
      decide
    intro pass hmem
    simp only [List.mem_cons, List.not_mem_nil, or_false, or_self] at hmem
    subst hmem
    exact ⟨hrange, rfl⟩
  obtain ⟨q, hstep, -, -, hq⟩ := @backup_iteration Int _ ⟨10, []⟩ threeSlotsLooping
    ⟨0, 110, ⟨fun _ => 110, []⟩, ⟨fun _ => 110, []⟩⟩ rfl (by decide) hpass
  rw [if_pos (by decide)] at hq
  obtain ⟨pass, hmem, -, hrows⟩ := hq
  obtain ⟨r, _, hrow, hnil, hrows⟩ := List.forall₂_cons_left_iff.mp hrows
  have hgreatest : IsGreatest {j | j < 10 ∧ (threeSlots j).connected = true ∧
      (threeSlots j).mac = []} 2 := by
    refine ⟨by decide, ?_⟩
    rintro j ⟨hj, hslot⟩
    have hall : ∀ j < 10, (threeSlots j).connected = true ∧ (threeSlots j).mac = [] → j ≤ 2 := by
      decide
    exact hall j hj hslot
  refine ⟨q, r, hstep, ?_, ?_⟩
  · rw [hrows, List.forall₂_nil_left_iff.mp hnil]
  · rw [hrow.written 2 hgreatest]
    simp only [List.mem_cons, List.not_mem_nil, or_false, or_self] at hmem
    subst hmem
    rfl

end Pango.Server
