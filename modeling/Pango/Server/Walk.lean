import Pango.Server.Mutex

/-!
# A backup pass, slot by slot

`update_clients` goes over the slots one after the other while the other threads
go on: the mutex keeps them out of their critical sections only.  Here the pass is
taken apart.  `walk` visits one slot in a step, and between two visits any
connection may accept, receive, check a frame, look its client up, read the clock,
send, or mark its slot connected.

* `free_pangoClientStep` — outside the critical sections a thread does not write
  the table, and reads no more of it than which addresses are in it.
* `moved_step` — what a slot ahead of the pass does may be done before the pass.
* `walk_atomic` — **a pass is atomic**: whatever comes between its visits, every
  run is one of the server whose passes are single steps, up to the order in which
  different threads act.
-/

namespace Pango.Server

variable {D : Type*}

/-! ## The pass, taken apart -/

/-- Does the step at this point lock the mutex? -/
def Pc.locks : Pc → Bool
  | .lost | .retriev | .process | .close | .remove | .update => true
  | _ => false

/-- The label is none of the backup thread, and not a step into a critical section. -/
def Label.Free (s : State D) : Label → Prop
  | .accept .. => True
  | .client i _ => ∀ t ∈ s.thread i, t.pc.locks = false
  | .backup .. => False

instance (s : State D) : (l : Label) → Decidable (l.Free s)
  | .accept .. => isTrue trivial
  | .client i _ => inferInstanceAs (Decidable (∀ t ∈ s.thread i, _))
  | .backup .. => isFalse id

/-- The server and the pass under way, if there is one: the slot it comes to next. -/
structure Walking (D : Type*) where
  server : State D
  next : Option ℕ

/-- Who moves. -/
inductive WalkLabel
  | other (l : Label)
  /-- `pthread_mutex_lock` of the backup thread. -/
  | lock
  /-- One turn of the loop of `update_clients`. -/
  | visit (now : Int) (sqlFails : Bool)
  | unlock

/-- The actions of a visit. -/
def visitEvents (client : PangoData D) (now : Int) (sqlFails : Bool) : List (Event D) :=
  if client.connected = true then
    [.clock .updateClients now, .exec (backupStmt client now) (!sqlFails)]
  else []

namespace State

/-- The backup thread has done something that leaves the table alone. -/
def noted (s : State D) (e : Event D) : State D := { s with trace := s.trace ++ [(.dbUpdate, e)] }

/-- A visit of slot `k`. -/
def visited (s : State D) (k : ℕ) (now : Int) (sqlFails : Bool) : State D :=
  { s with
    yourTable := updateClientsTurn s.client (fun _ => now) (if sqlFails then [k] else [])
      s.yourTable k
    trace := s.trace ++ (visitEvents (s.client k) now sqlFails).map (Prod.mk .dbUpdate) }

end State

/-- The server whose passes visit the slots one by one. -/
def walk [CDouble D] (cfg : Config D) : Lts (Walking D) WalkLabel where
  step p
    | .other l =>
      if l.isBackup = true ∨ p.next ≠ none ∧ ¬ l.Free p.server then none
      else ((server cfg).step p.server l).map fun s => { p with server := s }
    | .lock => if p.next = none then some ⟨p.server.noted .lock, some 0⟩ else none
    | .visit now sqlFails => p.next.bind fun k =>
        if k < cfg.updateThreadMaxNumClients then
          some ⟨p.server.visited k now sqlFails, some (k + 1)⟩
        else none
    | .unlock =>
      if p.next = some cfg.updateThreadMaxNumClients then some ⟨p.server.noted .unlock, none⟩
      else none

/-- No pass is under way yet. -/
def Walking.start [CDouble D] (rows : List Row) : Walking D := ⟨.start rows, none⟩

section Cases

variable [CDouble D] {cfg : Config D} {p q : Walking D} {l : WalkLabel}

theorem walk_cases (h : (walk cfg).step p l = some q) :
    (∃ l' s, l = .other l' ∧ l'.isBackup = false ∧ (p.next ≠ none → l'.Free p.server) ∧
      (server cfg).step p.server l' = some s ∧ q = ⟨s, p.next⟩)
    ∨ (l = .lock ∧ p.next = none ∧ q = ⟨p.server.noted .lock, some 0⟩)
    ∨ (∃ now sqlFails k, l = .visit now sqlFails ∧ p.next = some k ∧
      k < cfg.updateThreadMaxNumClients ∧ q = ⟨p.server.visited k now sqlFails, some (k + 1)⟩)
    ∨ (l = .unlock ∧ p.next = some cfg.updateThreadMaxNumClients ∧
      q = ⟨p.server.noted .unlock, none⟩) := by
  cases l with
  | other l' =>
    simp only [walk] at h
    split at h
    · cases h
    · rename_i hl
      rw [not_or, not_and, not_not, Bool.not_eq_true] at hl
      obtain ⟨s, hs, rfl⟩ := Option.map_eq_some_iff.mp h
      exact .inl ⟨l', s, rfl, hl.1, hl.2, hs, rfl⟩
  | lock =>
    simp only [walk] at h
    split at h
    · rename_i hp
      exact .inr (.inl ⟨rfl, hp, (Option.some.inj h).symm⟩)
    · cases h
  | visit now sqlFails =>
    obtain ⟨k, hk, h⟩ := Option.bind_eq_some_iff.mp h
    split at h
    · rename_i hlt
      exact .inr (.inr (.inl ⟨now, sqlFails, k, rfl, hk, hlt, (Option.some.inj h).symm⟩))
    · cases h
  | unlock =>
    simp only [walk] at h
    split at h
    · rename_i hp
      exact .inr (.inr (.inr ⟨rfl, hp, (Option.some.inj h).symm⟩))
    · cases h

end Cases

/-! ## Outside the critical sections -/

section Free

variable [CDouble D] {cfg : Config D} {env : Env} {client : PangoData D} {t : Thread}
  {rows : List Row} {r : Turn D}

/-- The program points named are those whose step locks the mutex. -/
theorem lock_mem_events (h : pangoClientStep cfg env client t rows = some r) :
    Event.lock ∈ r.events ↔ t.pc.locks = true := by
  cases hpc : t.pc with
  | recv | check =>
    simp only [pangoClientStep, hpc] at h
    split at h <;> cases h <;> simp [Pc.locks]
  | retriev =>
    have hlock : Event.lock ∈ (retrievClientData cfg env client t.status rows).events := by
      unfold retrievClientData
      dsimp only
      split_ifs <;> simp
    simp only [pangoClientStep, hpc] at h
    split at h <;> cases h <;> simpa [Pc.locks] using hlock
  | process =>
    have hlock : Event.lock ∈ (processClientData cfg env client t.status rows).events := by
      unfold processClientData
      dsimp only
      split_ifs <;> simp
    simp only [pangoClientStep, hpc] at h
    cases h
    simpa [Pc.locks] using hlock
  | lost | exist | init | sendLocation | setConnected | close | pay | remove | update | sendErrMsg
  | closeFd =>
    simp only [pangoClientStep, hpc] at h
    cases h
    simp [Pc.locks]
  | done => simp [pangoClientStep, hpc] at h

/-- Two tables with the same addresses have rows for the same clients. -/
theorem isEmpty_selectMac_congr {rows rows' : List Row}
    (h : rows.map Row.macAdr = rows'.map Row.macAdr) (mac : List UInt8) :
    (selectMac mac rows).isEmpty = (selectMac mac rows').isEmpty := by
  have hmem : ∀ rows : List Row, (selectMac mac rows).isEmpty = true
      ↔ mac ∉ rows.map Row.macAdr := by
    intro rows
    rw [List.isEmpty_iff, selectMac, KeyedTable.select_eq_nil]
    simp
  rw [Bool.eq_iff_iff, hmem, hmem, h]

/-- **A step outside the critical sections** leaves the table alone, and does the same over
any table with the same addresses. -/
theorem free_pangoClientStep (hfree : t.pc.locks = false)
    (h : pangoClientStep cfg env client t rows = some r) :
    r.yourTable = rows ∧ ∀ rows', rows.map Row.macAdr = rows'.map Row.macAdr →
      pangoClientStep cfg env client t rows' = some { r with yourTable := rows' } := by
  cases hpc : t.pc with
  | recv =>
    simp only [pangoClientStep, hpc] at h ⊢
    split at h <;> cases h <;> exact ⟨rfl, fun _ _ => rfl⟩
  | check =>
    simp only [pangoClientStep, hpc] at h ⊢
    split at h <;> cases h
    · rename_i hv
      exact ⟨rfl, fun _ _ => if_pos hv⟩
    · rename_i hv
      exact ⟨rfl, fun _ _ => if_neg hv⟩
  | exist =>
    simp only [pangoClientStep, hpc, clinetExistInDatabaseCheck_eq] at h ⊢
    cases h
    refine ⟨rfl, fun rows' hkeys => ?_⟩
    rw [isEmpty_selectMac_congr hkeys]
  | init | sendLocation | setConnected | pay | sendErrMsg | closeFd =>
    simp only [pangoClientStep, hpc] at h ⊢
    cases h
    exact ⟨rfl, fun _ _ => rfl⟩
  | lost | retriev | process | close | remove | update =>
    rw [hpc] at hfree
    cases hfree
  | done => simp [pangoClientStep, hpc] at h

end Free

/-! ## Moving the steps of one connection -/

/-- The slot a label is about. -/
def Label.slot : Label → Option ℕ
  | .accept i _ | .client i _ => some i
  | .backup .. => none

/-- The labels of one connection, in order. -/
def stepsOf (i : ℕ) (ls : List Label) : List Label := ls.filter fun l => l.slot = some i

/-- A condition on the steps of the connections, each in terms of its slot and thread. -/
def Meets (K : ℕ → PangoData D → Thread → Env → Prop) (s : State D) : Label → Prop
  | .client i env => ∀ t ∈ s.thread i, K i (s.client i) t env
  | _ => True

/-- The same for the labels that do not belong to the pass. -/
def WalkMeets (K : ℕ → PangoData D → Thread → Env → Prop) (p : Walking D) : WalkLabel → Prop
  | .other l => Meets K p.server l
  | _ => True

instance (K : ℕ → PangoData D → Thread → Env → Prop) [∀ i c t env, Decidable (K i c t env)]
    (s : State D) : (l : Label) → Decidable (Meets K s l)
  | .client i env => inferInstanceAs (Decidable (∀ t ∈ s.thread i, K i (s.client i) t env))
  | .accept .. | .backup .. => isTrue trivial

instance (K : ℕ → PangoData D → Thread → Env → Prop) [∀ i c t env, Decidable (K i c t env)]
    (p : Walking D) : (l : WalkLabel) → Decidable (WalkMeets K p l)
  | .other l => inferInstanceAs (Decidable (Meets K p.server l))
  | .lock | .visit .. | .unlock => isTrue trivial

/-- The labels that do not belong to a pass. -/
def others (ls : List WalkLabel) : List Label := ls.filterMap fun
  | .other l => some l
  | _ => none

/-- A connection has moved: its slot and its thread are now these, and it has done this. -/
structure Moved (i : ℕ) (client : PangoData D) (t : Thread) (events : List (Event D))
    (s s' : State D) : Prop where
  client : s'.client = Function.update s.client i client
  thread : s'.thread = Function.update s.thread i (some t)
  yourTable : s'.yourTable = s.yourTable
  own : ∀ j, own j s' = if j = i then own j s ++ events else own j s
  ownDbUpdate : ownDbUpdate s' = ownDbUpdate s

/-- Two servers with the same connections. -/
structure Matching (s s' : State D) : Prop where
  client : s'.client = s.client
  thread : s'.thread = s.thread
  own : ∀ j, own j s' = own j s

section Moves

variable [CDouble D] {cfg : Config D} {K : ℕ → PangoData D → Thread → Env → Prop}
  {s s' w w' : State D} {i j : ℕ} {l : Label}

/-- **A step outside the critical sections** moves its connection, and moves it in the same
way on every server on which it stands in the same place and the same clients are known. -/
theorem free_step (hfree : l.Free s) (hj : l.slot = some j) (h : (server cfg).step s l = some w) :
    ∃ client t events, ∀ s' : State D, s'.client j = s.client j → s'.thread j = s.thread j →
      s.yourTable.map Row.macAdr = s'.yourTable.map Row.macAdr →
      ∃ w', (server cfg).step s' l = some w' ∧ Moved j client t events s' w' := by
  rcases step_cases h with ⟨i, fd, rfl, hi, -⟩ | ⟨i, env, t, r, rfl, ht, hr, -⟩ | ⟨c, f, rfl, -⟩
  · cases hj
    refine ⟨{ s.client j with clientFd := UInt8.ofInt fd }, {}, [], fun s' hc ht _ => ?_⟩
    rw [hi] at ht
    refine ⟨s'.accepted j fd, by simp only [server, if_pos ht], ?_⟩
    constructor
    · simp only [State.accepted, hc]
    · rfl
    · rfl
    · intro k
      rw [own_accepted, List.append_nil, ite_self]
    · rfl
  · cases hj
    obtain ⟨hrows, hcongr⟩ := free_pangoClientStep (hfree t ht) hr
    refine ⟨r.client, r.thread, r.events, fun s' hc hu hkeys => ?_⟩
    have hstep : (server cfg).step s' (.client j env)
        = some (s'.turn j { r with yourTable := s'.yourTable }) := by
      simp only [server, hu, ht, hc, Option.bind_some, hcongr _ hkeys, Option.map_some]
    refine ⟨_, hstep, ?_⟩
    constructor
    · rfl
    · rfl
    · rfl
    · intro k
      by_cases hk : k = j
      · subst hk
        rw [own_turn_self, if_pos rfl]
      · rw [own_turn_of_ne s' hk, if_neg hk]
    · exact ownDbUpdate_turn s' j _
  · cases hj

omit [CDouble D] in
/-- What a label needs to be free and to meet a condition lies in its own connection. -/
theorem free_meets_congr (hj : l.slot = some j) (hc : s'.client j = s.client j)
    (ht : s'.thread j = s.thread j) : (l.Free s' ↔ l.Free s) ∧ (Meets K s' l ↔ Meets K s l) := by
  cases l with
  | accept i fd => exact ⟨Iff.rfl, Iff.rfl⟩
  | client i env =>
    cases hj
    simp only [Label.Free, Meets, hc, ht, and_self]
  | backup clock fails => cases hj

omit [CDouble D] in
/-- Matching servers on which a connection moves in the same way still match. -/
theorem Matching.moved {client : PangoData D} {t : Thread} {events : List (Event D)}
    (h : Matching s s') (hs : Moved j client t events s w) (hs' : Moved j client t events s' w') :
    Matching w w' where
  client := by rw [hs.client, hs'.client, h.client]
  thread := by rw [hs.thread, hs'.thread, h.thread]
  own k := by rw [hs.own, hs'.own, h.own]

omit [CDouble D] in
/-- Two different connections move independently. -/
theorem Moved.swap {client client' : PangoData D} {t t' : Thread} {events events' : List (Event D)}
    (hij : i ≠ j) (h : Moved i client t events s s') (hs : Moved j client' t' events' s w)
    (hs' : Moved j client' t' events' s' w') : Moved i client t events w w' where
  client := by rw [hs'.client, h.client, hs.client, Function.update_comm hij]
  thread := by rw [hs'.thread, h.thread, hs.thread, Function.update_comm hij]
  yourTable := by rw [hs'.yourTable, h.yourTable, hs.yourTable]
  own k := by
    rw [hs'.own, hs.own, h.own]
    by_cases hki : k = i
    · have hkj : k ≠ j := fun hkj => hij (hki.symm.trans hkj)
      rw [if_pos hki, if_neg hkj, if_neg hkj, if_pos hki]
    · rw [if_neg hki, if_neg hki]
  ownDbUpdate := by rw [hs'.ownDbUpdate, h.ownDbUpdate, hs.ownDbUpdate]

/-- A step of the run behind a pass: of a slot the pass has left behind, and outside the
critical sections. -/
def Behind (K : ℕ → PangoData D → Thread → Env → Prop) (k : ℕ) (s : State D) (l : Label) : Prop :=
  (l.Free s ∧ ∃ j < k, l.slot = some j) ∧ Meets K s l

/-- **A slot ahead of the pass** may move before everything that happens behind it. -/
theorem moved_step {client : PangoData D} {t : Thread} {events : List (Event D)} {k : ℕ}
    (hi : k ≤ i) (h : Moved i client t events s s') (hl : Behind K k s l)
    (hs : (server cfg).step s l = some w) :
    Behind K k s' l ∧ ∃ w', (server cfg).step s' l = some w' ∧ Moved i client t events w w' := by
  obtain ⟨⟨hfree, j, hjk, hj⟩, hK⟩ := hl
  have hij : i ≠ j := by omega
  have hc : s'.client j = s.client j := by rw [h.client, Function.update_of_ne hij.symm]
  have ht : s'.thread j = s.thread j := by rw [h.thread, Function.update_of_ne hij.symm]
  obtain ⟨hfree', hK'⟩ := free_meets_congr (K := K) hj hc ht
  obtain ⟨c, u, evs, hmove⟩ := free_step hfree hj hs
  obtain ⟨w₀, hw₀, hmoved⟩ := hmove s rfl rfl rfl
  obtain ⟨w', hw', hmoved'⟩ := hmove s' hc ht (by rw [h.yourTable])
  obtain rfl := Option.some.inj (hw₀.symm.trans hs)
  exact ⟨⟨⟨hfree'.mpr hfree, j, hjk, hj⟩, hK'.mpr hK⟩, w', hw', h.swap hij hmoved hmoved'⟩

/-- **What happens behind the pass** may as well happen after it: the same clients are known
then. -/
theorem matching_step {k : ℕ} (h : Matching s s')
    (hkeys : s.yourTable.map Row.macAdr = s'.yourTable.map Row.macAdr) (hl : Behind K k s l)
    (hs : (server cfg).step s l = some w) :
    Behind K k s' l ∧ ∃ w', (server cfg).step s' l = some w' ∧ Matching w w' ∧
      w.yourTable = s.yourTable ∧ w'.yourTable = s'.yourTable ∧
      ownDbUpdate w = ownDbUpdate s ∧ ownDbUpdate w' = ownDbUpdate s' := by
  obtain ⟨⟨hfree, j, hjk, hj⟩, hK⟩ := hl
  obtain ⟨hfree', hK'⟩ := free_meets_congr (K := K) hj (congrFun h.client j) (congrFun h.thread j)
  obtain ⟨c, u, evs, hmove⟩ := free_step hfree hj hs
  obtain ⟨w₀, hw₀, hmoved⟩ := hmove s rfl rfl rfl
  obtain ⟨w', hw', hmoved'⟩ := hmove s' (congrFun h.client j) (congrFun h.thread j) hkeys
  obtain rfl := Option.some.inj (hw₀.symm.trans hs)
  exact ⟨⟨⟨hfree'.mpr hfree, j, hjk, hj⟩, hK'.mpr hK⟩, w', hw', h.moved hmoved hmoved',
    hmoved.yourTable, hmoved'.yourTable, hmoved.ownDbUpdate, hmoved'.ownDbUpdate⟩

end Moves

/-! ## What has been visited -/

section Visited

variable {client client' : ℕ → PangoData D} {clock clock' : ℕ → Int} {fails fails' : List ℕ}
  {n k : ℕ}

/-- A pass looks at the slots it visits only. -/
theorem updateClients_congr (h : ∀ i < n, client i = client' i ∧ clock i = clock' i ∧
    (i ∈ fails ↔ i ∈ fails')) (rows : List Row) :
    updateClients n client clock fails rows = updateClients n client' clock' fails' rows ∧
      updateClientsStmts n client clock fails = updateClientsStmts n client' clock' fails' := by
  induction n with
  | zero => exact ⟨rfl, rfl⟩
  | succ n ih =>
    obtain ⟨htable, hstmts⟩ := ih fun i hi => h i (Nat.lt_succ_of_lt hi)
    obtain ⟨hclient, hclock, hfails⟩ := h n (Nat.lt_succ_self n)
    constructor
    · rw [updateClients_succ, updateClients_succ, htable]
      simp only [updateClientsTurn, hclient, hclock, hfails]
    · unfold updateClientsStmts at hstmts ⊢
      rw [List.range_succ, List.flatMap_append, List.flatMap_append, hstmts]
      simp only [List.flatMap_cons, List.flatMap_nil, slotEvents, hclient, hclock, hfails]

/-- The answers of a pass with those of one visit more. -/
def withVisit (clock : ℕ → Int) (fails : List ℕ) (k : ℕ) (now : Int) (sqlFails : Bool) :
    (ℕ → Int) × List ℕ :=
  (Function.update clock k now, (if sqlFails then [k] else []) ++ fails.filter (· ≠ k))

theorem updateClients_visit (client : ℕ → PangoData D) (clock : ℕ → Int) (fails : List ℕ) (k : ℕ)
    (now : Int) (sqlFails : Bool) (rows : List Row) :
    let answers := withVisit clock fails k now sqlFails
    updateClientsTurn client (fun _ => now) (if sqlFails then [k] else [])
        (updateClients k client clock fails rows) k
      = updateClients (k + 1) client answers.1 answers.2 rows ∧
    updateClientsStmts k client clock fails ++ visitEvents (client k) now sqlFails
      = updateClientsStmts (k + 1) client answers.1 answers.2 := by
  intro answers
  have hclock : answers.1 k = now := Function.update_self ..
  have hfails : k ∈ answers.2 ↔ sqlFails = true := by
    cases sqlFails <;> simp [answers, withVisit]
  have hbefore : ∀ i < k, client i = client i ∧ clock i = answers.1 i ∧
      (i ∈ fails ↔ i ∈ answers.2) := by
    intro i hi
    have hik : i ≠ k := by omega
    refine ⟨rfl, (Function.update_of_ne hik _ _).symm, ?_⟩
    cases sqlFails <;> simp [answers, withVisit, hik]
  obtain ⟨htable, hstmts⟩ := updateClients_congr hbefore rows
  constructor
  · rw [updateClients_succ, ← htable]
    unfold updateClientsTurn
    cases sqlFails <;> simp [hclock, hfails]
  · unfold updateClientsStmts at hstmts ⊢
    rw [List.range_succ, List.flatMap_append, ← hstmts]
    unfold visitEvents
    cases sqlFails <;> simp [slotEvents, hclock, hfails]

/-- A pass takes no client out of the table, and brings none in. -/
theorem map_macAdr_updateClients (n : ℕ) (client : ℕ → PangoData D) (clock : ℕ → Int)
    (fails : List ℕ) (rows : List Row) :
    (updateClients n client clock fails rows).map Row.macAdr = rows.map Row.macAdr := by
  have h := congrArg (List.map Prod.fst) (map_updateClients n client clock fails rows)
  rw [List.map_map, List.map_map] at h
  exact h

end Visited

/-! ## The runs -/

/-- Two servers that differ at most in the order in which different threads have acted. -/
structure SameButOrder (s s' : State D) : Prop extends Matching s s' where
  yourTable : s'.yourTable = s.yourTable
  ownDbUpdate : ownDbUpdate s' = ownDbUpdate s

section Runs

variable [CDouble D] {cfg : Config D} {K : ℕ → PangoData D → Thread → Env → Prop}
  {rows : List Row} {ls : List WalkLabel}

variable (cfg K rows ls) in
/-- A pass has visited the slots below `k`.  What has happened since the mutex was locked can
be sorted: into what comes before the pass, `ls₁`, and what connections it has left behind
did, `ls₂`. -/
structure Midway (k : ℕ) (s : State D) (ls₁ ls₂ : List Label) (s₁ s₂ : State D)
    (clock : ℕ → Int) (fails : List ℕ) : Prop where
  before : (server cfg).Exec (Meets K) (.start rows) ls₁ s₁
  after : (server cfg).Exec (Behind K k) s₁ ls₂ s₂
  matching : Matching s s₂
  yourTable : s.yourTable = updateClients k s₁.client clock fails s₁.yourTable
  yourTable_after : s₂.yourTable = s₁.yourTable
  ownDbUpdate : ownDbUpdate s
    = ownDbUpdate s₁ ++ .lock :: updateClientsStmts k s₁.client clock fails
  ahead : ∀ j, k ≤ j → s₁.client j = s₂.client j ∧ s₁.thread j = s₂.thread j
  steps : ∀ j, stepsOf j (ls₁ ++ ls₂) = stepsOf j (others ls)

variable (cfg K rows ls) in
/-- Between two passes the run is one of the server, and while a pass is under way it can be
sorted into what comes before it and after it. -/
def Sorted (p : Walking D) : Prop :=
  match p.next with
  | none => ∃ ls' s, (server cfg).Exec (Meets K) (.start rows) ls' s ∧ SameButOrder s p.server ∧
      ∀ j, stepsOf j ls' = stepsOf j (others ls)
  | some k => ∃ ls₁ ls₂ s₁ s₂ clock fails,
      Midway cfg K rows ls k p.server ls₁ ls₂ s₁ s₂ clock fails

theorem stepsOf_append (j : ℕ) (a b : List Label) :
    stepsOf j (a ++ b) = stepsOf j a ++ stepsOf j b := List.filter_append ..

theorem stepsOf_single_of_ne {i j : ℕ} {l : Label} (hl : l.slot = some i) (hij : i ≠ j) :
    stepsOf j [l] = [] := by
  simp [stepsOf, hl, hij]

/-- Nothing behind the pass is about a slot ahead of it. -/
theorem stepsOf_of_behind {k j : ℕ} {s t : State D} {ls : List Label} (hj : k ≤ j)
    (h : (server cfg).Exec (Behind K k) s ls t) : stepsOf j ls = [] := by
  induction h with
  | nil => rfl
  | snoc _ hl _ ih =>
    obtain ⟨i, hi, hslot⟩ := hl.1.2
    rw [stepsOf_append, ih, stepsOf_single_of_ne hslot (by omega), List.nil_append]

/-- Between two passes a connection moves as on the server. -/
theorem sameButOrder_step {s s' w' : State D} {l : Label} (h : SameButOrder s s')
    (hl : l.isBackup = false) (hs : (server cfg).step s' l = some w') :
    ∃ w, (server cfg).step s l = some w ∧ SameButOrder w w' := by
  rcases step_cases hs with ⟨i, fd, rfl, hi, rfl⟩ | ⟨i, env, t, r, rfl, ht, hr, rfl⟩
    | ⟨c, f, rfl, -⟩
  · rw [h.thread] at hi
    refine ⟨s.accepted i fd, by simp only [server, if_pos hi], ⟨?_, ?_, ?_⟩, ?_, ?_⟩
    · simp only [State.accepted, h.client]
    · simp only [State.accepted, h.thread]
    · exact h.own
    · exact h.yourTable
    · exact h.ownDbUpdate
  · rw [h.thread] at ht
    rw [h.client, h.yourTable] at hr
    refine ⟨s.turn i r, by simp only [server, ht, Option.bind_some, hr, Option.map_some],
      ⟨?_, ?_, fun j => ?_⟩, rfl, ?_⟩
    · simp only [State.turn, h.client]
    · simp only [State.turn, h.thread]
    · by_cases hji : j = i
      · subst hji
        rw [own_turn_self, own_turn_self, h.own]
      · rw [own_turn_of_ne _ hji, own_turn_of_ne _ hji, h.own]
    · rw [ownDbUpdate_turn, ownDbUpdate_turn, h.ownDbUpdate]
  · cases hl

theorem others_snoc (ls : List WalkLabel) (l : Label) :
    others (ls ++ [.other l]) = others ls ++ [l] := by
  simp [others]

theorem others_snoc_of_pass (ls : List WalkLabel) {l : WalkLabel} (hl : ∀ l', l ≠ .other l') :
    others (ls ++ [l]) = others ls := by
  cases l with
  | other l' => exact absurd rfl (hl l')
  | lock | visit | unlock => simp [others]

omit [CDouble D] in
theorem ownDbUpdate_noted (s : State D) (e : Event D) :
    ownDbUpdate (s.noted e) = ownDbUpdate s ++ [e] := by
  simp [ownDbUpdate, State.noted]

omit [CDouble D] in
theorem own_noted (j : ℕ) (s : State D) (e : Event D) : own j (s.noted e) = own j s := by
  simp [own, eventsOf, State.noted]

omit [CDouble D] in
theorem ownDbUpdate_visited (s : State D) (k : ℕ) (now : Int) (sqlFails : Bool) :
    ownDbUpdate (s.visited k now sqlFails)
      = ownDbUpdate s ++ visitEvents (s.client k) now sqlFails := by
  simp [ownDbUpdate, State.visited, List.filterMap_map]

omit [CDouble D] in
theorem own_visited (j : ℕ) (s : State D) (k : ℕ) (now : Int) (sqlFails : Bool) :
    own j (s.visited k now sqlFails) = own j s := by
  simp [own, eventsOf, State.visited, List.filterMap_map]

/-- **The mutex is locked**: nothing has happened behind the pass yet. -/
theorem midway_lock {ls' : List Label} {s s' : State D}
    (h : (server cfg).Exec (Meets K) (.start rows) ls' s) (hsame : SameButOrder s s')
    (hsteps : ∀ j, stepsOf j ls' = stepsOf j (others ls)) :
    Midway cfg K rows (ls ++ [.lock]) 0 (s'.noted .lock) ls' [] s s (fun _ => 0) [] where
  before := h
  after := .nil
  matching := ⟨hsame.client.symm, hsame.thread.symm, fun j => by rw [own_noted, hsame.own]⟩
  yourTable := hsame.yourTable
  yourTable_after := rfl
  ownDbUpdate := by
    rw [ownDbUpdate_noted, hsame.ownDbUpdate]
    rfl
  ahead _ _ := ⟨rfl, rfl⟩
  steps j := by
    rw [others_snoc_of_pass ls (by simp), List.append_nil]
    exact hsteps j

section Steps

variable {k : ℕ} {s s₁ s₂ : State D} {ls₁ ls₂ : List Label} {clock : ℕ → Int} {fails : List ℕ}

/-- **A visit** finds its slot as it was before the pass. -/
theorem midway_visit (h : Midway cfg K rows ls k s ls₁ ls₂ s₁ s₂ clock fails) (now : Int)
    (sqlFails : Bool) :
    let answers := withVisit clock fails k now sqlFails
    Midway cfg K rows (ls ++ [.visit now sqlFails]) (k + 1) (s.visited k now sqlFails) ls₁ ls₂ s₁ s₂
      answers.1 answers.2 := by
  intro answers
  have hslot : s.client k = s₁.client k := by
    rw [(h.ahead k le_rfl).1, h.matching.client]
  obtain ⟨htable, hstmts⟩ :=
    updateClients_visit s₁.client clock fails k now sqlFails s₁.yourTable
  refine ⟨h.before, h.after.mono ?_, ⟨h.matching.client, h.matching.thread, fun j => ?_⟩, ?_,
    h.yourTable_after, ?_, fun j hj => h.ahead j (by omega), fun j => ?_⟩
  · rintro t l ⟨⟨hfree, j, hj, hslot⟩, hK⟩
    exact ⟨⟨hfree, j, Nat.lt_succ_of_lt hj, hslot⟩, hK⟩
  · rw [own_visited, h.matching.own]
  · rw [← htable, ← h.yourTable]
    simp only [State.visited, updateClientsTurn, hslot]
  · rw [ownDbUpdate_visited, h.ownDbUpdate, hslot, List.append_assoc, List.cons_append, hstmts]
  · rw [others_snoc_of_pass ls (by simp)]
    exact h.steps j

/-- The connections find the same clients in the table as before the pass. -/
theorem Midway.map_macAdr (h : Midway cfg K rows ls k s ls₁ ls₂ s₁ s₂ clock fails) :
    s.yourTable.map Row.macAdr = s₁.yourTable.map Row.macAdr := by
  rw [h.yourTable, map_macAdr_updateClients]

/-- **A connection behind the pass moves**: its step comes after the pass. -/
theorem midway_behind (h : Midway cfg K rows ls k s ls₁ ls₂ s₁ s₂ clock fails) {l : Label}
    {w : State D} (hl : Behind K k s l) (hs : (server cfg).step s l = some w) :
    ∃ w₂, Midway cfg K rows (ls ++ [.other l]) k w ls₁ (ls₂ ++ [l]) s₁ w₂ clock fails := by
  obtain ⟨j, hjk, hj⟩ := hl.1.2
  have hkeys : s.yourTable.map Row.macAdr = s₂.yourTable.map Row.macAdr := by
    rw [h.map_macAdr, h.yourTable_after]
  obtain ⟨hl₂, w₂, hw₂, hmatch, htable, htable₂, hown, hown₂⟩ :=
    matching_step h.matching hkeys hl hs
  refine ⟨w₂, h.before, .snoc h.after hl₂ hw₂, hmatch, htable.trans h.yourTable,
    htable₂.trans h.yourTable_after, hown.trans h.ownDbUpdate, fun i hi => ?_, fun i => ?_⟩
  · -- a slot ahead of the pass is not the one that moves
    obtain ⟨hc, ht⟩ := h.ahead i hi
    obtain ⟨c, u, evs, hmove⟩ := free_step hl₂.1.1 hj hw₂
    obtain ⟨w', hw', hmoved⟩ := hmove s₂ rfl rfl rfl
    obtain rfl := Option.some.inj (hw₂.symm.trans hw')
    have hij : i ≠ j := by omega
    rw [hmoved.client, hmoved.thread, Function.update_of_ne hij, Function.update_of_ne hij]
    exact ⟨hc, ht⟩
  · rw [others_snoc, ← List.append_assoc, stepsOf_append, stepsOf_append i (others ls), h.steps]

/-- **A connection ahead of the pass moves**: its step comes before the pass, and before all
that has happened behind it. -/
theorem midway_ahead (h : Midway cfg K rows ls k s ls₁ ls₂ s₁ s₂ clock fails) {l : Label}
    {j : ℕ} {w : State D} (hfree : l.Free s) (hK : Meets K s l) (hj : l.slot = some j)
    (hkj : k ≤ j) (hs : (server cfg).step s l = some w) :
    ∃ w₁ w₂, Midway cfg K rows (ls ++ [.other l]) k w (ls₁ ++ [l]) ls₂ w₁ w₂ clock fails := by
  have hc : s₁.client j = s.client j := by rw [(h.ahead j hkj).1, h.matching.client]
  have ht : s₁.thread j = s.thread j := by rw [(h.ahead j hkj).2, h.matching.thread]
  obtain ⟨c, u, evs, hmove⟩ := free_step hfree hj hs
  obtain ⟨w', hw', hmoved⟩ := hmove s rfl rfl rfl
  obtain rfl := Option.some.inj (hw'.symm.trans hs)
  obtain ⟨w₁, hw₁, hmoved₁⟩ := hmove s₁ hc ht h.map_macAdr
  -- the run behind the pass is repeated with the connection moved
  obtain ⟨w₂, hafter, hmoved₂⟩ := h.after.project (N := server cfg) (K := Behind K k)
    (R := Moved j c u evs) some hmoved₁
    (fun t t' l l' v hl hR hl' hv => by
      obtain rfl := Option.some.inj hl'
      exact moved_step hkj hR hl hv)
    (fun _ _ _ _ _ _ hl _ => by cases hl)
  rw [List.filterMap_some] at hafter
  have hslots : ∀ i < k, s₁.client i = w₁.client i := by
    intro i hi
    rw [hmoved₁.client, Function.update_of_ne (by omega)]
  have hcongr : ∀ i < k, s₁.client i = w₁.client i ∧ clock i = clock i ∧ (i ∈ fails ↔ i ∈ fails) :=
    fun i hi => ⟨hslots i hi, rfl, Iff.rfl⟩
  obtain ⟨htable, hstmts⟩ := updateClients_congr hcongr s₁.yourTable
  refine ⟨w₁, w₂, .snoc h.before ((free_meets_congr hj hc ht).2.mpr hK) hw₁, hafter,
    h.matching.moved hmoved hmoved₂, ?_, ?_, ?_, fun i hi => ?_, fun i => ?_⟩
  · rw [hmoved.yourTable, h.yourTable, htable, hmoved₁.yourTable]
  · rw [hmoved₂.yourTable, h.yourTable_after, hmoved₁.yourTable]
  · rw [hmoved.ownDbUpdate, h.ownDbUpdate, hstmts, hmoved₁.ownDbUpdate]
  · obtain ⟨hci, hti⟩ := h.ahead i hi
    rw [hmoved₁.client, hmoved₁.thread, hmoved₂.client, hmoved₂.thread]
    by_cases hij : i = j
    · subst hij
      simp only [Function.update_self, and_self]
    · rw [Function.update_of_ne hij, Function.update_of_ne hij, Function.update_of_ne hij,
        Function.update_of_ne hij]
      exact ⟨hci, hti⟩
  · have hsteps := h.steps i
    rw [stepsOf_append] at hsteps
    rw [others_snoc, stepsOf_append, stepsOf_append, stepsOf_append i (others ls), ← hsteps]
    by_cases hij : i = j
    · subst hij
      rw [stepsOf_of_behind hkj h.after, List.append_nil, List.append_nil]
    · rw [stepsOf_single_of_ne hj (Ne.symm hij), List.append_nil, List.append_nil]

/-- **The mutex is unlocked**: what comes before the pass, the pass, and what happened behind
it are a run of the server. -/
theorem midway_unlock
    (h : Midway cfg K rows ls cfg.updateThreadMaxNumClients s ls₁ ls₂ s₁ s₂ clock fails) :
    ∃ s', (server cfg).Exec (Meets K) (.start rows) (ls₁ ++ .backup clock fails :: ls₂) s' ∧
      SameButOrder s' (s.noted .unlock) := by
  have hbackup : (server cfg).Exec (Meets K) (.start rows) (ls₁ ++ [.backup clock fails])
      (s₁.backedUp cfg.updateThreadMaxNumClients clock fails) := .snoc h.before trivial rfl
  set n := cfg.updateThreadMaxNumClients
  let R : State D → State D → Prop := fun t t' =>
    Matching t t' ∧ t'.yourTable = (s₁.backedUp n clock fails).yourTable ∧
      ownDbUpdate t' = ownDbUpdate (s₁.backedUp n clock fails) ∧ t.yourTable = s₁.yourTable
  have hinit : R s₁ (s₁.backedUp n clock fails) :=
    ⟨⟨rfl, rfl, fun j => own_backedUp s₁ j n clock fails⟩, rfl, rfl, rfl⟩
  obtain ⟨s', hafter, hmatch, htable, hown⟩ := h.after.project (N := server cfg) (K := Meets K)
    (R := R) some hinit
    (fun t t' l l' v hl hR hl' hv => by
      obtain rfl := Option.some.inj hl'
      obtain ⟨hmatch, htable', hown', htable⟩ := hR
      have hkeys : t.yourTable.map Row.macAdr = t'.yourTable.map Row.macAdr := by
        rw [htable, htable']
        exact (map_macAdr_updateClients ..).symm
      obtain ⟨hl', v', hv', hmatch', hv₁, hv₂, -, hv₃⟩ := matching_step hmatch hkeys hl hv
      exact ⟨hl'.2, v', hv', hmatch', hv₂.trans htable', hv₃.trans hown', hv₁.trans htable⟩)
    (fun _ _ _ _ _ _ hl _ => by cases hl)
  rw [List.filterMap_some] at hafter
  refine ⟨s', ?_, ⟨?_, ?_, fun j => ?_⟩, ?_, ?_⟩
  · rw [← List.singleton_append, ← List.append_assoc]
    exact hbackup.append hafter
  · exact (hmatch.client.trans h.matching.client).symm
  · exact (hmatch.thread.trans h.matching.thread).symm
  · rw [own_noted, hmatch.own, h.matching.own]
  · exact h.yourTable.trans htable.symm
  · rw [ownDbUpdate_noted, h.ownDbUpdate, hown.1]
    simp [ownDbUpdate, State.backedUp, updateClientsEvents,
      List.filterMap_append, List.filterMap_map]

end Steps

/-- Every run can be sorted. -/
theorem sorted_of_exec {p : Walking D} (h : (walk cfg).Exec (WalkMeets K) (.start rows) ls p) :
    Sorted cfg K rows ls p := by
  induction h with
  | nil => exact ⟨[], .start rows, .nil, ⟨⟨rfl, rfl, fun _ => rfl⟩, rfl, rfl⟩, fun _ => rfl⟩
  | @snoc ls p q l _ hK hs ih =>
    unfold Sorted at ih ⊢
    rcases walk_cases hs with ⟨l', w, rfl, hl, hfree, hstep, rfl⟩ | ⟨rfl, hp, rfl⟩
      | ⟨now, sqlFails, k, rfl, hp, -, rfl⟩ | ⟨rfl, hp, rfl⟩
    · cases hp : p.next with
      | none =>
        rw [hp] at ih
        obtain ⟨ls', s, hexec, hsame, hsteps⟩ := ih
        obtain ⟨s', hs', hsame'⟩ := sameButOrder_step hsame hl hstep
        have hK' : Meets K s l' := by
          cases l' with
          | client i env =>
            intro t ht
            have := hK t (by rw [hsame.thread]; exact ht)
            rwa [hsame.client] at this
          | accept | backup => trivial
        refine ⟨ls' ++ [l'], s', .snoc hexec hK' hs', hsame', fun j => ?_⟩
        rw [others_snoc, stepsOf_append, stepsOf_append, hsteps]
      | some k =>
        rw [hp] at ih
        obtain ⟨ls₁, ls₂, s₁, s₂, clock, fails, hmid⟩ := ih
        have hfree' := hfree (by simp [hp])
        obtain ⟨j, hj⟩ : ∃ j, l'.slot = some j := by
          cases l' with
          | accept i fd => exact ⟨i, rfl⟩
          | client i env => exact ⟨i, rfl⟩
          | backup clock fails => cases hl
        by_cases hjk : j < k
        · obtain ⟨w₂, hmid'⟩ := midway_behind hmid ⟨⟨hfree', j, hjk, hj⟩, hK⟩ hstep
          exact ⟨ls₁, ls₂ ++ [l'], s₁, w₂, clock, fails, hmid'⟩
        · obtain ⟨w₁, w₂, hmid'⟩ := midway_ahead hmid hfree' hK hj (not_lt.mp hjk) hstep
          exact ⟨ls₁ ++ [l'], ls₂, w₁, w₂, clock, fails, hmid'⟩
    · rw [hp] at ih
      obtain ⟨ls', s, hexec, hsame, hsteps⟩ := ih
      exact ⟨ls', [], s, s, _, _, midway_lock hexec hsame hsteps⟩
    · rw [hp] at ih
      obtain ⟨ls₁, ls₂, s₁, s₂, clock, fails, hmid⟩ := ih
      exact ⟨ls₁, ls₂, s₁, s₂, _, _, midway_visit hmid now sqlFails⟩
    · rw [hp] at ih
      obtain ⟨ls₁, ls₂, s₁, s₂, clock, fails, hmid⟩ := ih
      obtain ⟨s', hexec, hsame⟩ := midway_unlock hmid
      refine ⟨_, s', hexec, hsame, fun j => ?_⟩
      rw [others_snoc_of_pass ls (by simp), ← hmid.steps, stepsOf_append, stepsOf_append]
      rfl

/-- **A pass is atomic.**  Let the connections accept, receive, check, look up, read the clock,
send and mark their slots between any two visits of a pass.  Then at every moment without a
pass under way there is a run of the server whose passes are single steps, in which each
connection takes the same steps in the same order, and each of them under the same conditions,
and which ends with the same slots, threads and table, each thread and the backup thread
having done the same. -/
theorem walk_atomic {p : Walking D} (h : (walk cfg).Exec (WalkMeets K) (.start rows) ls p)
    (hp : p.next = none) :
    ∃ ls' s, (server cfg).Exec (Meets K) (.start rows) ls' s ∧ SameButOrder s p.server ∧
      ∀ j, stepsOf j ls' = stepsOf j (others ls) := by
  have hsorted := sorted_of_exec h
  unfold Sorted at hsorted
  rwa [hp] at hsorted

end Runs

/-- One device is parked.  While a pass is under way a second connection of it is accepted and
heard, behind the visit of the first slot and ahead of that of its own. -/
def walkedBetween : List WalkLabel :=
  (sampleStart 0 100).map .other ++
    [.lock, .visit 105 false, .other (.accept 1 5),
      .other (.client 1 { recv := recvFrame (sampleFrame startApp) }), .other (.client 1 {}),
      .visit 106 false, .unlock, .other (.client 1 {})]

/-- The second connection has found the row, with five seconds on it. -/
theorem walk_atomic_between : ∃ ls s, (server ⟨2, samplePrices.cityParking⟩).Exec
      (Meets fun _ _ _ env => env.sqlFails = []) (.start []) ls s ∧
    s.yourTable.map Row.timeUsed = [5] ∧ (s.thread 1).map Thread.pc = some .retriev := by
  have hrun : ((walk (⟨2, samplePrices.cityParking⟩ : Config Int)).runIf
      (WalkMeets fun _ _ _ env => env.sqlFails = []) (.start []) walkedBetween).map (fun p =>
        (p.next, p.server.yourTable.map Row.timeUsed, (p.server.thread 1).map Thread.pc))
      = some (none, [5], some .retriev) := by decide +kernel
  obtain ⟨p, hp, hparts⟩ := Option.map_eq_some_iff.mp hrun
  obtain ⟨hnext, hparts⟩ := Prod.mk.inj hparts
  obtain ⟨htable, hpc⟩ := Prod.mk.inj hparts
  obtain ⟨ls, s, hexec, hsame, -⟩ := walk_atomic (Lts.exec_of_runIf _ hp) hnext
  rw [hsame.yourTable] at htable
  rw [hsame.thread] at hpc
  exact ⟨ls, s, hexec, htable, hpc⟩

end Pango.Server
