import Pango.Server.Device
import Pango.Server.Framing

/-!
# The table and the record

Where the table comes from.  The record of the server is complete: no row changes but
by a statement in it.  And nothing in the table is made up: who is in it has asked for
it, from where it says.

Between the frame that asks and the statement that inserts lie several steps of the thread,
during which everything it needs is in its slot.  What has to be seen is that nobody else
writes there, and that the slot still says what the frame did; so much holds in every run,
whatever fails and however often devices collide.

* `journal` — the table is what the executed statements of the record make of the first
  one.
* `insert_origin` — what is inserted was asked for by the last frame that was checked.
* `row_origin` — so every row is one of the first table, or of a frame.
-/

namespace Pango.Server

variable {D : Type*}

/-! ## Redoing the record -/

/-- The statement an action has executed. -/
def Event.executed : Event D → Option Stmt
  | .exec stmt true => some stmt
  | _ => none

/-- The table the executed statements lead to. -/
def redo (events : List (Event D)) (rows : List Row) : List Row :=
  (events.filterMap Event.executed).foldl (fun rows stmt => stmt.apply rows) rows

theorem redo_append (a b : List (Event D)) (rows : List Row) :
    redo (a ++ b) rows = redo b (redo a rows) := by
  rw [redo, List.filterMap_append, List.foldl_append]
  rfl

theorem redo_exec (fails : Bool) (stmt : Stmt) (rows : List Row) :
    redo [(.exec stmt (!fails) : Event D)] rows = sqlite3Exec fails stmt rows := by
  cases fails <;> rfl

theorem redo_of_none {events : List (Event D)} (h : ∀ e ∈ events, e.executed = none)
    (rows : List Row) : redo events rows = rows := by
  rw [redo, List.filterMap_eq_nil_iff.mpr h]
  rfl

theorem redo_updateClientsEvents (n : ℕ) (client : ℕ → PangoData D) (clock : ℕ → Int)
    (sqlFails : List ℕ) (rows : List Row) :
    redo (updateClientsEvents n client clock sqlFails) rows
      = updateClients n client clock sqlFails rows := by
  have hslots : ∀ (slots : List ℕ) (rows : List Row),
      redo (slots.flatMap (slotEvents client clock sqlFails)) rows
        = slots.foldl (updateClientsTurn client clock sqlFails) rows := by
    intro slots
    induction slots with
    | nil => exact fun _ => rfl
    | cons i slots ih =>
      intro rows
      rw [List.flatMap_cons, redo_append, List.foldl_cons, ih, updateClientsTurn, slotEvents]
      split_ifs with hcon
      · have hok : decide (i ∉ sqlFails) = !decide (i ∈ sqlFails) := decide_not
        have hone : redo [(.clock .updateClients (clock i) : Event D),
            .exec (backupStmt (client i) (clock i)) (!decide (i ∈ sqlFails))] rows
              = sqlite3Exec (decide (i ∈ sqlFails)) (backupStmt (client i) (clock i)) rows :=
          redo_exec (D := D) _ _ rows
        rw [hok, hone]
      · rfl
  have hlock : ∀ (events : List (Event D)) (rows : List Row),
      redo (.lock :: events ++ [.unlock]) rows = redo events rows := by
    intro events rows
    rw [redo_append]
    rfl
  rw [updateClientsEvents, hlock, updateClientsStmts, hslots]
  rfl

section Step

variable [CDouble D] {cfg : Config D} {env : Env} {client : PangoData D} {t : Thread}
  {rows : List Row} {r : Turn D} {s s' : State D} {l : Label}

/-- **A step** changes the table by the statements it notes. -/
theorem redo_pangoClientStep (h : pangoClientStep cfg env client t rows = some r) :
    redo r.events rows = r.yourTable := by
  cases hpc : t.pc with
  | retriev =>
    have hkept := retrievClientData_yourTable cfg env client t.status rows
    have hnone : ∀ e ∈ (retrievClientData cfg env client t.status rows).events,
        e.executed = none := by
      unfold retrievClientData
      dsimp only
      split_ifs <;> simp [Event.executed]
    simp only [pangoClientStep, hpc] at h
    split at h <;> cases h <;> rw [hkept] <;> exact redo_of_none hnone rows
  | process =>
    simp only [pangoClientStep, hpc] at h
    cases h
    dsimp only
    unfold processClientData insertClientDataIntoDatabase
    dsimp only
    by_cases hprice : (retrieveParkingPricePerCityFromDatabase (env.fails 0) (env.fails 1)
        cfg.cityParking client).1 = .quit
    · rw [if_pos hprice]
      rfl
    · rw [if_neg hprice]
      cases env.fails 2 <;> rfl
  | close =>
    simp only [pangoClientStep, hpc, updateClientData] at h
    cases h
    dsimp only
    cases env.fails 0 <;> rfl
  | remove =>
    simp only [pangoClientStep, hpc, removeClientData] at h
    cases h
    dsimp only
    cases env.fails 0 <;> rfl
  | update =>
    simp only [pangoClientStep, hpc, updateClientData] at h
    cases h
    dsimp only
    cases env.fails 0 <;> rfl
  | recv | check =>
    simp only [pangoClientStep, hpc] at h
    split at h <;> cases h <;> rfl
  | lost | exist | init | sendLocation | setConnected | pay | sendErrMsg | closeFd =>
    simp only [pangoClientStep, hpc] at h
    cases h
    rfl
  | done => simp [pangoClientStep, hpc] at h

theorem journal_step (hJ : s.yourTable = redo (s.trace.map Prod.snd) rows)
    (h : (server cfg).step s l = some s') :
    s'.yourTable = redo (s'.trace.map Prod.snd) rows := by
  rcases step_cases h with ⟨i, fd, rfl, -, rfl⟩ | ⟨i, env, t, r, rfl, -, hr, rfl⟩
    | ⟨clock, sqlFails, rfl, rfl⟩
  · exact hJ
  · have hevents : (r.events.map (Prod.mk (Tid.client i))).map Prod.snd = r.events := by simp
    rw [State.turn, List.map_append, hevents, redo_append, ← hJ]
    exact (redo_pangoClientStep hr).symm
  · have hevents : ∀ es : List (Event D), (es.map (Prod.mk Tid.dbUpdate)).map Prod.snd = es :=
      fun es => by simp
    rw [State.backedUp, List.map_append, hevents, redo_append, ← hJ]
    exact (redo_updateClientsEvents _ _ _ _ _).symm

/-! ## Who is in the table -/

/-- The last frame that was checked. -/
def lastHanded (events : List (Event D)) : Option Frame :=
  (events.filterMap Event.handed).getLast?

/-- The row a start asks for. -/
def askedFor (f : Frame) : Row := ⟨macText f, 0, cityName f.x f.y⟩

/-- What has been inserted was asked for by the start before it. -/
def InsertsAskedFor (events : List (Event D)) : Prop :=
  ∀ before row ok after, events = before ++ .exec (.insert row) ok :: after →
    ∃ f, lastHanded before = some f ∧ CrcValid f ∧ f.status = startApp ∧ row = askedFor f

/-- Where a start is being handled, the slot holds what it said. -/
def Asking (client : PangoData D) (t : Thread) (events : List (Event D)) : Prop :=
  t.pc = .exist ∨ t.pc = .retriev ∨ t.pc = .init ∨ t.pc = .process →
    ∃ f, lastHanded events = some f ∧ CrcValid f ∧ f.status = startApp ∧
      client.mac = macText f ∧ client.xAxis = f.x ∧ client.yAxis = f.y ∧
      (t.pc = .process → cstr client.location.toList = cityName f.x f.y)

omit [CDouble D] in
theorem lastHanded_append {a b : List (Event D)} (h : ∀ e ∈ b, e.handed = none) :
    lastHanded (a ++ b) = lastHanded a := by
  rw [lastHanded, List.filterMap_append, List.filterMap_eq_nil_iff.mpr h, List.append_nil,
    lastHanded]

omit [CDouble D] in
theorem InsertsAskedFor.append {a b : List (Event D)} (h : InsertsAskedFor a)
    (hb : ∀ row ok, .exec (.insert row) ok ∉ b) : InsertsAskedFor (a ++ b) := by
  intro before row ok after heq
  rcases List.append_eq_append_iff.mp heq with ⟨c, rfl, hc⟩ | ⟨c, rfl, hc⟩
  · exact absurd (hc ▸ List.mem_append_right c List.mem_cons_self) (hb row ok)
  · cases c with
    | nil =>
      rw [List.nil_append] at hc
      exact absurd (hc ▸ List.mem_cons_self) (hb row ok)
    | cons e c =>
      cases hc
      exact h before _ _ c rfl

omit [CDouble D] in
theorem InsertsAskedFor.insert {a : List (Event D)} {f : Frame} (h : InsertsAskedFor a)
    (hlast : lastHanded a = some f) (hv : CrcValid f) (hst : f.status = startApp) (ok : Bool) :
    InsertsAskedFor (a ++ [.exec (.insert (askedFor f)) ok]) := by
  intro before row ok' after heq
  rcases List.append_eq_append_iff.mp heq with ⟨c, rfl, hc⟩ | ⟨c, rfl, hc⟩
  · obtain ⟨rfl, hc⟩ | ⟨c', rfl, hno⟩ := List.cons_eq_append_iff.mp hc
    · cases hc
      rw [List.append_nil]
      exact ⟨f, hlast, hv, hst, rfl⟩
    · exact absurd hno.symm (by simp)
  · cases c with
    | nil =>
      cases hc
      rw [List.append_nil] at hlast
      exact ⟨f, hlast, hv, hst, rfl⟩
    | cons e c =>
      cases hc
      exact h before _ _ c rfl

omit [CDouble D] in
/-- The critical section of a new client inserts what the slot says, or nothing. -/
theorem processClientData_inserts (cfg : Config D) (env : Env) (client : PangoData D)
    (status : UInt8) (rows : List Row) :
    (processClientData cfg env client status rows).events = [.lock, .unlock] ∨
      ∃ ok, (processClientData cfg env client status rows).events
        = [.lock, .exec (.insert (newRow client)) ok, .unlock] := by
  obtain ⟨p, hp⟩ := retrieveParkingPrice_client (env.fails 0) (env.fails 1) cfg.cityParking client
  have hrow : newRow { client with price := p } = newRow client := rfl
  unfold processClientData
  simp only [hp, hrow]
  split_ifs
  · exact .inl rfl
  · exact .inr ⟨_, rfl⟩
  · exact .inr ⟨_, rfl⟩

/-- A step inserts in the section of a new client only. -/
theorem inserts_pangoClientStep (hpc : t.pc ≠ .process)
    (h : pangoClientStep cfg env client t rows = some r) :
    ∀ row ok, .exec (.insert row) ok ∉ r.events := by
  cases hpc' : t.pc with
  | process => exact absurd hpc' hpc
  | retriev =>
    have hnone : ∀ row ok, .exec (.insert row) ok ∉
        (retrievClientData cfg env client t.status rows).events := by
      unfold retrievClientData
      dsimp only
      split_ifs <;> simp
    simp only [pangoClientStep, hpc'] at h
    split at h <;> cases h <;> exact hnone
  | recv | check =>
    simp only [pangoClientStep, hpc'] at h
    split at h <;> cases h <;> simp
  | lost | exist | init | sendLocation | setConnected | close | pay | remove | update | sendErrMsg
  | closeFd =>
    simp only [pangoClientStep, hpc', updateClientData, removeClientData] at h
    cases h
    simp
  | done => simp [pangoClientStep, hpc'] at h

/-- **A step** inserts what the slot says, and the slot says what was asked for. -/
theorem asking_pangoClientStep {events : List (Event D)} (hA : Asking client t events)
    (hI : InsertsAskedFor events) (h : pangoClientStep cfg env client t rows = some r) :
    Asking r.client r.thread (events ++ r.events) ∧ InsertsAskedFor (events ++ r.events) := by
  have hnext := pc_pangoClientStep h
  -- anywhere else the thread does not come to handle a start
  have hother : (∀ pc ∈ t.pc.next, pc ≠ .exist ∧ pc ≠ .retriev ∧ pc ≠ .init ∧ pc ≠ .process) →
      Asking r.client r.thread (events ++ r.events) := by
    intro hno hr
    obtain ⟨h1, h2, h3, h4⟩ := hno _ hnext
    rcases hr with hr | hr | hr | hr <;> contradiction
  cases hpc : t.pc with
  | process =>
    rw [hpc] at hother
    refine ⟨hother (by decide), ?_⟩
    obtain ⟨f, hlast, hv, hst, hmac, hx, hy, hloc⟩ := hA (.inr (.inr (.inr hpc)))
    have hrow : newRow client = askedFor f := by rw [newRow, askedFor, hmac, hloc hpc]
    have hevents : r.events = (processClientData cfg env client t.status rows).events := by
      simp only [pangoClientStep, hpc] at h
      cases h
      rfl
    rw [hevents]
    rcases processClientData_inserts cfg env client t.status rows with heq | ⟨ok, heq⟩ <;> rw [heq]
    · exact hI.append (by simp)
    · have hlocked : InsertsAskedFor (events ++ [.lock]) := hI.append (by simp)
      have hlast' : lastHanded (events ++ [.lock]) = some f :=
        (lastHanded_append (by simp [Event.handed])).trans hlast
      have hdone := (hlocked.insert hlast' hv hst ok).append (b := [.unlock]) (by simp)
      rw [hrow]
      simpa only [List.append_assoc, List.cons_append, List.nil_append] using hdone
  | exist =>
    refine ⟨?_, hI.append (inserts_pangoClientStep (by rw [hpc]; decide) h)⟩
    obtain ⟨f, hlast, hv, hst, hmac, hx, hy, -⟩ := hA (.inl hpc)
    simp only [pangoClientStep, hpc] at h
    cases h
    rw [List.append_nil]
    refine fun _ => ⟨f, hlast, hv, hst, hmac, hx, hy, fun hno => ?_⟩
    dsimp only at hno
    cases hc : t.checkedDatabase <;> rw [hc] at hno <;> split at hno <;> cases hno
  | init =>
    refine ⟨?_, hI.append (inserts_pangoClientStep (by rw [hpc]; decide) h)⟩
    obtain ⟨f, hlast, hv, hst, hmac, hx, hy, -⟩ := hA (.inr (.inr (.inl hpc)))
    simp only [pangoClientStep, hpc] at h
    cases h
    refine fun _ => ⟨f, (lastHanded_append (by simp [Event.handed])).trans hlast, hv, hst, hmac, hx,
      hy, fun _ => ?_⟩
    rw [← hx, ← hy]
    exact cstr_locationFunc _ _ _
  | check =>
    refine ⟨fun hr => ?_, hI.append (inserts_pangoClientStep (by rw [hpc]; decide) h)⟩
    rcases check_cases hpc h with ⟨-, rfl⟩ | ⟨-, -, rfl⟩ | ⟨hv, hst, m, hm, rfl⟩
    · rcases hr with hr | hr | hr | hr <;> cases hr
    · rcases hr with hr | hr | hr | hr <;> cases hr
    · have hlast : lastHanded (events ++ [.check t.clientDataBuff]) = some t.clientDataBuff := by
        simp [lastHanded, Event.handed]
      dsimp only at hr ⊢
      refine ⟨t.clientDataBuff, hlast, hv, ?_, hm, rfl, rfl, fun hno => ?_⟩
      · by_contra hstart
        unfold switchStatus at hr
        rw [if_neg hstart] at hr
        split_ifs at hr <;> rcases hr with hr | hr | hr | hr <;> cases hr
      · have hmem := switchStatus_mem t.clientDataBuff.status
        rw [hno] at hmem
        simp at hmem
  | recv | lost | retriev | sendLocation | setConnected | close | pay | remove | update | sendErrMsg
  | closeFd =>
    rw [hpc] at hother
    exact ⟨hother (by decide), hI.append (inserts_pangoClientStep (by rw [hpc]; decide) h)⟩
  | done => simp [pangoClientStep, hpc] at h

end Step

/-! ## Runs -/

/-- The same device, in the same place. -/
def Row.Alike (r r' : Row) : Prop := r.macAdr = r'.macAdr ∧ r.location = r'.location

/-- Redoing statements brings nobody in but those it inserts. -/
theorem mem_redo {events : List (Event D)} {rows : List Row} {r : Row}
    (h : r ∈ redo events rows) :
    (∃ r₀ ∈ rows, r₀.Alike r) ∨ ∃ row, .exec (.insert row) true ∈ events ∧ row.Alike r := by
  induction events generalizing rows with
  | nil => exact .inl ⟨r, h, rfl, rfl⟩
  | cons e events ih =>
    have hrest : r ∈ redo events (redo [e] rows) := by
      rwa [← redo_append]
    rcases ih hrest with ⟨r₀, hr₀, hsame⟩ | ⟨row, hrow, hsame⟩
    · cases e with
      | exec stmt ok =>
        cases ok with
        | false => exact .inl ⟨r₀, hr₀, hsame⟩
        | true =>
          have happly : r₀ ∈ stmt.apply rows := hr₀
          cases stmt with
          | insert row =>
            rcases List.mem_append.mp happly with hmem | hmem
            · exact .inl ⟨r₀, hmem, hsame⟩
            · rw [List.mem_singleton.mp hmem] at hsame
              exact .inr ⟨row, List.mem_cons_self, hsame⟩
          | update timeUsed mac =>
            obtain ⟨r₁, hr₁, rfl⟩ := List.mem_map.mp happly
            refine .inl ⟨r₁, hr₁, ?_⟩
            split_ifs at hsame <;> exact hsame
          | delete mac => exact .inl ⟨r₀, List.mem_of_mem_filter happly, hsame⟩
      | _ => exact .inl ⟨r₀, hr₀, hsame⟩
    · exact .inr ⟨row, List.mem_cons_of_mem e hrow, hsame⟩

section Runs

variable [CDouble D] {cfg : Config D} {rows : List Row} {ls : List Label} {s : State D}

/-- **The record is complete.**  In every run, whatever fails and however the threads take turns,
the table is what the executed statements of the record, in order, make of the first one. -/
theorem journal (h : (server cfg).Exec (fun _ _ => True) (.start rows) ls s) :
    s.yourTable = redo (s.trace.map Prod.snd) rows :=
  h.invariant (I := fun s => s.yourTable = redo (s.trace.map Prod.snd) rows) rfl
    fun _ _ _ _ hJ hs => journal_step hJ hs

/-- What a connection inserts was asked for by the last frame it had checked before. -/
theorem insert_origin (h : (server cfg).Exec (fun _ _ => True) (.start rows) ls s) (i : ℕ) :
    InsertsAskedFor (own i s) := by
  obtain ⟨hthreads, hidle⟩ := local_invariant
    (J := fun _ client t events => Asking client t events ∧ InsertsAskedFor events) h
    (fun _ _ => ⟨fun hno => absurd hno (by simp), fun before row ok after hno => by simp at hno⟩)
    fun s i env t r _ _ hJ hr => asking_pangoClientStep hJ.1 hJ.2 hr
  cases ht : s.thread i with
  | none =>
    rw [(hidle i ht).2]
    exact fun before row ok after hno => by simp at hno
  | some t => exact (hthreads i t ht).2

omit [CDouble D] in
theorem mem_own {i : ℕ} {e : Event D} : e ∈ own i s ↔ (.client i, e) ∈ s.trace := by
  unfold own eventsOf
  constructor
  · intro he
    obtain ⟨⟨j, e'⟩, hmem, rfl⟩ := List.mem_map.mp he
    obtain ⟨⟨tid, e''⟩, hmem, heq⟩ := List.mem_filterMap.mp hmem
    cases tid with
    | client k =>
      dsimp only at heq
      split_ifs at heq with hk
      cases heq
      cases hk
      exact hmem
    | dbUpdate => cases heq
  · intro he
    exact List.mem_map.mpr ⟨(i, e), List.mem_filterMap.mpr ⟨(.client i, e), he, by simp⟩, rfl⟩

/-- The backup thread inserts nothing. -/
theorem client_of_insert (h : (server cfg).Exec (fun _ _ => True) (.start rows) ls s) {tid : Tid}
    {row : Row} {ok : Bool} (hmem : (tid, .exec (.insert row) ok) ∈ s.trace) :
    ∃ i, .exec (.insert row) ok ∈ own i s := by
  have hclient : ∀ p ∈ s.trace, ∀ row ok, p.2 = .exec (.insert row) ok → ∃ i, p.1 = .client i := by
    refine h.invariant (I := fun s : State D => ∀ p ∈ s.trace, ∀ row ok,
      p.2 = .exec (.insert row) ok → ∃ i, p.1 = .client i) (fun _ hp => by cases hp) ?_
    intro s l s' _ hJ hs p hp row ok hins
    rcases step_cases hs with ⟨i, fd, rfl, -, rfl⟩ | ⟨i, env, t, r, rfl, -, -, rfl⟩
      | ⟨clock, sqlFails, rfl, rfl⟩
    · exact hJ p hp row ok hins
    · rcases List.mem_append.mp hp with hp | hp
      · exact hJ p hp row ok hins
      · obtain ⟨e, -, rfl⟩ := List.mem_map.mp hp
        exact ⟨i, rfl⟩
    · rcases List.mem_append.mp hp with hp | hp
      · exact hJ p hp row ok hins
      · obtain ⟨e, he, rfl⟩ := List.mem_map.mp hp
        cases hins
        simp only [updateClientsEvents, updateClientsStmts, slotEvents, List.mem_append,
          List.mem_cons, List.mem_flatMap] at he
        rcases he with (he | ⟨k, -, he⟩) | he
        · cases he
        · split_ifs at he <;> simp [backupStmt] at he
        · simp at he
  obtain ⟨i, rfl⟩ := hclient _ hmem row ok rfl
  exact ⟨i, mem_own.mpr hmem⟩

/-- **Nobody is in the table who has not asked for it.**  In every run every row has the device and
the place of a row of the first table, or of a valid start that some connection has checked: the
device the frame names, in the city of its coordinates. -/
theorem row_origin (h : (server cfg).Exec (fun _ _ => True) (.start rows) ls s) {r : Row}
    (hr : r ∈ s.yourTable) :
    (∃ r₀ ∈ rows, r₀.Alike r) ∨ ∃ i f, .check f ∈ own i s ∧ CrcValid f ∧ f.status = startApp ∧
      (askedFor f).Alike r := by
  rw [journal h] at hr
  rcases mem_redo hr with hfirst | ⟨row, hrow, hsame⟩
  · exact .inl hfirst
  · obtain ⟨⟨tid, e⟩, hmem, rfl⟩ := List.mem_map.mp hrow
    obtain ⟨i, hown⟩ := client_of_insert h hmem
    obtain ⟨before, after, hsplit⟩ := List.append_of_mem hown
    obtain ⟨f, hlast, hv, hst, rfl⟩ := insert_origin h i before row true after hsplit
    refine .inr ⟨i, f, ?_, hv, hst, hsame⟩
    obtain ⟨e, he, hhanded⟩ := List.mem_filterMap.mp (List.mem_of_getLast? hlast)
    cases e with
    | check f' =>
      cases hhanded
      rw [hsplit]
      exact List.mem_append_left _ he
    | _ => cases hhanded

end Runs

/-- A parking is started, and a pass writes its time used. -/
def keptFor (now : Int) : List Label := sampleStart 0 100 ++ [.backup (fun _ => now) []]

/-- The only row is of the device that has started. -/
theorem row_origin_of_backup : ∃ (s : State Int) (r : Row), r ∈ s.yourTable ∧
    ∃ i f, .check f ∈ own i s ∧ CrcValid f ∧ f.status = startApp ∧ (askedFor f).Alike r := by
  have hrun : ((server samplePrices).run (.start []) (keptFor 160)).map (fun s =>
      s.yourTable.length) = some 1 := by decide +kernel
  obtain ⟨s, hs, hlen⟩ := Option.map_eq_some_iff.mp hrun
  obtain ⟨r, hr⟩ := List.length_eq_one_iff.mp hlen
  have hmem : r ∈ s.yourTable := hr ▸ List.mem_singleton_self r
  refine ⟨s, r, hmem, ?_⟩
  rcases row_origin (Lts.exec_of_run _ hs) hmem with ⟨r₀, hno, -⟩ | horigin
  · cases hno
  · exact horigin

end Pango.Server
