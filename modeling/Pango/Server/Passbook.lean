import Pango.Server.Serial

/-!
# What the row of a parking holds

`TIME_USED` is written when a parking is registered, by every backup pass that sees its
slot connected, and at the end of each connection.  In between the slot's start time and
the row belong together: their sum is the clock reading of the last write.

* `Meter.visit` — the meter, which takes the first start of a connection and no other.
* `Rests`, `Stays` — the row between connections, and during one.
* `Stance` — the connection that is open, at each program point.
* `moves_pangoClientStep` — **one step** of it, whatever frames it is sent;
  `timeUsed_pangoClientStep` — and `TIME_USED` does not decrease.
* `OnStay.backedUp` — **a backup pass**.
-/

namespace Pango.Server

open CInt

variable {D : Type*}

/-! ## The meter over a connection with many starts -/

/-- The connection that is parking, and the clock reading at its first start. -/
def Meter.since (M : Meter) : Option (ℕ × Int) := M.parking.bind Parking.since

/-- What the meter makes of an action: a start on a connection that is parking already is
none. -/
def Meter.visit (M : Meter) (e : ℕ × Event D) : Meter :=
  match e.2 with
  | .clock .updateClientAndContinueTime _ => if M.since = none then M.step e else M
  | _ => M.step e

/-- The meter after the actions of a step. -/
abbrev Meter.visited (M : Meter) (i : ℕ) (events : List (Event D)) : Meter :=
  (events.map (Prod.mk i)).foldl Meter.visit M

/-- The reading of the last backup pass that saw the slot, as long as the same connection is
parking. -/
def stillSeen (M M' : Meter) (seen : Option Int) : Option Int :=
  if M'.since = M.since then seen else none

/-- What the device sends on a connection: first a start, then frames with its address;
no second start if `once`. -/
def Visits (m : Buf UInt8 6) (once : Prop) (env : Env) (t : Thread) : Prop :=
  t.pc = .recv →
    if t.status = statusInitialValue then
      ∃ f ∈ env.recv.frame?, CrcValid f ∧ f.status = startApp ∧ f.mac = m.toList
    else env.recv = .closed ∨
      ∃ f ∈ env.recv.frame?, CrcValid f ∧ f.mac = m.toList ∧ (once → f.status ≠ startApp)

instance (m : Buf UInt8 6) (once : Prop) [Decidable once] (env : Env) (t : Thread) :
    Decidable (Visits m once env t) := inferInstanceAs (Decidable (_ → _))

/-! ## Readings in order -/

/-- The readings do not decrease, and they are times an `int` holds. -/
def InOrder (H : List Int) : Prop := H.Pairwise (· ≤ ·) ∧ ∀ t ∈ H, 0 ≤ t ∧ t < 2147483648

theorem InOrder.of_append {H H' : List Int} (h : InOrder (H ++ H')) : InOrder H :=
  ⟨(List.pairwise_append.mp h.1).1, fun t ht => h.2 t (List.mem_append_left _ ht)⟩

/-- A new reading is not below any before it. -/
theorem InOrder.le_new {H H' : List Int} (h : InOrder (H ++ H')) {now : Int} (hnow : now ∈ H') :
    (∀ t ∈ H, t ≤ now) ∧ 0 ≤ now ∧ now < 2147483648 :=
  ⟨fun t ht => (List.pairwise_append.mp h.1).2.2 t ht now hnow,
   h.2 now (List.mem_append_right _ hnow)⟩

theorem InOrder.le_last {H : List Int} {now : Int} (h : InOrder (H ++ [now])) :
    (∀ t ∈ H, t ≤ now) ∧ 0 ≤ now ∧ now < 2147483648 := h.le_new (List.mem_singleton_self now)

/-! ## Row and slot -/

/-- Between connections the row holds no more than the time owed, and exactly that time if
`once`. -/
def Rests (m : Buf UInt8 6) (once : Prop) (H : List Int) (M : Meter) (R : List Row) : Prop :=
  match M.parking with
  | none => R = []
  | some p => p.since = none ∧ ∃ used, R = [cityRow m p used] ∧ 0 ≤ used ∧ used ≤ p.seconds ∧
      (once → used = p.seconds) ∧ ∃ t ∈ H, used ≤ t

/-- During a connection: its first start, the start time of the slot, and the reading at which
row and slot were last brought in line. -/
structure Stays (m : Buf UInt8 6) (once : Prop) (i : ℕ) (H : List Int) (M : Meter)
    (seen : Option Int) (R : List Row) (client : PangoData D) (p : Parking)
    (first start sync : Int) : Prop where
  parking : M.parking = some p
  since : p.since = some (i, first)
  time : client.timeStartParking = start
  row : R = [cityRow m p (sync - start)]
  first_mem : first ∈ H
  sync_mem : sync ∈ H
  start_nonneg : 0 ≤ start
  start_le : start ≤ sync
  owed : first - start ≤ p.seconds
  exact : once → first - start = p.seconds ∧ sync = seen.getD first

/-- The connection is on a stay. -/
def OnStay (m : Buf UInt8 6) (once : Prop) (i : ℕ) (H : List Int) (M : Meter)
    (seen : Option Int) (R : List Row) (client : PangoData D) : Prop :=
  ∃ p first start sync, Stays m once i H M seen R client p first start sync

/-- The bill of a stay that has ended. -/
def BillDue (once : Prop) (M : Meter) (client : PangoData D) (t : Thread) : Prop :=
  ∃ p, M.parking = some p ∧ p.since = none ∧
    0 ≤ toInt32 (toInt32 t.endTime - client.timeStartParking) ∧
    toInt32 (toInt32 t.endTime - client.timeStartParking) ≤ p.seconds ∧
    (once → toInt32 (toInt32 t.endTime - client.timeStartParking) = p.seconds)

/-- The connection that is open, at each program point. -/
def Stance (m : Buf UInt8 6) (once : Prop) (i : ℕ) (H : List Int) (M : Meter)
    (seen : Option Int) (R : List Row) (client : PangoData D) (t : Thread) : Prop :=
  client.mac = macKey m ∧ match t.pc with
  | .exist => t.status = startApp ∧
      (client.connected = false ∧ t.checkedDatabase = false ∧
          M.x = client.xAxis ∧ M.y = client.yAxis ∧ Rests m once H M R ∨
        client.connected = true ∧ ¬ once ∧ OnStay m once i H M seen R client)
  | .retriev => t.status = startApp ∧
      (client.connected = false ∧ M.parking ≠ none ∧ Rests m once H M R ∨
        client.connected = true ∧ ¬ once ∧ OnStay m once i H M seen R client)
  | .init => t.status = startApp ∧ client.connected = false ∧
      M.x = client.xAxis ∧ M.y = client.yAxis ∧ M.parking = none ∧ R = []
  | .process => t.status = startApp ∧ client.connected = false ∧ R = [] ∧ seen = none ∧
      cstr client.location.toList = cityName M.x M.y ∧
      ∃ first ∈ H, M.parking = some ⟨M.x, M.y, [], some (i, first)⟩ ∧
        client.timeStartParking = first
  | .sendLocation | .setConnected => t.status = startApp ∧ client.connected = false ∧
      OnStay m once i H M seen R client
  | .recv => t.status ≠ statusInitialValue ∧ client.connected = true ∧
      OnStay m once i H M seen R client
  | .check => t.status ≠ statusInitialValue ∧ client.connected = true ∧
      (CrcValid t.clientDataBuff ∧ t.clientDataBuff.mac = m.toList ∧
        (once → t.clientDataBuff.status ≠ startApp)) ∧ OnStay m once i H M seen R client
  | .lost => t.status = connectionLost ∧ client.connected = true ∧
      OnStay m once i H M seen R client
  | .close => t.status = closeApp ∧ client.connected = true ∧ OnStay m once i H M seen R client
  | .update => client.connected = false ∧ OnStay m once i H M seen R client
  | .pay => client.connected = false ∧ BillDue once M client t ∧ ∃ row, R = [row]
  | .remove => client.connected = false ∧ M.parking = none ∧ ∃ row, R = [row]
  | .closeFd => client.connected = false ∧ Rests m once H M R
  | .sendErrMsg | .done => False

/-! ## The steps of the open connection -/

section Step

variable [CDouble D] {cfg : Config D} {env : Env} {m : Buf UInt8 6} {once : Prop} {i : ℕ}
  {H : List Int} {M : Meter} {seen : Option Int} {R : List Row} {client : PangoData D} {t : Thread}
  {rows : List Row} {r : Turn D}

/-- The readings of a step. -/
abbrev Turn.readings (r : Turn D) : List Int := clocks (r.events.map (Prod.mk 0))

/-- What a step of the open connection leaves behind: a connection that is open, or, after it,
a row at rest. -/
def Moves (m : Buf UInt8 6) (once : Prop) (i : ℕ) (H : List Int) (M : Meter) (seen : Option Int)
    (r : Turn D) : Prop :=
  let M' := M.visited i r.events
  (r.thread.pc ≠ .done → Stance m once i (H ++ r.readings) M' (stillSeen M M' seen)
    (selectMac (macKey m) r.yourTable) r.client r.thread) ∧
  (r.thread.pc = .done → r.client.connected = false ∧
    Rests m once (H ++ r.readings) M' (selectMac (macKey m) r.yourTable))

omit [CDouble D] in
theorem stillSeen_self (M : Meter) (seen : Option Int) : stillSeen M M seen = seen := if_pos rfl

omit [CDouble D] in
theorem stillSeen_new {M' : Meter} (h : M.since = none) (h' : M'.since ≠ none) :
    stillSeen M M' seen = none := if_neg fun heq => h' (heq.trans h)

omit [CDouble D] in
theorem Rests.mono (h : Rests m once H M R) (H' : List Int) : Rests m once (H ++ H') M R := by
  unfold Rests at h ⊢
  cases hpark : M.parking with
  | none => simpa only [hpark] using h
  | some p =>
    simp only [hpark] at h ⊢
    obtain ⟨hsince, used, hrow, h0, hle, hex, t, ht, hut⟩ := h
    exact ⟨hsince, used, hrow, h0, hle, hex, t, List.mem_append_left _ ht, hut⟩

omit [CDouble D] in
theorem Rests.of_parking {M' : Meter} (hM : M'.parking = M.parking) (h : Rests m once H M R) :
    Rests m once H M' R := by
  unfold Rests at h ⊢
  rw [hM]
  exact h

omit [CDouble D] in
/-- A stay goes on as long as row, start time and meter do not move. -/
theorem OnStay.keep {client' : PangoData D} {M' : Meter} (h : OnStay m once i H M seen R client)
    (hM : M'.parking = M.parking) (htime : client'.timeStartParking = client.timeStartParking)
    (H' : List Int) : OnStay m once i (H ++ H') M' (stillSeen M M' seen) R client' := by
  have hseen : stillSeen M M' seen = seen := if_pos (by rw [Meter.since, Meter.since, hM])
  obtain ⟨p, first, start, sync, hS⟩ := h
  rw [hseen]
  exact ⟨p, first, start, sync, hM.trans hS.parking, hS.since, htime.trans hS.time, hS.row,
    List.mem_append_left _ hS.first_mem, List.mem_append_left _ hS.sync_mem, hS.start_nonneg,
    hS.start_le, hS.owed, hS.exact⟩

omit [CDouble D] in
theorem moves_of_stance {M' : Meter} (hM : M.visited i r.events = M') (hpc : r.thread.pc ≠ .done)
    (h : Stance m once i (H ++ r.readings) M' (stillSeen M M' seen)
      (selectMac (macKey m) r.yourTable) r.client r.thread) : Moves m once i H M seen r := by
  subst hM
  exact ⟨fun _ => h, fun hdone => absurd hdone hpc⟩

omit [CDouble D] in
theorem moves_of_quiet (hM : M.visited i r.events = M) (hpc : r.thread.pc ≠ .done)
    (h : Stance m once i (H ++ r.readings) M seen
      (selectMac (macKey m) r.yourTable) r.client r.thread) :
    Moves m once i H M seen r :=
  moves_of_stance hM hpc (by rwa [stillSeen_self])

omit [CDouble D] in
theorem OnStay.later {client' : PangoData D} (h : OnStay m once i H M seen R client)
    (htime : client'.timeStartParking = client.timeStartParking) (H' : List Int) :
    OnStay m once i (H ++ H') M seen R client' := by
  have hkeep := h.keep rfl htime H'
  rwa [stillSeen_self] at hkeep

/-- The lookup finds a parking under way, unless it has been looked up before. -/
theorem moves_exist (hpc : t.pc = .exist) (hsql : env.sqlFails = [])
    (hJ : Stance m once i H M seen (selectMac (macKey m) rows) client t)
    (h : pangoClientStep cfg env client t rows = some r) : Moves m once i H M seen r := by
  simp only [Stance, hpc] at hJ
  obtain ⟨hmac, hst, hcase⟩ := hJ
  simp only [pangoClientStep, hpc, Env.fails_of_nil hsql, clinetExistInDatabaseCheck_of_ok,
    hmac] at h
  cases h
  rcases hcase with ⟨hcon, hch, hx, hy, hrest⟩ | ⟨hcon, hno, hstay⟩
  · have hrest' := hrest
    unfold Rests at hrest'
    cases hpark : M.parking with
    | none =>
      rw [hpark] at hrest'
      have hpc' : (if (!t.checkedDatabase && !(selectMac (macKey m) rows).isEmpty) = true
          then Pc.retriev else afterLookup t.checkedDatabase) = .init := by
        simp [hch, hrest', afterLookup, newClient]
      refine moves_of_quiet rfl (fun hd => absurd (hpc'.symm.trans hd) (by decide)) ⟨hmac, ?_⟩
      simp only [hpc']
      exact ⟨hst, hcon, hx, hy, hpark, hrest'⟩
    | some p =>
      rw [hpark] at hrest'
      obtain ⟨-, used, hrow, -⟩ := hrest'
      have hpc' : (if (!t.checkedDatabase && !(selectMac (macKey m) rows).isEmpty) = true
          then Pc.retriev else afterLookup t.checkedDatabase) = .retriev := by simp [hch, hrow]
      refine moves_of_quiet rfl (fun hd => absurd (hpc'.symm.trans hd) (by decide)) ⟨hmac, ?_⟩
      simp only [hpc']
      have hne : M.parking ≠ none := by simp [hpark]
      exact ⟨hst, .inl ⟨hcon, hne, hrest.mono _⟩⟩
  · cases hch : t.checkedDatabase with
    | true =>
      refine moves_of_quiet rfl (by simp) ⟨hmac, ?_⟩
      simp only [Bool.not_true, Bool.false_and, Bool.false_eq_true, if_false, afterLookup_true]
      exact ⟨by rw [hst]; decide, hcon, hstay.later rfl _⟩
    | false =>
      obtain ⟨p, first, start, sync, hS⟩ := id hstay
      have hpc' : (if (!false && !(selectMac (macKey m) rows).isEmpty) = true then Pc.retriev
          else afterLookup false) = .retriev := by simp [hS.row]
      refine moves_of_quiet rfl (fun hd => absurd (hpc'.symm.trans hd) (by decide)) ⟨hmac, ?_⟩
      simp only [hpc']
      exact ⟨hst, .inr ⟨hcon, hno, hstay.later rfl _⟩⟩

omit [CDouble D] in
theorem visited_retriev (now : Int) (bytes : Buf UInt8 12) (ok : Bool) :
    M.visited i [Event.lock (D := D), .clock .updateClientAndContinueTime now,
      .send (.location bytes) ok, .unlock] = if M.since = none then M.start i now else M := rfl

theorem moves_retriev (hpc : t.pc = .retriev) (hsql : env.sqlFails = [])
    (hin : InOrder (H ++ r.readings))
    (hJ : Stance m once i H M seen (selectMac (macKey m) rows) client t)
    (h : pangoClientStep cfg env client t rows = some r) : Moves m once i H M seen r := by
  simp only [Stance, hpc] at hJ
  obtain ⟨hmac, hst, hcase⟩ := hJ
  -- the row there is, in either case
  have hrow : ∃ p used, M.parking = some p ∧ selectMac (macKey m) rows = [cityRow m p used] ∧
      0 ≤ used ∧ ∃ t ∈ H, used ≤ t := by
    rcases hcase with ⟨-, hpark, hrest⟩ | ⟨-, -, p, first, start, sync, hS⟩
    · obtain ⟨p, hp⟩ := Option.ne_none_iff_exists'.mp hpark
      unfold Rests at hrest
      rw [hp] at hrest
      obtain ⟨-, used, hrow, h0, -, -, t, ht, hut⟩ := hrest
      exact ⟨p, used, hp, hrow, h0, t, ht, hut⟩
    · have h1 := hS.start_nonneg
      have h2 := hS.start_le
      exact ⟨p, _, hS.parking, hS.row, by omega, sync, hS.sync_mem, by omega⟩
  obtain ⟨p, used, hp, hrow, h0, u, hu, huse⟩ := hrow
  have hrow' : selectMac client.mac rows = [cityRow m p used] := by rw [hmac, hrow]
  simp only [pangoClientStep, hpc, retrievClientData_of_ok hsql hrow', ne_eq, reduceCtorEq,
    not_false_eq_true, if_true] at h
  cases h
  obtain ⟨hle, hnow0, hnow1⟩ : (∀ t ∈ H, t ≤ env.now) ∧ 0 ≤ env.now ∧ env.now < 2147483648 :=
    hin.le_last
  have hun : used ≤ env.now := huse.trans (hle u hu)
  have hback : toInt32 (env.now - used) = env.now - used := toInt32_of_mem ⟨by omega, by omega⟩
  have hmem : env.now ∈ H ++ [env.now] := by simp
  refine moves_of_stance (visited_retriev ..) (by simp) ⟨hmac, ?_⟩
  simp only [afterLookup_true]
  refine ⟨by rw [hst]; decide, trivial, ?_⟩
  rcases hcase with ⟨-, -, hrest⟩ | ⟨-, hno, p', first, start, sync, hS⟩
  · -- the first start of this connection
    unfold Rests at hrest
    rw [hp] at hrest
    obtain ⟨hsince, used', hrow'', -, hle', hex, -⟩ := hrest
    obtain rfl : used' = used := by simpa [cityRow] using hrow''.symm.trans hrow
    have hnone : M.since = none := by simp [Meter.since, hp, hsince]
    have hM : M.start i env.now
        = { M with parking := some { p with since := some (i, env.now) } } := by
      simp [Meter.start, hp]
    rw [if_pos hnone, hM]
    refine ⟨_, env.now, env.now - used', env.now, rfl, rfl, hback, ?_, hmem, hmem, by omega,
      by omega, ?_,
      fun ho => ⟨?_, ?_⟩⟩
    · rw [hrow, sub_sub_cancel]
      rfl
    · rw [sub_sub_cancel]
      exact hle'
    · rw [sub_sub_cancel]
      exact hex ho
    · rw [stillSeen_new hnone (by simp [Meter.since])]
      rfl
  · -- one more start on a stay under way
    obtain rfl : p = p' := Option.some.inj (hp.symm.trans hS.parking)
    have hused : sync - start = used := by simpa [cityRow] using hS.row.symm.trans hrow
    have hsome : M.since ≠ none := by simp [Meter.since, hp, hS.since]
    have hfirst := hle sync hS.sync_mem
    have howed := hS.owed
    rw [if_neg hsome]
    refine ⟨p, first, env.now - used, env.now, hp, hS.since, hback, ?_,
      List.mem_append_left _ hS.first_mem,
      hmem, by omega, by omega, by omega, fun ho => absurd ho hno⟩
    rw [hrow, sub_sub_cancel]

theorem moves_init (hpc : t.pc = .init) (hin : InOrder (H ++ r.readings))
    (hJ : Stance m once i H M seen (selectMac (macKey m) rows) client t)
    (h : pangoClientStep cfg env client t rows = some r) : Moves m once i H M seen r := by
  simp only [Stance, hpc] at hJ
  obtain ⟨hmac, hst, hcon, hx, hy, hpark, hrow⟩ := hJ
  simp only [pangoClientStep, hpc, initializeAndGetStartTime] at h
  cases h
  obtain ⟨-, hnow0, hnow1⟩ : _ ∧ 0 ≤ env.now ∧ env.now < 2147483648 := hin.le_last
  have hM : M.visited i [Event.clock (D := D) .initializeAndGetStartTime env.now]
      = { M with parking := some ⟨M.x, M.y, [], some (i, env.now)⟩ } := by
    show M.start i env.now = _
    simp [Meter.start, hpark]
  refine moves_of_stance hM (by simp) ⟨hmac, hst, hcon, hrow, ?_, ?_, env.now, ?_, rfl, ?_⟩
  · exact stillSeen_new (by simp [Meter.since, hpark]) (by simp [Meter.since])
  · rw [cstr_locationFunc, hx, hy]
  · exact List.mem_append_right _ (List.mem_singleton_self env.now)
  · exact toInt32_of_mem ⟨by omega, hnow1⟩

theorem moves_process (hpc : t.pc = .process) (hsql : env.sqlFails = [])
    (hin : InOrder (H ++ r.readings))
    (hJ : Stance m once i H M seen (selectMac (macKey m) rows) client t)
    (h : pangoClientStep cfg env client t rows = some r) : Moves m once i H M seen r := by
  simp only [Stance, hpc] at hJ
  obtain ⟨hmac, hst, hcon, hrow, hseen, hloc, first, hfirst, hpark, htime⟩ := hJ
  simp only [pangoClientStep, hpc, processClientData_of_ok hsql, ne_eq, reduceCtorEq,
    not_false_eq_true, if_true] at h
  cases h
  have h0 := (hin.of_append.2 first hfirst).1
  refine moves_of_quiet rfl (by simp) ⟨hmac, hst, hcon, ?_⟩
  rw [hseen]
  refine ⟨⟨M.x, M.y, [], some (i, first)⟩, first, first, first, hpark, rfl, htime, ?_,
    List.mem_append_left _ hfirst, List.mem_append_left _ hfirst, h0, le_rfl, ?_,
      fun _ => ⟨?_, rfl⟩⟩
  · have hins : selectMac (newRow client).macAdr ((Stmt.insert (newRow client)).apply rows)
        = selectMac (newRow client).macAdr rows ++ [newRow client] := Stmt.select_insert _
    have hkey : (newRow client).macAdr = macKey m := hmac
    rw [hkey, hrow] at hins
    rw [hins, newRow, hmac, hloc, sub_self]
    rfl
  · simp [Parking.seconds]
  · simp [Parking.seconds]

theorem moves_onStay (hd : Visits m once env t)
    (hpc : t.pc = .sendLocation ∨ t.pc = .setConnected ∨ t.pc = .recv ∨ t.pc = .lost)
    (hJ : Stance m once i H M seen (selectMac (macKey m) rows) client t)
    (h : pangoClientStep cfg env client t rows = some r) : Moves m once i H M seen r := by
  rcases hpc with hpc | hpc | hpc | hpc <;> simp only [Stance, hpc] at hJ
  · obtain ⟨hmac, hst, hcon, hstay⟩ := hJ
    simp only [pangoClientStep, hpc] at h
    cases h
    exact moves_of_quiet rfl (by simp) ⟨hmac, hst, hcon, hstay.later (by rfl) _⟩
  · obtain ⟨hmac, hst, hcon, hstay⟩ := hJ
    simp only [pangoClientStep, hpc] at h
    cases h
    exact moves_of_quiet rfl (by simp)
      ⟨hmac, by rw [hst]; decide, rfl, hstay.later (by rfl) _⟩
  · obtain ⟨hmac, hst, hcon, hstay⟩ := hJ
    have hd := hd hpc
    rw [if_neg hst] at hd
    rcases hd with hclosed | ⟨f, hf, hv, hfm, hfs⟩
    · simp only [pangoClientStep, hpc, hclosed] at h
      cases h
      exact moves_of_quiet rfl (by simp) ⟨hmac, rfl, hcon, hstay.later (by rfl) _⟩
    · rw [pangoClientStep_recvFrame hpc (Recv.eq_recvFrame hf)] at h
      cases h
      exact moves_of_quiet rfl (by simp)
        ⟨hmac, hst, hcon, ⟨hv, hfm, hfs⟩, hstay.later (by rfl) _⟩
  · obtain ⟨hmac, hst, hcon, hstay⟩ := hJ
    rw [pangoClientStep_lost hpc hst] at h
    cases h
    exact moves_of_quiet rfl (by simp) ⟨hmac, rfl, hstay.later (by rfl) _⟩

/-- A frame that does not close leaves the stay going on, whatever its status. -/
theorem moves_check (hpc : t.pc = .check)
    (hJ : Stance m once i H M seen (selectMac (macKey m) rows) client t)
    (h : pangoClientStep cfg env client t rows = some r) : Moves m once i H M seen r := by
  simp only [Stance, hpc] at hJ
  obtain ⟨hmac, hst, hcon, ⟨hv, hfm, hfs⟩, hstay⟩ := hJ
  have hM : (M.visited i [Event.check (D := D) t.clientDataBuff]).parking = M.parking := by
    show (M.step (i, Event.check (D := D) t.clientDataBuff)).parking = _
    unfold Meter.step
    dsimp only
    split_ifs <;> rfl
  by_cases h255 : t.status = crc8TestFailed
  · rw [pangoClientStep_check_ignored hpc hv h255] at h
    cases h
    exact moves_of_stance rfl (by simp) ⟨hmac, hst, hcon, hstay.keep hM (by rfl) _⟩
  · obtain ⟨b, hb, hstep⟩ := pangoClientStep_check cfg env client rows hpc hv h255
    rw [hstep] at h
    cases h
    have hmac' : cstr b.toList = macKey m := hb.trans (macText_eq_macKey hfm)
    by_cases hstart : t.clientDataBuff.status = startApp
    · have hsw : switchStatus t.clientDataBuff.status = .exist := by
        rw [hstart, switchStatus_startApp]
      refine moves_of_stance rfl (by simp [hsw]) ⟨hmac', ?_⟩
      simp only [hsw]
      exact ⟨hstart, .inr ⟨hcon, fun ho => hfs ho hstart, hstay.keep hM (by rfl) _⟩⟩
    · by_cases hclose : t.clientDataBuff.status = closeApp
      · have hsw : switchStatus t.clientDataBuff.status = .close := by
          rw [hclose, switchStatus_closeApp]
        refine moves_of_stance rfl (by simp [hsw]) ⟨hmac', ?_⟩
        simp only [hsw]
        exact ⟨hclose, hcon, hstay.keep hM (by rfl) _⟩
      · have hsw := switchStatus_of_ne hstart hclose
        refine moves_of_stance rfl (by simp [hsw]) ⟨hmac', ?_⟩
        simp only [hsw]
        exact ⟨hclose, hcon, hstay.keep hM (by rfl) _⟩

omit [CDouble D] in
theorem visited_stop (now : Int) (stmt : Stmt) (ok : Bool) {p : Parking} {first : Int}
    (hpark : M.parking = some p) (hsince : p.since = some (i, first)) :
    M.visited i (.lock :: [Event.clock (D := D) .updateClientData now, .exec stmt ok] ++ [.unlock])
      = { M with parking := some ⟨p.x, p.y, p.stays ++ [⟨i, first, now⟩], none⟩ } := by
  obtain ⟨x, y, stays, since⟩ := p
  subst hsince
  show M.stop now = _
  rw [Meter.stop, hpark]

omit [CDouble D] in
/-- At the end of a stay the row is made to hold the seconds since the slot's start time,
which are no more than the meter shows. -/
theorem stop_onStay {p : Parking} {first start sync now : Int} (hmac : client.mac = macKey m)
    (hin : InOrder (H ++ [now]))
    (hS : Stays m once i H M seen (selectMac (macKey m) rows) client p first start sync) :
    toInt32 (now - client.timeStartParking) = now - start ∧ sync ≤ now ∧
      selectMac (macKey m) ((Stmt.update (secondsUsed client now) client.mac).apply rows)
        = [cityRow m p (now - start)] ∧
      0 ≤ now - start ∧ now - start ≤ now ∧ now - start ≤ p.seconds + (now - first) ∧
      (once → now - start = p.seconds + (now - first)) := by
  obtain ⟨hle, hnow0, hnow1⟩ := hin.le_last
  have h1 := hS.start_nonneg
  have h2 := hS.start_le
  have h3 := hle sync hS.sync_mem
  have h4 := hS.owed
  have hsec : toInt32 (now - client.timeStartParking) = now - start := by
    rw [hS.time]
    exact toInt32_of_mem ⟨by omega, by omega⟩
  refine ⟨hsec, h3, ?_, by omega, by omega, by omega, fun ho => ?_⟩
  · rw [hmac, Stmt.select_update, hS.row, secondsUsed_eq, hsec]
    rfl
  · have h5 := (hS.exact ho).1
    omega

/-- A close makes out the bill for the seconds since the slot's start time. -/
theorem moves_close (hpc : t.pc = .close) (hsql : env.sqlFails = [])
    (hin : InOrder (H ++ r.readings))
    (hJ : Stance m once i H M seen (selectMac (macKey m) rows) client t)
    (h : pangoClientStep cfg env client t rows = some r) : Moves m once i H M seen r := by
  simp only [Stance, hpc] at hJ
  obtain ⟨hmac, hst, hcon, p, first, start, sync, hS⟩ := hJ
  rw [pangoClientStep_close hpc hst hsql] at h
  cases h
  obtain ⟨hsec, -, hrow, h0, -, hle, hex⟩ := stop_onStay hmac hin hS
  have hbill : toInt32 (toInt32 (toUInt32 env.now) - client.timeStartParking)
      = env.now - start := by
    rw [toInt32_toUInt32, toInt32_toInt32_sub, hsec]
  have hsum : (Parking.mk p.x p.y (p.stays ++ [⟨i, first, env.now⟩]) none).seconds
      = p.seconds + (env.now - first) :=
    Parking.seconds_stop p.x p.y p.stays ⟨i, first, env.now⟩ none
  refine moves_of_stance (visited_stop _ _ _ hS.parking hS.since) (by simp)
    ⟨hmac, rfl, ⟨_, rfl, rfl, ?_⟩, _, hrow⟩
  rw [hbill, hsum]
  exact ⟨h0, hle, hex⟩

theorem moves_update (hpc : t.pc = .update) (hsql : env.sqlFails = [])
    (hin : InOrder (H ++ r.readings))
    (hJ : Stance m once i H M seen (selectMac (macKey m) rows) client t)
    (h : pangoClientStep cfg env client t rows = some r) : Moves m once i H M seen r := by
  simp only [Stance, hpc] at hJ
  obtain ⟨hmac, hcon, p, first, start, sync, hS⟩ := hJ
  simp only [pangoClientStep, hpc, updateClientData, sqlite3Exec, Env.fails_of_nil hsql,
    Bool.not_false, Bool.false_eq_true, if_false] at h
  cases h
  obtain ⟨-, -, hrow, h0, hnow, hle, hex⟩ := stop_onStay hmac hin hS
  have hsum : (Parking.mk p.x p.y (p.stays ++ [⟨i, first, env.now⟩]) none).seconds
      = p.seconds + (env.now - first) :=
    Parking.seconds_stop p.x p.y p.stays ⟨i, first, env.now⟩ none
  refine moves_of_stance (visited_stop _ _ _ hS.parking hS.since) (by simp)
    ⟨hmac, hcon, rfl, _, hrow, h0, ?_⟩
  rw [hsum]
  exact ⟨hle, hex, env.now, by simp [Turn.readings, clocks], hnow⟩

theorem moves_over (hsql : env.sqlFails = [])
    (hpc : t.pc = .pay ∨ t.pc = .remove ∨ t.pc = .closeFd)
    (hJ : Stance m once i H M seen (selectMac (macKey m) rows) client t)
    (h : pangoClientStep cfg env client t rows = some r) : Moves m once i H M seen r := by
  rcases hpc with hpc | hpc | hpc <;> simp only [Stance, hpc] at hJ
  · obtain ⟨hmac, hcon, -, hrow⟩ := hJ
    simp only [pangoClientStep, hpc, calculateAndSendPaymentData] at h
    cases h
    exact moves_of_stance rfl (by simp) ⟨hmac, hcon, rfl, hrow⟩
  · obtain ⟨hmac, hcon, hpark, -⟩ := hJ
    simp only [pangoClientStep, hpc, removeClientData, sqlite3Exec, Env.fails_of_nil hsql,
      Bool.not_false, Bool.false_eq_true, if_false] at h
    cases h
    refine moves_of_quiet rfl (by simp) ⟨hmac, hcon, ?_⟩
    rw [Rests, hpark, hmac]
    exact Stmt.select_delete
  · obtain ⟨hmac, hcon, hrest⟩ := hJ
    simp only [pangoClientStep, hpc] at h
    cases h
    exact ⟨fun hne => absurd rfl hne, fun _ => ⟨hcon, hrest.mono _⟩⟩

/-- **One step** of the open connection, whatever frames it is sent. -/
theorem moves_pangoClientStep (hsql : env.sqlFails = []) (hd : Visits m once env t)
    (hin : InOrder (H ++ r.readings))
    (hJ : Stance m once i H M seen (selectMac (macKey m) rows) client t)
    (h : pangoClientStep cfg env client t rows = some r) : Moves m once i H M seen r := by
  cases hpc : t.pc with
  | exist => exact moves_exist hpc hsql hJ h
  | retriev => exact moves_retriev hpc hsql hin hJ h
  | init => exact moves_init hpc hin hJ h
  | process => exact moves_process hpc hsql hin hJ h
  | sendLocation | setConnected | recv | lost => exact moves_onStay hd (by simp [hpc]) hJ h
  | check => exact moves_check hpc hJ h
  | close => exact moves_close hpc hsql hin hJ h
  | update => exact moves_update hpc hsql hin hJ h
  | pay | remove | closeFd => exact moves_over hsql (by simp [hpc]) hJ h
  | sendErrMsg | done => simp only [Stance, hpc, and_false] at hJ

omit [CDouble D] in
theorem Rests.row (h : Rests m once H M R) : R = [] ∨ ∃ row, R = [row] := by
  unfold Rests at h
  split at h
  · exact .inl h
  · obtain ⟨-, used, hrow, -⟩ := h
    exact .inr ⟨_, hrow⟩

omit [CDouble D] in
theorem Rests.since (h : Rests m once H M R) : M.since = none := by
  unfold Rests at h
  cases hpark : M.parking with
  | none => simp [Meter.since, hpark]
  | some p =>
    rw [hpark] at h
    simp [Meter.since, hpark, h.1]

omit [CDouble D] in
theorem Stance.phase (h : Stance m once i H M seen R client t) :
    Rests m once H M R ∨ OnStay m once i H M seen R client ∨
      (R = [] ∧ ∃ first, M.since = some (i, first)) ∨ ((∃ row, R = [row]) ∧ M.since = none) := by
  obtain ⟨-, h⟩ := h
  cases hpc : t.pc with
  | exist =>
    simp only [hpc] at h
    obtain ⟨-, ⟨-, -, -, -, hrest⟩ | ⟨-, -, hstay⟩⟩ := h
    · exact .inl hrest
    · exact .inr (.inl hstay)
  | retriev =>
    simp only [hpc] at h
    obtain ⟨-, ⟨-, -, hrest⟩ | ⟨-, -, hstay⟩⟩ := h
    · exact .inl hrest
    · exact .inr (.inl hstay)
  | init =>
    simp only [hpc] at h
    obtain ⟨-, -, -, -, hpark, hrow⟩ := h
    refine .inl ?_
    rw [Rests, hpark]
    exact hrow
  | process =>
    simp only [hpc] at h
    obtain ⟨-, -, hrow, -, -, first, -, hpark, -⟩ := h
    exact .inr (.inr (.inl ⟨hrow, first, by simp [Meter.since, hpark]⟩))
  | sendLocation | setConnected | recv | lost | close =>
    simp only [hpc] at h
    exact .inr (.inl h.2.2)
  | check =>
    simp only [hpc] at h
    exact .inr (.inl h.2.2.2)
  | update =>
    simp only [hpc] at h
    exact .inr (.inl h.2)
  | pay =>
    simp only [hpc] at h
    obtain ⟨-, ⟨p, hpark, hsince, -⟩, hrow⟩ := h
    exact .inr (.inr (.inr ⟨hrow, by simp [Meter.since, hpark, hsince]⟩))
  | remove =>
    simp only [hpc] at h
    exact .inr (.inr (.inr ⟨h.2.2, by simp [Meter.since, h.2.1]⟩))
  | closeFd =>
    simp only [hpc] at h
    exact .inl h.2
  | sendErrMsg | done => simp only [hpc] at h

omit [CDouble D] in
theorem Stance.row (h : Stance m once i H M seen R client t) : R = [] ∨ ∃ row, R = [row] := by
  rcases h.phase with hrest | ⟨p, first, start, sync, hS⟩ | ⟨hrow, -⟩ | ⟨hrow, -⟩
  · exact hrest.row
  · exact .inr ⟨_, hS.row⟩
  · exact .inl hrow
  · exact .inr hrow

omit [CDouble D] in
/-- On the meter no other connection is parking. -/
theorem Stance.since (h : Stance m once i H M seen R client t) :
    M.since = none ∨ ∃ first, M.since = some (i, first) := by
  rcases h.phase with hrest | ⟨p, first, start, sync, hS⟩ | ⟨-, hsince⟩ | ⟨-, hsince⟩
  · exact .inl hrest.since
  · exact .inr ⟨first, by simp [Meter.since, hS.parking, hS.since]⟩
  · exact .inr hsince
  · exact .inl hsince

/-- **`TIME_USED` does not decrease** in a step of the open connection. -/
theorem timeUsed_pangoClientStep (hin : InOrder (H ++ r.readings))
    (hJ : Stance m once i H M seen (selectMac (macKey m) rows) client t)
    (h : pangoClientStep cfg env client t rows = some r) :
    ∀ row ∈ selectMac (macKey m) rows, ∀ row' ∈ selectMac (macKey m) r.yourTable,
      row.timeUsed ≤ row'.timeUsed := by
  have hmac := hJ.1
  rcases yourTable_pangoClientStep h with htable | ⟨hpc, -⟩ | ⟨hpc, htable⟩ | ⟨-, htable⟩
  · rw [htable]
    rcases hJ.row with hrow | ⟨row, hrow⟩ <;> rw [hrow] <;> simp
  · simp only [Stance, hpc] at hJ
    rw [hJ.2.2.2.1]
    simp
  · obtain ⟨hstay, hnow⟩ : OnStay m once i H M seen (selectMac (macKey m) rows) client ∧
        InOrder (H ++ [env.now]) := by
      rcases hpc with hpc | hpc <;> simp only [Stance, hpc] at hJ <;>
        simp only [pangoClientStep, hpc, updateClientData] at h <;> cases h
      · exact ⟨hJ.2.2.2, hin⟩
      · exact ⟨hJ.2.2, hin⟩
    obtain ⟨p, first, start, sync, hS⟩ := hstay
    obtain ⟨-, hsync, hrow', -⟩ := stop_onStay hmac hnow hS
    rw [htable, hrow', hS.row]
    simp only [List.mem_singleton, forall_eq, cityRow]
    omega
  · rw [htable, hmac, Stmt.select_delete]
    simp

/-! ### What others do to it -/

omit [CDouble D] in
theorem Stance.later (h : Stance m once i H M seen R client t) (H' : List Int) :
    Stance m once i (H ++ H') M seen R client t := by
  obtain ⟨hmac, h⟩ := h
  refine ⟨hmac, ?_⟩
  cases hpc : t.pc with
  | exist =>
    simp only [hpc] at h ⊢
    obtain ⟨hst, ⟨hcon, hch, hx, hy, hrest⟩ | ⟨hcon, hno, hstay⟩⟩ := h
    · exact ⟨hst, .inl ⟨hcon, hch, hx, hy, hrest.mono H'⟩⟩
    · exact ⟨hst, .inr ⟨hcon, hno, hstay.later rfl H'⟩⟩
  | retriev =>
    simp only [hpc] at h ⊢
    obtain ⟨hst, ⟨hcon, hpark, hrest⟩ | ⟨hcon, hno, hstay⟩⟩ := h
    · exact ⟨hst, .inl ⟨hcon, hpark, hrest.mono H'⟩⟩
    · exact ⟨hst, .inr ⟨hcon, hno, hstay.later rfl H'⟩⟩
  | process =>
    simp only [hpc] at h ⊢
    obtain ⟨hst, hcon, hrow, hseen, hloc, first, hfirst, hpark, htime⟩ := h
    exact ⟨hst, hcon, hrow, hseen, hloc, first, List.mem_append_left _ hfirst, hpark, htime⟩
  | sendLocation | setConnected | recv | lost | close =>
    simp only [hpc] at h ⊢
    exact ⟨h.1, h.2.1, h.2.2.later rfl H'⟩
  | check =>
    simp only [hpc] at h ⊢
    exact ⟨h.1, h.2.1, h.2.2.1, h.2.2.2.later rfl H'⟩
  | update =>
    simp only [hpc] at h ⊢
    exact ⟨h.1, h.2.later rfl H'⟩
  | closeFd =>
    simp only [hpc] at h ⊢
    exact ⟨h.1, h.2.mono H'⟩
  | init | pay | remove => simpa only [hpc] using h
  | sendErrMsg | done => simp only [hpc] at h

omit [CDouble D] in
/-- A connected slot is on a stay, and how row and slot are in line is all that its stance
says of them. -/
theorem Stance.restay (h : Stance m once i H M seen R client t) (hcon : client.connected = true) :
    OnStay m once i H M seen R client ∧ ∀ H' seen' R', OnStay m once i H' M seen' R' client →
      Stance m once i H' M seen' R' client t := by
  obtain ⟨hmac, h⟩ := h
  cases hpc : t.pc with
  | exist =>
    simp only [hpc] at h
    obtain ⟨hst, ⟨hno, -⟩ | ⟨-, hno, hstay⟩⟩ := h
    · rw [hno] at hcon
      cases hcon
    · refine ⟨hstay, fun H' seen' R' hstay' => ⟨hmac, ?_⟩⟩
      simp only [hpc]
      exact ⟨hst, .inr ⟨hcon, hno, hstay'⟩⟩
  | retriev =>
    simp only [hpc] at h
    obtain ⟨hst, ⟨hno, -⟩ | ⟨-, hno, hstay⟩⟩ := h
    · rw [hno] at hcon
      cases hcon
    · refine ⟨hstay, fun H' seen' R' hstay' => ⟨hmac, ?_⟩⟩
      simp only [hpc]
      exact ⟨hst, .inr ⟨hcon, hno, hstay'⟩⟩
  | recv | lost | close =>
    simp only [hpc] at h
    refine ⟨h.2.2, fun H' seen' R' hstay' => ⟨hmac, ?_⟩⟩
    simp only [hpc]
    exact ⟨h.1, hcon, hstay'⟩
  | check =>
    simp only [hpc] at h
    refine ⟨h.2.2.2, fun H' seen' R' hstay' => ⟨hmac, ?_⟩⟩
    simp only [hpc]
    exact ⟨h.1, hcon, h.2.2.1, hstay'⟩
  | init | process | sendLocation | setConnected =>
    simp only [hpc] at h
    rw [h.2.1] at hcon
    cases hcon
  | update | pay | remove | closeFd =>
    simp only [hpc] at h
    rw [h.1] at hcon
    cases hcon
  | sendErrMsg | done => simp only [hpc] at h

omit [CDouble D] in
/-- **A backup pass** brings row and slot in line at its reading. -/
theorem OnStay.backedUp {H' : List Int} {now : Int} (h : OnStay m once i H M seen R client)
    (hin : InOrder (H ++ H')) (hnow : now ∈ H') :
    OnStay m once i (H ++ H') M (some now)
    (R.map (Row.setTimeUsed (secondsBackedUp client now))) client ∧
      ∀ row ∈ R, ∀ row' ∈ R.map (Row.setTimeUsed (secondsBackedUp client now)),
        row.timeUsed ≤ row'.timeUsed := by
  obtain ⟨p, first, start, sync, hS⟩ := h
  obtain ⟨hle, hnow0, hnow1⟩ := hin.le_new hnow
  have h1 := hS.start_nonneg
  have h2 := hS.start_le
  have h3 := hle sync hS.sync_mem
  have hsec : secondsBackedUp client now = now - start := by
    rw [secondsBackedUp, toInt32_toInt32_sub, hS.time]
    exact toInt32_of_mem ⟨by omega, by omega⟩
  have hrow : R.map (Row.setTimeUsed (secondsBackedUp client now))
      = [cityRow m p (now - start)] := by
    rw [hS.row, hsec]
    rfl
  refine ⟨⟨p, first, start, now, hS.parking, hS.since, hS.time, hrow,
    List.mem_append_left _ hS.first_mem,
    List.mem_append_right _ hnow, h1, by omega, hS.owed, fun ho => ⟨(hS.exact ho).1, rfl⟩⟩, ?_⟩
  rw [hrow, hS.row]
  simp only [List.mem_singleton, forall_eq, cityRow]
  omega

variable (i seen) in
/-- The first frame of a connection opens it. -/
theorem stance_heard (hpc : t.pc = .check) (he : t.Early) (hU : Unheard m client t)
    (hrest : Rests m once H M (selectMac (macKey m) rows))
    (h : pangoClientStep cfg env client t rows = some r) : r.thread.pc = .exist ∧
      Stance m once i (H ++ r.readings) (M.visited i r.events)
      (stillSeen M (M.visited i r.events) seen)
        (selectMac (macKey m) r.yourTable) r.client r.thread := by
  obtain ⟨hv, hstart, hfm⟩ := hU.buff hpc
  obtain ⟨b, hb, hstep⟩ := pangoClientStep_check cfg env client rows hpc hv (by rw [he.1]; decide)
  rw [hstep] at h
  cases h
  have hsw : switchStatus t.clientDataBuff.status = .exist := by rw [hstart, switchStatus_startApp]
  have hM : M.visited i [Event.check (D := D) t.clientDataBuff]
      = { M with x := t.clientDataBuff.x, y := t.clientDataBuff.y } := if_pos hstart
  refine ⟨hsw, hb.trans (macText_eq_macKey hfm), ?_⟩
  simp only [hsw, hM]
  exact ⟨hstart, .inl ⟨hU.connected, hU.checked, trivial, trivial, (hrest.of_parking rfl).mono _⟩⟩

/-! ### What the device sees of it -/

/-- **A bill** is for no more than the time on the meter, and exactly for it if `once`. -/
theorem bill_of_stance (hpc : t.pc = .pay) (hJ : Stance m once i H M seen R client t)
    (h : pangoClientStep cfg env client t rows = some r) :
    ∃ p secs total ok, M.parking = some p ∧ p.since = none ∧
      r.events = [.send (.payment total (CDouble.ofInt secs)) ok] ∧ InInt32 secs ∧ 0 ≤ secs ∧
      secs ≤ p.seconds ∧ (once → secs = p.seconds) := by
  simp only [Stance, hpc] at hJ
  obtain ⟨-, -, ⟨p, hpark, hsince, h0, hle, hex⟩, -⟩ := hJ
  simp only [pangoClientStep, hpc, calculateAndSendPaymentData] at h
  cases h
  exact ⟨p, _, _, _, hpark, hsince, rfl, inInt32_toInt32 _, h0, hle, hex⟩

/-- **A lookup** finds the parking under way, if `once`. -/
theorem found_of_stance {p : Parking} (hpc : t.pc = .exist) (hsql : env.sqlFails = []) (ho : once)
    (hpark : M.parking = some p)
    (hJ : Stance m once i H M seen (selectMac (macKey m) rows) client t)
    (h : pangoClientStep cfg env client t rows = some r) : r.thread.pc = .retriev := by
  simp only [Stance, hpc] at hJ
  obtain ⟨hmac, -, ⟨-, hch, -, -, hrest⟩ | ⟨-, hno, -⟩⟩ := hJ
  · unfold Rests at hrest
    rw [hpark] at hrest
    obtain ⟨-, used, hrow, -⟩ := hrest
    simp only [pangoClientStep, hpc, Env.fails_of_nil hsql, clinetExistInDatabaseCheck_of_ok,
      hmac] at h
    cases h
    simp [hch, hrow]
  · exact absurd ho hno

/-- **A resumption**: the parking under way goes on, in its own place. -/
theorem resumed_of_stance (hpc : t.pc = .retriev) (hsql : env.sqlFails = [])
    (hJ : Stance m once i H M seen (selectMac (macKey m) rows) client t)
    (h : pangoClientStep cfg env client t rows = some r) : ∃ p, M.parking = some p ∧
      cstr r.client.location.toList = cityName p.x p.y ∧ r.yourTable = rows ∧
      ∃ ok, .send (.location r.client.location) ok ∈ r.events := by
  simp only [Stance, hpc] at hJ
  obtain ⟨hmac, hst, hcase⟩ := hJ
  have hrow : ∃ p used, M.parking = some p ∧ selectMac (macKey m) rows = [cityRow m p used] := by
    rcases hcase with ⟨-, hpark, hrest⟩ | ⟨-, -, p, first, start, sync, hS⟩
    · obtain ⟨p, hp⟩ := Option.ne_none_iff_exists'.mp hpark
      unfold Rests at hrest
      rw [hp] at hrest
      obtain ⟨-, used, hrow, -⟩ := hrest
      exact ⟨p, used, hp, hrow⟩
    · exact ⟨p, _, hS.parking, hS.row⟩
  obtain ⟨p, used, hp, hrow⟩ := hrow
  have hrow' : selectMac client.mac rows = [cityRow m p used] := by rw [hmac, hrow]
  simp only [pangoClientStep, hpc, retrievClientData_of_ok hsql hrow', ne_eq, reduceCtorEq,
    not_false_eq_true, if_true] at h
  cases h
  exact ⟨p, hp, cstr_locationFunc p.x p.y client.location, rfl, !env.sendFails, by simp⟩

end Step

end Pango.Server
