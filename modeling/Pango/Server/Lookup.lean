import Pango.Server.OneRow

/-!
# Lookups that fail

`clinet_exist_in_database_check` answers a row found with `TRUE` and everything else
with `FALSE`: no row, a statement that cannot be prepared, a step that fails.  The
caller takes `FALSE` for a new client, unless it has resumed a parking before.

So a database that is busy for a moment, while a backup pass writes to it say, may give a
device a second row, and with it a second parking that begins at zero.  The race of
`Server.OneRow` is not needed for this; one connection after the other is enough.

* `OneAtATime` — connections are handled one at a time.
* `unique_of_lookups` — then a row is inserted only for an address without one, if no
  lookup fails on an address that has one, whatever else may fail.
* `second_row_of_failed_lookup` — one that does.
-/

namespace Pango.Server

variable {D : Type*}

/-- A connection is handled while the others have not been heard yet or have ended. -/
def OneAtATime (others : State D → ℕ → (ℕ → Thread → Prop) → Prop) (s : State D) : Label → Prop
  | .client i _ => others s i fun _ u => u = {} ∨ u.pc = .done
  | _ => True

/-- A step executes an `INSERT` only for an address without a row. -/
def InsertsOnlyNew [CDouble D] (cfg : Config D) (s : State D) : Label → Prop
  | .client i env => ∀ t ∈ s.thread i, ∀ r,
      pangoClientStep cfg env (s.client i) t s.yourTable = some r →
      ∀ row ok, .exec (.insert row) ok ∈ r.events → selectMac row.macAdr s.yourTable = []
  | _ => True

section Step

variable [CDouble D] {cfg : Config D} {env : Env} {client : PangoData D} {t : Thread}
  {rows : List Row} {r : Turn D} {s s' : State D} {l : Label}

/-- A row is inserted in the critical section of `process_client_data`, under the address
of the slot. -/
theorem insert_pangoClientStep (h : pangoClientStep cfg env client t rows = some r) {row : Row}
    {ok : Bool} (hmem : .exec (.insert row) ok ∈ r.events) :
    t.pc = .process ∧ row.macAdr = client.mac := by
  have hretriev :
      .exec (.insert row) ok ∉ (retrievClientData cfg env client t.status rows).events := by
    unfold retrievClientData
    dsimp only
    split_ifs <;> simp
  cases hpc : t.pc with
  | process =>
    obtain ⟨p, hp⟩ := retrieveParkingPrice_client (env.fails 0) (env.fails 1) cfg.cityParking client
    simp only [pangoClientStep, hpc, processClientData] at h
    cases h
    dsimp only at hmem
    refine ⟨rfl, ?_⟩
    split_ifs at hmem <;> simp only [List.mem_cons, reduceCtorEq, List.not_mem_nil, or_false,
      false_or, Event.exec.injEq, Stmt.insert.injEq] at hmem
    · rw [hmem.1, hp]
      rfl
    · rw [hmem.1, hp]
      rfl
  | recv | check =>
    simp only [pangoClientStep, hpc] at h
    split at h <;> cases h <;> simp at hmem
  | retriev =>
    simp only [pangoClientStep, hpc] at h
    split at h <;> cases h <;> exact absurd hmem hretriev
  | lost | exist | init | sendLocation | setConnected | close | pay | remove | update | sendErrMsg
  | closeFd =>
    simp only [pangoClientStep, hpc, removeClientData, updateClientData,
      calculateAndSendPaymentData] at h
    cases h
    simp at hmem
  | done => simp [pangoClientStep, hpc] at h

/-- Connections that register an address have found no row for it, and it stays so. -/
theorem OneRow.insertsOnlyNew (hJ : OneRow s) (l : Label) : InsertsOnlyNew cfg s l := by
  cases l with
  | client i env =>
    intro t ht r hr row ok hmem
    obtain ⟨hpc, hmac⟩ := insert_pangoClientStep hr hmem
    rw [hmac]
    exact hJ.vacant i t ht (by rw [hpc]; rfl)
  | accept i fd => trivial
  | backup c f => trivial

omit [CDouble D] in
theorem OneAtATime.of_below {n : ℕ} (h : OneAtATime (OthersBelow n) s l)
    (hothers : ∀ i P, OthersBelow n s i P → Others s i P) : OneAtATime Others s l := by
  cases l with
  | client i env => exact hothers i _ h
  | accept i fd => trivial
  | backup c f => trivial

omit [CDouble D] in
/-- One at a time, no connection finds another one registering. -/
theorem OneAtATime.lookupAlone (h : OneAtATime Others s l) : LookupAlone Others s l := by
  cases l with
  | client i env =>
    intro t ht hpc j hji u hu hreg
    rcases h j hji u hu with rfl | hdone
    · cases hreg
    · rw [hdone] at hreg
      cases hreg
  | accept i fd => trivial
  | backup c f => trivial

/-- **A client that is not new is not inserted.**  In every run from a table with one row
for each address at most in which connections are handled one at a time, and no lookup
fails on an address with a row, every `INSERT` is for an address without a row, and every
address has one row at most; whatever other SQLite calls fail. -/
theorem unique_of_lookups {rows : List Row} {ls : List Label}
    (h : (server cfg).Exec (fun s l => OneAtATime Others s l ∧ LookupWorks s l) (.start rows) ls s)
    (hrows : (rows.map Row.macAdr).Nodup) :
    (server cfg).Exec (fun s l => InsertsOnlyNew cfg s l) (.start rows) ls s ∧
      (s.yourTable.map Row.macAdr).Nodup := by
  obtain ⟨hexec, hJ⟩ := h.strengthen (I := OneRow)
    ⟨hrows, fun _ _ ht => (nomatch ht), fun _ _ ht => (nomatch ht)⟩
    fun _ _ _ hC hJ hs => oneRow_step hC.2 hC.1.lookupAlone hJ hs
  exact ⟨hexec.mono fun _ l hC => hC.2.insertsOnlyNew l, hJ.nodup⟩

end Step

instance (n : ℕ) (s : State D) : (l : Label) → Decidable (OneAtATime (OthersBelow n) s l)
  | .client i _ => inferInstanceAs (Decidable (OthersBelow n s i _))
  | .accept .. | .backup .. => isTrue trivial

instance (s : State D) : (l : Label) → Decidable (LookupWorks s l)
  | .client i _ => inferInstanceAs (Decidable (∀ t ∈ s.thread i, t.pc = .exist →
      t.checkedDatabase = false → selectMac (s.client i).mac s.yourTable ≠ [] → _))
  | .accept .. | .backup .. => isTrue trivial

/-- A device starts at 100; the `k`-th call of its lookup fails. -/
def startPast (k : ℕ) : List Label :=
  [.accept 0 4] ++ sampleSend 0 startApp ++
    [.client 0 { sqlFails := [k] }, .client 0 { now := 100 }, .client 0 {}]

/-- Its address has no row, so the failure does no harm. -/
theorem unique_of_lookups_past : ∃ s : State Int,
    s.yourTable = [⟨macKey sampleMac, 0, ashkelon⟩] ∧ (s.yourTable.map Row.macAdr).Nodup := by
  have hrun : ((server samplePrices).runIf
      (fun s l => l.Below 1 ∧ OneAtATime (OthersBelow 1) s l ∧ LookupWorks s l) (.start [])
      (startPast 0)).map State.yourTable = some [⟨macKey sampleMac, 0, ashkelon⟩] := by
    decide +kernel
  obtain ⟨s, hs, htable⟩ := Option.map_eq_some_iff.mp hrun
  refine ⟨s, htable, (unique_of_lookups (exec_of_below 1 (Lts.exec_of_runIf _ hs)
    (fun _ _ h => h.1) ?_) List.nodup_nil).2⟩
  rintro s l ⟨-, halone, hlookup⟩ hothers
  exact ⟨halone.of_below hothers, hlookup⟩

/-- **A second row.**  It is not true that a failed lookup is not taken for a missing
client: the device has a row, and `sqlite3_step` returns an error. -/
theorem second_row_of_failed_lookup :
    ¬ ∀ (rows : List Row) (ls : List Label) (s : State Int), (rows.map Row.macAdr).Nodup →
      (server samplePrices).Exec (OneAtATime Others) (.start rows) ls s →
      (server samplePrices).Exec (fun s l => InsertsOnlyNew samplePrices s l) (.start rows) ls s ∧
        (s.yourTable.map Row.macAdr).Nodup := by
  intro hclaim
  have hrun : ((server samplePrices).runIf
      (fun s l => l.Below 1 ∧ OneAtATime (OthersBelow 1) s l)
      (.start [⟨macKey sampleMac, 30, ashkelon⟩]) (startPast 1)).map
      (fun s => s.yourTable.map Row.macAdr) = some [macKey sampleMac, macKey sampleMac] := by
    decide +kernel
  obtain ⟨s, hs, hkeys⟩ := Option.map_eq_some_iff.mp hrun
  have hexec := exec_of_below (C := OneAtATime Others) 1 (Lts.exec_of_runIf _ hs)
    (fun _ _ h => h.1) fun _ _ h hothers => h.2.of_below hothers
  have hnodup := (hclaim [⟨macKey sampleMac, 30, ashkelon⟩] _ s (List.nodup_singleton _) hexec).2
  rw [hkeys] at hnodup
  exact absurd hnodup (by decide)

end Pango.Server
