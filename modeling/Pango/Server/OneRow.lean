import Pango.Server.Device

/-!
# One row for each address

`your_table` has no unique key.  A connection looks its address up outside the
critical section in which it inserts the row, so whether the table keeps one row
for each address is a matter of what happens between the two.  Everything that comes later
takes it for granted that there is one: an `UPDATE` writes all rows of the address, and a
lookup reads the first.

* `OneRow` — the invariant: the addresses are distinct, and a connection that has
  looked its address up in vain is alone with it until it has inserted the row.
* `nodup_of_exec` — it holds in every run in which no connection looks an address
  up while another one is registering it.
* `two_rows_of_race` — two connections of one device that both look up before
  either inserts leave two rows.
-/

namespace Pango.Server

variable {D : Type*}

/-- The thread has looked its address up in vain and not inserted it yet. -/
def Pc.registering : Pc → Bool
  | .init | .process => true
  | _ => false

/-- The SQLite calls of the step work. -/
def SqlWorks : Label → Prop
  | .client _ env => env.sqlFails = []
  | .backup _ sqlFails => sqlFails = []
  | _ => True

instance : (l : Label) → Decidable (SqlWorks l)
  | .client _ env => inferInstanceAs (Decidable (env.sqlFails = []))
  | .backup _ sqlFails => inferInstanceAs (Decidable (sqlFails = []))
  | .accept .. => isTrue trivial

/-- A connection that looks up an address with a row, and has not resumed its parking yet,
gets an answer. -/
def LookupWorks (s : State D) : Label → Prop
  | .client i env => ∀ t ∈ s.thread i, t.pc = .exist → t.checkedDatabase = false →
      selectMac (s.client i).mac s.yourTable ≠ [] → env.fails 0 = false ∧ env.fails 1 = false
  | _ => True

theorem SqlWorks.lookupWorks {s : State D} {l : Label} (h : SqlWorks l) : LookupWorks s l := by
  cases l with
  | client i env => exact fun _ _ _ _ _ => ⟨Env.fails_of_nil h 0, Env.fails_of_nil h 1⟩
  | accept i fd => trivial
  | backup c f => trivial

/-- A connection that is about to look its address up finds no other connection
registering it; `others` says which connections are meant. -/
def LookupAlone (others : State D → ℕ → (ℕ → Thread → Prop) → Prop) (s : State D) : Label → Prop
  | .client i _ => ∀ t ∈ s.thread i, t.pc = .exist → others s i fun j u =>
      u.pc.registering = true → (s.client j).mac ≠ (s.client i).mac
  | _ => True

/-- The invariant. -/
structure OneRow (s : State D) : Prop where
  /-- Every address has one row at most. -/
  nodup : (s.yourTable.map Row.macAdr).Nodup
  /-- A connection that registers an address finds no row for it. -/
  vacant : ∀ i, ∀ t ∈ s.thread i, t.pc.registering = true →
    selectMac (s.client i).mac s.yourTable = []
  /-- No two connections register one address. -/
  alone : ∀ i, ∀ t ∈ s.thread i, t.pc.registering = true → Others s i fun j u =>
    u.pc.registering = true → (s.client j).mac ≠ (s.client i).mac

section Step

variable [CDouble D] {cfg : Config D} {s s' : State D} {l : Label}

/-- A thread starts registering when it has looked its address up in vain. -/
theorem registering_pangoClientStep {env : Env} {client : PangoData D} {t : Thread}
    {rows : List Row} {r : Turn D}
    (hlookup : t.pc = .exist → t.checkedDatabase = false → selectMac client.mac rows ≠ [] →
      env.fails 0 = false ∧ env.fails 1 = false)
    (h : pangoClientStep cfg env client t rows = some r) (hr : r.thread.pc.registering = true) :
    r.client.mac = client.mac ∧ r.yourTable = rows ∧
      (t.pc = .init ∨ t.pc = .exist ∧ selectMac client.mac rows = []) := by
  have hnext := pc_pangoClientStep h
  cases hpc : t.pc with
  | init =>
    simp only [pangoClientStep, hpc] at h
    cases h
    exact ⟨rfl, rfl, .inl rfl⟩
  | exist =>
    simp only [pangoClientStep, hpc] at h
    cases h
    refine ⟨rfl, rfl, .inr ⟨rfl, ?_⟩⟩
    cases hch : t.checkedDatabase with
    | true =>
      rw [hch] at hr
      dsimp only at hr
      split at hr <;> cases hr
    | false =>
      by_contra hrow
      obtain ⟨h0, h1⟩ := hlookup hpc hch hrow
      simp [hch, hrow, h0, h1, clinetExistInDatabaseCheck_of_ok, Pc.registering] at hr
  | _ =>
    -- no other step leads to a registration
    have hno : ∀ pc ∈ t.pc.next, pc.registering = false := by
      rw [hpc]
      decide
    rw [hno _ hnext] at hr
    cases hr

omit [CDouble D] in
/-- Updates and deletions make no row. -/
theorem select_apply_eq_nil {stmt : Stmt} {rows : List Row} {mac : List UInt8}
    (h : selectMac mac rows = []) (hins : ∀ row, stmt = .insert row → row.macAdr ≠ mac) :
    selectMac mac (stmt.apply rows) = [] := by
  by_cases hm : stmt.mac = mac
  · subst hm
    cases stmt with
    | insert row => exact absurd rfl (hins row rfl)
    | update t m => exact Stmt.select_update t |>.trans (by rw [h]; rfl)
    | delete m => exact Stmt.select_delete
  · rw [Stmt.select_apply_of_ne hm, h]

/-- Seen from the addresses, a step of connection `i` leaves the table as it is, or brings one
row more for an address that had none. -/
theorem oneRow_table {i : ℕ} {env : Env} {t : Thread} {r : Turn D} (hJ : OneRow s)
    (ht : s.thread i = some t)
    (hr : pangoClientStep cfg env (s.client i) t s.yourTable = some r) :
    (r.yourTable.map Row.macAdr).Nodup ∧ ∀ mac, selectMac mac s.yourTable = [] →
      (t.pc.registering = true → (s.client i).mac ≠ mac) → selectMac mac r.yourTable = [] := by
  rcases yourTable_pangoClientStep hr with heq | ⟨hpc, heq⟩ | ⟨-, heq⟩ | ⟨-, heq⟩ <;> rw [heq]
  · exact ⟨hJ.nodup, fun _ h _ => h⟩
  · have hreg : t.pc.registering = true := by rw [hpc]; rfl
    refine ⟨KeyedTable.nodup_insert hJ.nodup (hJ.vacant i t ht hreg), fun mac h hne => ?_⟩
    refine select_apply_eq_nil h fun row hrow => ?_
    cases hrow
    exact hne hreg
  · refine ⟨?_, fun mac h _ => select_apply_eq_nil h fun _ hrow => nomatch hrow⟩
    have hkeys : ((Stmt.update (secondsUsed (s.client i) env.now) (s.client i).mac).apply
        s.yourTable).map Row.macAdr = s.yourTable.map Row.macAdr :=
      KeyedTable.map_key_update fun _ => rfl
    exact hkeys ▸ hJ.nodup
  · exact ⟨KeyedTable.nodup_delete hJ.nodup,
      fun mac h _ => select_apply_eq_nil h fun _ hrow => nomatch hrow⟩

theorem oneRow_step (hlookup : LookupWorks s l) (halone : LookupAlone Others s l) (hJ : OneRow s)
    (hs : (server cfg).step s l = some s') : OneRow s' := by
  rcases step_cases hs with
      ⟨i, fd, rfl, hi, rfl⟩ | ⟨i, env, t, r, rfl, ht, hr, rfl⟩ | ⟨c, f, rfl, rfl⟩
  · -- a thread that has just been started registers nothing
    have hold : ∀ j, ∀ u ∈ (s.accepted i fd).thread j, u.pc.registering = true →
        u ∈ s.thread j ∧ ((s.accepted i fd).client j).mac = (s.client j).mac := by
      intro j u hu hreg
      by_cases hji : j = i
      · subst hji
        rw [accepted_thread_self] at hu
        cases hu
        cases hreg
      · rw [accepted_thread_of_ne s fd hji] at hu
        rw [accepted_client_of_ne s fd hji]
        exact ⟨hu, rfl⟩
    refine ⟨hJ.nodup, fun j u hu hreg => ?_, fun j u hu hreg k hkj v hv hregv => ?_⟩
    · obtain ⟨hu, hmac⟩ := hold j u hu hreg
      rw [hmac]
      exact hJ.vacant j u hu hreg
    · obtain ⟨hu, hmac⟩ := hold j u hu hreg
      obtain ⟨hv, hmacv⟩ := hold k v hv hregv
      rw [hmac, hmacv]
      exact hJ.alone j u hu hreg k hkj v hv hregv
  · obtain ⟨hnodup, hvac⟩ := oneRow_table hJ ht hr
    -- whoever registers after the step: another connection did before, and
    -- connection `i` has taken its lookup at most
    have hself : r.thread.pc.registering = true → r.client.mac = (s.client i).mac ∧
        selectMac (s.client i).mac r.yourTable = [] ∧
        Others s i fun j u => u.pc.registering = true → (s.client j).mac ≠ (s.client i).mac := by
      intro hreg
      obtain ⟨hmac, htable, hpc | ⟨hpc, hnil⟩⟩ := registering_pangoClientStep (hlookup t ht) hr hreg
      · have hregt : t.pc.registering = true := by rw [hpc]; rfl
        exact ⟨hmac, htable ▸ hJ.vacant i t ht hregt, hJ.alone i t ht hregt⟩
      · exact ⟨hmac, htable ▸ hnil, halone t ht hpc⟩
    have hother : ∀ j, j ≠ i → ∀ u ∈ (s.turn i r).thread j, u ∈ s.thread j := by
      intro j hji u hu
      rwa [turn_thread_of_ne s r hji] at hu
    refine ⟨hnodup, fun j u hu hreg => ?_, fun j u hu hreg k hkj v hv hregv => ?_⟩
    · by_cases hji : j = i
      · subst hji
        rw [turn_thread_self] at hu
        cases hu
        obtain ⟨hmac, hnil, -⟩ := hself hreg
        rw [turn_client_self, hmac]
        exact hnil
      · have hu := hother j hji u hu
        rw [turn_client_of_ne s r hji]
        exact hvac _ (hJ.vacant j u hu hreg) fun hregt => hJ.alone j u hu hreg i
          (Ne.symm hji) t ht hregt
    · by_cases hji : j = i
      · subst hji
        rw [turn_thread_self] at hu
        cases hu
        obtain ⟨hmac, -, hal⟩ := hself hreg
        rw [turn_client_self, hmac, turn_client_of_ne s r hkj]
        exact hal k hkj v (hother k hkj v hv) hregv
      · have huj := hother j hji u hu
        rw [turn_client_of_ne s r hji]
        by_cases hki : k = i
        · subst hki
          rw [turn_thread_self] at hv
          cases hv
          obtain ⟨hmac, -, hal⟩ := hself hregv
          rw [turn_client_self, hmac]
          exact (hal j hji u huj hreg).symm
        · rw [turn_client_of_ne s r hki]
          exact hJ.alone j u huj hreg k hkj v (hother k hki v hv) hregv
  · have hkeys : ((s.backedUp cfg.updateThreadMaxNumClients c f).yourTable).map Row.macAdr
        = s.yourTable.map Row.macAdr := by
      have := congrArg (List.map Prod.fst)
        (map_updateClients cfg.updateThreadMaxNumClients s.client c f s.yourTable)
      simpa [State.backedUp, Function.comp_def] using this
    refine ⟨hkeys ▸ hJ.nodup, fun j u hu hreg => ?_, hJ.alone⟩
    have hnil := hJ.vacant j u hu hreg
    rw [selectMac, KeyedTable.select_eq_nil] at hnil ⊢
    intro row hrow hmac
    have : row.macAdr ∈ s.yourTable.map Row.macAdr := hkeys ▸ List.mem_map_of_mem hrow
    obtain ⟨row', hrow', heq⟩ := List.mem_map.mp this
    exact hnil row' hrow' (heq.trans hmac)

/-- **One row per device.**  In every run from a table with one row for each
address at most, in which SQLite works and no connection looks an address up
while another one is registering it, the table keeps one row for each address at
most. -/
theorem nodup_of_exec {rows : List Row} {ls : List Label}
    (h : (server cfg).Exec (fun s l => SqlWorks l ∧ LookupAlone Others s l) (.start rows) ls s)
    (hrows : (rows.map Row.macAdr).Nodup) : (s.yourTable.map Row.macAdr).Nodup :=
  (h.invariant (I := OneRow)
    ⟨hrows, fun _ _ ht => (nomatch ht), fun _ _ ht => (nomatch ht)⟩
    fun _ _ _ hC hJ hs => oneRow_step hC.1.lookupWorks hC.2 hJ hs).nodup

end Step

instance (n : ℕ) (s : State D) : (l : Label) → Decidable (LookupAlone (OthersBelow n) s l)
  | .client i _ => inferInstanceAs (Decidable (∀ t ∈ s.thread i, t.pc = .exist → _))
  | .accept .. | .backup .. => isTrue trivial

/-- A device starts on connection 0, is lost there and comes back on connection 1. -/
theorem nodup_after_reconnection : ∃ s : State Int,
    s.yourTable = [⟨macKey sampleMac, 60, ashkelon⟩] ∧ (s.yourTable.map Row.macAdr).Nodup := by
  have hrun : ((server samplePrices).runIf
      (fun s l => l.Below 2 ∧ SqlWorks l ∧ LookupAlone (OthersBelow 2) s l) (.start [])
      (sampleStart 0 100 ++ [.client 0 {}, .client 0 {}, .client 0 { now := 160 }, .accept 1 5,
        .client 1 { recv := recvFrame (sampleFrame startApp) }, .client 1 {}, .client 1 {},
        .client 1 { now := 200 }])).map State.yourTable
      = some [⟨macKey sampleMac, 60, ashkelon⟩] := by decide +kernel
  obtain ⟨s, hs, htable⟩ := Option.map_eq_some_iff.mp hrun
  refine ⟨s, htable, nodup_of_exec (exec_of_below 2 (Lts.exec_of_runIf _ hs) (fun _ _ h => h.1) ?_)
    List.nodup_nil⟩
  rintro s l ⟨-, hsql, halone⟩ hothers
  refine ⟨hsql, ?_⟩
  cases l with
  | client i env => exact fun t ht hpc => hothers i _ (halone t ht hpc)
  | accept i fd => trivial
  | backup c f => trivial

/-! ## Two connections of one device at once -/

/-- Two connections of one device look its address up before either inserts it. -/
def raceRun : List Label :=
  [.accept 0 4, .accept 1 5,
    .client 0 { recv := recvFrame (sampleFrame startApp) }, .client 0 {}, .client 0 {},
    .client 1 { recv := recvFrame (sampleFrame startApp) }, .client 1 {}, .client 1 {},
    .client 0 { now := 100 }, .client 0 {}, .client 1 { now := 100 }, .client 1 {}]

/-- **Two rows.**  It is not true that every run keeps one row for each address,
even if every frame passes its check and SQLite works. -/
theorem two_rows_of_race :
    ¬ ∀ (rows : List Row) (ls : List Label) (s : State Int), (rows.map Row.macAdr).Nodup →
      (server samplePrices).Exec (fun s l => SqlWorks l ∧ FramesValid s l) (.start rows) ls s →
      (s.yourTable.map Row.macAdr).Nodup := by
  intro hclaim
  have hrun : ((server samplePrices).runIf (fun s l => SqlWorks l ∧ FramesValid s l) (.start [])
      raceRun).map (fun s => s.yourTable.map Row.macAdr)
      = some [macKey sampleMac, macKey sampleMac] := by decide +kernel
  obtain ⟨s, hs, hkeys⟩ := Option.map_eq_some_iff.mp hrun
  have := hclaim [] raceRun s List.nodup_nil (Lts.exec_of_runIf _ hs)
  rw [hkeys] at this
  exact absurd this (by decide)

end Pango.Server
