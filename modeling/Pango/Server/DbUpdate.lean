import Pango.Server.Data

/-!
# The backup thread: `update_clients`

A backup pass walks over the slots the backup thread scans and writes the time
used of every connected one, each with an `UPDATE` by the address the slot carries.  It
does not know which slots are still in use, nor whether two of them carry one address.

Its effect on the rows of one MAC address depends on the slots that carry this
address only, and that is the form in which it is used everywhere else.

* `updateClientsStmts`, `updateClientsEvents` — the statements of a pass, and all that
  can be seen of it.
* `select_updateClients_congr` — **locality**, in the slots and in the rows.
* `select_updateClients_of_idle`, `select_updateClients_of_single` — an address that no
  connected slot carries, and one that a single slot carries.
* `updateClients_eq_map` — where several slots carry one address the last of them decides.
-/

namespace Pango.Server

variable {D : Type*}

/-- The seconds `update_clients` writes for a slot at a clock reading: a
difference of two `int`s. -/
def secondsBackedUp (client : PangoData D) (now : Int) : Int :=
  CInt.toInt32 (CInt.toInt32 now - client.timeStartParking)

/-- The statement a pass executes for a slot. -/
def backupStmt (client : PangoData D) (now : Int) : Stmt :=
  .update (secondsBackedUp client now) client.mac

/-- One turn of the loop of `update_clients`: nothing for a slot that is not
connected. -/
def updateClientsTurn (client : ℕ → PangoData D) (clock : ℕ → Int) (sqlFails : List ℕ)
    (yourTable : List Row) (i : ℕ) : List Row :=
  if (client i).connected = true then
    sqlite3Exec (decide (i ∈ sqlFails)) (backupStmt (client i) (clock i)) yourTable
  else yourTable

/-- The table after `update_clients` has run over the first `n` slots; `clock i`
is the reading taken for slot `i`, and `sqlFails` are the slots whose statement
fails. -/
def updateClients (n : ℕ) (client : ℕ → PangoData D) (clock : ℕ → Int) (sqlFails : List ℕ)
    (yourTable : List Row) : List Row :=
  (List.range n).foldl (updateClientsTurn client clock sqlFails) yourTable

/-- The slots a pass writes for. -/
def backupSlots (n : ℕ) (client : ℕ → PangoData D) : List ℕ :=
  (List.range n).filter fun i => (client i).connected

/-- A pass is one statement for each of these slots, in order. -/
theorem updateClients_eq_foldl (n : ℕ) (client : ℕ → PangoData D) (clock : ℕ → Int)
    (sqlFails : List ℕ) (rows : List Row) :
    updateClients n client clock sqlFails rows
      = (backupSlots n client).foldl (fun rows i =>
          sqlite3Exec (decide (i ∈ sqlFails)) (backupStmt (client i) (clock i)) rows) rows := by
  unfold updateClients backupSlots
  rw [List.foldl_filter]
  rfl

/-- What a pass does for slot `i`. -/
def slotEvents (client : ℕ → PangoData D) (clock : ℕ → Int) (sqlFails : List ℕ) (i : ℕ) :
    List (Event D) :=
  if (client i).connected = true then
    [.clock .updateClients (clock i),
     .exec (backupStmt (client i) (clock i)) (decide (i ∉ sqlFails))]
  else []

/-- What it does for all of them. -/
def updateClientsStmts (n : ℕ) (client : ℕ → PangoData D) (clock : ℕ → Int)
    (sqlFails : List ℕ) : List (Event D) :=
  (List.range n).flatMap (slotEvents client clock sqlFails)

/-- The actions of a pass, which holds the mutex all along. -/
def updateClientsEvents (n : ℕ) (client : ℕ → PangoData D) (clock : ℕ → Int)
    (sqlFails : List ℕ) : List (Event D) :=
  .lock :: updateClientsStmts n client clock sqlFails ++ [.unlock]

theorem updateClients_succ (n : ℕ) (client : ℕ → PangoData D) (clock : ℕ → Int)
    (sqlFails : List ℕ) (rows : List Row) :
    updateClients (n + 1) client clock sqlFails rows
      = updateClientsTurn client clock sqlFails (updateClients n client clock sqlFails rows) n := by
  rw [updateClients, List.range_succ, List.foldl_append]
  rfl

/-- A pass changes neither the rows' addresses and locations nor their order. -/
theorem map_updateClients (n : ℕ) (client : ℕ → PangoData D) (clock : ℕ → Int)
    (sqlFails : List ℕ) (rows : List Row) :
    (updateClients n client clock sqlFails rows).map (fun r => (r.macAdr, r.location))
      = rows.map (fun r => (r.macAdr, r.location)) := by
  induction n with
  | zero => rfl
  | succ n ih =>
    rw [updateClients_succ, ← ih]
    unfold updateClientsTurn sqlite3Exec
    split_ifs
    · rfl
    · unfold backupStmt Stmt.apply KeyedTable.update
      rw [List.map_map]
      refine List.map_congr_left fun r _ => ?_
      by_cases hr : r.macAdr = (client n).mac <;> simp [hr, Row.setTimeUsed]
    · rfl

/-- So a device's only row stays its only row, in its place. -/
theorem select_updateClients_singleton {mac loc : List UInt8} {timeUsed : Int} {rows : List Row}
    (h : selectMac mac rows = [⟨mac, timeUsed, loc⟩]) (n : ℕ) (client : ℕ → PangoData D)
    (clock : ℕ → Int) (sqlFails : List ℕ) :
    ∃ timeUsed', selectMac mac (updateClients n client clock sqlFails rows)
      = [⟨mac, timeUsed', loc⟩] := by
  have hselect : ∀ rows : List Row, (selectMac mac rows).map (fun r => (r.macAdr, r.location))
      = (rows.map fun r => (r.macAdr, r.location)).filter (fun k => k.1 = mac) := by
    intro rows
    rw [List.filter_map]
    rfl
  have hmap := hselect (updateClients n client clock sqlFails rows)
  rw [map_updateClients, ← hselect, h] at hmap
  obtain ⟨r, hr, hkey⟩ := List.map_eq_singleton_iff.mp hmap
  have hrow : r = ⟨mac, r.timeUsed, loc⟩ := by
    cases r
    cases hkey
    rfl
  exact ⟨r.timeUsed, hr.trans (congrArg (fun r => [r]) hrow)⟩

/-- **A pass acts on a MAC address only through the slots that carry it**: if two
servers agree on the rows of `mac` and on every connected slot with `mac`, they
agree on the rows of `mac` afterwards. -/
theorem select_updateClients_congr {mac : List UInt8} {client client' : ℕ → PangoData D}
    {n : ℕ} (clock : ℕ → Int) (sqlFails : List ℕ) {rows rows' : List Row}
    (hrows : selectMac mac rows = selectMac mac rows')
    (hslot : ∀ i, ((client i).connected = true ∧ (client i).mac = mac
      ∨ (client' i).connected = true ∧ (client' i).mac = mac) → client i = client' i) :
    selectMac mac (updateClients n client clock sqlFails rows)
      = selectMac mac (updateClients n client' clock sqlFails rows') := by
  have hidle : ∀ (c : ℕ → PangoData D) (i : ℕ) (t : List Row),
      ¬ ((c i).connected = true ∧ (c i).mac = mac) →
      selectMac mac (updateClientsTurn c clock sqlFails t i) = selectMac mac t := by
    intro c i t hc
    unfold updateClientsTurn sqlite3Exec
    split_ifs with h₁ h₂
    · rfl
    · exact Stmt.select_apply_of_ne fun hmac => hc ⟨h₁, hmac⟩
    · rfl
  induction n with
  | zero => exact hrows
  | succ n ih =>
    rw [updateClients_succ, updateClients_succ]
    by_cases hact : (client n).connected = true ∧ (client n).mac = mac
      ∨ (client' n).connected = true ∧ (client' n).mac = mac
    · unfold updateClientsTurn sqlite3Exec
      rw [← hslot n hact]
      split_ifs
      · exact ih
      · exact Stmt.select_apply_congr _ ih
      · exact ih
    · rw [not_or] at hact
      rw [hidle client n _ hact.1, hidle client' n _ hact.2]
      exact ih

/-- A pass over slots none of which is connected with `mac` leaves the rows of
`mac` alone. -/
theorem select_updateClients_of_idle {mac : List UInt8} {client : ℕ → PangoData D} {n : ℕ}
    (clock : ℕ → Int) (sqlFails : List ℕ) (rows : List Row)
    (h : ∀ i, (client i).connected = true → (client i).mac ≠ mac) :
    selectMac mac (updateClients n client clock sqlFails rows) = selectMac mac rows := by
  induction n with
  | zero => rfl
  | succ n ih =>
    rw [updateClients_succ, updateClientsTurn]
    split_ifs with hc
    · have hne : (backupStmt (client n) (clock n)).mac ≠ mac := h n hc
      unfold sqlite3Exec
      split_ifs
      · exact ih
      · exact (Stmt.select_apply_of_ne hne).trans ih
    · exact ih

/-- A pass over slots of which slot `k` alone is connected with `mac` writes the rows of `mac`
for this slot, if it scans it. -/
theorem select_updateClients_of_single {mac : List UInt8} {client : ℕ → PangoData D} {n k : ℕ}
    (clock : ℕ → Int) {sqlFails : List ℕ} (rows : List Row) (hk : k ∉ sqlFails)
    (hcon : (client k).connected = true) (hmac : (client k).mac = mac)
    (hsingle : ∀ i, i ≠ k → (client i).connected = true → (client i).mac ≠ mac) :
    selectMac mac (updateClients n client clock sqlFails rows)
      = if k < n then (selectMac mac rows).map
      (Row.setTimeUsed (secondsBackedUp (client k) (clock k))) else selectMac mac rows := by
  induction n with
  | zero => rfl
  | succ n ih =>
    rw [updateClients_succ, updateClientsTurn]
    by_cases hnk : n = k
    · subst hnk
      rw [if_neg (lt_irrefl n)] at ih
      rw [if_pos hcon, if_pos (Nat.lt_succ_self n), sqlite3Exec, if_neg (by simpa using hk),
        backupStmt, hmac, Stmt.select_update, ih]
    · have hlt : k < n + 1 ↔ k < n := by omega
      rw [if_congr hlt rfl rfl, ← ih]
      split_ifs with hc
      · have hne : (backupStmt (client n) (clock n)).mac ≠ mac := hsingle n hnk hc
        unfold sqlite3Exec
        split_ifs
        · rfl
        · exact Stmt.select_apply_of_ne hne
      · rfl

/-! ### Several slots with one address -/

/-- The last of the slots below a bound that are connected with `mac`. -/
def lastSlot (client : ℕ → PangoData D) (mac : List UInt8) : ℕ → Option ℕ
  | 0 => none
  | n + 1 => if (client n).connected = true ∧ (client n).mac = mac then some n
      else lastSlot client mac n

variable {client : ℕ → PangoData D} {mac : List UInt8} {n : ℕ}

theorem lastSlot_eq_none_iff :
    lastSlot client mac n = none ↔ ∀ i < n, (client i).connected = true → (client i).mac ≠ mac := by
  induction n with
  | zero => simp [lastSlot]
  | succ n ih =>
    rw [lastSlot]
    split_ifs with hn
    · constructor
      · intro h
        cases h
      · intro h
        exact absurd hn.2 (h n (Nat.lt_succ_self n) hn.1)
    · rw [ih]
      constructor
      · intro h i hi hcon hmac
        rcases Nat.lt_succ_iff_lt_or_eq.mp hi with hi | rfl
        · exact h i hi hcon hmac
        · exact hn ⟨hcon, hmac⟩
      · exact fun h i hi => h i (Nat.lt_succ_of_lt hi)

theorem isGreatest_of_lastSlot {i : ℕ} (h : lastSlot client mac n = some i) :
    IsGreatest {j | j < n ∧ (client j).connected = true ∧ (client j).mac = mac} i := by
  induction n with
  | zero => cases h
  | succ n ih =>
    rw [lastSlot] at h
    split_ifs at h with hn
    · cases h
      exact ⟨⟨Nat.lt_succ_self _, hn⟩, fun j hj => Nat.le_of_lt_succ hj.1⟩
    · obtain ⟨⟨hi, hslot⟩, hmax⟩ := ih h
      refine ⟨⟨Nat.lt_succ_of_lt hi, hslot⟩, ?_⟩
      rintro j ⟨hj, hcon⟩
      rcases Nat.lt_succ_iff_lt_or_eq.mp hj with hj | rfl
      · exact hmax ⟨hj, hcon⟩
      · exact absurd hcon hn

/-- What a pass makes of a row. -/
def Row.backedUp (n : ℕ) (client : ℕ → PangoData D) (clock : ℕ → Int) (r : Row) : Row :=
  match lastSlot client r.macAdr n with
  | none => r
  | some i => r.setTimeUsed (secondsBackedUp (client i) (clock i))

theorem macAdr_backedUp (clock : ℕ → Int) (r : Row) :
    (r.backedUp n client clock).macAdr = r.macAdr := by
  unfold Row.backedUp
  split <;> rfl

/-- The statement of one slot more writes over what the slots before it have written. -/
theorem backedUp_succ (clock : ℕ → Int) (r : Row) : r.backedUp (n + 1) client clock
    = if (client n).connected = true ∧ (client n).mac = r.macAdr then
        r.setTimeUsed (secondsBackedUp (client n) (clock n))
      else r.backedUp n client clock := by
  unfold Row.backedUp
  rw [lastSlot]
  split_ifs <;> rfl

/-- A pass without failures writes every row for the last slot that is connected with its
address. -/
theorem updateClients_eq_map (n : ℕ) (client : ℕ → PangoData D) (clock : ℕ → Int)
    (rows : List Row) :
    updateClients n client clock [] rows = rows.map (Row.backedUp n client clock) := by
  induction n with
  | zero => exact (List.map_id rows).symm
  | succ n ih =>
    have hset : ∀ (r : Row) (t : Int),
        (r.backedUp n client clock).setTimeUsed t = r.setTimeUsed t := by
      intro r t
      unfold Row.backedUp
      split <;> rfl
    rw [updateClients_succ, ih, updateClientsTurn]
    split_ifs with hcon
    · rw [sqlite3Exec, if_neg (by simp), backupStmt, Stmt.apply, KeyedTable.update, List.map_map]
      refine List.map_congr_left fun r _ => ?_
      rw [Function.comp_apply, backedUp_succ, macAdr_backedUp, hset]
      by_cases hmac : r.macAdr = (client n).mac
      · rw [if_pos hmac, if_pos ⟨hcon, hmac.symm⟩]
      · rw [if_neg hmac, if_neg fun h => hmac h.2.symm]
    · refine List.map_congr_left fun r _ => ?_
      rw [backedUp_succ, if_neg fun h => hcon h.1]

end Pango.Server
