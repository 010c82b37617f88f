import Mathlib

/-!
# Tables addressed by a key

A table without a uniqueness constraint is a list of rows, and a statement with
a `WHERE key = k` clause reads, changes or deletes every row with that key, be it
none, one or many.  That two such statements do not disturb each other if their keys
differ is what lets a table be reasoned about one key at a time.

Each operation is described by what it does to the rows of one key
(`select_*_self`) and by the fact that it does nothing to the rows of another
(`select_*_of_ne`), so two tables that agree on a key still agree on it after
the same statement.

* `select_eq_nil` — no row is found exactly if there is none.
* `update_eq_self_iff` — an update that changes nothing.
* `nodup_insert`, `nodup_delete` — when the keys stay distinct.
-/

namespace KeyedTable

variable {ρ κ : Type*} [DecidableEq κ] (key : ρ → κ)

/-- The rows with key `k`, in table order. -/
def select (k : κ) (rows : List ρ) : List ρ := rows.filter fun r => key r = k

/-- Replace every row with key `k` by its image under `f`. -/
def update (k : κ) (f : ρ → ρ) (rows : List ρ) : List ρ :=
  rows.map fun r => if key r = k then f r else r

/-- Delete every row with key `k`. -/
def delete (k : κ) (rows : List ρ) : List ρ := rows.filter fun r => key r ≠ k

/-- Append a row. -/
def insert (r : ρ) (rows : List ρ) : List ρ := rows ++ [r]

variable {key} {k k' : κ} {f : ρ → ρ} {rows : List ρ} {r : ρ}

theorem select_eq_nil : select key k rows = [] ↔ ∀ r ∈ rows, key r ≠ k := by
  simp [select]

theorem select_insert_self (h : key r = k) :
    select key k (insert r rows) = select key k rows ++ [r] := by
  simp [select, insert, h]

theorem select_insert_of_ne (h : key r ≠ k) :
    select key k (insert r rows) = select key k rows := by
  simp [select, insert, h]

@[simp] theorem select_delete_self : select key k (delete key k rows) = [] := by
  simp [select, delete]

theorem select_delete_of_ne (h : k' ≠ k) :
    select key k' (delete key k rows) = select key k' rows := by
  simp only [select, delete, List.filter_filter]
  refine List.filter_congr fun r _ => ?_
  by_cases hr : key r = k'
  · simp [hr, h]
  · simp [hr]

/-- An update that keeps keys maps the rows of its key. -/
theorem select_update_self (hf : ∀ r, key (f r) = key r) :
    select key k (update key k f rows) = (select key k rows).map f := by
  induction rows with
  | nil => rfl
  | cons r rows ih =>
    unfold select update at ih ⊢
    by_cases hr : key r = k <;> simp [hr, hf, ih]

theorem select_update_of_ne (hf : ∀ r, key (f r) = key r) (h : k' ≠ k) :
    select key k' (update key k f rows) = select key k' rows := by
  induction rows with
  | nil => rfl
  | cons r rows ih =>
    unfold select update at ih ⊢
    by_cases hr : key r = k
    · have hr' : key r ≠ k' := by rw [hr]; exact h.symm
      simp [hr, hf, h.symm, ih]
    · by_cases hr' : key r = k' <;> simp [hr, hr', h, ih]

/-- An update that changes no row of its key changes nothing. -/
theorem update_eq_self (h : ∀ r ∈ rows, key r = k → f r = r) : update key k f rows = rows := by
  unfold update
  conv_rhs => rw [← List.map_id rows]
  refine List.map_congr_left fun r hr => ?_
  by_cases hk : key r = k
  · rw [if_pos hk, h r hr hk, id]
  · rw [if_neg hk, id]

/-- An update changes nothing exactly if it changes no row of its key. -/
theorem update_eq_self_iff : update key k f rows = rows ↔ ∀ r ∈ rows, key r = k → f r = r := by
  refine ⟨fun h r hr hk => ?_, update_eq_self⟩
  unfold update at h
  conv_rhs at h => rw [← List.map_id rows]
  have := List.map_inj_left.mp h r hr
  rwa [if_pos hk, id] at this

/-! ## Distinct keys -/

theorem map_key_update (hf : ∀ r, key (f r) = key r) :
    (update key k f rows).map key = rows.map key := by
  unfold update
  rw [List.map_map]
  refine List.map_congr_left fun r _ => ?_
  by_cases hk : key r = k <;> simp [hk, hf]

theorem nodup_delete (h : (rows.map key).Nodup) : ((delete key k rows).map key).Nodup :=
  h.sublist (List.filter_sublist.map key)

theorem nodup_insert (h : (rows.map key).Nodup) (hr : select key (key r) rows = []) :
    ((insert r rows).map key).Nodup := by
  rw [insert, List.map_append, List.map_cons, List.map_nil, ← List.concat_eq_append,
    List.nodup_concat]
  refine ⟨fun hmem => ?_, h⟩
  obtain ⟨r', hr', hk⟩ := List.mem_map.mp hmem
  exact select_eq_nil.mp hr r' hr' hk

end KeyedTable
