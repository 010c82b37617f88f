import Pango.Lib.Lts
import Pango.Server.ClientThread
import Pango.Server.DbUpdate

/-!
# The server as a transition system

Any number of connection threads and the backup thread, interleaved step by
step.  A label says who moves and what the system answers: `accept` starts a
connection thread on a slot, `client` is one step of a connection thread, and
`backup` is one pass of the backup thread, which holds the mutex throughout.

* `step_cases` — what a step of the server can be.
* `trace_grows` — the record of what the threads did only grows.
* `locally_step`, `local_invariant` — an invariant of one thread, its slot and
  what it has done, kept by every step of that thread, holds of every thread in
  every run.
-/

namespace Pango.Server

variable {D : Type*}

/-! ## States and labels -/

/-- Who acts. -/
inductive Tid
  | client (i : ℕ)
  | dbUpdate
  deriving DecidableEq

/-- What the threads share, where each of them stands, and the record of what
they did. -/
structure State (D : Type*) where
  client : ℕ → PangoData D
  thread : ℕ → Option Thread
  yourTable : List Row
  trace : List (Tid × Event D)

/-- Who moves, and the answers of the environment. -/
inductive Label
  /-- `accept` returned `fd` for slot `i`, and `main` starts a thread on it. -/
  | accept (i : ℕ) (fd : Int)
  | client (i : ℕ) (env : Env)
  /-- A pass that reads `clock i` for slot `i`. -/
  | backup (clock : ℕ → Int) (sqlFails : List ℕ)

namespace State

/-- The server when `main` enters its accept loop. -/
def start [CDouble D] (rows : List Row) : State D where
  client _ := .zero
  thread _ := none
  yourTable := rows
  trace := []

/-- `accept` into slot `i`; the descriptor is stored as a `uint8_t`. -/
def accepted (s : State D) (i : ℕ) (fd : Int) : State D :=
  { s with
    client := Function.update s.client i { s.client i with clientFd := UInt8.ofInt fd }
    thread := Function.update s.thread i (some {}) }

/-- Put a step of thread `i` into the server. -/
def turn (s : State D) (i : ℕ) (r : Turn D) : State D where
  client := Function.update s.client i r.client
  thread := Function.update s.thread i (some r.thread)
  yourTable := r.yourTable
  trace := s.trace ++ r.events.map (Prod.mk (.client i))

/-- A backup pass. -/
def backedUp (n : ℕ) (s : State D) (clock : ℕ → Int) (sqlFails : List ℕ) : State D :=
  { s with
    yourTable := updateClients n s.client clock sqlFails s.yourTable
    trace := s.trace ++ (updateClientsEvents n s.client clock sqlFails).map (Prod.mk .dbUpdate) }

end State

/-- The server. -/
def server [CDouble D] (cfg : Config D) : Lts (State D) Label where
  step s
    | .accept i fd => if s.thread i = none then some (s.accepted i fd) else none
    | .client i env => (s.thread i).bind fun t =>
        (pangoClientStep cfg env (s.client i) t s.yourTable).map (s.turn i)
    | .backup clock sqlFails => some (s.backedUp cfg.updateThreadMaxNumClients clock sqlFails)

/-! ## Reading the parts of a state after a step -/

section Parts

variable (s : State D) (i : ℕ) (fd : Int) (r : Turn D)

@[simp] theorem accepted_thread_self : (s.accepted i fd).thread i = some {} :=
  Function.update_self ..

@[simp] theorem accepted_client_self :
    (s.accepted i fd).client i = { s.client i with clientFd := UInt8.ofInt fd } :=
  Function.update_self ..

@[simp] theorem turn_thread_self : (s.turn i r).thread i = some r.thread := Function.update_self ..

@[simp] theorem turn_client_self : (s.turn i r).client i = r.client := Function.update_self ..

variable {i} {j : ℕ}

theorem accepted_thread_of_ne (h : j ≠ i) : (s.accepted i fd).thread j = s.thread j :=
  Function.update_of_ne h ..

theorem accepted_client_of_ne (h : j ≠ i) : (s.accepted i fd).client j = s.client j :=
  Function.update_of_ne h ..

theorem turn_thread_of_ne (h : j ≠ i) : (s.turn i r).thread j = s.thread j :=
  Function.update_of_ne h ..

theorem turn_client_of_ne (h : j ≠ i) : (s.turn i r).client j = s.client j :=
  Function.update_of_ne h ..

theorem mem_thread_accepted {i j : ℕ} {fd : Int} {u : Thread}
    (hu : u ∈ (s.accepted i fd).thread j) :
    (j = i ∧ u = {}) ∨ (j ≠ i ∧ u ∈ s.thread j) := by
  by_cases hji : j = i
  · subst hji
    rw [accepted_thread_self] at hu
    exact .inl ⟨rfl, (Option.some.inj hu).symm⟩
  · rw [accepted_thread_of_ne s fd hji] at hu
    exact .inr ⟨hji, hu⟩

theorem mem_thread_turn {i j : ℕ} {r : Turn D} {u : Thread} (hu : u ∈ (s.turn i r).thread j) :
    (j = i ∧ u = r.thread) ∨ (j ≠ i ∧ u ∈ s.thread j) := by
  by_cases hji : j = i
  · subst hji
    rw [turn_thread_self] at hu
    exact .inl ⟨rfl, (Option.some.inj hu).symm⟩
  · rw [turn_thread_of_ne s r hji] at hu
    exact .inr ⟨hji, hu⟩

end Parts

/-! ## Steps -/

section Step

variable [CDouble D] {cfg : Config D} {s s' : State D} {l : Label}

theorem step_cases (h : (server cfg).step s l = some s') :
    (∃ i fd, l = .accept i fd ∧ s.thread i = none ∧ s' = s.accepted i fd)
    ∨ (∃ i env t r, l = .client i env ∧ s.thread i = some t ∧
        pangoClientStep cfg env (s.client i) t s.yourTable = some r ∧ s' = s.turn i r)
    ∨ (∃ clock sqlFails, l = .backup clock sqlFails ∧
        s' = s.backedUp cfg.updateThreadMaxNumClients clock sqlFails) := by
  cases l with
  | accept i fd =>
    simp only [server] at h
    split at h
    · rename_i hi
      exact .inl ⟨i, fd, rfl, hi, (Option.some.inj h).symm⟩
    · cases h
  | client i env =>
    obtain ⟨t, ht, h⟩ := Option.bind_eq_some_iff.mp h
    obtain ⟨r, hr, h⟩ := Option.map_eq_some_iff.mp h
    exact .inr (.inl ⟨i, env, t, r, rfl, ht, hr, h.symm⟩)
  | backup clock sqlFails => exact .inr (.inr ⟨clock, sqlFails, rfl, (Option.some.inj h).symm⟩)

/-- **The record only grows.** -/
theorem trace_grows (h : (server cfg).step s l = some s') : s.trace <+: s'.trace := by
  rcases step_cases h with ⟨i, fd, -, -, rfl⟩ | ⟨i, env, t, r, -, -, -, rfl⟩ | ⟨c, f, -, rfl⟩
  · exact List.prefix_rfl
  · exact List.prefix_append _ _
  · exact List.prefix_append _ _

/-- A property of the record that passes to prefixes was true of every state
before. -/
theorem stable_of_isPrefix {P : List (Tid × Event D) → Prop} (hP : ∀ a b, a <+: b → P b → P a) :
    ∀ t l u, (server cfg).step t l = some u → P u.trace → P t.trace :=
  fun _ _ _ hs => hP _ _ (trace_grows hs)

end Step

/-! ## The record of some connections -/

/-- What the connections with `p` did, in order. -/
def eventsOf (p : ℕ → Prop) [DecidablePred p] (trace : List (Tid × Event D)) : List (ℕ × Event D) :=
  trace.filterMap fun
    | (.client i, e) => if p i then some (i, e) else none
    | (.dbUpdate, _) => none

section EventsOf

variable (p : ℕ → Prop) [DecidablePred p] (s : State D)

theorem eventsOf_append (a b : List (Tid × Event D)) :
    eventsOf p (a ++ b) = eventsOf p a ++ eventsOf p b := List.filterMap_append

@[simp] theorem eventsOf_accepted (i : ℕ) (fd : Int) :
    eventsOf p (s.accepted i fd).trace = eventsOf p s.trace := rfl

theorem eventsOf_turn {i : ℕ} (hi : p i) (r : Turn D) :
    eventsOf p (s.turn i r).trace = eventsOf p s.trace ++ r.events.map (Prod.mk i) := by
  unfold State.turn
  rw [eventsOf_append, eventsOf, eventsOf, List.filterMap_map]
  simp [hi]

theorem eventsOf_turn_of_not {i : ℕ} (hi : ¬ p i) (r : Turn D) :
    eventsOf p (s.turn i r).trace = eventsOf p s.trace := by
  unfold State.turn
  rw [eventsOf_append, eventsOf, eventsOf, List.filterMap_map]
  simp [hi]

@[simp] theorem eventsOf_backedUp (n : ℕ) (clock : ℕ → Int) (sqlFails : List ℕ) :
    eventsOf p (s.backedUp n clock sqlFails).trace = eventsOf p s.trace := by
  unfold State.backedUp
  rw [eventsOf_append, eventsOf, eventsOf, List.filterMap_map]
  simp

/-- What connection `i` did. -/
def own (i : ℕ) (s : State D) : List (Event D) := (eventsOf (· = i) s.trace).map Prod.snd

theorem own_turn_self (i : ℕ) (r : Turn D) : own i (s.turn i r) = own i s ++ r.events := by
  rw [own, eventsOf_turn (· = i) s rfl r, List.map_append, List.map_map]
  exact congrArg (own i s ++ ·) (List.map_id r.events)

theorem own_turn_of_ne {i j : ℕ} (h : j ≠ i) (r : Turn D) : own j (s.turn i r) = own j s := by
  rw [own, eventsOf_turn_of_not (· = j) s h.symm r, own]

@[simp] theorem own_accepted (j i : ℕ) (fd : Int) : own j (s.accepted i fd) = own j s := rfl

@[simp] theorem own_backedUp (j n : ℕ) (clock : ℕ → Int) (sqlFails : List ℕ) :
    own j (s.backedUp n clock sqlFails) = own j s := by
  rw [own, eventsOf_backedUp, own]

end EventsOf

/-! ## The other connections -/

/-- `P` holds of every connection but `i` that has a thread. -/
def Others (s : State D) (i : ℕ) (P : ℕ → Thread → Prop) : Prop :=
  ∀ j, j ≠ i → ∀ u ∈ s.thread j, P j u

/-- The same, of the slots below `n` only. -/
def OthersBelow (n : ℕ) (s : State D) (i : ℕ) (P : ℕ → Thread → Prop) : Prop :=
  ∀ j < n, j ≠ i → ∀ u ∈ s.thread j, P j u

instance (n : ℕ) (s : State D) (i : ℕ) (P : ℕ → Thread → Prop) [∀ j u, Decidable (P j u)] :
    Decidable (OthersBelow n s i P) := inferInstanceAs (Decidable (∀ j < n, _))

/-- The label starts no thread on a slot from `n` on. -/
def Label.Below (n : ℕ) : Label → Prop
  | .accept i _ => i < n
  | _ => True

instance (n : ℕ) : (l : Label) → Decidable (l.Below n)
  | .accept i _ => inferInstanceAs (Decidable (i < n))
  | .client .. | .backup .. => isTrue trivial

/-- No thread has been started on a slot from `n` on. -/
def UsedBelow (n : ℕ) (s : State D) : Prop := ∀ j, n ≤ j → s.thread j = none

theorem others_of_below {n i : ℕ} {s : State D} {P : ℕ → Thread → Prop} (hs : UsedBelow n s)
    (hP : OthersBelow n s i P) : Others s i P := by
  intro j hji u hu
  by_cases hj : j < n
  · exact hP j hj hji u hu
  · rw [hs j (not_lt.mp hj)] at hu
    cases hu

theorem usedBelow_step [CDouble D] {cfg : Config D} {n : ℕ} {s s' : State D} {l : Label}
    (hl : l.Below n) (hJ : UsedBelow n s) (hs : (server cfg).step s l = some s') :
    UsedBelow n s' := by
  intro j hj
  rcases step_cases hs with ⟨i, fd, rfl, -, rfl⟩ | ⟨i, env, t, r, -, ht, -, rfl⟩ | ⟨c, f, -, rfl⟩
  · have hi : i < n := hl
    rw [accepted_thread_of_ne s fd (by omega)]
    exact hJ j hj
  · have hji : j ≠ i := by
      rintro rfl
      rw [hJ j hj] at ht
      cases ht
    rw [turn_thread_of_ne s r hji]
    exact hJ j hj
  · exact hJ j hj

/-- A run over finitely many slots is checked slot by slot. -/
theorem exec_of_below [CDouble D] {cfg : Config D} {C' C : State D → Label → Prop} {rows : List Row}
    {ls : List Label} {s : State D} (n : ℕ) (h : (server cfg).Exec C' (.start rows) ls s)
    (hbelow : ∀ s l, C' s l → l.Below n)
    (hC : ∀ s l, C' s l → (∀ i P, OthersBelow n s i P → Others s i P) → C s l) :
    (server cfg).Exec C (.start rows) ls s :=
  (h.strengthen (I := UsedBelow n) (fun _ _ => rfl) fun s l _ hC' hJ hs =>
      usedBelow_step (hbelow s l hC') hJ hs).1.mono
    fun s l hC' => hC s l hC'.1 fun _ _ => others_of_below hC'.2

/-! ## Invariants of a connection -/

/-- `J` holds of every thread, its slot and what it has done, and a slot no thread
has been started on is still zeroed. -/
def Locally [CDouble D] (J : ℕ → PangoData D → Thread → List (Event D) → Prop) (s : State D) :
    Prop :=
  (∀ i t, s.thread i = some t → J i (s.client i) t (own i s)) ∧
    ∀ i, s.thread i = none → s.client i = .zero ∧ own i s = []

section Locally

variable [CDouble D] {cfg : Config D} {J : ℕ → PangoData D → Thread → List (Event D) → Prop}

theorem locally_start (rows : List Row) : Locally J (.start rows) :=
  ⟨fun _ _ h => (nomatch h), fun _ _ => ⟨rfl, rfl⟩⟩

/-- **The rule for local invariants, one step.**  Let `J` hold of a thread that
has just been started on a zeroed slot, and let the step of a thread keep it.
Then a step of the server keeps it for all threads. -/
theorem locally_step {s s' : State D} {l : Label} (hs : (server cfg).step s l = some s')
    (hinit : ∀ i fd, J i { PangoData.zero with clientFd := fd } {} [])
    (hstep : ∀ i env t r, l = .client i env → s.thread i = some t → J i (s.client i) t (own i s) →
      pangoClientStep cfg env (s.client i) t s.yourTable = some r →
      J i r.client r.thread (own i s ++ r.events))
    (hJ : Locally J s) : Locally J s' := by
  obtain ⟨hJ, hz⟩ := hJ
  rcases step_cases hs with
      ⟨i, fd, rfl, hi, rfl⟩ | ⟨i, env, t, r, rfl, ht, hr, rfl⟩ | ⟨c, f, rfl, rfl⟩
  · refine ⟨fun j t' hj => ?_, fun j hj => ?_⟩ <;> rw [own_accepted] <;> by_cases hji : j = i
    · subst hji
      rw [accepted_thread_self] at hj
      cases hj
      obtain ⟨hzero, hown⟩ := hz j hi
      rw [accepted_client_self, hzero, hown]
      exact hinit j _
    · rw [accepted_thread_of_ne s fd hji] at hj
      rw [accepted_client_of_ne s fd hji]
      exact hJ j t' hj
    · subst hji
      simp at hj
    · rw [accepted_thread_of_ne s fd hji] at hj
      rw [accepted_client_of_ne s fd hji]
      exact hz j hj
  · refine ⟨fun j t' hj => ?_, fun j hj => ?_⟩ <;> by_cases hji : j = i
    · subst hji
      rw [turn_thread_self] at hj
      cases hj
      rw [turn_client_self, own_turn_self]
      exact hstep j env t r rfl ht (hJ j t ht) hr
    · rw [turn_thread_of_ne s r hji] at hj
      rw [turn_client_of_ne s r hji, own_turn_of_ne s hji]
      exact hJ j t' hj
    · subst hji
      simp at hj
    · rw [turn_thread_of_ne s r hji] at hj
      rw [turn_client_of_ne s r hji, own_turn_of_ne s hji]
      exact hz j hj
  · refine ⟨fun j t' hj => ?_, fun j hj => ?_⟩ <;> rw [own_backedUp]
    · exact hJ j t' hj
    · exact hz j hj

/-- **The rule for local invariants.**  What holds of a thread that has just been started and
survives its steps holds of every thread in every run. -/
theorem local_invariant {C : State D → Label → Prop} {rows : List Row} {ls : List Label}
    {s : State D} (h : (server cfg).Exec C (.start rows) ls s)
    (hinit : ∀ i fd, J i { PangoData.zero with clientFd := fd } {} [])
    (hstep : ∀ (s : State D) i env t r, C s (.client i env) → s.thread i = some t →
      J i (s.client i) t (own i s) → pangoClientStep cfg env (s.client i) t s.yourTable = some r →
      J i r.client r.thread (own i s ++ r.events)) : Locally J s :=
  h.invariant (locally_start rows) fun s _ _ hC hJ hs =>
    locally_step hs hinit (fun i env t r hl => hstep s i env t r (hl ▸ hC)) hJ

end Locally

end Pango.Server
