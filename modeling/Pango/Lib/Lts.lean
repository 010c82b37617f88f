import Mathlib

/-!
# Labelled transition systems with a partial step function

A system is a function `step : σ → ℓ → Option σ`: from a state and a label it
either moves or cannot.  The label carries everything the environment decides
(a clock reading, a received message, the outcome of a call), so a run is
nothing but a list of labels.

* `Lts.Exec` — a run each of whose steps meets a condition on the state it is
  taken from and on its label.
* `Lts.Exec.invariant` — the induction principle: what holds at the start and
  survives every step meeting the condition holds at the end.
* `Lts.Exec.strengthen` — an invariant of a run joins the condition on its steps.
* `Lts.Exec.strengthen_of_stable` — the same for an invariant that may lean on a
  property of the *final* state, as long as that property was already true of
  every state before it (a property of a log that only grows, say).
* `Lts.Exec.purge` — **unwinding**: if the irrelevant steps of a run do not
  change what an observer sees, then the run with those steps removed is a run,
  and the observer sees the same.
* `Lts.Exec.meets_iff`, `Lts.Exec.exact` — a condition on the steps that is exact
  for a property of the states they lead to, or of the steps.
* `Lts.watched` — the system with an observer, who keeps what he wants to know of
  the run and has no influence on it.
* `Lts.Exec.unwind` — unwinding where the state decides which steps are irrelevant.
* `Lts.Exec.project` — a run as a system that knows of some of its steps only sees it.
* `Lts.Exec.refines` — the same where the state decides what is seen of a step, and what is
  seen of the states is a function of them.
* `Lts.Exec.amortized` — what a run costs, paid step by step.
* `Lts.run`, `Lts.runIf` — the same runs, computed.
* `Lts.Exec.snoc_iff` — a condition on the steps of a run, taken from its end.
-/

/-- A labelled transition system: the labels enabled in a state, and where they
lead. -/
structure Lts (σ : Type*) (ℓ : Type*) where
  /-- The state a label leads to, if it is enabled. -/
  step : σ → ℓ → Option σ

namespace Lts

variable {σ ℓ : Type*} (M : Lts σ ℓ)

/-! ## Runs -/

/-- `M.Exec C s ls t`: the labels `ls` lead from `s` to `t`, and each of them
meets `C` in the state it is taken from. -/
inductive Exec (C : σ → ℓ → Prop) (s : σ) : List ℓ → σ → Prop
  | nil : Exec C s [] s
  | snoc {ls : List ℓ} {t u : σ} {l : ℓ} :
      Exec C s ls t → C t l → M.step t l = some u → Exec C s (ls ++ [l]) u

/-- Every state of a run may be strengthened with a weaker condition. -/
theorem Exec.mono {M : Lts σ ℓ} {C C' : σ → ℓ → Prop} {s t : σ} {ls : List ℓ}
    (hC : ∀ s l, C s l → C' s l) (h : M.Exec C s ls t) : M.Exec C' s ls t := by
  induction h with
  | nil => exact .nil
  | snoc _ hc hstep ih => exact .snoc ih (hC _ _ hc) hstep

/-- A step can be put in front of a run. -/
theorem Exec.cons {M : Lts σ ℓ} {C : σ → ℓ → Prop} {s t u : σ} {l : ℓ} {ls : List ℓ}
    (hc : C s l) (hstep : M.step s l = some t) (h : M.Exec C t ls u) :
    M.Exec C s (l :: ls) u := by
  induction h with
  | nil => exact List.nil_append [l] ▸ .snoc .nil hc hstep
  | snoc _ hc' hstep' ih =>
    rw [← List.cons_append]
    exact .snoc ih hc' hstep'

/-- A run can be continued by another. -/
theorem Exec.append {M : Lts σ ℓ} {C : σ → ℓ → Prop} {s t u : σ} {ls ls' : List ℓ}
    (h : M.Exec C s ls t) (h' : M.Exec C t ls' u) : M.Exec C s (ls ++ ls') u := by
  induction h' with
  | nil => exact (List.append_nil ls).symm ▸ h
  | snoc _ hc hstep ih =>
    rw [← List.append_assoc]
    exact .snoc ih hc hstep

/-! ## Invariants -/

/-- **The invariant rule.**  What holds at the start and survives every step holds at the end. -/
theorem Exec.invariant {M : Lts σ ℓ} {C : σ → ℓ → Prop} {I : σ → Prop} {s t : σ}
    {ls : List ℓ} (h : M.Exec C s ls t) (hinit : I s)
    (hstep : ∀ t l u, C t l → I t → M.step t l = some u → I u) : I t := by
  induction h with
  | nil => exact hinit
  | snoc _ hc hs ih => exact hstep _ _ _ hc ih hs

/-- An invariant of a run may be assumed of every state its steps are taken
from. -/
theorem Exec.strengthen {M : Lts σ ℓ} {C : σ → ℓ → Prop} {I : σ → Prop} {s t : σ}
    {ls : List ℓ} (h : M.Exec C s ls t) (hinit : I s)
    (hstep : ∀ t l u, C t l → I t → M.step t l = some u → I u) :
    M.Exec (fun t l => C t l ∧ I t) s ls t ∧ I t := by
  induction h with
  | nil => exact ⟨.nil, hinit⟩
  | snoc _ hc hs ih => exact ⟨.snoc ih.1 ⟨hc, ih.2⟩ hs, hstep _ _ _ hc ih.2 hs⟩

/-- The same under a property `P` of the final state that no step can make true again: `P`
of a state implies `P` of every state before it.  What the steps do to the invariant joins
the condition on them. -/
theorem Exec.strengthen_of_stable {M : Lts σ ℓ} {C Q : σ → ℓ → Prop} {P I : σ → Prop} {s t : σ}
    {ls : List ℓ} (h : M.Exec C s ls t)
    (hP : ∀ t l u, M.step t l = some u → P u → P t) (hinit : I s)
    (hstep : ∀ t l u, C t l → P u → I t → M.step t l = some u → I u ∧ Q t l) (hPt : P t) :
    M.Exec (fun t l => C t l ∧ Q t l) s ls t ∧ I t := by
  induction h with
  | nil => exact ⟨.nil, hinit⟩
  | snoc _ hc hs ih =>
    obtain ⟨hexec, hI⟩ := ih (hP _ _ _ hs hPt)
    obtain ⟨hI', hQ⟩ := hstep _ _ _ hc hPt hI hs
    exact ⟨.snoc hexec ⟨hc, hQ⟩ hs, hI'⟩

/-! ## Exact conditions -/

/-- **An exact condition.**  Let a step from a good state lead to a good state
exactly if it meets `K`.  Then a run from a good state meets `K` throughout
exactly if all its states are good. -/
theorem Exec.meets_iff {M : Lts σ ℓ} {C K : σ → ℓ → Prop} {P : σ → Prop} {s t : σ} {ls : List ℓ}
    (hinit : P s)
    (hstep : ∀ t l u, C t l → P t → M.step t l = some u → (P u ↔ K t l)) :
    M.Exec (fun t l => C t l ∧ K t l) s ls t ↔ M.Exec (fun t l => C t l ∧ P t) s ls t ∧ P t := by
  constructor
  · intro hK
    obtain ⟨hexec, hP⟩ :=
      hK.strengthen hinit fun t l u hC hPt hs => (hstep t l u hC.1 hPt hs).mpr hC.2
    exact ⟨hexec.mono fun _ _ hC => ⟨hC.1.1, hC.2⟩, hP⟩
  · rintro ⟨hP, hPt⟩
    induction hP with
    | nil => exact .nil
    | snoc _ hc hs ih => exact .snoc (ih hc.2) ⟨hc.1, (hstep _ _ _ hc.1 hc.2 hs).mp hPt⟩ hs

/-- The same for a property that is not regained once it is lost: the last state
tells. -/
theorem Exec.meets_iff_of_stable {M : Lts σ ℓ} {C K : σ → ℓ → Prop} {P : σ → Prop} {s t : σ}
    {ls : List ℓ} (h : M.Exec C s ls t) (hinit : P s)
    (hback : ∀ t l u, C t l → M.step t l = some u → P u → P t)
    (hstep : ∀ t l u, C t l → P t → M.step t l = some u → (P u ↔ K t l)) :
    M.Exec (fun t l => C t l ∧ K t l) s ls t ↔ P t := by
  constructor
  · exact fun hK => hK.invariant hinit fun t l u hC hPt hs => (hstep t l u hC.1 hPt hs).mpr hC.2
  · intro hPt
    induction h with
    | nil => exact .nil
    | snoc _ hc hs ih =>
      have hP := hback _ _ _ hc hs hPt
      exact .snoc (ih hP) ⟨hc, (hstep _ _ _ hc hP hs).mp hPt⟩ hs

/-- The same for a property of steps: let `Q` and `K` agree on the states that
steps with `Q` and steps with `K` keep.  Then they agree on runs. -/
theorem Exec.exact {M : Lts σ ℓ} {C Q K : σ → ℓ → Prop} {J : σ → Prop} {s t : σ} {ls : List ℓ}
    (hinit : J s) (hiff : ∀ t l, C t l → J t → (Q t l ↔ K t l))
    (hstep : ∀ t l u, C t l → J t → Q t l → M.step t l = some u → J u) :
    M.Exec (fun t l => C t l ∧ Q t l) s ls t ↔ M.Exec (fun t l => C t l ∧ K t l) s ls t := by
  constructor
  · intro hQ
    have hJ := (hQ.strengthen hinit fun t l u hC hJt hs => hstep t l u hC.1 hJt hC.2 hs).1
    exact hJ.mono fun t l hC => ⟨hC.1.1, (hiff t l hC.1.1 hC.2).mp hC.1.2⟩
  · intro hK
    have hJ := (hK.strengthen hinit fun t l u hC hJt hs =>
      hstep t l u hC.1 hJt ((hiff t l hC.1 hJt).mpr hC.2) hs).1
    exact hJ.mono fun t l hC => ⟨hC.1.1, (hiff t l hC.1.1 hC.2).mpr hC.1.2⟩

/-! ## Observers -/

/-- The system with an observer, who notes something at every step. -/
def watched {γ : Type*} (note : σ → ℓ → γ → γ) : Lts (σ × γ) ℓ where
  step p l := (M.step p.1 l).map fun t => (t, note p.1 l p.2)

section Watched

variable {M : Lts σ ℓ} {γ : Type*} {note : σ → ℓ → γ → γ}

theorem watched_step {p q : σ × γ} {l : ℓ} (h : (M.watched note).step p l = some q) :
    M.step p.1 l = some q.1 ∧ q.2 = note p.1 l p.2 := by
  obtain ⟨t, ht, rfl⟩ := Option.map_eq_some_iff.mp h
  exact ⟨ht, rfl⟩

/-- Every run can be observed. -/
theorem Exec.watch {C : σ → ℓ → Prop} {s t : σ} {ls : List ℓ} (h : M.Exec C s ls t) (g : γ) :
    ∃ g', (M.watched note).Exec (fun p l => C p.1 l) (s, g) ls (t, g') := by
  induction h with
  | nil => exact ⟨g, .nil⟩
  | @snoc ls t u l _ hc hs ih =>
    obtain ⟨g', hg'⟩ := ih
    exact ⟨note t l g', .snoc hg' hc (by simp [watched, hs])⟩

end Watched

/-! ## Unwinding -/

/-- **Unwinding.**  Let `R` relate the states of a run to the states of the run
without its irrelevant steps.  If a relevant step of the one can be matched by
the other, and an irrelevant step keeps the relation, then the purged list of
labels is a run too, and it ends in a related state. -/
theorem Exec.purge {M : Lts σ ℓ} {C : σ → ℓ → Prop} {R : σ → σ → Prop}
    {s s' t : σ} {ls : List ℓ} (h : M.Exec C s ls t) (rel : ℓ → Bool) (hinit : R s s')
    (hrel : ∀ t t' l u, C t l → R t t' → rel l = true → M.step t l = some u →
      ∃ u', M.step t' l = some u' ∧ R u u')
    (hirr : ∀ t t' l u, C t l → R t t' → rel l = false → M.step t l = some u → R u t') :
    ∃ t', M.Exec (fun _ _ => True) s' (ls.filter rel) t' ∧ R t t' := by
  induction h with
  | nil => exact ⟨s', .nil, hinit⟩
  | @snoc ls t u l _ hc hs ih =>
    obtain ⟨t', hexec, hR⟩ := ih
    cases hl : rel l with
    | true =>
      obtain ⟨u', hu', hR'⟩ := hrel t t' l u hc hR hl hs
      refine ⟨u', ?_, hR'⟩
      rw [List.filter_append, List.filter_cons_of_pos hl, List.filter_nil]
      exact .snoc hexec trivial hu'
    | false =>
      refine ⟨t', ?_, hirr t t' l u hc hR hl hs⟩
      rw [List.filter_append, List.filter_cons_of_neg (by simp [hl]), List.filter_nil,
        List.append_nil]
      exact hexec

/-- The observer who writes down the labels of the steps that are not passed over. -/
def keep (passed : σ → ℓ → Prop) [∀ s l, Decidable (passed s l)] (s : σ) (l : ℓ) (ls : List ℓ) :
    List ℓ := if passed s l then ls else ls ++ [l]

/-- **Unwinding, state by state.**  The same where the state decides which steps are passed
over: what the observer has written down is a run too, each of its steps meets the condition
`K` that is shown of it, and it ends in a related state. -/
theorem Exec.unwind {M : Lts σ ℓ} {C K passed : σ → ℓ → Prop} [∀ s l, Decidable (passed s l)]
    {R : σ → σ → Prop} {s s' t : σ} {ls kept : List ℓ}
    (h : (M.watched (keep passed)).Exec (fun p l => C p.1 l) (s, []) ls (t, kept))
    (hinit : R s s')
    (hkeep : ∀ t t' l u, C t l → R t t' → ¬ passed t l → M.step t l = some u →
      K t' l ∧ ∃ u', M.step t' l = some u' ∧ R u u')
    (hpass : ∀ t t' l u, C t l → R t t' → passed t l → M.step t l = some u → R u t') :
    ∃ t', M.Exec K s' kept t' ∧ R t t' := by
  refine h.invariant (I := fun p => ∃ t', M.Exec K s' p.2 t' ∧ R p.1 t') ⟨s', .nil, hinit⟩ ?_
  rintro ⟨t, kept⟩ l ⟨u, kept'⟩ hC ⟨t', hexec, hR⟩ hs
  obtain ⟨hs, rfl⟩ := watched_step hs
  by_cases hp : passed t l
  · refine ⟨t', ?_, hpass t t' l u hC hR hp hs⟩
    simp only [keep, if_pos hp]
    exact hexec
  · obtain ⟨hK, u', hu', hR'⟩ := hkeep t t' l u hC hR hp hs
    refine ⟨u', ?_, hR'⟩
    simp only [keep, if_neg hp]
    exact .snoc hexec hK hu'

/-- **Projection.**  Another system knows some of the steps, under labels of its own.  If
it can match those it knows, and does not notice the others, then the labels it knows are
a run of it, each of whose steps meets the condition `K` that is shown of it, and it ends in
a related state. -/
theorem Exec.project {σ' ℓ' : Type*} {M : Lts σ ℓ} {N : Lts σ' ℓ'} {C : σ → ℓ → Prop}
    {K : σ' → ℓ' → Prop} {R : σ → σ' → Prop} {s t : σ} {s' : σ'} {ls : List ℓ}
    (h : M.Exec C s ls t) (seen : ℓ → Option ℓ') (hinit : R s s')
    (hseen : ∀ t t' l l' u, C t l → R t t' → seen l = some l' → M.step t l = some u →
      K t' l' ∧ ∃ u', N.step t' l' = some u' ∧ R u u')
    (hunseen : ∀ t t' l u, C t l → R t t' → seen l = none → M.step t l = some u → R u t') :
    ∃ t', N.Exec K s' (ls.filterMap seen) t' ∧ R t t' := by
  induction h with
  | nil => exact ⟨s', .nil, hinit⟩
  | @snoc ls t u l _ hc hs ih =>
    obtain ⟨t', hexec, hR⟩ := ih
    rw [List.filterMap_append]
    cases hl : seen l with
    | some l' =>
      obtain ⟨hK, u', hu', hR'⟩ := hseen t t' l l' u hc hR hl hs
      refine ⟨u', ?_, hR'⟩
      rw [List.filterMap_cons_some hl, List.filterMap_nil]
      exact .snoc hexec hK hu'
    | none =>
      refine ⟨t', ?_, hunseen t t' l u hc hR hl hs⟩
      rw [List.filterMap_cons_none hl, List.filterMap_nil, List.append_nil]
      exact hexec

/-- The observer who writes down what is seen of the steps. -/
def writeDown {ℓ' : Type*} (seen : σ → ℓ → List ℓ') (s : σ) (l : ℓ) (acts : List ℓ') : List ℓ' :=
  acts ++ seen s l

/-- **Refinement.**  Let `abs` be what a state is to another system.  If what is seen of a step,
which may be nothing or several things, is a run there, then what has been seen of a run is a
run of the other system, each of whose steps meets the condition `K` that is shown of it. -/
theorem Exec.refines {σ' ℓ' : Type*} {M : Lts σ ℓ} {N : Lts σ' ℓ'} {C : σ → ℓ → Prop}
    {K : σ' → ℓ' → Prop} {seen : σ → ℓ → List ℓ'} {s t : σ} {ls : List ℓ} {acts : List ℓ'}
    (h : (M.watched (writeDown seen)).Exec (fun p l => C p.1 l) (s, []) ls (t, acts))
    (abs : σ → σ')
    (hseen : ∀ t l u, C t l → M.step t l = some u → N.Exec K (abs t) (seen t l) (abs u)) :
    N.Exec K (abs s) acts (abs t) := by
  refine h.invariant (I := fun p => N.Exec K (abs s) p.2 (abs p.1)) .nil ?_
  rintro ⟨t, acts⟩ l ⟨u, acts'⟩ hC hexec hs
  obtain ⟨hs, rfl⟩ := watched_step hs
  exact hexec.append (hseen t l u hC hs)

theorem Exec.single {M : Lts σ ℓ} {C : σ → ℓ → Prop} {s t : σ} {l : ℓ} (hc : C s l)
    (hstep : M.step s l = some t) : M.Exec C s [l] t :=
  .cons hc hstep .nil

/-! ## Counting -/

/-- **Amortisation.**  Let every step pay what it costs: by what it takes from the debt `debt`
still to be worked off, or by what it adds to the credit `credit` that has been given.  Then a
run costs no more than the credit given in it and the debt it started with. -/
theorem Exec.amortized {M : Lts σ ℓ} {C : σ → ℓ → Prop} {s t : σ} {ls : List ℓ}
    (h : M.Exec C s ls t) (debt credit : σ → ℕ) (cost : ℓ → ℕ)
    (hstep : ∀ t l u, C t l → M.step t l = some u →
      debt u + cost l + credit t ≤ debt t + credit u) :
    debt t + (ls.map cost).sum + credit s ≤ debt s + credit t := by
  induction h with
  | nil => simp
  | @snoc ls t u l _ hc hs ih =>
    have hl := hstep t l u hc hs
    rw [List.map_append, List.sum_append, List.map_singleton, List.sum_singleton]
    omega

/-! ## Computing runs -/

/-- What every step of a computation in `Option` keeps, the computation through a list keeps. -/
theorem foldlM_invariant {α : Type*} {f : σ → α → Option σ} {I : σ → Prop} {as : List α} {s t : σ}
    (h : as.foldlM f s = some t) (hinit : I s)
    (hstep : ∀ s, ∀ a ∈ as, ∀ t, I s → f s a = some t → I t) : I t := by
  induction as generalizing s with
  | nil =>
    cases h
    exact hinit
  | cons a as ih =>
    rw [List.foldlM_cons] at h
    obtain ⟨u, hu, h⟩ := Option.bind_eq_some_iff.mp h
    exact ih h (hstep s a List.mem_cons_self u hinit hu)
      fun s b hb => hstep s b (List.mem_cons_of_mem a hb)

/-- The state a list of labels leads to, if all of them are enabled. -/
def run (s : σ) : List ℓ → Option σ
  | [] => some s
  | l :: ls => (M.step s l).bind fun t => run t ls

/-- The same, checking a condition before every step. -/
def runIf (C : σ → ℓ → Prop) [∀ s l, Decidable (C s l)] (s : σ) : List ℓ → Option σ
  | [] => some s
  | l :: ls => if C s l then (M.step s l).bind fun t => runIf C t ls else none

theorem exec_of_run {s t : σ} {ls : List ℓ} (h : M.run s ls = some t) :
    M.Exec (fun _ _ => True) s ls t := by
  induction ls generalizing s with
  | nil => cases h; exact .nil
  | cons l ls ih =>
    obtain ⟨u, hu, h⟩ := Option.bind_eq_some_iff.mp h
    exact .cons trivial hu (ih h)

theorem run_append (s : σ) (ls ls' : List ℓ) :
    M.run s (ls ++ ls') = (M.run s ls).bind fun t => M.run t ls' := by
  induction ls generalizing s with
  | nil => rfl
  | cons l ls ih =>
    rw [List.cons_append, run, run, Option.bind_assoc]
    exact congrArg _ (funext ih)

theorem run_of_stays {s : σ} {ls : List ℓ} (h : ∀ l ∈ ls, M.step s l = some s) :
    M.run s ls = some s := by
  induction ls with
  | nil => rfl
  | cons l ls ih =>
    rw [run, h l List.mem_cons_self, Option.bind_some]
    exact ih fun l' hl' => h l' (List.mem_cons_of_mem l hl')

/-- The labels of a run decide where it leads. -/
theorem Exec.run_eq {M : Lts σ ℓ} {C : σ → ℓ → Prop} {s t : σ} {ls : List ℓ}
    (h : M.Exec C s ls t) : M.run s ls = some t := by
  induction h with
  | nil => rfl
  | snoc _ _ hs ih => simp [run_append, ih, run, hs]

/-- A run meets a condition exactly if the run before its last step does, and that step. -/
theorem Exec.snoc_iff {M : Lts σ ℓ} {C C' : σ → ℓ → Prop} {s t u : σ} {ls : List ℓ} {l : ℓ}
    (h : M.Exec C' s ls t) (hstep : M.step t l = some u) :
    M.Exec C s (ls ++ [l]) u ↔ M.Exec C s ls t ∧ C t l := by
  constructor
  · intro hexec
    generalize hls : ls ++ [l] = ls' at hexec
    cases hexec with
    | nil => exact absurd hls (by simp)
    | snoc hexec hc _ =>
      obtain ⟨rfl, hl⟩ := List.append_inj' hls rfl
      obtain rfl := List.singleton_inj.mp hl
      rw [Option.some.inj (h.run_eq.symm.trans hexec.run_eq)]
      exact ⟨hexec, hc⟩
  · rintro ⟨hexec, hc⟩
    exact .snoc hexec hc hstep

theorem exec_of_runIf {C : σ → ℓ → Prop} [∀ s l, Decidable (C s l)] {s t : σ} {ls : List ℓ}
    (h : M.runIf C s ls = some t) : M.Exec C s ls t := by
  induction ls generalizing s with
  | nil => cases h; exact .nil
  | cons l ls ih =>
    rw [runIf] at h
    split at h
    · rename_i hc
      obtain ⟨u, hu, h⟩ := Option.bind_eq_some_iff.mp h
      exact .cons hc hu (ih h)
    · cases h

end Lts
