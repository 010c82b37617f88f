import Pango.Server.BackupLoop
import Pango.Server.Device

/-!
# The mutex

What a thread may do depends on whether it holds the mutex: it locks it only if
it does not, unlocks it and changes `your_table` only if it does, and does not
wait for its client meanwhile.  Locking a mutex twice, or returning from a function with
the mutex held, would stop the server for every client; and the functions under the mutex
have many ways out, one for each call that may fail.

`mutex` is the rule as a machine that reads what a thread does.  Nothing is assumed of
the lock itself: each thread is held against the rule on its own.

* `disciplined_pangoClientStep`, `disciplined_backupOf` — every turn of a thread is
  accepted by the machine and ends without the mutex, whatever fails in between.
* `mutex_discipline` — so is everything that a thread does in any run.
-/

namespace Pango.Server

variable {D : Type*}

/-! ## The rule -/

/-- The mutex, as one thread sees it: the state says whether the thread holds it, and an
action that is against the rule is not enabled. -/
def mutex (D : Type*) : Lts Bool (Event D) where
  step held
    | .lock => if held then none else some true
    | .unlock => if held then some false else none
    | .exec .. => if held then some true else none
    | .recv _ | .hangup | .close => if held then none else some false
    | .clock .. | .check _ | .send .. => some held

/-- Everything is done according to the rule, and the thread does not hold the mutex in the
end. -/
def Disciplined (events : List (Event D)) : Prop := (mutex D).run false events = some false

instance (events : List (Event D)) : Decidable (Disciplined events) :=
  inferInstanceAs (Decidable (_ = _))

theorem disciplined_nil : Disciplined ([] : List (Event D)) := rfl

theorem Disciplined.append {a b : List (Event D)} (ha : Disciplined a) (hb : Disciplined b) :
    Disciplined (a ++ b) := by
  unfold Disciplined at ha hb ⊢
  rw [Lts.run_append, ha, Option.bind_some, hb]

/-- An action between two that take and give back the mutex. -/
def Event.Inside : Event D → Prop
  | .exec .. | .clock .. | .send .. => True
  | _ => False

theorem disciplined_section {events : List (Event D)} (h : ∀ e ∈ events, e.Inside) :
    Disciplined (.lock :: events ++ [.unlock]) := by
  have hstays : ∀ e ∈ events, (mutex D).step true e = some true := by
    intro e he
    have hin := h e he
    cases e with
    | exec | clock | send => rfl
    | lock | unlock | recv | hangup | check | close => exact hin.elim
  show (mutex D).run true (events ++ [.unlock]) = some false
  rw [Lts.run_append, (mutex D).run_of_stays hstays]
  rfl

/-! ## The turns of the threads -/

section Turns

variable {cfg : Config D} {env : Env} {client : PangoData D} {rows : List Row}

theorem disciplined_processClientData (status : UInt8) :
    Disciplined (processClientData cfg env client status rows).events := by
  unfold processClientData
  dsimp only
  split_ifs <;> rfl

theorem disciplined_retrievClientData (status : UInt8) :
    Disciplined (retrievClientData cfg env client status rows).events := by
  unfold retrievClientData
  dsimp only
  split_ifs <;> rfl

/-- **A step of a connection thread** keeps the rule, whatever `recv` returns and whichever
calls fail. -/
theorem disciplined_pangoClientStep [CDouble D] {t : Thread} {r : Turn D}
    (h : pangoClientStep cfg env client t rows = some r) : Disciplined r.events := by
  cases hpc : t.pc with
  | recv | check =>
    simp only [pangoClientStep, hpc] at h
    split at h <;> cases h <;> rfl
  | retriev =>
    simp only [pangoClientStep, hpc] at h
    split at h <;> cases h <;> exact disciplined_retrievClientData t.status
  | process =>
    simp only [pangoClientStep, hpc] at h
    cases h
    exact disciplined_processClientData t.status
  | lost | exist | init | sendLocation | setConnected | close | pay | remove | update | sendErrMsg
  | closeFd =>
    simp only [pangoClientStep, hpc, removeClientData, updateClientData] at h
    cases h
    rfl
  | done => simp [pangoClientStep, hpc] at h

theorem disciplined_backupOf (n : ℕ) (client : ℕ → PangoData D) (passes : List Pass)
    (rows : List Row) : Disciplined (backupOf n client passes rows).events := by
  refine disciplined_section fun e he => ?_
  obtain ⟨pass, -, he⟩ := List.mem_flatMap.mp he
  obtain ⟨i, -, he⟩ := List.mem_flatMap.mp he
  unfold slotEvents at he
  split at he
  · simp only [List.mem_cons, List.not_mem_nil, or_false] at he
    rcases he with rfl | rfl <;> exact trivial
  · cases he

end Turns

/-! ## Runs -/

/-- What the backup thread did. -/
def ownDbUpdate (s : State D) : List (Event D) := s.trace.filterMap fun
  | (.dbUpdate, e) => some e
  | (.client _, _) => none

theorem ownDbUpdate_turn (s : State D) (i : ℕ) (r : Turn D) :
    ownDbUpdate (s.turn i r) = ownDbUpdate s := by
  simp [ownDbUpdate, State.turn, List.filterMap_append, List.filterMap_map]

theorem ownDbUpdate_iterated (p : Looping D) (t : DbUpdate) (b : Backup D) :
    ownDbUpdate (p.iterated t b).server = ownDbUpdate p.server ++ b.events := by
  simp [ownDbUpdate, Looping.iterated, List.filterMap_append, List.filterMap_map]

theorem own_iterated (i : ℕ) (p : Looping D) (t : DbUpdate) (b : Backup D) :
    own i (p.iterated t b).server = own i p.server := by
  rw [own, eventsOf_iterated, own]

/-- Every thread has kept the rule, and holds the mutex no longer. -/
structure AllDisciplined (p : Looping D) : Prop where
  client : ∀ i, Disciplined (own i p.server)
  dbUpdate : Disciplined (ownDbUpdate p.server)

section Run

variable [CDouble D] {cfg : Config D}

theorem allDisciplined_step {p q : Looping D} {l : LoopLabel} (h : AllDisciplined p)
    (hs : (withLoop cfg).step p l = some q) : AllDisciplined q := by
  rcases withLoop_cases hs with ⟨l', s, rfl, hl, hstep, rfl⟩ | ⟨it, flag, rfl, -, rfl⟩
  · rcases step_cases hstep with ⟨i, fd, rfl, -, rfl⟩ | ⟨i, env, t, r, rfl, -, hr, rfl⟩
      | ⟨clock, fails, rfl, -⟩
    · exact ⟨h.client, h.dbUpdate⟩
    · refine ⟨fun j => ?_, ?_⟩
      · by_cases hji : j = i
        · subst hji
          rw [own_turn_self]
          exact (h.client j).append (disciplined_pangoClientStep hr)
        · rw [own_turn_of_ne _ hji]
          exact h.client j
      · rw [ownDbUpdate_turn]
        exact h.dbUpdate
    · cases hl
  · refine ⟨fun j => ?_, ?_⟩
    · rw [own_iterated]
      exact h.client j
    · rw [ownDbUpdate_iterated]
      exact h.dbUpdate.append (disciplined_backupOf ..)

/-- **The mutex is used by the rule.**  In every run of the connection threads and of the
backup thread, with whatever frames, results of `recv` and failing calls, each thread locks
the mutex only when it does not hold it, unlocks it and executes its statements only when
it does, and does not hold it between two of its turns: not while it waits in `recv`, not
after an iteration, and not when it has ended. -/
theorem mutex_discipline {rows : List Row} {now : Int} {ls : List LoopLabel} {p : Looping D}
    (h : (withLoop cfg).Exec (fun _ _ => True) (.start rows now) ls p) :
    (∀ i, Disciplined (own i p.server)) ∧ Disciplined (ownDbUpdate p.server) := by
  have hJ : AllDisciplined p :=
    h.invariant ⟨fun _ => disciplined_nil, disciplined_nil⟩ fun _ _ _ _ hJ hs =>
      allDisciplined_step hJ hs
  exact ⟨hJ.client, hJ.dbUpdate⟩

end Run

/-- A pass, a start whose price cannot be looked up, and an iteration that returns. -/
def failingStart : List LoopLabel :=
  [.iterate ⟨0, 5, ⟨fun _ => 5, []⟩, ⟨fun _ => 5, []⟩⟩, .other (.accept 0 4),
    .other (.client 0 { recv := recvFrame (sampleFrame startApp) }), .other (.client 0 {}),
    .other (.client 0 {}), .other (.client 0 { now := 7 }), .other (.client 0 { sqlFails := [0] }),
    .iterate ⟨1, 8, ⟨fun _ => 8, []⟩, ⟨fun _ => 8, []⟩⟩]

/-- The mutex has been locked three times, and is free. -/
theorem mutex_discipline_of_failingStart : ∃ p : Looping Int,
    own 0 p.server = [.recv (sampleFrame startApp).toList, .check (sampleFrame startApp),
      .clock .initializeAndGetStartTime 7, .lock, .unlock] ∧
    ownDbUpdate p.server = [.lock, .unlock, .lock, .unlock] ∧
    Disciplined (own 0 p.server) ∧ Disciplined (ownDbUpdate p.server) := by
  have hrun : ((withLoop (⟨10, []⟩ : Config Int)).run (.start [] 0) failingStart).map
      (fun p => (own 0 p.server, ownDbUpdate p.server))
      = some ([.recv (sampleFrame startApp).toList, .check (sampleFrame startApp),
          .clock .initializeAndGetStartTime 7, .lock, .unlock],
        [.lock, .unlock, .lock, .unlock]) := by decide +kernel
  obtain ⟨p, hp, hparts⟩ := Option.map_eq_some_iff.mp hrun
  obtain ⟨hown, hback⟩ := Prod.mk.inj hparts
  obtain ⟨hclient, hdb⟩ := mutex_discipline (Lts.exec_of_run _ hp)
  exact ⟨p, hown, hback, hclient 0, hdb⟩

end Pango.Server
