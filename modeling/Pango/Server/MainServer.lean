import Pango.Server.BackupLoop

/-!
# `main_server.c`: the accept loop

`main` beside the threads it starts: it accepts connections in a loop, then waits
for the thread of slot 1, tells the backup thread to return and waits for it.
What `accept` returns is stored in a `uint8_t`, and the comparison of this byte
with -1 decides about a line of output only; the loop runs once more than there
are slots.

The last time around, `main` writes `client[10].client_fd` and `thread[10]`, neither of
which exists.  What the program does after that depends on what the compiler has put
behind the two arrays, so the model stops there.  It also follows that the orderly end
of the server, the backup pass that is meant to save the data of everyone still parked,
stands behind the loop in vain: `main` comes to it only by way of that write.

* `withLoop_of_program` — the runs of `main` are runs of the server with its loop.
* `accept_loop_iff` — exactly which runs start all threads on a slot and a socket.
* `never_told_to_return` — **no run gets to the orderly end**: the backup thread is
  never told to return.
-/

namespace Pango.Server

variable {D : Type*}

/-! ## The machine -/

abbrev serverMaxNumClients : ℕ := 10
abbrev returnTheDatabaseUpdateThread : UInt8 := 1

/-- Where `main` stands once it listens. -/
inductive MainPc
  /-- At the head of the accept loop. -/
  | loop (i : ℕ)
  /-- Nowhere in particular: it has written behind `client` and `thread`. -/
  | overrun
  /-- Before `pthread_join(db_upd_thr)`. -/
  | joinDbUpdate
  /-- After `return`; no thread outlives it. -/
  | quit
  deriving DecidableEq, Repr

/-- The program: the threads, `main` and the variable `return_thread`. -/
structure Program (D : Type*) where
  looping : Looping D
  pc : MainPc
  returnThread : UInt8

/-- `main` before its loop, with an empty array of slots. -/
def Program.start [CDouble D] (rows : List Row) (now : Int) : Program D where
  looping := .start rows now
  pc := .loop 0
  returnThread := 0

inductive ProgramLabel
  /-- `accept` returns `fd`, a descriptor or -1. -/
  | accept (fd : Int)
  /-- The loop is over, and `pthread_join(thread[1])` returns. -/
  | join
  /-- `pthread_join(db_upd_thr)` returns. -/
  | joinDbUpdate
  | client (i : ℕ) (env : Env)
  | iterate (it : Iteration)

/-- The program, step by step; C does not say what it does once it is `overrun`. -/
def program [CDouble D] (cfg : Config D) : Lts (Program D) ProgramLabel where
  step p
    | .accept fd =>
      match p.pc with
      | .loop i =>
        if i ≤ serverMaxNumClients then
          if i = serverMaxNumClients then some { p with pc := .overrun }
          else
            -- a thread is started whatever `accept` has returned
            ((withLoop cfg).step p.looping (.other (.accept i fd))).map fun r =>
              { p with looping := r, pc := .loop (i + 1) }
        else none
      | _ => none
    | .join =>
      match p.pc with
      | .loop i =>
        if ¬ i ≤ serverMaxNumClients ∧ (p.looping.server.thread 1).map Thread.pc = some .done then
          some { p with pc := .joinDbUpdate, returnThread := returnTheDatabaseUpdateThread }
        else none
      | _ => none
    | .joinDbUpdate =>
      if p.pc = .joinDbUpdate ∧ p.looping.dbUpdate.quitLoopFlag = true then
        some { p with pc := .quit }
      else none
    | .client i env =>
      if p.pc = .quit ∨ p.pc = .overrun then none
      else ((withLoop cfg).step p.looping (.other (.client i env))).map fun r =>
        { p with looping := r }
    | .iterate it =>
      if p.pc = .quit ∨ p.pc = .overrun ∨ it.returnThread ≠ p.returnThread then none
      else ((withLoop cfg).step p.looping (.iterate it)).map fun r => { p with looping := r }

section Step

variable [CDouble D] {cfg : Config D} {p q : Program D} {l : ProgramLabel}

/-- What a step can be: `main` goes on without the threads noticing, a thread moves, or
`main` starts one on the next slot. -/
inductive Program.Moves (cfg : Config D) (p : Program D) : ProgramLabel → Program D → Prop
  /-- The last `accept` of the loop is stored behind the arrays. -/
  | overrun {fd : Int} (hpc : p.pc = .loop serverMaxNumClients) :
      Program.Moves cfg p (.accept fd) { p with pc := .overrun }
  | accept {i : ℕ} {fd : Int} {r : Looping D} (hpc : p.pc = .loop i)
      (hi : i < serverMaxNumClients)
      (hr : (withLoop cfg).step p.looping (.other (.accept i fd)) = some r) :
      Program.Moves cfg p (.accept fd) { p with looping := r, pc := .loop (i + 1) }
  | join {i : ℕ} (hpc : p.pc = .loop i) (hi : ¬ i ≤ serverMaxNumClients) : Program.Moves cfg p .join
      { p with pc := .joinDbUpdate, returnThread := returnTheDatabaseUpdateThread }
  | joinDbUpdate (hpc : p.pc = .joinDbUpdate) :
      Program.Moves cfg p .joinDbUpdate { p with pc := .quit }
  | client {i : ℕ} {env : Env} {r : Looping D}
      (hr : (withLoop cfg).step p.looping (.other (.client i env)) = some r) :
      Program.Moves cfg p (.client i env) { p with looping := r }
  | iterate {it : Iteration} {r : Looping D} (hread : it.returnThread = p.returnThread)
      (hr : (withLoop cfg).step p.looping (.iterate it) = some r) :
      Program.Moves cfg p (.iterate it) { p with looping := r }

theorem program_cases (h : (program cfg).step p l = some q) : Program.Moves cfg p l q := by
  cases l with
  | accept fd =>
    simp only [program] at h
    split at h
    · rename_i i hpc
      split_ifs at h with hi hlast
      · cases h
        exact .overrun (hlast ▸ hpc)
      · obtain ⟨r, hr, rfl⟩ := Option.map_eq_some_iff.mp h
        exact .accept hpc (lt_of_le_of_ne hi hlast) hr
    · cases h
  | join =>
    simp only [program] at h
    split at h
    · rename_i i hpc
      split_ifs at h with hi
      cases h
      exact .join hpc hi.1
    · cases h
  | joinDbUpdate =>
    simp only [program] at h
    split_ifs at h with hpc
    cases h
    exact .joinDbUpdate hpc.1
  | client i env =>
    simp only [program] at h
    split_ifs at h
    obtain ⟨r, hr, rfl⟩ := Option.map_eq_some_iff.mp h
    exact .client hr
  | iterate it =>
    simp only [program] at h
    split_ifs at h with hpc
    obtain ⟨r, hr, rfl⟩ := Option.map_eq_some_iff.mp h
    exact .iterate (not_not.mp (not_or.mp (not_or.mp hpc).2).2) hr

/-- **`main` refines the server with its loop**: it only decides when connections are
accepted, and what `return_thread` is. -/
theorem withLoop_of_program {C : Program D → ProgramLabel → Prop} {rows : List Row} {now : Int}
    {ls : List ProgramLabel} (h : (program cfg).Exec C (.start rows now) ls p) :
    ∃ ls', (withLoop cfg).Exec (fun _ _ => True) (.start rows now) ls' p.looping := by
  refine h.invariant (I := fun p => ∃ ls',
    (withLoop cfg).Exec (fun _ _ => True) (.start rows now) ls' p.looping) ⟨[], .nil⟩ ?_
  rintro p l q - ⟨ls', hexec⟩ hs
  cases program_cases hs with
  | overrun _ | join _ _ | joinDbUpdate _ => exact ⟨ls', hexec⟩
  | accept _ _ hr | client hr | iterate _ hr => exact ⟨ls' ++ [_], .snoc hexec trivial hr⟩

/-! ## Slots -/

/-- What `accept` has returned in a run, in order. -/
def accepts : List ProgramLabel → List Int := List.filterMap fun
  | .accept fd => some fd
  | _ => none

/-- While `main` is in its loop, it is at the slot whose number is that of the connections
it has accepted, and no slot from there on has a thread. -/
structure AtSlot (ls : List ProgramLabel) (p : Program D) : Prop where
  count : ∀ i, p.pc = .loop i → i = (accepts ls).length
  untouched : ∀ i, p.pc = .loop i → UsedBelow i p.looping.server

theorem accepts_snoc (ls : List ProgramLabel) (l : ProgramLabel) :
    accepts (ls ++ [l]) = accepts ls ++ accepts [l] := List.filterMap_append

omit [CDouble D] in
theorem usedBelow_iterated {n : ℕ} {r : Looping D} (h : UsedBelow n r.server) (t : DbUpdate)
    (b : Backup D) : UsedBelow n (r.iterated t b).server := h

theorem usedBelow_withLoop {n : ℕ} {r r' : Looping D} {l : LoopLabel}
    (h : UsedBelow n r.server) (hl : ∀ l', l = .other l' → l'.Below n)
    (hs : (withLoop cfg).step r l = some r') : UsedBelow n r'.server := by
  rcases withLoop_cases hs with ⟨l', s, rfl, -, hstep, rfl⟩ | ⟨it, flag, rfl, -, rfl⟩
  · exact usedBelow_step (hl l' rfl) h hstep
  · exact usedBelow_iterated h _ _

theorem atSlot_step {ls : List ProgramLabel} (h : AtSlot ls p)
    (hs : (program cfg).step p l = some q) : AtSlot (ls ++ [l]) q := by
  -- a thread that moves leaves `main` where it is, and uses no new slot
  have hmoves : ∀ {r : Looping D} {l' : LoopLabel}, accepts [l] = [] →
      (withLoop cfg).step p.looping l' = some r →
      (∀ n l'', l' = .other l'' → l''.Below n) → AtSlot (ls ++ [l]) { p with looping := r } := by
    intro r l' hnone hr hbelow
    refine ⟨fun i hi => ?_, fun i hi => usedBelow_withLoop (h.untouched i hi) (hbelow i) hr⟩
    rw [accepts_snoc, hnone, List.append_nil]
    exact h.count i hi
  cases program_cases hs with
  | overrun _ | join _ _ | joinDbUpdate _ => exact ⟨by simp, by simp⟩
  | @accept i fd r hpc _ hr =>
    have hcount := h.count i hpc
    refine ⟨fun j hj => ?_, fun j hj => ?_⟩
    · cases hj
      rw [accepts_snoc, List.length_append, ← hcount]
      rfl
    · cases hj
      refine usedBelow_withLoop (fun j hj => h.untouched i hpc j (by omega)) ?_ hr
      rintro l' hl'
      cases hl'
      exact Nat.lt_succ_self i
  | client hr =>
    refine hmoves rfl hr fun n l'' hl => ?_
    cases hl
    trivial
  | iterate _ hr => exact hmoves rfl hr fun n l'' hl => by cases hl

/-- At any slot `main` can take a connection. -/
theorem accept_enabled {ls : List ProgramLabel} {i : ℕ} (h : AtSlot ls p) (hpc : p.pc = .loop i)
    (hi : i < serverMaxNumClients) (fd : Int) :
    (program cfg).step p (.accept fd) = some
      { p with
        looping := { p.looping with server := p.looping.server.accepted i fd }
        pc := .loop (i + 1) } := by
  have hfree : p.looping.server.thread i = none := h.untouched i hpc i le_rfl
  simp [program, hpc, if_pos hi.le, hi.ne, withLoop, Label.isBackup, server, hfree]

/-! ## Real slots and real descriptors -/

/-- The thread on slot `i`, started when `accept` had returned `fd`. -/
structure StartedRight (cfg : Config D) (q : Program D) (i : ℕ) (fd : Int) : Prop where
  /-- `client` and `thread` have such an entry. -/
  inArrays : i < serverMaxNumClients
  /-- `update_clients` looks at it. -/
  scanned : i < cfg.updateThreadMaxNumClients
  accepted : fd ≠ -1
  clientFd : ((q.looping.server.client i).clientFd.toNat : Int) = fd

/-- A thread that is started is started right. -/
def StartsRight (cfg : Config D) (p : Program D) : ProgramLabel → Prop
  | .accept fd => ∀ i q, p.pc = .loop i → (program cfg).step p (.accept fd) = some q →
      StartedRight cfg q i fd
  | _ => True

/-- A byte keeps a descriptor exactly if it is one. -/
theorem toNat_ofInt_eq_iff (fd : Int) :
    ((UInt8.ofInt fd).toNat : Int) = fd ↔ 0 ≤ fd ∧ fd ≤ 255 := by
  unfold UInt8.ofInt
  rw [UInt8.toNat_ofNat']
  omega

theorem startsRight_of_accepts_nil (hl : accepts [l] = []) : StartsRight cfg p l := by
  cases l with
  | accept fd => cases hl
  | join | joinDbUpdate | client | iterate => exact trivial

theorem startsRight_accept_iff {prices : List (PriceRow D)} {ls : List ProgramLabel} {fd : Int}
    (h : AtSlot ls p) (hs : (program { cityParking := prices }).step p (.accept fd) = some q) :
    StartsRight { cityParking := prices } p (.accept fd)
      ↔ (accepts ls).length < serverMaxNumClients ∧ 0 ≤ fd ∧ fd ≤ 255 := by
  cases program_cases hs with
  | overrun hpc =>
    -- there is no such entry
    rw [← h.count _ hpc]
    exact iff_of_false (fun hright => absurd (hright _ _ hpc hs).inArrays (lt_irrefl _))
      fun hlt => absurd hlt.1 (lt_irrefl _)
  | @accept i _ r hpc hi _ =>
    have henabled : (program { cityParking := prices }).step p (.accept fd) = some _ :=
      accept_enabled h hpc hi fd
    rw [← h.count i hpc]
    constructor
    · intro hright
      obtain ⟨hin, -, -, hfd⟩ := hright i _ hpc henabled
      rw [accepted_client_self] at hfd
      exact ⟨hin, (toNat_ofInt_eq_iff fd).mp hfd⟩
    · rintro ⟨hin, hfd⟩ j q' hj hs'
      rw [hpc] at hj
      cases hj
      rw [henabled] at hs'
      cases hs'
      refine ⟨hin, hin, by omega, ?_⟩
      rw [accepted_client_self]
      exact (toNat_ofInt_eq_iff fd).mpr hfd

theorem atSlot_of_exec {C : Program D → ProgramLabel → Prop} {rows : List Row} {now : Int}
    {ls : List ProgramLabel} (h : (program cfg).Exec C (.start rows now) ls p) : AtSlot ls p := by
  induction h with
  | nil =>
    refine ⟨fun i hi => ?_, fun i _ j _ => rfl⟩
    cases hi
    rfl
  | snoc _ _ hs ih => exact atSlot_step ih hs

/-- **Exactly which runs of the accept loop are right**: those with at most as many
connections as there are slots, in which `accept` never fails and never returns a descriptor
that a byte does not hold. -/
theorem accept_loop_iff {prices : List (PriceRow D)} {rows : List Row} {now : Int}
    {ls : List ProgramLabel} (h : (program { cityParking := prices }).Exec (fun _ _ => True)
      (.start rows now) ls p) :
    (program { cityParking := prices }).Exec (StartsRight { cityParking := prices })
        (.start rows now) ls p
      ↔ (accepts ls).length ≤ serverMaxNumClients ∧ ∀ fd ∈ accepts ls, 0 ≤ fd ∧ fd ≤ 255 := by
  induction h with
  | nil => exact ⟨fun _ => ⟨Nat.zero_le _, fun _ hfd => (nomatch hfd)⟩, fun _ => .nil⟩
  | @snoc ls t u l hexec _ hs ih =>
    rw [hexec.snoc_iff hs, ih, accepts_snoc, List.length_append]
    by_cases hl : accepts [l] = []
    · rw [hl, List.append_nil]
      exact and_iff_left (startsRight_of_accepts_nil hl)
    · cases l with
      | accept fd =>
        rw [startsRight_accept_iff (atSlot_of_exec hexec) hs]
        have hone : accepts [.accept fd] = [fd] := rfl
        simp only [hone, List.length_singleton, List.forall_mem_append, List.forall_mem_singleton]
        constructor
        · rintro ⟨⟨-, hall⟩, hlt, hfd⟩
          exact ⟨hlt, hall, hfd⟩
        · rintro ⟨hlt, hall, hfd⟩
          exact ⟨⟨by omega, hall⟩, hlt, hfd⟩
      | join | joinDbUpdate | client | iterate => exact absurd rfl hl

end Step

/-- Two connections, the first of which ends in between. -/
def twoConnections : List ProgramLabel :=
  [.accept 5, .client 0 {}, .client 0 {}, .client 0 {}, .client 0 {}, .accept 5]

/-- The second is on the descriptor of the first, and on a slot of its own. -/
theorem accept_loop_of_two : ∃ p : Program Int, (program { cityParking := [] }).Exec
    (StartsRight { cityParking := [] }) (.start [] 0) twoConnections p := by
  have hrun : ((program ({ cityParking := [] } : Config Int)).run (.start [] 0)
      twoConnections).map (fun p => (p.pc, (p.looping.server.thread 0).map Thread.pc))
      = some (.loop 2, some .done) := by decide +kernel
  obtain ⟨p, hp, -⟩ := Option.map_eq_some_iff.mp hrun
  exact ⟨p, (accept_loop_iff (Lts.exec_of_run _ hp)).mpr (by decide)⟩

/-- **A thread without a connection**: `accept` fails, and the thread that is started all
the same finds the descriptor 255. -/
theorem started_on_failure : ∃ q : Program Int,
    (program { cityParking := [] }).step (.start [] 0) (.accept (-1)) = some q ∧
      q.looping.server.thread 0 = some {} ∧ (q.looping.server.client 0).clientFd = 255 ∧
      ¬ StartsRight { cityParking := [] } (.start [] 0 : Program Int) (.accept (-1)) := by
  refine ⟨_, rfl, rfl, rfl, fun hright => ?_⟩
  exact (hright 0 _ rfl rfl).accepted rfl

/-! ## The orderly end -/

/-- The walks of the iterations that came at a multiple of the interval from `start`. -/
def periodicPasses (start : Int) : List ProgramLabel → List Pass := List.filterMap fun
  | .iterate it => if timeToBackup start it.now = true then some it.pass else none
  | _ => none

theorem periodicPasses_snoc (start : Int) (ls : List ProgramLabel) (l : ProgramLabel) :
    periodicPasses start (ls ++ [l]) = periodicPasses start ls ++ periodicPasses start [l] :=
  List.filterMap_append

/-- `main` is in its loop, at the slot whose number is that of the `accept`s that have returned,
or the eleventh has returned. -/
def Accepting (ls : List ProgramLabel) (pc : MainPc) : Prop :=
  pc = .loop (accepts ls).length ∧ (accepts ls).length ≤ serverMaxNumClients ∨
    pc = .overrun ∧ (accepts ls).length = serverMaxNumClients + 1

/-- Where `main` and the backup thread stand after the labels `ls`. -/
structure Unending (now : Int) (ls : List ProgramLabel) (p : Program D) : Prop where
  pc : Accepting ls p.pc
  returnThread : p.returnThread = 0
  read : ∀ it, .iterate it ∈ ls → it.returnThread = 0
  quitLoopFlag : p.looping.dbUpdate.quitLoopFlag = false
  start : p.looping.dbUpdate.databaseBackupStartTime = setStartTime now
  passes : p.looping.passes = periodicPasses (setStartTime now) ls

section Unending

variable [CDouble D] {cfg : Config D} {p q : Program D} {l : ProgramLabel}
  {ls : List ProgramLabel} {rows : List Row} {now : Int}

theorem dbUpdate_of_other {a b : Looping D} {l' : Label}
    (h : (withLoop cfg).step a (.other l') = some b) :
    b.dbUpdate = a.dbUpdate ∧ b.passes = a.passes := by
  rcases withLoop_cases h with ⟨_, _, _, -, -, rfl⟩ | ⟨_, _, hl, -⟩
  · exact ⟨rfl, rfl⟩
  · cases hl

omit [CDouble D] in
/-- A step that is no iteration leaves the backup thread and its passes alone. -/
theorem Unending.congr (h : Unending now ls p) (hpc : Accepting (ls ++ [l]) q.pc)
    (hread : ∀ it, l ≠ .iterate it) (hret : q.returnThread = p.returnThread)
    (hdb : q.looping.dbUpdate = p.looping.dbUpdate)
    (hpasses : q.looping.passes = p.looping.passes) : Unending now (ls ++ [l]) q where
  pc := hpc
  returnThread := hret.trans h.returnThread
  read it hit := (List.mem_append.mp hit).elim (h.read it) fun hl =>
    absurd (List.mem_singleton.mp hl).symm (hread it)
  quitLoopFlag := hdb ▸ h.quitLoopFlag
  start := hdb ▸ h.start
  passes := by
    have hnone : periodicPasses (setStartTime now) [l] = [] := by
      cases l with
      | iterate it => exact absurd rfl (hread it)
      | accept | join | joinDbUpdate | client => rfl
    rw [hpasses, h.passes, periodicPasses_snoc, hnone, List.append_nil]

theorem unending_step (h : Unending now ls p) (hs : (program cfg).step p l = some q) :
    Unending now (ls ++ [l]) q := by
  have hloop : ∀ {i : ℕ}, p.pc = .loop i →
      i = (accepts ls).length ∧ (accepts ls).length ≤ serverMaxNumClients := by
    intro i hpc
    rcases h.pc with ⟨hpc', hle⟩ | ⟨hpc', -⟩
    · cases hpc.symm.trans hpc'
      exact ⟨rfl, hle⟩
    · cases hpc.symm.trans hpc'
  have hpc_of_none : accepts [l] = [] → Accepting (ls ++ [l]) p.pc := by
    intro hnone
    rw [Accepting, accepts_snoc, hnone, List.append_nil]
    exact h.pc
  cases program_cases hs with
  | @overrun fd hpc =>
    refine h.congr (.inr ⟨rfl, ?_⟩) (by simp) rfl rfl rfl
    rw [accepts_snoc, List.length_append, ← (hloop hpc).1]
    rfl
  | @accept i fd r hpc hi hr =>
    obtain ⟨hdb, hpasses⟩ := dbUpdate_of_other hr
    have hcount : (accepts (ls ++ [.accept fd])).length = i + 1 := by
      rw [accepts_snoc, List.length_append, ← (hloop hpc).1]
      rfl
    exact h.congr (.inl ⟨by rw [hcount], by rw [hcount]; exact hi⟩) (by simp) rfl hdb hpasses
  | join hpc hi =>
    obtain ⟨rfl, hle⟩ := hloop hpc
    exact absurd hle hi
  | joinDbUpdate hpc =>
    rcases h.pc with ⟨hpc', -⟩ | ⟨hpc', -⟩ <;> cases hpc.symm.trans hpc'
  | client hr =>
    obtain ⟨hdb, hpasses⟩ := dbUpdate_of_other hr
    exact h.congr (hpc_of_none rfl) (by simp) rfl hdb hpasses
  | @iterate it r hread hr =>
    have hzero : it.returnThread = 0 := hread.trans h.returnThread
    have hno : ¬ it.returnThread = StatementStatus.true := by
      rw [hzero]
      decide
    rcases withLoop_cases hr with ⟨_, _, hl, -⟩ | ⟨_, flag, hl, -, rfl⟩
    · cases hl
    · cases hl
      refine ⟨hpc_of_none rfl, h.returnThread, fun it' hit => ?_, decide_eq_false hno, h.start, ?_⟩
      · rcases List.mem_append.mp hit with hit | hit
        · exact h.read it' hit
        · cases List.mem_singleton.mp hit
          exact hzero
      · rw [periodicPasses_snoc, ← h.passes]
        refine congrArg (p.looping.passes ++ ·) ?_
        simp only [backupOf, Iteration.passes, if_neg hno, h.start, periodicPasses]
        split_ifs with htime <;> simp [htime]

/-- **No run gets to the orderly end.**  In every run `main` stands in its accept loop, at the slot
whose number is that of the `accept`s that have returned, or the eleventh has returned and is
written behind the arrays.  The backup thread has never been told to return, it is still in its
loop, and its passes are those of the iterations that came at a multiple of the interval, with no
last one. -/
theorem never_told_to_return (h : (program cfg).Exec (fun _ _ => True) (.start rows now) ls p) :
    (p.pc = .loop (accepts ls).length ∧ (accepts ls).length ≤ serverMaxNumClients ∨
        p.pc = .overrun ∧ (accepts ls).length = serverMaxNumClients + 1) ∧
      (∀ it, .iterate it ∈ ls → it.returnThread = 0) ∧
      p.looping.dbUpdate.quitLoopFlag = false ∧
      p.looping.passes = periodicPasses (setStartTime now) ls := by
  have hJ : Unending now ls p := by
    induction h with
    | nil => exact ⟨.inl ⟨rfl, Nat.zero_le _⟩, rfl, by simp, rfl, rfl, rfl⟩
    | snoc _ _ hs ih => exact unending_step ih hs
  exact ⟨hJ.pc, hJ.read, hJ.quitLoopFlag, hJ.passes⟩

end Unending

/-- Ten connections, an iteration after five seconds, and one connection more. -/
def elevenConnections : List ProgramLabel :=
  List.replicate 10 (.accept 5) ++
    [.iterate ⟨0, 5, ⟨fun _ => 5, []⟩, ⟨fun _ => 5, []⟩⟩, .accept 5]

/-- The eleventh is the end of what is known of the run, and the only pass is the periodic one. -/
theorem overrun_of_eleven : ∃ p : Program Int, p.pc = .overrun ∧
    p.looping.dbUpdate.quitLoopFlag = false ∧ p.looping.passes.length = 1 := by
  have hrun : ((program ({ cityParking := [] } : Config Int)).run (.start [] 0)
      elevenConnections).map Program.pc = some .overrun := by decide +kernel
  obtain ⟨p, hp, hpc⟩ := Option.map_eq_some_iff.mp hrun
  obtain ⟨-, -, hquit, hpasses⟩ := never_told_to_return (Lts.exec_of_run _ hp)
  exact ⟨p, hpc, hquit, by rw [hpasses]; rfl⟩

end Pango.Server
