import Mathlib.Data.Finset.Insert
import Pango.Bbb.Loop

/-!
# How the BBB ends, and what it leaves open

The program of the BBB is meant to run for the whole life of the device, so every way
out of it is a fault that needs somebody to start it again.  The loop has an error exit
after each of its calls, but most of these are guarded by a comparison that never fires;
it counts the presses the board does not answer and never starts again; and two calls
can end the process behind its back.

It opens a socket for every start and closes one after a payment only.  A start that the
server refuses, or whose location does not arrive, leaves `client_socket` open, and the
next start puts a new socket in its place.

* `exit_iff` — the three ways out of the loop, and the three ways out of the process.
* `mem_opened_iff` — **every start that comes to nothing leaves its socket open**.
-/

namespace Pango.Bbb

variable {D : Type*}

/-! ## The ways out -/

/-- A press the board does not answer. -/
def Label.unanswered : Label D → Bool
  | .press env => env.uart.isNone
  | _ => false

/-- What ends the loop, after the labels `ls`. -/
inductive Ends (ls : List (Label D)) (b : Main D) : Label D → Prop
  /-- The third press without an answer, whatever came between them. -/
  | silence {env : Env} (huart : env.uart = none) (hthird : ls.countP Label.unanswered = 2) :
      Ends ls b (.press env)
  /-- The last frame of a parking cannot be sent, and `send` says so. -/
  | closing {env : Env} {bytes : List UInt8} (hclose : b.Closes env bytes)
      (hsend : env.send = .fails) : Ends ls b (.press env)
  /-- The payment cannot be received. -/
  | payment : Ends ls b (.payment none)

/-- What ends the process within a call. -/
inductive Aborts (b : Main D) : Label D → Prop
  /-- There is no socket for a start. -/
  | noSocket {env : Env} {bytes : List UInt8} (hstart : b.Starts env bytes)
      (hconnect : env.connect = .noSocket) : Aborts b (.press env)
  /-- The first frame of a parking raises SIGPIPE, as it does when `connect` was refused and
  the signal is not ignored. -/
  | starting {env : Env} {bytes : List UInt8} (hstart : b.Starts env bytes)
      (hconnect : env.connect ≠ .noSocket) (hsend : env.send = .signal) : Aborts b (.press env)
  /-- The last frame raises it, on a connection that is gone. -/
  | closing {env : Env} {bytes : List UInt8} (hclose : b.Closes env bytes)
      (hsend : env.send = .signal) : Aborts b (.press env)

/-- The counter, while the loop goes on. -/
structure Counts (ls : List (Label D)) (s : State D) : Prop where
  errors : s.main.stmDataReceiveError.toNat = ls.countP Label.unanswered
  lt : ls.countP Label.unanswered < 3

section Ends

variable {s s' : State D} {l : Label D} {ls : List (Label D)} {b : Main D} {env : Env}
  {bytes : List UInt8}

/-- The counter comes to three at the third press. -/
theorem third_iff (hJ : Counts ls s) :
    s.main.stmDataReceiveError + 1 = AppStatus.restart ↔ ls.countP Label.unanswered = 2 := by
  obtain ⟨herr, hlt⟩ := hJ
  rw [← UInt8.toNat_inj, UInt8.toNat_add, herr, show (1 : UInt8).toNat = 1 from rfl,
    show AppStatus.restart.toNat = 3 from rfl]
  omega

theorem not_closes_of_starts {bytes' : List UInt8} (h : b.Starts env bytes) :
    ¬ b.Closes env bytes' := by
  intro hclose
  cases h.notConnected.symm.trans hclose.connected

theorem not_ends_of_starts (h : b.Starts env bytes) : ¬ Ends ls b (.press env) := by
  rintro (⟨hno, -⟩ | ⟨hclose, -⟩)
  · cases h.uart.symm.trans hno
  · exact not_closes_of_starts h hclose

theorem not_aborts_of_none (h : env.uart = none) : ¬ Aborts b (.press env) := by
  rintro (⟨hstart, -⟩ | ⟨hstart, -, -⟩ | ⟨hclose, -⟩)
  · cases h.symm.trans hstart.uart
  · cases h.symm.trans hstart.uart
  · cases h.symm.trans hclose.uart

/-- A start ends the process exactly if there is no socket for it or its `send` raises SIGPIPE. -/
theorem aborts_iff_of_starts (hstart : b.Starts env bytes) :
    Aborts b (.press env) ↔ env.connect = .noSocket ∨ env.send = .signal := by
  constructor
  · rintro (⟨-, hconnect⟩ | ⟨-, -, hsend⟩ | ⟨hclose, -⟩)
    · exact .inl hconnect
    · exact .inr hsend
    · exact absurd hclose (not_closes_of_starts hstart)
  · by_cases hconnect : env.connect = .noSocket
    · exact fun _ => .noSocket hstart hconnect
    · exact fun h => .starting hstart hconnect (h.resolve_left hconnect)

/-- An end leaves the loop exactly if its `send` returns -1. -/
theorem ends_iff_of_closes (hclose : b.Closes env bytes) :
    Ends ls b (.press env) ↔ env.send = .fails := by
  refine ⟨?_, .closing hclose⟩
  rintro (⟨hno, -⟩ | ⟨-, hsend⟩)
  · cases hclose.uart.symm.trans hno
  · exact hsend

/-- It ends the process exactly if its `send` raises SIGPIPE. -/
theorem aborts_iff_of_closes (hclose : b.Closes env bytes) :
    Aborts b (.press env) ↔ env.send = .signal := by
  refine ⟨?_, .closing hclose⟩
  rintro (⟨hstart, -⟩ | ⟨hstart, -, -⟩ | ⟨-, hsend⟩)
  · exact absurd hclose (not_closes_of_starts hstart)
  · exact absurd hclose (not_closes_of_starts hstart)
  · exact hsend

theorem pressed_ends_iff (hJ : Counts ls s) (hpc : s.main.pc = .head) (env : Env) :
    ((s.main.pressed env).1.pc = .ended ↔ Ends ls s.main (.press env)) ∧
      ((s.main.pressed env).1.pc = .aborted ↔ Aborts s.main (.press env)) := by
  have h := s.main.pressed_cases env
  generalize s.main.pressed env = r at h ⊢
  cases h with
  | silent huart hagain =>
    refine ⟨iff_of_false (by simp [hpc]) ?_, iff_of_false (by simp [hpc])
      (not_aborts_of_none huart)⟩
    rintro (⟨-, htwo⟩ | ⟨hclose, -⟩)
    · exact hagain ((third_iff hJ).mpr htwo)
    · cases huart.symm.trans hclose.uart
  | thirdSilent huart hthird =>
    exact ⟨iff_of_true rfl (.silence huart ((third_iff hJ).mp hthird)),
      iff_of_false (by simp) (not_aborts_of_none huart)⟩
  | unread huart hrecv =>
    refine ⟨iff_of_false (by simp [Main.update]) ?_, iff_of_false (by simp [Main.update]) ?_⟩
    · rintro (⟨hno, -⟩ | ⟨hclose, -⟩)
      · cases huart.symm.trans hno
      · cases hrecv.symm.trans hclose.recv
    · rintro (⟨hstart, -⟩ | ⟨hstart, -, -⟩ | ⟨hclose, -⟩)
      · cases hrecv.symm.trans hstart.recv
      · cases hrecv.symm.trans hstart.recv
      · cases hrecv.symm.trans hclose.recv
  | noSocket hstart hconnect =>
    exact ⟨iff_of_false (by simp) (not_ends_of_starts hstart),
      iff_of_true rfl ((aborts_iff_of_starts hstart).mpr (.inl hconnect))⟩
  | start hstart hconnect hsend | startFails hstart hconnect hsend =>
    refine ⟨iff_of_false (by simp [Main.exchanged, Main.update]) (not_ends_of_starts hstart),
      iff_of_false (by simp [Main.exchanged, Main.update]) ?_⟩
    rw [aborts_iff_of_starts hstart, hsend]
    simp [hconnect]
  | startSignal hstart hconnect hsend =>
    exact ⟨iff_of_false (by simp) (not_ends_of_starts hstart),
      iff_of_true rfl ((aborts_iff_of_starts hstart).mpr (.inr hsend))⟩
  | close hclose hsend | closeFails hclose hsend | closeSignal hclose hsend =>
    rw [ends_iff_of_closes hclose, aborts_iff_of_closes hclose, hsend]
    simp
  | @nothing bytes hanswer hstart hclose =>
    have hsame : ∀ {bytes'}, env.uart = some bytes' → bytes' = bytes := fun h =>
      Option.some.inj (h.symm.trans hanswer.uart)
    refine ⟨iff_of_false (by simp [Main.update]) ?_, iff_of_false (by simp [Main.update]) ?_⟩
    · rintro (⟨hno, -⟩ | ⟨h, -⟩)
      · cases hanswer.uart.symm.trans hno
      · exact hclose (hsame h.uart ▸ h)
    · rintro (⟨h, -⟩ | ⟨h, -, -⟩ | ⟨h, -⟩)
      · exact hstart (hsame h.uart ▸ h)
      · exact hstart (hsame h.uart ▸ h)
      · exact hclose (hsame h.uart ▸ h)

theorem countP_concat (ls : List (Label D)) (l : Label D) :
    (ls ++ [l]).countP Label.unanswered =
      ls.countP Label.unanswered + if l.unanswered then 1 else 0 := by
  rw [List.countP_append]
  cases hl : l.unanswered <;> simp [hl]

/-- What the board answers does not touch the counter. -/
theorem counts_of_answered (hJ : Counts ls s) (hl : l.unanswered = false)
    (herr : s'.main.stmDataReceiveError = s.main.stmDataReceiveError) : Counts (ls ++ [l]) s' := by
  have hcount := countP_concat ls l
  rw [hl, if_neg Bool.false_ne_true, Nat.add_zero] at hcount
  exact ⟨by rw [hcount, herr, hJ.errors], by rw [hcount]; exact hJ.lt⟩

/-- A press is counted exactly if the board does not answer it. -/
theorem counts_press (hJ : Counts ls s) (env : Env) (actions : List (Action D))
    (hgoes : (s.main.pressed env).1.pc ≠ .ended) :
    Counts (ls ++ [.press env]) ⟨(s.main.pressed env).1, actions⟩ := by
  have hanswered : ∀ {bytes : List UInt8} {b : Main D}, env.uart = some bytes →
      b.stmDataReceiveError = s.main.stmDataReceiveError →
      Counts (ls ++ [.press env]) ⟨b, actions⟩ := fun huart herr =>
    counts_of_answered hJ (by simp [Label.unanswered, huart]) herr
  have h := s.main.pressed_cases env
  generalize s.main.pressed env = r at h hgoes ⊢
  cases h with
  | silent huart hagain =>
    have hcount := countP_concat ls (.press env)
    rw [show (Label.press env : Label D).unanswered = true by simp [Label.unanswered, huart],
      if_pos rfl] at hcount
    have htwo := mt (third_iff hJ).mpr hagain
    have hlt := hJ.lt
    refine ⟨?_, by omega⟩
    rw [hcount, UInt8.toNat_add, hJ.errors, show (1 : UInt8).toNat = 1 from rfl]
    omega
  | thirdSilent _ _ => exact absurd rfl hgoes
  | unread huart _ => exact hanswered huart rfl
  | noSocket hstart _ | start hstart _ _ | startFails hstart _ _ | startSignal hstart _ _ =>
    exact hanswered hstart.uart rfl
  | close hclose _ | closeFails hclose _ | closeSignal hclose _ =>
    exact hanswered hclose.uart rfl
  | nothing hanswer _ _ => exact hanswered hanswer.uart rfl

theorem ended_step (hJ : Counts ls s) (hasks : Orderly s) (h : loop.step s l = some s') :
    ((s'.main.pc = .ended ↔ Ends ls s.main l) ∧ (s'.main.pc = .aborted ↔ Aborts s.main l)) ∧
      (s'.main.pc ≠ .ended → Counts (ls ++ [l]) s') := by
  rcases step_cases h with ⟨env, rfl, hpc, rfl⟩ | ⟨received, send, rfl, hpc, rfl⟩
    | ⟨received, rfl, hpc, rfl⟩
  · exact ⟨pressed_ends_iff hJ hpc env, counts_press hJ env _⟩
  · have hphase := hasks.phase
    simp only [Phase, hpc] at hphase
    obtain ⟨location, hgot⟩ := Main.gotLocation_of_on hphase.1 received send
    rw [hgot]
    exact ⟨⟨iff_of_false (by simp [Main.exchanged, Main.update]) (by rintro ⟨⟩),
      iff_of_false (by simp [Main.exchanged, Main.update]) (by rintro ⟨⟩)⟩,
      fun _ => counts_of_answered hJ rfl rfl⟩
  · cases received with
    | none =>
      exact ⟨⟨iff_of_true rfl .payment, iff_of_false (by simp [Main.gotPayment,
        Main.closeResources]) (by rintro ⟨⟩)⟩, fun hno => absurd rfl hno⟩
    | some payment =>
      exact ⟨⟨iff_of_false (by simp [Main.gotPayment, Main.update]) (by rintro ⟨⟩),
        iff_of_false (by simp [Main.gotPayment, Main.update]) (by rintro ⟨⟩)⟩,
        fun _ => counts_of_answered hJ rfl rfl⟩

end Ends

/-! ## The sockets -/

/-- How many sockets there have been, and which of them, counted from one, are open. -/
structure Descriptors where
  created : ℕ := 0
  opened : Finset ℕ := ∅

/-- `connect` is called on a new socket, and `close` on the last one; before there is one, and
when it has been closed before, that closes no socket. -/
def Descriptors.step (d : Descriptors) : Action D → Descriptors
  | .connect _ => ⟨d.created + 1, insert (d.created + 1) d.opened⟩
  | .close => { d with opened := d.opened.erase d.created }
  | _ => d

def descriptors (actions : List (Action D)) : Descriptors := actions.foldl Descriptors.step {}

theorem descriptors_append (a b : List (Action D)) :
    descriptors (a ++ b) = b.foldl Descriptors.step (descriptors a) := List.foldl_append

/-- A start was handed to `send` on the socket, and no end. -/
def startOnly (frames : List Frame) : Bool := frames.length == 1

/-- The open sockets, where the loop waits. -/
structure Kept (b : Main D) (S : Sockets) (d : Descriptors) : Prop where
  created : d.created = S.before.length
  le : ∀ n ∈ d.opened, n ≤ S.before.length
  /-- Of the earlier ones, those of the starts that came to nothing. -/
  before : ∀ (n : ℕ) (frames : List Frame), S.before[n]? = some frames →
    (n ∈ d.opened ↔ startOnly frames = true)
  current : S.before.length ∈ d.opened ↔
    b.pc ≠ .ended ∧ (startOnly S.current = true ∨ b.pc = .payment)
  /-- The payment is waited for after an end. -/
  payment : b.pc = .payment → startOnly S.current = false

section Sockets

variable {s s' : State D} {l : Label D} {b b' : Main D} {S : Sockets} {d : Descriptors}

theorem Kept.congr (hJ : Kept b S d) (hpc : b.pc = .payment ↔ b'.pc = .payment)
    (hended : b.pc = .ended ↔ b'.pc = .ended) : Kept b' S d := by
  refine ⟨hJ.created, hJ.le, hJ.before, hJ.current.trans ?_, fun h => hJ.payment (hpc.mpr h)⟩
  rw [hpc, ne_eq, ne_eq, hended]

/-- After a `close` the last socket is not open, and the others are as they were. -/
theorem Kept.close (hJ : Kept b S d)
    (hdone : ¬ (b'.pc ≠ .ended ∧ (startOnly S.current = true ∨ b'.pc = .payment)))
    (hpay : b'.pc ≠ .payment) : Kept b' S (d.step (.close : Action D)) := by
  refine ⟨hJ.created, fun n hn => hJ.le n (Finset.mem_of_mem_erase hn), fun n frames hn => ?_,
    iff_of_false ?_ hdone, fun h => absurd h hpay⟩
  · have hlt := (List.getElem?_eq_some_iff.mp hn).1
    have hne : n ≠ d.created := by
      rw [hJ.created]
      omega
    rw [← hJ.before n frames hn]
    simp only [Descriptors.step, Finset.mem_erase, hne, ne_eq, not_false_eq_true, true_and]
  · rw [← hJ.created]
    simp [Descriptors.step]

/-- With a start there is a new socket, and the one before stays as it is. -/
theorem Kept.start (hJ : Kept b S d) (hhead : b.pc = .head) {f : Frame} (hended : b'.pc ≠ .ended)
    (hpay : b'.pc ≠ .payment) : Kept b' ⟨S.before ++ [S.current], [f]⟩
      ⟨d.created + 1, insert (d.created + 1) d.opened⟩ := by
  have hcurrent : S.before.length ∈ d.opened ↔ startOnly S.current = true := by
    rw [hJ.current, hhead]
    simp
  have hlen : (S.before ++ [S.current]).length = d.created + 1 := by simp [hJ.created]
  refine ⟨hlen.symm, fun n hn => ?_, fun n frames hn => ?_, ?_, fun h => absurd h hpay⟩
  · rw [hlen]
    rcases Finset.mem_insert.mp hn with rfl | hn
    · exact le_rfl
    · have := hJ.le n hn
      rw [hJ.created]
      omega
  · have hlt := (List.getElem?_eq_some_iff.mp hn).1
    rw [hlen] at hlt
    rw [Finset.mem_insert, or_iff_right (Nat.ne_of_lt hlt)]
    by_cases hlast : n = S.before.length
    · rw [hlast, List.getElem?_concat_length] at hn
      rw [hlast, hcurrent, Option.some.inj hn]
    · rw [hJ.created] at hlt
      rw [List.getElem?_append_left (by omega)] at hn
      exact hJ.before n frames hn
  · rw [hlen]
    exact iff_of_true (Finset.mem_insert_self _ _) ⟨hended, .inl rfl⟩

/-- A press that does not end the process keeps the account of the sockets. -/
theorem kept_pressed (horder : Orderly s)
    (hJ : Kept s.main (sockets s.actions) (descriptors s.actions)) (hpc : s.main.pc = .head)
    (env : Env) (hruns : (s.main.pressed env).1.pc ≠ .aborted) :
    Kept (s.main.pressed env).1 (sockets (s.actions ++ (s.main.pressed env).2))
      (descriptors (s.actions ++ (s.main.pressed env).2)) := by
  have hphase := horder.phase
  simp only [Phase, hpc] at hphase
  -- after an end the current socket is the one with the start
  have hclosing : ∀ {bytes : List UInt8}, s.main.Closes env bytes → ∃ f,
      (sockets s.actions).current = [f] ∧
        Kept { s.main.read bytes with pc := .payment } ⟨(sockets s.actions).before,
          [f, (s.main.read bytes).dataBuff]⟩ (descriptors s.actions) := by
    intro bytes hclose
    obtain ⟨f, hcur, -⟩ := hphase.2.2 hclose.connected
    have hopen : (sockets s.actions).before.length ∈ (descriptors s.actions).opened :=
      hJ.current.mpr ⟨by rw [hpc]; decide, .inl (by rw [hcur]; rfl)⟩
    exact ⟨f, hcur, hJ.created, hJ.le, hJ.before, iff_of_true hopen ⟨by simp, .inr rfl⟩,
      fun _ => rfl⟩
  rw [sockets_append, descriptors_append]
  have h := s.main.pressed_cases env
  generalize s.main.pressed env = r at h hruns ⊢
  cases h with
  | silent _ _ => exact hJ.congr Iff.rfl Iff.rfl
  | thirdSilent _ _ => exact hJ.close (fun h => h.1 rfl) (by simp)
  | unread _ _ => exact hJ.congr (by simp [Main.update, hpc]) (by simp [Main.update, hpc])
  | noSocket _ _ => exact absurd rfl hruns
  | start _ _ _ => exact hJ.start hpc (by simp) (by simp)
  | startFails _ _ _ =>
    exact hJ.start hpc (by simp [Main.exchanged, Main.update])
      (by simp [Main.exchanged, Main.update])
  | startSignal _ _ _ => exact absurd rfl hruns
  | close hclose _ =>
    obtain ⟨f, hcur, hsent⟩ := hclosing hclose
    simpa only [List.foldl_cons, List.foldl_nil, Sockets.step, Descriptors.step, hcur,
      List.singleton_append] using hsent
  | @closeFails bytes hclose _ =>
    obtain ⟨f, hcur, hsent⟩ := hclosing hclose
    have hclosed : Kept { s.main.read bytes with pc := .ended } _ _ :=
      hsent.close (fun h => h.1 rfl) (by simp)
    simpa only [List.foldl_cons, List.foldl_nil, Sockets.step, Descriptors.step, hcur,
      List.singleton_append] using hclosed
  | closeSignal _ _ => exact absurd rfl hruns
  | nothing _ _ _ =>
    exact hJ.congr (by simp [Main.update, Main.read, hpc]) (by simp [Main.update, Main.read, hpc])

theorem kept_step (horder : Orderly s)
    (hJ : Kept s.main (sockets s.actions) (descriptors s.actions)) (h : loop.step s l = some s')
    (hruns : s'.main.pc ≠ .aborted) :
    Kept s'.main (sockets s'.actions) (descriptors s'.actions) := by
  have hphase := horder.phase
  rcases step_cases h with ⟨env, rfl, hpc, rfl⟩ | ⟨received, send, rfl, hpc, rfl⟩
    | ⟨received, rfl, hpc, rfl⟩
  · exact kept_pressed horder hJ hpc env hruns
  · simp only [Phase, hpc] at hphase
    obtain ⟨location, hgot⟩ := Main.gotLocation_of_on hphase.1 received send
    rw [hgot, List.append_nil]
    exact hJ.congr (by simp [Main.exchanged, Main.update, hpc])
      (by simp [Main.exchanged, Main.update, hpc])
  · rw [sockets_append, descriptors_append]
    cases received with
    | none => exact hJ.close (fun h => h.1 rfl) (by simp [Main.gotPayment, Main.closeResources])
    | some payment =>
      refine hJ.close ?_ (by simp [Main.gotPayment, Main.update])
      rintro ⟨-, hno | hno⟩
      · cases (hJ.payment hpc).symm.trans hno
      · cases hno

end Sockets

section Runs

variable {dataBuff : Frame} {location : Buf UInt8 12} {payment : D × D} {ls : List (Label D)}
  {l : Label D} {s s' : State D}

/-- A process that takes a step has not ended. -/
theorem runs_of_step (hs : loop.step s l = some s') :
    s.main.pc ≠ .ended ∧ s.main.pc ≠ .aborted := by
  rcases step_cases hs with ⟨_, -, hpc, -⟩ | ⟨_, _, -, hpc, -⟩ | ⟨_, -, hpc, -⟩ <;> simp [hpc]

theorem counts_of_exec (h : loop.Exec (fun _ _ => True) (.start dataBuff location payment) ls s)
    (hpc : s.main.pc ≠ .ended) : Counts ls s := by
  induction h with
  | nil => exact ⟨rfl, Nat.zero_lt_succ 2⟩
  | @snoc ls t u l hexec _ hs ih =>
    have horder := hexec.invariant (orderly_start dataBuff location payment)
      fun _ _ _ _ hJ hs => orderly_step hJ hs
    exact (ended_step (ih (runs_of_step hs).1) horder hs).2 hpc

/-- **The ways out.**  In every run the loop ends with the third press the board has not answered
since the program was started, with an end of a parking whose `send` returns -1, and with a payment
that cannot be received, and with nothing else; and the process ends within a call at a start for
which there is no socket, and at a start or an end whose `send` raises SIGPIPE, and nowhere else. -/
theorem exit_iff (h : loop.Exec (fun _ _ => True) (.start dataBuff location payment) ls s)
    (hs : loop.step s l = some s') :
    (s'.main.pc = .ended ↔ Ends ls s.main l) ∧ (s'.main.pc = .aborted ↔ Aborts s.main l) := by
  have horder := h.invariant (orderly_start dataBuff location payment)
    fun _ _ _ _ hJ hs => orderly_step hJ hs
  exact (ended_step (counts_of_exec h (runs_of_step hs).1) horder hs).1

/-- **Every start that comes to nothing leaves its socket open.**  In every run, as long as no call
has ended the process, the sockets that are open are those on which a start was handed to `send`
and, before the next one was opened, no end, and the one of the parking or the exchange that is
under way while the loop goes on. -/
theorem mem_opened_iff (h : loop.Exec (fun _ _ => True) (.start dataBuff location payment) ls s)
    (hruns : s.main.pc ≠ .aborted) (n : ℕ) :
    n ∈ (descriptors s.actions).opened ↔
      (∃ frames ∈ (sockets s.actions).before[n]?, startOnly frames = true) ∨
        n = (sockets s.actions).before.length ∧ s.main.pc ≠ .ended ∧
          (startOnly (sockets s.actions).current = true ∨ s.main.pc = .payment) := by
  have hJ : Kept s.main (sockets s.actions) (descriptors s.actions) := by
    have horder : Orderly (State.start dataBuff location payment) :=
      orderly_start dataBuff location payment
    refine (h.invariant (I := fun s => Orderly s ∧ (s.main.pc ≠ .aborted →
      Kept s.main (sockets s.actions) (descriptors s.actions))) ⟨horder, fun _ => ?_⟩
      fun _ _ _ _ hJ hs => ⟨orderly_step hJ.1 hs,
        kept_step hJ.1 (hJ.2 (runs_of_step hs).2) hs⟩).2 hruns
    exact ⟨rfl, by simp [descriptors, State.start], by simp [sockets, State.start],
      by simp [descriptors, sockets, State.start, startOnly], by simp [State.start]⟩
  constructor
  · intro hn
    rcases (hJ.le n hn).lt_or_eq with hlt | rfl
    · refine .inl ⟨_, List.getElem?_eq_getElem hlt, ?_⟩
      exact (hJ.before n _ (List.getElem?_eq_getElem hlt)).mp hn
    · exact .inr ⟨rfl, hJ.current.mp hn⟩
  · rintro (⟨frames, hmem, hstart⟩ | ⟨rfl, hcurrent⟩)
    · exact (hJ.before n frames hmem).mpr hstart
    · exact hJ.current.mpr hcurrent

end Runs

/-- Two starts are refused by the server, a third is accepted, and the board does not answer any
more. -/
def refusedTwice : List (Label Int) :=
  let refused : Label Int := .location (some (ascii ['E', 'R', 'R', 'O', 'R'] ++ [0])) .sends
  [.press { uart := some startBytes }, refused,
    .press { uart := none },
    .press { uart := some startBytes }, refused,
    .press { uart := some startBytes },
    .location (some (ascii ['H', 'e', 'r', 'z', 'l', 'i', 'y', 'a'] ++ [0])) .sends,
    .press { uart := none }]

/-- With the third press that comes to nothing the loop is left. -/
theorem exit_of_third : ∃ s s' : State Int, s'.main.pc = .ended ∧
    Ends refusedTwice s.main (.press { uart := none }) := by
  have hrun : (loop.run (State.start (.fill 10 0) (.fill 12 0) (0, 0)) refusedTwice).map (fun s =>
      (loop.step s (.press { uart := none })).map fun s' => s'.main.pc) = some (some .ended) := by
    decide +kernel
  obtain ⟨s, hs, hstep⟩ := Option.map_eq_some_iff.mp hrun
  obtain ⟨s', hs', hpc⟩ := Option.map_eq_some_iff.mp hstep
  exact ⟨s, s', hpc, (exit_iff (Lts.exec_of_run _ hs) hs').1.mp hpc⟩

/-- Then the sockets of the two refused starts are still open. -/
theorem two_sockets_left_open : ∃ s : State Int, s.main.pc = .ended ∧
    1 ∈ (descriptors s.actions).opened ∧ 2 ∈ (descriptors s.actions).opened ∧
      3 ∉ (descriptors s.actions).opened := by
  have hrun : (loop.run (State.start (.fill 10 0) (.fill 12 0) (0, 0))
      (refusedTwice ++ [.press { uart := none }])).map (fun s =>
        (s.main.pc, (sockets s.actions).before.map startOnly))
          = some (.ended, [false, true, true]) := by
    decide +kernel
  obtain ⟨s, hs, hparts⟩ := Option.map_eq_some_iff.mp hrun
  obtain ⟨hpc, hbefore⟩ := Prod.mk.inj hparts
  have hopened : ∀ n, n ∈ (descriptors s.actions).opened
      ↔ [false, true, true][n]? = some true := by
    intro n
    rw [mem_opened_iff (Lts.exec_of_run _ hs) (by rw [hpc]; decide) n, ← hbefore,
      List.getElem?_map, Option.map_eq_some_iff, or_iff_left fun h => h.2.1 hpc]
    rfl
  exact ⟨s, hpc, (hopened 1).mpr rfl, (hopened 2).mpr rfl, fun h => by simpa using (hopened 3).mp h⟩

end Pango.Bbb
