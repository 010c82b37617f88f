import Pango.Server.Upkeep

/-!
# Crashes

A crash takes everything but `your_table`: the threads, the slots and the sockets.  What a
parking keeps of the connection that was open is what its row says, and that was written when
the parking was registered, at the last backup pass that saw the slot connected, or at the end
of an earlier connection.

* `restarting` — the server, started again after each crash with the table it left.
* `rests_crash` — **the crash**, at any moment at which the open connection waits for a frame.
* `crash_recovery` — over any number of crashes: the next start resumes the parking in its
  place, and the bill is for the connections that ended and, of those that crashed, the time
  up to the last backup pass that saw them.
-/

namespace Pango.Server

open CInt

variable {D : Type*}

/-! ## Lives of the server -/

/-- The server between two crashes; `past` is what its threads did in earlier lives. -/
structure Life (D : Type*) where
  number : ℕ
  past : List (Tid × Event D)
  server : State D

/-- A step, or a crash. -/
inductive Happening
  | step (l : Label)
  | crash

/-- The server before its first crash. -/
def Life.first [CDouble D] (rows : List Row) : Life D := ⟨0, [], .start rows⟩

/-- After a crash the slots are zeroed; the table is what it was. -/
def Life.next [CDouble D] (v : Life D) : Life D :=
  ⟨v.number + 1, v.past ++ v.server.trace, .start v.server.yourTable⟩

/-- The server, started again after each crash. -/
def restarting [CDouble D] (cfg : Config D) : Lts (Life D) Happening where
  step v
    | .step l => ((server cfg).step v.server l).map fun s => { v with server := s }
    | .crash => some v.next

/-- What the threads have done in all lives. -/
def Life.record (v : Life D) : List (Tid × Event D) := v.past ++ v.server.trace

/-- Connections are numbered in each life.  Those of the device have one start each, come one after
another, and wait for a frame when the server crashes, unless they have ended or have not been
heard. -/
def Lawful (macOf : ℕ → ℕ → Buf UInt8 6) (m : Buf UInt8 6) (v : Life D) : Happening → Prop
  | .step l => Regular (macOf v.number) m True v.server l
  | .crash => ∀ i, macOf v.number i = m → ∀ t ∈ v.server.thread i,
      t.Early ∨ t.pc = .done ∨ t.pc = .recv

/-! ## The meter over crashes -/

/-- A crash ends the stay under way, at the last backup pass that saw its slot connected, or else at
its start. -/
def Meter.crash (M : Meter) (seen : Option Int) : Meter :=
  match M.since with
  | some (_, first) => M.stop (seen.getD first)
  | none => M

/-- What is kept of a device beside the run: its meter, and the reading of the last backup pass that
saw the slot of the connection that is parking connected. -/
structure Notes where
  meter : Meter := {}
  seen : Option Int := none

/-- What is noted of a step, and of a crash. -/
def note [CDouble D] (cfg : Config D) (macOf : ℕ → ℕ → Buf UInt8 6) (m : Buf UInt8 6) (v : Life D) :
    Happening → Notes → Notes
  | .step l, N => ⟨noteMeter cfg (macOf v.number) m v.server l N.meter,
      noteSeen cfg (macOf v.number) m v.server l N.meter N.seen⟩
  | .crash, N => ⟨N.meter.crash N.seen, none⟩

/-- A start of the device resumes the parking under way: its row is found, stays as it is, and the
driver is told the city where the parking began. -/
def Resumes [CDouble D] (cfg : Config D) (macOf : ℕ → Buf UInt8 6) (m : Buf UInt8 6) (M : Meter)
    (s : State D) : Label → Prop
  | .client i env => macOf i = m → ∀ t ∈ s.thread i, ∀ p, M.parking = some p →
      ∀ r ∈ pangoClientStep cfg env (s.client i) t s.yourTable,
        (t.pc = .exist → r.thread.pc = .retriev) ∧
        (t.pc = .retriev → r.yourTable = s.yourTable ∧
          cstr r.client.location.toList = cityName p.x p.y ∧
          ∃ ok, .send (.location r.client.location) ok ∈ r.events)
  | _ => True

/-- What a device may rely on at a step. -/
def Recovers [CDouble D] (cfg : Config D) (macOf : ℕ → ℕ → Buf UInt8 6) (m : Buf UInt8 6)
    (v : Life D) (N : Notes) : Happening → Prop
  | .step l => Resumes cfg (macOf v.number) m N.meter v.server l ∧
      PaysFor cfg (macOf v.number) m True N.meter v.server l
  | .crash => True

section Step

variable [CDouble D] {cfg : Config D} {macOf : ℕ → Buf UInt8 6} {m : Buf UInt8 6}
  {past : List (Tid × Event D)} {M : Meter} {seen : Option Int} {s : State D} {l : Label}

/-- **A crash** leaves a row at rest. -/
theorem rests_crash (hJ : Passbook macOf m True past M seen s)
    (hwaits : ∀ i, macOf i = m → ∀ t ∈ s.thread i, t.Early ∨ t.pc = .done ∨ t.pc = .recv) :
    Rests m True (clocks (past ++ s.trace)) (M.crash seen) (s.rowsOf m) := by
  rcases hJ.rests_or_open with hrest | ⟨i, hm, t, ht, he, hd, hS⟩
  · rw [Meter.crash, hrest.since]
    exact hrest
  · -- the row of the open connection holds the seconds up to the last backup pass
    have hpc : t.pc = .recv := ((hwaits i hm t ht).resolve_left he).resolve_left hd
    simp only [Stance, hpc] at hS
    obtain ⟨-, -, -, p, first, start, sync, hS⟩ := hS
    obtain ⟨x, y, stays, since⟩ := p
    obtain rfl : since = some (i, first) := hS.since
    obtain ⟨howed, hsync⟩ := hS.exact trivial
    have hM : M.crash seen
        = { M with parking := some ⟨x, y, stays ++ [⟨i, first, sync⟩], none⟩ } := by
      have hsince : M.since = some (i, first) := by simp [Meter.since, hS.parking]
      rw [Meter.crash, hsince, hsync]
      simp only [Meter.stop, hS.parking]
    have hsum : (Parking.mk x y (stays ++ [⟨i, first, sync⟩]) none).seconds
        = (Parking.mk x y stays (some (i, first))).seconds + (sync - first) :=
      Parking.seconds_stop x y stays ⟨i, first, sync⟩ none
    have h1 := hS.start_nonneg
    have h2 := hS.start_le
    rw [hM, Rests]
    refine ⟨rfl, sync - start, hS.row, by omega, ?_, fun _ => ?_, sync, hS.sync_mem, by omega⟩
    · rw [hsum]
      omega
    · rw [hsum]
      omega

/-- In one step a start resumes the parking under way. -/
theorem resumes_step (hC : Regular macOf m True s l) (hJ : Passbook macOf m True past M seen s) :
    Resumes cfg macOf m M s l := by
  cases l with
  | accept i fd => trivial
  | backup c f => trivial
  | client i env =>
    intro hm t ht p hp r hr
    have hsql := (hC.2.1 hm).1
    refine ⟨fun hpc => ?_, fun hpc => ?_⟩
    · have hS := hJ.opened i hm t ht (not_early_of_pc (by simp [hpc]) (by simp [hpc]))
        (by simp [hpc])
      exact found_of_stance hpc hsql trivial hp hS hr
    · have hS := hJ.opened i hm t ht (not_early_of_pc (by simp [hpc]) (by simp [hpc]))
        (by simp [hpc])
      obtain ⟨p', hp', hloc, htable, hsend⟩ := resumed_of_stance hpc hsql hS hr
      cases hp.symm.trans hp'
      exact ⟨htable, hloc, hsend⟩

end Step

section Run

variable [CDouble D] {cfg : Config D} {macOf : ℕ → ℕ → Buf UInt8 6} {m : Buf UInt8 6}
  {v v' : Life D} {a : Happening} {N : Notes}

theorem record_grows (hs : (restarting cfg).step v a = some v') : v.record <+: v'.record := by
  cases a with
  | step l =>
    obtain ⟨s, hstep, rfl⟩ := Option.map_eq_some_iff.mp hs
    exact (List.prefix_append_right_inj v.past).mpr (trace_grows hstep)
  | crash =>
    cases hs
    exact List.prefix_append _ _

/-- A step and a crash keep the passbook of a device. -/
theorem passbook_happening (hC : Lawful macOf m v a) (hs : (restarting cfg).step v a = some v')
    (hin : ClocksInOrder v'.record)
    (hJ : Passbook (macOf v.number) m True v.past N.meter N.seen v.server) :
    Passbook (macOf v'.number) m True v'.past (note cfg macOf m v a N).meter
    (note cfg macOf m v a N).seen
      v'.server := by
  cases a with
  | step l =>
    obtain ⟨s, hstep, rfl⟩ := Option.map_eq_some_iff.mp hs
    exact passbook_step hC hstep hin hJ
  | crash =>
    cases hs
    exact passbook_start (macOf (v.number + 1)) none (rests_crash hJ hC)

/-- **Crash recovery.**  In every run in which the connections of a device come one after another,
each with one start, and a crash finds them waiting for a frame, from a table without a row for
it and with clock readings that do not decrease: every start resumes the parking under way in its
place, and every bill is for the seconds of the connections that ended and, of those that crashed,
the seconds up to the last backup pass that saw them. -/
theorem crash_recovery {rows : List Row} {as : List Happening}
    (h : (restarting cfg).Exec (Lawful macOf m) (.first rows) as v)
    (hrows : selectMac (macKey m) rows = []) (hclock : ClocksInOrder v.record) :
    ∃ N : Notes, ((restarting cfg).watched (note cfg macOf m)).Exec
      (fun q a => Recovers cfg macOf m q.1 q.2 a) (.first rows, {}) as (v, N) := by
  obtain ⟨N, hN⟩ : ∃ N : Notes, ((restarting cfg).watched (note cfg macOf m)).Exec
      (fun q a => Lawful macOf m q.1 a) (.first rows, {}) as (v, N) :=
    h.watch ({} : Notes)
  refine ⟨N, ?_⟩
  have hrest : Rests m True (clocks ([] : List (Tid × Event D))) {} (selectMac (macKey m) rows) :=
    hrows
  have hrun := hN.strengthen_of_stable (P := fun q => ClocksInOrder q.1.record)
    (I := fun q => Passbook (macOf q.1.number) m True q.1.past q.2.meter q.2.seen q.1.server)
    (Q := fun q a => Recovers cfg macOf m q.1 q.2 a) ?_
    (passbook_start (macOf 0) none hrest) ?_ hclock
  · exact hrun.1.mono fun _ _ hC => hC.2
  · intro q a q' hs hin
    obtain ⟨c, hc⟩ := record_grows (Lts.watched_step hs).1
    rw [← hc] at hin
    exact hin.of_append
  · intro q a q' hC hin hJ hs
    obtain ⟨hmove, hnote⟩ := Lts.watched_step hs
    refine ⟨?_, ?_⟩
    · rw [hnote]
      exact passbook_happening hC hmove hin hJ
    · cases a with
      | step l =>
        obtain ⟨s, hstep, -⟩ := Option.map_eq_some_iff.mp hmove
        exact ⟨resumes_step hC hJ, paysFor_step hstep hJ⟩
      | crash => trivial

/-- The same of finitely many slots. -/
def LawfulBelow (n : ℕ) (macOf : ℕ → ℕ → Buf UInt8 6) (m : Buf UInt8 6) (v : Life D) :
    Happening → Prop
  | .step l => l.Below n ∧ OneMac (macOf v.number) v.server l ∧
      Visited (macOf v.number) m True v.server l ∧
      OneAfterAnother (OthersBelow n) (macOf v.number) m v.server l
  | .crash => ∀ i < n, macOf v.number i = m → ∀ t ∈ v.server.thread i,
      t.Early ∨ t.pc = .done ∨ t.pc = .recv

instance (n : ℕ) (macOf : ℕ → ℕ → Buf UInt8 6) (m : Buf UInt8 6) (v : Life D) :
    (a : Happening) → Decidable (LawfulBelow n macOf m v a)
  | .step _ => inferInstanceAs (Decidable (_ ∧ _))
  | .crash => inferInstanceAs (Decidable (∀ i < n, _))

/-- A run over finitely many slots is checked slot by slot. -/
theorem lawful_of_below {n : ℕ} {rows : List Row} {as : List Happening}
    (h : (restarting cfg).Exec (LawfulBelow n macOf m) (.first rows) as v) :
    (restarting cfg).Exec (Lawful macOf m) (.first rows) as v := by
  have hused := (h.strengthen (I := fun v => UsedBelow n v.server) (fun _ _ => rfl) ?_).1
  · refine hused.mono fun v a hC => ?_
    obtain ⟨hC, hJ⟩ := hC
    cases a with
    | step l =>
      obtain ⟨-, hmac, hvisited, halone⟩ := hC
      exact ⟨hmac, hvisited, halone.of_below fun _ _ => others_of_below hJ⟩
    | crash =>
      intro i hm t ht
      by_cases hi : i < n
      · exact hC i hi hm t ht
      · rw [hJ i (not_lt.mp hi)] at ht
        cases ht
  · intro v a v' hC hJ hs
    cases a with
    | step l =>
      obtain ⟨s, hstep, rfl⟩ := Option.map_eq_some_iff.mp hs
      exact usedBelow_step hC.1 hJ hstep
    | crash =>
      cases hs
      exact fun _ _ => rfl

end Run

/-- A device parks at 100; the server crashes after a backup pass at 130.  The device comes back at
200, and the server crashes before any pass; it comes back at 300, is lost at 320, comes back at
400 and closes at 450. -/
def crashedTwice : List Happening :=
  (sampleStart 0 100 ++ [Label.backup (fun _ => 130) []]).map .step ++ [.crash] ++
    (sampleResume 0 200).map .step ++ [.crash] ++
    (sampleResume 0 300 ++ sampleLost 0 320 ++ sampleResume 1 400 ++ sampleClose 1 450).map .step

/-- It pays for 30 seconds of the first connection, for none of the second, and for
20 and 50 seconds of the others. -/
theorem crash_recovery_of_crashedTwice : ∃ (v : Life Int) (N : Notes),
    .send (.payment 200 100) true ∈ own 1 v.server ∧
      ((restarting samplePrices).watched (note samplePrices (fun _ _ => sampleMac) sampleMac)).Exec
        (fun q a => Recovers samplePrices (fun _ _ => sampleMac) sampleMac q.1 q.2 a)
        (.first [], {}) crashedTwice (v, N) := by
  have hrun : ((restarting samplePrices).runIf (LawfulBelow 2 (fun _ _ => sampleMac) sampleMac)
      (.first []) crashedTwice).map
      (fun v => ((own 1 v.server).filter Event.isPayment, clocks v.record))
      = some ([.send (.payment 200 100) true], [100, 130, 200, 300, 320, 400, 450]) := by
    decide +kernel
  obtain ⟨v, hv, hparts⟩ := Option.map_eq_some_iff.mp hrun
  obtain ⟨hpay, hclocks⟩ := Prod.mk.inj hparts
  have hclock : ClocksInOrder v.record := by
    rw [ClocksInOrder, hclocks]
    decide
  obtain ⟨N, hN⟩ := crash_recovery (lawful_of_below (Lts.exec_of_runIf _ hv)) rfl hclock
  exact ⟨v, N, (List.mem_filter.mp (hpay ▸ List.mem_singleton_self _)).1, hN⟩

end Pango.Server
