import Pango.Server.Authority
import Pango.Server.Passbook

/-!
# The row of a device, over runs

The connections of a device come one after another, and are sent any frames with its
address behind their first start: further starts, unknown statuses, frames that fail the
check.  `Server.Passbook` says what one step of such a connection makes of the row; here
are the steps of the others and of the backup thread, and the runs.

A further start may cost the device nothing but may well cost the server, since it sets
the start time to what the row says; so the bill is bounded by what the device was served,
and is not equal to it.

* `Passbook` — row, slots, readings and meter of a device.
* `passbook_step` — **one step** of the server keeps it; `entries_step` — and does not
  decrease `TIME_USED`.
* `never_overbilled` — over runs: `TIME_USED` never decreases, and no bill is for more than
  the seconds the device was served.
-/

namespace Pango.Server

open CInt

variable {D : Type*} [CDouble D]

/-! ## Runs of a device -/

/-- The connections of the device are driven by it, and SQLite works for them. -/
def Visited (macOf : ℕ → Buf UInt8 6) (m : Buf UInt8 6) (once : Prop) (s : State D) : Label → Prop
  | .accept .. => True
  | .client i env => macOf i = m → env.sqlFails = [] ∧ ∀ t ∈ s.thread i, Visits m once env t
  | .backup _ sqlFails => ∀ i ∈ sqlFails, macOf i ≠ m

/-- Each connection carries one address, and those of the device come one after another. -/
def Regular (macOf : ℕ → Buf UInt8 6) (m : Buf UInt8 6) (once : Prop) (s : State D) (l : Label) :
    Prop :=
  OneMac macOf s l ∧ Visited macOf m once s l ∧ OneAfterAnother Others macOf m s l

/-- What a step tells the meter of the device. -/
def noteMeter (cfg : Config D) (macOf : ℕ → Buf UInt8 6) (m : Buf UInt8 6) (s : State D) (l : Label)
    (M : Meter) : Meter :=
  match l with
  | .client i _ => if macOf i = m then M.visited i (acts cfg i s l) else M
  | _ => M

/-- The reading of the last backup pass that saw the slot of the connection that is parking
connected. -/
def noteSeen (cfg : Config D) (macOf : ℕ → Buf UInt8 6) (m : Buf UInt8 6) (s : State D) (l : Label)
    (M : Meter) (seen : Option Int) : Option Int :=
  match l with
  | .accept .. => seen
  | .client .. => stillSeen M (noteMeter cfg macOf m s l M) seen
  | .backup clock _ => match M.since with
    | some (i, _) =>
      if i < cfg.updateThreadMaxNumClients ∧ (s.client i).connected = true then some (clock i)
      else seen
    | none => seen

/-- The rows of the device. -/
abbrev State.rowsOf (m : Buf UInt8 6) (s : State D) : List Row := selectMac (macKey m) s.yourTable

/-- `TIME_USED` of the device does not decrease, as long as it has a row. -/
def Grows (m : Buf UInt8 6) (s s' : State D) : Prop :=
  ∀ row ∈ s.rowsOf m, ∀ row' ∈ s'.rowsOf m, row.timeUsed ≤ row'.timeUsed

/-- The row and the open connection of a device; `past` is what happened before the server was
started. -/
structure Entries (macOf : ℕ → Buf UInt8 6) (m : Buf UInt8 6) (once : Prop)
    (past : List (Tid × Event D)) (M : Meter) (seen : Option Int) (s : State D) : Prop where
  idle : (∀ i, macOf i = m → ∀ t ∈ s.thread i, t.Early ∨ t.pc = .done) →
    Rests m once (clocks (past ++ s.trace)) M (s.rowsOf m)
  opened : ∀ i, macOf i = m → ∀ t ∈ s.thread i, ¬ t.Early → t.pc ≠ .done →
    Stance m once i (clocks (past ++ s.trace)) M seen (s.rowsOf m) (s.client i) t

/-- A slot before the first frame, and after the end. -/
def Waits (macOf : ℕ → Buf UInt8 6) (m : Buf UInt8 6) (i : ℕ) (client : PangoData D) (t : Thread)
    (_ : List (Event D)) : Prop :=
  macOf i = m → (t.Early → Unheard m client t) ∧ (t.pc = .done → client.connected = false)

/-- All that is known of a device. -/
structure Passbook (macOf : ℕ → Buf UInt8 6) (m : Buf UInt8 6) (once : Prop)
    (past : List (Tid × Event D)) (M : Meter) (seen : Option Int) (s : State D) : Prop
    extends Entries macOf m once past M seen s where
  filed : AllFiled macOf s
  waiting : Locally (Waits macOf m) s
  serial : OneOpen macOf m s

section Step

variable {cfg : Config D} {macOf : ℕ → Buf UInt8 6} {m : Buf UInt8 6} {once : Prop}
  {past : List (Tid × Event D)} {M : Meter} {seen : Option Int} {s s' : State D} {l : Label} {i : ℕ}
  {env : Env} {t : Thread} {r : Turn D}

omit [CDouble D] in
/-- The first thing that is heard on a connection is a start. -/
theorem Visits.first (hd : Visits m once env t) (he : t.Early) (hpc : t.pc = .recv) :
    ∃ f ∈ env.recv.frame?, CrcValid f ∧ f.status = startApp ∧ f.mac = m.toList := by
  have hd := hd hpc
  rwa [if_pos he.1] at hd

omit [CDouble D] in
theorem clocks_turn (past : List (Tid × Event D)) (s : State D) (i : ℕ) (r : Turn D) :
    clocks (past ++ (s.turn i r).trace) = clocks (past ++ s.trace) ++ r.readings := by
  have hmap : clocks (r.events.map (Prod.mk (Tid.client i))) = r.readings := by
    simp only [Turn.readings, clocks, List.filterMap_map]
    exact List.filterMap_congr fun e _ => by cases e <;> rfl
  rw [← hmap, ← clocks_append, List.append_assoc]
  rfl

omit [CDouble D] in
theorem clocks_backedUp (past : List (Tid × Event D)) (s : State D) (n : ℕ) (clock : ℕ → Int)
    (sqlFails : List ℕ) : clocks (past ++ (s.backedUp n clock sqlFails).trace)
      = clocks (past ++ s.trace) ++
        clocks ((updateClientsEvents n s.client clock sqlFails).map (Prod.mk Tid.dbUpdate)) := by
  rw [← clocks_append, List.append_assoc]
  rfl

omit [CDouble D] in
/-- A pass reads the clock for every connected slot it scans. -/
theorem mem_clocks_updateClientsEvents {n k : ℕ} {client : ℕ → PangoData D} (clock : ℕ → Int)
    (sqlFails : List ℕ) (hk : k < n) (hcon : (client k).connected = true) :
    clock k ∈ clocks ((updateClientsEvents n client clock sqlFails).map
      (Prod.mk Tid.dbUpdate)) := by
  have hmem : Event.clock (D := D) .updateClients (clock k) ∈
      updateClientsEvents n client clock sqlFails := by
    refine List.mem_append_left _
      (List.mem_cons_of_mem _ (List.mem_flatMap.mpr ⟨k, by simpa using hk, ?_⟩))
    simp [slotEvents, hcon]
  exact List.mem_filterMap.mpr ⟨(.dbUpdate, .clock .updateClients (clock k)),
    List.mem_map_of_mem hmem, rfl⟩

theorem acts_client (ht : s.thread i = some t)
    (hr : pangoClientStep cfg env (s.client i) t s.yourTable = some r) :
    acts cfg i s (.client i env) = r.events := by
  simp [acts, ht, hr]

omit [CDouble D] in
theorem Stance.not_early {H : List Int} {R : List Row} {client : PangoData D}
    (h : Stance m once i H M seen R client t) : ¬ t.Early := by
  rintro ⟨hst, hpc | hpc⟩ <;> simp only [Stance, hpc] at h
  · exact h.2.1 hst
  · exact h.2.1 hst

omit [CDouble D] in
/-- The row is at rest, or one of the connections is open. -/
theorem Entries.rests_or_open (hJ : Entries macOf m once past M seen s) :
    Rests m once (clocks (past ++ s.trace)) M (s.rowsOf m) ∨
      ∃ i, macOf i = m ∧ ∃ t, s.thread i = some t ∧ ¬ t.Early ∧ t.pc ≠ .done ∧
        Stance m once i (clocks (past ++ s.trace)) M seen (s.rowsOf m) (s.client i) t := by
  by_cases hopen : ∃ i, macOf i = m ∧ ∃ t ∈ s.thread i, ¬ t.Early ∧ t.pc ≠ .done
  · obtain ⟨i, hm, t, ht, he, hd⟩ := hopen
    exact .inr ⟨i, hm, t, ht, he, hd, hJ.opened i hm t ht he hd⟩
  · refine .inl (hJ.idle fun i hm t ht => ?_)
    by_contra hno
    rw [not_or] at hno
    exact hopen ⟨i, hm, t, ht, hno⟩

theorem Passbook.row (hJ : Passbook macOf m once past M seen s) :
    s.rowsOf m = [] ∨ ∃ row, s.rowsOf m = [row] := by
  rcases hJ.rests_or_open with hrest | ⟨i, -, t, -, -, -, hS⟩
  · exact hrest.row
  · exact hS.row

/-- The connection that is parking on the meter is the open connection. -/
theorem Passbook.of_since (hJ : Passbook macOf m once past M seen s) {k : ℕ} {first : Int}
    (hsince : M.since = some (k, first)) :
    macOf k = m ∧ ∃ t, s.thread k = some t ∧ ¬ t.Early ∧ t.pc ≠ .done := by
  rcases hJ.rests_or_open with hrest | ⟨i, hm, t, ht, he, hd, hS⟩
  · rw [hrest.since] at hsince
    cases hsince
  · rcases hS.since with hnone | ⟨first', hsome⟩
    · rw [hnone] at hsince
      cases hsince
    · rw [hsome] at hsince
      cases hsince
      exact ⟨hm, t, ht, he, hd⟩

omit [CDouble D] in
theorem grows_rows {R : List Row} (h : R = [] ∨ ∃ row, R = [row]) :
    ∀ row ∈ R, ∀ row' ∈ R, row.timeUsed ≤ row'.timeUsed := by
  rcases h with rfl | ⟨row, rfl⟩ <;> simp

/-- A slot that is connected with the device's address belongs to the open connection. -/
theorem Passbook.of_connected (hJ : Passbook macOf m once past M seen s) {k : ℕ}
    (hcon : (s.client k).connected = true) (hmac : (s.client k).mac = macKey m) :
    macOf k = m ∧ ∃ t, s.thread k = some t ∧ ¬ t.Early ∧ t.pc ≠ .done := by
  have hk : macOf k = m := by
    by_contra hk
    exact mac_ne_of_filed hJ.filed hk hmac
  cases ht : s.thread k with
  | none =>
    rw [(hJ.waiting.2 k ht).1] at hcon
    cases hcon
  | some t =>
    obtain ⟨hearly, hdone⟩ := hJ.waiting.1 k t ht hk
    refine ⟨hk, t, rfl, fun he => ?_, fun hd => ?_⟩
    · rw [(hearly he).connected] at hcon
      cases hcon
    · rw [hdone hd] at hcon
      cases hcon

omit [CDouble D] in
theorem entries_accepted (hi : s.thread i = none) (hJ : Entries macOf m once past M seen s)
    (fd : Int) :
    Entries macOf m once past M seen (s.accepted i fd) := by
  refine ⟨fun hidle => hJ.idle fun j hj u hu => ?_, fun j hj u hu he hd => ?_⟩
  · have hji : j ≠ i := by
      rintro rfl
      rw [hi] at hu
      cases hu
    exact hidle j hj u (by rwa [accepted_thread_of_ne s fd hji])
  · rcases mem_thread_accepted s hu with ⟨-, rfl⟩ | ⟨hji, hu⟩
    · exact absurd ⟨rfl, .inl rfl⟩ he
    · rw [accepted_client_of_ne s fd hji]
      exact hJ.opened j hj u hu he hd

theorem entries_turn_of_ne (hfiled : AllFiled macOf s) (hm : macOf i ≠ m)
    (hr : pangoClientStep cfg env (s.client i) t s.yourTable = some r)
    (hJ : Entries macOf m once past M seen s) : Entries macOf m once past M seen (s.turn i r) := by
  have hji : ∀ j, macOf j = m → j ≠ i := by
    rintro j hj rfl
    exact hm hj
  have hthread : ∀ j, macOf j = m → (s.turn i r).thread j = s.thread j := fun j hj =>
    turn_thread_of_ne s r (hji j hj)
  have hR : (s.turn i r).rowsOf m = s.rowsOf m := select_turn_of_ne hfiled hm hr
  refine ⟨fun hidle => ?_, fun j hj u hu he hd => ?_⟩ <;> rw [clocks_turn, hR]
  · exact (hJ.idle fun j hj u hu => hidle j hj u (hthread j hj ▸ hu)).mono _
  · rw [turn_client_of_ne s r (hji j hj)]
    exact (hJ.opened j hj u (hthread j hj ▸ hu) he hd).later _

omit [CDouble D] in
theorem entries_turn (hothers : Others s i fun j u => macOf j = m → u.Early ∨ u.pc = .done)
    (hrest : r.thread.Early ∨ r.thread.pc = .done →
      Rests m once (clocks (past ++ s.trace) ++ r.readings) M (selectMac (macKey m) r.yourTable))
    (hopen : ¬ r.thread.Early → r.thread.pc ≠ .done →
      Stance m once i (clocks (past ++ s.trace) ++ r.readings) M seen
      (selectMac (macKey m) r.yourTable) r.client r.thread)
    (hm : macOf i = m) : Entries macOf m once past M seen (s.turn i r) := by
  refine ⟨fun hidle => ?_, fun j hj u hu he hd => ?_⟩ <;> rw [clocks_turn]
  · exact hrest (hidle i hm _ (turn_thread_self s i r))
  · rcases mem_thread_turn s hu with ⟨rfl, rfl⟩ | ⟨hji, hu⟩
    · rw [turn_client_self]
      exact hopen he hd
    · exact absurd (done_of_others hothers hji hu hj he) hd

theorem entries_early (hm : macOf i = m) (ht : s.thread i = some t) (he : t.Early)
    (hd : Visits m once env t) (hU : Unheard m (s.client i) t)
    (hJ : Entries macOf m once past M seen s)
    (hnext : t.pc = .check → Others s i fun j u => macOf j = m → u.Early ∨ u.pc = .done)
    (hr : pangoClientStep cfg env (s.client i) t s.yourTable = some r) :
    Entries macOf m once past (M.visited i r.events) (stillSeen M (M.visited i r.events) seen)
      (s.turn i r) := by
  rcases he.2 with hpc | hpc
  · obtain ⟨f, hf, -⟩ := hd.first he hpc
    rw [pangoClientStep_recvFrame hpc (Recv.eq_recvFrame hf)] at hr
    cases hr
    have hM : M.visited i [Event.recv (D := D) f.toList] = M := rfl
    rw [hM, stillSeen_self]
    refine ⟨fun hidle => ?_, fun j hj u hu hearly hdone => ?_⟩ <;> rw [clocks_turn]
    · refine (hJ.idle fun j hj u hu => ?_).mono _
      by_cases hji : j = i
      · subst hji
        cases ht.symm.trans hu
        exact .inl he
      · exact hidle j hj u (by rwa [turn_thread_of_ne s _ hji])
    · rcases mem_thread_turn s hu with ⟨-, rfl⟩ | ⟨hji, hu⟩
      · exact absurd ⟨he.1, .inr rfl⟩ hearly
      · rw [turn_client_of_ne s _ hji]
        exact (hJ.opened j hj u hu hearly hdone).later _
  · have hrest : Rests m once (clocks (past ++ s.trace)) M (s.rowsOf m) := by
      refine hJ.idle fun j hj u hu => ?_
      by_cases hji : j = i
      · subst hji
        cases ht.symm.trans hu
        exact .inl he
      · exact hnext hpc j hji u hu hj
    obtain ⟨hexist, hstance⟩ := stance_heard i seen hpc he hU hrest hr
    refine entries_turn (hnext hpc) (fun hno => ?_) (fun _ _ => hstance) hm
    rcases hno with hearly | hdone
    · exact absurd hearly hstance.not_early
    · exact absurd (hexist.symm.trans hdone) (by decide)

theorem entries_open (hm : macOf i = m) (hsql : env.sqlFails = []) (hd : Visits m once env t)
    (hin : InOrder (clocks (past ++ s.trace) ++ r.readings))
    (hothers : Others s i fun j u => macOf j = m → u.Early ∨ u.pc = .done)
    (hS : Stance m once i (clocks (past ++ s.trace)) M seen (s.rowsOf m) (s.client i) t)
    (hr : pangoClientStep cfg env (s.client i) t s.yourTable = some r) :
    Entries macOf m once past (M.visited i r.events) (stillSeen M (M.visited i r.events) seen)
      (s.turn i r) := by
  obtain ⟨hgo, hend⟩ := moves_pangoClientStep hsql hd hin hS hr
  refine entries_turn hothers (fun hno => ?_) (fun _ hdone => hgo hdone) hm
  by_cases hdone : r.thread.pc = .done
  · exact (hend hdone).2
  · exact absurd (hno.resolve_right hdone) (hgo hdone).not_early

/-- A backup pass writes for the open connection, if it sees it connected. -/
theorem entries_backedUp (clock : ℕ → Int) {sqlFails : List ℕ} (hvis : ∀ i ∈ sqlFails, macOf i ≠ m)
    (hin : InOrder (clocks
      (past ++ (s.backedUp cfg.updateThreadMaxNumClients clock sqlFails).trace)))
    (hJ : Passbook macOf m once past M seen s) :
    Entries macOf m once past M (noteSeen cfg macOf m s (.backup clock sqlFails) M seen)
        (s.backedUp cfg.updateThreadMaxNumClients clock sqlFails) ∧
      Grows m s (s.backedUp cfg.updateThreadMaxNumClients clock sqlFails) := by
  rw [clocks_backedUp] at hin
  by_cases hcon : ∃ k, (s.client k).connected = true ∧ (s.client k).mac = macKey m
  · obtain ⟨k, hcon, hmac⟩ := hcon
    obtain ⟨hk, t, ht, he, hd⟩ := hJ.of_connected hcon hmac
    have hothers := hJ.serial k hk t ht he hd
    obtain ⟨hstay, hre⟩ := (hJ.opened k hk t ht he hd).restay hcon
    obtain ⟨p, first, start, sync, hS⟩ := id hstay
    have hseen : noteSeen cfg macOf m s (.backup clock sqlFails) M seen
        = if k < cfg.updateThreadMaxNumClients then some (clock k) else seen := by
      simp [noteSeen, Meter.since, hS.parking, hS.since, hcon]
    -- no other slot is connected with the device's address
    have hsingle : ∀ i, i ≠ k → (s.client i).connected = true → (s.client i).mac ≠ macKey m := by
      intro i hik hci hmi
      obtain ⟨hi, u, hu, hue, hud⟩ := hJ.of_connected hci hmi
      exact hud (done_of_others hothers hik hu hi hue)
    have hsel := select_updateClients_of_single
      (n := cfg.updateThreadMaxNumClients) clock s.yourTable
      (fun hmem => hvis k hmem hk) hcon hmac hsingle
    have hrows : (s.backedUp cfg.updateThreadMaxNumClients clock sqlFails).rowsOf m = _ := hsel
    have hnew : OnStay m once k
        (clocks (past ++ (s.backedUp cfg.updateThreadMaxNumClients clock sqlFails).trace)) M
        (noteSeen cfg macOf m s (.backup clock sqlFails) M seen)
        ((s.backedUp cfg.updateThreadMaxNumClients clock sqlFails).rowsOf m) (s.client k) ∧
        Grows m s (s.backedUp cfg.updateThreadMaxNumClients clock sqlFails) := by
      rw [Grows, hrows, hseen, clocks_backedUp]
      split_ifs with hlt
      · exact hstay.backedUp hin (mem_clocks_updateClientsEvents clock sqlFails hlt hcon)
      · exact ⟨hstay.later rfl _, grows_rows hJ.row⟩
    refine ⟨⟨fun hidle => ?_, fun j hj u hu hue hud => ?_⟩, hnew.2⟩
    · rcases hidle k hk t ht with hearly | hdone
      · exact absurd hearly he
      · exact absurd hdone hd
    · by_cases hjk : j = k
      · subst hjk
        cases ht.symm.trans hu
        exact hre _ _ _ hnew.1
      · exact absurd (done_of_others hothers hjk hu hj hue) hud
  · have hsel : (s.backedUp cfg.updateThreadMaxNumClients clock sqlFails).rowsOf m = s.rowsOf m :=
      select_updateClients_of_idle clock sqlFails s.yourTable fun i hci hmi => hcon ⟨i, hci, hmi⟩
    -- a connection that is parking is open, but not connected
    have hseen : noteSeen cfg macOf m s (.backup clock sqlFails) M seen = seen := by
      cases hsince : M.since with
      | none => simp [noteSeen, hsince]
      | some e =>
        obtain ⟨i, first⟩ := e
        obtain ⟨hk, u, hu, hue, hud⟩ := hJ.of_since hsince
        have hS := hJ.opened i hk u hu hue hud
        have hci : (s.client i).connected = false := by
          by_contra hci
          exact hcon ⟨i, by simpa using hci, hS.1⟩
        simp [noteSeen, hsince, hci]
    rw [hseen]
    refine ⟨⟨fun hidle => ?_, fun j hj u hu hue hud => ?_⟩, ?_⟩
    · rw [clocks_backedUp, hsel]
      exact (hJ.idle hidle).mono _
    · rw [clocks_backedUp, hsel]
      exact (hJ.opened j hj u hu hue hud).later _
    · rw [Grows, hsel]
      exact grows_rows hJ.row

theorem entries_step (hC : Regular macOf m once s l) (hs : (server cfg).step s l = some s')
    (hin : InOrder (clocks (past ++ s'.trace))) (hJ : Passbook macOf m once past M seen s) :
    Entries macOf m once past (noteMeter cfg macOf m s l M) (noteSeen cfg macOf m s l M seen) s' ∧
      Grows m s s' := by
  obtain ⟨-, hvis, halone⟩ := hC
  rcases step_cases hs with
      ⟨i, fd, rfl, hi, rfl⟩ | ⟨i, env, t, r, rfl, ht, hr, rfl⟩ | ⟨c, f, rfl, rfl⟩
  · exact ⟨entries_accepted hi hJ.toEntries fd, grows_rows hJ.row⟩
  · rw [noteSeen, noteMeter, acts_client ht hr]
    by_cases hm : macOf i = m
    · rw [if_pos hm]
      obtain ⟨hsql, hd⟩ := hvis hm
      rw [clocks_turn] at hin
      by_cases he : t.Early
      · have hU := (hJ.waiting.1 i t ht hm).1 he
        refine ⟨entries_early hm ht he (hd t ht) hU hJ.toEntries (halone hm t ht he) hr, ?_⟩
        rcases yourTable_pangoClientStep hr with htable | ⟨hpc, -⟩ | ⟨hpc, -⟩ | ⟨hpc, -⟩
        · rw [Grows, show (s.turn i r).rowsOf m = s.rowsOf m from
            congrArg (selectMac (macKey m)) htable]
          exact grows_rows hJ.row
        · exact absurd he (not_early_of_pc (by simp [hpc]) (by simp [hpc]))
        · exact absurd he (not_early_of_pc (by rcases hpc with hpc | hpc <;> simp [hpc])
            (by rcases hpc with hpc | hpc <;> simp [hpc]))
        · exact absurd he (not_early_of_pc (by simp [hpc]) (by simp [hpc]))
      · have hdone : t.pc ≠ .done := by
          intro hpc
          simp [pangoClientStep, hpc] at hr
        have hS := hJ.opened i hm t ht he hdone
        exact ⟨entries_open hm hsql (hd t ht) hin (hJ.serial i hm t ht he hdone) hS hr,
          timeUsed_pangoClientStep hin hS hr⟩
    · rw [if_neg hm, stillSeen_self]
      refine ⟨entries_turn_of_ne hJ.filed hm hr hJ.toEntries, ?_⟩
      rw [Grows, show (s.turn i r).rowsOf m = s.rowsOf m from select_turn_of_ne hJ.filed hm hr]
      exact grows_rows hJ.row
  · exact entries_backedUp c hvis hin hJ

theorem waiting_step (hC : Regular macOf m once s l) (hs : (server cfg).step s l = some s')
    (hin : InOrder (clocks (past ++ s'.trace))) (hJ : Passbook macOf m once past M seen s) :
    Locally (Waits macOf m) s' := by
  refine locally_step hs
    (fun i fd hm => ⟨(shape_start fd).1, fun hdone => by simp at hdone⟩) ?_ hJ.waiting
  rintro i env t r rfl ht hW hr hm
  obtain ⟨hsql, hd⟩ := hC.2.1 hm
  by_cases he : t.Early
  · have hdrives : Drives m env t := by
      intro hpc
      rw [if_pos he.1]
      exact (hd t ht).first he hpc
    have hS := shape_pangoClientStep hsql hdrives ⟨fun _ => (hW hm).1 he, absurd he⟩ hr
    refine ⟨hS.1, fun hdone => ?_⟩
    obtain ⟨-, hH, -⟩ := hS.2 (not_early_of_pc (by simp [hdone]) (by simp [hdone]))
    simpa only [Heard, hdone] using hH
  · have hdone : t.pc ≠ .done := by
      intro hpc
      simp [pangoClientStep, hpc] at hr
    obtain rfl : s' = s.turn i r := by
      simpa [server, ht, hr] using hs.symm
    rw [clocks_turn] at hin
    obtain ⟨hgo, hend⟩ := moves_pangoClientStep hsql (hd t ht) hin (hJ.opened i hm t ht he hdone) hr
    refine ⟨fun he' => ?_, fun hdone' => (hend hdone').1⟩
    have hpc : r.thread.pc ≠ .done := fun hd => by rcases he'.2 with h | h <;> simp [hd] at h
    exact absurd he' (hgo hpc).not_early

theorem passbook_step (hC : Regular macOf m once s l) (hs : (server cfg).step s l = some s')
    (hin : InOrder (clocks (past ++ s'.trace))) (hJ : Passbook macOf m once past M seen s) :
    Passbook macOf m once past (noteMeter cfg macOf m s l M)
    (noteSeen cfg macOf m s l M seen) s' := by
  refine ⟨(entries_step hC hs hin hJ).1, filed_step hC.1 hJ.filed hs, waiting_step hC hs hin hJ,
    oneOpen_step ?_ hC.2.2 hJ.serial hs⟩
  rintro i env rfl hm t ht he hpc
  obtain ⟨f, hf, -⟩ := ((hC.2.1 hm).2 t ht).first he hpc
  exact ⟨f, Recv.eq_recvFrame hf⟩

theorem passbook_start (macOf : ℕ → Buf UInt8 6) (seen : Option Int) {rows : List Row}
    (hrest : Rests m once (clocks past) M (selectMac (macKey m) rows)) :
    Passbook macOf m once past M seen (.start rows : State D) := by
  have hnone : ∀ i, ∀ t ∈ (State.start rows : State D).thread i, False := fun i t ht => by cases ht
  refine ⟨⟨fun _ => ?_, fun i _ t ht => (hnone i t ht).elim⟩, locally_start rows,
    locally_start rows,
    fun i _ t ht => (hnone i t ht).elim⟩
  rw [show past ++ (State.start rows : State D).trace = past from List.append_nil past]
  exact hrest

/-! ## The bills -/

/-- The payments of a step are for no more seconds than the meter shows, and exactly for them if
`once`. -/
def PaysFor (cfg : Config D) (macOf : ℕ → Buf UInt8 6) (m : Buf UInt8 6) (once : Prop) (M : Meter)
    (s : State D) (l : Label) : Prop :=
  ∀ i, macOf i = m → ∀ e ∈ acts cfg i s l, e.isPayment = true →
    ∃ p, M.parking = some p ∧ p.since = none ∧
      ∃ total secs ok, e = .send (.payment total (CDouble.ofInt secs)) ok ∧ InInt32 secs ∧
        0 ≤ secs ∧ secs ≤ p.seconds ∧ (once → secs = p.seconds)

/-- The meter over all that the connections of the device have done. -/
def State.visitsOf (macOf : ℕ → Buf UInt8 6) (m : Buf UInt8 6) (s : State D) : Meter :=
  (eventsOf (macOf · = m) s.trace).foldl Meter.visit {}

theorem paysFor_step (hs : (server cfg).step s l = some s')
    (hJ : Passbook macOf m once past M seen s) : PaysFor cfg macOf m once M s l := by
  intro i hm e he hpay
  rcases step_cases hs with ⟨j, fd, rfl, -, -⟩ | ⟨j, env, t, r, rfl, ht, hr, -⟩ | ⟨c, f, rfl, -⟩
  · simp [acts] at he
  · by_cases hji : j = i
    · subst hji
      rw [acts_client ht hr] at he
      by_cases hpc : t.pc = .pay
      · have hS := hJ.opened j hm t ht (not_early_of_pc (by simp [hpc]) (by simp [hpc]))
          (by simp [hpc])
        obtain ⟨p, secs, total, ok, hpark, hsince, hev, hsecs⟩ := bill_of_stance hpc hS hr
        rw [hev, List.mem_singleton] at he
        exact ⟨p, hpark, hsince, total, secs, ok, he, hsecs⟩
      · rw [isPayment_pangoClientStep hr hpc e he] at hpay
        cases hpay
    · simp [acts, hji] at he
  · simp only [acts, slotEvents] at he
    split_ifs at he
    · rcases List.mem_pair.mp he with rfl | rfl <;> cases hpay
    · cases he
    · cases he

theorem visitsOf_step (hs : (server cfg).step s l = some s') :
    s'.visitsOf macOf m = noteMeter cfg macOf m s l (s.visitsOf macOf m) := by
  rcases step_cases hs with
      ⟨i, fd, rfl, -, rfl⟩ | ⟨i, env, t, r, rfl, ht, hr, rfl⟩ | ⟨c, f, rfl, rfl⟩
  · rfl
  · rw [noteMeter, acts_client ht hr]
    by_cases hm : macOf i = m
    · rw [if_pos hm, State.visitsOf, eventsOf_turn (macOf · = m) s hm, List.foldl_append]
      rfl
    · rw [if_neg hm, State.visitsOf, eventsOf_turn_of_not (macOf · = m) s hm, State.visitsOf]
  · rw [State.visitsOf, eventsOf_backedUp, State.visitsOf]
    rfl

/-- **Never overbilled.**  In every run in which the connections of a device come one after another
and are sent anything with its address behind their first start, from a table without a row for
it and with clock readings that do not decrease, `TIME_USED` of its row never decreases, and no
bill is negative or for more than the seconds its connections were served. -/
theorem never_overbilled {rows : List Row} {ls : List Label}
    (h : (server cfg).Exec (Regular macOf m False) (.start rows) ls s)
    (hrows : selectMac (macKey m) rows = []) (hclock : ClocksInOrder s.trace) :
    (server cfg).Exec (fun s l => PaysFor cfg macOf m False (s.visitsOf macOf m) s l ∧
      ∀ s' ∈ (server cfg).step s l, Grows m s s') (.start rows) ls s := by
  have hrun := h.strengthen_of_stable (P := fun s => ClocksInOrder s.trace)
    (I := fun s => ∃ seen, Passbook macOf m False [] (s.visitsOf macOf m) seen s)
    (Q := fun s l => PaysFor cfg macOf m False (s.visitsOf macOf m) s l ∧
      ∀ s' ∈ (server cfg).step s l, Grows m s s') (stable_of_isPrefix fun a b hab hb => ?_)
    ⟨none, passbook_start macOf none hrows⟩ (fun s l s' hC hin hJ hs => ?_) hclock
  · exact hrun.1.mono fun _ _ hC => hC.2
  · obtain ⟨c, rfl⟩ := hab
    exact hb.of_append
  · obtain ⟨seen, hJ⟩ := hJ
    have hin : InOrder (clocks ([] ++ s'.trace)) := hin
    refine ⟨⟨_, visitsOf_step hs ▸ passbook_step hC hs hin hJ⟩, paysFor_step hs hJ, fun u hu => ?_⟩
    obtain rfl : s' = u := Option.some.inj (hs.symm.trans hu)
    exact (entries_step hC hs hin hJ).2

end Step

instance (macOf : ℕ → Buf UInt8 6) (m : Buf UInt8 6) (once : Prop) [Decidable once] (s : State D) :
    (l : Label) → Decidable (Visited macOf m once s l)
  | .accept .. => isTrue trivial
  | .client i env => inferInstanceAs (Decidable (macOf i = m → env.sqlFails = [] ∧ _))
  | .backup _ sqlFails => inferInstanceAs (Decidable (∀ i ∈ sqlFails, macOf i ≠ m))

/-- A device starts at 100 and again at 150, when the row holds what the backup pass at 130 has
written; it sends a frame with an unknown status, and closes at 200. -/
def startedAgain : List Label :=
  sampleStart 0 100 ++ [.backup (fun _ => 130) []] ++ sampleSend 0 startApp ++
    [.client 0 {}, .client 0 { now := 150 }] ++ sampleSend 0 77 ++ sampleClose 0 200

/-- It pays for 80 of the 100 seconds. -/
theorem never_overbilled_of_startedAgain : ∃ s : State Int,
    .send (.payment 160 80) true ∈ own 0 s ∧
      (server samplePrices).Exec (fun s l =>
        PaysFor samplePrices (fun _ => sampleMac) sampleMac False
        (s.visitsOf (fun _ => sampleMac) sampleMac) s l ∧
          ∀ s' ∈ (server samplePrices).step s l, Grows sampleMac s s')
          (.start []) startedAgain s := by
  have hrun : ((server samplePrices).runIf (fun s l => l.Below 1 ∧ OneMac (fun _ => sampleMac) s l ∧
      Visited (fun _ => sampleMac) sampleMac False s l ∧
      OneAfterAnother (OthersBelow 1) (fun _ => sampleMac) sampleMac s l)
        (.start []) startedAgain).map
      (fun s => ((own 0 s).filter Event.isPayment, clocks s.trace))
      = some ([.send (.payment 160 80) true], [100, 130, 150, 200]) := by decide +kernel
  obtain ⟨s, hs, hparts⟩ := Option.map_eq_some_iff.mp hrun
  obtain ⟨hpay, hclocks⟩ := Prod.mk.inj hparts
  refine ⟨s, (List.mem_filter.mp (hpay ▸ List.mem_singleton_self _)).1,
    never_overbilled (exec_of_below 1 (Lts.exec_of_runIf _ hs) (fun _ _ h => h.1) ?_) rfl ?_⟩
  · rintro s l ⟨-, hmac, hvisited, halone⟩ hothers
    exact ⟨hmac, hvisited, halone.of_below hothers⟩
  · rw [ClocksInOrder, hclocks]
    decide

end Pango.Server
