import Pango.Server.Device

/-!
# What a device owes

A parking meter, to hold the server against.  It watches what the connections of
a device do and knows nothing of slots and rows: a parking begins with a start,
in the place the frame gives; it is made of stays, one for each connection, from
the clock reading at the start to the reading at the end; and a payment is the
end of it.

* `meter` — the meter after a record.
* `stop_le_start` — with clock readings that do not decrease, the stays of two
  parkings do not overlap.
* `seconds_of_clocks` — with readings that fit an `int` as well, so does what is
  owed.
-/

namespace Pango.Server

variable {D : Type*}

/-- One connection's share of a parking. -/
structure Stay where
  connection : ℕ
  start : Int
  stop : Int
  deriving DecidableEq

/-- A parking that has not been paid. -/
structure Parking where
  /-- The coordinates of its first start. -/
  x : UInt8
  y : UInt8
  stays : List Stay
  /-- The connection that is parking now, and the clock reading at its start. -/
  since : Option (ℕ × Int)
  deriving DecidableEq

/-- The time owed, apart from the stay under way. -/
def Parking.seconds (p : Parking) : Int := (p.stays.map fun s => s.stop - s.start).sum

/-- The meter: the coordinates of the last start, and the parking under way. -/
structure Meter where
  x : UInt8 := 0
  y : UInt8 := 0
  parking : Option Parking := none
  deriving DecidableEq

namespace Meter

/-- A start at clock reading `t`: a new parking, or the next stay of the one
under way. -/
def start (M : Meter) (i : ℕ) (t : Int) : Meter :=
  match M.parking with
  | none => { M with parking := some ⟨M.x, M.y, [], some (i, t)⟩ }
  | some p => { M with parking := some { p with since := some (i, t) } }

/-- The end of a stay at clock reading `t`. -/
def stop (M : Meter) (t : Int) : Meter :=
  match M.parking with
  | some ⟨x, y, stays, some (i, t₀)⟩ =>
    { M with parking := some ⟨x, y, stays ++ [⟨i, t₀, t⟩], none⟩ }
  | _ => M

/-- What the meter makes of an action of a connection. -/
def step (M : Meter) (e : ℕ × Event D) : Meter :=
  match e.2 with
  | .check f => if f.status = startApp then { M with x := f.x, y := f.y } else M
  | .clock .initializeAndGetStartTime t => M.start e.1 t
  | .clock .updateClientAndContinueTime t => M.start e.1 t
  | .clock .updateClientData t => M.stop t
  | .send (.payment ..) _ => { M with parking := none }
  | _ => M

end Meter

/-- The meter after a record. -/
def meter (record : List (ℕ × Event D)) : Meter := record.foldl Meter.step {}

/-- The meter a device would have run. -/
def State.meterOf (macOf : ℕ → Buf UInt8 6) (m : Buf UInt8 6) (s : State D) : Meter :=
  meter (eventsOf (macOf · = m) s.trace)

theorem meter_append (a b : List (ℕ × Event D)) : meter (a ++ b) = b.foldl Meter.step (meter a) :=
  List.foldl_append

section MeterOf

variable {macOf : ℕ → Buf UInt8 6} {m : Buf UInt8 6} (s : State D)

@[simp] theorem meterOf_accepted (i : ℕ) (fd : Int) :
    (s.accepted i fd).meterOf macOf m = s.meterOf macOf m := rfl

@[simp] theorem meterOf_backedUp (n : ℕ) (clock : ℕ → Int) (sqlFails : List ℕ) :
    (s.backedUp n clock sqlFails).meterOf macOf m = s.meterOf macOf m := by
  rw [State.meterOf, eventsOf_backedUp, State.meterOf]

theorem meterOf_turn {i : ℕ} (hi : macOf i = m) (r : Turn D) : (s.turn i r).meterOf macOf m
    = (r.events.map (Prod.mk i)).foldl Meter.step (s.meterOf macOf m) := by
  rw [State.meterOf, eventsOf_turn (macOf · = m) s hi, meter_append, State.meterOf]

theorem meterOf_turn_of_ne {i : ℕ} (hi : macOf i ≠ m) (r : Turn D) :
    (s.turn i r).meterOf macOf m = s.meterOf macOf m := by
  rw [State.meterOf, eventsOf_turn_of_not (macOf · = m) s hi, State.meterOf]

end MeterOf

/-! ## Clocks -/

/-- The clock readings of a record. -/
def clocks {ι : Type*} (record : List (ι × Event D)) : List Int :=
  record.filterMap fun
    | (_, .clock _ t) => some t
    | _ => none

/-- The readings do not decrease, and they are times an `int` holds. -/
def ClocksInOrder {ι : Type*} (record : List (ι × Event D)) : Prop :=
  (clocks record).Pairwise (· ≤ ·) ∧ ∀ t ∈ clocks record, 0 ≤ t ∧ t < 2147483648

section Clocks

variable {record : List (ℕ × Event D)}

theorem clocks_append {ι : Type*} (a b : List (ι × Event D)) :
    clocks (a ++ b) = clocks a ++ clocks b := List.filterMap_append

theorem Parking.seconds_stop (x y : UInt8) (stays : List Stay) (s : Stay) (o : Option (ℕ × Int)) :
    (Parking.mk x y (stays ++ [s]) o).seconds
      = (Parking.mk x y stays o).seconds + (s.stop - s.start) := by
  simp [Parking.seconds]

/-- What is owed, in terms of the clock readings so far. -/
structure Owed (record : List (ℕ × Event D)) (p : Parking) : Prop where
  nonneg : 0 ≤ p.seconds
  le : p.seconds = 0 ∨ ∃ t ∈ clocks record, p.seconds ≤ t
  since : ∀ i t, p.since = some (i, t) → t ∈ clocks record ∧ p.seconds ≤ t

theorem Owed.append {p : Parking} (h : Owed record p) (e : ℕ × Event D) :
    Owed (record ++ [e]) p := by
  have hmem : ∀ t ∈ clocks record, t ∈ clocks (record ++ [e]) := fun t ht => by
    rw [clocks_append]
    exact List.mem_append_left _ ht
  exact ⟨h.nonneg, h.le.imp_right fun ⟨t, ht, hle⟩ => ⟨t, hmem t ht, hle⟩,
    fun i t ht => ⟨hmem t (h.since i t ht).1, (h.since i t ht).2⟩⟩

/-- **One action** keeps what is owed within the clock readings. -/
theorem owed_step {e : ℕ × Event D} (hclock : ClocksInOrder (record ++ [e])) {M : Meter}
    (hM : ∀ p, M.parking = some p → Owed record p) {p : Parking}
    (hp : (M.step e).parking = some p) :
    Owed (record ++ [e]) p := by
  obtain ⟨i, ev⟩ := e
  -- a reading taken now is not below any reading before it
  have hread : ∀ site t, ev = .clock site t → t ∈ clocks (record ++ [(i, ev)]) ∧ 0 ≤ t ∧
      ∀ t' ∈ clocks record, t' ≤ t := by
    rintro site t rfl
    have happ : clocks (record ++ [(i, Event.clock site t)]) = clocks record ++ [t] :=
      clocks_append record _
    have hmem : t ∈ clocks (record ++ [(i, Event.clock site t)]) := by simp [happ]
    refine ⟨hmem, (hclock.2 t hmem).1, fun t' ht' => ?_⟩
    have := hclock.1
    rw [happ, List.pairwise_append] at this
    exact this.2.2 t' ht' t (List.mem_singleton_self t)
  have hstart : ∀ site t, ev = .clock site t → (M.start i t).parking = some p →
      Owed (record ++ [(i, ev)]) p := by
    intro site t hev hp
    obtain ⟨hmem, h0, hle⟩ := hread site t hev
    unfold Meter.start at hp
    cases hpark : M.parking with
    | none =>
      rw [hpark] at hp
      cases hp
      refine ⟨le_rfl, .inl rfl, fun j t' ht' => ?_⟩
      cases ht'
      exact ⟨hmem, h0⟩
    | some q =>
      rw [hpark] at hp
      cases hp
      have hq := (hM q hpark).append (i, ev)
      refine ⟨hq.nonneg, hq.le, fun j t' ht' => ?_⟩
      cases ht'
      refine ⟨hmem, ?_⟩
      rcases (hM q hpark).le with hzero | ⟨c, hc, hqc⟩
      · exact hzero.le.trans h0
      · exact hqc.trans (hle c hc)
  have hkeep : M.parking = some p → Owed (record ++ [(i, ev)]) p := fun hpark =>
    (hM p hpark).append (i, ev)
  cases ev with
  | check f =>
    refine hkeep ?_
    simp only [Meter.step] at hp
    split_ifs at hp <;> exact hp
  | clock site t =>
    cases site with
    | initializeAndGetStartTime => exact hstart _ t rfl hp
    | updateClientAndContinueTime => exact hstart _ t rfl hp
    | updateClients => exact hkeep hp
    | updateClientData =>
      obtain ⟨hmem, h0, hle⟩ := hread _ t rfl
      simp only [Meter.step, Meter.stop] at hp
      split at hp
      · rename_i x y stays j t₀ hpark
        cases hp
        have hq := hM _ hpark
        obtain ⟨ht₀, hqt⟩ := hq.since j t₀ rfl
        have hsum : (Parking.mk x y (stays ++ [⟨j, t₀, t⟩]) none).seconds
            = (Parking.mk x y stays (some (j, t₀))).seconds + (t - t₀) :=
          Parking.seconds_stop x y stays ⟨j, t₀, t⟩ none
        have hnow := hle t₀ ht₀
        have hnn := hq.nonneg
        refine ⟨?_, .inr ⟨t, hmem, ?_⟩, nofun⟩ <;> rw [hsum] <;> omega
      · exact hkeep hp
  | send reply ok =>
    cases reply with
    | payment price seconds => cases hp
    | location bytes => exact hkeep hp
    | errMsg => exact hkeep hp
  | lock => exact hkeep hp
  | unlock => exact hkeep hp
  | recv bytes => exact hkeep hp
  | hangup => exact hkeep hp
  | exec stmt ok => exact hkeep hp
  | close => exact hkeep hp

/-! ### Stays do not overlap -/

/-- All readings of the parking under way were taken in the record. -/
def Within (record : List (ℕ × Event D)) (M : Meter) : Prop :=
  ∀ p, M.parking = some p →
    (∀ s ∈ p.stays, s.start ∈ clocks record ∧ s.stop ∈ clocks record) ∧
      ∀ i t, p.since = some (i, t) → t ∈ clocks record

theorem within_step {M : Meter} (hM : Within record M) (e : ℕ × Event D) :
    Within (record ++ [e]) (M.step e) := by
  obtain ⟨i, ev⟩ := e
  have happ : ∀ t ∈ clocks record, t ∈ clocks (record ++ [(i, ev)]) := fun t ht => by
    rw [clocks_append]
    exact List.mem_append_left _ ht
  have hread : ∀ site t, ev = .clock site t → t ∈ clocks (record ++ [(i, ev)]) := by
    rintro site t rfl
    rw [clocks_append]
    exact List.mem_append_right _ (List.mem_singleton_self t)
  have hkeep : Within (record ++ [(i, ev)]) M := fun p hp =>
    ⟨fun s hs => ⟨happ _ ((hM p hp).1 s hs).1, happ _ ((hM p hp).1 s hs).2⟩,
      fun j t ht => happ t ((hM p hp).2 j t ht)⟩
  have hstart : ∀ site t, ev = .clock site t → Within (record ++ [(i, ev)]) (M.start i t) := by
    intro site t hev p hp
    unfold Meter.start at hp
    cases hpark : M.parking with
    | none =>
      rw [hpark] at hp
      cases hp
      exact ⟨nofun, fun j t' ht' => by cases ht'; exact hread site t hev⟩
    | some q =>
      rw [hpark] at hp
      cases hp
      exact ⟨(hkeep q hpark).1, fun j t' ht' => by cases ht'; exact hread site t hev⟩
  cases ev with
  | check f =>
    unfold Meter.step
    dsimp only
    split_ifs <;> exact hkeep
  | clock site t =>
    cases site with
    | initializeAndGetStartTime => exact hstart _ t rfl
    | updateClientAndContinueTime => exact hstart _ t rfl
    | updateClients => exact hkeep
    | updateClientData =>
      intro p hp
      simp only [Meter.step, Meter.stop] at hp
      split at hp
      · rename_i x y stays j t₀ hpark
        cases hp
        obtain ⟨hstays, hsince⟩ := hkeep _ hpark
        refine ⟨fun s hs => ?_, nofun⟩
        rcases List.mem_append.mp hs with hs | hs
        · exact hstays s hs
        · obtain rfl := List.mem_singleton.mp hs
          exact ⟨hsince j t₀ rfl, hread _ t rfl⟩
      · exact hkeep p hp
  | send reply ok =>
    cases reply with
    | payment price seconds => exact fun p hp => nomatch hp
    | location bytes => exact hkeep
    | errMsg => exact hkeep
  | lock => exact hkeep
  | unlock => exact hkeep
  | recv bytes => exact hkeep
  | hangup => exact hkeep
  | exec stmt ok => exact hkeep
  | close => exact hkeep

/-- A parking that began in the record took all its readings there. -/
theorem within_foldl {M : Meter} (hM : M.parking = none) (record : List (ℕ × Event D)) :
    Within record (record.foldl Meter.step M) := by
  induction record using List.reverseRecOn with
  | nil =>
    intro p hp
    rw [List.foldl_nil, hM] at hp
    cases hp
  | append_singleton record e ih =>
    rw [List.foldl_append]
    exact within_step ih e

/-- **No second is billed twice.**  If the clock readings do not decrease, the
stays of a parking end before those of any later one begin. -/
theorem stop_le_start {pre mid post : List (ℕ × Event D)} {e : ℕ × Event D}
    (h : ClocksInOrder (pre ++ e :: mid ++ post)) (he : e.2.isPayment = true) {p q : Parking}
    (hp : (meter pre).parking = some p) (hq : (meter (pre ++ e :: mid)).parking = some q)
    {s s' : Stay} (hs : s ∈ p.stays) (hs' : s' ∈ q.stays) : s.stop ≤ s'.start := by
  have hnone : ((meter pre).step e).parking = none := by
    obtain ⟨i, ev⟩ := e
    match ev, he with
    | .send (.payment ..) _, _ => rfl
  have hstop : s.stop ∈ clocks pre := ((within_foldl rfl pre p hp).1 s hs).2
  have hstart : s'.start ∈ clocks mid := by
    rw [meter_append, List.foldl_cons] at hq
    exact ((within_foldl hnone mid q hq).1 s' hs').1
  have hpair := h.1
  rw [List.append_assoc, clocks_append, List.pairwise_append] at hpair
  refine hpair.2.2 _ hstop _ ?_
  rw [List.cons_append, ← List.singleton_append, clocks_append, clocks_append]
  exact List.mem_append_right _ (List.mem_append_left _ hstart)

theorem ClocksInOrder.of_append {ι : Type*} {a b : List (ι × Event D)}
    (h : ClocksInOrder (a ++ b)) : ClocksInOrder a := by
  unfold ClocksInOrder at h ⊢
  rw [clocks_append, List.pairwise_append] at h
  exact ⟨h.1.1, fun t ht => h.2 t (List.mem_append_left _ ht)⟩

/-- **What is owed fits an `int`**, if the clock readings do not decrease and
fit one. -/
theorem seconds_of_clocks (h : ClocksInOrder record) {p : Parking}
    (hp : (meter record).parking = some p) : 0 ≤ p.seconds ∧ p.seconds < 2147483648 := by
  have howed : ∀ record : List (ℕ × Event D), ClocksInOrder record →
      ∀ p, (meter record).parking = some p → Owed record p := by
    intro record
    induction record using List.reverseRecOn with
    | nil => exact fun _ _ h => nomatch h
    | append_singleton record e ih =>
      intro h p hp
      rw [meter_append] at hp
      exact owed_step h (ih h.of_append) hp
  have hO := howed record h p hp
  refine ⟨hO.nonneg, ?_⟩
  rcases hO.le with hzero | ⟨t, ht, hle⟩
  · omega
  · exact lt_of_le_of_lt hle (h.2 t ht).2

end Clocks

end Pango.Server
