import Pango.Server.Billing

/-!
# Payments and clock readings

For a device whose every parking is one connection, the clock readings of its
connections come in pairs, one at the start and one at the end, and the payments
are the differences of the pairs.

The meter of `Server.Meter` says as much, in terms of its own; but it is read off the
whole record, and what arrives at the device is a payment.  Here the two lists are put next
to each other, in the order of the record, so that a receipt can be traced to the two
readings it is made of.

* `readings`, `secondsBilled` — the two lists.
* `Told` — the payments are those of the pairs, and the readings left over belong to the
  parking under way.
* `told_step` — one step of the server keeps this.
-/

namespace Pango.Server

open CInt

variable {D : Type*}

/-! ## Readings and payments of a record -/

/-- The clock readings, with the function that took each. -/
def readings (record : List (ℕ × Event D)) : List (ClockSite × Int) :=
  record.filterMap fun
    | (_, .clock site t) => some (site, t)
    | _ => none

/-- The seconds billed. -/
def secondsBilled (record : List (ℕ × Event D)) : List D :=
  record.filterMap fun
    | (_, .send (.payment _ seconds) _) => some seconds
    | _ => none

/-- The two readings of a stay that began a parking. -/
def Stay.readings (s : Stay) : List (ClockSite × Int) :=
  [(.initializeAndGetStartTime, s.start), (.updateClientData, s.stop)]

/-- The readings of the parking under way. -/
def Meter.readings (M : Meter) : List (ClockSite × Int) :=
  match M.parking with
  | none => []
  | some p => p.stays.flatMap Stay.readings ++
      (p.since.map fun s => (ClockSite.initializeAndGetStartTime, s.2)).toList

/-- The readings are those of the parkings paid for, and of the one under way. -/
def Told [CDouble D] (record : List (ℕ × Event D)) : Prop :=
  ∃ past : List Stay,
    secondsBilled record = past.map (fun s => CDouble.ofInt (toInt32 (s.stop - s.start))) ∧
      readings record = past.flatMap Stay.readings ++ (meter record).readings

/-- Neither a clock reading nor a payment. -/
def Event.quiet : Event D → Bool
  | .clock .. => false
  | .send (.payment ..) _ => false
  | _ => true

section Record

variable {record es : List (ℕ × Event D)}

theorem readings_append (a b : List (ℕ × Event D)) : readings (a ++ b) = readings a ++ readings b :=
  List.filterMap_append

theorem secondsBilled_append (a b : List (ℕ × Event D)) :
    secondsBilled (a ++ b) = secondsBilled a ++ secondsBilled b := List.filterMap_append

theorem readings_map_snd (record : List (ℕ × Event D)) :
    (readings record).map Prod.snd = clocks record := by
  unfold readings clocks
  rw [List.map_filterMap]
  refine List.filterMap_congr fun e _ => ?_
  obtain ⟨i, ev⟩ := e
  cases ev <;> rfl

theorem readings_of_quiet (h : ∀ e ∈ es, e.2.quiet = true) : readings es = [] := by
  refine List.filterMap_eq_nil_iff.mpr fun e he => ?_
  obtain ⟨i, ev⟩ := e
  have := h _ he
  cases ev <;> simp [Event.quiet] at this ⊢

theorem secondsBilled_of_quiet (h : ∀ e ∈ es, e.2.quiet = true) : secondsBilled es = [] := by
  refine List.filterMap_eq_nil_iff.mpr fun e he => ?_
  obtain ⟨i, ev⟩ := e
  have := h _ he
  cases ev with
  | send reply ok => cases reply <;> simp [Event.quiet] at this ⊢
  | _ => rfl

theorem parking_of_quiet (h : ∀ e ∈ es, e.2.quiet = true) (M : Meter) :
    (es.foldl Meter.step M).parking = M.parking := by
  induction es generalizing M with
  | nil => rfl
  | cons e es ih =>
    rw [List.foldl_cons, ih fun b hb => h b (List.mem_cons_of_mem e hb)]
    obtain ⟨i, ev⟩ := e
    have hq := h _ List.mem_cons_self
    cases ev with
    | check f =>
      unfold Meter.step
      dsimp only
      split_ifs <;> rfl
    | clock site t => cases hq
    | send reply ok =>
      cases reply with
      | payment price seconds => cases hq
      | location bytes => rfl
      | errMsg => rfl
    | _ => rfl

theorem Meter.readings_congr {M M' : Meter} (h : M.parking = M'.parking) :
    M.readings = M'.readings := by
  unfold Meter.readings
  rw [h]

theorem told_append [CDouble D] (h : Told record) (hes : ∀ e ∈ es, e.2.quiet = true) :
    Told (record ++ es) := by
  obtain ⟨past, hpaid, hread⟩ := h
  refine ⟨past, ?_, ?_⟩
  · rw [secondsBilled_append, secondsBilled_of_quiet hes, List.append_nil, hpaid]
  · rw [readings_append, readings_of_quiet hes, List.append_nil, hread, meter_append,
      Meter.readings_congr (parking_of_quiet hes _)]

end Record

/-! ## One step -/

section Step

variable [CDouble D] {cfg : Config D} {macOf : ℕ → Buf UInt8 6} {m : Buf UInt8 6} {s s' : State D}
  {l : Label}

theorem quiet_pangoClientStep {env : Env} {client : PangoData D} {t : Thread} {rows : List Row}
    {r : Turn D} (h : pangoClientStep cfg env client t rows = some r)
    (hpc : t.pc ≠ .init ∧ t.pc ≠ .retriev ∧ t.pc ≠ .close ∧ t.pc ≠ .update ∧ t.pc ≠ .pay) :
    ∀ e ∈ r.events, e.quiet = true := by
  obtain ⟨hinit, hretriev, hclose, hupdate, hpay⟩ := hpc
  cases hpc : t.pc with
  | init => exact absurd hpc hinit
  | retriev => exact absurd hpc hretriev
  | close => exact absurd hpc hclose
  | update => exact absurd hpc hupdate
  | pay => exact absurd hpc hpay
  | recv | check =>
    simp only [pangoClientStep, hpc] at h
    split at h <;> cases h <;> simp [Event.quiet]
  | process =>
    simp only [pangoClientStep, hpc] at h
    cases h
    unfold processClientData
    dsimp only
    split_ifs <;> simp [Event.quiet]
  | lost | exist | sendLocation | setConnected | remove | sendErrMsg | closeFd =>
    simp only [pangoClientStep, hpc, removeClientData] at h
    cases h
    simp [Event.quiet]
  | done => simp [pangoClientStep, hpc] at h

/-- **One step** of the server keeps readings and payments in step. -/
theorem told_step (hC : Served macOf m True s l) (hB : Books cfg macOf m True True s)
    (hJ : Told (eventsOf (macOf · = m) s.trace)) (hs : (server cfg).step s l = some s') :
    Told (eventsOf (macOf · = m) s'.trace) := by
  rcases step_cases hs with
      ⟨i, fd, rfl, hi, rfl⟩ | ⟨i, env, t, r, rfl, ht, hr, rfl⟩ | ⟨c, f, rfl, rfl⟩
  · exact hJ
  · by_cases hm : macOf i = m
    · rw [eventsOf_turn (macOf · = m) s hm]
      have hatWork : t.pc.over = false → t.pc ≠ .recv → t.pc ≠ .check →
          Accounts cfg m True i (Settled macOf m s) (s.meterOf macOf m)
            (selectMac (macKey m) s.yourTable) (s.client i) t := fun ho hr hc =>
        (hB.ledger (.inl trivial)).atWork i hm t ht (atWork_of_pc ho hr hc)
      obtain ⟨past, hpaid, hread⟩ := hJ
      -- the record is the meter's
      have hM : meter (eventsOf (macOf · = m) s.trace) = s.meterOf macOf m := rfl
      cases hpc : t.pc with
      | init =>
        have hA := hatWork (by rw [hpc]; rfl) (by rw [hpc]; decide) (by rw [hpc]; decide)
        simp only [Accounts, hpc] at hA
        simp only [pangoClientStep, hpc] at hr
        cases hr
        refine ⟨past, ?_, ?_⟩
        · rw [secondsBilled_append, hpaid]
          exact List.append_nil _
        · rw [readings_append, hread, meter_append, hM]
          simp [readings, Meter.readings, Meter.step, Meter.start, hA.2.2.1]
      | retriev =>
        have hA := hatWork (by rw [hpc]; rfl) (by rw [hpc]; decide) (by rw [hpc]; decide)
        simp only [Accounts, hpc] at hA
        exact absurd trivial hA.1
      | close | update =>
        have hA := hatWork (by rw [hpc]; rfl) (by rw [hpc]; decide) (by rw [hpc]; decide)
        simp only [Accounts, hpc] at hA
        obtain ⟨⟨x, y, stays, since⟩, t₀, hR⟩ := hA
        have hpark := hR.parking
        have hsince := hR.since
        have hstays := hR.once trivial
        simp only at hsince hstays
        subst hsince hstays
        simp only [pangoClientStep, hpc, updateClientData] at hr
        cases hr
        refine ⟨past, ?_, ?_⟩
        · rw [secondsBilled_append, hpaid]
          exact List.append_nil _
        · rw [readings_append, hread, meter_append, hM]
          simp [readings, Meter.readings, Meter.step, Meter.stop, hpark, Stay.readings]
      | pay =>
        have hA := hatWork (by rw [hpc]; rfl) (by rw [hpc]; decide) (by rw [hpc]; decide)
        simp only [Accounts, hpc] at hA
        obtain ⟨⟨x, y, stays, since⟩, hBill⟩ := hA
        obtain ⟨a, b, hstays⟩ := hBill.once trivial
        have hpark := hBill.parking
        have hsince := hBill.since
        simp only at hsince hstays
        subst hsince hstays
        rw [bill_pay hpc hBill hr]
        refine ⟨past ++ [⟨i, a, b⟩], ?_, ?_⟩
        · rw [secondsBilled_append, hpaid]
          simp [secondsBilled, Parking.seconds]
        · rw [readings_append, hread, meter_append, hM]
          simp [readings, Meter.readings, Meter.step, hpark]
      | recv | lost | check | exist | process | sendLocation | setConnected | remove | sendErrMsg
      | closeFd | done =>
        refine told_append ⟨past, hpaid, hread⟩ ?_
        simpa using quiet_pangoClientStep hr (by simp [hpc])
    · rw [eventsOf_turn_of_not (macOf · = m) s hm]
      exact hJ
  · rw [eventsOf_backedUp]
    exact hJ

end Step

end Pango.Server
