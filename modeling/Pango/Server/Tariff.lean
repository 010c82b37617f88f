import Pango.Server.Device

/-!
# From the price table to the bill

`sql_price_db_create` is run by every build: it creates the table `city_parking`
if there is none, and inserts four rows, again and again.  The server looks a
price up when a parking is started or resumed, tells the device the city, and
bills with what it has found.

* `tariff_of_builds` — whatever failed in how many builds, every row of a city has
  the price of the city.
* `announced` — the city the device was told last.  The result of the `send` that tells it
  is not looked at, so a name that did not get through counts as told.
* `Quoted` — the price in a slot is that of its location, which is the one the
  device was told last.
* `billed_at_tariff` — **the bill follows what the device was told**: in every run,
  every bill is made out at the price of the city named last before it.
-/

namespace Pango.Server

variable {D : Type*}

/-! ## The price table -/

/-- What `sqlite3_exec` makes of `CREATE TABLE IF NOT EXISTS city_parking`; a database without
the table is `none`. -/
def createCityParking (fails : Bool) (db : Option (List (PriceRow D))) :
    Option (List (PriceRow D)) :=
  if fails then db else some (db.getD [])

/-- What it makes of an `INSERT INTO city_parking`; without the table that is an error. -/
def insertCityParking (fails : Bool) (row : PriceRow D) (db : Option (List (PriceRow D))) :
    Option (List (PriceRow D)) :=
  if fails then db else db.map (KeyedTable.insert row)

/-- The four rows.  `real n` is the `REAL` that SQLite reads from `n` thousandths as `%f` prints
them. -/
def tariff (real : ℕ → D) : List (PriceRow D) :=
  [⟨ashkelon, real 6⟩, ⟨jerusalem, real 12⟩, ⟨petahTikva, real 8⟩, ⟨herzliya, real 10⟩]

/-- `main` of `sql_price_db_create.c`: no failure keeps it from going on. -/
def sqlPriceDbCreate (real : ℕ → D) (fails : ℕ → Bool) (db : Option (List (PriceRow D))) :
    Option (List (PriceRow D)) :=
  let db := createCityParking (fails 0) db
  let db := insertCityParking (fails 1) ⟨ashkelon, real 6⟩ db
  let db := insertCityParking (fails 2) ⟨jerusalem, real 12⟩ db
  let db := insertCityParking (fails 3) ⟨petahTikva, real 8⟩ db
  insertCityParking (fails 4) ⟨herzliya, real 10⟩ db

/-- The price database after builds, each with its failing calls. -/
def priceDb (real : ℕ → D) (builds : List (ℕ → Bool)) : Option (List (PriceRow D)) :=
  builds.foldl (fun db fails => sqlPriceDbCreate real fails db) none

section Tariff

variable {real : ℕ → D} {db : Option (List (PriceRow D))}

/-- All rows are rows of the tariff. -/
def Tariffed (real : ℕ → D) (db : Option (List (PriceRow D))) : Prop :=
  ∀ r ∈ db.getD [], r ∈ tariff real

theorem tariffed_create (h : Tariffed real db) (fails : Bool) :
    Tariffed real (createCityParking fails db) := by
  cases fails with
  | true => exact h
  | false => exact h

theorem tariffed_insert (h : Tariffed real db) (fails : Bool) {row : PriceRow D}
    (hrow : row ∈ tariff real) : Tariffed real (insertCityParking fails row db) := by
  cases fails with
  | true => exact h
  | false =>
    cases db with
    | none => exact h
    | some rows =>
      intro r hr
      rcases List.mem_append.mp hr with hr | hr
      · exact h r hr
      · rw [List.mem_singleton.mp hr]
        exact hrow

theorem tariffed_sqlPriceDbCreate (h : Tariffed real db) (fails : ℕ → Bool) :
    Tariffed real (sqlPriceDbCreate real fails db) := by
  have hcreated := tariffed_create h (fails 0)
  have hashkelon : ⟨ashkelon, real 6⟩ ∈ tariff real := by simp [tariff]
  have hjerusalem : ⟨jerusalem, real 12⟩ ∈ tariff real := by simp [tariff]
  have hpetahTikva : ⟨petahTikva, real 8⟩ ∈ tariff real := by simp [tariff]
  have h₁ := tariffed_insert hcreated (fails 1) hashkelon
  have h₂ := tariffed_insert h₁ (fails 2) hjerusalem
  have h₃ := tariffed_insert h₂ (fails 3) hpetahTikva
  exact tariffed_insert h₃ (fails 4) (by simp [tariff])

/-- **Any number of builds**, whatever fails in them. -/
theorem tariff_of_builds (real : ℕ → D) (builds : List (ℕ → Bool)) :
    Tariffed real (priceDb real builds) := by
  have hall : ∀ db, Tariffed real db →
      Tariffed real (builds.foldl (fun db fails => sqlPriceDbCreate real fails db) db) := by
    induction builds with
    | nil => exact fun _ h => h
    | cons fails builds ih => exact fun db h => ih _ (tariffed_sqlPriceDbCreate h fails)
  exact hall none fun r hr => (nomatch hr)

/-- A city has one price in the tariff. -/
theorem price_of_mem_tariff {r r' : PriceRow D} (hr : r ∈ tariff real) (hr' : r' ∈ tariff real)
    (hcity : r.city = r'.city) : r.price = r'.price := by
  have hne : ashkelon ≠ jerusalem ∧ ashkelon ≠ petahTikva ∧ ashkelon ≠ herzliya ∧
      jerusalem ≠ petahTikva ∧ jerusalem ≠ herzliya ∧ petahTikva ≠ herzliya := by decide
  obtain ⟨h₁, h₂, h₃, h₄, h₅, h₆⟩ := hne
  simp only [tariff, List.mem_cons, List.not_mem_nil, or_false] at hr hr'
  rcases hr with rfl | rfl | rfl | rfl <;> rcases hr' with rfl | rfl | rfl | rfl <;>
    simp_all

/-- The tariff has no place without a name. -/
theorem city_ne_nil_of_mem_tariff {r : PriceRow D} (hr : r ∈ tariff real) : r.city ≠ [] := by
  simp only [tariff, List.mem_cons, List.not_mem_nil, or_false] at hr
  rcases hr with rfl | rfl | rfl | rfl
  · exact (by decide : ashkelon ≠ [])
  · exact (by decide : jerusalem ≠ [])
  · exact (by decide : petahTikva ≠ [])
  · exact (by decide : herzliya ≠ [])

end Tariff

/-! ## The price in a slot -/

/-- The price is that of every row there is for the location. -/
def Priced (cfg : Config D) (location : Buf UInt8 12) (price : D) : Prop :=
  ∀ r ∈ cfg.cityParking, r.city = cstr location.toList → price = r.price

/-- A table in which each city has one price, however many rows, and a name. -/
structure OnePrice (cfg : Config D) : Prop where
  price : ∀ r ∈ cfg.cityParking, ∀ r' ∈ cfg.cityParking, r.city = r'.city → r.price = r'.price
  named : ∀ r ∈ cfg.cityParking, r.city ≠ []

theorem onePrice_of_builds {cfg : Config D} {real : ℕ → D} {builds : List (ℕ → Bool)}
    (h : cfg.cityParking = (priceDb real builds).getD []) : OnePrice cfg where
  price r hr r' hr' hcity := by
    rw [h] at hr hr'
    have htariff := tariff_of_builds real builds
    exact price_of_mem_tariff (htariff r hr) (htariff r' hr') hcity
  named r hr := by
    rw [h] at hr
    exact city_ne_nil_of_mem_tariff (tariff_of_builds real builds r hr)

/-- The location an action sends to the device, or tries to send. -/
def Event.location? : Event D → Option (Buf UInt8 12)
  | .send (.location loc) _ => some loc
  | _ => none

/-- The location that was sent to the device last, or that the server tried to send: a `send`
that fails counts, since the thread goes on as after one that works. -/
def announced (events : List (Event D)) : Option (Buf UInt8 12) :=
  (events.filterMap Event.location?).getLast?

theorem announced_append (a b : List (Event D)) :
    announced (a ++ b) = (announced b).or (announced a) := by
  rw [announced, List.filterMap_append, List.getLast?_append]
  rfl

/-- The price is that of the location, and the location is the one the device was told; before
it was told one, nothing is charged. -/
def Quoted [CDouble D] (cfg : Config D) (client : PangoData D) (events : List (Event D)) : Prop :=
  Priced cfg client.location client.price ∧
    match announced events with
    | none => client.price = CDouble.ofInt 0
    | some loc => loc = client.location

/-- What is known of the price, program point by program point.  It may differ between the
change of a slot's location and the lookup, and where no bill follows. -/
def AtPrice [CDouble D] (cfg : Config D) (client : PangoData D) (t : Thread)
    (events : List (Event D)) : Prop :=
  match t.pc with
  | .recv | .lost | .check | .exist | .retriev | .init | .setConnected | .close | .pay =>
    Quoted cfg client events
  | .sendLocation => Priced cfg client.location client.price
  | .process | .remove | .update | .sendErrMsg | .closeFd | .done => True

/-- A bill at some price for some seconds, the price that of the location named. -/
def BilledAt [CDouble D] (cfg : Config D) (loc : Option (Buf UInt8 12)) (price seconds : D) :
    Prop :=
  ∃ (perSecond : D) (n : Int), price = CDouble.mul perSecond (CDouble.ofInt n) ∧
    seconds = CDouble.ofInt n ∧
    match loc with
    | none => perSecond = CDouble.ofInt 0
    | some loc => Priced cfg loc perSecond

/-- Every bill follows what was named last before it. -/
def BilledRight [CDouble D] (cfg : Config D) (events : List (Event D)) : Prop :=
  ∀ k price seconds ok, events[k]? = some (.send (.payment price seconds) ok) →
    BilledAt cfg (announced (events.take k)) price seconds

/-- The lookups of a price, once prepared, return their row. -/
def PriceRead (s : State D) : Label → Prop
  | .client i env => ∀ t ∈ s.thread i,
      (t.pc = .process → env.fails 1 = false) ∧ (t.pc = .retriev → env.fails 5 = false)
  | _ => True

instance (s : State D) : (l : Label) → Decidable (PriceRead s l)
  | .client i _ => inferInstanceAs (Decidable (∀ t ∈ s.thread i, _))
  | .accept .. | .backup .. => isTrue trivial

section Step

variable [CDouble D] {cfg : Config D} {env : Env} {client : PangoData D} {t : Thread}
  {rows : List Row} {r : Turn D} {events : List (Event D)}

omit [CDouble D] in
/-- A lookup finds the price of the location. -/
theorem priced_priceOf (hone : OnePrice cfg) (location : Buf UInt8 12) (old : D) :
    Priced cfg location (cfg.priceOf (cstr location.toList) old) := by
  intro r hr hcity
  have hmem : r ∈ selectCity (cstr location.toList) cfg.cityParking := by
    simp [selectCity, KeyedTable.select, hr, hcity]
  unfold Config.priceOf
  cases hsel : selectCity (cstr location.toList) cfg.cityParking with
  | nil => rw [hsel] at hmem; cases hmem
  | cons r₀ rs =>
    have hr₀ : r₀ ∈ selectCity (cstr location.toList) cfg.cityParking := by simp [hsel]
    simp only [selectCity, KeyedTable.select, List.mem_filter, decide_eq_true_eq] at hr₀
    exact hone.price r₀ hr₀.1 r hr (hr₀.2.trans hcity.symm)

omit [CDouble D] in
/-- So does the lookup of a thread, if it is prepared. -/
theorem priced_retrieveParkingPrice (hone : OnePrice cfg) {pf sf : Bool} (client : PangoData D)
    (hread : sf = false) (hstay : (retrieveParkingPricePerCityFromDatabase pf sf cfg.cityParking
      client).1 ≠ .quit) :
    let found := (retrieveParkingPricePerCityFromDatabase pf sf cfg.cityParking client).2
    found.location = client.location ∧ Priced cfg found.location found.price := by
  cases pf with
  | true => exact absurd rfl hstay
  | false =>
    rw [hread, retrieveParkingPrice_of_ok]
    exact ⟨rfl, priced_priceOf hone client.location client.price⟩

theorem Quoted.append {client' : PangoData D} {new : List (Event D)}
    (h : Quoted cfg client events) (hloc : client'.location = client.location)
    (hprice : client'.price = client.price) (hnew : announced new = none) :
    Quoted cfg client' (events ++ new) := by
  unfold Quoted at h ⊢
  rw [hloc, hprice, announced_append, hnew, Option.none_or]
  exact h

/-- The device is told the location of its slot. -/
theorem Quoted.of_announced {new : List (Event D)} (h : Priced cfg client.location client.price)
    (hnew : announced new = some client.location) : Quoted cfg client (events ++ new) := by
  unfold Quoted
  rw [announced_append, hnew, Option.some_or]
  exact ⟨h, rfl⟩

/-- No bill follows an error. -/
theorem atPrice_of_error (hpc : t.pc = .sendErrMsg) : AtPrice cfg client t events := by
  unfold AtPrice
  rw [hpc]
  exact trivial

/-- After the loop a settled slot stays one. -/
theorem atPrice_exitSwitch (h : Quoted cfg client events) {status : UInt8}
    (ht : t.pc = exitSwitch status) : AtPrice cfg client t events := by
  have hmem := exitSwitch_mem status
  unfold AtPrice
  simp only [List.mem_cons, List.not_mem_nil, or_false] at hmem
  rw [ht]
  rcases hmem with hpc | hpc | hpc | hpc <;> rw [hpc]
  · exact h
  all_goals exact trivial

/-- **A resumption** looks the price up again, for the location of the row. -/
theorem atPrice_retriev (hone : OnePrice cfg) (hpc : t.pc = .retriev)
    (hread : env.fails 5 = false) (h : pangoClientStep cfg env client t rows = some r) :
    AtPrice cfg r.client r.thread (events ++ r.events) := by
  have hsection : ∀ st, (retrievClientData cfg env client st rows).returnValue ≠ .quit →
      Priced cfg (retrievClientData cfg env client st rows).client.location
          (retrievClientData cfg env client st rows).client.price ∧
        announced (retrievClientData cfg env client st rows).events
          = some (retrievClientData cfg env client st rows).client.location := by
    intro st hstay
    unfold retrievClientData at hstay ⊢
    dsimp only at hstay ⊢
    split_ifs at hstay ⊢ with h₁ h₂ h₃
    · exact absurd rfl hstay
    · exact absurd rfl hstay
    · exact absurd rfl hstay
    · exact ⟨(priced_retrieveParkingPrice hone _ hread h₃).2, rfl⟩
  simp only [pangoClientStep, hpc] at h
  split at h
  · rename_i hstay
    cases h
    obtain ⟨hpriced, hann⟩ := hsection t.status hstay
    exact Quoted.of_announced hpriced hann
  · rename_i hquit
    cases h
    have hst := retrievClientData_status cfg env client t.status rows
    rw [if_pos (not_not.mp hquit)] at hst
    refine atPrice_of_error ?_
    rw [hst]
    rfl

/-- **A registration** looks the price up for the location of the coordinates. -/
theorem atPrice_process (hone : OnePrice cfg) (hpc : t.pc = .process)
    (hread : env.fails 1 = false) (h : pangoClientStep cfg env client t rows = some r) :
    AtPrice cfg r.client r.thread (events ++ r.events) := by
  have hsection : ∀ st, (processClientData cfg env client st rows).returnValue ≠ .quit →
      Priced cfg (processClientData cfg env client st rows).client.location
        (processClientData cfg env client st rows).client.price := by
    intro st hstay
    unfold processClientData at hstay ⊢
    dsimp only at hstay ⊢
    split_ifs at hstay ⊢ with h₁ h₂
    · exact absurd rfl hstay
    · exact absurd rfl hstay
    · exact (priced_retrieveParkingPrice hone client hread h₁).2
  simp only [pangoClientStep, hpc] at h
  cases h
  by_cases hstay : (processClientData cfg env client t.status rows).returnValue = .quit
  · have hst := processClientData_status cfg env client t.status rows
    rw [if_pos hstay] at hst
    rw [if_neg (not_not.mpr hstay)]
    refine atPrice_of_error ?_
    rw [hst]
    rfl
  · rw [if_pos hstay]
    exact hsection t.status hstay

theorem atPrice_pangoClientStep (hone : OnePrice cfg)
    (hread : (t.pc = .process → env.fails 1 = false) ∧ (t.pc = .retriev → env.fails 5 = false))
    (hJ : AtPrice cfg client t events) (h : pangoClientStep cfg env client t rows = some r) :
    AtPrice cfg r.client r.thread (events ++ r.events) := by
  cases hpc : t.pc with
  | retriev => exact atPrice_retriev hone hpc (hread.2 hpc) h
  | process => exact atPrice_process hone hpc (hread.1 hpc) h
  | recv =>
    simp only [AtPrice, hpc] at hJ
    simp only [pangoClientStep, hpc] at h
    split at h <;> cases h <;> exact hJ.append rfl rfl rfl
  | check =>
    simp only [AtPrice, hpc] at hJ
    rcases check_cases hpc h with ⟨-, rfl⟩ | ⟨-, -, rfl⟩ | ⟨-, -, m, -, rfl⟩
    · exact atPrice_of_error rfl
    · exact hJ.append rfl rfl rfl
    · have hset : Quoted cfg { client with
          macAddress := m, xAxis := t.clientDataBuff.x, yAxis := t.clientDataBuff.y }
          (events ++ [.check t.clientDataBuff]) := hJ.append rfl rfl rfl
      have hmem := switchStatus_mem t.clientDataBuff.status
      unfold AtPrice
      simp only [List.mem_cons, List.not_mem_nil, or_false] at hmem ⊢
      rcases hmem with hpc | hpc | hpc <;> rw [hpc] <;> exact hset
  | exist =>
    simp only [AtPrice, hpc] at hJ
    simp only [pangoClientStep, hpc] at h
    cases h
    unfold AtPrice
    cases t.checkedDatabase <;> simp only [afterLookup_true, afterLookup_false]
      <;> split_ifs <;> exact hJ.append rfl rfl rfl
  | sendLocation =>
    simp only [AtPrice, hpc] at hJ
    simp only [pangoClientStep, hpc] at h
    cases h
    exact Quoted.of_announced hJ rfl
  | setConnected =>
    simp only [AtPrice, hpc] at hJ
    simp only [pangoClientStep, hpc] at h
    cases h
    exact hJ.append rfl rfl rfl
  | lost | close =>
    simp only [AtPrice, hpc] at hJ
    simp only [pangoClientStep, hpc] at h
    cases h
    exact atPrice_exitSwitch (hJ.append rfl rfl rfl) rfl
  | init | pay | remove | update | sendErrMsg | closeFd =>
    simp only [pangoClientStep, hpc] at h
    cases h
    exact trivial
  | done => simp [pangoClientStep, hpc] at h

theorem BilledRight.append {new : List (Event D)} (h : BilledRight cfg events)
    (hnew : ∀ e ∈ new, e.isPayment = false) : BilledRight cfg (events ++ new) := by
  intro k price seconds ok hk
  by_cases hlt : k < events.length
  · rw [List.getElem?_append_left hlt] at hk
    rw [List.take_append_of_le_length hlt.le]
    exact h k price seconds ok hk
  · rw [List.getElem?_append_right (not_lt.mp hlt)] at hk
    have hpay := hnew _ (List.mem_of_getElem? hk)
    cases hpay

theorem BilledRight.pay (h : BilledRight cfg events) (hset : Quoted cfg client events)
    (startTime endTime : Int) (ok : Bool) : BilledRight cfg (events ++
      [.send (calculateAndSendPaymentData startTime endTime client.price) ok]) := by
  intro k price seconds ok' hk
  by_cases hlt : k < events.length
  · rw [List.getElem?_append_left hlt] at hk
    rw [List.take_append_of_le_length hlt.le]
    exact h k price seconds ok' hk
  · rw [List.getElem?_append_right (not_lt.mp hlt)] at hk
    obtain ⟨hzero, heq⟩ := List.getElem?_eq_some_iff.mp hk
    have hk₀ : k = events.length := by
      rw [List.length_singleton] at hzero
      omega
    subst hk₀
    simp only [Nat.sub_self, List.getElem_cons_zero] at heq
    cases heq
    rw [List.take_left]
    refine ⟨client.price, _, rfl, rfl, ?_⟩
    obtain ⟨hpriced, hann⟩ := hset
    cases hloc : announced events with
    | none =>
      rw [hloc] at hann
      exact hann
    | some loc =>
      rw [hloc] at hann
      rw [hann]
      exact hpriced

/-- **One step** writes no wrong bill. -/
theorem billedRight_pangoClientStep (hJ : AtPrice cfg client t events)
    (hb : BilledRight cfg events) (h : pangoClientStep cfg env client t rows = some r) :
    BilledRight cfg (events ++ r.events) := by
  by_cases hpc : t.pc = .pay
  · simp only [AtPrice, hpc] at hJ
    simp only [pangoClientStep, hpc] at h
    cases h
    exact hb.pay hJ _ _ _
  · exact hb.append (isPayment_pangoClientStep h hpc)

end Step

/-! ## Runs -/

/-- **The bill follows what the device was told.**  Let the price table be what any number of
builds has left, whatever failed in them, and let no lookup of a price fail once it is
prepared.  Then in every run every bill is made out at the price of the city that was named to
the device last before it, if the table has a row for this city, and the row is one of the
tariff; a device that was named none pays nothing per second.  A city counts as named when
its name was sent, or when the server tried to send it. -/
theorem billed_at_tariff [CDouble D] {cfg : Config D} {real : ℕ → D} {builds : List (ℕ → Bool)}
    (hdb : cfg.cityParking = (priceDb real builds).getD []) {rows : List Row} {ls : List Label}
    {s : State D} (h : (server cfg).Exec PriceRead (.start rows) ls s) {i : ℕ}
    {before after : List (Event D)} {price seconds : D} {ok : Bool}
    (hpay : own i s = before ++ .send (.payment price seconds) ok :: after) :
    ∃ (perSecond : D) (n : Int), price = CDouble.mul perSecond (CDouble.ofInt n) ∧
      seconds = CDouble.ofInt n ∧
      match announced before with
      | none => perSecond = CDouble.ofInt 0
      | some loc => ∀ r ∈ cfg.cityParking, r.city = cstr loc.toList →
          r ∈ tariff real ∧ perSecond = r.price := by
  have hone := onePrice_of_builds hdb
  have hzero : ∀ fd : UInt8,
      AtPrice cfg { (.zero : PangoData D) with clientFd := fd } {} [] := by
    refine fun fd => ⟨fun r hr hcity => ?_, rfl⟩
    exact absurd (hcity.trans (by decide : cstr (Buf.fill 12 (0 : UInt8)).toList = []))
      (hone.named r hr)
  have hall := local_invariant (J := fun _ c t evs => AtPrice cfg c t evs ∧ BilledRight cfg evs) h
    (fun i fd => ⟨hzero fd, fun k price seconds ok hk => by cases hk⟩)
    fun s i env t r hC ht hJ hr => ⟨atPrice_pangoClientStep hone (hC t ht) hJ.1 hr,
      billedRight_pangoClientStep hJ.1 hJ.2 hr⟩
  have hright : BilledRight cfg (own i s) := by
    cases ht : s.thread i with
    | none =>
      rw [(hall.2 i ht).2] at hpay
      exact absurd hpay.symm (by simp)
    | some t => exact (hall.1 i t ht).2
  obtain ⟨perSecond, n, hprice, hseconds, hloc⟩ :=
    hright before.length price seconds ok (by rw [hpay]; simp)
  rw [hpay, List.take_left] at hloc
  refine ⟨perSecond, n, hprice, hseconds, ?_⟩
  cases hann : announced before with
  | none =>
    rw [hann] at hloc
    exact hloc
  | some loc =>
    rw [hann] at hloc
    intro r hr hcity
    refine ⟨?_, hloc r hr hcity⟩
    rw [hdb] at hr
    exact tariff_of_builds real builds r hr

/-- Two builds, in the first of which no row gets in but that of Ashkelon. -/
def twoBuilds : List (ℕ → Bool) := [fun k => decide (1 < k), fun _ => false]

/-- A parking in Ashkelon for a minute, with one unit for a thousandth. -/
theorem billed_at_tariff_ashkelon : ∃ (s : State Int) (before after : List (Event Int)),
    own 0 s = before ++ .send (.payment 360 60) true :: after ∧
      (announced before).map (fun loc => cstr loc.toList) = some ashkelon ∧
      ∃ (perSecond n : Int), (360 : Int) = CDouble.mul perSecond (CDouble.ofInt n) ∧
        (60 : Int) = CDouble.ofInt n ∧ match announced before with
        | none => perSecond = CDouble.ofInt 0
        | some loc => ∀ r ∈ (priceDb (fun n => (n : Int)) twoBuilds).getD [],
            r.city = cstr loc.toList → r ∈ tariff (fun n => (n : Int)) ∧ perSecond = r.price := by
  have hrun : ((server (⟨10, (priceDb (fun n => (n : Int)) twoBuilds).getD []⟩ : Config Int)).runIf
      PriceRead (.start []) (sampleStart 0 100 ++ sampleClose 0 160)).map (fun s =>
        (((own 0 s).drop 13).head?, (announced ((own 0 s).take 13)).map fun loc => cstr loc.toList))
      = some (some (.send (.payment 360 60) true), some ashkelon) := by decide +kernel
  obtain ⟨s, hs, hparts⟩ := Option.map_eq_some_iff.mp hrun
  obtain ⟨hhead, hann⟩ := Prod.mk.inj hparts
  obtain ⟨after, hafter⟩ := List.head?_eq_some_iff.mp hhead
  have hown : own 0 s = (own 0 s).take 13 ++ .send (.payment 360 60) true :: after := by
    rw [← hafter, List.take_append_drop]
  have hdb : (⟨10, (priceDb (fun n => (n : Int)) twoBuilds).getD []⟩ : Config Int).cityParking
      = (priceDb (fun n => (n : Int)) twoBuilds).getD [] := rfl
  exact ⟨s, _, after, hown, hann, billed_at_tariff hdb (Lts.exec_of_runIf _ hs) hown⟩

end Pango.Server
