import Pango.Server.Data

/-!
# `new_client.c`

What happens to a client the table has no row for: the clock is read and the
city found from the coordinates, the price of the city is looked up, and a row
with no time used is inserted.

These are the calls of `process_client_data` in their order, each of which may fail, with
the functions it is made of.  `location_func` knows four cities, one for each part of the
map, and the text `ERROR` for everything outside of it; it does not say that it failed, and
its caller goes on with that text as with any other.

* `cityName_mem` — a place is one of four cities, or `ERROR`.
* `cstr_locationFunc` — what the slot's array of twelve bytes holds afterwards is that text,
  whatever it held before.
* `processClientData_eq_quit_iff` — which of the calls end the loop when they fail.
* `processClientData_of_ok` — the whole, if none of them does.
-/

namespace Pango.Server

variable {D : Type*}

/-! ## Cities -/

def errorText : List UInt8 := ascii ['E', 'R', 'R', 'O', 'R']
def ashkelon : List UInt8 := ascii ['A', 's', 'h', 'k', 'e', 'l', 'o', 'n']
def jerusalem : List UInt8 := ascii ['J', 'e', 'r', 'u', 's', 'a', 'l', 'e', 'm']
def petahTikva : List UInt8 := ascii ['P', 'e', 't', 'a', 'h', '-', 'T', 'i', 'k', 'v', 'a']
def herzliya : List UInt8 := ascii ['H', 'e', 'r', 'z', 'l', 'i', 'y', 'a']

/-- The text `location_func` prints. -/
def cityName (x y : UInt8) : List UInt8 :=
  if x < 0 ∨ x > 127 ∨ y < 0 ∨ y > 127 then errorText
  else if x ≤ 70 ∧ y ≤ 70 then ashkelon
  else if x ≤ 70 ∧ y > 70 then jerusalem
  else if x > 70 ∧ y ≤ 70 then petahTikva
  else herzliya

/-- `location_func`. -/
def locationFunc (x y : UInt8) (buff : Buf UInt8 12) : Buf UInt8 12 :=
  buff.write 0 (cityName x y ++ [0])

theorem cityName_mem (x y : UInt8) :
    cityName x y ∈ [errorText, ashkelon, jerusalem, petahTikva, herzliya] := by
  unfold cityName
  split_ifs <;> simp

theorem ne_zero_of_mem_cityName {x y c : UInt8} (h : c ∈ cityName x y) : c ≠ 0 := by
  have hall : ∀ t ∈ [errorText, ashkelon, jerusalem, petahTikva, herzliya], 0 ∉ t := by decide
  rintro rfl
  exact hall _ (cityName_mem x y) h

theorem length_cityName_lt (x y : UInt8) : (cityName x y).length + 1 ≤ 12 := by
  have hall : ∀ t ∈ [errorText, ashkelon, jerusalem, petahTikva, herzliya], t.length + 1 ≤ 12 := by
    decide
  exact hall _ (cityName_mem x y)

/-- The slot reads the city back, whatever it held. -/
theorem cstr_locationFunc (x y : UInt8) (buff : Buf UInt8 12) :
    cstr (locationFunc x y buff).toList = cityName x y :=
  cstr_write buff (fun _ => ne_zero_of_mem_cityName) (length_cityName_lt x y)

/-! ## The steps of `process_client_data` -/

/-- `initialize_and_get_start_time`. -/
def initializeAndGetStartTime (env : Env) (client : PangoData D) : PangoData D :=
  { client with
    timeStartParking := CInt.toInt32 env.now
    location := locationFunc client.xAxis client.yAxis client.location }

/-- The rows `SELECT * FROM city_parking WHERE CITY = 'city'` selects. -/
def selectCity (city : List UInt8) (cityParking : List (PriceRow D)) : List (PriceRow D) :=
  KeyedTable.select PriceRow.city city cityParking

/-- `retrieve_parking_price_per_city_from_database`: the price of the first row
for the slot's location; without a row the price stays as it is. -/
def retrieveParkingPricePerCityFromDatabase (prepareFails stepFails : Bool)
    (cityParking : List (PriceRow D)) (client : PangoData D) : LoopStatus × PangoData D :=
  if prepareFails then (.quit, client)
  else match sqlite3Step stepFails (selectCity (cstr client.location.toList) cityParking) with
    | .row r => (.stay, { client with price := r.price })
    | _ => (.stay, client)

/-- The row `insert_client_data_into_database` inserts. -/
def newRow (client : PangoData D) : Row := ⟨client.mac, 0, cstr client.location.toList⟩

/-- `insert_client_data_into_database`. -/
def insertClientDataIntoDatabase (execFails : Bool) (client : PangoData D) (yourTable : List Row) :
    LoopStatus × List Row :=
  (if execFails then .quit else .stay, sqlite3Exec execFails (.insert (newRow client)) yourTable)

/-- What a critical section of the `START_APP` case leaves behind. -/
structure StartResult (D : Type*) where
  returnValue : LoopStatus
  client : PangoData D
  status : UInt8
  yourTable : List Row
  events : List (Event D)

/-- The critical section of `process_client_data`, entered after
`initialize_and_get_start_time`; the location is sent after it. -/
def processClientData (cfg : Config D) (env : Env) (client : PangoData D) (status : UInt8)
    (yourTable : List Row) : StartResult D :=
  let price := retrieveParkingPricePerCityFromDatabase (env.fails 0)
    (env.fails 1) cfg.cityParking client
  if price.1 = .quit then
    ⟨.quit, price.2, errorStatusInNewClientSubfunctions, yourTable, [.lock, .unlock]⟩
  else
    let inserted := insertClientDataIntoDatabase (env.fails 2) price.2 yourTable
    let exec := Event.exec (.insert (newRow price.2)) (!env.fails 2)
    if inserted.1 = .quit then
      ⟨.quit, price.2, errorStatusInNewClientSubfunctions, inserted.2, [.lock, exec, .unlock]⟩
    else ⟨.stay, price.2, status, inserted.2, [.lock, exec, .unlock]⟩

/-! ### What the section does to the slot and to the table -/

variable {cfg : Config D} {env : Env} {client : PangoData D} {status : UInt8} {rows : List Row}

/-- The price looked up for a city, or `old` if there is none. -/
def Config.priceOf (cfg : Config D) (city : List UInt8) (old : D) : D :=
  match selectCity city cfg.cityParking with
  | [] => old
  | r :: _ => r.price

theorem retrieveParkingPrice_of_ok (cfg : Config D) (client : PangoData D) :
    retrieveParkingPricePerCityFromDatabase false false cfg.cityParking client
      = (.stay, { client with
          price := cfg.priceOf (cstr client.location.toList) client.price }) := by
  unfold retrieveParkingPricePerCityFromDatabase sqlite3Step Config.priceOf
  cases selectCity (cstr client.location.toList) cfg.cityParking <;> rfl

/-- Looking the price up changes the price at most. -/
theorem retrieveParkingPrice_client (pf sf : Bool) (prices : List (PriceRow D))
    (client : PangoData D) :
    ∃ p, (retrieveParkingPricePerCityFromDatabase pf sf prices client).2
      = { client with price := p } := by
  unfold retrieveParkingPricePerCityFromDatabase
  split_ifs
  · exact ⟨client.price, rfl⟩
  · split
    · exact ⟨_, rfl⟩
    · exact ⟨client.price, rfl⟩

theorem retrieveParkingPrice_fst (pf sf : Bool) (prices : List (PriceRow D))
    (client : PangoData D) : (retrieveParkingPricePerCityFromDatabase pf sf prices client).1
      = if pf then .quit else .stay := by
  unfold retrieveParkingPricePerCityFromDatabase
  split_ifs
  · rfl
  · split <;> rfl

variable (cfg env client status rows) in
/-- The section fails exactly if a price cannot be prepared or the insertion
fails. -/
theorem processClientData_eq_quit_iff : (processClientData cfg env client status rows).returnValue
    = .quit ↔ env.fails 0 = true ∨ env.fails 2 = true := by
  unfold processClientData insertClientDataIntoDatabase
  simp only [retrieveParkingPrice_fst]
  cases env.fails 0 <;> cases env.fails 2 <;> simp

variable (cfg env client status rows) in
theorem processClientData_status : (processClientData cfg env client status rows).status
    = if (processClientData cfg env client status rows).returnValue = .quit then
        errorStatusInNewClientSubfunctions else status := by
  unfold processClientData
  dsimp only
  split_ifs <;> first | rfl | contradiction

/-- A failing section leaves the table alone. -/
theorem processClientData_yourTable_of_quit
    (h : (processClientData cfg env client status rows).returnValue = .quit) :
    (processClientData cfg env client status rows).yourTable = rows := by
  unfold processClientData insertClientDataIntoDatabase at h ⊢
  dsimp only at h ⊢
  cases hf : env.fails 2 with
  | true => split_ifs <;> rfl
  | false =>
    rw [hf] at h
    split_ifs at h ⊢ with hq
    · rfl
    · contradiction

/-- Without failures the row is inserted and the thread stays. -/
theorem processClientData_of_ok (h : env.sqlFails = []) :
    processClientData cfg env client status rows =
      { returnValue := .stay
        client := { client with price := cfg.priceOf (cstr client.location.toList) client.price }
        status
        yourTable := (Stmt.insert (newRow client)).apply rows
        events := [.lock, .exec (.insert (newRow client)) true, .unlock] } := by
  unfold processClientData
  simp only [Env.fails_of_nil h, retrieveParkingPrice_of_ok]
  rfl

/-- Whatever fails, the section changes the slot's price at most, and the table
at most by the new row; the table decides nothing. -/
theorem processClientData_eq (cfg : Config D) (env : Env) (client : PangoData D)
    (status : UInt8) : ∃ ret p st fails evs, ∀ rows,
      processClientData cfg env client status rows
        = ⟨ret, { client with price := p }, st, sqlite3Exec fails (.insert (newRow client)) rows,
            evs⟩ := by
  obtain ⟨p, hp⟩ := retrieveParkingPrice_client (env.fails 0) (env.fails 1) cfg.cityParking client
  have hrow : newRow { client with price := p } = newRow client := rfl
  unfold processClientData
  simp only [hp, hrow]
  by_cases hq : (retrieveParkingPricePerCityFromDatabase (env.fails 0) (env.fails 1)
      cfg.cityParking client).1 = .quit
  · simp only [if_pos hq]
    exact ⟨_, p, _, true, _, fun _ => rfl⟩
  · simp only [if_neg hq]
    cases hf : env.fails 2 with
    | true => exact ⟨_, p, _, true, _, fun _ => rfl⟩
    | false => exact ⟨_, p, _, false, _, fun _ => rfl⟩

end Pango.Server
