import Pango.Server.NewClient

/-!
# `existing_client.c`

What happens to a client the table has a row for: the slot's start time is set
back by the time already used, the slot is marked connected, and location and
price are looked up again.

This is how a parking goes on after its connection was lost.  The time used is the only
thing taken over, so the parking is continued as if it had begun that many seconds ago; the
place is that of the row, and not that of the coordinates in the new frame.  The slot is
marked before the last of the calls has been made, which is a matter for `Server.Failures`.

* `retrievClientData_eq_quit_iff` — which of the calls end the loop when they fail.
* `retrievClientData_yourTable` — the table is read only.
* `retrievClientData_of_ok` — the whole, if no call fails.
* `retrievClientData_congr` — of the table it sees the rows of its address only.
-/

namespace Pango.Server

variable {D : Type*}

/-- `retrieve_time_start_parking_value_from_database`: the time used so far, in
the place of the start time. -/
def retrieveTimeStartParkingValueFromDatabase (prepareFails stepFails : Bool)
    (yourTable : List Row) (client : PangoData D) : LoopStatus × PangoData D :=
  if prepareFails then (.quit, client)
  else match sqlite3Step stepFails (selectMac client.mac yourTable) with
    | .row r => (.stay, { client with timeStartParking := CInt.toInt32 r.timeUsed })
    | _ => (.stay, client)

/-- `update_client_and_continue_time`: the slot is connected before the location
is looked up. -/
def updateClientAndContinueTime (env : Env) (prepareFails stepFails : Bool)
    (yourTable : List Row) (client : PangoData D) : LoopStatus × PangoData D :=
  let client := { client with
    timeStartParking := CInt.toInt32 (env.now - client.timeStartParking)
    connected := true }
  if prepareFails then (.quit, client)
  else match sqlite3Step stepFails (selectMac client.mac yourTable) with
    | .row r => (.stay, { client with location := client.location.write 0 (r.location ++ [0]) })
    | _ => (.stay, client)

/-- `retriev_client_data`: one critical section, with the location sent at its
end. -/
def retrievClientData (cfg : Config D) (env : Env) (client : PangoData D) (status : UInt8)
    (yourTable : List Row) : StartResult D :=
  let quit (client : PangoData D) (events : List (Event D)) : StartResult D :=
    ⟨.quit, client, errorStatusInClientExistSubfunctions, yourTable, .lock :: events ++ [.unlock]⟩
  let clock := Event.clock .updateClientAndContinueTime env.now
  let time := retrieveTimeStartParkingValueFromDatabase (env.fails 0) (env.fails 1) yourTable client
  if time.1 = .quit then quit time.2 []
  else
    let resumed := updateClientAndContinueTime env (env.fails 2) (env.fails 3) yourTable time.2
    if resumed.1 = .quit then quit resumed.2 [clock]
    else
      let price := retrieveParkingPricePerCityFromDatabase (env.fails 4) (env.fails 5)
        cfg.cityParking resumed.2
      if price.1 = .quit then quit price.2 [clock]
      else ⟨.stay, price.2, status, yourTable,
        [.lock, clock, .send (.location price.2.location) (!env.sendFails), .unlock]⟩

/-! ### What the section does to the slot -/

variable {cfg : Config D} {env : Env} {client : PangoData D} {status : UInt8} {rows : List Row}

theorem retrieveTime_client (pf sf : Bool) (rows : List Row) (client : PangoData D) :
    ∃ t, (retrieveTimeStartParkingValueFromDatabase pf sf rows client).2
      = { client with timeStartParking := t } := by
  unfold retrieveTimeStartParkingValueFromDatabase
  split_ifs
  · exact ⟨client.timeStartParking, rfl⟩
  · split
    · exact ⟨_, rfl⟩
    · exact ⟨client.timeStartParking, rfl⟩

theorem retrieveTime_fst (pf sf : Bool) (rows : List Row) (client : PangoData D) :
    (retrieveTimeStartParkingValueFromDatabase pf sf rows client).1
      = if pf then .quit else .stay := by
  unfold retrieveTimeStartParkingValueFromDatabase
  split_ifs
  · rfl
  · split <;> rfl

theorem updateClientAndContinueTime_fst (env : Env) (pf sf : Bool) (rows : List Row)
    (client : PangoData D) :
    (updateClientAndContinueTime env pf sf rows client).1 = if pf then .quit else .stay := by
  unfold updateClientAndContinueTime
  dsimp only
  split_ifs
  · rfl
  · split <;> rfl

variable (cfg env client status rows) in
/-- The section fails exactly if one of its three statements cannot be
prepared. -/
theorem retrievClientData_eq_quit_iff : (retrievClientData cfg env client status rows).returnValue
    = .quit ↔ env.fails 0 = true ∨ env.fails 2 = true ∨ env.fails 4 = true := by
  unfold retrievClientData
  simp only [retrieveTime_fst, updateClientAndContinueTime_fst, retrieveParkingPrice_fst]
  cases env.fails 0 <;> cases env.fails 2 <;> cases env.fails 4 <;> simp

variable (cfg env client status rows) in
theorem retrievClientData_status : (retrievClientData cfg env client status rows).status
    = if (retrievClientData cfg env client status rows).returnValue = .quit then
        errorStatusInClientExistSubfunctions else status := by
  unfold retrievClientData
  dsimp only
  split_ifs <;> first | rfl | contradiction

/-- The section never touches the table. -/
theorem retrievClientData_yourTable (cfg : Config D) (env : Env) (client : PangoData D)
    (status : UInt8) (rows : List Row) :
    (retrievClientData cfg env client status rows).yourTable = rows := by
  unfold retrievClientData
  dsimp only
  split_ifs <;> rfl

/-- Without failures, and with a row to find, the parking is continued from the
time used, in the row's location and at the price of that location. -/
theorem retrievClientData_of_ok (h : env.sqlFails = []) {r : Row} {rs : List Row}
    (hrow : selectMac client.mac rows = r :: rs) :
    retrievClientData cfg env client status rows =
      let location := client.location.write 0 (r.location ++ [0])
      { returnValue := .stay
        client := { client with
          timeStartParking := CInt.toInt32 (env.now - r.timeUsed)
          connected := true
          location
          price := cfg.priceOf (cstr location.toList) client.price }
        status
        yourTable := rows
        events := [.lock, .clock .updateClientAndContinueTime env.now,
          .send (.location location) (!env.sendFails), .unlock] } := by
  have hmac : ∀ t b, PangoData.mac { client with timeStartParking := t, connected := b }
      = client.mac := fun _ _ => rfl
  unfold retrievClientData retrieveTimeStartParkingValueFromDatabase updateClientAndContinueTime
    sqlite3Step
  simp [Env.fails_of_nil h, hrow, hmac, retrieveParkingPrice_of_ok]

/-- What the section does depends on the rows of the slot's address only. -/
theorem retrievClientData_congr {rows' : List Row}
    (h : selectMac client.mac rows = selectMac client.mac rows') :
    retrievClientData cfg env client status rows'
      = { retrievClientData cfg env client status rows with yourTable := rows' } := by
  have htime : ∀ pf sf, retrieveTimeStartParkingValueFromDatabase pf sf rows' client
      = retrieveTimeStartParkingValueFromDatabase pf sf rows client := by
    intro pf sf
    unfold retrieveTimeStartParkingValueFromDatabase
    rw [h]
  have hloc : ∀ pf sf (t : Int),
      updateClientAndContinueTime env pf sf rows' { client with timeStartParking := t }
        = updateClientAndContinueTime env pf sf rows { client with timeStartParking := t } := by
    intro pf sf t
    have hmac : PangoData.mac { client with
        timeStartParking := CInt.toInt32 (env.now - t), connected := true } = client.mac := rfl
    unfold updateClientAndContinueTime
    simp only [hmac, h]
  obtain ⟨t, ht⟩ := retrieveTime_client (env.fails 0) (env.fails 1) rows client
  unfold retrievClientData
  simp only [htime, ht, hloc]
  split_ifs <;> rfl

theorem updateClientAndContinueTime_client (env : Env) (pf sf : Bool) (rows : List Row)
    (client : PangoData D) :
    ∃ t loc, (updateClientAndContinueTime env pf sf rows client).2
      = { client with timeStartParking := t, location := loc, connected := true } := by
  unfold updateClientAndContinueTime
  dsimp only
  split_ifs
  · exact ⟨_, client.location, rfl⟩
  · split
    · exact ⟨_, _, rfl⟩
    · exact ⟨_, client.location, rfl⟩

theorem updateClientAndContinueTime_location (env : Env) (pf sf : Bool) (rows : List Row)
    (client : PangoData D) :
    (updateClientAndContinueTime env pf sf rows client).2.location = client.location
      ∨ ∃ r ∈ rows, (updateClientAndContinueTime env pf sf rows client).2.location
        = client.location.write 0 (r.location ++ [0]) := by
  unfold updateClientAndContinueTime sqlite3Step
  dsimp only
  split_ifs
  · exact .inl rfl
  · exact .inl rfl
  · split
    · rename_i r hstep
      split at hstep
      · cases hstep
      · rename_i r' rs hrows
        cases hstep
        have hmem : r ∈ selectMac client.mac rows := hrows ▸ List.mem_cons_self
        exact .inr ⟨r, List.mem_of_mem_filter hmem, rfl⟩
    · exact .inl rfl

/-- The section copies no other location into the slot than one of the table. -/
theorem retrievClientData_location (cfg : Config D) (env : Env) (client : PangoData D)
    (status : UInt8) (rows : List Row) :
    (retrievClientData cfg env client status rows).client.location = client.location
      ∨ ∃ r ∈ rows, (retrievClientData cfg env client status rows).client.location
        = client.location.write 0 (r.location ++ [0]) := by
  obtain ⟨t, ht⟩ := retrieveTime_client (env.fails 0) (env.fails 1) rows client
  have hloc := updateClientAndContinueTime_location env (env.fails 2) (env.fails 3) rows
    { client with timeStartParking := t }
  have hprice : ∀ c : PangoData D, (retrieveParkingPricePerCityFromDatabase (env.fails 4)
      (env.fails 5) cfg.cityParking c).2.location = c.location := by
    intro c
    obtain ⟨p, hp⟩ := retrieveParkingPrice_client (env.fails 4) (env.fails 5) cfg.cityParking c
    rw [hp]
  unfold retrievClientData
  simp only [ht]
  split_ifs
  · exact .inl rfl
  · exact hloc
  · rw [hprice]
    exact hloc
  · rw [hprice]
    exact hloc

/-- Whatever fails, the section changes start time, location and price at most,
and marks the slot connected unless its first preparation fails. -/
theorem retrievClientData_client (cfg : Config D) (env : Env) (client : PangoData D)
    (status : UInt8) (rows : List Row) :
    ∃ t loc p, (retrievClientData cfg env client status rows).client
      = { client with
          timeStartParking := t
          location := loc
          price := p
          connected := if env.fails 0 then client.connected else true } := by
  unfold retrievClientData
  dsimp only
  by_cases h0 : env.fails 0 = true
  · have hquit : (retrieveTimeStartParkingValueFromDatabase (env.fails 0) (env.fails 1) rows client)
        = (.quit, client) := by simp [retrieveTimeStartParkingValueFromDatabase, h0]
    rw [hquit, if_pos rfl, if_pos h0]
    exact ⟨client.timeStartParking, client.location, client.price, rfl⟩
  · have hstay : (retrieveTimeStartParkingValueFromDatabase (env.fails 0) (env.fails 1) rows
        client).1 ≠ .quit := by
      rw [retrieveTime_fst, if_neg h0]
      decide
    obtain ⟨t, ht⟩ := retrieveTime_client (env.fails 0) (env.fails 1) rows client
    rw [if_neg hstay, if_neg h0, ht]
    obtain ⟨t', loc, hloc⟩ := updateClientAndContinueTime_client env (env.fails 2) (env.fails 3)
      rows { client with timeStartParking := t }
    rw [hloc]
    obtain ⟨p, hp⟩ := retrieveParkingPrice_client (env.fails 4) (env.fails 5) cfg.cityParking
      { client with timeStartParking := t', location := loc, connected := true }
    split_ifs
    · exact ⟨t', loc, client.price, rfl⟩
    · exact ⟨t', loc, p, hp⟩
    · exact ⟨t', loc, p, hp⟩

variable (cfg client status rows) in
/-- Without failures the thread stays with its status, and the slot is
connected. -/
theorem retrievClientData_stay (h : env.sqlFails = []) :
    (retrievClientData cfg env client status rows).returnValue = .stay ∧
      (retrievClientData cfg env client status rows).status = status ∧
      (retrievClientData cfg env client status rows).client.connected = true := by
  obtain ⟨_, _, _, hc⟩ := retrievClientData_client cfg env client status rows
  refine ⟨?_, ?_, ?_⟩
  · unfold retrievClientData
    simp [retrieveTime_fst, updateClientAndContinueTime_fst, retrieveParkingPrice_fst,
      Env.fails_of_nil h]
  · unfold retrievClientData
    simp [retrieveTime_fst, updateClientAndContinueTime_fst, retrieveParkingPrice_fst,
      Env.fails_of_nil h]
  · rw [hc]
    simp [Env.fails_of_nil h]

end Pango.Server
