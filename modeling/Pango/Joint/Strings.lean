import Pango.Joint.Replies
import Pango.Lib.Printf

/-!
# The strings the server prints

The server builds every SQL statement with `sprintf` in an array of a fixed size, and
nothing checks what is printed against the size.  The lengths depend on data: on an
address, on a number of seconds, on a location that may have come from the table.

Here is every `sprintf` and `strcpy` of the server, as the step of a thread executes
it: the array it prints into and the text.  An address has at most seventeen
characters, a number at most eleven, and a location at most eleven as long as it
comes from `location_func`, be it through the table; so every print fits.

* `prints` — what a step prints, and where.
* `macAddress_storeClientDataInStruct` — that these are the prints of the model: the
  slot's address is what they leave in it.
* `TextsInBounds` — the invariant, on the slots and on the table.
* `strings_fit` — in every run, each print stays inside its array.
-/

namespace Pango.Joint

open Pango.Server HexText

variable {D : Type*}

/-! ## The texts -/

abbrev maxBuffSize : ℕ := 150
abbrev macAddressSize : ℕ := 18

/-- A statement that ends with an argument between quotes. -/
def quoted (before : String) (arg : List UInt8) : List UInt8 :=
  ascii before.toList ++ arg ++ ascii "';".toList

/-- `check_if_open`. -/
def checkIfOpen (mac : List UInt8) : List UInt8 :=
  quoted "SELECT * FROM your_table WHERE MAC_ADR = '" mac

/-- `time_used_data`. -/
def timeUsedData (mac : List UInt8) : List UInt8 :=
  quoted "SELECT TIME_USED FROM your_table WHERE MAC_ADR = '" mac

/-- `location_data`. -/
def locationData (mac : List UInt8) : List UInt8 :=
  quoted "SELECT LOCATION FROM your_table WHERE MAC_ADR = '" mac

/-- `price_data`. -/
def priceData (location : List UInt8) : List UInt8 :=
  quoted "SELECT * FROM city_parking WHERE CITY = '" location

/-- `delete_query`. -/
def deleteQuery (mac : List UInt8) : List UInt8 :=
  quoted "DELETE FROM your_table WHERE MAC_ADR = '" mac

/-- `update_clinet_data`, of both threads. -/
def updateClinetData (timeUsed : Int) (mac : List UInt8) : List UInt8 :=
  ascii "UPDATE your_table SET TIME_USED = ".toList ++ decText timeUsed ++
    quoted " WHERE MAC_ADR = '" mac

/-- `insert_query`. -/
def insertQuery (mac location : List UInt8) : List UInt8 :=
  ascii "INSERT INTO your_table (MAC_ADR , TIME_USED , LOCATION ) VALUES ('".toList ++ mac ++
    ascii "', ".toList ++ decText 0 ++ ascii ",'".toList ++ location ++ ascii "');".toList

/-! ## The prints of each function -/

/-- The texts `store_client_data_in_struct` prints one behind the other. -/
def macPieces (f : Frame) : List (List UInt8) :=
  [hexByte (f.getD 1 0) ++ [colon], hexByte (f.getD 2 0) ++ [colon],
    hexByte (f.getD 3 0) ++ [colon], hexByte (f.getD 4 0) ++ [colon],
    hexByte (f.getD 5 0) ++ [colon], hexByte (f.getD 6 0)]

/-- `store_client_data_in_struct`. -/
def storePrints (status : UInt8) (f : Frame) : List Print :=
  if status ≠ crc8TestFailed then Print.pieces macAddressSize 0 (macPieces f) else []

/-- `retrieve_parking_price_per_city_from_database`. -/
def pricePrints (client : PangoData D) : List Print :=
  [⟨150, 0, priceData (cstr client.location.toList)⟩]

/-- `process_client_data`: the second statement is printed if the first could be prepared. -/
def processPrints (cfg : Config D) (env : Env) (client : PangoData D) : List Print :=
  let price := retrieveParkingPricePerCityFromDatabase (env.fails 0) (env.fails 1) cfg.cityParking
    client
  pricePrints client ++
    if price.1 = .quit then []
    else [⟨150, 0, insertQuery price.2.mac (cstr price.2.location.toList)⟩]

/-- `update_client_and_continue_time`, with its `strcpy`. -/
def continuePrints (prepareFails stepFails : Bool) (yourTable : List Row) (client : PangoData D) :
    List Print :=
  ⟨150, 0, locationData client.mac⟩ ::
    if prepareFails then []
    else match sqlite3Step stepFails (selectMac client.mac yourTable) with
      | .row r => [⟨12, 0, r.location⟩]
      | _ => []

/-- `retriev_client_data`: each call prints unless the one before it has failed. -/
def retrievPrints (env : Env) (client : PangoData D) (yourTable : List Row) : List Print :=
  let time := retrieveTimeStartParkingValueFromDatabase (env.fails 0) (env.fails 1) yourTable client
  ⟨maxBuffSize, 0, timeUsedData client.mac⟩ ::
    if time.1 = .quit then []
    else
      let resumed := updateClientAndContinueTime env (env.fails 2) (env.fails 3) yourTable time.2
      continuePrints (env.fails 2) (env.fails 3) yourTable time.2 ++
        if resumed.1 = .quit then [] else pricePrints resumed.2

/-- `update_client_data`. -/
def updatePrints (env : Env) (client : PangoData D) : List Print :=
  [⟨100, 0, updateClinetData (secondsUsed client env.now) client.mac⟩]

/-- The prints of one step of `pango_client`. -/
def pangoClientPrints (cfg : Config D) (env : Env) (client : PangoData D) (t : Thread)
    (yourTable : List Row) : List Print :=
  match t.pc with
  | .check =>
    if (crc8Check t.clientDataBuff pangoDataSize t.status).1 then
      storePrints t.status t.clientDataBuff
    else []
  | .exist => [⟨150, 0, checkIfOpen client.mac⟩]
  | .retriev => retrievPrints env client yourTable
  | .init => [⟨12, 0, cityName client.xAxis client.yAxis⟩]
  | .process => processPrints cfg env client
  | .close | .update => updatePrints env client
  | .remove => [⟨150, 0, deleteQuery client.mac⟩]
  | _ => []

/-- The prints of `update_clients`. -/
def updateClientsPrints (n : ℕ) (client : ℕ → PangoData D) (clock : ℕ → Int) : List Print :=
  (List.range n).flatMap fun i =>
    if (client i).connected = true then
      [⟨maxBuffSize, 0, updateClinetData (secondsBackedUp (client i) (clock i)) (client i).mac⟩]
    else []

/-- The prints of a step of the server. -/
def prints (cfg : Config D) (s : State D) : Server.Label → List Print
  | .accept .. => []
  | .client i env => match s.thread i with
    | some t => pangoClientPrints cfg env (s.client i) t s.yourTable
    | none => []
  | .backup clock _ => updateClientsPrints cfg.updateThreadMaxNumClients s.client clock

/-! ## How long the texts are -/

theorem length_cityName_le (x y : UInt8) : (cityName x y).length ≤ 11 :=
  Nat.le_of_succ_le_succ (length_cityName_lt x y)

theorem length_quoted (before : String) (arg : List UInt8) :
    (quoted before arg).length = before.toList.length + arg.length + 2 := by
  simp only [quoted, ascii, List.length_append, List.length_map]
  rfl

theorem fits_quoted {size n : ℕ} {before : String} {arg : List UInt8} (harg : arg.length ≤ n)
    (h : before.toList.length + n + 3 ≤ size) : Print.Fits ⟨size, 0, quoted before arg⟩ := by
  rw [Print.fits_iff, length_quoted]
  omega

theorem fits_updateClinetData {size : ℕ} {timeUsed : Int} {mac : List UInt8} (hsize : 100 ≤ size)
    (ht : CInt.InInt32 timeUsed) (hmac : mac.length ≤ 17) :
    Print.Fits ⟨size, 0, updateClinetData timeUsed mac⟩ := by
  have hdec := length_decText_le ht
  have hfirst : (ascii "UPDATE your_table SET TIME_USED = ".toList).length = 34 := by decide
  have hsecond : " WHERE MAC_ADR = '".toList.length = 18 := by decide
  rw [Print.fits_iff, updateClinetData, List.length_append, List.length_append, length_quoted,
    hfirst, hsecond]
  omega

theorem fits_insertQuery {mac location : List UInt8} (hmac : mac.length ≤ 17)
    (hloc : location.length ≤ 11) : Print.Fits ⟨150, 0, insertQuery mac location⟩ := by
  have hfirst : (ascii "INSERT INTO your_table (MAC_ADR , TIME_USED , LOCATION ) VALUES ('".toList
      ).length = 66 := by decide
  have hrest : (ascii "', ".toList ++ decText 0 ++ ascii ",'".toList ++ ascii "');".toList).length
      = 9 := by decide
  simp only [List.length_append] at hrest
  rw [Print.fits_iff]
  simp only [insertQuery, List.length_append, hfirst]
  omega

/-! ## Slots -/

/-- The texts of a slot leave room for their zero. -/
structure Terminated (client : PangoData D) : Prop where
  mac : client.mac.length ≤ 17
  location : (cstr client.location.toList).length ≤ 11

theorem length_location_copied {rows : List Row} (hw : Written rows) {r : Row} (hr : r ∈ rows)
    (b : Buf UInt8 12) : (cstr (b.write 0 (r.location ++ [0])).toList).length ≤ 11 := by
  obtain ⟨x, y, hloc⟩ := hw r hr
  have hcopy := cstr_locationFunc x y b
  rw [locationFunc, ← hloc] at hcopy
  rw [hcopy, hloc]
  exact length_cityName_le x y

section Step

variable {cfg : Config D} {env : Env} {client : PangoData D} {t : Thread} {rows : List Row}

theorem terminated_zero [CDouble D] : Terminated (.zero : PangoData D) :=
  ⟨Nat.zero_le 17, Nat.zero_le 11⟩

theorem terminated_retrievClientData (hc : Terminated client) (hw : Written rows)
    (status : UInt8) : Terminated (retrievClientData cfg env client status rows).client := by
  obtain ⟨_, _, _, heq⟩ := retrievClientData_client cfg env client status rows
  refine ⟨?_, ?_⟩
  · rw [heq]
    exact hc.mac
  · rcases retrievClientData_location cfg env client status rows with hloc | ⟨r, hr, hloc⟩
    · rw [hloc]
      exact hc.location
    · rw [hloc]
      exact length_location_copied hw hr _

/-- **A step keeps the texts of the slot terminated**, with any frame and any failures. -/
theorem terminated_pangoClientStep [CDouble D] {r : Turn D} (hc : Terminated client)
    (hw : Written rows) (h : pangoClientStep cfg env client t rows = some r) :
    Terminated r.client := by
  cases hpc : t.pc with
  | check =>
    rcases check_cases hpc h with ⟨-, rfl⟩ | ⟨-, -, rfl⟩ | ⟨-, -, m, hm, rfl⟩
    · exact hc
    · exact hc
    · refine ⟨?_, hc.location⟩
      rw [PangoData.mac, hm]
      exact (keyText_macText _).1
  | recv =>
    simp only [pangoClientStep, hpc] at h
    split at h <;> cases h <;> exact hc
  | retriev =>
    simp only [pangoClientStep, hpc] at h
    split at h <;> cases h <;> exact terminated_retrievClientData hc hw t.status
  | init =>
    simp only [pangoClientStep, hpc] at h
    cases h
    refine ⟨hc.mac, ?_⟩
    rw [initializeAndGetStartTime, cstr_locationFunc]
    exact length_cityName_le _ _
  | process =>
    obtain ⟨_, _, _, _, _, heq⟩ := processClientData_eq cfg env client t.status
    simp only [pangoClientStep, hpc, heq] at h
    cases h
    exact ⟨hc.mac, hc.location⟩
  | lost | exist | sendLocation | setConnected | close | pay | remove | update | sendErrMsg
  | closeFd =>
    simp only [pangoClientStep, hpc] at h
    cases h
    exact ⟨hc.mac, hc.location⟩
  | done => simp [pangoClientStep, hpc] at h

/-! ## What a step prints -/

/-- The pieces of an address make up its text. -/
theorem flatten_macPieces (f : Frame) : (macPieces f).flatten = macText f := by
  obtain ⟨s, m₀, m₁, m₂, m₃, m₄, m₅, x, y, c, rfl⟩ := f.exists_bytes
  simp [macPieces, macText, Frame.mac, Buf.getD, colonHex, List.intercalate]

/-- Storing a frame executes just these prints. -/
theorem macAddress_storeClientDataInStruct (status : UInt8) (f : Frame) (client : PangoData D) :
    (storeClientDataInStruct status f client).2.macAddress
      = (storePrints status f).foldl (fun b p => b.write p.offset (p.text ++ [0]))
          client.macAddress := by
  unfold storePrints storeClientDataInStruct
  split_ifs
  · rw [← Print.printAll_eq_foldl]
    simp [storeTurn, StoreLoop.sprintfMac, macPieces, Buf.printAll,
      show List.range 8 = [0, 1, 2, 3, 4, 5, 6, 7] from rfl]
  · rfl

theorem fits_storePrints {status : UInt8} {f : Frame} {p : Print} (hp : p ∈ storePrints status f) :
    p.Fits := by
  unfold storePrints at hp
  split_ifs at hp
  · have hlen := (keyText_macText f).1
    refine Print.fits_of_mem_pieces ?_ hp
    rw [flatten_macPieces]
    unfold macAddressSize
    omega
  · cases hp

theorem fits_pricePrints (hloc : (cstr client.location.toList).length ≤ 11) {p : Print}
    (hp : p ∈ pricePrints client) : p.Fits := by
  rw [List.mem_singleton.mp hp]
  exact fits_quoted hloc (by decide)

theorem fits_processPrints (hc : Terminated client) {p : Print}
    (hp : p ∈ processPrints cfg env client) : p.Fits := by
  obtain ⟨d, hprice⟩ := retrieveParkingPrice_client (env.fails 0) (env.fails 1) cfg.cityParking
    client
  rcases List.mem_append.mp hp with hp | hp
  · exact fits_pricePrints hc.location hp
  · split_ifs at hp
    · cases hp
    · rw [List.mem_singleton.mp hp, hprice]
      exact fits_insertQuery hc.mac hc.location

theorem fits_continuePrints {pf sf : Bool} (hc : Terminated client) (hw : Written rows)
    {p : Print} (hp : p ∈ continuePrints pf sf rows client) : p.Fits := by
  rcases List.mem_cons.mp hp with rfl | hp
  · exact fits_quoted hc.mac (by decide)
  · split_ifs at hp
    · cases hp
    · unfold sqlite3Step at hp
      split at hp
      · rename_i r hstep
        split_ifs at hstep
        split at hstep
        · cases hstep
        · rename_i r' rs hrows
          cases hstep
          have hmem : r ∈ selectMac client.mac rows := hrows ▸ List.mem_cons_self
          obtain ⟨x, y, hloc⟩ := hw r (List.mem_of_mem_filter hmem)
          rw [List.mem_singleton.mp hp, Print.fits_iff, hloc]
          have hlen := length_cityName_le x y
          omega
      · cases hp

theorem fits_retrievPrints (hc : Terminated client) (hw : Written rows) {p : Print}
    (hp : p ∈ retrievPrints env client rows) : p.Fits := by
  obtain ⟨start, htime⟩ := retrieveTime_client (env.fails 0) (env.fails 1) rows client
  have hc' : Terminated { client with timeStartParking := start } := ⟨hc.mac, hc.location⟩
  unfold retrievPrints at hp
  simp only [htime] at hp
  rcases List.mem_cons.mp hp with rfl | hp
  · exact fits_quoted hc.mac (by decide)
  · split_ifs at hp
    · cases hp
    · rcases List.mem_append.mp hp with hp | hp
      · exact fits_continuePrints hc' hw hp
      · cases hp
    · rcases List.mem_append.mp hp with hp | hp
      · exact fits_continuePrints hc' hw hp
      · refine fits_pricePrints ?_ hp
        rcases updateClientAndContinueTime_location env (env.fails 2) (env.fails 3) rows
          { client with timeStartParking := start } with hloc | ⟨r, hr, hloc⟩
        · rw [hloc]
          exact hc.location
        · rw [hloc]
          exact length_location_copied hw hr _

theorem fits_updatePrints (hc : Terminated client) {p : Print} (hp : p ∈ updatePrints env client) :
    p.Fits := by
  rw [List.mem_singleton.mp hp]
  refine fits_updateClinetData le_rfl ?_ hc.mac
  rw [secondsUsed_eq]
  exact CInt.inInt32_toInt32 _

/-- **Whatever a step of a connection prints fits.** -/
theorem fits_pangoClientPrints (hc : Terminated client) (hw : Written rows) {p : Print}
    (hp : p ∈ pangoClientPrints cfg env client t rows) : p.Fits := by
  cases hpc : t.pc with
  | check =>
    simp only [pangoClientPrints, hpc] at hp
    split_ifs at hp
    · exact fits_storePrints hp
    · cases hp
  | exist =>
    simp only [pangoClientPrints, hpc] at hp
    rw [List.mem_singleton.mp hp]
    exact fits_quoted hc.mac (by decide)
  | retriev =>
    simp only [pangoClientPrints, hpc] at hp
    exact fits_retrievPrints hc hw hp
  | init =>
    simp only [pangoClientPrints, hpc] at hp
    rw [List.mem_singleton.mp hp, Print.fits_iff, Nat.zero_add]
    exact length_cityName_lt _ _
  | process =>
    simp only [pangoClientPrints, hpc] at hp
    exact fits_processPrints hc hp
  | close | update =>
    simp only [pangoClientPrints, hpc] at hp
    exact fits_updatePrints hc hp
  | remove =>
    simp only [pangoClientPrints, hpc] at hp
    rw [List.mem_singleton.mp hp]
    exact fits_quoted hc.mac (by decide)
  | recv | lost | sendLocation | setConnected | pay | sendErrMsg | closeFd | done =>
    simp only [pangoClientPrints, hpc] at hp
    cases hp

theorem fits_updateClientsPrints {n : ℕ} {client : ℕ → PangoData D} {clock : ℕ → Int}
    (hc : ∀ i, Terminated (client i)) {p : Print} (hp : p ∈ updateClientsPrints n client clock) :
    p.Fits := by
  obtain ⟨i, -, hp⟩ := List.mem_flatMap.mp hp
  split_ifs at hp
  · rw [List.mem_singleton.mp hp]
    exact fits_updateClinetData (by decide) (CInt.inInt32_toInt32 _) (hc i).mac
  · cases hp

end Step

/-! ## Runs -/

section Run

variable [CDouble D] {cfg : Config D} {s s' : State D} {l : Server.Label}

/-- All slots hold terminated texts, and the table locations that are printed. -/
def TextsInBounds (s : State D) : Prop := (∀ i, Terminated (s.client i)) ∧ WrittenSoFar s

theorem textsInBounds_step (h : TextsInBounds s) (hs : (server cfg).step s l = some s') :
    TextsInBounds s' := by
  obtain ⟨hc, hw⟩ := h
  refine ⟨fun j => ?_, writtenSoFar_step hw hs⟩
  rcases step_cases hs with ⟨i, fd, -, -, rfl⟩ | ⟨i, env, t, r, -, ht, hr, rfl⟩ | ⟨c, f, -, rfl⟩
  · by_cases hji : j = i
    · subst hji
      rw [accepted_client_self]
      exact ⟨(hc j).mac, (hc j).location⟩
    · rw [accepted_client_of_ne s fd hji]
      exact hc j
  · by_cases hji : j = i
    · subst hji
      rw [turn_client_self]
      exact terminated_pangoClientStep (hc j) hw.1 hr
    · rw [turn_client_of_ne s r hji]
      exact hc j
  · exact hc j

theorem fits_of_textsInBounds (h : TextsInBounds s) {p : Print} (hp : p ∈ prints cfg s l) :
    p.Fits := by
  cases l with
  | accept => cases hp
  | client i env =>
    simp only [prints] at hp
    split at hp
    · exact fits_pangoClientPrints (h.1 i) h.2.1 hp
    · cases hp
  | backup => exact fits_updateClientsPrints h.1 hp

/-- **Every string fits.**  In every run from a table whose locations come from
`location_func`, with any frames, readings of the clock and failures, each print of each step
stays inside the array it prints into. -/
theorem strings_fit {rows : List Row} {ls : List Server.Label} (hrows : Written rows)
    (h : (server cfg).Exec (fun _ _ => True) (.start rows) ls s) :
    (server cfg).Exec (fun s l => ∀ p ∈ prints cfg s l, p.Fits) (.start rows) ls s := by
  have hstart : TextsInBounds (.start rows : State D) :=
    ⟨fun _ => terminated_zero, writtenSoFar_start hrows⟩
  refine (h.strengthen hstart fun _ _ _ _ hJ hs => textsInBounds_step hJ hs).1.mono ?_
  exact fun s l hJ p hp => fits_of_textsInBounds hJ.2 hp

end Run

/-- A parking that is resumed from the table. -/
theorem strings_fit_of_resume : ∃ s : State Int, (server samplePrices).Exec
    (fun s l => ∀ p ∈ prints samplePrices s l, p.Fits)
    (.start [⟨macKey sampleMac, 30, petahTikva⟩]) (sampleResume 0 100) s := by
  have hrun : (((server samplePrices).run (.start [⟨macKey sampleMac, 30, petahTikva⟩])
      (sampleResume 0 100)).map fun s => cstr (s.client 0).location.toList) = some petahTikva := by
    decide +kernel
  obtain ⟨s, hs, -⟩ := Option.map_eq_some_iff.mp hrun
  have hrows : Written [⟨macKey sampleMac, 30, petahTikva⟩] := by
    intro row hrow
    rw [List.mem_singleton.mp hrow]
    exact ⟨100, 20, by decide⟩
  exact ⟨s, strings_fit hrows (Lts.exec_of_run _ hs)⟩

end Pango.Joint
