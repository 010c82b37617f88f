import Pango.Lib.HexText
import Pango.Server.Data

/-!
# `client_thread_func.c`

The functions the connection thread is made of, each with the lemma its callers
use: `crc8Check_of_valid`, `storeClientDataInStruct_eq`,
`clinetExistInDatabaseCheck_of_ok`.

The one with a loop is `store_client_data_in_struct`, which prints the address of a
frame into the slot, byte by byte, under `%x` and with colons in between.  The table
has no other key than this text, so it matters whether two addresses may share one, and
whether what an earlier frame has left in the slot can show through.

* `macText_eq_iff` — frames with the same text carry the same address.
* `keyText_macText` — it is made of digits and colons, so it cannot end the quotes it is
  put between.
* `key_faithful` — whatever the slots held before, the text stands for the six bytes of
  an address.
-/

namespace Pango.Server

open HexText

variable {D : Type*}

/-! ## Checking and storing a frame -/

/-- `calculateCRC8`. -/
def calculateCRC8 (data : List UInt8) (length : ℕ) : UInt8 :=
  crcLoop crcPolynomial (data.take length)

/-- `CRC_8_check`: the verdict, and the status it leaves. -/
def crc8Check (buff : Frame) (buffSize : ℕ) (status : UInt8) : Bool × UInt8 :=
  if buff.crc = calculateCRC8 buff.toList buffSize then (true, status) else (false, crc8TestFailed)

/-- The check byte of the frame is right. -/
def CrcValid (f : Frame) : Prop := f.crc = calculateCRC8 f.toList pangoDataSize

instance (f : Frame) : Decidable (CrcValid f) := inferInstanceAs (Decidable (_ = _))

theorem crc8Check_of_valid {f : Frame} (h : CrcValid f) (status : UInt8) :
    crc8Check f pangoDataSize status = (true, status) := if_pos h

theorem crc8Check_of_not_valid {f : Frame} (h : ¬ CrcValid f) (status : UInt8) :
    crc8Check f pangoDataSize status = (false, crc8TestFailed) := if_neg h

/-- The variables of the loop of `store_client_data_in_struct`. -/
structure StoreLoop (D : Type*) where
  client : PangoData D
  status : UInt8
  offset : ℕ

/-- `offset += sprintf(client->mac_address + offset, …)`. -/
def StoreLoop.sprintfMac (s : StoreLoop D) (text : List UInt8) : StoreLoop D :=
  { s with
    client := { s.client with macAddress := s.client.macAddress.write s.offset (text ++ [0]) }
    offset := s.offset + text.length }

/-- One turn of the loop. -/
def storeTurn (clientBuff : Frame) (s : StoreLoop D) (i : ℕ) : StoreLoop D :=
  let s := if i = 0 then { s with status := clientBuff.getD 0 0 } else s
  if i > 0 ∧ i < 7 then
    if i = 6 then s.sprintfMac (hexByte (clientBuff.getD i 0))
    else s.sprintfMac (hexByte (clientBuff.getD i 0) ++ [colon])
  else
    { s with
      client := { s.client with xAxis := clientBuff.getD i 0, yAxis := clientBuff.getD (i + 1) 0 } }

/-- `store_client_data_in_struct`. -/
def storeClientDataInStruct (status : UInt8) (clientBuff : Frame) (client : PangoData D) :
    UInt8 × PangoData D :=
  if status ≠ crc8TestFailed then
    let s := (List.range 8).foldl (storeTurn clientBuff) ⟨client, status, 0⟩
    (s.status, s.client)
  else (status, client)

/-- The text of a frame's MAC address: its six bytes under `%x`, with colons
between them. -/
def macText (f : Frame) : List UInt8 := colonHex f.mac

/-- The texts of two frames agree exactly if their MAC bytes do. -/
theorem macText_eq_iff {f g : Frame} : macText f = macText g ↔ f.mac = g.mac := by
  have hne : ∀ f : Frame, f.mac ≠ [] := fun f h => by simpa [h] using f.length_mac
  exact ⟨colonHex_injective (hne f) (hne g), fun h => by rw [macText, macText, h]⟩

/-- Storing a frame gives the slot its MAC address and coordinates and the status variable its
first byte, and changes nothing else. -/
theorem storeClientDataInStruct_eq {status : UInt8} (h : status ≠ crc8TestFailed) (f : Frame)
    (client : PangoData D) : ∃ m : Buf UInt8 18, cstr m.toList = macText f ∧
      storeClientDataInStruct status f client
        = (f.status, { client with macAddress := m, xAxis := f.x, yAxis := f.y }) := by
  obtain ⟨s, m₀, m₁, m₂, m₃, m₄, m₅, x, y, c, rfl⟩ := f.exists_bytes
  refine ⟨client.macAddress.printAll 0 [hexByte m₀ ++ [colon], hexByte m₁ ++ [colon],
    hexByte m₂ ++ [colon], hexByte m₃ ++ [colon], hexByte m₄ ++ [colon], hexByte m₅], ?_, ?_⟩
  · rw [Buf.cstr_printAll]
    · simp [macText, Frame.mac, colonHex, List.intercalate]
    · simp
    · intro c hc
      simp only [List.flatten_cons, List.flatten_nil, List.mem_append, List.mem_singleton] at hc
      have hcol : colon ≠ 0 := by decide
      have hhex : ∀ b : UInt8, c ∈ hexByte b → c ≠ 0 := fun _ => ne_zero_of_mem_hexByte
      grind
    · have := fun b => length_hexByte_le b
      simp only [List.flatten_cons, List.flatten_nil, List.length_append, List.length_singleton,
        List.length_nil]
      grind
  · simp [storeClientDataInStruct, h, storeTurn, StoreLoop.sprintfMac, Buf.printAll, Buf.getD,
      Frame.status, Frame.x, Frame.y, show List.range 8 = [0, 1, 2, 3, 4, 5, 6, 7] from rfl]

/-- What an address is filed under: it leaves room for a terminating zero in the eighteen
bytes of the slot, and is made of lower-case hexadecimal digits and colons. -/
def KeyText (t : List UInt8) : Prop := t.length ≤ 17 ∧ ∀ c ∈ t, c ∈ hexDigits ∨ c = colon

theorem keyText_macText (f : Frame) : KeyText (macText f) := by
  have hlen := length_colonHex_lt (l := f.mac) fun h => by simpa [h] using f.length_mac
  rw [f.length_mac] at hlen
  exact ⟨Nat.le_of_lt_succ hlen, fun _ => mem_colonHex⟩

/-- The character an SQL literal ends with. -/
def quote : UInt8 := 39

/-- A key stays inside the quotes it is printed between. -/
theorem KeyText.quote_notMem {t : List UInt8} (h : KeyText t) : quote ∉ t := by
  intro hmem
  exact absurd (h.2 quote hmem) (by decide)

theorem mac_storeClientDataInStruct {status : UInt8} (h : status ≠ crc8TestFailed) (f : Frame)
    (client : PangoData D) : (storeClientDataInStruct status f client).2.mac = macText f := by
  obtain ⟨m, hm, hstore⟩ := storeClientDataInStruct_eq h f client
  rw [hstore]
  exact hm

/-- **The key is faithful.**  Whatever the slots held before, two frames are filed under
one text exactly if their MAC bytes agree, and the text fits the slot and stays inside
the quotes of an SQL statement. -/
theorem key_faithful {status status' : UInt8} (h : status ≠ crc8TestFailed)
    (h' : status' ≠ crc8TestFailed) (f f' : Frame) (client client' : PangoData D) :
    let mac := (storeClientDataInStruct status f client).2.mac
    let mac' := (storeClientDataInStruct status' f' client').2.mac
    (mac = mac' ↔ f.mac = f'.mac) ∧ KeyText mac ∧ KeyText mac' ∧ quote ∉ mac ∧ quote ∉ mac' := by
  dsimp only
  rw [mac_storeClientDataInStruct h, mac_storeClientDataInStruct h']
  have hf := keyText_macText f
  have hf' := keyText_macText f'
  exact ⟨macText_eq_iff, hf, hf', hf.quote_notMem, hf'.quote_notMem⟩

/-- A frame with address bytes 1 and 16, and one with 17 and 0. -/
def shiftedFrames : Frame × Frame :=
  (⟨[1, 1, 16, 0, 0, 0, 0, 0, 0, 0], rfl⟩, ⟨[1, 17, 0, 0, 0, 0, 0, 0, 0, 0], rfl⟩)

/-- Without padding, `1:10` and `11:0` are still told apart. -/
theorem key_faithful_of_shifted :
    (storeClientDataInStruct 2 shiftedFrames.1 (.zero : PangoData Int)).2.mac
      ≠ (storeClientDataInStruct 2 shiftedFrames.2 (.zero : PangoData Int)).2.mac := by
  have hfaithful := @key_faithful Int 2 2 (by decide) (by decide) shiftedFrames.1 shiftedFrames.2
    .zero .zero
  exact fun heq => absurd (hfaithful.1.mp heq) (by decide)

/-! ## Looking a client up -/

/-- `clinet_exist_in_database_check`, with the statement it prepares.  A failed
preparation leaves a null statement, whose step is an error. -/
def clinetExistInDatabaseCheck (prepareFails stepFails : Bool) (mac : List UInt8)
    (allrdyChckd : Bool) (yourTable : List Row) : Bool :=
  let step := if prepareFails then .error else sqlite3Step stepFails (selectMac mac yourTable)
  match step with
  | .row _ => !allrdyChckd
  | _ => false

/-- A client exists if both calls work, the table has a row for it and it has not been
looked up before. -/
theorem clinetExistInDatabaseCheck_eq (pf sf : Bool) (mac : List UInt8) (chckd : Bool)
    (rows : List Row) : clinetExistInDatabaseCheck pf sf mac chckd rows
      = (!pf && !sf && !chckd && !(selectMac mac rows).isEmpty) := by
  unfold clinetExistInDatabaseCheck sqlite3Step
  cases pf <;> cases sf <;> cases selectMac mac rows <;> simp

theorem clinetExistInDatabaseCheck_of_ok (mac : List UInt8) (chckd : Bool) (rows : List Row) :
    clinetExistInDatabaseCheck false false mac chckd rows
      = (!chckd && !(selectMac mac rows).isEmpty) := by
  rw [clinetExistInDatabaseCheck_eq, Bool.not_false, Bool.true_and, Bool.true_and]

/-- `new_client`. -/
def newClient (checkedDatabaseValue : Bool) : Bool :=
  if checkedDatabaseValue = false then true else false

/-! ## Ending a parking -/

/-- What `update_client_data` leaves behind. -/
structure UpdateResult (D : Type*) where
  returnValue : UInt8
  /-- `*end`, a `uint32_t`. -/
  endTime : Int
  yourTable : List Row
  events : List (Event D)

/-- The seconds `update_client_data` writes at a clock reading: a `uint32_t`
difference converted to `int`. -/
def secondsUsed (client : PangoData D) (now : Int) : Int :=
  CInt.toInt32 (CInt.toUInt32 (CInt.toUInt32 now - client.timeStartParking))

theorem secondsUsed_eq (client : PangoData D) (now : Int) :
    secondsUsed client now = CInt.toInt32 (now - client.timeStartParking) := by
  rw [secondsUsed, CInt.toInt32_toUInt32, CInt.toInt32_toUInt32_sub]

/-- `update_client_data`. -/
def updateClientData (env : Env) (client : PangoData D) (yourTable : List Row) : UpdateResult D :=
  let stmt := Stmt.update (secondsUsed client env.now) client.mac
  { returnValue := if env.fails 0 then errorCode else 0
    endTime := CInt.toUInt32 env.now
    yourTable := sqlite3Exec (env.fails 0) stmt yourTable
    events := [.clock .updateClientData env.now, .exec stmt (!env.fails 0)] }

/-- `calculate_and_send_payment_data`: the two numbers sent.  The difference of
the two `int` parameters is an `int`. -/
def calculateAndSendPaymentData [CDouble D] (startTime endTime : Int) (parkingPricePerSecond : D) :
    Reply D :=
  let elapsedTimeSeconds := CInt.toInt32 (endTime - startTime)
  .payment (CDouble.mul parkingPricePerSecond (CDouble.ofInt elapsedTimeSeconds))
    (CDouble.ofInt elapsedTimeSeconds)

/-- `remove_client_data`. -/
def removeClientData (env : Env) (mac : List UInt8) (yourTable : List Row) :
    List Row × List (Event D) :=
  (sqlite3Exec (env.fails 0) (.delete mac) yourTable, [.exec (.delete mac) (!env.fails 0)])

end Pango.Server
