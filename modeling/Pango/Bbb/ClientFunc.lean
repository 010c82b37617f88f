import Pango.Frame
import Pango.Lib.CInt

/-!
# The BBB: `client_func.c` and `server_connection_check_functions.c`

The decisions of the BBB's main loop, each a function of one status byte and the
flag `connected`.  The status byte runs through `ON` and `OFF` as the button is
pressed; `STAY_ON` and `STAY_OFF` mark a press that came to nothing.  At the end
of a parking the BBB prints a receipt.

None of them asks where in a parking the loop is: a start is told from an end by the
byte alone, and a reply by whether it is the text `ERROR`.  What follows from that is a
matter of whole runs, which `Bbb.Loop` and `Joint.Replies` go into; here are only the
small facts about one call that they use.

* `updatingStatusValue_on`, `updatingStatusValue_off` — the toggle, between a start and
  an end.
* `receivedDataFromStm_updatingStatusValue` — whatever byte is toggled, the next request
  is for one of the two.
* `crc8Check_of_valid` — a frame that passes the check keeps the status it brought.
-/

namespace Pango.Bbb

/-! ## Constants -/

/-- `enum app_status`. -/
abbrev AppStatus.on : UInt8 := 1
abbrev AppStatus.off : UInt8 := 2
abbrev AppStatus.restart : UInt8 := 3
abbrev AppStatus.stayOn : UInt8 := 6
abbrev AppStatus.stayOff : UInt8 := 7

/-- `enum is_connected`. -/
inductive IsConnected
  | notConnected
  | connected
  deriving DecidableEq, Repr

/-- `enum quit`. -/
inductive Quit
  | quit
  | dontQuit
  deriving DecidableEq, Repr

abbrev pangoDataSize : ℕ := 9

/-! ## The frame from the STM board -/

/-- `calculateCRC8`. -/
def calculateCRC8 (data : List UInt8) (length : ℕ) : UInt8 :=
  crcLoop crcPolynomial (data.take length)

/-- `CRC_8_check`: the status it leaves. -/
def crc8Check (buff : Frame) (buffSize : ℕ) (status : UInt8) : UInt8 :=
  if buff.crc ≠ calculateCRC8 buff.toList buffSize then
    if status = AppStatus.on then AppStatus.stayOn else AppStatus.stayOff
  else status

/-- `get_status`. -/
def getStatus (buff : Frame) : UInt8 := buff.getD 0 0

/-- `received_data_from_stm`. -/
def receivedDataFromStm (status : UInt8) : Bool :=
  if status = AppStatus.on ∨ status = AppStatus.off then true else false

/-- `updating_status_value`: the byte is incremented modulo 3, and 0 becomes 1. -/
def updatingStatusValue (status : UInt8) : UInt8 :=
  let status := (status + 1) % 3
  if status = 0 then status + 1 else status

/-! ## The server's answers -/

/-- `already_connected_to_server_check`. -/
def alreadyConnectedToServerCheck (status : UInt8) (isConnected : IsConnected) : IsConnected :=
  if status = AppStatus.on ∧ isConnected = .notConnected then .notConnected else .connected

/-- `ready_to_quit`. -/
def readyToQuit (status : UInt8) (isConnected : IsConnected) : Quit :=
  if status = AppStatus.off ∧ isConnected = .connected then .quit else .dontQuit

/-- `crc8_server_side_value`: status and flag after the server's first answer. -/
def crc8ServerSideValue (status : UInt8) (locationBuff : Buf UInt8 12) : UInt8 × IsConnected :=
  if cstr locationBuff.toList ≠ ascii ['E', 'R', 'R', 'O', 'R'] then (status, .connected)
  else (AppStatus.stayOn, .notConnected)

/-! ## The receipt -/

/-- What `final_price_for_costumer` prints. -/
structure Receipt (D : Type*) where
  hour : Int
  minutes : Int
  seconds : Int
  finalPrice : D
  deriving DecidableEq

/-- `final_price_for_costumer`: division and remainder are those of `int`. -/
def finalPriceForCostumer {D : Type*} [CDouble D] (payment : D × D) : Receipt D where
  hour := (((CDouble.toInt payment.2).tdiv 60).tdiv 60).tmod 24
  minutes := ((CDouble.toInt payment.2).tdiv 60).tmod 60
  seconds := (CDouble.toInt payment.2).tmod 60
  finalPrice := payment.1

/-! ## Small facts -/

@[simp] theorem updatingStatusValue_on : updatingStatusValue AppStatus.on = AppStatus.off := rfl
@[simp] theorem updatingStatusValue_off : updatingStatusValue AppStatus.off = AppStatus.on := rfl

/-- Whatever the status was, the next one asks for a start or for an end. -/
theorem receivedDataFromStm_updatingStatusValue (status : UInt8) :
    receivedDataFromStm (updatingStatusValue status) = true := by
  have hlt : ((status + 1) % 3).toNat < 3 := by
    rw [UInt8.toNat_mod]
    exact Nat.mod_lt _ (by decide)
  unfold updatingStatusValue receivedDataFromStm
  generalize (status + 1) % 3 = s at hlt
  have hs : s = 0 ∨ s = 1 ∨ s = 2 := by
    simp only [← UInt8.toNat_inj]
    have h0 : (0 : UInt8).toNat = 0 := rfl
    have h1 : (1 : UInt8).toNat = 1 := rfl
    have h2 : (2 : UInt8).toNat = 2 := rfl
    omega
  rcases hs with rfl | rfl | rfl <;> decide

/-- A frame that passes the check keeps the status. -/
theorem crc8Check_of_valid {f : Frame} (h : f.crc = calculateCRC8 f.toList pangoDataSize)
    (status : UInt8) : crc8Check f pangoDataSize status = status := if_neg (not_not.mpr h)

end Pango.Bbb
