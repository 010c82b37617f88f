import Pango.Frame
import Pango.Lib.CInt
import Pango.Lib.KeyedTable

/-!
# The server's data

What the server's threads share — one `PangoData` slot for each connection and
the table `your_table` — and what a call into the system or into SQLite may
answer (`Env`).  SQL text is not interpreted: a statement on `your_table` is a
value of `Stmt`, with the meaning SQLite documents for it, and a failing call
leaves the table alone.

Everything a thread does that can be seen from outside its own memory is an
`Event`: locking, reading the clock, executing a statement, sending.  The events of a
run are its record, and most of what is said of the server later on is said of the record.

* `select_insert`, `select_update`, `select_delete` — what a statement does to the rows
  of its own address.
* `select_apply_of_ne` — it does nothing to those of another.
* `select_apply_congr` — so on two tables with the same rows of an address it has the
  same effect there.
-/

namespace Pango.Server

/-! ## Constants -/

abbrev crc8TestFailed : UInt8 := 255
abbrev errorStatusInClientExistSubfunctions : UInt8 := 254
abbrev errorStatusInNewClientSubfunctions : UInt8 := 253
abbrev closeAppError : UInt8 := 252
/-- `ERROR`. -/
abbrev errorCode : UInt8 := 251

abbrev startApp : UInt8 := 1
abbrev closeApp : UInt8 := 2
abbrev connectionLost : UInt8 := 3

abbrev statusInitialValue : UInt8 := 2
abbrev pangoDataSize : ℕ := 9

/-- `enum loop_status`. -/
inductive LoopStatus
  | quit
  | stay
  deriving DecidableEq, Repr

/-! ## Slots and tables -/

/-- `struct pango_data`, one slot of the `client` array.  (Its field `status` is
never used.) -/
structure PangoData (D : Type*) where
  macAddress : Buf UInt8 18
  xAxis : UInt8
  yAxis : UInt8
  clientFd : UInt8
  /-- Where the client's location name is stored. -/
  location : Buf UInt8 12
  price : D
  /-- The time the client started to use the application, an `int`. -/
  timeStartParking : Int
  /-- Is the client connected and counting time? -/
  connected : Bool
  deriving DecidableEq

/-- The text a formatted print reads from `mac_address`. -/
def PangoData.mac {D : Type*} (c : PangoData D) : List UInt8 := cstr c.macAddress.toList

/-- A slot after `memset`. -/
def PangoData.zero {D : Type*} [CDouble D] : PangoData D where
  macAddress := .fill 18 0
  xAxis := 0
  yAxis := 0
  clientFd := 0
  location := .fill 12 0
  price := CDouble.ofInt 0
  timeStartParking := 0
  connected := false

/-- A row of `your_table`. -/
structure Row where
  macAdr : List UInt8
  timeUsed : Int
  location : List UInt8
  deriving DecidableEq

/-- `SET TIME_USED = timeUsed`. -/
def Row.setTimeUsed (timeUsed : Int) (r : Row) : Row := { r with timeUsed }

/-- A row of `city_parking`. -/
structure PriceRow (D : Type*) where
  city : List UInt8
  price : D
  deriving DecidableEq

/-- What does not change while the server runs: how many slots the backup thread
scans, and the price table. -/
structure Config (D : Type*) where
  updateThreadMaxNumClients : ℕ := 10
  cityParking : List (PriceRow D)

/-- The rows of `your_table` a `WHERE MAC_ADR = 'mac'` selects. -/
def selectMac (mac : List UInt8) (yourTable : List Row) : List Row :=
  KeyedTable.select Row.macAdr mac yourTable

/-! ## SQLite -/

/-- A statement on `your_table` that changes it. -/
inductive Stmt
  | insert (row : Row)
  | update (timeUsed : Int) (mac : List UInt8)
  | delete (mac : List UInt8)
  deriving DecidableEq

namespace Stmt

/-- The MAC address a statement acts on. -/
def mac : Stmt → List UInt8
  | .insert row => row.macAdr
  | .update _ mac => mac
  | .delete mac => mac

/-- What the statement does to the table. -/
def apply : Stmt → List Row → List Row
  | .insert row, rows => KeyedTable.insert row rows
  | .update timeUsed mac, rows => KeyedTable.update Row.macAdr mac (Row.setTimeUsed timeUsed) rows
  | .delete mac, rows => KeyedTable.delete Row.macAdr mac rows

section Select

variable {rows rows' : List Row} {mac : List UInt8}

theorem select_insert (row : Row) :
    selectMac row.macAdr ((insert row).apply rows) = selectMac row.macAdr rows ++ [row] :=
  KeyedTable.select_insert_self rfl

theorem select_update (t : Int) :
    selectMac mac ((update t mac).apply rows) = (selectMac mac rows).map (Row.setTimeUsed t) :=
  KeyedTable.select_update_self fun _ => rfl

theorem select_delete : selectMac mac ((delete mac).apply rows) = [] :=
  KeyedTable.select_delete_self

/-- A statement leaves the rows of every other MAC address alone. -/
theorem select_apply_of_ne {stmt : Stmt} (h : stmt.mac ≠ mac) :
    selectMac mac (stmt.apply rows) = selectMac mac rows := by
  cases stmt with
  | insert row => exact KeyedTable.select_insert_of_ne h
  | update t m => exact KeyedTable.select_update_of_ne (fun _ => rfl) h.symm
  | delete m => exact KeyedTable.select_delete_of_ne h.symm

/-- What a statement leaves in the rows of a MAC address depends on these rows
only. -/
theorem select_apply_congr (stmt : Stmt) (h : selectMac mac rows = selectMac mac rows') :
    selectMac mac (stmt.apply rows) = selectMac mac (stmt.apply rows') := by
  by_cases hm : stmt.mac = mac
  · subst hm
    cases stmt with
    | insert row =>
      exact (select_insert row).trans
        ((congrArg (· ++ [row]) h).trans (select_insert row).symm)
    | update t m => exact (select_update t).trans ((congrArg _ h).trans (select_update t).symm)
    | delete m => exact select_delete.trans select_delete.symm
  · rw [select_apply_of_ne hm, select_apply_of_ne hm, h]

end Select

end Stmt

/-- `sqlite3_exec`: a failing statement has no effect. -/
def sqlite3Exec (fails : Bool) (stmt : Stmt) (yourTable : List Row) : List Row :=
  if fails then yourTable else stmt.apply yourTable

/-- What `sqlite3_step` of a `SELECT` returns. -/
inductive StepResult (ρ : Type*)
  | row (r : ρ)
  | done
  | error

/-- The first step of a `SELECT` that was prepared without an error: the first
row it selects, if there is one. -/
def sqlite3Step {ρ : Type*} (fails : Bool) (rows : List ρ) : StepResult ρ :=
  if fails then .error
  else match rows with
    | [] => .done
    | r :: _ => .row r

/-! ## The environment of a step -/

/-- What `recv` into the ten-byte buffer returns. -/
inductive Recv
  /-- The number of bytes read, which is neither 0 nor more than fit. -/
  | data (bytes : List UInt8) (size : 0 < bytes.length ∧ bytes.length ≤ 10)
  /-- 0: the peer has closed the connection. -/
  | closed
  /-- -1. -/
  | error
  deriving DecidableEq

/-- What the system and SQLite answer to the calls a thread makes in one step. -/
structure Env where
  recv : Recv := .closed
  /-- `tv_sec` as read by `gettimeofday`. -/
  now : Int := 0
  /-- Which SQLite calls of the step fail, by their place in it. -/
  sqlFails : List ℕ := []
  sendFails : Bool := false
  deriving DecidableEq

/-- Does the `k`-th SQLite call of the step fail? -/
def Env.fails (env : Env) (k : ℕ) : Bool := decide (k ∈ env.sqlFails)

/-- All SQLite calls of the step work. -/
theorem Env.fails_of_nil {env : Env} (h : env.sqlFails = []) (k : ℕ) : env.fails k = false := by
  simp [Env.fails, h]

/-! ## What can be seen from outside -/

/-- What the server sends to a client. -/
inductive Reply (D : Type*)
  /-- The twelve bytes of `location`. -/
  | location (bytes : Buf UInt8 12)
  /-- `pay[0]` and `pay[1]`. -/
  | payment (price seconds : D)
  /-- The five bytes of `err_msg`. -/
  | errMsg
  deriving DecidableEq

/-- The function that reads the clock. -/
inductive ClockSite
  | initializeAndGetStartTime
  | updateClientAndContinueTime
  | updateClientData
  | updateClients
  deriving DecidableEq

/-- An action of a thread. -/
inductive Event (D : Type*)
  | lock
  | unlock
  /-- `gettimeofday` returned `tvSec` to the function. -/
  | clock (site : ClockSite) (tvSec : Int)
  /-- `recv` returned these bytes. -/
  | recv (bytes : List UInt8)
  /-- `recv` returned 0. -/
  | hangup
  /-- The buffer was handed to `CRC_8_check`. -/
  | check (clientDataBuff : Frame)
  /-- `sqlite3_exec`, with or without success. -/
  | exec (stmt : Stmt) (ok : Bool)
  | send (reply : Reply D) (ok : Bool)
  | close
  deriving DecidableEq

/-- `pay` went out, whether or not it arrived. -/
def Event.isPayment {D : Type*} : Event D → Bool
  | .send (.payment ..) _ => true
  | _ => false

end Pango.Server
