import Pango.Server.Meter
import Pango.Server.Turns

/-!
# Slots, rows and the meter

The server spreads what a device owes over three places: the time used in the
row, the start time in the slot, and the clock.  Which of them counts changes on the way:
between two connections it is the row, during one the start time, which has been set back
by what the row held, and after its end the row again, until the bill has been sent.

The ledger says how they add up to what the meter shows, at every program point of the one
connection that is at work.

* `Stored`, `Running`, `Billing` — between connections, during one, and between
  its end and the bill.
* `Accounts` — which of them holds at which program point.
* `accounts_pangoClientStep` — **one step** of the connection at work keeps the
  accounts.
-/

namespace Pango.Server

open CInt

variable {D : Type*}

/-! ## The accounts -/

/-- The row of a parking. -/
def cityRow (m : Buf UInt8 6) (p : Parking) (timeUsed : Int) : Row :=
  ⟨macKey m, timeUsed, cityName p.x p.y⟩

/-- Between connections, the row holds the time owed. -/
def Stored (m : Buf UInt8 6) (M : Meter) (R : List Row) : Prop :=
  match M.parking with
  | none => R = []
  | some p => p.since = none ∧ R = [cityRow m p (toInt32 p.seconds)]

section Accounts

variable [CDouble D]

/-- While connection `i` is parking, its start time is set back by the time owed
before; what the row holds is of no account. -/
structure Running (cfg : Config D) (m : Buf UInt8 6) (once : Prop) (i : ℕ) (M : Meter)
    (R : List Row) (client : PangoData D) (p : Parking) (t₀ : Int) : Prop where
  parking : M.parking = some p
  since : p.since = some (i, t₀)
  time : client.timeStartParking = toInt32 (t₀ - p.seconds)
  price : client.price = cfg.priceOf (cityName p.x p.y) (CDouble.ofInt 0)
  row : ∃ timeUsed, R = [cityRow m p timeUsed]
  once : once → p.stays = []

/-- Between its end and the bill. -/
structure Billing (cfg : Config D) (m : Buf UInt8 6) (once : Prop) (i : ℕ) (M : Meter)
    (R : List Row) (client : PangoData D) (t : Thread) (p : Parking) : Prop where
  parking : M.parking = some p
  since : p.since = none
  bill : toInt32 (toInt32 t.endTime - client.timeStartParking) = toInt32 p.seconds
  price : client.price = cfg.priceOf (cityName p.x p.y) (CDouble.ofInt 0)
  row : ∃ timeUsed, R = [cityRow m p timeUsed]
  once : once → ∃ a b, p.stays = [⟨i, a, b⟩]

/-- The accounts of connection `i` at each program point; `settled` says that no
other connection has a row left to delete, and `once` that no parking is ever
resumed. -/
def Accounts (cfg : Config D) (m : Buf UInt8 6) (once : Prop) (i : ℕ) (settled : Prop) (M : Meter)
    (R : List Row) (client : PangoData D) (t : Thread) : Prop :=
  match t.pc with
  | .exist => M.x = client.xAxis ∧ M.y = client.yAxis ∧ (once → M.parking = none) ∧
      (settled → Stored m M R)
  | .retriev => ¬ once ∧ ∃ p, M.parking = some p ∧ p.since = none ∧
      R = [cityRow m p (toInt32 p.seconds)]
  | .init => M.x = client.xAxis ∧ M.y = client.yAxis ∧ M.parking = none ∧ R = []
  | .process => ∃ t₀, M.parking = some ⟨M.x, M.y, [], some (i, t₀)⟩ ∧
      client.timeStartParking = toInt32 t₀ ∧ cstr client.location.toList = cityName M.x M.y ∧ R = []
  | .sendLocation | .setConnected | .recv | .check | .lost | .close | .update =>
      ∃ p t₀, Running cfg m once i M R client p t₀
  | .pay => ∃ p, Billing cfg m once i M R client t p
  | _ => True

end Accounts

/-! ## The steps of the connection at work -/

section Step

variable [CDouble D] {cfg : Config D} {env : Env} {m : Buf UInt8 6} {once settled : Prop} {i : ℕ}
  {M : Meter} {client : PangoData D} {t : Thread} {rows : List Row} {r : Turn D}

/-- The meter after the actions of a step. -/
abbrev Meter.after (M : Meter) (i : ℕ) (events : List (Event D)) : Meter :=
  (events.map (Prod.mk i)).foldl Meter.step M

/-- What a connection that is at work leaves behind: accounts, if it still is; a
stored row, if it was disconnected; and nothing owed, if it has sent the bill. -/
def Leaves (cfg : Config D) (m : Buf UInt8 6) (once : Prop) (i : ℕ) (settled : Prop) (M : Meter)
    (t : Thread) (r : Turn D) : Prop :=
  let M' := M.after i r.events
  let R' := selectMac (macKey m) r.yourTable
  (r.thread.AtWork → Accounts cfg m once i settled M' R' r.client r.thread) ∧
    (t.pc = .update → Stored m M' R') ∧ (t.pc = .pay → M'.parking = none)

/-- The lookup leads to the resumption of a parking under way, or to the registration of a new
one. -/
theorem leaves_exist (hpc : t.pc = .exist) (hsql : env.sqlFails = []) (hsettled : settled)
    (hmac : client.mac = macKey m) (hch : t.checkedDatabase = false)
    (hA : Accounts cfg m once i settled M (selectMac (macKey m) rows) client t)
    (h : pangoClientStep cfg env client t rows = some r) : Leaves cfg m once i settled M t r := by
  simp only [Accounts, hpc] at hA
  obtain ⟨hx, hy, honce, hstored⟩ := hA
  have hstored := hstored hsettled
  simp only [pangoClientStep, hpc, Env.fails_of_nil hsql, clinetExistInDatabaseCheck_of_ok, hch,
    hmac] at h
  cases h
  refine ⟨fun _ => ?_, by simp [hpc], by simp [hpc]⟩
  unfold Stored at hstored
  cases hpark : M.parking with
  | none =>
    rw [hpark] at hstored
    simp [Accounts, hstored, afterLookup, newClient, hx, hy, hpark, Meter.after]
  | some p =>
    rw [hpark] at hstored
    obtain ⟨hsince, hrow⟩ := hstored
    have hno : ¬ once := fun ho => by
      rw [honce ho] at hpark
      cases hpark
    simp [Accounts, hrow, hpark, hsince, hno, Meter.after]

/-- The resumption sets the start time back. -/
theorem leaves_retriev (hpc : t.pc = .retriev) (hsql : env.sqlFails = [])
    (hmac : client.mac = macKey m) (hprice : client.price = CDouble.ofInt 0)
    (hA : Accounts cfg m once i settled M (selectMac (macKey m) rows) client t)
    (h : pangoClientStep cfg env client t rows = some r) : Leaves cfg m once i settled M t r := by
  simp only [Accounts, hpc] at hA
  obtain ⟨hno, p, hpark, hsince, hrow⟩ := hA
  have hrow' : selectMac client.mac rows = [cityRow m p (toInt32 p.seconds)] := by rw [hmac, hrow]
  have hloc : cstr (client.location.write 0 (cityName p.x p.y ++ [0])).toList = cityName p.x p.y :=
    cstr_locationFunc p.x p.y client.location
  simp only [pangoClientStep, hpc, retrievClientData_of_ok hsql hrow', ne_eq, reduceCtorEq,
    not_false_eq_true, if_true] at h
  cases h
  refine ⟨fun _ => ?_, by simp [hpc], by simp [hpc]⟩
  simp only [Accounts, afterLookup_true]
  refine ⟨{ p with since := some (i, env.now) }, env.now, ?_, rfl, ?_, ?_, ⟨_, hrow⟩,
    fun ho => absurd ho hno⟩
  · simp [Meter.after, Meter.step, Meter.start, hpark]
  · exact toInt32_sub_toInt32 env.now p.seconds
  · simp only [cityRow, hloc, hprice]

/-- The registration reads the clock. -/
theorem leaves_init (hpc : t.pc = .init)
    (hA : Accounts cfg m once i settled M (selectMac (macKey m) rows) client t)
    (h : pangoClientStep cfg env client t rows = some r) : Leaves cfg m once i settled M t r := by
  simp only [Accounts, hpc] at hA
  obtain ⟨hx, hy, hpark, hrow⟩ := hA
  simp only [pangoClientStep, hpc, initializeAndGetStartTime] at h
  cases h
  refine ⟨fun _ => ?_, by simp [hpc], by simp [hpc]⟩
  simp only [Accounts]
  refine ⟨env.now, ?_, rfl, ?_, hrow⟩
  · simp [Meter.after, Meter.step, Meter.start, hpark]
  · rw [cstr_locationFunc, ← hx, ← hy]
    simp [Meter.after, Meter.step, Meter.start, hpark]

theorem leaves_process (hpc : t.pc = .process) (hsql : env.sqlFails = [])
    (hmac : client.mac = macKey m) (hprice : client.price = CDouble.ofInt 0)
    (hA : Accounts cfg m once i settled M (selectMac (macKey m) rows) client t)
    (h : pangoClientStep cfg env client t rows = some r) : Leaves cfg m once i settled M t r := by
  simp only [Accounts, hpc] at hA
  obtain ⟨t₀, hpark, htime, hloc, hrow⟩ := hA
  have hM : M.after i [Event.lock (D := D), .exec (.insert (newRow client)) true, .unlock]
      = M := rfl
  simp only [pangoClientStep, hpc, processClientData_of_ok hsql, ne_eq, reduceCtorEq,
    not_false_eq_true, if_true] at h
  cases h
  refine ⟨fun _ => ?_, by simp [hpc], by simp [hpc]⟩
  simp only [Accounts, hM]
  refine ⟨_, t₀, hpark, rfl, ?_, ?_, ⟨0, ?_⟩, fun _ => rfl⟩
  · simpa [Parking.seconds] using htime
  · simp only [hloc, hprice]
  · have hins : selectMac (newRow client).macAdr ((Stmt.insert (newRow client)).apply rows)
        = selectMac (newRow client).macAdr rows ++ [newRow client] := Stmt.select_insert _
    have hkey : (newRow client).macAdr = macKey m := hmac
    rw [hkey, hrow] at hins
    rw [hins, newRow, hmac, hloc]
    rfl

omit [CDouble D] in
theorem after_stop (now : Int) (stmt : Stmt) (ok : Bool) {p : Parking} {t₀ : Int}
    (hpark : M.parking = some p) (hsince : p.since = some (i, t₀)) :
    (M.after i (.lock :: [Event.clock (D := D) .updateClientData now, .exec stmt ok] ++
     [.unlock])).parking
      = some ⟨p.x, p.y, p.stays ++ [⟨i, t₀, now⟩], none⟩ := by
  obtain ⟨x, y, stays, since⟩ := p
  subst hsince
  show (M.stop now).parking = _
  rw [Meter.stop, hpark]

/-- At the end of a stay the row is made to hold what the meter shows. -/
theorem stop_running {p : Parking} {t₀ : Int} (hmac : client.mac = macKey m)
    (hR : Running cfg m once i M (selectMac (macKey m) rows) client p t₀) (now : Int) :
    toInt32 (now - client.timeStartParking)
        = toInt32 (Parking.mk p.x p.y (p.stays ++ [⟨i, t₀, now⟩]) none).seconds ∧
      selectMac (macKey m) ((Stmt.update (secondsUsed client now) client.mac).apply rows)
        = [cityRow m p
          (toInt32 (Parking.mk p.x p.y (p.stays ++ [⟨i, t₀, now⟩]) none).seconds)] := by
  have hsec : (Parking.mk p.x p.y (p.stays ++ [⟨i, t₀, now⟩]) none).seconds
      = p.seconds + (now - t₀) := Parking.seconds_stop p.x p.y p.stays ⟨i, t₀, now⟩ none
  have hbill : toInt32 (now - client.timeStartParking)
      = toInt32 (Parking.mk p.x p.y (p.stays ++ [⟨i, t₀, now⟩]) none).seconds := by
    rw [hR.time, toInt32_sub_toInt32, hsec]
    congr 1
    ring
  refine ⟨hbill, ?_⟩
  obtain ⟨timeUsed, hrow⟩ := hR.row
  rw [hmac, Stmt.select_update, hrow, secondsUsed_eq, hbill]
  rfl

theorem leaves_update (hpc : t.pc = .update) (hsql : env.sqlFails = [])
    (hmac : client.mac = macKey m)
    (hA : Accounts cfg m once i settled M (selectMac (macKey m) rows) client t)
    (h : pangoClientStep cfg env client t rows = some r) : Leaves cfg m once i settled M t r := by
  simp only [Accounts, hpc] at hA
  obtain ⟨p, t₀, hR⟩ := hA
  have hpark := after_stop (D := D) env.now (.update (secondsUsed client env.now) client.mac) true
    hR.parking hR.since
  simp only [pangoClientStep, hpc, updateClientData, sqlite3Exec, Env.fails_of_nil hsql,
    Bool.not_false, Bool.false_eq_true, if_false] at h
  cases h
  refine ⟨fun hw => absurd hw.2 (by simp [Pc.over]), fun _ => ?_, by simp [hpc]⟩
  unfold Stored
  rw [hpark]
  exact ⟨rfl, (stop_running hmac hR env.now).2⟩

theorem leaves_close (hpc : t.pc = .close) (hsql : env.sqlFails = [])
    (hmac : client.mac = macKey m) (hst : t.status = closeApp)
    (hA : Accounts cfg m once i settled M (selectMac (macKey m) rows) client t)
    (h : pangoClientStep cfg env client t rows = some r) : Leaves cfg m once i settled M t r := by
  simp only [Accounts, hpc] at hA
  obtain ⟨p, t₀, hR⟩ := hA
  have hpark := after_stop (D := D) env.now (.update (secondsUsed client env.now) client.mac) true
    hR.parking hR.since
  rw [pangoClientStep_close hpc hst hsql] at h
  cases h
  refine ⟨fun _ => ?_, by simp [hpc], by simp [hpc]⟩
  obtain ⟨hbill, hrow⟩ := stop_running hmac hR env.now
  simp only [Accounts]
  refine ⟨_, hpark, rfl, ?_, hR.price, ⟨_, hrow⟩, fun ho => ⟨t₀, env.now, ?_⟩⟩
  · rw [toInt32_toUInt32, toInt32_toInt32_sub]
    exact hbill
  · rw [hR.once ho, List.nil_append]

theorem bill_pay (hpc : t.pc = .pay) {p : Parking}
    (hB : Billing cfg m once i M (selectMac (macKey m) rows) client t p)
    (h : pangoClientStep cfg env client t rows = some r) :
    r.events = [.send (.payment
      (CDouble.mul (cfg.priceOf (cityName p.x p.y) (CDouble.ofInt 0))
       (CDouble.ofInt (toInt32 p.seconds)))
      (CDouble.ofInt (toInt32 p.seconds))) (!env.sendFails)] := by
  simp only [pangoClientStep, hpc, calculateAndSendPaymentData, hB.bill, hB.price] at h
  cases h
  rfl

/-- A payment ends the parking. -/
theorem leaves_pay (hpc : t.pc = .pay) (h : pangoClientStep cfg env client t rows = some r) :
    Leaves cfg m once i settled M t r := by
  simp only [pangoClientStep, hpc, calculateAndSendPaymentData] at h
  cases h
  exact ⟨fun hw => absurd hw.2 (by simp [Pc.over]), by simp [hpc], fun _ => rfl⟩

theorem leaves_running (hd : Drives m env t) (hw : t.AtWork) (hshape : Shape m client t)
    (hpc : t.pc = .sendLocation ∨ t.pc = .setConnected ∨ t.pc = .recv ∨ t.pc = .check ∨
     t.pc = .lost) (hA : Accounts cfg m once i settled M (selectMac (macKey m) rows) client t)
    (h : pangoClientStep cfg env client t rows = some r) : Leaves cfg m once i settled M t r := by
  obtain ⟨-, hH, -⟩ := hshape.2 hw.1
  -- neither the meter nor the rows move, and the slot keeps its start time and its price
  have hkeep : ∀ p t₀, Running cfg m once i M (selectMac (macKey m) rows) client p t₀ →
      M.after i r.events = M → r.yourTable = rows →
      r.client.timeStartParking = client.timeStartParking → r.client.price = client.price →
      (∃ p t₀, Running cfg m once i (M.after i r.events) (selectMac (macKey m) r.yourTable)
        r.client p t₀) := by
    intro p t₀ hR hM htable htime hprice
    rw [hM, htable]
    exact ⟨p, t₀, hR.parking, hR.since, htime.trans hR.time, hprice.trans hR.price, hR.row, hR.once⟩
  rcases hpc with hpc | hpc | hpc | hpc | hpc <;> simp only [Accounts, hpc] at hA <;>
    obtain ⟨p, t₀, hR⟩ := hA
  · simp only [pangoClientStep, hpc] at h
    cases h
    exact ⟨fun _ => hkeep p t₀ hR rfl rfl rfl rfl, by simp [hpc], by simp [hpc]⟩
  · simp only [pangoClientStep, hpc] at h
    cases h
    exact ⟨fun _ => hkeep p t₀ hR rfl rfl rfl rfl, by simp [hpc], by simp [hpc]⟩
  · simp only [Heard, hpc] at hH
    have hd := hd hpc
    rw [if_neg (by rw [hH.2]; decide)] at hd
    rcases hd with hclosed | ⟨f, hf, -⟩
    · simp only [pangoClientStep, hpc, hclosed] at h
      cases h
      exact ⟨fun _ => hkeep p t₀ hR rfl rfl rfl rfl, by simp [hpc], by simp [hpc]⟩
    · rw [pangoClientStep_recvFrame hpc (Recv.eq_recvFrame hf)] at h
      cases h
      exact ⟨fun _ => hkeep p t₀ hR rfl rfl rfl rfl, by simp [hpc], by simp [hpc]⟩
  · simp only [Heard, hpc] at hH
    obtain ⟨-, hst, hv, hclose⟩ := hH
    obtain ⟨b, -, hstep⟩ := pangoClientStep_check cfg env client rows hpc hv (by rw [hst]; decide)
    rw [hstep] at h
    cases h
    have hsw : switchStatus t.clientDataBuff.status = .close := by
      rw [hclose, switchStatus_closeApp]
    have hM : M.after i [Event.check (D := D) t.clientDataBuff] = M :=
      if_neg (by rw [hclose]; decide)
    refine ⟨fun _ => ?_, by simp [hpc], by simp [hpc]⟩
    simp only [Accounts, hsw]
    exact hkeep p t₀ hR hM rfl rfl rfl
  · simp only [Heard, hpc] at hH
    rw [pangoClientStep_lost hpc hH.2] at h
    cases h
    exact ⟨fun _ => hkeep p t₀ hR rfl rfl rfl rfl, by simp [hpc], by simp [hpc]⟩

/-- **One step** of the connection at work keeps the accounts. -/
theorem accounts_pangoClientStep (hsql : env.sqlFails = []) (hd : Drives m env t)
    (hsettled : t.pc = .exist → settled) (hw : t.AtWork) (hshape : Shape m client t)
    (hA : Accounts cfg m once i settled M (selectMac (macKey m) rows) client t)
    (h : pangoClientStep cfg env client t rows = some r) : Leaves cfg m once i settled M t r := by
  obtain ⟨hmac, hH, -⟩ := hshape.2 hw.1
  cases hpc : t.pc with
  | exist =>
    simp only [Heard, hpc] at hH
    exact leaves_exist hpc hsql (hsettled hpc) hmac hH.2.2.2 hA h
  | retriev =>
    simp only [Heard, hpc] at hH
    exact leaves_retriev hpc hsql hmac hH.2.1 hA h
  | init => exact leaves_init hpc hA h
  | process =>
    simp only [Heard, hpc] at hH
    exact leaves_process hpc hsql hmac hH.2.1 hA h
  | sendLocation | setConnected | recv | check | lost =>
    exact leaves_running hd hw hshape (by simp [hpc]) hA h
  | close =>
    simp only [Heard, hpc] at hH
    exact leaves_close hpc hsql hmac hH.2 hA h
  | update => exact leaves_update hpc hsql hmac hA h
  | pay => exact leaves_pay hpc h
  | sendErrMsg => simp only [Heard, hpc] at hH
  | remove | closeFd | done =>
    have := hw.2
    rw [hpc] at this
    cases this

end Step

end Pango.Server
