import Pango.Bbb.ClientFunc
import Pango.Server.ClientThreadFunc
import Pango.Server.DbUpdate
import Pango.Server.NewClient

/-!
# From the clock to the receipt

The seconds between two readings of `tv_sec` are computed three times on the
server: by `update_client_data`, by `update_clients` and for the bill.  The first
subtracts in `uint32_t`; the two others subtract in `int`.  All of them mean the same
number, so one asks for which readings they compute it, and whether it is what the
receipt of the BBB shows in the end.

* `elapsedRight_iff` — the three values are right, and no difference of two `int`s
  leaves the range of `int`, exactly as long as no reading passes from `2 ^ 31 - 1` to
  `- 2 ^ 31` in between.
* `overflow_at_turn` — two readings a second apart that do.
* `showsTime_iff` — the BBB splits the bill's seconds into hours, minutes and
  seconds, and takes the hours modulo 24: receipts show the time they are for, and tell
  two times apart, exactly for parkings of less than a day.
* `day_shown_as_nothing` — a day of parking, shown as no time at all.
-/

namespace Pango.Joint

open Pango.Server Pango.Bbb

variable {D : Type*} [CDouble D]

/-! ## The seconds of a parking -/

/-- A slot whose parking started at the reading `s`. -/
def startedAt (s : Int) (client : PangoData D) : PangoData D :=
  initializeAndGetStartTime { now := s } client

/-- **The elapsed time is right**: what the three functions make of the readings `s` and
`env.now` is their difference, and no difference of two `int`s leaves the range of `int`. -/
structure ElapsedRight (s : Int) (env : Server.Env) (client : PangoData D) (yourTable : List Row) :
    Prop where
  /-- The UPDATE of `update_client_data`. -/
  written : .exec (.update (env.now - s) client.mac) (!env.fails 0)
    ∈ (updateClientData env (startedAt s client) yourTable).events
  /-- The UPDATE of `update_clients`. -/
  backedUp : backupStmt (startedAt s client) env.now = .update (env.now - s) client.mac
  /-- The bill, from the end time `update_client_data` has recorded. -/
  billed : calculateAndSendPaymentData (startedAt s client).timeStartParking
      (CInt.toInt32 (updateClientData env (startedAt s client) yourTable).endTime) client.price
    = .payment (CDouble.mul client.price (CDouble.ofInt (env.now - s)))
        (CDouble.ofInt (env.now - s))
  /-- `current_time - client[i].time_start_parking`. -/
  backup_inInt32 :
    CInt.InInt32 (CInt.toInt32 env.now - (startedAt s client).timeStartParking)
  /-- `end_time - start_time`. -/
  bill_inInt32 : CInt.InInt32
    (CInt.toInt32 (updateClientData env (startedAt s client) yourTable).endTime
      - (startedAt s client).timeStartParking)

/-- No reading after `s`, up to and including `e`, is the first of a new turn of `int`. -/
def SameTurn (s e : Int) : Prop :=
  (s + 2147483648) / 4294967296 = (e + 2147483648) / 4294967296

instance (s e : Int) : Decidable (SameTurn s e) := inferInstanceAs (Decidable (_ = _))

/-- The difference of two readings less than `2 ^ 31` apart, kept as `int`s, stays in the
range of `int` exactly if they are in one turn. -/
theorem inInt32_toInt32_sub_iff {s e : Int} (hse : s ≤ e) (hlt : e - s < 2147483648) :
    CInt.InInt32 (CInt.toInt32 e - CInt.toInt32 s) ↔ SameTurn s e := by
  unfold CInt.InInt32 CInt.toInt32 SameTurn
  omega

/-- Modulo `2 ^ 32` the difference of such readings is always right. -/
theorem toInt32_sub_of_close {s e : Int} (hse : s ≤ e) (hlt : e - s < 2147483648) :
    CInt.toInt32 (e - s) = e - s := by
  refine CInt.toInt32_of_mem ⟨?_, hlt⟩
  omega

omit [CDouble D] in
theorem secondsUsed_startedAt {s e : Int} (hse : s ≤ e) (hlt : e - s < 2147483648)
    (client : PangoData D) : secondsUsed (startedAt s client) e = e - s := by
  rw [secondsUsed_eq, startedAt, initializeAndGetStartTime, CInt.toInt32_sub_toInt32,
    toInt32_sub_of_close hse hlt]

omit [CDouble D] in
theorem secondsBackedUp_startedAt {s e : Int} (hse : s ≤ e) (hlt : e - s < 2147483648)
    (client : PangoData D) : secondsBackedUp (startedAt s client) e = e - s := by
  rw [secondsBackedUp, startedAt, initializeAndGetStartTime, CInt.toInt32_toInt32_sub,
    CInt.toInt32_sub_toInt32, toInt32_sub_of_close hse hlt]

/-- **Exactly when the elapsed time is right.** -/
theorem elapsedRight_iff {s : Int} {env : Server.Env} (hse : s ≤ env.now)
    (hlt : env.now - s < 2147483648) (client : PangoData D) (yourTable : List Row) :
    ElapsedRight s env client yourTable ↔ SameTurn s env.now := by
  have hmac : (startedAt s client).mac = client.mac := rfl
  have hstart : (startedAt s client).timeStartParking = CInt.toInt32 s := rfl
  have hend : CInt.toInt32 (updateClientData env (startedAt s client) yourTable).endTime
      = CInt.toInt32 env.now := CInt.toInt32_toUInt32 env.now
  constructor
  · intro h
    exact (inInt32_toInt32_sub_iff hse hlt).mp h.backup_inInt32
  · intro hturn
    have hrange := (inInt32_toInt32_sub_iff hse hlt).mpr hturn
    refine ⟨?_, ?_, ?_, ?_, ?_⟩
    · rw [updateClientData, secondsUsed_startedAt hse hlt, hmac]
      simp
    · rw [backupStmt, secondsBackedUp_startedAt hse hlt, hmac]
    · rw [hend, hstart, calculateAndSendPaymentData, CInt.toInt32_toInt32_sub,
        CInt.toInt32_sub_toInt32, toInt32_sub_of_close hse hlt]
    · rw [hstart]
      exact hrange
    · rw [hend, hstart]
      exact hrange

/-- A minute, long before the end of the turn. -/
theorem elapsedRight_of_minute :
    ElapsedRight 100 { now := 160 } (.zero : PangoData Int) [] :=
  (elapsedRight_iff (by decide) (by decide) .zero []).mpr (by decide)

/-- One second, over the end of the turn: `current_time - time_start_parking` is
`- 2 ^ 31 - (2 ^ 31 - 1)`. -/
theorem overflow_at_turn : ¬ ElapsedRight 2147483647 { now := 2147483648 }
    (.zero : PangoData Int) [] := by
  intro h
  exact absurd h.backup_inInt32 (by decide)

/-! ## The seconds on the receipt -/

/-- The time on the receipt is `n` seconds, in the usual form. -/
def ShowsTime (receipt : Receipt D) (n : Int) : Prop :=
  3600 * receipt.hour + 60 * receipt.minutes + receipt.seconds = n ∧
    (0 ≤ receipt.minutes ∧ receipt.minutes ≤ 59) ∧ (0 ≤ receipt.seconds ∧ receipt.seconds ≤ 59)

/-- Two receipts show the same time. -/
def ShownAlike (receipt receipt' : Receipt D) : Prop :=
  receipt.hour = receipt'.hour ∧ receipt.minutes = receipt'.minutes ∧
    receipt.seconds = receipt'.seconds

omit [CDouble D] in
/-- Receipts that both show their time do not confuse two times. -/
theorem ShowsTime.eq_of_shownAlike {receipt receipt' : Receipt D} {n n' : Int}
    (h : ShowsTime receipt n) (h' : ShowsTime receipt' n') (hsame : ShownAlike receipt receipt') :
    n = n' := by
  obtain ⟨hhour, hminutes, hseconds⟩ := hsame
  rw [← h.1, ← h'.1, hhour, hminutes, hseconds]

/-- The bill is for the difference of its two times. -/
theorem seconds_of_payment {startTime endTime : Int} {price : D} {payment : D × D}
    (hpay : calculateAndSendPaymentData startTime endTime price = .payment payment.1 payment.2)
    (hpos : 0 ≤ endTime - startTime) (hlt : endTime - startTime < 2147483648) :
    CDouble.toInt payment.2 = endTime - startTime := by
  have hrange : CInt.InInt32 (endTime - startTime) := by
    refine ⟨?_, hlt⟩
    omega
  rw [calculateAndSendPaymentData, CInt.toInt32_of_mem hrange] at hpay
  rw [← (Reply.payment.inj hpay).2]
  exact CDouble.toInt_ofInt _ hrange

/-- A receipt shows the time of its payment exactly if this is less than a day. -/
theorem showsTime_finalPrice_iff {payment : D × D} {n : Int} (hn : CDouble.toInt payment.2 = n)
    (hpos : 0 ≤ n) : ShowsTime (finalPriceForCostumer payment) n ↔ n < 86400 := by
  -- on durations the divisions of `int` are the usual ones
  have hminutes : 0 ≤ n / 60 := by omega
  have hhours : 0 ≤ n / 60 / 60 := by omega
  unfold ShowsTime finalPriceForCostumer
  simp only [hn, Int.tdiv_eq_ediv_of_nonneg hpos, Int.tdiv_eq_ediv_of_nonneg hminutes,
    Int.tmod_eq_emod_of_nonneg hpos, Int.tmod_eq_emod_of_nonneg hminutes,
    Int.tmod_eq_emod_of_nonneg hhours]
  omega

/-- **Exactly when the receipt shows the billed time**: two receipts show the seconds they
are for, and different times for different seconds, if and only if both parkings were
shorter than a day. -/
theorem showsTime_iff {startTime endTime startTime' endTime' : Int} {price price' : D}
    {payment payment' : D × D}
    (hpay : calculateAndSendPaymentData startTime endTime price = .payment payment.1 payment.2)
    (hpay' : calculateAndSendPaymentData startTime' endTime' price'
      = .payment payment'.1 payment'.2)
    (hpos : 0 ≤ endTime - startTime) (hlt : endTime - startTime < 2147483648)
    (hpos' : 0 ≤ endTime' - startTime') (hlt' : endTime' - startTime' < 2147483648) :
    let n := CDouble.toInt payment.2
    let n' := CDouble.toInt payment'.2
    let receipt := finalPriceForCostumer payment
    let receipt' := finalPriceForCostumer payment'
    (ShowsTime receipt n ∧ ShowsTime receipt' n' ∧ (ShownAlike receipt receipt' → n = n'))
      ↔ endTime - startTime < 86400 ∧ endTime' - startTime' < 86400 := by
  have hn := seconds_of_payment hpay hpos hlt
  have hn' := seconds_of_payment hpay' hpos' hlt'
  have hshows := showsTime_finalPrice_iff hn hpos
  have hshows' := showsTime_finalPrice_iff hn' hpos'
  dsimp only
  rw [hn, hn']
  constructor
  · rintro ⟨h, h', -⟩
    exact ⟨hshows.mp h, hshows'.mp h'⟩
  · rintro ⟨hday, hday'⟩
    have h := hshows.mpr hday
    have h' := hshows'.mpr hday'
    exact ⟨h, h', h.eq_of_shownAlike h'⟩

/-- An hour, a minute and a second, and a minute less than a day. -/
theorem showsTime_of_hour :
    ShowsTime (finalPriceForCostumer ((3661, 3661) : Int × Int)) 3661 ∧
      ShowsTime (finalPriceForCostumer ((86340, 86340) : Int × Int)) 86340 := by
  have h := (@showsTime_iff Int _ 100 3761 0 86340 1 1 (3661, 3661) (86340, 86340) (by decide)
    (by decide) (by decide) (by decide) (by decide) (by decide)).mpr (by decide)
  exact ⟨h.1, h.2.1⟩

/-- A day is shown as no time at all, like a parking that ends in the second in which it
started. -/
theorem day_shown_as_nothing :
    calculateAndSendPaymentData 0 86400 (1 : Int) = .payment 86400 86400 ∧
      ¬ ShowsTime (finalPriceForCostumer ((86400, 86400) : Int × Int)) 86400 ∧
      ShownAlike (finalPriceForCostumer ((86400, 86400) : Int × Int))
        (finalPriceForCostumer ((0, 0) : Int × Int)) := by
  unfold ShowsTime ShownAlike
  decide

end Pango.Joint
