import Pango.Joint.Machine
import Pango.Server.Handling

/-!
# How the BBB reads the server's replies

The BBB hands its buffers to `recv` again and again without clearing them, and
looks at the text or the numbers in them afterwards, however many bytes have come.

* `readsRight_iff` — a reply to a start is read as it was meant, whatever the buffer
  held, exactly if it is a location or finds a zero behind its five bytes.
* `connected_of_errMsg` — an `err_msg` taken for a city.
* `start_informed_iff` — a start on a fresh connection is either accepted, at the price of
  a real city and with the device told so, or refused, exactly if the place it comes to
  has a price and is none for `location_func` to complain about.
* `started_off_map` — one from outside the map.
* `receipt_real_iff` — a receipt is one for a payment, and shows it, exactly if the close
  comes to a payment that is sent.
* `receipt_of_nothing` — a receipt for a connection that was closed without a word.
-/

namespace Pango.Joint

open Bbb (IsConnected crc8ServerSideValue)
open Server

variable {D : Type*}

/-! ## Replies to a start -/

/-- What the BBB makes of a reply that is received whole into `location`. -/
def readReply (location : Buf UInt8 12) (status : UInt8) (bytes : List UInt8) :
    UInt8 × IsConnected := crc8ServerSideValue status (location.write 0 bytes)

/-- An `err_msg` is taken for an error, and a city that is not the text `ERROR` for a
parking that has started. -/
def ReadsRight (location : Buf UInt8 12) (status : UInt8) : Reply D → Prop
  | .errMsg => readReply location status errorText = (Bbb.AppStatus.stayOn, .notConnected)
  | .location city => 0 ∈ city.toList → cstr city.toList ≠ errorText →
      readReply location status city.toList = (status, .connected)
  | .payment .. => True

theorem ne_zero_of_mem_errorText : ∀ c ∈ errorText, c ≠ 0 := by
  rintro c hc rfl
  exact absurd hc (by decide)

/-- What is read of a text is decided by the text alone. -/
theorem crc8ServerSideValue_eq_iff {status : UInt8} {location : Buf UInt8 12} :
    crc8ServerSideValue status location = (Bbb.AppStatus.stayOn, .notConnected)
      ↔ cstr location.toList = errorText := by
  by_cases h : cstr location.toList = errorText
  · exact iff_of_true (if_neg (not_not.mpr h)) h
  · have hread : crc8ServerSideValue status location = (status, .connected) := if_pos h
    rw [hread]
    exact iff_of_false (fun heq => by cases (Prod.mk.inj heq).2) h

/-- The five bytes of `err_msg` end where the buffer holds a zero. -/
theorem readReply_errMsg_iff (location : Buf UInt8 12) (status : UInt8) :
    readReply location status errorText = (Bbb.AppStatus.stayOn, .notConnected)
      ↔ location.getD 5 0 = 0 := by
  have hfit : Buf.Fits 12 0 errorText := (by decide : 5 ≤ 12)
  have hlen : 5 < location.toList.length := by rw [location.length_eq]; decide
  have hdrop : location.toList.drop (0 + errorText.length)
      = location.toList[5] :: location.toList.drop 6 := List.drop_eq_getElem_cons hlen
  rw [readReply, crc8ServerSideValue_eq_iff, Buf.write_toList hfit, List.take_zero,
    List.nil_append, hdrop, cstr_append_cons_eq_iff ne_zero_of_mem_errorText, Buf.getD,
    List.getD_eq_getElem _ _ hlen]

/-- A location replaces the whole buffer. -/
theorem readReply_location (location city : Buf UInt8 12) (status : UInt8)
    (h : cstr city.toList ≠ errorText) :
    readReply location status city.toList = (status, .connected) := by
  rw [readReply, Buf.write_full]
  exact if_pos h

/-- **How a reply is read**, whatever the buffer held: as it was meant, exactly if it is
not an `err_msg` behind which the buffer goes on. -/
theorem readsRight_iff (location : Buf UInt8 12) (status : UInt8) (reply : Reply D) :
    ReadsRight location status reply ↔ (reply = .errMsg → location.getD 5 0 = 0) := by
  cases reply with
  | errMsg => simpa [ReadsRight] using readReply_errMsg_iff location status
  | location city =>
    exact iff_of_true (fun _ h => readReply_location location city status h)
      fun h => by cases h
  | payment price seconds => exact iff_of_true trivial fun h => by cases h

/-- **An error taken for a city.**  It is not true that a reply is read right whatever the
buffer held: after a parking in Jerusalem an `err_msg` reads `ERRORalem`. -/
theorem connected_of_errMsg :
    ¬ ∀ (location : Buf UInt8 12) (status : UInt8) (reply : Reply Int),
      ReadsRight location status reply := by
  intro hclaim
  have hread : readReply (locationFunc 10 100 (.fill 12 0)) Bbb.AppStatus.on errorText
      = (Bbb.AppStatus.stayOn, .notConnected) := hclaim _ _ .errMsg
  exact absurd hread (by decide)

/-! ## Tables the server writes -/

/-- Every row's location is one that `location_func` prints. -/
def Written (rows : List Row) : Prop := ∀ row ∈ rows, ∃ x y, row.location = cityName x y

section Written

variable {rows rows' : List Row}

/-- Only insertions bring new locations into the table. -/
theorem Written.apply (hw : Written rows) {stmt : Stmt}
    (hins : ∀ row, stmt = .insert row → ∃ x y, row.location = cityName x y) :
    Written (stmt.apply rows) := by
  cases stmt with
  | insert row =>
    intro row' hrow'
    rcases List.mem_append.mp hrow' with hrow' | hrow'
    · exact hw row' hrow'
    · exact List.mem_singleton.mp hrow' ▸ hins row rfl
  | update timeUsed mac =>
    intro row' hrow'
    obtain ⟨row, hrow, rfl⟩ := List.mem_map.mp hrow'
    split_ifs
    · exact hw row hrow
    · exact hw row hrow
  | delete mac => exact fun row hrow => hw row (List.mem_of_mem_filter hrow)

/-- A backup pass brings none either. -/
theorem Written.updateClients (hw : Written rows) (n : ℕ) (client : ℕ → PangoData D)
    (clock : ℕ → Int) (sqlFails : List ℕ) :
    Written (updateClients n client clock sqlFails rows) := by
  intro row hrow
  have hmem := List.mem_map_of_mem (f := fun r : Row => (r.macAdr, r.location)) hrow
  rw [map_updateClients] at hmem
  obtain ⟨old, hold, heq⟩ := List.mem_map.mp hmem
  rw [← (Prod.mk.inj heq).2]
  exact hw old hold

variable [CDouble D] {cfg : Server.Config D} {env : Env} {client : PangoData D} {t : Thread}
  {r : Turn D}

/-- Before its row is inserted, a slot holds a location that `location_func` has printed. -/
def Located (client : PangoData D) (t : Thread) : Prop :=
  t.pc = .process → ∃ x y, cstr client.location.toList = cityName x y

theorem located_pangoClientStep (h : pangoClientStep cfg env client t rows = some r) :
    Located r.client r.thread := by
  intro hpc
  have hinit : t.pc = .init := by
    have hnext := pc_pangoClientStep h
    rw [hpc] at hnext
    cases hpc' : t.pc with
    | init => rfl
    | _ => simp [hpc', Pc.next] at hnext
  simp only [pangoClientStep, hinit] at h
  cases h
  exact ⟨_, _, cstr_locationFunc client.xAxis client.yAxis client.location⟩

/-- Every location in the table and in a slot before its insertion has been printed so. -/
def WrittenSoFar (s : State D) : Prop :=
  Written s.yourTable ∧ Locally (fun _ client t _ => Located client t) s

theorem writtenSoFar_start (hrows : Written rows) : WrittenSoFar (.start rows : State D) :=
  ⟨hrows, locally_start rows⟩

theorem writtenSoFar_step {s s' : State D} {l : Server.Label} (h : WrittenSoFar s)
    (hs : (server cfg).step s l = some s') : WrittenSoFar s' := by
  obtain ⟨hw, hloc⟩ := h
  refine ⟨?_, locally_step hs (fun _ _ hpc => nomatch hpc)
    (fun _ _ _ _ _ _ _ hr => located_pangoClientStep hr) hloc⟩
  rcases step_cases hs with
      ⟨i, fd, -, -, rfl⟩ | ⟨i, env, t, r, -, ht, hr, rfl⟩ | ⟨c, f, -, rfl⟩
  · exact hw
  · rcases yourTable_pangoClientStep hr with heq | ⟨hpc, heq⟩ | ⟨-, heq⟩ | ⟨-, heq⟩
    · exact (congrArg Written heq).mpr hw
    · refine (congrArg Written heq).mpr (hw.apply fun row hrow => ?_)
      cases hrow
      exact hloc.1 i t ht hpc
    · exact (congrArg Written heq).mpr (hw.apply fun _ hrow => nomatch hrow)
    · exact (congrArg Written heq).mpr (hw.apply fun _ hrow => nomatch hrow)
  · exact hw.updateClients _ _ _ _

/-- **The server keeps its table so**, in every run. -/
theorem written_of_exec {C : State D → Server.Label → Prop} {ls : List Server.Label} {s : State D}
    (h : (server cfg).Exec C (.start rows) ls s) (hrows : Written rows) :
    Written s.yourTable :=
  (h.invariant (writtenSoFar_start hrows) fun _ _ _ _ hJ hs => writtenSoFar_step hJ hs).1

end Written

/-! ## A start on a fresh connection -/

/-- The replies handed to `send`. -/
def replies (events : List (Event D)) : List (Reply D) := events.filterMap fun
  | .send reply _ => some reply
  | _ => none

/-- Where the parking of the device of a frame is: at the location of its row, or else in the
city of the frame's coordinates. -/
def placeOf (f : Frame) (rows : List Row) : List UInt8 :=
  ((selectMac (macText f) rows).head?.map Row.location).getD (cityName f.x f.y)

/-- The start is accepted: the thread stays in its loop and counts the time, at the price of
the location of the device's row, and the BBB, with a zeroed buffer, is told that the parking
has started. -/
structure Accepted (cfg : Server.Config D) (f : Frame) (s : Turn D) : Prop where
  stays : s.thread.pc = .recv
  connected : s.client.connected = true
  priced : ∃ row ∈ (selectMac (macText f) s.yourTable).head?,
    ∃ entry ∈ (selectCity row.location cfg.cityParking).head?, s.client.price = entry.price
  told : ∃ city, replies s.events = [.location city] ∧
    ∀ status, readReply (.fill 12 0) status city.toList = (status, .connected)

/-- The start is refused. -/
structure Refused (rows : List Row) (s : Turn D) : Prop where
  kept : s.yourTable = rows
  notConnected : s.client.connected = false
  told : replies s.events = [.errMsg]

/-- The slot is connected with a parking at `place`, where the device's row is; its price is that
of the place, or `old` if there is none; and the place has been sent. -/
structure ParksAt (cfg : Server.Config D) (f : Frame) (place : List UInt8) (old : D)
    (s : Turn D) : Prop where
  stays : s.thread.pc = .recv
  connected : s.client.connected = true
  row : (selectMac (macText f) s.yourTable).head?.map Row.location = some place
  price : s.client.price = cfg.priceOf place old
  told : ∃ city : Buf UInt8 12, replies s.events = [.location city] ∧ cstr city.toList = place

section Start

variable [CDouble D] {cfg : Server.Config D} {answers : Answers} {client : PangoData D}
  {t : Thread} {rows : List Row} {f : Frame}

/-- **Where nothing fails, a first start leads to a parking**, of a new device or of one with a
row. -/
theorem parksAt_handleFrame (hsql : ∀ pc, (answers pc).sqlFails = []) (hv : CrcValid f)
    (hst : f.status = startApp) (ht : t.status ≠ crc8TestFailed) (hch : t.checkedDatabase = false)
    (hrows : Written rows) :
    ParksAt cfg f (placeOf f rows) client.price (handleFrame cfg answers client t rows f) := by
  have hfound : found answers (macText f) t rows = !(selectMac (macText f) rows).isEmpty := by
    simp [found, clinetExistInDatabaseCheck_eq, Env.fails_of_nil (hsql .exist), hch]
  cases hsel : selectMac (macText f) rows with
  | nil =>
    rw [hsel] at hfound
    obtain ⟨m, hm, heq⟩ := handleFrame_not_found cfg answers client rows hv hst ht hfound hch
    set new := initializeAndGetStartTime (answers .init) (client.stored m f) with hnew
    have hcity : cstr new.location.toList = cityName f.x f.y := cstr_locationFunc f.x f.y _
    have hmac : (newRow new).macAdr = macText f := hm
    have hselect : selectMac _ ((Stmt.insert (newRow new)).apply rows) = _ :=
      Stmt.select_insert (newRow new)
    rw [hmac, hsel] at hselect
    have hplace : placeOf f rows = cityName f.x f.y := by simp [placeOf, hsel]
    simp only [processClientData_of_ok (hsql .process), reduceCtorEq, if_false] at heq
    rw [heq, hplace]
    refine ⟨rfl, rfl, ?_, congrArg (cfg.priceOf · _) hcity, ⟨_, rfl, hcity⟩⟩
    dsimp only
    rw [hselect]
    exact congrArg some hcity
  | cons row rest =>
    rw [hsel] at hfound
    obtain ⟨m, hm, heq⟩ := handleFrame_found cfg answers client rows hv hst ht hfound
    have hrow : selectMac (client.stored m f).mac rows = row :: rest :=
      (congrArg (selectMac · rows) hm).trans hsel
    obtain ⟨x, y, hxy⟩ := hrows row (List.mem_of_mem_filter (hsel ▸ List.mem_cons_self))
    have hcity : cstr (client.location.write 0 (row.location ++ [0])).toList = row.location := by
      rw [hxy]
      exact cstr_write _ (fun _ => ne_zero_of_mem_cityName) (length_cityName_lt x y)
    have hplace : placeOf f rows = row.location := by simp [placeOf, hsel]
    simp only [retrievClientData_of_ok (hsql .retriev) hrow, reduceCtorEq, if_false] at heq
    rw [heq, hplace]
    exact ⟨rfl, rfl, by simp [hsel], congrArg (cfg.priceOf · _) hcity, ⟨_, rfl, hcity⟩⟩

omit [CDouble D] in
/-- A parking is an accepted start if its place has a price and is read as a city. -/
theorem ParksAt.accepted_iff {place : List UInt8} {old : D} {s : Turn D}
    (h : ParksAt cfg f place old s) :
    Accepted cfg f s ↔ place ≠ errorText ∧ selectCity place cfg.cityParking ≠ [] := by
  obtain ⟨row, hrow, hplace⟩ := Option.map_eq_some_iff.mp h.row
  obtain ⟨city, hsent, hcity⟩ := h.told
  constructor
  · rintro ⟨-, -, ⟨row', hrow', entry, hentry, -⟩, city', hsent', hread⟩
    refine ⟨?_, ?_⟩
    · rintro rfl
      obtain rfl : city = city' := by simpa [hsent] using hsent'
      have herror : readReply (.fill 12 0) Bbb.AppStatus.on city.toList
          = (Bbb.AppStatus.stayOn, .notConnected) := by
        rw [readReply, Buf.write_full]
        exact crc8ServerSideValue_eq_iff.mpr hcity
      rw [hread] at herror
      exact absurd (Prod.mk.inj herror).2 (by decide)
    · obtain rfl : row = row' := Option.some.inj (hrow.symm.trans hrow')
      rw [hplace] at hentry
      intro hnil
      simp [hnil] at hentry
  · rintro ⟨hne, hprice⟩
    obtain ⟨entry, rest, hsel⟩ := List.exists_cons_of_ne_nil hprice
    refine ⟨h.stays, h.connected, ⟨row, hrow, entry, by simp [hplace, hsel], ?_⟩, city, hsent,
      fun status => readReply_location _ city status (hcity ▸ hne)⟩
    rw [h.price, Config.priceOf, hsel]

/-- **What a start comes to** on a fresh connection, with a table this program has written and
without failures: it is accepted or refused exactly if it fails its check, or its place is
not the text `ERROR` and has a price. -/
theorem start_informed_iff (hsql : ∀ pc, (answers pc).sqlFails = []) (hst : f.status = startApp)
    (hrows : Written rows) (fd : UInt8) :
    let s := handleFrame cfg answers { PangoData.zero with clientFd := fd } {} rows f
    Accepted cfg f s ∨ Refused rows s ↔
      (CrcValid f → placeOf f rows ≠ errorText ∧
        selectCity (placeOf f rows) cfg.cityParking ≠ []) := by
  dsimp only
  by_cases hv : CrcValid f
  · have hpark : ParksAt cfg f (placeOf f rows) _
        (handleFrame cfg answers { PangoData.zero with clientFd := fd } {} rows f) :=
      parksAt_handleFrame hsql hv hst (by decide) rfl hrows
    have hno : ¬ Refused rows
        (handleFrame cfg answers { PangoData.zero with clientFd := fd } {} rows f) := by
      intro href
      have hcon := hpark.connected
      rw [href.notConnected] at hcon
      cases hcon
    rw [or_iff_left hno, hpark.accepted_iff]
    exact ⟨fun h _ => h, fun h => h hv⟩
  · refine iff_of_true (.inr ?_) fun h => absurd h hv
    rw [handleFrame_invalid hv]
    exact ⟨rfl, rfl, rfl⟩

end Start

/-- A device in Ashkelon is accepted. -/
theorem accepted_in_ashkelon : Accepted samplePrices (sampleFrame startApp)
    (handleFrame samplePrices (fun _ => { now := 100 }) { PangoData.zero with clientFd := 4 } {} []
      (sampleFrame startApp)) := by
  have hiff := @start_informed_iff Int _ samplePrices (fun _ => { now := 100 }) []
    (sampleFrame startApp) (fun _ => rfl) (by decide +kernel) (fun _ hrow => nomatch hrow) 4
  refine (hiff.mpr fun _ => by decide +kernel).resolve_right fun href => ?_
  exact absurd href.notConnected (by decide +kernel)

/-- A start from outside the map. -/
def offMapFrame : Frame := Stm.fillSendBuff ⟨startApp, sampleMac, 200, 20⟩ (.fill 10 0)

/-- **A parking nowhere.**  It is not true that a start is either accepted in a real city or
refused: this one is inserted and connected, and the BBB reads `ERROR`. -/
theorem started_off_map :
    ¬ ∀ (answers : Answers) (rows : List Row) (f : Frame) (fd : UInt8),
      (∀ pc, (answers pc).sqlFails = []) → f.status = startApp → Written rows →
      Accepted samplePrices f
          (handleFrame samplePrices answers { PangoData.zero with clientFd := fd } {} rows f) ∨
        Refused rows
          (handleFrame samplePrices answers { PangoData.zero with clientFd := fd } {} rows f) := by
  intro hclaim
  have hsent : replies (handleFrame samplePrices (fun _ => {}) { PangoData.zero with clientFd := 4 }
      {} [] offMapFrame).events = [.location (locationFunc 200 20 (.fill 12 0))] := by
    decide +kernel
  rcases hclaim (fun _ => {}) [] offMapFrame 4 (fun _ => rfl) (by decide +kernel)
    (fun _ hrow => nomatch hrow) with hacc | href
  · obtain ⟨city, hcity, hread⟩ := hacc.told
    obtain rfl : locationFunc 200 20 (.fill 12 0) = city := by simpa [hsent] using hcity
    exact absurd (hread Bbb.AppStatus.on) (by decide +kernel)
  · exact absurd href.notConnected (by decide +kernel)

/-! ## Replies to a close -/

section Pay

variable [CDoubleBytes D]

open CDoubleBytes

/-- The sixteen bytes of two numbers. -/
def payBytes (pay : D × D) : Buf UInt8 16 :=
  ⟨(toBytes pay.1).toList ++ (toBytes pay.2).toList, by
    rw [List.length_append, (toBytes pay.1).length_eq, (toBytes pay.2).length_eq]⟩

/-- The two numbers sixteen bytes are read as. -/
def readPay (b : Buf UInt8 16) : D × D :=
  (ofBytes ⟨b.toList.take 8, by rw [List.length_take, b.length_eq]; rfl⟩,
    ofBytes ⟨b.toList.drop 8, by rw [List.length_drop, b.length_eq]⟩)

theorem readPay_payBytes (pay : D × D) : readPay (payBytes pay) = pay := by
  have htake : (payBytes pay).toList.take 8 = (toBytes pay.1).toList :=
    List.take_left' (toBytes pay.1).length_eq
  have hdrop : (payBytes pay).toList.drop 8 = (toBytes pay.2).toList :=
    List.drop_left' (toBytes pay.1).length_eq
  refine Prod.ext ?_ ?_
  · exact (congrArg ofBytes (Buf.ext' htake)).trans (ofBytes_toBytes pay.1)
  · exact (congrArg ofBytes (Buf.ext' hdrop)).trans (ofBytes_toBytes pay.2)

/-- The bytes of a reply. -/
def replyBytes : Reply D → List UInt8
  | .location city => city.toList
  | .payment price seconds => (payBytes (price, seconds)).toList
  | .errMsg => errorText

/-- What the `recv` of the payment gets when the server's thread has got as far as `s`: the
bytes of the reply that was delivered, or none if the socket has been closed.  Otherwise it
does not return. -/
def reaction (s : Turn D) : Option (List UInt8) :=
  match s.events.filterMap delivered with
  | reply :: _ => some (replyBytes reply)
  | [] => if s.thread.pc = .done then some [] else none

/-- What is in `payment` afterwards. -/
def recvPayment (payment : D × D) (bytes : List UInt8) : D × D :=
  readPay ((payBytes payment).write 0 bytes)

theorem recvPayment_payment (payment : D × D) (price seconds : D) :
    recvPayment payment (replyBytes (.payment price seconds)) = (price, seconds) := by
  rw [recvPayment, replyBytes, Buf.write_full, readPay_payBytes]

/-- The BBB shows a receipt and takes the parking for ended only if it has received sixteen
bytes, and the receipt shows the numbers the server has sent. -/
def ReceiptReal (b : Bbb.Main D) (s : Turn D) : Prop :=
  ∀ bytes ∈ reaction s, let r := b.gotPayment (some (recvPayment b.payment bytes))
    ∀ shown, .finalPriceForCostumer shown ∈ r.2 → r.1.connected = .notConnected →
      bytes.length = 16 ∧ .send (.payment shown.1 shown.2) true ∈ s.events

theorem receiptReal_iff_of_reaction {b : Bbb.Main D} {s : Turn D} (bytes : List UInt8)
    (h : reaction s = some bytes) :
    ReceiptReal b s ↔ bytes.length = 16 ∧ .send (.payment (recvPayment b.payment bytes).1
      (recvPayment b.payment bytes).2) true ∈ s.events := by
  constructor
  · exact fun hreal => hreal bytes h _ List.mem_cons_self rfl
  · intro hpaid bytes' hbytes' r shown hshown _
    cases h.symm.trans hbytes'
    obtain rfl : shown = recvPayment b.payment bytes := by
      simpa [r, Bbb.Main.gotPayment] using hshown
    exact hpaid

variable [CDouble D] {cfg : Server.Config D} {answers : Answers} {client : PangoData D}
  {t : Thread} {rows : List Row} {f : Frame}

/-- **When a receipt is one for a payment.**  The server receives the BBB's `CLOSE_APP` frame,
or what has become of it; whatever the BBB's buffer held, its receipt is real exactly if the
frame passes its check, the `UPDATE` of the close works and the payment is sent — or the
frame is passed over, and the BBB still waits. -/
theorem receipt_real_iff (hst : CrcValid f → f.status = closeApp) (b : Bbb.Main D) :
    ReceiptReal b (handleFrame cfg answers client t rows f) ↔
      CrcValid f ∧ (t.status = crc8TestFailed ∨
        (answers .close).fails 0 = false ∧ (answers .pay).sendFails = false) := by
  by_cases hv : CrcValid f
  · by_cases ht : t.status = crc8TestFailed
    · refine iff_of_true ?_ ⟨hv, .inl ht⟩
      rw [handleFrame_ignored hv ht]
      intro bytes hbytes
      cases hbytes
    · obtain ⟨m, -, heq⟩ := handleFrame_close cfg answers client rows hv (hst hv) ht
      cases hclose : (answers .close).fails 0 with
      | true =>
        rw [heq, if_pos hclose, receiptReal_iff_of_reaction [] rfl]
        refine iff_of_false (fun hreal => ?_) (by simp [ht])
        cases hreal.1
      | false =>
        rw [heq, if_neg (by simp [hclose])]
        cases hpay : (answers .pay).sendFails with
        | true =>
          rw [receiptReal_iff_of_reaction [] rfl]
          refine iff_of_false (fun hreal => ?_) (by simp [ht])
          cases hreal.1
        | false =>
          rw [receiptReal_iff_of_reaction _ rfl, calculateAndSendPaymentData, recvPayment_payment]
          exact iff_of_true ⟨(payBytes _).length_eq, by simp⟩ (by simp [hv])
  · rw [handleFrame_invalid hv]
    refine iff_of_false (fun hreal => ?_) fun h => hv h.1
    cases hsend : (answers .sendErrMsg).sendFails with
    | true =>
      rw [hsend, receiptReal_iff_of_reaction [] rfl] at hreal
      cases hreal.1
    | false =>
      rw [hsend, receiptReal_iff_of_reaction errorText rfl] at hreal
      cases hreal.1

end Pay

/-- The prices, as `double`s. -/
def wordPrices : Server.Config (BitVec 64) := { cityParking := [⟨ashkelon, 2⟩] }

/-- The BBB waits for the payment; its buffer still holds the last one. -/
def waitingBbb : Bbb.Main (BitVec 64) where
  pc := .payment
  dataBuff := sampleFrame closeApp
  status := Bbb.AppStatus.off
  connected := .connected
  location := locationFunc 10 20 (.fill 12 0)
  payment := (60, 30)

/-- A slot that has counted from 100 on. -/
def countingSlot : PangoData (BitVec 64) :=
  { (PangoData.zero : PangoData (BitVec 64)) with
    location := locationFunc 10 20 (.fill 12 0), price := 2, timeStartParking := 100
    connected := true }

/-- Nothing fails, and the receipt is real. -/
theorem receipt_of_payment : ReceiptReal waitingBbb
    (handleFrame wordPrices (fun _ => { now := 130 }) countingSlot { status := startApp }
      [⟨macKey sampleMac, 0, ashkelon⟩] (sampleFrame closeApp)) :=
  (receipt_real_iff (fun _ => by decide +kernel) waitingBbb).mpr
    ⟨by decide +kernel, .inr ⟨rfl, rfl⟩⟩

/-- **A receipt for nothing.**  It is not true that every receipt is one for a payment: the
`UPDATE` of the close fails and the socket is closed, and the BBB shows its last receipt
once more. -/
theorem receipt_of_nothing :
    ¬ ∀ (answers : Answers) (client : PangoData (BitVec 64)) (t : Thread) (rows : List Row)
      (f : Frame) (b : Bbb.Main (BitVec 64)), (CrcValid f → f.status = closeApp) →
      ReceiptReal b (handleFrame wordPrices answers client t rows f) := by
  intro hclaim
  have hreal := hclaim (fun pc => if pc = .close then { now := 130, sqlFails := [0] } else {})
    countingSlot { status := startApp } [⟨macKey sampleMac, 0, ashkelon⟩] (sampleFrame closeApp)
    waitingBbb fun _ => by decide +kernel
  have hnothing : reaction (handleFrame wordPrices
      (fun pc => if pc = .close then { now := 130, sqlFails := [0] } else {}) countingSlot
      { status := startApp } [⟨macKey sampleMac, 0, ashkelon⟩] (sampleFrame closeApp))
      = some [] := by decide +kernel
  cases ((receiptReal_iff_of_reaction _ hnothing).mp hreal).1

end Pango.Joint
