import Pango.Joint.Stage

/-!
# The device and the server agree

A parking is known in four places: as a flag and a status byte of the BBB, as a flag
in the slot of its connection, and as a row of the table.  No message says which of
them is right, and they change at different moments, in different programs.  In every
clean run they say the same whenever the server is at rest and the BBB waits for the
button; the presses that are answered ask for a start and for an end in turn; and
each receipt shows the time between the two clock readings the server took for them.

The proof follows the current connection through the stages of `Joint.Stage` and keeps
books of what has been pressed, sent and paid beside it.

* `Bond` — the invariant: the books of the device, its stage, and what has been
  pressed, sent and paid.
* `bond_step` — every step of the three programs keeps it.
* `agreement` — the theorem, read off the invariant by `agreement_of_bond`.
-/

namespace Pango.Joint

open Server CInt

variable {D : Type*}

/-! ## The invariant -/

/-- All connections are the device's. -/
def soleDevice (m : Buf UInt8 6) : ℕ → Buf UInt8 6 := fun _ => m

/-- What the device's connections did. -/
def System.record (m : Buf UInt8 6) (sys : System D) : List (ℕ × Event D) :=
  eventsOf (soleDevice m · = m) sys.server.trace

/-- The current connection. -/
def System.link (m : Buf UInt8 6) (sys : System D) : Link D where
  thread := sys.server.thread sys.socket
  client := sys.server.client sys.socket
  toServer := sys.toServer sys.socket
  toClient := sys.toClient sys.socket
  hungUp := sys.hungUp sys.socket
  parking := (sys.server.meterOf (soleDevice m) m).parking

/-- Start and end in turn, `n` of them. -/
def toggles (n : ℕ) : List UInt8 :=
  (List.range n).map fun k => if k % 2 = 0 then startApp else closeApp

/-- Has the last start been asked for and its end not yet? -/
def underWay : Bbb.Pc → Bbb.IsConnected → ℕ
  | .head, .notConnected => 0
  | .payment, _ => 0
  | _, _ => 1

/-- The presses so far. -/
structure Pressed (sys : System D) : Prop where
  sent : sys.sent = sys.presses.reduceOption
  inTurn : sys.presses.reduceOption.map Frame.status = toggles sys.presses.reduceOption.length
  parity : sys.presses.reduceOption.length % 2 = underWay sys.bbb.pc sys.bbb.connected
  silent : sys.bbb.stmDataReceiveError.toNat = sys.presses.count none ∧ sys.presses.count none ≤ 2

/-- The seconds of a payment. -/
def seconds? : Reply D → Option D
  | .payment _ seconds => some seconds
  | _ => none

/-- What is kept in a clean run. -/
structure Bond [CDouble D] (cfg : Config D) (m : Buf UInt8 6) (sys : System D) : Prop where
  books : Books cfg (soleDevice m) m True True sys.server
  told : Told (sys.record m)
  /-- Nothing has been sent on a connection that has not been opened. -/
  fresh : ∀ i, sys.server.thread i = none →
    sys.toServer i = [] ∧ sys.toClient i = [] ∧ sys.hungUp i = false
  /-- All connections but the current one have ended. -/
  others : ∀ i, i ≠ sys.socket → ∀ t ∈ sys.server.thread i, t.pc = .done
  stage : Stage m sys.bbb.pc sys.bbb.connected sys.bbb.status (sys.link m)
  pressed : Pressed sys
  billed : secondsBilled (sys.record m)
    = sys.receipts.map Prod.snd ++ (sys.toClient sys.socket).filterMap seconds?

section Bond

variable [CDouble D] {cfg : Config D} {m : Buf UInt8 6} {sys sys' : System D}

theorem bond_start (dataBuff : Frame) (location : Buf UInt8 12) (payment : D × D) {rows : List Row}
    (hrows : selectMac (macKey m) rows = []) :
    Bond cfg m (.start dataBuff location payment rows) where
  books := books_start fun _ => hrows
  told := ⟨[], rfl, rfl⟩
  fresh _ _ := ⟨rfl, rfl, rfl⟩
  others _ _ _ h := nomatch h
  stage := .idle fun _ h => nomatch h
  pressed := ⟨rfl, rfl, rfl, rfl, by simp [System.start]⟩
  billed := rfl

theorem bond_backup (hJ : Bond cfg m sys) (clock : ℕ → Int) (sqlFails : List ℕ) :
    Bond cfg m { sys with
      server := sys.server.backedUp cfg.updateThreadMaxNumClients clock sqlFails } := by
  have hserved : Served (soleDevice m) m True sys.server (.backup clock sqlFails) :=
    ⟨trivial, trivial, trivial, trivial⟩
  have hstep : (server cfg).step sys.server (.backup clock sqlFails)
      = some (sys.server.backedUp cfg.updateThreadMaxNumClients clock sqlFails) := rfl
  refine ⟨books_step hserved hJ.books hstep, told_step hserved hJ.books hJ.told hstep, hJ.fresh,
    hJ.others, ?_, ⟨hJ.pressed.sent, hJ.pressed.inTurn, hJ.pressed.parity, hJ.pressed.silent⟩, ?_⟩
  · have hstage := hJ.stage
    unfold System.link at hstage ⊢
    rw [meterOf_backedUp]
    exact hstage
  · rw [System.record, eventsOf_backedUp]
    exact hJ.billed

omit [CDouble D] in
/-- The first frame is handled when nothing is owed. -/
theorem parking_of_stage {pc : Bbb.Pc} {con : Bbb.IsConnected} {st : UInt8} {L : Link D}
    {t : Thread}
    (hS : Stage m pc con st L) (ht : L.thread = some t) (he : t.Early ∧ t.pc = .check) :
    L.parking = none := by
  obtain ⟨he, hpc⟩ := he
  cases hS with
  | idle | starting | heard | billed => rfl
  | registering h =>
    cases ht
    rw [hpc] at h
    exact h.elim
  | greeted _ hst | parked _ hst | closing _ hst =>
    cases ht
    exact absurd he (not_early_of_status hst)
  | ending hne =>
    cases ht
    exact absurd he hne

/-- A step of the current thread meets the conditions the books rest on. -/
theorem served_client {t : Thread} {env : Env} (hJ : Bond cfg m sys)
    (ht : sys.server.thread sys.socket = some t) (hsql : env.sqlFails = []) (hd : Drives m env t) :
    Served (soleDevice m) m True sys.server (.client sys.socket env) := by
  have hmem : ∀ u ∈ sys.server.thread sys.socket, u = t := fun u hu => by
    rw [ht] at hu
    exact (Option.some.inj hu).symm
  refine ⟨fun u hu hpc _ => ?_, fun _ => ⟨hsql, fun u hu => hmem u hu ▸ hd⟩, fun _ u hu => ⟨?_, ?_⟩,
    fun _ u hu he _ => parking_of_stage hJ.stage hu he⟩
  · have hshape : Shape m (sys.server.client sys.socket) u := hJ.books.shape.1 _ u hu rfl
    by_cases he : u.Early
    · exact ((hshape.1 he).buff hpc).2.2
    · exact (hshape.2 he).2.2 hpc
  · intro _ j hj v hv _
    exact .inr (by rw [hJ.others j hj v hv]; rfl)
  · intro _ j hj v hv _ hrem
    cases hrem.symm.trans (hJ.others j hj v hv)

/-- The payment of a step is what it puts on the wire. -/
theorem secondsBilled_pangoClientStep {t : Thread} {env : Env} {client : PangoData D}
    {rows : List Row} {r : Turn D} (hsend : env.sendFails = false)
    (h : pangoClientStep cfg env client t rows = some r) (i : ℕ) :
    secondsBilled (r.events.map (Prod.mk i))
      = (r.events.filterMap delivered).filterMap seconds? := by
  by_cases hpc : t.pc = .pay
  · simp only [pangoClientStep, hpc, hsend, calculateAndSendPaymentData] at h
    cases h
    rfl
  · have hno := isPayment_pangoClientStep h hpc
    have hleft : secondsBilled (r.events.map (Prod.mk i)) = [] := by
      refine List.filterMap_eq_nil_iff.mpr fun e he => ?_
      obtain ⟨e, hmem, rfl⟩ := List.mem_map.mp he
      have := hno e hmem
      cases e with
      | send reply ok => cases reply <;> simp [Event.isPayment] at this ⊢
      | _ => rfl
    have hright : (r.events.filterMap delivered).filterMap seconds? = [] := by
      refine List.filterMap_eq_nil_iff.mpr fun reply hmem => ?_
      obtain ⟨e, he, hdel⟩ := List.mem_filterMap.mp hmem
      have := hno e he
      cases e with
      | send reply' ok =>
        cases ok with
        | true =>
          cases hdel
          cases reply <;> simp [Event.isPayment, seconds?] at this ⊢
        | false => cases hdel
      | _ => cases hdel
    rw [hleft, hright]

theorem bond_client {i : ℕ} {env : Env} (hsql : env.sqlFails = []) (hsend : env.sendFails = false)
    (hJ : Bond cfg m sys) (h : (system cfg m).step sys (.client i env) = some sys') :
    Bond cfg m sys' := by
  obtain ⟨t, ht, h⟩ := Option.bind_eq_some_iff.mp h
  obtain ⟨⟨env', rest⟩, hfetch, h⟩ := Option.bind_eq_some_iff.mp h
  obtain ⟨r, hr, rfl⟩ := Option.map_eq_some_iff.mp h
  -- only the current thread has steps left
  have hi : i = sys.socket := by
    by_contra hi
    simp [pangoClientStep, hJ.others i hi t ht] at hr
  subst hi
  obtain ⟨hf, hsql', hsend'⟩ := fetched_of_fetch hfetch
  have hshape : Shape m (sys.server.client sys.socket) t := hJ.books.shape.1 _ t ht rfl
  have hserved := served_client hJ ht (hsql'.trans hsql) (drives_of_stage hJ.stage ht hf)
  have hstep : (server cfg).step sys.server (.client sys.socket env')
      = some (sys.server.turn sys.socket r) := by
    simp [server, ht, hr]
  have hrecord : (sys.turn sys.socket rest r).record m
      = sys.record m ++ r.events.map (Prod.mk sys.socket) :=
    eventsOf_turn (soleDevice m · = m) sys.server rfl r
  refine ⟨books_step hserved hJ.books hstep, told_step hserved hJ.books hJ.told hstep,
    fun j hj => ?_, fun j hj u hu => ?_, ?_,
    ⟨hJ.pressed.sent, hJ.pressed.inTurn, hJ.pressed.parity, hJ.pressed.silent⟩, ?_⟩
  · have hjs : j ≠ sys.socket := by
      rintro rfl
      simp [System.turn] at hj
    simp only [System.turn, Function.update_of_ne hjs]
    exact hJ.fresh j (by simpa [System.turn, turn_thread_of_ne sys.server r hjs] using hj)
  · have hjs : j ≠ sys.socket := hj
    rw [System.turn, turn_thread_of_ne sys.server r hjs] at hu
    exact hJ.others j hjs u hu
  · -- nobody looks the device up while it has a row
    have hrows : t.pc = .exist → selectMac (macKey m) sys.server.yourTable = [] := by
      intro hpc
      have hA := (hJ.books.ledger (.inl trivial)).atWork sys.socket rfl t ht
        (atWork_of_pc (by rw [hpc]; rfl) (by rw [hpc]; decide) (by rw [hpc]; decide))
      simp only [Accounts, hpc] at hA
      have hstored := hA.2.2.2 fun j _ u hu => by
        by_cases hjs : j = sys.socket
        · subst hjs
          cases ht.symm.trans hu
          rw [hpc]
          decide
        · rw [hJ.others j hjs u hu]
          decide
      unfold Stored at hstored
      rw [hA.2.2.1 trivial] at hstored
      exact hstored
    have hstage := stage_pangoClientStep (i := sys.socket) hJ.stage ht hf (hsql'.trans hsql)
      (hsend'.trans hsend) hshape rfl hrows hr
    have hlink : (sys.turn sys.socket rest r).link m = ⟨some r.thread, r.client, rest,
        sys.toClient sys.socket ++ r.events.filterMap delivered, sys.hungUp sys.socket,
        ((sys.server.meterOf (soleDevice m) m).after sys.socket r.events).parking⟩ := by
      have hmeter : (sys.server.turn sys.socket r).meterOf (soleDevice m) m
          = (sys.server.meterOf (soleDevice m) m).after sys.socket r.events := meterOf_turn _ rfl r
      simp [System.link, System.turn, hmeter]
    rw [hlink]
    exact hstage
  · rw [hrecord, secondsBilled_append, hJ.billed,
      secondsBilled_pangoClientStep (hsend'.trans hsend) hr]
    simp [System.turn, List.filterMap_append]

/-! ### A press -/

omit [CDouble D] in
/-- At the head of the loop nobody parks, or somebody does. -/
theorem stage_head {con : Bbb.IsConnected} {st : UInt8} {L : Link D} (hS : Stage m .head con st L) :
    (con = .notConnected ∧ st = Bbb.AppStatus.on ∧ (∀ t ∈ L.thread, t.pc.over = true) ∧
        L.toServer = [] ∧ L.toClient = [] ∧ L.parking = none) ∨
      (con = .connected ∧ st = Bbb.AppStatus.off ∧ L.toServer = [] ∧ L.toClient = [] ∧
        L.hungUp = false ∧ ∃ t, L.thread = some t ∧ (t.pc = .setConnected ∨ t.pc = .recv) ∧
          t.status = startApp) := by
  cases hS with
  | idle hover => exact .inl ⟨rfl, rfl, hover, rfl, rfl, rfl⟩
  | parked hpc hst => exact .inr ⟨rfl, rfl, rfl, rfl, rfl, _, rfl, hpc, hst⟩

theorem toggles_succ (n : ℕ) :
    toggles (n + 1) = toggles n ++ [if n % 2 = 0 then startApp else closeApp] := by
  simp [toggles, List.range_succ]

omit [CDouble D] in
theorem pressed_concat {f : Frame} (hJ : Pressed sys)
    (hf : f.status = if sys.presses.reduceOption.length % 2 = 0 then startApp else closeApp)
    (hpresses : sys'.presses = sys.presses ++ [some f]) (hsent : sys'.sent = sys.sent ++ [f])
    (herr : sys'.bbb.stmDataReceiveError = sys.bbb.stmDataReceiveError)
    (hway : underWay sys'.bbb.pc sys'.bbb.connected = (sys.presses.reduceOption.length + 1) % 2) :
    Pressed sys' := by
  have hred : sys'.presses.reduceOption = sys.presses.reduceOption ++ [f] := by
    rw [hpresses, List.reduceOption_append]
    rfl
  refine ⟨?_, ?_, ?_, ?_⟩
  · rw [hsent, hred, hJ.sent]
  · rw [hred, List.map_append, hJ.inTurn, List.length_append, List.length_singleton, toggles_succ,
      List.map_singleton, hf]
  · rw [hred, hway, List.length_append, List.length_singleton]
  · rw [herr, hpresses, List.count_append]
    simpa using hJ.silent

theorem sound_answer {status : UInt8} {c : UInt8 × UInt8} (hc : c.1 ≤ 127 ∧ c.2 ≤ 127) (b : Frame) :
    Sound m status (Stm.fillSendBuff ⟨status, m, c.1, c.2⟩ b) where
  valid := crcValid_fillSendBuff _ _
  status := Stm.status_fillSendBuff _ _
  mac := Stm.mac_fillSendBuff _ _
  x := by
    rw [Stm.x_fillSendBuff]
    exact hc.1
  y := by
    rw [Stm.y_fillSendBuff]
    exact hc.2

theorem bond_press_none {slot : ℕ} {fd : Int} (hsilent : sys.presses.count none < 2)
    (hJ : Bond cfg m sys) (h : (system cfg m).step sys (.press none slot fd) = some sys') :
    Bond cfg m sys' := by
  simp only [system] at h
  split_ifs at h with hpc
  obtain ⟨herr, -⟩ := hJ.pressed.silent
  have hne : sys.bbb.stmDataReceiveError + 1 ≠ Bbb.AppStatus.restart := by
    intro heq
    have hthree := congrArg UInt8.toNat heq
    rw [UInt8.toNat_add, herr, show (1 : UInt8).toNat = 1 from rfl,
      show Bbb.AppStatus.restart.toNat = 3 from rfl] at hthree
    omega
  have hpress := Bbb.Main.pressed_none hne
  simp only [System.answer, Option.map_none, Option.getD_none, System.perform] at h
  rw [hpress] at h
  simp only [List.foldlM, System.act, Option.pure_def, Option.bind_eq_bind, Option.bind_some,
    Option.some.injEq] at h
  subst h
  have hred : (sys.presses ++ [none]).reduceOption = sys.presses.reduceOption := by
    rw [List.reduceOption_append]
    exact List.append_nil _
  refine ⟨hJ.books, hJ.told, hJ.fresh, hJ.others, hJ.stage, ⟨?_, ?_, ?_, ?_⟩, hJ.billed⟩
  · exact hJ.pressed.sent.trans hred.symm
  · simp only [hred]
    exact hJ.pressed.inTurn
  · simp only [hred]
    exact hJ.pressed.parity
  · simp only [List.count_append, List.count_singleton_self]
    refine ⟨?_, by omega⟩
    rw [UInt8.toNat_add, herr, show (1 : UInt8).toNat = 1 from rfl]
    omega

theorem bond_press_on {slot : ℕ} {fd : Int} {c : UInt8 × UInt8} (hrest : Rested sys)
    (hc : c.1 ≤ 127 ∧ c.2 ≤ 127) (hpc : sys.bbb.pc = .head)
    (hcon : sys.bbb.connected = .notConnected)
    (hst : sys.bbb.status = Bbb.AppStatus.on)
    (hover : ∀ t ∈ sys.server.thread sys.socket, t.pc.over = true)
    (hpark : (sys.server.meterOf (soleDevice m) m).parking = none)
    (hclient : sys.toClient sys.socket = [])
    (hJ : Bond cfg m sys) (h : (system cfg m).step sys (.press (some c) slot fd) = some sys') :
    Bond cfg m sys' := by
  have hs : Sound m startApp (Stm.fillSendBuff ⟨Bbb.AppStatus.on, m, c.1, c.2⟩ sys.sendBuff) :=
    sound_answer hc _
  simp only [system, if_pos hpc, System.answer, Option.map_some, Option.getD_some, hst] at h
  generalize Stm.fillSendBuff ⟨Bbb.AppStatus.on, m, c.1, c.2⟩ sys.sendBuff = f at h hs
  rw [Bbb.Main.pressed_on hst hcon hs.valid hs.status] at h
  simp only [System.perform, List.foldlM, System.act, Option.pure_def, Option.bind_eq_bind,
    Option.bind_some, true_and, if_true] at h
  split_ifs at h with hslot
  · cases h
    -- the new connection is the only one that has not ended
    have hended : ∀ i, ∀ t ∈ sys.server.thread i, t.pc = .done := by
      intro i t ht
      by_cases hi : i = sys.socket
      · subst hi
        rcases hrest.2 t ht with hrecv | hdone
        · have := hover t ht
          rw [hrecv] at this
          cases this
        · exact hdone
      · exact hJ.others i hi t ht
    obtain ⟨hserver, hcl, hhung⟩ := hJ.fresh slot hslot
    have hserved : Served (soleDevice m) m True sys.server (.accept slot fd) :=
      ⟨trivial, trivial, trivial, trivial⟩
    have hstep : (server cfg).step sys.server (.accept slot fd)
        = some (sys.server.accepted slot fd) :=
      if_pos hslot
    have hne : ∀ i, (sys.server.accepted slot fd).thread i = none → i ≠ slot := by
      rintro i hi rfl
      simp at hi
    refine ⟨books_step hserved hJ.books hstep, hJ.told, fun i hi => ?_, fun i hi u hu => ?_,
      ?_, ?_, ?_⟩
    · have his := hne i hi
      rw [accepted_thread_of_ne sys.server fd his] at hi
      simpa only [Function.update_of_ne his] using hJ.fresh i hi
    · exact hended i u (by rwa [accepted_thread_of_ne sys.server fd hi] at hu)
    · simp only [System.link, Function.update_self, hserver, hcl, hhung, List.nil_append,
        accepted_thread_self, meterOf_accepted, hpark, hcon, hst]
      exact .starting ⟨rfl, .inl rfl⟩ rfl hs
    · have hpar := hJ.pressed.parity
      rw [hpc, hcon] at hpar
      refine pressed_concat hJ.pressed (f := f) ?_ rfl rfl rfl ?_
      · rw [hpar]
        exact hs.status
      · show underWay .location sys.bbb.connected = _
        rw [hcon, Nat.add_mod, hpar]
        rfl
    · simp only [hcl]
      have := hJ.billed
      rw [hclient] at this
      exact this
  · cases h

theorem bond_press_off {slot : ℕ} {fd : Int} {c : UInt8 × UInt8} (hrest : Rested sys)
    (hc : c.1 ≤ 127 ∧ c.2 ≤ 127) (hpc : sys.bbb.pc = .head) (hcon : sys.bbb.connected = .connected)
    (hst : sys.bbb.status = Bbb.AppStatus.off) (hhung : sys.hungUp sys.socket = false)
    (hclient : sys.toClient sys.socket = []) {t : Thread}
    (ht : sys.server.thread sys.socket = some t)
    (hwait : t.pc = .setConnected ∨ t.pc = .recv) (hstatus : t.status = startApp)
    (hJ : Bond cfg m sys) (h : (system cfg m).step sys (.press (some c) slot fd) = some sys') :
    Bond cfg m sys' := by
  have hs : Sound m closeApp (Stm.fillSendBuff ⟨Bbb.AppStatus.off, m, c.1, c.2⟩ sys.sendBuff) :=
    sound_answer hc _
  simp only [system, if_pos hpc, System.answer, Option.map_some, Option.getD_some, hst] at h
  generalize Stm.fillSendBuff ⟨Bbb.AppStatus.off, m, c.1, c.2⟩ sys.sendBuff = f at h hs
  rw [Bbb.Main.pressed_off hst hcon hs.valid hs.status] at h
  simp only [System.perform, List.foldlM, System.act, Option.pure_def, Option.bind_eq_bind,
    Option.bind_some, if_true] at h
  cases h
  have hrecv : t.pc = .recv := by
    rcases hrest.2 t ht with hpc' | hpc'
    · exact hpc'
    · rw [hpc'] at hwait
      rcases hwait with h | h <;> cases h
  refine ⟨hJ.books, hJ.told, fun i hi => ?_, hJ.others, ?_, ?_, hJ.billed⟩
  · have his : i ≠ sys.socket := by
      rintro rfl
      cases ht.symm.trans hi
    simpa only [Function.update_of_ne his] using hJ.fresh i hi
  · simp only [System.link, Function.update_self, hrest.1, hclient, hhung, List.nil_append, ht,
      hcon, hst]
    exact .closing hrecv hstatus hs
  · have hpar := hJ.pressed.parity
    rw [hpc, hcon] at hpar
    refine pressed_concat hJ.pressed (f := f) ?_ rfl rfl rfl ?_
    · rw [hpar]
      exact hs.status
    · show underWay .payment sys.bbb.connected = _
      rw [Nat.add_mod, hpar]
      rfl

theorem bond_press {coordinates : Option (UInt8 × UInt8)} {slot : ℕ} {fd : Int}
    (hC : Clean sys (.press coordinates slot fd)) (hJ : Bond cfg m sys)
    (h : (system cfg m).step sys (.press coordinates slot fd) = some sys') : Bond cfg m sys' := by
  obtain ⟨hrest, hc, hsilent⟩ := hC
  cases coordinates with
  | none => exact bond_press_none (hsilent rfl) hJ h
  | some c =>
    have hpc : sys.bbb.pc = .head := by
      by_contra hpc
      simp [system, hpc] at h
    rcases stage_head (hpc ▸ hJ.stage) with ⟨hcon, hst, hover, -, hclient, hpark⟩
      | ⟨hcon, hst, -, hclient, hhung, t, ht, hwait, hstatus⟩
    · exact bond_press_on hrest (hc c rfl) hpc hcon hst hover hpark hclient hJ h
    · exact bond_press_off hrest (hc c rfl) hpc hcon hst hhung hclient ht hwait hstatus hJ h

/-! ### An answer -/

omit [CDouble D] in
/-- In the `recv` of the location, only a location can be on the wire. -/
theorem stage_location {con : Bbb.IsConnected} {st : UInt8} {L : Link D} {reply : Reply D}
    {rest : List (Reply D)} (hS : Stage m .location con st L) (hq : L.toClient = reply :: rest) :
    con = .notConnected ∧ st = Bbb.AppStatus.on ∧ L.toServer = [] ∧ L.hungUp = false ∧ rest = [] ∧
      (∃ location, reply = .location location ∧ cstr location.toList ≠ errorText) ∧
      ∃ t, L.thread = some t ∧ (t.pc = .setConnected ∨ t.pc = .recv) ∧ t.status = startApp := by
  cases hS with
  | starting | heard | registering => cases hq
  | greeted hpc hst hloc =>
    cases hq
    exact ⟨rfl, rfl, rfl, rfl, rfl, ⟨_, rfl, hloc⟩, _, rfl, hpc, hst⟩

omit [CDouble D] in
/-- In the `recv` of the payment, only the bill can be. -/
theorem stage_payment {con : Bbb.IsConnected} {st : UInt8} {L : Link D} {reply : Reply D}
    {rest : List (Reply D)} (hS : Stage m .payment con st L) (hq : L.toClient = reply :: rest) :
    con = .connected ∧ st = Bbb.AppStatus.off ∧ L.toServer = [] ∧ L.parking = none ∧ rest = [] ∧
      ∀ t ∈ L.thread, t.pc.over = true := by
  cases hS with
  | closing | ending => cases hq
  | billed hover =>
    cases hq
    exact ⟨rfl, rfl, rfl, rfl, rfl, fun _ ht => Option.some.inj ht ▸ hover⟩

theorem bond_receive (hJ : Bond cfg m sys) (h : (system cfg m).step sys .receive = some sys') :
    Bond cfg m sys' := by
  have hstage := hJ.stage
  have hfresh : ∀ (toClient : ℕ → List (Reply D)) (hungUp : ℕ → Bool),
      (∃ t, sys.server.thread sys.socket = some t) →
      (∀ i, i ≠ sys.socket → toClient i = sys.toClient i ∧ hungUp i = sys.hungUp i) →
      ∀ i, sys.server.thread i = none →
        sys.toServer i = [] ∧ toClient i = [] ∧ hungUp i = false := by
    rintro toClient hungUp ⟨t, ht⟩ heq i hi
    have his : i ≠ sys.socket := by
      rintro rfl
      cases ht.symm.trans hi
    rw [(heq i his).1, (heq i his).2]
    exact hJ.fresh i hi
  have hfresh' : ∀ q : List (Reply D), sys.toClient sys.socket = q → q ≠ [] →
      ∃ t, sys.server.thread sys.socket = some t := by
    rintro q rfl hne
    rcases hth : sys.server.thread sys.socket with _ | t
    · exact absurd (hJ.fresh _ hth).2.1 hne
    · exact ⟨t, rfl⟩
  simp only [system] at h
  split at h
  · rename_i reply rest hpc hq
    have hthread := hfresh' _ hq (by simp)
    rw [hpc] at hstage
    obtain ⟨hcon, hst, hserver, hhung, rfl, ⟨location, rfl, hloc⟩, t, ht, hwait, hstatus⟩ :=
      stage_location hstage hq
    simp only [locationBytes, Option.bind_some, System.perform] at h
    rw [Bbb.Main.gotLocation_of_city hst hloc] at h
    cases h
    refine ⟨hJ.books, hJ.told, hfresh _ _ hthread fun i hi => ⟨Function.update_of_ne hi .., rfl⟩,
      hJ.others, ?_, ⟨hJ.pressed.sent, hJ.pressed.inTurn, ?_, hJ.pressed.silent⟩, ?_⟩
    · have hstage' : Stage m .head .connected Bbb.AppStatus.off
          ⟨some t, sys.server.client sys.socket, [], [], false,
            (sys.server.meterOf (soleDevice m) m).parking⟩ := .parked hwait hstatus
      simp only [System.link] at ht hserver hhung
      simpa only [System.link, Function.update_self, ht, hserver, hhung] using hstage'
    · have hpar := hJ.pressed.parity
      rw [hpc] at hpar
      exact hpar
    · have hbilled := hJ.billed
      have hnone : [Reply.location (D := D) location].filterMap seconds? = [] := rfl
      rw [hq, hnone] at hbilled
      simpa [System.record] using hbilled
  · rename_i price seconds rest hpc hq
    have hthread := hfresh' _ hq (by simp)
    rw [hpc] at hstage
    obtain ⟨hcon, hst, hserver, hpark, rfl, hover⟩ := stage_payment hstage hq
    have hst' : sys.bbb.status = Bbb.AppStatus.off := hst
    simp only [System.perform, Bbb.Main.gotPayment, Bbb.Main.update, hst',
      Bbb.updatingStatusValue_off,
      List.foldlM, System.act, Option.pure_def, Option.bind_eq_bind, Option.bind_some] at h
    cases h
    refine ⟨hJ.books, hJ.told, hfresh _ _ hthread fun i hi =>
      ⟨Function.update_of_ne hi .., Function.update_of_ne hi ..⟩, hJ.others, ?_,
      ⟨hJ.pressed.sent, hJ.pressed.inTurn, ?_, hJ.pressed.silent⟩, ?_⟩
    · have hstage' : Stage m .head .notConnected Bbb.AppStatus.on
          ⟨sys.server.thread sys.socket, sys.server.client sys.socket, [], [], true, none⟩ :=
        .idle hover
      simp only [System.link] at hserver hpark
      simpa only [System.link, Function.update_self, hserver, hpark] using hstage'
    · have hpar := hJ.pressed.parity
      rw [hpc] at hpar
      exact hpar
    · have hbilled := hJ.billed
      rw [hq] at hbilled
      simpa [seconds?, System.record] using hbilled
  · cases h

/-- Every step of a clean run keeps the invariant. -/
theorem bond_step {l : Label} (hC : Clean sys l) (hJ : Bond cfg m sys)
    (h : (system cfg m).step sys l = some sys') : Bond cfg m sys' := by
  cases l with
  | press coordinates slot fd => exact bond_press hC hJ h
  | receive => exact bond_receive hJ h
  | client i env => exact bond_client hC.1 hC.2 hJ h
  | backup clock sqlFails =>
    cases h
    exact bond_backup hJ clock sqlFails

end Bond

/-! ## The theorem -/

/-- What the device and the server agree on. -/
structure Agreement [CDouble D] (m : Buf UInt8 6) (sys : System D) : Prop where
  /-- At the head of the loop the flag of the BBB and its status say the same, -/
  head : sys.bbb.pc = .head →
    (sys.bbb.connected = .connected ↔ sys.bbb.status = Bbb.AppStatus.off)
  /-- and when the server is at rest, so do the table and the slot. -/
  rested : sys.bbb.pc = .head → Rested sys →
    (sys.bbb.status = Bbb.AppStatus.off ↔ selectMac (macKey m) sys.server.yourTable ≠ []) ∧
      (selectMac (macKey m) sys.server.yourTable ≠ [] ↔
        (sys.server.client sys.socket).connected = true)
  /-- The answered presses ask for a start and for an end in turn, and each of them
  reaches the wire. -/
  inTurn : sys.presses.reduceOption.map Frame.status = toggles sys.presses.reduceOption.length ∧
    sys.sent = sys.presses.reduceOption
  /-- The receipts show the differences of the pairs of readings the server took
  at a start and at the end after it, from the first pair on. -/
  receipts : ∃ stays : List Stay,
    sys.receipts.map Prod.snd = stays.map (fun s => CDouble.ofInt (s.stop - s.start)) ∧
      stays.flatMap Stay.readings <+: readings (sys.record m)

section Run

variable [CDouble D] {cfg : Config D} {m : Buf UInt8 6} {sys : System D}

/-- At rest, the four accounts agree. -/
theorem rested_of_bond (hJ : Bond cfg m sys) (hpc : sys.bbb.pc = .head) (hrest : Rested sys) :
    (sys.bbb.status = Bbb.AppStatus.off ↔ selectMac (macKey m) sys.server.yourTable ≠ []) ∧
      (selectMac (macKey m) sys.server.yourTable ≠ [] ↔
        (sys.server.client sys.socket).connected = true) := by
  have hledger := hJ.books.ledger (.inl trivial)
  rcases stage_head (hpc ▸ hJ.stage) with ⟨-, hst, hover, -, -, hpark⟩
    | ⟨-, hst, -, -, -, t, ht, hwait, hstatus⟩
  · -- nobody parks: every thread has ended
    have hended : ∀ i, ∀ t ∈ sys.server.thread i, t.pc = .done := by
      intro i t ht
      by_cases hi : i = sys.socket
      · subst hi
        rcases hrest.2 t ht with hrecv | hdone
        · have := hover t ht
          rw [hrecv] at this
          cases this
        · exact hdone
      · exact hJ.others i hi t ht
    have hrows : selectMac (macKey m) sys.server.yourTable = [] := by
      have hstored := hledger.idle (fun i _ t ht hw => ?_) fun i _ t ht => ?_
      · unfold Stored at hstored
        rw [show (sys.server.meterOf (soleDevice m) m).parking = none from hpark] at hstored
        exact hstored
      · have hover := hw.2
        rw [hended i t ht] at hover
        cases hover
      · rw [hended i t ht]
        decide
    have hslot : (sys.server.client sys.socket).connected = false := by
      cases hth : sys.server.thread sys.socket with
      | none => rw [(hJ.books.shape.2 _ hth).1]; rfl
      | some t =>
        have hdone := hended _ t hth
        obtain ⟨-, hH, -⟩ := (hJ.books.shape.1 _ t hth rfl).2
          (not_early_of_pc (by rw [hdone]; decide) (by rw [hdone]; decide))
        simpa only [Heard, hdone] using hH
    have hst' : sys.bbb.status = Bbb.AppStatus.on := hst
    rw [hst', hrows, hslot]
    decide
  · -- somebody parks: the thread waits for the last frame
    have hth : sys.server.thread sys.socket = some t := ht
    have hrecv : t.pc = .recv := by
      rcases hrest.2 t hth with hpc' | hpc'
      · exact hpc'
      · rw [hpc'] at hwait
        rcases hwait with h | h <;> cases h
    have hlate : ¬ t.Early := not_early_of_status hstatus
    have hA := hledger.atWork sys.socket rfl t hth ⟨hlate, by rw [hrecv]; rfl⟩
    simp only [Accounts, hrecv] at hA
    obtain ⟨p, t₀, hR⟩ := hA
    obtain ⟨timeUsed, hrow⟩ := hR.row
    have hrows : selectMac (macKey m) sys.server.yourTable ≠ [] := by
      rw [hrow]
      exact List.cons_ne_nil _ _
    obtain ⟨-, hH, -⟩ := (hJ.books.shape.1 _ t hth rfl).2 hlate
    simp only [Heard, hrecv] at hH
    exact ⟨iff_of_true hst hrows, iff_of_true hrows hH.1⟩

/-- With clock readings that fit an `int`, the receipts show the differences of the readings. -/
theorem receipts_of_bond (hJ : Bond cfg m sys) (hclock : ClocksInOrder (sys.record m)) :
    ∃ stays : List Stay,
      sys.receipts.map Prod.snd = stays.map (fun s => CDouble.ofInt (s.stop - s.start)) ∧
        stays.flatMap Stay.readings <+: readings (sys.record m) := by
  obtain ⟨past, hpaid, hread⟩ := hJ.told
  have hpre : past.flatMap Stay.readings <+: readings (sys.record m) :=
    hread ▸ List.prefix_append _ _
  -- what has been received is the first part of what has been billed
  refine ⟨past.take sys.receipts.length, ?_, ?_⟩
  · have hexact : ∀ s ∈ past, toInt32 (s.stop - s.start) = s.stop - s.start := by
      intro s hs
      have hmem : ∀ e ∈ s.readings, 0 ≤ e.2 ∧ e.2 < 2147483648 := by
        intro e he
        refine hclock.2 e.2 ?_
        rw [← readings_map_snd]
        exact List.mem_map_of_mem (hpre.subset (List.mem_flatMap.mpr ⟨s, hs, he⟩))
      have hstart := hmem (.initializeAndGetStartTime, s.start) (by simp [Stay.readings])
      have hstop := hmem (.updateClientData, s.stop) (by simp [Stay.readings])
      exact toInt32_of_mem ⟨by dsimp only at *; omega, by dsimp only at *; omega⟩
    have hpast : past.map (fun s => CDouble.ofInt (D := D) (toInt32 (s.stop - s.start)))
        = past.map (fun s => CDouble.ofInt (s.stop - s.start)) :=
      List.map_congr_left fun s hs => by rw [hexact s hs]
    rw [List.map_take, ← hpast, ← hpaid, hJ.billed, List.take_left' (List.length_map ..)]
  · refine List.IsPrefix.trans ?_ hpre
    exact (List.take_prefix _ past).flatMap _

theorem agreement_of_bond (hJ : Bond cfg m sys) (hclock : ClocksInOrder (sys.record m)) :
    Agreement m sys where
  head hpc := by
    rcases stage_head (hpc ▸ hJ.stage) with ⟨hcon, hst, -⟩ | ⟨hcon, hst, -⟩
    · rw [hcon, hst]
      decide
    · rw [hcon, hst]
      decide
  rested := rested_of_bond hJ
  inTurn := ⟨hJ.pressed.inTurn, hJ.pressed.sent⟩
  receipts := receipts_of_bond hJ hclock

/-- Clean runs keep the invariant. -/
theorem bond_of_exec {dataBuff : Frame} {location : Buf UInt8 12} {payment : D × D}
    {rows : List Row} {ls : List Label}
    (h : (system cfg m).Exec Clean (.start dataBuff location payment rows) ls sys)
    (hrows : selectMac (macKey m) rows = []) : Bond cfg m sys :=
  h.invariant (bond_start dataBuff location payment hrows) fun _ _ _ hC hJ hs => bond_step hC hJ hs

/-- **Device and server agree**, in every clean run from a table without a row for
the device, with clock readings that do not decrease and fit an `int`. -/
theorem agreement {dataBuff : Frame} {location : Buf UInt8 12} {payment : D × D} {rows : List Row}
    {ls : List Label} (h : (system cfg m).Exec Clean (.start dataBuff location payment rows) ls sys)
    (hrows : selectMac (macKey m) rows = []) (hclock : ClocksInOrder (sys.record m)) :
    Agreement m sys :=
  agreement_of_bond (bond_of_exec h hrows) hclock

end Run

/-- A whole parking in slot `i`, from `a` to `b`, with a backup pass in it. -/
def parkOnce (i : ℕ) (a b : Int) : List Label :=
  [.press (some (10, 20)) i 4,
    .client i {}, .client i {}, .client i {}, .client i { now := a }, .client i {}, .client i {},
    .receive, .client i {},
    .backup (fun _ => a) [],
    .press (some (90, 20)) i 4,
    .client i {}, .client i {}, .client i { now := b }, .client i {},
    .receive, .client i {}, .client i {}]

/-- A parking, after a press the board does not answer. -/
theorem agreement_after_parking : ∃ sys : System Int, sys.receipts = [(120, 60)] ∧
    Agreement sampleMac sys := by
  have hrun : ((system samplePrices sampleMac).runIf Clean
      (.start (.fill 10 0) (.fill 12 0) (0, 0) [])
      (.press none 0 4 :: parkOnce 0 100 160)).map (fun sys =>
        (sys.receipts, clocks (sys.record sampleMac)))
      = some ([(120, 60)], [100, 160]) := by decide +kernel
  obtain ⟨sys, hs, hparts⟩ := Option.map_eq_some_iff.mp hrun
  obtain ⟨hreceipts, hclocks⟩ := Prod.mk.inj hparts
  refine ⟨sys, hreceipts, agreement (Lts.exec_of_runIf _ hs) rfl ?_⟩
  rw [ClocksInOrder, hclocks]
  decide

end Pango.Joint
