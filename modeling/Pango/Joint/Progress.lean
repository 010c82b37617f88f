import Pango.Joint.Fleet
import Pango.Server.Handling

/-!
# The system gets on

Safety says what a clean run never does, and a system that stops for ever is as safe as
can be.  Here is what it must do: the server answers, the BBB takes the answer, and the
button may be pressed again.

There is no fairness in the model and none is needed.  As long as something is to be
done, a step that does some of it is enabled, and since each answered press leaves only a
bounded number of such steps, they cannot go on without a further press; so a run can
neither get stuck nor be kept busy.

* `System.ahead` — how much is still to be done until everybody is at rest.
* `stage_cases` — as long as something is, somebody can do it.
* `work_le` — **no idle work**: nine steps for each answered press, at most.
* `fleet_comes_to_rest` — **no deadlock**, in a fleet: no device waits for another.
-/

namespace Pango.Joint

open Server

variable {D : Type*}

/-! ## What is still to be done -/

namespace System

/-- The steps to be taken until the BBB waits for its button and the server is at rest. -/
def ahead (sys : System D) : ℕ :=
  (if sys.bbb.pc = .head then 0 else 1) + 8 * (sys.toServer sys.socket).length +
    (sys.server.thread sys.socket).elim 0 fun t => t.pc.stepsLeft

end System

/-- A step of a connection thread, or a `recv` of the BBB. -/
def Label.work : Label → ℕ
  | .client .. | .receive => 1
  | .press .. | .backup .. => 0

/-! ## One step -/

section Step

variable [CDouble D] {cfg : Config D} {m : Buf UInt8 6} {sys sys' : System D}

omit [CDouble D] in
/-- At every stage there is little to be done. -/
theorem ahead_le_of_stage {pc : Bbb.Pc} {con : Bbb.IsConnected} {st : UInt8} {L : Link D}
    (hS : Stage m pc con st L) :
    (if pc = .head then 0 else 1) + 8 * L.toServer.length +
      (L.thread.elim 0 fun t => t.pc.stepsLeft) ≤ 9 := by
  cases hS with
  | @idle thread _ _ hover =>
    cases thread with
    | none => exact Nat.zero_le 9
    | some t =>
      have hpc := hover t rfl
      cases h : t.pc <;> simp [h, Pc.over, Pc.stepsLeft] at hpc ⊢
  | starting _ hpc | heard _ hpc | closing hpc => simp [hpc, Pc.stepsLeft]
  | @registering t _ _ h =>
    cases hpc : t.pc <;> simp [hpc, InPlace, Pc.stepsLeft] at h ⊢
  | greeted hpc | parked hpc => rcases hpc with hpc | hpc <;> simp [hpc, Pc.stepsLeft]
  | ending _ hpc => rcases hpc with hpc | hpc | hpc <;> simp [hpc, Pc.stepsLeft]
  | @billed t _ _ _ hover => cases hpc : t.pc <;> simp [hpc, Pc.over, Pc.stepsLeft] at hover ⊢

omit [CDouble D] in
/-- Nobody waits for a frame from a BBB that has closed the connection. -/
theorem not_recv_of_hungUp {pc : Bbb.Pc} {con : Bbb.IsConnected} {st : UInt8} {L : Link D}
    (hS : Stage m pc con st L) (hhung : L.hungUp = true) : ∀ t ∈ L.thread, t.pc ≠ .recv := by
  cases hS with
  | idle hover =>
    intro t ht hpc
    have := hover t ht
    rw [hpc] at this
    cases this
  | starting | heard | registering | greeted | parked | closing | ending | billed => cases hhung

omit [CDouble D] in
/-- **At every stage** everybody is at rest, or the BBB has its answer, or the thread has something
to do. -/
theorem stage_cases {pc : Bbb.Pc} {con : Bbb.IsConnected} {st : UInt8} {L : Link D}
    (hS : Stage m pc con st L) :
    (pc = .head ∧ L.toServer = [] ∧ ∀ t ∈ L.thread, t.pc = .recv ∨ t.pc = .done)
    ∨ (pc = .location ∧ st = Bbb.AppStatus.on ∧ ∃ location, L.toClient = [.location location] ∧
        cstr location.toList ≠ errorText)
    ∨ (pc = .payment ∧ ∃ price seconds, L.toClient = [.payment price seconds])
    ∨ ∃ t, L.thread = some t ∧ t.pc ≠ .done ∧ (t.pc = .recv → L.toServer ≠ []) := by
  cases hS with
  | @idle thread _ _ hover =>
    by_cases hdone : ∀ t ∈ thread, t.pc = .done
    · exact .inl ⟨rfl, rfl, fun t ht => .inr (hdone t ht)⟩
    · push Not at hdone
      obtain ⟨t, ht, hpc⟩ := hdone
      refine .inr (.inr (.inr ⟨t, ht, hpc, fun hrecv => ?_⟩))
      have := hover t ht
      rw [hrecv] at this
      cases this
  | starting _ hpc | closing hpc =>
    exact .inr (.inr (.inr ⟨_, rfl, by rw [hpc]; decide, fun _ => List.cons_ne_nil _ _⟩))
  | heard _ hpc =>
    exact .inr (.inr (.inr ⟨_, rfl, by rw [hpc]; decide, fun hno => by cases hpc.symm.trans hno⟩))
  | @registering t _ _ h =>
    refine .inr (.inr (.inr ⟨t, rfl, fun hno => ?_, fun hno => ?_⟩)) <;> rw [hno] at h <;>
      exact h.elim
  | greeted _ _ hloc => exact .inr (.inl ⟨rfl, rfl, _, rfl, hloc⟩)
  | @parked t _ _ hpc =>
    rcases hpc with hpc | hpc
    · exact .inr (.inr (.inr ⟨t, rfl, by rw [hpc]; decide, fun hno => by cases hpc.symm.trans hno⟩))
    · exact .inl ⟨rfl, rfl, fun u hu => .inl (Option.some.inj hu ▸ hpc)⟩
  | @ending t _ _ _ hpc =>
    refine .inr (.inr (.inr ⟨t, rfl, fun hno => ?_, fun hno => ?_⟩)) <;> rw [hno] at hpc <;>
      rcases hpc with h | h | h <;> cases h
  | billed => exact .inr (.inr (.inl ⟨rfl, _, _, rfl⟩))

theorem ahead_le (hJ : Bond cfg m sys) : sys.ahead ≤ 9 := ahead_le_of_stage hJ.stage

/-- A step of a thread works something off. -/
theorem ahead_client {i : ℕ} {env : Env} (hJ : Bond cfg m sys)
    (h : (system cfg m).step sys (.client i env) = some sys') : sys'.ahead + 1 ≤ sys.ahead := by
  obtain ⟨t, ht, h⟩ := Option.bind_eq_some_iff.mp h
  obtain ⟨⟨env', rest⟩, hfetch, h⟩ := Option.bind_eq_some_iff.mp h
  obtain ⟨r, hr, rfl⟩ := Option.map_eq_some_iff.mp h
  -- only the current thread has steps left
  have hi : i = sys.socket := by
    by_contra hi
    simp [pangoClientStep, hJ.others i hi t ht] at hr
  subst hi
  obtain ⟨hf, -, -⟩ := fetched_of_fetch hfetch
  have hahead : (sys.turn sys.socket rest r).ahead
      = (if sys.bbb.pc = .head then 0 else 1) + 8 * rest.length + r.thread.pc.stepsLeft := by
    unfold System.ahead System.turn
    dsimp only
    rw [Function.update_self, turn_thread_self, Option.elim_some]
  rw [hahead, System.ahead, ht, Option.elim_some]
  by_cases hpc : t.pc = .recv
  · simp only [Fetched, hpc, if_true] at hf
    rcases hf with ⟨f, hq, hrecv⟩ | ⟨hq, hhung⟩
    · have hcheck : r.thread.pc = .check := by
        rw [pangoClientStep_recvFrame hpc hrecv] at hr
        cases hr
        rfl
      rw [hq, hcheck, hpc, List.length_cons]
      simp only [Pc.stepsLeft]
      omega
    · exact absurd hpc (not_recv_of_hungUp hJ.stage hhung t ht)
  · have hlt := Pc.stepsLeft_lt hpc (pc_pangoClientStep hr)
    simp only [Fetched, if_neg hpc] at hf
    rw [hf]
    omega

/-- The `recv` of the BBB works one step off. -/
theorem ahead_receive (hJ : Bond cfg m sys) (h : (system cfg m).step sys .receive = some sys') :
    sys'.ahead + 1 ≤ sys.ahead := by
  have hstage := hJ.stage
  simp only [system] at h
  split at h
  · rename_i reply rest hpc hq
    rw [hpc] at hstage
    obtain ⟨-, hst, -, -, rfl, ⟨location, rfl, hloc⟩, -⟩ := stage_location hstage hq
    simp only [locationBytes, Option.bind_some, System.perform] at h
    rw [Bbb.Main.gotLocation_of_city hst hloc] at h
    cases h
    simp only [System.ahead, hpc, if_true, reduceCtorEq, if_false]
    omega
  · rename_i price seconds rest hpc hq
    simp only [System.perform, Bbb.Main.gotPayment, Bbb.Main.update, List.foldlM, System.act,
      Option.pure_def, Option.bind_eq_bind, Option.bind_some] at h
    cases h
    simp only [System.ahead, hpc, if_true, reduceCtorEq, if_false]
    omega
  · cases h

omit [CDouble D] in
theorem presses_perform {slot : ℕ} {fd : Int} {r : Bbb.Main D × List (Bbb.Action D)}
    (h : sys.perform slot fd r = some sys') : sys'.presses = sys.presses := by
  refine Lts.foldlM_invariant (I := fun u : System D => u.presses = sys.presses) h rfl
    fun u a _ v hu hv => ?_
  cases a with
  | connect ok | send f ok =>
    simp only [System.act] at hv
    split_ifs at hv
    cases hv
    exact hu
  | uart1 | finalPriceForCostumer | close =>
    cases hv
    exact hu

/-- A press that is answered gives work, one that is not gives none. -/
theorem ahead_press {coordinates : Option (UInt8 × UInt8)} {slot : ℕ} {fd : Int}
    (hC : Clean sys (.press coordinates slot fd)) (hJ : Bond cfg m sys)
    (h : (system cfg m).step sys (.press coordinates slot fd) = some sys') :
    sys'.ahead + 9 * sys.presses.reduceOption.length
      ≤ sys.ahead + 9 * sys'.presses.reduceOption.length := by
  have hJ' := bond_press hC hJ h
  simp only [system] at h
  split_ifs at h with hpc
  have hpresses := presses_perform h
  dsimp only at hpresses
  rw [hpresses, List.reduceOption_append, List.length_append]
  cases coordinates with
  | some c =>
    have hone : [sys.answer m (some c)].reduceOption.length = 1 := rfl
    have := ahead_le hJ'
    rw [hone]
    omega
  | none =>
    have hnil : [sys.answer m none].reduceOption.length = 0 := rfl
    rw [hnil]
    suffices hsame : sys'.ahead = sys.ahead by omega
    simp only [System.answer, Option.map_none] at h
    have hpressed := sys.bbb.pressed_cases { uart := none }
    generalize sys.bbb.pressed { uart := none } = r at hpressed h
    cases hpressed with
    | silent _ _ =>
      cases h
      rfl
    | thirdSilent _ _ =>
      -- the BBB does not end in a clean run
      cases h
      have hstage := hJ'.stage
      cases hstage
    | unread huart _ => cases huart
    | noSocket hstart _ | start hstart _ _ | startFails hstart _ _ | startSignal hstart _ _ =>
      cases hstart.uart
    | close hclose _ | closeFails hclose _ | closeSignal hclose _ => cases hclose.uart
    | nothing hanswer _ _ => cases hanswer.uart

/-! ## Somebody can move -/

/-- A thread that has something to do can do it, whatever is answered. -/
theorem client_enabled {t : Thread} (ht : sys.server.thread sys.socket = some t)
    (hdone : t.pc ≠ .done) (hq : t.pc = .recv → sys.toServer sys.socket ≠ []) (env : Env) :
    ∃ sys', (system cfg m).step sys (.client sys.socket env) = some sys' := by
  have hfetch : ∃ fetched, sys.fetch sys.socket t env = some fetched := by
    by_cases hpc : t.pc = .recv
    · obtain ⟨f, rest, hcons⟩ := List.exists_cons_of_ne_nil (hq hpc)
      exact ⟨({ env with recv := recvFrame f }, rest), by rw [System.fetch, if_pos hpc, hcons]⟩
    · exact ⟨(env, sys.toServer sys.socket), if_neg hpc⟩
  obtain ⟨fetched, hfetch⟩ := hfetch
  cases hr : pangoClientStep cfg fetched.1 (sys.server.client sys.socket) t
    sys.server.yourTable with
  | none => exact absurd (pc_of_pangoClientStep_none hr) hdone
  | some r =>
    refine ⟨sys.turn sys.socket fetched.2 r, ?_⟩
    simp only [system, ht, Option.bind_some, hfetch, hr, Option.map_some]

/-- What the BBB remembers of the last press. -/
def Poised (b : Bbb.Main D) : Prop :=
  (b.connected = .notConnected ∧ b.status = Bbb.AppStatus.on) ∨
    (b.connected = .connected ∧ b.status = Bbb.AppStatus.off)

omit [CDouble D] in
theorem poised_of_stage {con : Bbb.IsConnected} {st : UInt8} {L : Link D} {b : Bbb.Main D}
    (hS : Stage m .head con st L) (hcon : b.connected = con) (hst : b.status = st) : Poised b := by
  subst hcon hst
  rcases stage_head hS with ⟨hcon, hst, -⟩ | ⟨hcon, hst, -⟩
  · exact .inl ⟨hcon, hst⟩
  · exact .inr ⟨hcon, hst⟩

/-- **The button may be pressed** while the BBB waits for it, if there is a slot for the
connection. -/
theorem press_enabled (hpc : sys.bbb.pc = .head) (hpoised : Poised sys.bbb)
    {c : UInt8 × UInt8} (hc : c.1 ≤ 127 ∧ c.2 ≤ 127) {slot : ℕ}
    (hslot : sys.server.thread slot = none) (fd : Int) :
    ∃ sys', (system cfg m).step sys (.press (some c) slot fd) = some sys' := by
  rcases hpoised with ⟨hcon, hst⟩ | ⟨hcon, hst⟩
  · have hs : Sound m startApp (Stm.fillSendBuff ⟨Bbb.AppStatus.on, m, c.1, c.2⟩ sys.sendBuff) :=
      sound_answer hc _
    simp only [system, if_pos hpc, System.answer, Option.map_some, Option.getD_some, hst,
      System.perform]
    rw [Bbb.Main.pressed_on hst hcon hs.valid hs.status]
    simp [List.foldlM, System.act, hslot]
  · have hs : Sound m closeApp (Stm.fillSendBuff ⟨Bbb.AppStatus.off, m, c.1, c.2⟩ sys.sendBuff) :=
      sound_answer hc _
    simp only [system, if_pos hpc, System.answer, Option.map_some, Option.getD_some, hst,
      System.perform]
    rw [Bbb.Main.pressed_off hst hcon hs.valid hs.status]
    simp [List.foldlM, System.act]

end Step

/-! ## One device -/

section Run

variable [CDouble D] {cfg : Config D} {m : Buf UInt8 6} {dataBuff : Frame}
  {location : Buf UInt8 12} {payment : D × D} {rows : List Row} {ls : List Label} {sys : System D}

/-- **No idle work.**  In every clean run, from a table without a row for the device, the
threads and the `recv`s of the BBB take nine steps at most for each answered press. -/
theorem work_le (h : (system cfg m).Exec Clean (.start dataBuff location payment rows) ls sys)
    (hrows : selectMac (macKey m) rows = []) :
    (ls.map Label.work).sum ≤ 9 * sys.presses.reduceOption.length := by
  have hrun := (h.strengthen (I := Bond cfg m) (bond_start dataBuff location payment hrows)
    fun _ _ _ hC hJ hs => bond_step hC hJ hs).1
  have hwork := hrun.amortized System.ahead
    (fun sys => 9 * sys.presses.reduceOption.length) Label.work ?_
  · simp only [System.start, System.ahead, Server.State.start, List.length_nil, if_true,
      Option.elim_none, List.reduceOption_nil] at hwork
    omega
  · rintro sys l sys' ⟨hC, hJ⟩ hs
    cases l with
    | press coordinates slot fd => exact ahead_press hC hJ hs
    | receive =>
      have hpresses : sys'.presses = sys.presses := by
        simp only [system] at hs
        split at hs
        · obtain ⟨bytes, -, hs⟩ := Option.bind_eq_some_iff.mp hs
          have hkept := presses_perform hs
          exact hkept
        · have hkept := presses_perform hs
          exact hkept
        · cases hs
      have := ahead_receive hJ hs
      rw [hpresses, Label.work]
      omega
    | client i env =>
      have hpresses : sys'.presses = sys.presses := by
        obtain ⟨t, -, hs⟩ := Option.bind_eq_some_iff.mp hs
        obtain ⟨fetched, -, hs⟩ := Option.bind_eq_some_iff.mp hs
        obtain ⟨r, -, rfl⟩ := Option.map_eq_some_iff.mp hs
        rfl
      have := ahead_client hJ hs
      rw [hpresses, Label.work]
      omega
    | backup clock sqlFails =>
      cases hs
      exact le_rfl

end Run

/-! ## Any number of devices -/

section Fleet

variable {ι : Type*} [DecidableEq ι] [CDouble D] {cfg : Config D} {mac : ι → Buf UInt8 6}
  {owner : ℕ → ι} {d : ι} {F : Fleet ι D} {sys : System D}

/-- What a device may do in the fleet: its BBB receives, or one of its threads has something to
do whatever is answered, or it is at rest and its button may be pressed. -/
def Moving (cfg : Config D) (mac : ι → Buf UInt8 6) (owner : ℕ → ι) (d : ι) (F : Fleet ι D) :
    Prop :=
  (∃ F', (fleet cfg mac owner).step F (.receive d) = some F')
  ∨ (∃ i, owner i = d ∧ ∀ env, ∃ F', (fleet cfg mac owner).step F (.client i env) = some F')
  ∨ (F.device d).bbb.pc = .head ∧ Rested (F.only owner d) ∧
      ∀ (c : UInt8 × UInt8) (slot : ℕ) (fd : Int), c.1 ≤ 127 ∧ c.2 ≤ 127 → owner slot = d →
        F.server.thread slot = none →
        ∃ F', (fleet cfg mac owner).step F (.press d (some c) slot fd) = some F'

/-- **A device can move** in the fleet as it can alone. -/
theorem moving_of_bond (hmac : Function.Injective mac) (hJ : Bond cfg (mac d) sys)
    (hR : SeenBy mac owner d F sys) : Moving cfg mac owner d F := by
  have hrested := hR.rested_iff hmac
  obtain ⟨S, hS⟩ : ∃ S, sys = { F.view d with server := S } := ⟨sys.server, hR.eq⟩
  subst hS
  rcases stage_cases hJ.stage with ⟨hpc, hq, hwait⟩ | ⟨hpc, hst, location, hq, hloc⟩
    | ⟨hpc, price, seconds, hq⟩ | ⟨t, ht, hdone, hq⟩
  · refine .inr (.inr ⟨hpc, hrested.mp ⟨hq, hwait⟩, fun c slot fd hc hslot hfree => ?_⟩)
    have hpc' : (F.view d).bbb.pc = .head := hpc
    have hpoised : Poised (F.view d).bbb := poised_of_stage (hpc ▸ hJ.stage) rfl rfl
    obtain ⟨sys', hstep⟩ : ∃ sys', (system cfg (mac d)).step (F.view d) (.press (some c) slot fd)
        = some sys' := press_enabled hpc' hpoised hc hfree fd
    exact ⟨F.put d sys', by simp only [fleet, if_pos hslot, hstep, Option.map_some]⟩
  · have hpc' : (F.view d).bbb.pc = .location := hpc
    have hst' : (F.view d).bbb.status = Bbb.AppStatus.on := hst
    have hq' : (F.view d).toClient (F.view d).socket = [.location location] := hq
    refine .inl ?_
    simp only [fleet, system, hpc', hq', locationBytes, Option.bind_some, System.perform,
      Bbb.Main.gotLocation_of_city hst' hloc]
    exact ⟨_, rfl⟩
  · have hpc' : (F.view d).bbb.pc = .payment := hpc
    have hq' : (F.view d).toClient (F.view d).socket = [.payment price seconds] := hq
    refine .inl ?_
    simp only [fleet, system, hpc', hq', System.perform, Bbb.Main.gotPayment]
    exact ⟨_, rfl⟩
  · -- the thread is one of the device's own, and the same in the fleet
    have hth : S.thread (F.view d).socket = some t := ht
    have howner : owner (F.view d).socket = d := by
      by_contra hno
      have hnone : S.thread (F.view d).socket = none := (hR.2.alone _ fun heq => hno (hmac heq)).1
      cases hth.symm.trans hnone
    have hth' : F.server.thread (F.view d).socket = some t :=
      (hR.2.agree.thread _ (congrArg mac howner)).trans hth
    refine .inr (.inl ⟨_, howner, fun env => ?_⟩)
    obtain ⟨sys', hstep⟩ : ∃ sys', (system cfg (mac d)).step (F.view d)
        (.client (F.view d).socket env) = some sys' := client_enabled hth' hdone hq env
    exact ⟨F.put d sys', by simp only [fleet, howner, hstep, Option.map_some]⟩

/-- **No device waits for another.**  In every run of the fleet in which the presses of the device
are clean and its calls work, its threads and the `recv`s of its BBB take nine steps at most for
each of its answered presses; and at every moment one of these steps is possible, or the device
is at rest and its button may be pressed, whatever the other devices do or fail to do. -/
theorem fleet_comes_to_rest (hmac : Function.Injective mac)
    {buffers : ι → Frame × Buf UInt8 12 × (D × D)} {rows : List Row} {ls : List (FleetLabel ι)}
    (h : (fleet cfg mac owner).Exec (CleanFor owner d) (.start buffers rows) ls F)
    (hrows : selectMac (macKey (mac d)) rows = []) :
    ((ls.filterMap (FleetLabel.seenBy owner d)).map Label.work).sum
        ≤ 9 * (F.device d).presses.reduceOption.length ∧
      Moving cfg mac owner d F := by
  obtain ⟨sys, hexec, hseen⟩ := seen_of_exec hmac h
  have hpresses : sys.presses = (F.device d).presses := congrArg Device.presses hseen.1
  exact ⟨hpresses ▸ work_le hexec hrows, moving_of_bond hmac (bond_of_exec hexec hrows) hseen⟩

end Fleet

/-- The first device parks while the second fails: fifteen of its steps are for its two presses. -/
theorem fleet_comes_to_rest_beside : ∃ F : Fleet Bool Int,
    (F.device false).presses.reduceOption.length = 2 ∧
      ((parkBeside.filterMap (FleetLabel.seenBy (fun i => decide (i = 1)) false)).map
        Label.work).sum = 15 ∧
      Moving samplePrices twoMacs (fun i => decide (i = 1)) false F := by
  have hrun : ((fleet samplePrices twoMacs fun i => decide (i = 1)).runIf
      (CleanFor (fun i => decide (i = 1)) false)
      (.start (fun _ => (.fill 10 0, .fill 12 0, (0, 0))) []) parkBeside).map (fun F =>
        (F.device false).presses.reduceOption.length) = some 2 := by decide +kernel
  obtain ⟨F, hF, hpresses⟩ := Option.map_eq_some_iff.mp hrun
  have hmac : Function.Injective twoMacs := by decide
  exact ⟨F, hpresses, by decide, (fleet_comes_to_rest hmac (Lts.exec_of_runIf _ hF) rfl).2⟩

end Pango.Joint
