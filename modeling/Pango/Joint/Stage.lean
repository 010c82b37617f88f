import Pango.Joint.Machine
import Pango.Server.Receipts
import Pango.Wire.RoundTrip

/-!
# How far a connection has got

In a clean run the BBB, the wire and the thread of the current connection are
always at one of nine stages, from one press to the next: the request is on the
wire, the thread checks it, registers or resumes the parking, answers, waits for
the end, and so on to the payment.  Naming them is what makes the joint invariant
small: most combinations of program points of the three programs never occur, and
a stage says which do, with what is on the wire and what the variables hold.

A stage is a predicate of the connection alone, so that it does not see the steps of
other connections, and of the server's clock readings it knows only that of the start.

* `Sound` — what a frame on the wire is, as the board made it.
* `Stage` — the stages.
* `drives_of_stage` — in each of them the device drives its connection as it should.
* `stage_pangoClientStep` — a step of the thread leads from one to the next.
-/

namespace Pango.Joint

open Server

variable {D : Type*}

/-! ## The stages -/

/-- The current connection: its thread and its slot, what is on the wire, and the
parking the meter shows. -/
structure Link (D : Type*) where
  thread : Option Thread
  client : PangoData D
  toServer : List Frame
  toClient : List (Reply D)
  hungUp : Bool
  parking : Option Parking

/-- A frame of the board, from within the map. -/
structure Sound (m : Buf UInt8 6) (status : UInt8) (f : Frame) : Prop where
  valid : CrcValid f
  status : f.status = status
  mac : f.mac = m.toList
  x : f.x ≤ 127
  y : f.y ≤ 127

/-- The slot of a connection that is being registered will have a city. -/
def InPlace (client : PangoData D) : Pc → Prop
  | .exist | .init => client.xAxis ≤ 127 ∧ client.yAxis ≤ 127
  | .process | .sendLocation => cstr client.location.toList ≠ errorText
  | _ => False

/-- The stages of a connection. -/
inductive Stage (m : Buf UInt8 6) : Bbb.Pc → Bbb.IsConnected → UInt8 → Link D → Prop
  /-- Nobody parks. -/
  | idle {thread : Option Thread} {client : PangoData D} {hungUp : Bool}
      (hover : ∀ t ∈ thread, t.pc.over = true) :
      Stage m .head .notConnected Bbb.AppStatus.on ⟨thread, client, [], [], hungUp, none⟩
  /-- The first frame is on the wire. -/
  | starting {t : Thread} {client : PangoData D} {f : Frame} (he : t.Early) (hpc : t.pc = .recv)
      (hf : Sound m startApp f) :
      Stage m .location .notConnected Bbb.AppStatus.on ⟨some t, client, [f], [], false, none⟩
  /-- It has been received. -/
  | heard {t : Thread} {client : PangoData D} (he : t.Early) (hpc : t.pc = .check)
      (hx : t.clientDataBuff.x ≤ 127) (hy : t.clientDataBuff.y ≤ 127) :
      Stage m .location .notConnected Bbb.AppStatus.on ⟨some t, client, [], [], false, none⟩
  /-- The parking is being registered. -/
  | registering {t : Thread} {client : PangoData D} {parking : Option Parking}
      (h : InPlace client t.pc) :
      Stage m .location .notConnected Bbb.AppStatus.on ⟨some t, client, [], [], false, parking⟩
  /-- The location is on the wire. -/
  | greeted {t : Thread} {client : PangoData D} {location : Buf UInt8 12} {parking : Option Parking}
      (hpc : t.pc = .setConnected ∨ t.pc = .recv) (hst : t.status = startApp)
      (hloc : cstr location.toList ≠ errorText) :
      Stage m .location .notConnected Bbb.AppStatus.on
        ⟨some t, client, [], [.location location], false, parking⟩
  /-- The BBB has received it. -/
  | parked {t : Thread} {client : PangoData D} {parking : Option Parking}
      (hpc : t.pc = .setConnected ∨ t.pc = .recv) (hst : t.status = startApp) :
      Stage m .head .connected Bbb.AppStatus.off ⟨some t, client, [], [], false, parking⟩
  /-- The last frame is on the wire. -/
  | closing {t : Thread} {client : PangoData D} {f : Frame} {parking : Option Parking}
      (hpc : t.pc = .recv) (hst : t.status = startApp) (hf : Sound m closeApp f) :
      Stage m .payment .connected Bbb.AppStatus.off ⟨some t, client, [f], [], false, parking⟩
  /-- The parking is being closed. -/
  | ending {t : Thread} {client : PangoData D} {parking : Option Parking} (he : ¬ t.Early)
      (hpc : t.pc = .check ∨ t.pc = .close ∨ t.pc = .pay) :
      Stage m .payment .connected Bbb.AppStatus.off ⟨some t, client, [], [], false, parking⟩
  /-- The bill is on the wire. -/
  | billed {t : Thread} {client : PangoData D} {price seconds : D} (hover : t.pc.over = true) :
      Stage m .payment .connected Bbb.AppStatus.off
        ⟨some t, client, [], [.payment price seconds], false, none⟩

/-- What the thread is given if it calls `recv`, and what is left on the wire. -/
def Fetched (toServer : List Frame) (hungUp : Bool) (t : Thread) (env : Env) (rest : List Frame) :
    Prop :=
  if t.pc = .recv then
    (∃ f, toServer = f :: rest ∧ env.recv = recvFrame f) ∨ toServer = [] ∧ hungUp = true
  else rest = toServer

theorem fetched_of_fetch {sys : System D} {i : ℕ} {t : Thread} {env env' : Env} {rest : List Frame}
    (h : sys.fetch i t env = some (env', rest)) :
    Fetched (sys.toServer i) (sys.hungUp i) t env' rest ∧ env'.sqlFails = env.sqlFails ∧
      env'.sendFails = env.sendFails := by
  unfold System.fetch at h
  unfold Fetched
  by_cases hpc : t.pc = .recv
  · rw [if_pos hpc] at h ⊢
    cases hq : sys.toServer i with
    | nil =>
      simp only [hq] at h
      split_ifs at h with hh
      cases h
      exact ⟨.inr ⟨rfl, hh⟩, rfl, rfl⟩
    | cons f fs =>
      simp only [hq] at h
      cases h
      exact ⟨.inl ⟨f, rfl, rfl⟩, rfl, rfl⟩
  · rw [if_neg hpc] at h ⊢
    cases h
    exact ⟨rfl, rfl, rfl⟩

/-! ## Cities -/

theorem cityName_ne_errorText {x y : UInt8} (hx : x ≤ 127) (hy : y ≤ 127) :
    cityName x y ≠ errorText := by
  have hx' : ¬ (x < 0 ∨ x > 127 ∨ y < 0 ∨ y > 127) := by
    rintro (h | h | h | h)
    · exact absurd h (by simp)
    · exact absurd hx (UInt8.not_le.mpr h)
    · exact absurd h (by simp)
    · exact absurd hy (UInt8.not_le.mpr h)
  rw [cityName, if_neg hx']
  split_ifs <;> decide

/-! ## A step of the thread -/

section Step

variable [CDouble D] {cfg : Config D} {m : Buf UInt8 6} {pc : Bbb.Pc} {con : Bbb.IsConnected}
  {st : UInt8} {L : Link D} {t : Thread} {env : Env} {rest : List Frame} {rows : List Row}
  {r : Turn D} {i : ℕ} {M : Meter}

omit [CDouble D] in
/-- The thread is given what the device is expected to send. -/
theorem drives_of_stage (hS : Stage m pc con st L) (ht : L.thread = some t)
    (hf : Fetched L.toServer L.hungUp t env rest) : Drives m env t := by
  have hframe : ∀ f : Frame, env.recv = recvFrame f → f ∈ env.recv.frame? := by
    intro f hf
    rw [hf]
    simp [recvFrame, Recv.frame?, f.length_eq]
  intro hpc
  unfold Fetched at hf
  rw [if_pos hpc] at hf
  have hempty : L.toServer = [] → L.hungUp = false → False := by
    intro he hh
    rcases hf with ⟨f, hq, -⟩ | ⟨-, hq⟩
    · rw [he] at hq
      cases hq
    · rw [hh] at hq
      cases hq
  cases hS with
  | idle hover =>
    have := hover t ht
    rw [hpc] at this
    cases this
  | starting he _ hs =>
    cases ht
    rcases hf with ⟨f, hq, hrecv⟩ | ⟨hq, -⟩
    · cases hq
      rw [if_pos he.1]
      exact ⟨_, hframe _ hrecv, hs.valid, hs.status, hs.mac⟩
    · cases hq
  | heard _ hpc' =>
    cases ht
    cases hpc.symm.trans hpc'
  | registering h =>
    cases ht
    rw [hpc] at h
    exact h.elim
  | greeted | parked => exact (hempty rfl rfl).elim
  | closing _ hst hs =>
    cases ht
    rcases hf with ⟨f, hq, hrecv⟩ | ⟨hq, -⟩
    · cases hq
      rw [if_neg (by rw [hst]; decide)]
      exact .inr ⟨_, hframe _ hrecv, hs.valid, hs.status, hs.mac⟩
    · cases hq
  | ending _ hpc' =>
    cases ht
    rw [hpc] at hpc'
    rcases hpc' with h | h | h <;> cases h
  | billed hover =>
    cases ht
    rw [hpc] at hover
    cases hover

omit [CDouble D] in
theorem over_cases (h : t.pc.over = true) : t.pc = .remove ∨ t.pc = .closeFd ∨ t.pc = .done := by
  cases hpc : t.pc <;> simp [hpc, Pc.over] at h ⊢

/-- A thread that is over goes on to its end, and nothing more is heard of it. -/
theorem over_pangoClientStep {client : PangoData D}
    (h : pangoClientStep cfg env client t rows = some r)
    (hover : t.pc.over = true) : r.thread.pc.over = true ∧ r.events.filterMap delivered = [] := by
  rcases over_cases hover with hpc | hpc | hpc
  · simp only [pangoClientStep, hpc, removeClientData] at h
    cases h
    exact ⟨rfl, rfl⟩
  · simp only [pangoClientStep, hpc] at h
    cases h
    exact ⟨rfl, rfl⟩
  · simp [pangoClientStep, hpc] at h

/-- A thread that waits for the next frame, none of which is on the wire, does no
more than mark its slot connected. -/
theorem waiting_pangoClientStep {client : PangoData D} (hpc : t.pc = .setConnected ∨ t.pc = .recv)
    (hst : t.status = startApp) (hf : Fetched [] false t env rest)
    (h : pangoClientStep cfg env client t rows = some r) :
    r.thread.pc = .recv ∧ r.thread.status = startApp ∧ rest = [] ∧ r.events = [] := by
  unfold Fetched at hf
  rcases hpc with hpc | hpc
  · rw [if_neg (by rw [hpc]; decide)] at hf
    simp only [pangoClientStep, hpc] at h
    cases h
    exact ⟨rfl, hst, hf, rfl⟩
  · rw [if_pos hpc] at hf
    rcases hf with ⟨f, hq, -⟩ | ⟨-, hq⟩ <;> cases hq

/-- A step that neither reads the clock nor pays leaves the parking on the meter as it is. -/
theorem parking_after (h : pangoClientStep cfg env L.client t rows = some r)
    (hpc : t.pc ≠ .init ∧ t.pc ≠ .retriev ∧ t.pc ≠ .close ∧ t.pc ≠ .update ∧ t.pc ≠ .pay) :
    (M.after i r.events).parking = M.parking :=
  parking_of_quiet (by simpa using quiet_pangoClientStep h hpc) M

theorem stage_registering {client : PangoData D} (h : InPlace client t.pc)
    (hshape : Shape m client t) (hsql : env.sqlFails = []) (hsend : env.sendFails = false)
    (hrows : t.pc = .exist → selectMac (macKey m) rows = [])
    (hr : pangoClientStep cfg env client t rows = some r) {parking : Option Parking} :
    Stage m .location .notConnected Bbb.AppStatus.on
      ⟨some r.thread, r.client, [], r.events.filterMap delivered, false, parking⟩ := by
  cases hpc : t.pc with
  | exist =>
    rw [hpc] at h
    obtain ⟨hmac, hH, -⟩ := hshape.2 (not_early_of_pc (by rw [hpc]; decide) (by rw [hpc]; decide))
    simp only [Heard, hpc] at hH
    simp only [pangoClientStep, hpc, Env.fails_of_nil hsql, clinetExistInDatabaseCheck_of_ok, hmac,
      hrows hpc, hH.2.2.2] at hr
    cases hr
    exact .registering h
  | init =>
    rw [hpc] at h
    simp only [pangoClientStep, hpc] at hr
    cases hr
    refine .registering ?_
    simp only [InPlace, initializeAndGetStartTime, cstr_locationFunc]
    exact cityName_ne_errorText h.1 h.2
  | process =>
    rw [hpc] at h
    simp only [pangoClientStep, hpc, processClientData_of_ok hsql] at hr
    cases hr
    exact .registering h
  | sendLocation =>
    rw [hpc] at h
    obtain ⟨-, hH, -⟩ := hshape.2 (not_early_of_pc (by rw [hpc]; decide) (by rw [hpc]; decide))
    simp only [Heard, hpc] at hH
    simp only [pangoClientStep, hpc, hsend] at hr
    cases hr
    exact .greeted (.inl rfl) hH.2 h
  | recv | lost | check | retriev | setConnected | close | pay | remove | update | sendErrMsg
  | closeFd | done =>
    rw [hpc] at h
    exact h.elim

theorem stage_ending {client : PangoData D} (he : ¬ t.Early)
    (hpc : t.pc = .check ∨ t.pc = .close ∨ t.pc = .pay) (hshape : Shape m client t)
    (hsql : env.sqlFails = []) (hsend : env.sendFails = false)
    (hr : pangoClientStep cfg env client t rows = some r) :
    Stage m .payment .connected Bbb.AppStatus.off
      ⟨some r.thread, r.client, [], r.events.filterMap delivered, false,
       (M.after i r.events).parking⟩ := by
  obtain ⟨-, hH, -⟩ := hshape.2 he
  rcases hpc with hpc | hpc | hpc <;> simp only [Heard, hpc] at hH
  · obtain ⟨b, -, hstep⟩ := pangoClientStep_check cfg env client rows hpc hH.2.2.1
      (by rw [hH.2.1]; decide)
    rw [hstep] at hr
    cases hr
    have hsw : switchStatus t.clientDataBuff.status = .close := by
      rw [hH.2.2.2, switchStatus_closeApp]
    refine .ending (not_early_of_pc ?_ ?_) (.inr (.inl hsw)) <;> simp [hsw]
  · rw [pangoClientStep_close hpc hH.2 hsql] at hr
    cases hr
    exact .ending (not_early_of_pc (by simp) (by simp)) (.inr (.inr rfl))
  · simp only [pangoClientStep, hpc, hsend, calculateAndSendPaymentData] at hr
    cases hr
    exact .billed rfl

/-- **One step** of the thread leads to the same stage or to the next. -/
theorem stage_pangoClientStep (hS : Stage m pc con st L) (ht : L.thread = some t)
    (hf : Fetched L.toServer L.hungUp t env rest) (hsql : env.sqlFails = [])
    (hsend : env.sendFails = false) (hshape : Shape m L.client t) (hM : M.parking = L.parking)
    (hrows : t.pc = .exist → selectMac (macKey m) rows = [])
    (hr : pangoClientStep cfg env L.client t rows = some r) :
    Stage m pc con st ⟨some r.thread, r.client, rest, L.toClient ++ r.events.filterMap delivered,
      L.hungUp, (M.after i r.events).parking⟩ := by
  -- off `recv`, the wire to the server stays as it is
  have hrest : t.pc ≠ .recv → rest = L.toServer := fun hpc => by
    unfold Fetched at hf
    rwa [if_neg hpc] at hf
  have hquiet := parking_after (M := M) (i := i) hr
  cases hS with
  | idle hover =>
    obtain ⟨hover', hdel⟩ := over_pangoClientStep hr (hover t ht)
    have hpc := over_cases (hover t ht)
    rw [hrest (by rcases hpc with h | h | h <;> simp [h]), hdel,
      hquiet (by rcases hpc with h | h | h <;> simp [h]), hM]
    exact .idle fun u hu => Option.some.inj hu ▸ hover'
  | starting he hpc hs =>
    cases ht
    unfold Fetched at hf
    rw [if_pos hpc] at hf
    rcases hf with ⟨f, hq, hrecv⟩ | ⟨hq, -⟩
    · cases hq
      rw [hquiet (by simp [hpc]), hM]
      rw [pangoClientStep_recvFrame hpc hrecv] at hr
      cases hr
      exact .heard ⟨he.1, .inr rfl⟩ rfl hs.x hs.y
    · cases hq
  | heard he hpc hx hy =>
    cases ht
    rw [hrest (by simp [hpc]), hquiet (by simp [hpc]), hM]
    have hU := hshape.1 he
    obtain ⟨hv, hstart, -⟩ := hU.buff hpc
    obtain ⟨b, -, hstep⟩ := pangoClientStep_check cfg env _ rows hpc hv (by rw [he.1]; decide)
    rw [hstep] at hr
    cases hr
    have hsw : switchStatus t.clientDataBuff.status = .exist := by
      rw [hstart, switchStatus_startApp]
    refine .registering ?_
    simp only [hsw]
    exact ⟨hx, hy⟩
  | registering h =>
    cases ht
    have hrecv : t.pc ≠ .recv := fun hpc => by
      rw [hpc] at h
      exact h
    rw [hrest hrecv]
    exact stage_registering h hshape hsql hsend hrows hr
  | greeted hpc hst hloc =>
    cases ht
    obtain ⟨hpc', hst', hrest', hev⟩ := waiting_pangoClientStep hpc hst hf hr
    rw [hrest', hev]
    exact .greeted (.inr hpc') hst' hloc
  | parked hpc hst =>
    cases ht
    obtain ⟨hpc', hst', hrest', hev⟩ := waiting_pangoClientStep hpc hst hf hr
    rw [hrest', hev]
    exact .parked (.inr hpc') hst'
  | closing hpc hst hs =>
    cases ht
    unfold Fetched at hf
    rw [if_pos hpc] at hf
    rcases hf with ⟨f, hq, hrecv⟩ | ⟨hq, -⟩
    · cases hq
      rw [pangoClientStep_recvFrame hpc hrecv] at hr
      cases hr
      refine .ending (not_early_of_status hst) (.inl rfl)
    · cases hq
  | ending he hpc =>
    cases ht
    rw [hrest (by rcases hpc with h | h | h <;> simp [h])]
    exact stage_ending he hpc hshape hsql hsend hr
  | billed hover =>
    cases ht
    obtain ⟨hover', hdel⟩ := over_pangoClientStep hr hover
    have hpc := over_cases hover
    rw [hrest (by rcases hpc with h | h | h <;> simp [h]), hdel,
      hquiet (by rcases hpc with h | h | h <;> simp [h]), hM]
    exact .billed hover'

end Step

end Pango.Joint
