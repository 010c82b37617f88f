import Pango.Bbb.Loop
import Pango.Joint.Agreement
import Pango.Server.Isolation

/-!
# Any number of devices

Any number of devices share one server: each has a board, a BBB and wires of its
own, and the slots its connections are accepted into.  They press their buttons when
they like, their coordinates may be off the map, the server's calls may fail for them, and
their threads run between any two steps of each other's.  A device sees of all this what
it would see if it were alone.

That has to be shown for a device that behaves, with little known of the others: their
boards put their own addresses into their frames, and nothing is said of when they press
and of what becomes of their parkings.

* `fleet` — the transition system.
* `Sees` — the device alone and the device in the fleet, next to each other.
* `seen_of_exec` — **projection**: a run of the fleet, as one of its devices sees it,
  is a run of the system with this device only.
* `fleet_agreement` — so a device whose presses are clean agrees with the server,
  whatever the other devices do.
-/

namespace Pango.Joint

open Server (Event Reply Thread PangoData macKey selectMac eventsOf Agree Alone AllFiled)

variable {ι D : Type*}

/-! ## Devices -/

/-- A device: its board, its BBB, and the wires of its connections. -/
structure Device (D : Type*) where
  bbb : Bbb.Main D
  sendBuff : Frame
  socket : ℕ
  toServer : ℕ → List Frame
  toClient : ℕ → List (Reply D)
  hungUp : ℕ → Bool
  presses : List (Option Frame)
  sent : List Frame
  receipts : List (D × D)

/-- The system of a device and a server. -/
def Device.beside (d : Device D) (server : Server.State D) : System D where
  bbb := d.bbb
  sendBuff := d.sendBuff
  server := server
  socket := d.socket
  toServer := d.toServer
  toClient := d.toClient
  hungUp := d.hungUp
  presses := d.presses
  sent := d.sent
  receipts := d.receipts

/-- All of a system but the server. -/
def System.device (sys : System D) : Device D where
  bbb := sys.bbb
  sendBuff := sys.sendBuff
  socket := sys.socket
  toServer := sys.toServer
  toClient := sys.toClient
  hungUp := sys.hungUp
  presses := sys.presses
  sent := sys.sent
  receipts := sys.receipts

@[simp] theorem device_beside (d : Device D) (s : Server.State D) : (d.beside s).device = d := rfl

theorem beside_device (sys : System D) : sys.device.beside sys.server = sys := rfl

/-! ## The fleet -/

/-- The devices and their server. -/
structure Fleet (ι D : Type*) where
  device : ι → Device D
  server : Server.State D

inductive FleetLabel (ι : Type*)
  | press (d : ι) (coordinates : Option (UInt8 × UInt8)) (slot : ℕ) (fd : Int)
  | receive (d : ι)
  | client (i : ℕ) (env : Server.Env)
  | backup (clock : ℕ → Int) (sqlFails : List ℕ)

namespace Fleet

/-- All programs at their start; the buffers of the BBBs hold anything. -/
def start [CDouble D] (buffers : ι → Frame × Buf UInt8 12 × (D × D)) (rows : List Server.Row) :
    Fleet ι D where
  device d := (System.start (buffers d).1 (buffers d).2.1 (buffers d).2.2 rows).device
  server := .start rows

variable (F : Fleet ι D)

/-- A device and the server. -/
def view (d : ι) : System D := (F.device d).beside F.server

/-- Put a step of a device, or of a thread it is connected to, into the fleet. -/
def put [DecidableEq ι] (d : ι) (sys : System D) : Fleet ι D where
  device := Function.update F.device d sys.device
  server := sys.server

end Fleet

/-- The fleet of the boards `mac`; a connection that is accepted into slot `i` is
one of device `owner i`. -/
def fleet [CDouble D] [DecidableEq ι] (cfg : Server.Config D) (mac : ι → Buf UInt8 6)
    (owner : ℕ → ι) : Lts (Fleet ι D) (FleetLabel ι) where
  step F
    | .press d coordinates slot fd =>
      if owner slot = d then
        ((system cfg (mac d)).step (F.view d) (.press coordinates slot fd)).map (F.put d)
      else none
    | .receive d => ((system cfg (mac d)).step (F.view d) .receive).map (F.put d)
    | .client i env =>
      ((system cfg (mac (owner i))).step (F.view (owner i)) (.client i env)).map (F.put (owner i))
    | .backup clock sqlFails => some { F with
        server := F.server.backedUp cfg.updateThreadMaxNumClients clock sqlFails }

/-- What a device knows of a step. -/
def FleetLabel.seenBy [DecidableEq ι] (owner : ℕ → ι) (d : ι) : FleetLabel ι → Option Label
  | .press e coordinates slot fd => if e = d then some (.press coordinates slot fd) else none
  | .receive e => if e = d then some .receive else none
  | .client i env => if owner i = d then some (.client i env) else none
  | .backup clock sqlFails => some (.backup clock sqlFails)

/-- The server with the connections of some slots only. -/
def only [CDouble D] (p : ℕ → Prop) [DecidablePred p] (s : Server.State D) : Server.State D where
  client i := if p i then s.client i else .zero
  thread i := if p i then s.thread i else none
  yourTable := s.yourTable
  trace := s.trace.filter fun
    | (.client i, _) => decide (p i)
    | (.dbUpdate, _) => true

/-- A device and the server, with the connections of this device only. -/
def Fleet.only [CDouble D] [DecidableEq ι] (F : Fleet ι D) (owner : ℕ → ι) (d : ι) : System D :=
  (F.device d).beside (Joint.only (owner · = d) F.server)

/-- The presses of the device `d` are clean, and the calls of its threads work. -/
def CleanFor [CDouble D] [DecidableEq ι] (owner : ℕ → ι) (d : ι) (F : Fleet ι D)
    (l : FleetLabel ι) : Prop :=
  ∀ l' ∈ l.seenBy owner d, Clean (F.only owner d) l'

instance [CDouble D] [DecidableEq ι] (owner : ℕ → ι) (d : ι) (F : Fleet ι D) (l : FleetLabel ι) :
    Decidable (CleanFor owner d F l) := Option.decidableForallMem _

/-! ## What the BBB sends -/

section Actions

variable {sys t : System D} {slot : ℕ} {fd : Int} {as : List (Bbb.Action D)}

/-- What holds of the server before actions of a BBB holds after them, if it survives the
opening of a connection. -/
theorem server_of_acts {P : Server.State D → Prop}
    (h : as.foldlM (System.act slot fd) sys = some t)
    (hopen : ∀ ok, .connect ok ∈ as → ∀ s, s.thread slot = none → P s → P (s.accepted slot fd))
    (hP : P sys.server) : P t.server := by
  refine Lts.foldlM_invariant (I := fun u : System D => P u.server) h hP fun sys a ha u hP hu => ?_
  cases a with
  | connect ok =>
    simp only [System.act] at hu
    split_ifs at hu with hok
    cases hu
    exact hopen ok ha _ hok.2 hP
  | send f ok =>
    simp only [System.act] at hu
    split_ifs at hu
    cases hu
    exact hP
  | uart1 | finalPriceForCostumer | close =>
    cases hu
    exact hP

/-- What is on the wires after actions was there before or is sent by them. -/
theorem wires_of_acts {P : Frame → Prop} {b : Bbb.Main D}
    (h : as.foldlM (System.act slot fd) sys = some t) (hb : sys.bbb = b)
    (hP : ∀ i, ∀ f ∈ sys.toServer i, P f) (hsend : ∀ f ok, .send f ok ∈ as → P f) :
    t.bbb = b ∧ ∀ i, ∀ f ∈ t.toServer i, P f := by
  refine Lts.foldlM_invariant (I := fun u : System D => u.bbb = b ∧ ∀ i, ∀ f ∈ u.toServer i, P f) h
    ⟨hb, hP⟩ fun sys a ha u hJ hu => ?_
  obtain ⟨hb, hP⟩ := hJ
  cases a with
  | connect ok =>
    simp only [System.act] at hu
    split_ifs at hu
    cases hu
    exact ⟨hb, hP⟩
  | send f ok =>
    simp only [System.act] at hu
    split_ifs at hu
    cases hu
    refine ⟨hb, fun i g hg => ?_⟩
    dsimp only at hg
    by_cases hi : i = sys.socket
    · subst hi
      rw [Function.update_self] at hg
      rcases List.mem_append.mp hg with hg | hg
      · exact hP _ g hg
      · exact List.mem_singleton.mp hg ▸ hsend f ok ha
    · rw [Function.update_of_ne hi] at hg
      exact hP i g hg
  | uart1 | finalPriceForCostumer | close =>
    cases hu
    exact ⟨hb, hP⟩

end Actions

section Sends

variable {b : Bbb.Main D}

/-- After a press that the board answers, its answer is what is sent, and what is kept. -/
theorem pressed_sends (f : Frame) :
    (∀ g ok, .send g ok ∈ (b.pressed { uart := some f.toList }).2 → g = f) ∧
      ((b.pressed { uart := some f.toList }).1.pc = .location →
        (b.pressed { uart := some f.toList }).1.dataBuff = f) := by
  have hread : ∀ {bytes}, some f.toList = some bytes → (b.read bytes).dataBuff = f := fun h => by
    cases h
    exact Buf.write_full _ _
  have hhead : ∀ b : Bbb.Main D, b.update.pc = .location → b.update.dataBuff = f :=
    fun _ h => absurd h (by simp [Bbb.Main.update])
  have h := b.pressed_cases { uart := some f.toList }
  generalize b.pressed { uart := some f.toList } = r at h ⊢
  cases h with
  | silent huart _ | thirdSilent huart _ => cases huart
  | unread _ _ | nothing _ _ _ => exact ⟨by simp, hhead _⟩
  | noSocket _ _ => exact ⟨by simp, by simp⟩
  | start hstart _ _ => exact ⟨by simp [hread hstart.uart], fun _ => hread hstart.uart⟩
  | startFails hstart _ _ => exact ⟨by simp [hread hstart.uart], hhead _⟩
  | startSignal hstart _ _ => exact ⟨by simp [hread hstart.uart], by simp⟩
  | close hclose _ | closeFails hclose _ | closeSignal hclose _ =>
    exact ⟨by simp [hread hclose.uart, Bbb.restart], by simp⟩

/-- After one that it does not answer, nothing is sent. -/
theorem pressed_none_sends (hpc : b.pc = .head) :
    (∀ g ok, .send g ok ∉ (b.pressed { uart := none }).2) ∧
      (b.pressed { uart := none }).1.pc ≠ .location := by
  simp only [Bbb.Main.pressed]
  split_ifs
  · exact ⟨by simp [Bbb.Main.closeResources], by simp [Bbb.Main.closeResources]⟩
  · exact ⟨by simp, by simp [hpc]⟩

/-- After the answer of the server the loop is not in the same `recv` again; it opens no
connection, and sends what it has kept at most. -/
theorem gotLocation_sends (received : Option (List UInt8)) (send : Bbb.Sending) :
    (b.gotLocation received send).1.pc ≠ .location ∧
      (∀ g ok, .send g ok ∈ (b.gotLocation received send).2 → g = b.dataBuff) ∧
      ∀ ok, .connect ok ∉ (b.gotLocation received send).2 := by
  have hclose : ∀ b : Bbb.Main D, (b.closeApp send).1.pc ≠ .location ∧
      (∀ g ok, .send g ok ∈ (b.closeApp send).2 → g = b.dataBuff) ∧
      ∀ ok, .connect ok ∉ (b.closeApp send).2 := by
    intro b
    unfold Bbb.Main.closeApp
    split_ifs
    · cases send <;> simp [Bbb.Main.closeResources]
    · simp [Bbb.Main.update]
  cases received with
  | none =>
    simp only [Bbb.Main.gotLocation, Bbb.Main.afterExchange, if_neg (Bbb.ne_error 255)]
    exact hclose _
  | some bytes =>
    simp only [Bbb.Main.gotLocation, Bbb.Main.afterExchange, if_neg (Bbb.ne_error 0)]
    exact hclose _

theorem gotPayment_sends (received : Option (D × D)) :
    (b.gotPayment received).1.pc ≠ .location ∧
      (∀ g ok, .send g ok ∉ (b.gotPayment received).2) ∧
      ∀ ok, .connect ok ∉ (b.gotPayment received).2 := by
  cases received <;> simp [Bbb.Main.gotPayment, Bbb.Main.closeResources, Bbb.Main.update]

end Sends

/-! ## What one device sees of a step of another -/

/-- The server `s'` is what the device `m` sees of the server `s`. -/
structure Sees [CDouble D] (macOf : ℕ → Buf UInt8 6) (m : Buf UInt8 6) (s s' : Server.State D) :
    Prop where
  agree : Agree macOf m s s'
  alone : Alone macOf m s'
  record : eventsOf (soleDevice m · = m) s'.trace = eventsOf (macOf · = m) s.trace

section Sees

variable [CDouble D] {cfg : Server.Config D} {macOf : ℕ → Buf UInt8 6} {m : Buf UInt8 6}
  {s s' : Server.State D} {sys t : System D} {slot i : ℕ} {fd : Int}

theorem sees_start (rows : List Server.Row) :
    Sees macOf m (.start rows : Server.State D) (.start rows) :=
  ⟨⟨rfl, fun _ _ => rfl, fun _ _ => rfl, rfl⟩, fun _ _ => ⟨rfl, rfl⟩, rfl⟩

theorem sees_accepted (hslot : macOf slot = m) (hR : Sees macOf m s s') (fd : Int) :
    Sees macOf m (s.accepted slot fd) (s'.accepted slot fd) := by
  refine ⟨Server.agree_accepted hR.agree fd, fun j hj => ?_, hR.record⟩
  have hjs : j ≠ slot := by
    rintro rfl
    exact hj hslot
  rw [Server.accepted_thread_of_ne s' fd hjs, Server.accepted_client_of_ne s' fd hjs]
  exact hR.alone j hj

theorem sees_accepted_of_ne (hslot : macOf slot ≠ m) (hR : Sees macOf m s s') (fd : Int) :
    Sees macOf m (s.accepted slot fd) s' := by
  have hjs : ∀ j, macOf j = m → j ≠ slot := by
    rintro j hj rfl
    exact hslot hj
  refine ⟨⟨hR.agree.rows, fun j hj => ?_, fun j hj => ?_, hR.agree.events⟩, hR.alone, hR.record⟩
  · rw [Server.accepted_client_of_ne s fd (hjs j hj), hR.agree.client j hj]
  · rw [Server.accepted_thread_of_ne s fd (hjs j hj), hR.agree.thread j hj]

omit [CDouble D] in
/-- A device sees all that its threads do. -/
theorem events_of_agree (hi : macOf i = m) (hR : Agree macOf m s s') {r r' : Server.Turn D}
    (hagree : Agree macOf m (s.turn i r) (s'.turn i r')) : r'.events = r.events := by
  have hev := hagree.events
  rw [Server.eventsOf_turn (macOf · = m) s hi, Server.eventsOf_turn (macOf · = m) s' hi,
    hR.events] at hev
  exact (List.map_injective_iff.mpr (Prod.mk_right_injective i) (List.append_cancel_left hev)).symm

theorem sees_turn (hi : macOf i = m) (hR : Sees macOf m s s') {r r' : Server.Turn D}
    (hagree : Agree macOf m (s.turn i r) (s'.turn i r')) :
    Sees macOf m (s.turn i r) (s'.turn i r') := by
  refine ⟨hagree, fun j hj => ?_, ?_⟩
  · have hji : j ≠ i := by
      rintro rfl
      exact hj hi
    rw [Server.turn_thread_of_ne s' r' hji, Server.turn_client_of_ne s' r' hji]
    exact hR.alone j hj
  · rw [Server.eventsOf_turn (soleDevice m · = m) s' rfl, Server.eventsOf_turn (macOf · = m) s hi,
      hR.record, events_of_agree hi hR.agree hagree]

theorem sees_turn_of_ne (hs : AllFiled macOf s) (hi : macOf i ≠ m) (hR : Sees macOf m s s')
    {env : Server.Env} {th : Thread} {r : Server.Turn D}
    (hr : Server.pangoClientStep cfg env (s.client i) th s.yourTable = some r) :
    Sees macOf m (s.turn i r) s' := by
  refine ⟨Server.agree_turn_of_ne hs hR.agree hi hr, hR.alone, ?_⟩
  rw [Server.eventsOf_turn_of_not (macOf · = m) s hi, hR.record]

theorem sees_backedUp (hs : AllFiled macOf s) (hR : Sees macOf m s s') (n : ℕ) (clock : ℕ → Int)
    (sqlFails : List ℕ) :
    Sees macOf m (s.backedUp n clock sqlFails) (s'.backedUp n clock sqlFails) := by
  refine ⟨Server.agree_backedUp hs hR.alone hR.agree n clock sqlFails, hR.alone, ?_⟩
  rw [Server.eventsOf_backedUp, Server.eventsOf_backedUp, hR.record]

/-- Actions of the device's BBB come to the same beside what the device sees of the server. -/
theorem sees_acts {as : List (Bbb.Action D)} (h : as.foldlM (System.act slot fd) sys = some t)
    (hslot : ∀ ok, .connect ok ∈ as → macOf slot = m) (hR : Sees macOf m sys.server s') :
    ∃ u', as.foldlM (System.act slot fd) { sys with server := s' } = some { t with server := u' } ∧
      Sees macOf m t.server u' := by
  induction as generalizing sys s' with
  | nil =>
    cases h
    exact ⟨s', rfl, hR⟩
  | cons a as ih =>
    rw [List.foldlM_cons] at h
    obtain ⟨u, hu, h⟩ := Option.bind_eq_some_iff.mp h
    have hone : ∃ u', System.act slot fd { sys with server := s' } a
        = some { u with server := u' } ∧ Sees macOf m u.server u' := by
      cases a with
      | connect ok =>
        have hm := hslot ok List.mem_cons_self
        simp only [System.act] at hu ⊢
        split_ifs at hu with hok
        cases hu
        refine ⟨s'.accepted slot fd, ?_, sees_accepted hm hR fd⟩
        rw [if_pos ⟨hok.1, hR.agree.thread slot hm ▸ hok.2⟩]
      | send f ok =>
        simp only [System.act] at hu ⊢
        split_ifs at hu with hok
        cases hu
        exact ⟨s', if_pos hok, hR⟩
      | uart1 | finalPriceForCostumer | close =>
        cases hu
        exact ⟨s', rfl, hR⟩
    obtain ⟨u', hu', hR'⟩ := hone
    obtain ⟨t', ht', hR''⟩ := ih h (fun ok hok => hslot ok (List.mem_cons_of_mem a hok)) hR'
    refine ⟨t', ?_, hR''⟩
    rw [List.foldlM_cons, hu']
    exact ht'

theorem sees_perform {r : Bbb.Main D × List (Bbb.Action D)} (h : sys.perform slot fd r = some t)
    (hslot : ∀ ok, .connect ok ∈ r.2 → macOf slot = m) (hR : Sees macOf m sys.server s') :
    ∃ u', System.perform slot fd { sys with server := s' } r = some { t with server := u' } ∧
      Sees macOf m t.server u' := by
  unfold System.perform at h ⊢
  exact sees_acts h hslot hR

theorem sees_press {coordinates : Option (UInt8 × UInt8)} (hslot : macOf slot = m)
    (hR : Sees macOf m sys.server s')
    (h : (system cfg m).step sys (.press coordinates slot fd) = some t) :
    ∃ u', (system cfg m).step { sys with server := s' } (.press coordinates slot fd)
        = some { t with server := u' } ∧ Sees macOf m t.server u' := by
  simp only [system] at h ⊢
  split_ifs at h with hpc
  obtain ⟨u', hu', hR'⟩ := sees_perform h (fun _ _ => hslot) hR
  exact ⟨u', (if_pos hpc).trans hu', hR'⟩

theorem sees_receive (hR : Sees macOf m sys.server s')
    (h : (system cfg m).step sys .receive = some t) :
    ∃ u', (system cfg m).step { sys with server := s' } .receive = some { t with server := u' } ∧
      Sees macOf m t.server u' := by
  simp only [system] at h ⊢
  split at h
  · obtain ⟨bytes, hbytes, h⟩ := Option.bind_eq_some_iff.mp h
    obtain ⟨u', hu', hR'⟩ := sees_perform h
      (fun ok hok => absurd hok ((gotLocation_sends (some bytes) .sends).2.2 ok)) hR
    refine ⟨u', ?_, hR'⟩
    simp only [hbytes, Option.bind_some]
    exact hu'
  · rename_i price seconds rest _ _
    obtain ⟨u', hu', hR'⟩ := sees_perform h
      (fun ok hok => absurd hok ((gotPayment_sends (some (price, seconds))).2.2 ok)) hR
    exact ⟨u', hu', hR'⟩
  · cases h

theorem sees_client {env : Server.Env} (hs : AllFiled macOf sys.server) (hi : macOf i = m)
    (hR : Sees macOf m sys.server s')
    (h : (system cfg m).step sys (.client i env) = some t) :
    ∃ u', (system cfg m).step { sys with server := s' } (.client i env)
        = some { t with server := u' } ∧ Sees macOf m t.server u' := by
  obtain ⟨th, hth, h⟩ := Option.bind_eq_some_iff.mp h
  obtain ⟨⟨env', rest⟩, hfetch, h⟩ := Option.bind_eq_some_iff.mp h
  obtain ⟨r, hr, rfl⟩ := Option.map_eq_some_iff.mp h
  obtain ⟨r', hr', hagree⟩ := Server.agree_step_self hs hR.agree hi hth hr
  have hevents := events_of_agree hi hR.agree hagree
  have hfetch' : System.fetch { sys with server := s' } i th env = some (env', rest) := hfetch
  refine ⟨s'.turn i r', ?_, sees_turn hi hR hagree⟩
  simp only [system, ← hR.agree.thread i hi, hth, hfetch', hr', Option.bind_some, Option.map_some,
    System.turn, hevents]

end Sees

/-! ## Frames carry the address of their device -/

/-- The device has sent, and will send, frames of its own board only. -/
structure Stamped (m : Buf UInt8 6) (sys : System D) : Prop where
  wire : ∀ i, ∀ f ∈ sys.toServer i, f.mac = m.toList
  kept : sys.bbb.pc = .location → sys.bbb.dataBuff.mac = m.toList

/-- A thread is handed frames of its device only. -/
def FilledBy (macOf : ℕ → Buf UInt8 6) (s : Server.State D) : Prop :=
  ∀ i, ∀ t ∈ s.thread i, t.pc = .check → t.clientDataBuff.mac = (macOf i).toList

section Stamped

variable [CDouble D] {cfg : Server.Config D} {m : Buf UInt8 6} {sys t : System D} {slot : ℕ}
  {fd : Int}

omit [CDouble D] in
theorem mac_answer (sys : System D) {coordinates : Option (UInt8 × UInt8)} {f : Frame}
    (h : sys.answer m coordinates = some f) : f.mac = m.toList := by
  obtain ⟨c, -, rfl⟩ := Option.map_eq_some_iff.mp h
  exact Stm.mac_fillSendBuff _ _

omit [CDouble D] in
theorem stamped_perform {r : Bbb.Main D × List (Bbb.Action D)} (h : sys.perform slot fd r = some t)
    (hwire : ∀ i, ∀ f ∈ sys.toServer i, f.mac = m.toList)
    (hsend : ∀ g ok, .send g ok ∈ r.2 → g.mac = m.toList)
    (hkept : r.1.pc = .location → r.1.dataBuff.mac = m.toList) : Stamped m t := by
  obtain ⟨hb, hwire⟩ := wires_of_acts h rfl hwire hsend
  exact ⟨hwire, hb.symm ▸ hkept⟩

theorem stamped_press {coordinates : Option (UInt8 × UInt8)} (hJ : Stamped m sys)
    (h : (system cfg m).step sys (.press coordinates slot fd) = some t) : Stamped m t := by
  simp only [system] at h
  split_ifs at h with hpc
  cases hans : sys.answer m coordinates with
  | none =>
    rw [hans] at h
    obtain ⟨hsend, hloc⟩ := pressed_none_sends hpc
    exact stamped_perform h hJ.wire (fun g ok hg => absurd hg (hsend g ok)) fun hl => absurd hl hloc
  | some f =>
    rw [hans] at h
    obtain ⟨hsend, hloc⟩ := pressed_sends (b := sys.bbb) f
    have hf := mac_answer sys hans
    rw [Option.map_some] at h
    exact stamped_perform h hJ.wire (fun g ok hg => hsend g ok hg ▸ hf)
      fun hl => (congrArg Frame.mac (hloc hl)).trans hf

theorem stamped_receive (hJ : Stamped m sys) (h : (system cfg m).step sys .receive = some t) :
    Stamped m t := by
  simp only [system] at h
  split at h
  · rename_i reply rest hpc _
    obtain ⟨bytes, -, h⟩ := Option.bind_eq_some_iff.mp h
    obtain ⟨hloc, hsend, -⟩ := gotLocation_sends (b := sys.bbb) (some bytes) .sends
    exact stamped_perform h hJ.wire (fun g ok hg => hsend g ok hg ▸ hJ.kept hpc)
      fun hl => absurd hl hloc
  · rename_i price seconds rest _ _
    obtain ⟨hloc, hsend, -⟩ := gotPayment_sends (b := sys.bbb) (some (price, seconds))
    exact stamped_perform h hJ.wire (fun g ok hg => absurd hg (hsend g ok))
      fun hl => absurd hl hloc
  · cases h

theorem stamped_client {i : ℕ} {env : Server.Env} (hJ : Stamped m sys)
    (h : (system cfg m).step sys (.client i env) = some t) :
    Stamped m t ∧ ∃ th env' r, sys.server.thread i = some th ∧
      Server.pangoClientStep cfg env' (sys.server.client i) th sys.server.yourTable = some r ∧
      t.server = sys.server.turn i r ∧
      (r.thread.pc = .check → r.thread.clientDataBuff.mac = m.toList) := by
  obtain ⟨th, hth, h⟩ := Option.bind_eq_some_iff.mp h
  obtain ⟨⟨env', rest⟩, hfetch, h⟩ := Option.bind_eq_some_iff.mp h
  obtain ⟨r, hr, rfl⟩ := Option.map_eq_some_iff.mp h
  have hfetched : (∀ f ∈ rest, f ∈ sys.toServer i) ∧
      (th.pc = .recv → (∃ f ∈ sys.toServer i, env'.recv = Server.recvFrame f) ∨
        env'.recv = .closed) := by
    unfold System.fetch at hfetch
    by_cases hpc : th.pc = .recv
    · rw [if_pos hpc] at hfetch
      cases hq : sys.toServer i with
      | nil =>
        simp only [hq] at hfetch
        split_ifs at hfetch
        cases hfetch
        exact ⟨by simp, fun _ => .inr rfl⟩
      | cons f fs =>
        simp only [hq] at hfetch
        cases hfetch
        exact ⟨fun g hg => List.mem_cons_of_mem f hg,
          fun _ => .inl ⟨f, List.mem_cons_self, rfl⟩⟩
    · rw [if_neg hpc] at hfetch
      cases hfetch
      exact ⟨fun _ hf => hf, fun h => absurd h hpc⟩
  obtain ⟨hrest, hrecv⟩ := hfetched
  refine ⟨⟨fun j f hf => ?_, hJ.kept⟩, th, env', r, hth, hr, rfl, fun hcheck => ?_⟩
  · by_cases hji : j = i
    · subst hji
      simp only [System.turn, Function.update_self] at hf
      exact hJ.wire j f (hrest f hf)
    · simp only [System.turn, Function.update_of_ne hji] at hf
      exact hJ.wire j f hf
  · have hpc : th.pc = .recv := by
      have hnext := Server.pc_pangoClientStep hr
      rw [hcheck] at hnext
      cases hpc : th.pc <;> simp [hpc, Server.Pc.next] at hnext ⊢
    rcases hrecv hpc with ⟨f, hf, hrecv⟩ | hclosed
    · rw [Server.pangoClientStep_recvFrame hpc hrecv] at hr
      cases hr
      exact hJ.wire i f hf
    · simp only [Server.pangoClientStep, hpc, hclosed] at hr
      cases hr
      cases hcheck

/-- A press may open a connection. -/
theorem server_of_press {P : Server.State D → Prop} {coordinates : Option (UInt8 × UInt8)}
    (h : (system cfg m).step sys (.press coordinates slot fd) = some t)
    (hopen : ∀ s, s.thread slot = none → P s → P (s.accepted slot fd)) (hP : P sys.server) :
    P t.server := by
  simp only [system] at h
  split_ifs at h
  exact server_of_acts h (fun _ _ => hopen) hP

/-- A `recv` opens none. -/
theorem server_of_receive (h : (system cfg m).step sys .receive = some t) :
    t.server = sys.server := by
  simp only [system] at h
  split at h
  · rename_i reply rest _ _
    obtain ⟨bytes, -, h⟩ := Option.bind_eq_some_iff.mp h
    refine server_of_acts (P := (· = sys.server)) h (fun ok hok => ?_) rfl
    exact absurd hok ((gotLocation_sends (some bytes) .sends).2.2 ok)
  · rename_i price seconds rest _ _
    refine server_of_acts (P := (· = sys.server)) h (fun ok hok => ?_) rfl
    exact absurd hok ((gotPayment_sends (some (price, seconds))).2.2 ok)
  · cases h

end Stamped

/-! ## The invariant of the fleet -/

/-- Every frame carries the address of its device, and every slot is filed under it. -/
structure Marked [CDouble D] (mac : ι → Buf UInt8 6) (owner : ℕ → ι) (F : Fleet ι D) : Prop where
  filed : AllFiled (fun i => mac (owner i)) F.server
  filled : FilledBy (fun i => mac (owner i)) F.server
  stamped : ∀ d, Stamped (mac d) (F.view d)

section Fleet

variable [CDouble D] [DecidableEq ι] {cfg : Server.Config D} {mac : ι → Buf UInt8 6}
  {owner : ℕ → ι} {F F' : Fleet ι D} {l : FleetLabel ι} {d : ι}

omit [CDouble D] in
theorem view_put_self (F : Fleet ι D) (d : ι) (t : System D) : (F.put d t).view d = t := by
  have hdev : (F.put d t).device d = t.device := Function.update_self ..
  rw [Fleet.view, hdev]
  exact beside_device t

omit [CDouble D] in
theorem device_put_of_ne {e : ι} (h : e ≠ d) (t : System D) :
    (F.put d t).device e = F.device e := Function.update_of_ne h _ _

omit [CDouble D] in
/-- What a step of a device leaves behind carries its address, if it leaves its own frames. -/
theorem stamped_put (hJ : ∀ d, Stamped (mac d) (F.view d)) {t : System D}
    (ht : Stamped (mac d) t) (e : ι) : Stamped (mac e) ((F.put d t).view e) := by
  by_cases he : e = d
  · subst he
    rwa [view_put_self]
  · have hdev := device_put_of_ne (F := F) he t
    refine ⟨?_, ?_⟩
    · simp only [Fleet.view, Device.beside, hdev]
      exact (hJ e).wire
    · simp only [Fleet.view, Device.beside, hdev]
      exact (hJ e).kept

omit [DecidableEq ι] in
theorem marked_start (buffers : ι → Frame × Buf UInt8 12 × (D × D)) (rows : List Server.Row) :
    Marked mac owner (.start buffers rows) where
  filed := Server.locally_start rows
  filled _ _ h := nomatch h
  stamped _ := ⟨fun _ _ h => (nomatch h), fun h => (nomatch h)⟩

theorem marked_accepted {macOf : ℕ → Buf UInt8 6} {s : Server.State D} {slot : ℕ} (fd : Int)
    (hslot : s.thread slot = none) (hJ : AllFiled macOf s ∧ FilledBy macOf s) :
    AllFiled macOf (s.accepted slot fd) ∧ FilledBy macOf (s.accepted slot fd) := by
  have hstep : (Server.server { cityParking := ([] : List (Server.PriceRow D)) }).step s
      (.accept slot fd) = some (s.accepted slot fd) := if_pos hslot
  refine ⟨Server.filed_step (by trivial) hJ.1 hstep, fun j u hu hpc => ?_⟩
  rcases Server.mem_thread_accepted s hu with ⟨-, rfl⟩ | ⟨-, hu⟩
  · cases hpc
  · exact hJ.2 j u hu hpc

theorem marked_step (hJ : Marked mac owner F) (hs : (fleet cfg mac owner).step F l = some F') :
    Marked mac owner F' := by
  cases l with
  | press d coordinates slot fd =>
    simp only [fleet] at hs
    split_ifs at hs with hslot
    obtain ⟨t, ht, rfl⟩ := Option.map_eq_some_iff.mp hs
    obtain ⟨hfiled, hfilled⟩ := server_of_press
      (P := fun s => AllFiled (fun i => mac (owner i)) s ∧ FilledBy (fun i => mac (owner i)) s) ht
      (fun s => marked_accepted fd) ⟨hJ.filed, hJ.filled⟩
    exact ⟨hfiled, hfilled, stamped_put hJ.stamped (stamped_press (hJ.stamped d) ht)⟩
  | receive d =>
    obtain ⟨t, ht, rfl⟩ := Option.map_eq_some_iff.mp hs
    have hserver : (F.put d t).server = F.server := server_of_receive ht
    exact ⟨hserver ▸ hJ.filed, hserver ▸ hJ.filled,
      stamped_put hJ.stamped (stamped_receive (hJ.stamped d) ht)⟩
  | client i env =>
    obtain ⟨t, ht, rfl⟩ := Option.map_eq_some_iff.mp hs
    obtain ⟨hstamped, th, env', r, hth, hr, hserver, hfill⟩ :=
      stamped_client (hJ.stamped (owner i)) ht
    have hstep : (Server.server cfg).step F.server (.client i env') = some (F.server.turn i r) := by
      have hth' : F.server.thread i = some th := hth
      have hr' : Server.pangoClientStep cfg env' (F.server.client i) th F.server.yourTable
          = some r := hr
      simp only [Server.server, hth', hr', Option.bind_some, Option.map_some]
    have hone : Server.OneMac (fun i => mac (owner i)) F.server (.client i env') :=
      fun u hu hpc _ => hJ.filled i u hu hpc
    have hserver' : (F.put (owner i) t).server = F.server.turn i r := hserver
    refine ⟨hserver' ▸ Server.filed_step hone hJ.filed hstep, fun j u hu hpc => ?_,
      stamped_put hJ.stamped hstamped⟩
    rw [hserver'] at hu
    rcases Server.mem_thread_turn _ hu with ⟨rfl, rfl⟩ | ⟨-, hu⟩
    · exact hfill hpc
    · exact hJ.filled j u hu hpc
  | backup clock sqlFails =>
    cases hs
    have hstep : (Server.server cfg).step F.server (.backup clock sqlFails)
        = some (F.server.backedUp cfg.updateThreadMaxNumClients clock sqlFails) := rfl
    exact ⟨Server.filed_step (by trivial) hJ.filed hstep, hJ.filled,
      fun e => ⟨(hJ.stamped e).wire, (hJ.stamped e).kept⟩⟩

/-! ## What one device sees of the fleet -/

/-- The system `sys` is what the device `d` sees of the fleet. -/
def SeenBy (mac : ι → Buf UInt8 6) (owner : ℕ → ι) (d : ι) (F : Fleet ι D) (sys : System D) :
    Prop :=
  sys.device = F.device d ∧ Sees (fun i => mac (owner i)) (mac d) F.server sys.server

omit [DecidableEq ι] in
theorem SeenBy.eq {sys : System D} (h : SeenBy mac owner d F sys) :
    sys = { F.view d with server := sys.server } := by
  have hsys := beside_device sys
  rw [h.1] at hsys
  exact hsys.symm

/-- The other devices move unseen. -/
theorem seenBy_put_of_ne {e : ι} (he : e ≠ d) {t sys : System D} (h : SeenBy mac owner d F sys)
    (ht : Sees (fun i => mac (owner i)) (mac d) t.server sys.server) :
    SeenBy mac owner d (F.put e t) sys :=
  ⟨h.1.trans (device_put_of_ne he.symm t).symm, ht⟩

/-- What the device does to its system it does to its part of the fleet. -/
theorem seenBy_put {t : System D} {u' : Server.State D}
    (ht : Sees (fun i => mac (owner i)) (mac d) t.server u') :
    SeenBy mac owner d (F.put d t) { t with server := u' } := by
  have hdev : (F.put d t).device d = t.device := Function.update_self ..
  exact ⟨hdev.symm, ht⟩

/-- The threads and slots of the device are all there is in what it sees. -/
theorem SeenBy.only (hmac : Function.Injective mac) {sys : System D}
    (h : SeenBy mac owner d F sys) :
    sys.server.thread = (F.only owner d).server.thread ∧
      sys.server.client = (F.only owner d).server.client := by
  refine ⟨funext fun i => ?_, funext fun i => ?_⟩ <;> by_cases hi : owner i = d
  · rw [← h.2.agree.thread i (congrArg mac hi)]
    exact (if_pos hi).symm
  · rw [(h.2.alone i fun heq => hi (hmac heq)).1]
    exact (if_neg hi).symm
  · rw [← h.2.agree.client i (congrArg mac hi)]
    exact (if_pos hi).symm
  · rw [(h.2.alone i fun heq => hi (hmac heq)).2]
    exact (if_neg hi).symm

theorem SeenBy.rested_iff (hmac : Function.Injective mac) {sys : System D}
    (h : SeenBy mac owner d F sys) : Rested sys ↔ Rested (F.only owner d) := by
  unfold Rested
  rw [(h.only hmac).1, h.eq]
  rfl

theorem clean_of_seenBy (hmac : Function.Injective mac) {sys : System D} {l' : Label}
    (h : SeenBy mac owner d F sys) (hC : Clean (F.only owner d) l') : Clean sys l' := by
  cases l' with
  | press coordinates slot fd =>
    obtain ⟨hrest, hc, hsilent⟩ := hC
    refine ⟨(h.rested_iff hmac).mpr hrest, hc, fun hnone => ?_⟩
    rw [h.eq]
    exact hsilent hnone
  | receive | client | backup => exact hC

/-- **A step the device knows of** is the same step of its system. -/
theorem seenBy_step {l' : Label} {sys : System D} (hJ : Marked mac owner F)
    (hR : SeenBy mac owner d F sys) (hl : l.seenBy owner d = some l')
    (hs : (fleet cfg mac owner).step F l = some F') :
    ∃ sys', (system cfg (mac d)).step sys l' = some sys' ∧ SeenBy mac owner d F' sys' := by
  have hview : Sees (fun i => mac (owner i)) (mac d) (F.view d).server sys.server := hR.2
  rw [hR.eq]
  cases l with
  | press e coordinates slot fd =>
    simp only [FleetLabel.seenBy] at hl
    split_ifs at hl with he
    cases hl
    subst he
    simp only [fleet] at hs
    split_ifs at hs with hslot
    obtain ⟨t, ht, rfl⟩ := Option.map_eq_some_iff.mp hs
    obtain ⟨u', hu', hR'⟩ := sees_press (congrArg mac hslot) hview ht
    exact ⟨_, hu', seenBy_put hR'⟩
  | receive e =>
    simp only [FleetLabel.seenBy] at hl
    split_ifs at hl with he
    cases hl
    subst he
    obtain ⟨t, ht, rfl⟩ := Option.map_eq_some_iff.mp hs
    obtain ⟨u', hu', hR'⟩ := sees_receive hview ht
    exact ⟨_, hu', seenBy_put hR'⟩
  | client i env =>
    simp only [FleetLabel.seenBy] at hl
    split_ifs at hl with hi
    cases hl
    subst hi
    obtain ⟨t, ht, rfl⟩ := Option.map_eq_some_iff.mp hs
    obtain ⟨u', hu', hR'⟩ := sees_client hJ.filed rfl hview ht
    exact ⟨_, hu', seenBy_put hR'⟩
  | backup clock sqlFails =>
    cases hl
    cases hs
    exact ⟨_, rfl, rfl, sees_backedUp hJ.filed hR.2 _ clock sqlFails⟩

/-- **A step the device does not know of** changes nothing it sees. -/
theorem seenBy_step_of_none (hmac : Function.Injective mac) {sys : System D}
    (hJ : Marked mac owner F) (hR : SeenBy mac owner d F sys) (hl : l.seenBy owner d = none)
    (hs : (fleet cfg mac owner).step F l = some F') : SeenBy mac owner d F' sys := by
  have hne : ∀ {e : ι}, e ≠ d → mac e ≠ mac d := fun he heq => he (hmac heq)
  cases l with
  | press e coordinates slot fd =>
    simp only [FleetLabel.seenBy] at hl
    split_ifs at hl with he
    simp only [fleet] at hs
    split_ifs at hs with hslot
    obtain ⟨t, ht, rfl⟩ := Option.map_eq_some_iff.mp hs
    refine seenBy_put_of_ne he hR ?_
    refine server_of_press (P := fun s => Sees _ _ s sys.server) ht (fun s _ hs => ?_) hR.2
    exact sees_accepted_of_ne (hslot.symm ▸ hne he) hs fd
  | receive e =>
    simp only [FleetLabel.seenBy] at hl
    split_ifs at hl with he
    obtain ⟨t, ht, rfl⟩ := Option.map_eq_some_iff.mp hs
    have hserver : t.server = F.server := server_of_receive ht
    exact seenBy_put_of_ne he hR (hserver ▸ hR.2)
  | client i env =>
    simp only [FleetLabel.seenBy] at hl
    split_ifs at hl with hi
    obtain ⟨t, ht, rfl⟩ := Option.map_eq_some_iff.mp hs
    obtain ⟨-, th, env', r, -, hr, hserver, -⟩ := stamped_client (hJ.stamped (owner i)) ht
    refine seenBy_put_of_ne hi hR ?_
    rw [hserver]
    exact sees_turn_of_ne hJ.filed (hne hi) hR.2 hr
  | backup => cases hl

/-- **Projection.**  A run of the fleet, as one device sees it, is a run of the system with
this device only, and what is clean for the device in the one is clean in the other. -/
theorem seen_of_exec (hmac : Function.Injective mac) {buffers : ι → Frame × Buf UInt8 12 × (D × D)}
    {rows : List Server.Row} {ls : List (FleetLabel ι)}
    (h : (fleet cfg mac owner).Exec (CleanFor owner d) (.start buffers rows) ls F) :
    ∃ sys, (system cfg (mac d)).Exec Clean
        (.start (buffers d).1 (buffers d).2.1 (buffers d).2.2 rows)
        (ls.filterMap (FleetLabel.seenBy owner d)) sys ∧ SeenBy mac owner d F sys := by
  have hrun := (h.strengthen (marked_start buffers rows) fun _ _ _ _ hJ hs => marked_step hJ hs).1
  refine hrun.project (FleetLabel.seenBy owner d) ⟨rfl, sees_start rows⟩ ?_ ?_
  · rintro F sys l l' F' ⟨hC, hJ⟩ hR hl hs
    exact ⟨clean_of_seenBy hmac hR (hC l' hl), seenBy_step hJ hR hl hs⟩
  · rintro F sys l F' ⟨-, hJ⟩ hR hl hs
    exact seenBy_step_of_none hmac hJ hR hl hs

theorem record_only (F : Fleet ι D) (d : ι) :
    (F.only owner d).record (mac d) = eventsOf (owner · = d) F.server.trace := by
  unfold System.record Fleet.only only Device.beside eventsOf
  dsimp only
  rw [List.filterMap_filter]
  refine List.filterMap_congr fun e _ => ?_
  obtain ⟨tid, e⟩ := e
  cases tid with
  | client i => by_cases hi : owner i = d <;> simp [hi, soleDevice]
  | dbUpdate => rfl

/-- What is agreed in the system the device sees is agreed in the fleet. -/
theorem SeenBy.agree (hmac : Function.Injective mac) {sys : System D}
    (h : SeenBy mac owner d F sys) (hA : Agreement (mac d) sys) :
    Agreement (mac d) (F.only owner d) := by
  have hrows : selectMac (macKey (mac d)) sys.server.yourTable
      = selectMac (macKey (mac d)) (F.only owner d).server.yourTable := h.2.agree.rows.symm
  have hrecord : sys.record (mac d) = (F.only owner d).record (mac d) := by
    rw [record_only]
    refine h.2.record.trans ?_
    simp only [eventsOf, hmac.eq_iff]
  have hbbb : (F.only owner d).bbb = sys.bbb := by
    rw [h.eq]
    rfl
  have hpresses : (F.only owner d).presses = sys.presses ∧ (F.only owner d).sent = sys.sent ∧
      (F.only owner d).receipts = sys.receipts ∧ (F.only owner d).socket = sys.socket := by
    rw [h.eq]
    exact ⟨rfl, rfl, rfl, rfl⟩
  obtain ⟨hpress, hsent, hreceipts, hsocket⟩ := hpresses
  refine ⟨fun hpc => ?_, fun hpc hrest => ?_, ?_, ?_⟩
  · rw [hbbb] at hpc ⊢
    exact hA.head hpc
  · rw [hbbb] at hpc ⊢
    rw [← hrows, ← (h.only hmac).2, hsocket]
    exact hA.rested hpc ((h.rested_iff hmac).mpr hrest)
  · rw [hpress, hsent]
    exact hA.inTurn
  · rw [hreceipts, ← hrecord]
    exact hA.receipts

/-- **A device of the fleet agrees with the server**, in every run in which its own presses
are clean and its own calls work, whatever the other devices and their calls do. -/
theorem fleet_agreement (hmac : Function.Injective mac)
    {buffers : ι → Frame × Buf UInt8 12 × (D × D)} {rows : List Server.Row}
    {ls : List (FleetLabel ι)}
    (h : (fleet cfg mac owner).Exec (CleanFor owner d) (.start buffers rows) ls F)
    (hrows : selectMac (macKey (mac d)) rows = [])
    (hclock : Server.ClocksInOrder (eventsOf (owner · = d) F.server.trace)) :
    Agreement (mac d) (F.only owner d) := by
  obtain ⟨sys, hexec, hseen⟩ := seen_of_exec hmac h
  refine hseen.agree hmac (agreement_of_bond (bond_of_exec hexec hrows) ?_)
  have hrecord : sys.record (mac d) = eventsOf (owner · = d) F.server.trace := by
    refine hseen.2.record.trans ?_
    simp only [eventsOf, hmac.eq_iff]
  rwa [hrecord]

end Fleet

/-- A step of a device and of its threads, as one of the fleet. -/
def Label.of (d : ι) : Label → FleetLabel ι
  | .press coordinates slot fd => .press d coordinates slot fd
  | .receive => .receive d
  | .client i env => .client i env
  | .backup clock sqlFails => .backup clock sqlFails

/-- Two devices; the second is connected on slot 1. -/
def twoMacs (second : Bool) : Buf UInt8 6 := if second then Server.otherMac else Server.sampleMac

/-- The first device parks; meanwhile the second starts from outside the map, the price of
which cannot be looked up. -/
def parkBeside : List (FleetLabel Bool) :=
  ((parkOnce 0 100 160).take 6).map (Label.of false) ++
    [.press true (some (200, 9)) 1 5, .client 1 {}, .client 1 {}, .client 1 {},
      .client 1 { now := 90 }, .client 1 { sqlFails := [0] }] ++
    ((parkOnce 0 100 160).drop 6).map (Label.of false)

theorem fleet_agreement_beside : ∃ F : Fleet Bool Int,
    (F.device false).receipts = [(120, 60)] ∧
    Agreement (twoMacs false) (F.only (fun i => decide (i = 1)) false) := by
  have hrun : ((fleet Server.samplePrices twoMacs fun i => decide (i = 1)).runIf
      (CleanFor (fun i => decide (i = 1)) false)
      (.start (fun _ => (.fill 10 0, .fill 12 0, (0, 0))) []) parkBeside).map (fun F =>
        ((F.device false).receipts,
          Server.clocks (eventsOf (fun i => decide (i = 1) = false) F.server.trace)))
      = some ([(120, 60)], [100, 160]) := by decide +kernel
  obtain ⟨F, hF, hparts⟩ := Option.map_eq_some_iff.mp hrun
  obtain ⟨hreceipts, hclocks⟩ := Prod.mk.inj hparts
  have hmac : Function.Injective twoMacs := by decide
  refine ⟨F, hreceipts, fleet_agreement hmac (Lts.exec_of_runIf _ hF) rfl ?_⟩
  rw [Server.ClocksInOrder, hclocks]
  decide

end Pango.Joint
