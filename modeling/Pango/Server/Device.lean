import Pango.Server.Machine
import Pango.Stm.Pack

/-!
# Devices and their connections

A connection belongs to a device if all frames handed over on it carry the
device's MAC address (`OneMac`).  From the first of them on the slot of the
connection is filed under that address, and no step of the connection reads or
writes a row of any other.  This is what makes it possible to follow one device at a
time: the table, the slots and the record fall apart into the parts of the devices, and a
step of a connection stays in one of them.

At the end are the frames and answers that the sample runs of other modules are made of.

* `macKey_injective` — two devices are never filed under the same text.
* `Filed`, `filed_of_exec` — the address a slot carries, in every run.
* `select_turn_of_ne` — what the connections of other devices leave alone.
* `recvFrame_inj` — a `recv` that returns a frame determines it.
-/

namespace Pango.Server

open HexText

variable {D : Type*}

/-! ## Addresses -/

/-- The text `your_table` files a MAC address under. -/
def macKey (m : Buf UInt8 6) : List UInt8 := colonHex m.toList

theorem macKey_injective {m m' : Buf UInt8 6} (h : macKey m = macKey m') : m = m' := by
  have hne : ∀ m : Buf UInt8 6, m.toList ≠ [] := fun m h => by simpa [h] using m.length_eq
  exact Buf.ext' (colonHex_injective (hne m) (hne m') h)

theorem macText_eq_macKey {f : Frame} {m : Buf UInt8 6} (h : f.mac = m.toList) :
    macText f = macKey m := by
  rw [macText, macKey, h]

theorem macKey_ne_nil (m : Buf UInt8 6) : macKey m ≠ [] := by
  obtain ⟨l, hl⟩ := m
  match l with
  | [_, _, _, _, _, _] => simp [macKey, colonHex]

theorem mac_zero [CDouble D] : (PangoData.zero : PangoData D).mac = [] := by
  simp [PangoData.mac, PangoData.zero, cstr, Buf.fill]

/-! ## The connections of a device -/

/-- The connections of each device carry its MAC address: every frame that
passes the check does. -/
def OneMac (macOf : ℕ → Buf UInt8 6) (s : State D) : Label → Prop
  | .client i _ => ∀ t ∈ s.thread i, t.pc = .check → CrcValid t.clientDataBuff →
      t.clientDataBuff.mac = (macOf i).toList
  | _ => True

instance (macOf : ℕ → Buf UInt8 6) (s : State D) : (l : Label) → Decidable (OneMac macOf s l)
  | .client i _ => inferInstanceAs (Decidable (∀ t ∈ s.thread i, _))
  | .accept .. | .backup .. => isTrue trivial

/-- Every frame handed over passes the check. -/
def FramesValid (s : State D) : Label → Prop
  | .client i _ => ∀ t ∈ s.thread i, t.pc = .check → CrcValid t.clientDataBuff
  | _ => True

instance (s : State D) : (l : Label) → Decidable (FramesValid s l)
  | .client i _ => inferInstanceAs (Decidable (∀ t ∈ s.thread i, _))
  | .accept .. | .backup .. => isTrue trivial

/-- The slot carries the address, or none yet; it carries it where the address
is looked up. -/
def Filed (key : List UInt8) (client : PangoData D) (t : Thread) : Prop :=
  client.mac = key ∨ client.mac = [] ∧ t.pc ≠ .exist ∧ t.pc ≠ .retriev

/-- Every slot is filed under its device's address. -/
def AllFiled [CDouble D] (macOf : ℕ → Buf UInt8 6) : State D → Prop :=
  Locally fun i client t _ => Filed (macKey (macOf i)) client t

section Filed

variable [CDouble D] {cfg : Config D} {macOf : ℕ → Buf UInt8 6} {s : State D} {i : ℕ}

/-- **One step** keeps a slot filed. -/
theorem filed_pangoClientStep {env : Env} {client : PangoData D} {t : Thread} {rows : List Row}
    {r : Turn D} {m : Buf UInt8 6}
    (hmac : t.pc = .check → CrcValid t.clientDataBuff → t.clientDataBuff.mac = m.toList)
    (hJ : Filed (macKey m) client t) (h : pangoClientStep cfg env client t rows = some r) :
    Filed (macKey m) r.client r.thread := by
  by_cases hpc : t.pc = .check
  · rcases check_cases hpc h with ⟨-, rfl⟩ | ⟨-, -, rfl⟩ | ⟨hv, -, b, hb, rfl⟩
    · exact hJ.imp_right fun ⟨hnil, _⟩ => ⟨hnil, by simp⟩
    · exact hJ.imp_right fun ⟨hnil, _⟩ => ⟨hnil, by simp⟩
    · exact .inl (hb.trans (macText_eq_macKey (hmac hpc hv)))
  · unfold Filed
    rw [mac_pangoClientStep h hpc]
    refine hJ.imp_right fun ⟨hnil, hexist, _⟩ => ⟨hnil, ?_⟩
    rw [← not_or]
    intro hr
    rcases lookup_pangoClientStep h hr with hc | he
    · exact hpc hc
    · exact hexist he

/-- **One step** of the server keeps every slot filed. -/
theorem filed_step {s' : State D} {l : Label} (hC : OneMac macOf s l) (hJ : AllFiled macOf s)
    (hs : (server cfg).step s l = some s') : AllFiled macOf s' := by
  refine locally_step hs (fun i fd => .inr ⟨mac_zero (D := D), by simp⟩) ?_ hJ
  rintro i env t r rfl ht hJ hr
  exact filed_pangoClientStep (hC t ht) hJ hr

/-- In every run whose connections each carry one MAC address, a slot carries that of its
connection. -/
theorem filed_of_exec {C : State D → Label → Prop} {rows : List Row} {ls : List Label}
    (hC : ∀ s l, C s l → OneMac macOf s l) (h : (server cfg).Exec C (.start rows) ls s) :
    (server cfg).Exec (fun s l => C s l ∧ AllFiled macOf s) (.start rows) ls s
      ∧ AllFiled macOf s :=
  h.strengthen (locally_start rows) fun _ _ _ hc hInv hs => filed_step (hC _ _ hc) hInv hs

theorem mac_ne_of_filed (h : AllFiled macOf s) {m : Buf UInt8 6} (hi : macOf i ≠ m) :
    (s.client i).mac ≠ macKey m := by
  have hnil : ([] : List UInt8) ≠ macKey m := (macKey_ne_nil m).symm
  cases ht : s.thread i with
  | none =>
    rw [(h.2 i ht).1, mac_zero]
    exact hnil
  | some t =>
    rcases h.1 i t ht with hkey | ⟨hkey, -⟩ <;> rw [hkey]
    · exact fun heq => hi (macKey_injective heq)
    · exact hnil

/-- **Frame.**  A step of another device's connection leaves the rows of a device
alone. -/
theorem select_turn_of_ne (h : AllFiled macOf s) {m : Buf UInt8 6} (hi : macOf i ≠ m) {env : Env}
    {t : Thread} {r : Turn D}
    (hr : pangoClientStep cfg env (s.client i) t s.yourTable = some r) :
    selectMac (macKey m) r.yourTable = selectMac (macKey m) s.yourTable :=
  select_pangoClientStep_of_ne hr (mac_ne_of_filed h hi)

end Filed

/-! ## Frames on the wire, and a device for the runs below -/

/-- `recv` fills the buffer with a frame. -/
def recvFrame (f : Frame) : Recv :=
  .data f.toList ⟨by rw [f.length_eq]; decide, f.length_eq.le⟩

theorem recvFrame_inj {f g : Frame} : recvFrame f = recvFrame g ↔ f = g :=
  ⟨fun h => Buf.ext' (Recv.data.inj h), congrArg recvFrame⟩

@[simp] theorem recvFrame_ne_closed (f : Frame) : recvFrame f ≠ .closed := by simp [recvFrame]

@[simp] theorem recvFrame_ne_error (f : Frame) : recvFrame f ≠ .error := by simp [recvFrame]

/-- The frame `recv` returns, if it returns a whole one. -/
def Recv.frame? : Recv → Option Frame
  | .data bytes _ => if h : bytes.length = 10 then some ⟨bytes, h⟩ else none
  | _ => none

theorem Recv.eq_recvFrame {recv : Recv} {f : Frame} (h : f ∈ recv.frame?) : recv = recvFrame f := by
  cases recv with
  | data bytes size =>
    simp only [Recv.frame?] at h
    split_ifs at h with hlen
    · cases h
      rfl
    · cases h
  | closed => cases h
  | error => cases h

/-- `recv` returns a whole frame exactly if it fills the buffer with one. -/
theorem Recv.isSome_frame? {recv : Recv} :
    recv.frame?.isSome = true ↔ ∃ f, recv = recvFrame f := by
  refine ⟨fun h => (Option.isSome_iff_exists.mp h).imp fun _ hf => Recv.eq_recvFrame hf, ?_⟩
  rintro ⟨f, rfl⟩
  simp [Recv.frame?, recvFrame, f.length_eq]

/-- A whole frame replaces whatever the buffer held. -/
theorem pangoClientStep_recvFrame [CDouble D] {cfg : Config D} {env : Env} {client : PangoData D}
    {t : Thread} {rows : List Row} {f : Frame} (hpc : t.pc = .recv)
    (hrecv : env.recv = recvFrame f) :
    pangoClientStep cfg env client t rows
      = some ⟨client, { t with clientDataBuff := f, pc := .check }, rows, [.recv f.toList]⟩ := by
  simp only [pangoClientStep, hpc, hrecv, recvFrame, Buf.write_full]

/-- A price table. -/
def samplePrices : Config Int := { cityParking := [⟨ashkelon, 2⟩, ⟨herzliya, 3⟩] }

def sampleMac : Buf UInt8 6 := ⟨[2, 0, 94, 16, 0, 1], rfl⟩

/-- A frame of the device, in Ashkelon. -/
def sampleFrame (status : UInt8) : Frame :=
  Stm.fillSendBuff ⟨status, sampleMac, 10, 20⟩ (.fill 10 0)

/-- Connection `i` is accepted and starts a new parking at `now`. -/
def sampleStart (i : ℕ) (now : Int) : List Label :=
  [.accept i 4, .client i { recv := recvFrame (sampleFrame startApp) }, .client i {}, .client i {},
    .client i { now }, .client i {}, .client i {}, .client i {}]

/-- Connection `i` closes at `now`, is sent its bill and ends. -/
def sampleClose (i : ℕ) (now : Int) : List Label :=
  [.client i { recv := recvFrame (sampleFrame closeApp) }, .client i {}, .client i { now },
    .client i {}, .client i {}, .client i {}]

/-- A frame of the device is received and checked on connection `i`. -/
def sampleSend (i : ℕ) (status : UInt8) : List Label :=
  [.client i { recv := recvFrame (sampleFrame status) }, .client i {}]

/-- Connection `i` is accepted and resumes a parking at `now`. -/
def sampleResume (i : ℕ) (now : Int) : List Label :=
  [.accept i 5] ++ sampleSend i startApp ++ [.client i {}, .client i { now }]

/-- Connection `i` is lost; its time used is written at `now`. -/
def sampleLost (i : ℕ) (now : Int) : List Label :=
  [.client i {}, .client i {}, .client i { now }, .client i {}]

end Pango.Server
