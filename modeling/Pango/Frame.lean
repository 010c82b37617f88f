import Pango.Lib.Buf
import Pango.Lib.Crc

/-!
# The ten-byte frame and its check byte

The STM board, the BBB and the server exchange one kind of frame: a status
byte, six MAC bytes, two coordinates and a CRC-8 over the nine bytes before it.
A `Frame` is a buffer of ten bytes whatever they are, since each of the programs
hands around frames that have not been checked yet; its fields are read at the
offsets the sources read them at.

Each of the three programs has its own copy of the CRC loop, down to the names of
the variables.  `crcLoop` is the loop they share, written as the sources write
it, with a test of the top bit and a shift of a `uint8_t`.  `crcLoop_toBitVec`
identifies it with the shift register of `Crc`, so that everything proved there
about registers of any width holds of the loop.

* `Frame.exists_bytes` — a frame is its ten bytes.
* `crcTurn_toBitVec`, `crcByte_toBitVec`, `crcLoop_toBitVec` — one turn of the
  inner loop, one byte and a whole string, in the register.
-/

namespace Pango

/-! ## Layout -/

/-- A frame as it stands in a ten-byte buffer. -/
abbrev Frame := Buf UInt8 10

namespace Frame

/-- Byte 0: what the sender wants. -/
def status (f : Frame) : UInt8 := f.getD 0 0

/-- Bytes 1 to 6: who the sender is. -/
def mac (f : Frame) : List UInt8 := (f.toList.drop 1).take 6

/-- Byte 7. -/
def x (f : Frame) : UInt8 := f.getD 7 0

/-- Byte 8. -/
def y (f : Frame) : UInt8 := f.getD 8 0

/-- Byte 9: the check byte. -/
def crc (f : Frame) : UInt8 := f.getD 9 0

/-- A frame is its ten bytes. -/
theorem exists_bytes (f : Frame) : ∃ s m₀ m₁ m₂ m₃ m₄ m₅ x y c,
    f = ⟨[s, m₀, m₁, m₂, m₃, m₄, m₅, x, y, c], rfl⟩ := by
  match f with
  | ⟨[s, m₀, m₁, m₂, m₃, m₄, m₅, x, y, c], _⟩ =>
    exact ⟨s, m₀, m₁, m₂, m₃, m₄, m₅, x, y, c, rfl⟩

theorem length_mac (f : Frame) : f.mac.length = 6 := by
  obtain ⟨s, m₀, m₁, m₂, m₃, m₄, m₅, x, y, c, rfl⟩ := f.exists_bytes
  rfl

end Frame

/-! ## The CRC loop -/

/-- One turn of the inner loop over the bits of a byte. -/
def crcTurn (polynomial crc : UInt8) : UInt8 :=
  if crc &&& 0x80 ≠ 0 then (crc <<< 1) ^^^ polynomial else crc <<< 1

/-- One turn of the outer loop over the bytes. -/
def crcByte (polynomial crc byte : UInt8) : UInt8 := (crcTurn polynomial)^[8] (crc ^^^ byte)

/-- The CRC-8 loop, started from `0xFF`. -/
def crcLoop (polynomial : UInt8) (data : List UInt8) : UInt8 := data.foldl (crcByte polynomial) 0xFF

/-- The generator all three programs define as `CRC_POLYNOMIAL`. -/
def crcPolynomial : UInt8 := 0x8D

theorem and_0x80_ne_zero_iff (b : BitVec 8) : b &&& 0x80#8 ≠ 0#8 ↔ b.msb = true := by
  revert b
  decide

theorem crcTurn_toBitVec (p c : UInt8) :
    (crcTurn p c).toBitVec = Crc.shift p.toBitVec c.toBitVec := by
  have hc : c &&& 0x80 ≠ 0 ↔ c.toBitVec.msb = true := by
    rw [← and_0x80_ne_zero_iff, Ne, ← UInt8.toBitVec_inj]
    rfl
  unfold crcTurn Crc.shift
  by_cases h : c.toBitVec.msb = true
  · rw [if_pos (hc.mpr h), if_pos h]
    rfl
  · rw [if_neg (mt hc.mp h), if_neg h]
    rfl

theorem crcByte_toBitVec (p c b : UInt8) :
    (crcByte p c b).toBitVec = Crc.word p.toBitVec c.toBitVec b.toBitVec := by
  have hiter : ∀ (n : ℕ) (a : UInt8),
      ((crcTurn p)^[n] a).toBitVec = (Crc.shift p.toBitVec)^[n] a.toBitVec := by
    intro n
    induction n with
    | zero => intro a; rfl
    | succ n ih =>
      intro a
      rw [Function.iterate_succ_apply, Function.iterate_succ_apply, ih, crcTurn_toBitVec]
  exact hiter 8 (c ^^^ b)

/-- The loop is the shift register started from all ones. -/
theorem crcLoop_toBitVec (p : UInt8) (data : List UInt8) :
    (crcLoop p data).toBitVec = Crc.words p.toBitVec 0xFF#8 (data.map UInt8.toBitVec) := by
  have hfold : ∀ (l : List UInt8) (c : UInt8),
      (l.foldl (crcByte p) c).toBitVec =
        Crc.words p.toBitVec c.toBitVec (l.map UInt8.toBitVec) := by
    intro l
    induction l with
    | nil => intro c; rfl
    | cons b l ih =>
      intro c
      rw [List.foldl_cons, ih, crcByte_toBitVec]
      rfl
  exact hfold data 0xFF

end Pango
