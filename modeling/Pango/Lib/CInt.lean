import Pango.Lib.Buf

/-!
# Fixed-width C integers as integers

A value of type `int` or `uint32_t` is an `Int` in its range; a conversion to
the type is reduction modulo `2 ^ 32`.  Keeping the values in one type leaves the
arithmetic to `omega`, and shows in each definition at which places a C program
converts, which is where it goes wrong if it does.

* `toInt32_toUInt32`, `toInt32_sub_toInt32` — conversions compose, so a difference
  computed through any mix of widths is the conversion of the exact difference.
* `toInt32_of_mem` — a conversion of a value in range is the value.
* `wordOfBytes_wordBytes` — an `int` and the four bytes it is in memory.

A `double` is a value of any type with the conversions and the product C has
(`CDouble`), and with eight bytes for it in memory (`CDoubleBytes`); nothing is
assumed of the product, so what is proved does not depend on rounding.
-/

namespace CInt

/-- Conversion to a 32-bit `int`. -/
def toInt32 (x : Int) : Int := (x + 2147483648) % 4294967296 - 2147483648

/-- Conversion to `uint32_t`. -/
def toUInt32 (x : Int) : Int := x % 4294967296

/-- The range of a 32-bit `int`. -/
def InInt32 (x : Int) : Prop := -2147483648 ≤ x ∧ x < 2147483648

instance (x : Int) : Decidable (InInt32 x) := inferInstanceAs (Decidable (_ ∧ _))

theorem inInt32_toInt32 (x : Int) : InInt32 (toInt32 x) := by
  unfold InInt32 toInt32
  omega

theorem toInt32_of_mem {x : Int} (h : InInt32 x) : toInt32 x = x := by
  unfold InInt32 at h
  unfold toInt32
  omega

@[simp] theorem toInt32_toInt32 (x : Int) : toInt32 (toInt32 x) = toInt32 x :=
  toInt32_of_mem (inInt32_toInt32 x)

/-- Going through `uint32_t` on the way to `int` changes nothing. -/
@[simp] theorem toInt32_toUInt32 (x : Int) : toInt32 (toUInt32 x) = toInt32 x := by
  unfold toInt32 toUInt32
  omega

/-- The operands of a difference may be converted first. -/
@[simp] theorem toInt32_toUInt32_sub (x y : Int) : toInt32 (toUInt32 x - y) = toInt32 (x - y) := by
  unfold toInt32 toUInt32
  omega

@[simp] theorem toInt32_toInt32_sub (x y : Int) : toInt32 (toInt32 x - y) = toInt32 (x - y) := by
  unfold toInt32
  omega

@[simp] theorem toInt32_sub_toInt32 (x y : Int) : toInt32 (x - toInt32 y) = toInt32 (x - y) := by
  unfold toInt32
  omega

end CInt

/-! ## The `double` type -/

/-- What a program needs of the type `double`: conversion from an `int`,
multiplication, and conversion back to an `int`.  Every `int` has an exact
`double`, so going there and back loses nothing; nothing else is assumed about
rounding. -/
class CDouble (D : Type*) where
  /-- Conversion from `int`. -/
  ofInt : Int → D
  /-- The product, rounded as the type rounds it. -/
  mul : D → D → D
  /-- Conversion to `int`, towards zero. -/
  toInt : D → Int
  toInt_ofInt : ∀ n, CInt.InInt32 n → toInt (ofInt n) = n

/-- The integral values, on which products that stay representable are exact. -/
instance : CDouble Int where
  ofInt n := n
  mul a b := a * b
  toInt n := n
  toInt_ofInt _ _ := rfl

/-- The eight bytes in which a `double` is kept and sent. -/
class CDoubleBytes (D : Type*) where
  toBytes : D → Buf UInt8 8
  /-- The value eight bytes stand for; there is one for every eight bytes. -/
  ofBytes : Buf UInt8 8 → D
  ofBytes_toBytes : ∀ d, ofBytes (toBytes d) = d

/-- The integral values again, in eight bytes. -/
instance : CDouble (BitVec 64) where
  ofInt n := BitVec.ofInt 64 n
  mul a b := a * b
  toInt d := d.toInt
  toInt_ofInt n hn := by
    unfold CInt.InInt32 at hn
    rw [BitVec.toInt_ofInt]
    exact Int.bmod_eq_of_le (by omega) (by omega)

/-- The bytes of a 64-bit word, lowest first. -/
def wordBytes (d : BitVec 64) : Buf UInt8 8 :=
  ⟨(List.range 8).map fun i => UInt8.ofBitVec (d.extractLsb' (8 * i) 8), by simp⟩

/-- The word of eight bytes. -/
def wordOfBytes (b : Buf UInt8 8) : BitVec 64 :=
  BitVec.ofNat 64 (Nat.ofDigits 256 (b.toList.map UInt8.toNat))

theorem wordOfBytes_wordBytes (d : BitVec 64) : wordOfBytes (wordBytes d) = d := by
  have hbytes : (wordBytes d).toList.map UInt8.toNat
      = (List.range 8).map fun i => d.toNat / 256 ^ i % 256 := by
    simp only [wordBytes, List.map_map]
    refine List.map_congr_left fun i _ => ?_
    have hpow : (256 : ℕ) ^ i = 2 ^ (8 * i) := by
      rw [pow_mul]
      norm_num
    simp [Nat.shiftRight_eq_div_pow, hpow]
  have hdigits : ∀ n : ℕ, Nat.ofDigits 256 ((List.range 8).map fun i => n / 256 ^ i % 256)
      = n % 256 ^ 8 := by
    intro n
    simp only [show List.range 8 = [0, 1, 2, 3, 4, 5, 6, 7] from rfl, List.map_cons, List.map_nil,
      Nat.ofDigits_cons, Nat.ofDigits_nil, Nat.reducePow]
    omega
  rw [wordOfBytes, hbytes, hdigits]
  exact BitVec.eq_of_toNat_eq (by simpa using d.isLt)

instance : CDoubleBytes (BitVec 64) where
  toBytes := wordBytes
  ofBytes := wordOfBytes
  ofBytes_toBytes := wordOfBytes_wordBytes
