import Pango.Lib.CrcDivision
import Pango.Wire.Corruption

/-!
# The check byte as a remainder

What the CRC loops compute, in the terms of the polynomials they are named after:
the string is divided by `X ^ 8 + X ^ 7 + X ^ 3 + X ^ 2 + 1`, with the start value
`0xFF` in front of it.

The sources do not name the polynomial; it is the constant `0x8D` their loops add, with the
leading term that a register of eight bits does not hold.  The start value is moved up in
front of the string, so that leading zeros of it count.

* `generator_crcPolynomial` — the constant, as a polynomial.
* `toPoly_crcLoop` — the loop is long division.
* `crcLoop_append_self` — a string followed by its own check byte leaves nothing.
* `calculateCRC8_divides` — both, for the functions of the three programs.
-/

namespace Pango

open Polynomial

/-- The generator `0x8D`, with its leading term. -/
noncomputable def crcGenerator : (ZMod 2)[X] := X ^ 8 + X ^ 7 + X ^ 3 + X ^ 2 + 1

/-- The start value `0xFF`. -/
noncomputable def crcStart : (ZMod 2)[X] := X ^ 7 + X ^ 6 + X ^ 5 + X ^ 4 + X ^ 3 + X ^ 2 + X + 1

/-- A byte string as a polynomial, read from its most significant bit. -/
noncomputable def stringPoly (data : List UInt8) : (ZMod 2)[X] := Crc.ofBits (bitsOf data)

theorem length_bitsOf (data : List UInt8) : (bitsOf data).length = 8 * data.length := by
  induction data with
  | nil => rfl
  | cons b data ih =>
    rw [bitsOf, List.flatMap_cons, List.length_append, Crc.length_msbFirst, List.length_cons]
    rw [bitsOf] at ih
    omega

theorem generator_crcPolynomial : Crc.generator crcPolynomial.toBitVec = crcGenerator := by
  have hbits : ∀ i ∈ Finset.range 8,
      (if crcPolynomial.toBitVec.getLsbD i then (X : (ZMod 2)[X]) ^ i else 0)
        = if i = 0 ∨ i = 2 ∨ i = 3 ∨ i = 7 then X ^ i else 0 := by
    have hiff : ∀ i < 8, crcPolynomial.toBitVec.getLsbD i = true
        ↔ i = 0 ∨ i = 2 ∨ i = 3 ∨ i = 7 := by decide
    intro i hi
    simp only [hiff i (Finset.mem_range.mp hi)]
  rw [Crc.generator, Crc.toPoly, Finset.sum_congr rfl hbits, crcGenerator]
  simp only [Finset.sum_range_succ, Finset.sum_range_zero]
  norm_num
  ring

theorem toPoly_0xFF : Crc.toPoly 0xFF#8 = crcStart := by
  have hbits : ∀ i ∈ Finset.range 8,
      (if (0xFF#8).getLsbD i then (X : (ZMod 2)[X]) ^ i else 0) = X ^ i := by
    have hone : ∀ i < 8, (0xFF#8).getLsbD i = true := by decide
    intro i hi
    rw [if_pos (hone i (Finset.mem_range.mp hi))]
  rw [Crc.toPoly, Finset.sum_congr rfl hbits, crcStart]
  simp only [Finset.sum_range_succ, Finset.sum_range_zero]
  ring

/-- The loop is long division. -/
theorem toPoly_crcLoop (data : List UInt8) :
    Crc.toPoly (crcLoop crcPolynomial data).toBitVec
      = (crcStart * X ^ (8 * data.length) + stringPoly data * X ^ 8) %ₘ crcGenerator := by
  have hbits : (data.map UInt8.toBitVec).flatMap Crc.msbFirst = bitsOf data := by
    rw [bitsOf, List.flatMap_map]
  rw [crcLoop_toBitVec, Crc.toPoly_words, toPoly_0xFF, generator_crcPolynomial, hbits,
    List.length_map, stringPoly]

/-- A string with its own check byte leaves nothing. -/
theorem crcLoop_append_self (data : List UInt8) :
    crcLoop crcPolynomial (data ++ [crcLoop crcPolynomial data]) = 0 := by
  refine UInt8.toBitVec_inj.mp ?_
  rw [crcLoop_toBitVec, List.map_append, List.map_singleton]
  exact (Crc.words_append_eq_zero_iff crcPolynomial_getLsbD ..).mpr (crcLoop_toBitVec ..)

/-- A function that computes the check byte of the first bytes of a string divides:
it returns the coefficients of the remainder. -/
def Divides (calculate : List UInt8 → ℕ → UInt8) : Prop :=
  ∀ data : List UInt8, (stringPoly data).degree < (8 * data.length : ℕ) ∧
    Crc.toPoly (calculate data data.length).toBitVec
      = (crcStart * X ^ (8 * data.length) + stringPoly data * X ^ 8) %ₘ crcGenerator ∧
    calculate (data ++ [calculate data data.length]) (data.length + 1) = 0

/-- **Division.**  The functions of the three programs divide, so a string followed
by its own check byte is divided without remainder. -/
theorem calculateCRC8_divides :
    Divides Server.calculateCRC8 ∧ Divides Bbb.calculateCRC8 ∧ Divides Stm.calculateCrc8 := by
  have hloop : Divides fun data length => crcLoop crcPolynomial (data.take length) := by
    refine fun data => ⟨?_, ?_, ?_⟩
    · rw [← length_bitsOf]
      exact Crc.degree_ofBits_lt (bitsOf data)
    · dsimp only
      rw [List.take_length]
      exact toPoly_crcLoop data
    · have htake : (data ++ [crcLoop crcPolynomial data]).take (data.length + 1)
          = data ++ [crcLoop crcPolynomial data] := List.take_of_length_le (by simp)
      dsimp only
      rw [List.take_length, htake]
      exact crcLoop_append_self data
  exact ⟨hloop, hloop, hloop⟩

end Pango
