import Pango.Lib.Crc

/-!
# A cyclic redundancy check as a division of polynomials

The register of `Crc` holds the coefficients of a polynomial over `GF(2)` of
degree below `w`.  A shift multiplies it by `X` modulo the generator
`X ^ w + poly`, so taking a message in is long division, and the check word of
a message is a remainder.  This is how a cyclic redundancy check is specified, while
`Crc` says how it is computed; the two are joined here, for any width and any generator.

* `monic_generator`, `degree_generator` — the divisor, which has one coefficient
  more than the register.
* `toPoly_xor`, `toPoly_shift` — a sum and a shift, as equations of polynomials.
* `toPoly_bits`, `toPoly_words` — **division**: what a message leaves in the
  register is the remainder of the start value and the message, each moved up
  far enough.
-/

namespace Crc

open Polynomial

variable {w : ℕ}

/-! ## Registers and messages as polynomials -/

/-- The polynomial whose coefficients the register holds. -/
noncomputable def toPoly (s : BitVec w) : (ZMod 2)[X] :=
  ∑ i ∈ Finset.range w, if s.getLsbD i then X ^ i else 0

/-- A message read as a polynomial, the first bit as the leading coefficient. -/
noncomputable def ofBits (l : List Bool) : (ZMod 2)[X] :=
  l.foldl (fun p b => p * X + if b then 1 else 0) 0

/-- The polynomial that is divided by. -/
noncomputable def generator (poly : BitVec w) : (ZMod 2)[X] := X ^ w + toPoly poly

theorem coeff_toPoly (s : BitVec w) (n : ℕ) :
    (toPoly s).coeff n = if s.getLsbD n then 1 else 0 := by
  have hterm : ∀ i, (if s.getLsbD i then (X : (ZMod 2)[X]) ^ i else 0).coeff n
      = if n = i then if s.getLsbD n then 1 else 0 else 0 := by
    intro i
    by_cases hi : n = i
    · subst hi
      cases s.getLsbD n <;> simp
    · cases s.getLsbD i <;> simp [coeff_X_pow, hi]
  rw [toPoly, finsetSum_coeff, Finset.sum_congr rfl fun i _ => hterm i, Finset.sum_ite_eq]
  by_cases hn : n < w
  · rw [if_pos (Finset.mem_range.mpr hn)]
  · rw [if_neg (by simpa using hn), BitVec.getLsbD_of_ge s n (by omega)]
    rfl

theorem degree_toPoly_lt (s : BitVec w) : (toPoly s).degree < w := by
  rw [degree_lt_iff_coeff_zero]
  intro n hn
  rw [coeff_toPoly, BitVec.getLsbD_of_ge s n hn]
  rfl

theorem toPoly_xor (a b : BitVec w) : toPoly (a ^^^ b) = toPoly a + toPoly b := by
  ext n
  rw [coeff_add, coeff_toPoly, coeff_toPoly, coeff_toPoly, BitVec.getLsbD_xor]
  cases a.getLsbD n <;> cases b.getLsbD n <;> decide

@[simp] theorem toPoly_zero : toPoly 0#w = 0 := by
  simp [toPoly]

theorem monic_generator (poly : BitVec w) : (generator poly).Monic :=
  monic_X_pow_add (degree_toPoly_lt poly)

theorem degree_generator (poly : BitVec w) : (generator poly).degree = w := by
  have hlt : (toPoly poly).degree < (X ^ w : (ZMod 2)[X]).degree := by
    rw [degree_X_pow]
    exact degree_toPoly_lt poly
  rw [generator, degree_add_eq_left_of_degree_lt hlt, degree_X_pow]

theorem ofBits_append_singleton (l : List Bool) (b : Bool) :
    ofBits (l ++ [b]) = ofBits l * X + if b then 1 else 0 := by
  simp [ofBits]

theorem degree_ofBits_lt (l : List Bool) : (ofBits l).degree < l.length := by
  rw [degree_lt_iff_coeff_zero]
  induction l using List.reverseRecOn with
  | nil => simp [ofBits]
  | append_singleton l b ih =>
    intro n hn
    rw [List.length_append, List.length_singleton] at hn
    obtain ⟨n, rfl⟩ : ∃ k, n = k + 1 := ⟨n - 1, by omega⟩
    rw [ofBits_append_singleton, coeff_add, coeff_mul_X, ih n (by omega)]
    cases b <;> simp [coeff_one]

/-! ## Division -/

/-- A shift multiplies by `X`, and takes the generator off if the degree reaches
`w`. -/
theorem toPoly_shift (poly s : BitVec w) :
    toPoly (shift poly s) = toPoly s * X + if s.msb then generator poly else 0 := by
  have hleft : toPoly (s <<< 1) = toPoly s * X + if s.msb then X ^ w else 0 := by
    ext n
    rw [coeff_add, coeff_toPoly, BitVec.getLsbD_shiftLeft]
    cases n with
    | zero =>
      rcases Nat.eq_zero_or_pos w with rfl | hw
      · simp [BitVec.msb_eq_getLsbD_last]
      · cases s.msb <;> simp [coeff_X_pow, hw.ne]
    | succ n =>
      rw [coeff_mul_X, coeff_toPoly, BitVec.msb_eq_getLsbD_last]
      rcases lt_trichotomy (n + 1) w with hlt | rfl | hgt
      · cases s.getLsbD (w - 1) <;> simp [coeff_X_pow, hlt, hlt.ne]
      · rw [Nat.add_sub_cancel]
        generalize s.getLsbD n = b
        cases b <;> simp [coeff_X_pow, CharTwo.add_self_eq_zero]
      · have hn : s.getLsbD n = false := BitVec.getLsbD_of_ge s n (by omega)
        cases s.getLsbD (w - 1) <;> simp [coeff_X_pow, hn, hgt.ne']
  rw [shift_eq, toPoly_xor, hleft, generator]
  cases s.msb
  · simp
  · simp [add_assoc]

/-- Modulo the generator, a bit of the message counts `X ^ w`. -/
theorem dvd_toPoly_bit (poly s : BitVec w) (b : Bool) :
    generator poly ∣ toPoly (bit poly s b) - (toPoly s * X + if b then X ^ w else 0) := by
  have hpoly : toPoly poly = generator poly + X ^ w := by
    rw [generator, add_right_comm, CharTwo.add_self_eq_zero, zero_add]
  cases b with
  | false =>
    rw [bit, if_neg Bool.false_ne_true, toPoly_shift]
    cases s.msb <;> simp
  | true =>
    rw [bit, if_pos rfl, toPoly_xor, toPoly_shift, hpoly]
    cases s.msb
    · simp
    · have htwice : toPoly s * X + generator poly + (generator poly + X ^ w)
          - (toPoly s * X + X ^ w) = 2 * generator poly := by ring
      simp only [if_true]
      rw [htwice]
      exact Dvd.intro_left 2 rfl

theorem toPoly_bits (poly s : BitVec w) (l : List Bool) :
    toPoly (bits poly s l) = (toPoly s * X ^ l.length + ofBits l * X ^ w) %ₘ generator poly := by
  have hdvd : generator poly ∣
      toPoly (bits poly s l) - (toPoly s * X ^ l.length + ofBits l * X ^ w) := by
    induction l using List.reverseRecOn with
    | nil => simp [bits, ofBits]
    | append_singleton l b ih =>
      have hlast : bits poly s (l ++ [b]) = bit poly (bits poly s l) b := bits_append s l [b]
      have hsum : toPoly (bit poly (bits poly s l) b)
            - (toPoly s * X ^ (l.length + 1) + (ofBits l * X + if b then 1 else 0) * X ^ w)
          = (toPoly (bit poly (bits poly s l) b)
              - (toPoly (bits poly s l) * X + if b then X ^ w else 0))
            + (toPoly (bits poly s l) - (toPoly s * X ^ l.length + ofBits l * X ^ w)) * X := by
        cases b
        · simp only [Bool.false_eq_true, if_false]
          ring
        · simp only [if_true]
          ring
      rw [hlast, ofBits_append_singleton, List.length_append, List.length_singleton, hsum]
      exact dvd_add (dvd_toPoly_bit poly _ b) (ih.mul_right X)
  have hself : toPoly (bits poly s l) %ₘ generator poly = toPoly (bits poly s l) :=
    (modByMonic_eq_self_iff (monic_generator poly)).mpr
      ((degree_generator poly).symm ▸ degree_toPoly_lt (bits poly s l))
  rw [← hself, modByMonic_eq_of_dvd_sub (monic_generator poly) hdvd]

/-- **Long division.**  What a message of words leaves in the register is its remainder by the
generator. -/
theorem toPoly_words (poly s : BitVec w) (l : List (BitVec w)) :
    toPoly (words poly s l)
      = (toPoly s * X ^ (w * l.length) + ofBits (l.flatMap msbFirst) * X ^ w)
          %ₘ generator poly := by
  have hlen : (l.flatMap msbFirst).length = w * l.length := by
    rw [List.length_flatMap, List.map_congr_left fun d _ => length_msbFirst d, List.map_const',
      List.sum_replicate, smul_eq_mul, mul_comm]
  rw [words_eq_bits, toPoly_bits, hlen]

end Crc
