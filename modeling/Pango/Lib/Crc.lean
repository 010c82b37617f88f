import Mathlib

/-!
# Cyclic redundancy checks on a shift register

A register of `w` bits is shifted towards its most significant end; when a one
falls out, the polynomial is added.  A message is a list of `w`-bit words, each
added to the register before `w` shifts.

* `shift_xor`, `words_xor` — everything is linear over `GF(2)`: the checksum of
  a sum is the sum of the checksum of the one and the zero-start checksum of
  the other.
* `shift_injective` — if the polynomial has a constant term, a shift loses
  nothing.
* `word_eq_bits` — a word at a time is a bit at a time, most significant first.
* `words_append_eq_zero_iff` — a message with a check word is accepted exactly
  if the whole of it leaves an empty register.
* `bits_burst_ne_zero`, `bits_pair_ne_zero` — **detection**: an error pattern
  confined to `w` consecutive bits, or made of two bits whose distance is below
  the order of the shift, does not leave an empty register.
-/

namespace Crc

variable {w : ℕ} (poly : BitVec w)

/-- One shift of the register. -/
def shift (s : BitVec w) : BitVec w := if s.msb then s <<< 1 ^^^ poly else s <<< 1

/-- Take one word of the message in. -/
def word (s d : BitVec w) : BitVec w := (shift poly)^[w] (s ^^^ d)

/-- Take a message in, word by word. -/
def words (s : BitVec w) (l : List (BitVec w)) : BitVec w := l.foldl (word poly) s

/-- Take one bit of the message in. -/
def bit (s : BitVec w) (b : Bool) : BitVec w := if b then shift poly s ^^^ poly else shift poly s

/-- Take a message in, bit by bit. -/
def bits (s : BitVec w) (l : List Bool) : BitVec w := l.foldl (bit poly) s

/-- The bits of a word, most significant first. -/
def msbFirst (d : BitVec w) : List Bool := (List.range w).map d.getMsbD

variable {poly}

/-! ## Linearity -/

theorem shift_eq (s : BitVec w) : shift poly s = s <<< 1 ^^^ if s.msb then poly else 0#w := by
  unfold shift
  split <;> simp

@[simp] theorem shift_zero : shift poly 0#w = 0#w := by
  simp [shift]

theorem xor_cross (a b c d : BitVec w) : a ^^^ b ^^^ (c ^^^ d) = a ^^^ c ^^^ (b ^^^ d) := by
  ac_rfl

/-- A shift is linear. -/
theorem shift_xor (a b : BitVec w) : shift poly (a ^^^ b) = shift poly a ^^^ shift poly b := by
  have hmsb : (if (a ^^^ b).msb then poly else 0#w)
      = (if a.msb then poly else 0#w) ^^^ if b.msb then poly else 0#w := by
    rw [BitVec.msb_xor]
    cases a.msb <;> cases b.msb <;> simp
  rw [shift_eq, shift_eq, shift_eq, hmsb, BitVec.shiftLeft_xor_distrib]
  exact xor_cross _ _ _ _

@[simp] theorem shift_iterate_zero (n : ℕ) : (shift poly)^[n] 0#w = 0#w :=
  Function.iterate_fixed shift_zero n

theorem shift_iterate_xor (n : ℕ) (a b : BitVec w) :
    (shift poly)^[n] (a ^^^ b) = (shift poly)^[n] a ^^^ (shift poly)^[n] b := by
  induction n generalizing a b with
  | zero => rfl
  | succ n ih => simp only [Function.iterate_succ, Function.comp_apply, shift_xor, ih]

theorem bit_xor (a b : BitVec w) (x : Bool) :
    bit poly (a ^^^ b) x = shift poly a ^^^ bit poly b x := by
  unfold bit
  cases x
  · simp [shift_xor]
  · simp only [if_true, shift_xor, BitVec.xor_assoc]

theorem bits_eq_xor (s : BitVec w) (l : List Bool) :
    bits poly s l = (shift poly)^[l.length] s ^^^ bits poly 0#w l := by
  induction l using List.reverseRecOn with
  | nil => simp [bits]
  | append_singleton l b ih =>
    unfold bits at ih ⊢
    rw [List.foldl_append, List.foldl_append, ih, List.foldl_cons, List.foldl_nil, List.foldl_cons,
      List.foldl_nil, bit_xor, List.length_append, List.length_singleton,
      Function.iterate_succ_apply']

/-- **The checksum of a sum.**  Adding an error pattern to a message adds the
zero-start checksum of the pattern. -/
theorem words_xor (s t : BitVec w) {l e : List (BitVec w)} (h : l.length = e.length) :
    words poly (s ^^^ t) (List.zipWith (· ^^^ ·) l e) = words poly s l ^^^ words poly t e := by
  induction l generalizing s t e with
  | nil =>
    cases e with
    | nil => rfl
    | cons _ _ => cases h
  | cons d l ih =>
    cases e with
    | nil => cases h
    | cons x e =>
      have hstep : word poly (s ^^^ t) (d ^^^ x) = word poly s d ^^^ word poly t x := by
        unfold word
        rw [← shift_iterate_xor, xor_cross]
      show words poly (word poly (s ^^^ t) (d ^^^ x)) _
          = words poly (word poly s d) l ^^^ words poly (word poly t x) e
      rw [hstep]
      exact ih _ _ (by simpa using h)

/-! ## A shift loses nothing -/

/-- Only the empty register shifts to the empty register, if the polynomial has
a constant term. -/
theorem shift_eq_zero_iff (hp : poly.getLsbD 0 = true) {s : BitVec w} :
    shift poly s = 0#w ↔ s = 0#w := by
  refine ⟨fun h => ?_, fun h => by rw [h, shift_zero]⟩
  unfold shift at h
  cases hm : s.msb with
  | true =>
    rw [hm, if_pos rfl] at h
    have h0 := congrArg (BitVec.getLsbD · 0) h
    simp [hp] at h0
  | false =>
    rw [hm, if_neg Bool.false_ne_true] at h
    refine BitVec.eq_of_getLsbD_eq fun i hi => ?_
    have hs := congrArg (BitVec.getLsbD · (i + 1)) h
    rw [BitVec.msb_eq_getLsbD_last] at hm
    by_cases hlast : i + 1 < w
    · simpa [hlast, BitVec.getLsbD_eq_getElem hi] using hs
    · obtain rfl : i = w - 1 := by omega
      simpa using hm

theorem shift_injective (hp : poly.getLsbD 0 = true) : Function.Injective (shift poly) := by
  intro a b h
  have : shift poly (a ^^^ b) = 0#w := by rw [shift_xor, h, BitVec.xor_self]
  exact BitVec.xor_eq_zero_iff.mp ((shift_eq_zero_iff hp).mp this)

theorem shift_iterate_eq_zero_iff (hp : poly.getLsbD 0 = true) (n : ℕ) {s : BitVec w} :
    (shift poly)^[n] s = 0#w ↔ s = 0#w := by
  refine ⟨fun h => (shift_injective hp).iterate n ?_, fun h => by rw [h, shift_iterate_zero]⟩
  rw [h, shift_iterate_zero]

/-- **The check word.**  A message followed by a word leaves the register empty
exactly if the word is the checksum of the message. -/
theorem words_append_eq_zero_iff (hp : poly.getLsbD 0 = true) (s : BitVec w)
    (l : List (BitVec w)) (c : BitVec w) : words poly s (l ++ [c]) = 0#w ↔ c = words poly s l := by
  unfold words word
  rw [List.foldl_append, List.foldl_cons, List.foldl_nil, shift_iterate_eq_zero_iff hp,
    BitVec.xor_eq_zero_iff]
  exact eq_comm

/-! ## Bit by bit -/

theorem length_msbFirst (d : BitVec w) : (msbFirst d).length = w := by
  simp [msbFirst]

/-- After `k` shifts the register holds the message moved up `k` places, plus
what the bits that fell out have left. -/
theorem shift_iterate_eq_bits (d : BitVec w) {k : ℕ} (hk : k ≤ w) :
    (shift poly)^[k] d = d <<< k ^^^ bits poly 0#w ((msbFirst d).take k) := by
  induction k with
  | zero => simp [bits]
  | succ k ih =>
    have hlen : k < (msbFirst d).length := by rw [length_msbFirst]; omega
    have hbit : (msbFirst d)[k] = (d <<< k).msb := by
      simp only [msbFirst, List.getElem_map, List.getElem_range, BitVec.msb,
        BitVec.getMsbD_shiftLeft]
      simp
    have htake : bits poly 0#w ((msbFirst d).take (k + 1))
        = bit poly (bits poly 0#w ((msbFirst d).take k)) (d <<< k).msb := by
      unfold bits
      rw [List.take_add_one, List.getElem?_eq_getElem hlen, hbit, Option.toList_some,
        List.foldl_append]
      rfl
    rw [Function.iterate_succ_apply', ih (by omega), shift_xor, htake, shift_eq (d <<< k), bit,
      BitVec.shiftLeft_add]
    cases (d <<< k).msb
    · simp
    · simp only [if_true]
      ac_rfl

/-- A word at a time is a bit at a time. -/
theorem word_eq_bits (s d : BitVec w) : word poly s d = bits poly s (msbFirst d) := by
  have hd : (shift poly)^[w] d = bits poly 0#w (msbFirst d) := by
    rw [shift_iterate_eq_bits d le_rfl, List.take_of_length_le (length_msbFirst d).le]
    simp
  rw [bits_eq_xor, length_msbFirst, word, shift_iterate_xor, hd]

theorem words_eq_bits (s : BitVec w) (l : List (BitVec w)) :
    words poly s l = bits poly s (l.flatMap msbFirst) := by
  induction l generalizing s with
  | nil => rfl
  | cons d l ih =>
    show words poly (word poly s d) l = _
    rw [ih, word_eq_bits, List.flatMap_cons]
    unfold bits
    rw [List.foldl_append]

/-! ## Detection -/

theorem bits_append (s : BitVec w) (l m : List Bool) :
    bits poly s (l ++ m) = bits poly (bits poly s l) m := List.foldl_append

theorem bits_replicate_false (s : BitVec w) (n : ℕ) :
    bits poly s (List.replicate n false) = (shift poly)^[n] s := by
  induction n generalizing s with
  | zero => rfl
  | succ n ih => exact ih (shift poly s)

theorem exists_msbFirst_eq {l : List Bool} (h : l.length = w) : ∃ d : BitVec w, msbFirst d = l := by
  refine ⟨(BitVec.ofBoolListBE l).cast h, List.ext_getElem ?_ fun i h₁ h₂ => ?_⟩
  · rw [length_msbFirst, h]
  · simp [msbFirst, BitVec.getMsbD_ofBoolListBE, List.getElem?_eq_getElem h₂]

/-- A pattern of at most `w` bits, not all zero, does not leave an empty
register. -/
theorem bits_short_ne_zero (hp : poly.getLsbD 0 = true) {l : List Bool} (hl : l.length ≤ w)
    (ht : true ∈ l) : bits poly 0#w l ≠ 0#w := by
  intro h0
  obtain ⟨d, hd⟩ := exists_msbFirst_eq (w := w) (l := l ++ List.replicate (w - l.length) false)
    (by simp; omega)
  have hz : word poly 0#w d = 0#w := by
    rw [word_eq_bits, hd, bits_append, h0, bits_replicate_false, shift_iterate_zero]
  rw [word, shift_iterate_eq_zero_iff hp, BitVec.zero_xor] at hz
  have hmem : true ∈ msbFirst d := by rw [hd]; exact List.mem_append_left _ ht
  subst hz
  simp [msbFirst] at hmem

/-- **Bursts.**  A pattern whose ones all lie in one window of `w` consecutive
positions does not leave an empty register. -/
theorem bits_burst_ne_zero (hp : poly.getLsbD 0 = true) {l : List Bool} (ht : true ∈ l) {p : ℕ}
    (hwin : ∀ k (h : k < l.length), l[k] = true → p ≤ k ∧ k < p + w) :
    bits poly 0#w l ≠ 0#w := by
  have hfst : l.take p = List.replicate (l.take p).length false := by
    refine List.eq_replicate_of_mem fun b hb => ?_
    obtain ⟨k, hk, rfl⟩ := List.getElem_of_mem hb
    rw [List.getElem_take, Bool.eq_false_iff]
    intro hb
    have := hwin k _ hb
    rw [List.length_take] at hk
    omega
  have hlst : (l.drop p).drop w = List.replicate ((l.drop p).drop w).length false := by
    refine List.eq_replicate_of_mem fun b hb => ?_
    obtain ⟨k, hk, rfl⟩ := List.getElem_of_mem hb
    rw [List.getElem_drop, List.getElem_drop, Bool.eq_false_iff]
    intro hb
    have := hwin _ _ hb
    omega
  have hsplit : l = l.take p ++ ((l.drop p).take w ++ (l.drop p).drop w) := by
    rw [List.take_append_drop, List.take_append_drop]
  have hmid : true ∈ (l.drop p).take w := by
    rw [hsplit, hfst, hlst] at ht
    simpa using ht
  rw [hsplit, bits_append, hfst, bits_replicate_false, shift_iterate_zero, bits_append, hlst,
    bits_replicate_false, Ne, shift_iterate_eq_zero_iff hp]
  exact bits_short_ne_zero hp (by simp) hmid

/-- **Pairs.**  A pattern of exactly two ones, at a distance `n` for which `n`
shifts move the polynomial, does not leave an empty register. -/
theorem bits_pair_ne_zero (hp : poly.getLsbD 0 = true) {l : List Bool} {p q : ℕ} (hpq : p < q)
    (hq : q < l.length) (hl : ∀ k (h : k < l.length), l[k] = true ↔ k = p ∨ k = q)
    (hord : (shift poly)^[q - p] poly ≠ poly) : bits poly 0#w l ≠ 0#w := by
  have hsplit : l = List.replicate p false ++ (true :: (List.replicate (q - p - 1) false
      ++ (true :: List.replicate (l.length - q - 1) false))) := by
    refine List.ext_getElem (by simp; omega) fun k h₁ h₂ => ?_
    have hk := hl k h₁
    rw [Bool.eq_iff_iff, hk]
    grind
  have hone : ∀ (s : BitVec w) (m : List Bool),
      bits poly s (true :: m) = bits poly (shift poly s ^^^ poly) m :=
    fun _ _ => rfl
  rw [hsplit, bits_append, bits_replicate_false, shift_iterate_zero, hone, bits_append,
    bits_replicate_false, hone, bits_replicate_false, Ne, shift_iterate_eq_zero_iff hp, shift_zero,
    BitVec.zero_xor, ← Function.iterate_succ_apply' (shift poly), BitVec.xor_eq_zero_iff]
  rwa [show (q - p - 1).succ = q - p by omega]

end Crc
