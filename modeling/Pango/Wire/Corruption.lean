import Pango.Bbb.ClientFunc
import Pango.Server.ClientThreadFunc
import Pango.Stm.Pack

/-!
# Corrupted frames

An error pattern is added to a codeword, a message with its check byte.  The
check fails for every pattern confined to eight consecutive bits and for every
pattern of two bits less than 255 apart: the shift by the generator has order
255, as long as a register of eight bits allows.

The frames of the three programs are ten bytes, so any two damaged bits of a frame are
noticed.  The functions take a length, though, and what is said of them is said for messages
of any length.

* `shift_iterate_crcPolynomial_ne` — **the order of the shift**.
* `crcLoop_corrupt_ne` — detection, for the loop itself.
* `corruption_detected` — for the functions of the three programs, and for the
  frames they exchange.
-/

namespace Pango

/-! ## Error patterns -/

/-- The bits of a byte string, most significant first within each byte. -/
def bitsOf (e : List UInt8) : List Bool := e.flatMap fun b => Crc.msbFirst b.toBitVec

/-- What arrives when the pattern `e` is added to `w`. -/
def corrupt (w e : List UInt8) : List UInt8 := List.zipWith (· ^^^ ·) w e

/-- The set bits lie in a window of eight. -/
def Burst (e : List UInt8) : Prop :=
  ∃ p, ∀ k (h : k < (bitsOf e).length), (bitsOf e)[k] = true → p ≤ k ∧ k < p + 8

/-- Exactly two bits are set, less than `n` apart. -/
def TwoBits (n : ℕ) (e : List UInt8) : Prop :=
  ∃ p q, p < q ∧ q - p < n ∧ q < (bitsOf e).length ∧
    ∀ k (h : k < (bitsOf e).length), (bitsOf e)[k] = true ↔ k = p ∨ k = q

/-! ## Detection -/

/-- The generator has a constant term. -/
theorem crcPolynomial_getLsbD : crcPolynomial.toBitVec.getLsbD 0 = true := by decide

/-- **The order of the shift**: fewer than 255 shifts do not bring the generator
back. -/
theorem shift_iterate_crcPolynomial_ne : ∀ n, 0 < n → n < 255 →
    (Crc.shift crcPolynomial.toBitVec)^[n] crcPolynomial.toBitVec ≠ crcPolynomial.toBitVec := by
  have hall : ∀ n : Fin 255, 0 < n.val →
      (Crc.shift crcPolynomial.toBitVec)^[n.val] crcPolynomial.toBitVec
        ≠ crcPolynomial.toBitVec := by
    decide +kernel
  exact fun n h0 hn => hall ⟨n, hn⟩ h0

/-- A pattern of either shape leaves something in an empty register. -/
theorem words_pattern_ne_zero {e : List UInt8} (hne : ∃ b ∈ e, b ≠ 0)
    (hshape : Burst e ∨ TwoBits 255 e) :
    Crc.words crcPolynomial.toBitVec 0#8 (e.map UInt8.toBitVec) ≠ 0#8 := by
  have hbits : (e.map UInt8.toBitVec).flatMap Crc.msbFirst = bitsOf e := by
    rw [bitsOf, List.flatMap_map]
  rw [Crc.words_eq_bits, hbits]
  rcases hshape with ⟨p, hwin⟩ | ⟨p, q, hpq, hdist, hq, hl⟩
  · refine Crc.bits_burst_ne_zero crcPolynomial_getLsbD ?_ hwin
    obtain ⟨b, hb, hb0⟩ := hne
    have hbit : true ∈ Crc.msbFirst b.toBitVec := by
      by_contra hno
      refine hb0 (UInt8.toBitVec_inj.mp (BitVec.eq_of_getMsbD_eq fun i hi => ?_))
      rw [Crc.msbFirst, List.mem_map] at hno
      have : b.toBitVec.getMsbD i = false := by
        rw [Bool.eq_false_iff]
        exact fun hi' => hno ⟨i, List.mem_range.mpr hi, hi'⟩
      rw [this]
      exact BitVec.getMsbD_zero.symm
    exact List.mem_flatMap.mpr ⟨b, hb, hbit⟩
  · exact Crc.bits_pair_ne_zero crcPolynomial_getLsbD hpq hq hl
      (shift_iterate_crcPolynomial_ne _ (by omega) hdist)

/-- **Detection.**  The check byte of a corrupted codeword is not the checksum of
the bytes before it. -/
theorem crcLoop_corrupt_ne {d e : List UInt8} (hlen : e.length = d.length + 1)
    (hne : ∃ b ∈ e, b ≠ 0) (hshape : Burst e ∨ TwoBits 255 e) :
    (corrupt (d ++ [crcLoop crcPolynomial d]) e).getD d.length 0
      ≠ crcLoop crcPolynomial ((corrupt (d ++ [crcLoop crcPolynomial d]) e).take d.length) := by
  intro hacc
  obtain ⟨e', c, rfl⟩ : ∃ e' c, e = e' ++ [c] :=
    ⟨e.dropLast, e.getLast (by rintro rfl; simp at hlen), (List.dropLast_append_getLast _).symm⟩
  have hlen' : d.length = e'.length := by simpa using hlen.symm
  have hw : corrupt (d ++ [crcLoop crcPolynomial d]) (e' ++ [c])
      = corrupt d e' ++ [crcLoop crcPolynomial d ^^^ c] := by
    rw [corrupt, List.zipWith_append hlen']
    rfl
  have hl : (corrupt d e').length = d.length := by simp [corrupt, hlen']
  rw [hw, List.take_left' hl, ← hl, List.getD_append_right _ _ _ _ le_rfl] at hacc
  simp only [Nat.sub_self, List.getD_cons_zero] at hacc
  -- the sum of two codewords is a codeword, with an empty register to start from
  refine words_pattern_ne_zero hne hshape ?_
  have hmap : ∀ a b : List UInt8, (corrupt a b).map UInt8.toBitVec
      = List.zipWith (· ^^^ ·) (a.map UInt8.toBitVec) (b.map UInt8.toBitVec) := by
    intro a b
    rw [corrupt, List.map_zipWith, List.zipWith_map]
    rfl
  have hsum : (crcLoop crcPolynomial (corrupt d e')).toBitVec
      = (crcLoop crcPolynomial d).toBitVec
        ^^^ Crc.words crcPolynomial.toBitVec 0#8 (e'.map UInt8.toBitVec) := by
    rw [crcLoop_toBitVec, hmap, crcLoop_toBitVec, ← Crc.words_xor _ _ (by simpa using hlen'),
      BitVec.xor_zero]
  rw [List.map_append, List.map_singleton, Crc.words_append_eq_zero_iff crcPolynomial_getLsbD]
  have := congrArg UInt8.toBitVec hacc
  rw [hsum, UInt8.toBitVec_xor] at this
  exact (BitVec.xor_right_inj _).mp this

/-! ## The three programs -/

theorem exists_data (f : Frame) : ∃ d, d.length = 9 ∧ f.toList = d ++ [f.crc] := by
  obtain ⟨s, m₀, m₁, m₂, m₃, m₄, m₅, x, y, c, rfl⟩ := f.exists_bytes
  exact ⟨[s, m₀, m₁, m₂, m₃, m₄, m₅, x, y], rfl, rfl⟩

/-- A frame that passes the check no longer passes it once a pattern of either
shape is added to it. -/
theorem not_crcValid_corrupt {f g : Frame} {e : List UInt8} (hf : Server.CrcValid f)
    (hlen : e.length = 10) (hne : ∃ b ∈ e, b ≠ 0) (hshape : Burst e ∨ TwoBits 255 e)
    (hg : g.toList = corrupt f.toList e) : ¬ Server.CrcValid g := by
  obtain ⟨d, hd, hfd⟩ := exists_data f
  have hcrc : f.crc = crcLoop crcPolynomial d := by
    rw [Server.CrcValid, Server.calculateCRC8, hfd, List.take_left' hd] at hf
    exact hf
  have hdet := crcLoop_corrupt_ne (d := d) (by omega) hne hshape
  rw [← hcrc, ← hfd, ← hg, hd] at hdet
  exact hdet

/-- **Corruption detection.**  In each of the three programs, a codeword with a
pattern of either shape added to it is none; and a frame that passes the check
is refused by the server and by the BBB after any such pattern, and after any
error of two bits. -/
theorem corruption_detected :
    (∀ calculate ∈ [Stm.calculateCrc8, Bbb.calculateCRC8, Server.calculateCRC8],
      ∀ d e : List UInt8, e.length = d.length + 1 → (∃ b ∈ e, b ≠ 0) →
        Burst e ∨ TwoBits 255 e →
        let w := corrupt (d ++ [calculate d d.length]) e
        w.getD d.length 0 ≠ calculate w d.length)
    ∧ ∀ f g : Frame, ∀ e : List UInt8, Server.CrcValid f → e.length = 10 → (∃ b ∈ e, b ≠ 0) →
        (Burst e ∨ ∃ n, TwoBits n e) → g.toList = corrupt f.toList e →
        ∀ status, Server.crc8Check g Server.pangoDataSize status = (false, Server.crc8TestFailed)
          ∧ Bbb.crc8Check g Bbb.pangoDataSize status
            = if status = Bbb.AppStatus.on then Bbb.AppStatus.stayOn
            else Bbb.AppStatus.stayOff := by
  refine ⟨fun calculate hcalc d e hlen hne hshape => ?_,
    fun f g e hf hlen hne hshape hg status => ?_⟩
  · have heq : calculate = fun data length => crcLoop crcPolynomial (data.take length) := by
      simp only [List.mem_cons, List.not_mem_nil, or_false] at hcalc
      rcases hcalc with rfl | rfl | rfl <;> rfl
    subst heq
    simp only [List.take_length]
    exact crcLoop_corrupt_ne hlen hne hshape
  · have hbits : (bitsOf e).length = 80 := by
      simp [bitsOf, List.length_flatMap, Crc.length_msbFirst, hlen]
    have hshape' : Burst e ∨ TwoBits 255 e := by
      refine hshape.imp_right fun ⟨n, p, q, hpq, _, hq, hl⟩ => ⟨p, q, hpq, ?_, hq, hl⟩
      omega
    have hg' := not_crcValid_corrupt hf hlen hne hshape' hg
    exact ⟨Server.crc8Check_of_not_valid hg' status, if_pos hg'⟩

/-- One flipped bit in a message of one byte. -/
theorem corruption_detected_bit :
    (corrupt ([7] ++ [Server.calculateCRC8 [7] 1]) [16, 0]).getD 1 0
      ≠ Server.calculateCRC8 (corrupt ([7] ++ [Server.calculateCRC8 [7] 1]) [16, 0]) 1 :=
  corruption_detected.1 Server.calculateCRC8 (by simp) [7] [16, 0] rfl ⟨16, by simp, by decide⟩
    (.inl ⟨0, by decide⟩)

end Pango
