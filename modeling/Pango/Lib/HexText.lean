import Pango.Lib.Buf

/-!
# Bytes printed in hexadecimal

`hexByte b` is what `printf` writes for a byte under `%x`: lower-case digits
without padding, so that the width varies with the value.  Where such a text is
used as a key, two questions arise: whether different bytes may be printed alike,
and whether two lists of bytes may, when their texts run together.  A separator
that is no digit settles both.

* `hexByte_injective` — the text determines the byte.
* `mem_hexByte`, `colon_notMem_hexByte`, `ne_zero_of_mem_hexByte` — it is made of
  digits, so it holds neither a zero byte nor a colon.
* `colonHex_injective` — a list of bytes printed with colons between them can be
  read back.
* `length_hexByte_le`, `length_colonHex_lt` — at most two characters for a byte,
  and at most three with its colon.
-/

namespace HexText

/-- The hexadecimal digits. -/
def hexDigits : List UInt8 :=
  ascii ['0', '1', '2', '3', '4', '5', '6', '7', '8', '9', 'a', 'b', 'c', 'd', 'e', 'f']

/-- The character of a hexadecimal digit. -/
def hexDigit (n : ℕ) : UInt8 := UInt8.ofNat n.digitChar.toNat

/-- A byte under `%x`. -/
def hexByte (b : UInt8) : List UInt8 := (Nat.toDigits 16 b.toNat).map fun c => UInt8.ofNat c.toNat

/-- The character `:`. -/
def colon : UInt8 := 58

/-- Bytes under `%x`, with colons between them. -/
def colonHex (l : List UInt8) : List UInt8 := [colon].intercalate (l.map hexByte)

theorem hexByte_eq (b : UInt8) :
    hexByte b = if b.toNat < 16 then [hexDigit b.toNat]
      else [hexDigit (b.toNat / 16), hexDigit (b.toNat % 16)] := by
  have hb := b.toNat_lt
  unfold hexByte hexDigit
  split
  · rename_i h
    rw [Nat.toDigits_of_lt_base h]
    rfl
  · rename_i h
    rw [Nat.toDigits_of_base_le (by decide) (by omega), Nat.toDigits_of_lt_base (by omega)]
    rfl

theorem hexDigit_injOn : ∀ m < 16, ∀ n < 16, hexDigit m = hexDigit n → m = n := by decide

theorem hexDigit_mem : ∀ n < 16, hexDigit n ∈ hexDigits := by decide

/-- The text of a byte determines the byte. -/
theorem hexByte_injective : Function.Injective hexByte := by
  intro a b h
  have ha := a.toNat_lt
  have hb := b.toNat_lt
  refine UInt8.toNat_inj.mp ?_
  rw [hexByte_eq, hexByte_eq] at h
  split at h <;> split at h
  · exact hexDigit_injOn _ (by omega) _ (by omega) (List.cons.inj h).1
  · simp at h
  · simp at h
  · obtain ⟨h₁, h₂⟩ := List.cons.inj h
    have hdiv := hexDigit_injOn _ (by omega) _ (by omega) h₁
    have hmod := hexDigit_injOn _ (by omega) _ (by omega) (List.cons.inj h₂).1
    omega

theorem mem_hexByte {b c : UInt8} (h : c ∈ hexByte b) : c ∈ hexDigits := by
  have hb := b.toNat_lt
  rw [hexByte_eq] at h
  split at h
  · rename_i hlt
    rw [List.mem_singleton.mp h]
    exact hexDigit_mem _ hlt
  · rcases List.mem_cons.mp h with rfl | h
    · exact hexDigit_mem _ (by omega)
    · rw [List.mem_singleton.mp h]
      exact hexDigit_mem _ (by omega)

theorem length_hexByte_le (b : UInt8) : (hexByte b).length ≤ 2 := by
  rw [hexByte_eq]
  split <;> simp

theorem colon_notMem_hexByte (b : UInt8) : colon ∉ hexByte b := fun h =>
  absurd (mem_hexByte h) (by decide)

theorem ne_zero_of_mem_hexByte {b c : UInt8} (h : c ∈ hexByte b) : c ≠ 0 := by
  rintro rfl
  exact absurd (mem_hexByte h) (by decide)

/-- **Bytes printed with colons between them can be read back.** -/
theorem colonHex_injective {l m : List UInt8} (hl : l ≠ []) (hm : m ≠ [])
    (h : colonHex l = colonHex m) : l = m := by
  have hsplit : ∀ k : List UInt8, k ≠ [] → (colonHex k).splitOn colon = k.map hexByte := by
    intro k hk
    refine List.splitOn_intercalate colon (fun t ht => ?_) (by simpa using hk)
    obtain ⟨b, -, rfl⟩ := List.mem_map.mp ht
    exact colon_notMem_hexByte b
  have hmap : l.map hexByte = m.map hexByte := by rw [← hsplit l hl, ← hsplit m hm, h]
  exact List.map_injective_iff.mpr hexByte_injective hmap

theorem colonHex_singleton (a : UInt8) : colonHex [a] = hexByte a := by
  simp [colonHex]

theorem colonHex_cons_cons (a b : UInt8) (l : List UInt8) :
    colonHex (a :: b :: l) = hexByte a ++ colon :: colonHex (b :: l) := by
  simp [colonHex, List.intercalate]

theorem mem_colonHex {l : List UInt8} {c : UInt8} (h : c ∈ colonHex l) :
    c ∈ hexDigits ∨ c = colon := by
  induction l with
  | nil => simp [colonHex] at h
  | cons a l ih =>
    cases l with
    | nil =>
      rw [colonHex_singleton] at h
      exact .inl (mem_hexByte h)
    | cons b l =>
      rw [colonHex_cons_cons, List.mem_append, List.mem_cons] at h
      rcases h with h | h | h
      · exact .inl (mem_hexByte h)
      · exact .inr h
      · exact ih h

theorem length_colonHex_lt {l : List UInt8} (hl : l ≠ []) :
    (colonHex l).length < 3 * l.length := by
  induction l with
  | nil => exact absurd rfl hl
  | cons a l ih =>
    have ha := length_hexByte_le a
    cases l with
    | nil =>
      rw [colonHex_singleton, List.length_singleton]
      omega
    | cons b l =>
      have hb := ih (List.cons_ne_nil b l)
      rw [colonHex_cons_cons, List.length_append, List.length_cons, List.length_cons]
      omega

end HexText
