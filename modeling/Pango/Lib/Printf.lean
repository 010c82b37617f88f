import Pango.Lib.CInt

/-!
# Formatted prints into arrays

A print writes a text and a terminating zero into an array, from an offset on; it
stays inside the array if both fit.  A program that builds a text piece by piece
executes a chain of such prints, each at the place where the last one put its zero,
and whether the chain stays inside is a question about the sum of the lengths only.

* `Print.Fits` — the print stays inside an array of that size.
* `Print.fits_of_mem_pieces` — texts that are printed one behind the other fit, each
  of them, if all of them together do.
* `Print.printAll_eq_foldl` — such a chain is the prints one by one.
* `length_decText_le` — an `int` under `%d` is at most eleven characters long.
-/

/-- A print of `text` at `offset` of an array of `size` bytes. -/
structure Print where
  size : ℕ
  offset : ℕ := 0
  text : List UInt8
  deriving DecidableEq

namespace Print

/-- The text and its terminating zero stay inside the array. -/
def Fits (p : Print) : Prop := Buf.Fits p.size p.offset (p.text ++ [0])

theorem fits_iff {size offset : ℕ} {text : List UInt8} :
    Fits ⟨size, offset, text⟩ ↔ offset + text.length + 1 ≤ size := by
  unfold Fits Buf.Fits
  rw [List.length_append, List.length_singleton, Nat.add_assoc]

/-- The prints that put texts one behind the other. -/
def pieces (size offset : ℕ) : List (List UInt8) → List Print
  | [] => []
  | t :: ts => ⟨size, offset, t⟩ :: pieces size (offset + t.length) ts

theorem fits_of_mem_pieces {size offset : ℕ} {ts : List (List UInt8)} {p : Print}
    (h : offset + ts.flatten.length + 1 ≤ size) (hp : p ∈ pieces size offset ts) : p.Fits := by
  induction ts generalizing offset with
  | nil => cases hp
  | cons t ts ih =>
    rw [List.flatten_cons, List.length_append] at h
    rcases List.mem_cons.mp hp with rfl | hp
    · rw [fits_iff]
      omega
    · exact ih (by omega) hp

/-- These prints are what `Buf.printAll` does. -/
theorem printAll_eq_foldl {n : ℕ} (b : Buf UInt8 n) (offset : ℕ) (ts : List (List UInt8)) :
    b.printAll offset ts
      = (pieces n offset ts).foldl (fun b p => b.write p.offset (p.text ++ [0])) b := by
  induction ts generalizing b offset with
  | nil => rfl
  | cons t ts ih =>
    rw [Buf.printAll, ih]
    rfl

end Print

/-! ## Conversions -/

/-- An `int` under `%d`. -/
def decText (x : Int) : List UInt8 :=
  ascii ((if x < 0 then ['-'] else []) ++ Nat.toDigits 10 x.natAbs)

/-- A number takes a sign and ten digits at most. -/
theorem length_decText_le {x : Int} (h : CInt.InInt32 x) : (decText x).length ≤ 11 := by
  have hdigits : (Nat.toDigits 10 x.natAbs).length ≤ 10 := by
    rw [Nat.length_toDigits_le_iff (by decide) (by decide)]
    obtain ⟨hlow, hhigh⟩ := h
    omega
  unfold decText ascii
  rw [List.length_map, List.length_append]
  split_ifs
  · rw [List.length_singleton]
    omega
  · rw [List.length_nil]
    omega
