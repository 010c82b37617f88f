import Mathlib

/-!
# Fixed-size buffers and C strings

`Buf α n` is an array of `n` cells.  Its one operation is `write`, which copies
a list of values into the cells from an offset on, dropping what would fall
past the end; a write that `Fits` drops nothing.  A buffer that is written keeps
the rest of what it held, which is all there is to say about a buffer that is
never cleared.  A C string is what precedes the first zero byte of a buffer, and
if there is none the whole of it.

* `Buf.write_full` — a write that fills the buffer leaves nothing of it.
* `Buf.write_prefix` — a write that continues a prefix extends it, the rule for
  text that is printed into a buffer piece by piece.
* `Buf.prefix_of_flatten_prefix` — full buffers keep their borders in a stream.
* `cstr_of_prefix` — a buffer that starts with a text and its terminating zero
  holds that text.
-/

/-- An array of `n` cells. -/
structure Buf (α : Type*) (n : ℕ) where
  /-- The cells, first to last. -/
  toList : List α
  /-- There are `n` of them. -/
  length_eq : toList.length = n
  deriving DecidableEq

namespace Buf

variable {α : Type*} {n : ℕ}

theorem ext' {a b : Buf α n} (h : a.toList = b.toList) : a = b := by
  cases a
  cases b
  subst h
  rfl

/-- A buffer whose cells all hold `x`. -/
def fill (n : ℕ) (x : α) : Buf α n := ⟨List.replicate n x, List.length_replicate⟩

/-- The `i`-th cell, or `d` past the end. -/
def getD (b : Buf α n) (i : ℕ) (d : α) : α := b.toList.getD i d

/-- Copy `l` into the cells from `off` on. -/
def write (b : Buf α n) (off : ℕ) (l : List α) : Buf α n :=
  ⟨(b.toList.take off ++ l ++ b.toList.drop (off + l.length)).take n, by
    have := b.length_eq
    simp only [List.length_take, List.length_append, List.length_drop]
    omega⟩

/-- The write of `l` at `off` stays inside `n` cells. -/
def Fits (n off : ℕ) (l : List α) : Prop := off + l.length ≤ n

theorem write_toList {b : Buf α n} {off : ℕ} {l : List α} (h : Fits n off l) :
    (b.write off l).toList = b.toList.take off ++ l ++ b.toList.drop (off + l.length) := by
  have hb := b.length_eq
  unfold Fits at h
  refine List.take_of_length_le ?_
  simp only [List.length_append, List.length_take, List.length_drop]
  omega

theorem write_full (b c : Buf α n) : b.write 0 c.toList = c := by
  have hb := b.length_eq
  have hc := c.length_eq
  refine ext' ?_
  rw [write_toList (by unfold Fits; omega), List.take_zero, List.nil_append, Nat.zero_add,
    List.drop_eq_nil_of_le (by omega), List.append_nil]

/-- **Continuing a prefix.**  If a buffer starts with `t`, then after a write of
`u` right behind `t` it starts with `t ++ u`. -/
theorem write_prefix {b : Buf α n} {t u : List α} (ht : t <+: b.toList)
    (hfit : Fits n t.length u) : t ++ u <+: (b.write t.length u).toList := by
  obtain ⟨r, hr⟩ := ht
  rw [write_toList hfit, ← hr, List.take_left]
  exact List.prefix_append _ _

/-! ### Streams of buffers -/

theorem length_flatten_toList (bs : List (Buf α n)) :
    (bs.map toList).flatten.length = bs.length * n := by
  induction bs with
  | nil => simp
  | cons b bs ih =>
    rw [List.map_cons, List.flatten_cons, List.length_append, ih, b.length_eq, List.length_cons]
    ring

/-- Pieces of at most `n` values that make up `n` values each on the whole have
`n` each. -/
theorem length_eq_of_flatten {ls : List (List α)} (hle : ∀ l ∈ ls, l.length ≤ n)
    (h : ls.flatten.length = ls.length * n) : ∀ l ∈ ls, l.length = n := by
  have hsum : ∀ ls : List (List α), (∀ l ∈ ls, l.length ≤ n) →
      ls.flatten.length ≤ ls.length * n := by
    intro ls hle
    rw [List.length_flatten, ← List.length_map List.length, ← smul_eq_mul]
    exact List.sum_le_card_nsmul _ _ (by simpa using hle)
  induction ls with
  | nil => simp
  | cons a ls ih =>
    have ha := hle a List.mem_cons_self
    have hls := hsum ls fun l hl => hle l (List.mem_cons_of_mem a hl)
    rw [List.flatten_cons, List.length_append, List.length_cons, Nat.succ_mul] at h
    intro l hl
    rcases List.mem_cons.mp hl with rfl | hl
    · omega
    · exact ih (fun l hl => hle l (List.mem_cons_of_mem a hl)) (by omega) l hl

/-- Buffers that are sent one behind the other can be told apart again: a stream
that begins another begins it buffer by buffer. -/
theorem prefix_of_flatten_prefix (hn : 0 < n) {as bs : List (Buf α n)}
    (h : (as.map toList).flatten <+: (bs.map toList).flatten) : as <+: bs := by
  induction as generalizing bs with
  | nil => exact List.nil_prefix
  | cons a as ih =>
    cases bs with
    | nil =>
      have := h.length_le
      rw [length_flatten_toList, length_flatten_toList, List.length_cons, List.length_nil] at this
      nlinarith
    | cons b bs =>
      obtain ⟨r, hr⟩ := h
      rw [List.map_cons, List.map_cons, List.flatten_cons, List.flatten_cons,
        List.append_assoc] at hr
      obtain ⟨hab, hrest⟩ := List.append_inj hr (a.length_eq.trans b.length_eq.symm)
      rw [ext' hab, List.cons_prefix_cons]
      exact ⟨rfl, ih ⟨r, hrest⟩⟩

end Buf

/-! ## C strings -/

/-- The text a C string function reads from a sequence of bytes. -/
def cstr (l : List UInt8) : List UInt8 := l.takeWhile (· ≠ 0)

/-- The bytes of an ASCII text, without a terminating zero. -/
def ascii (s : List Char) : List UInt8 := s.map fun c => UInt8.ofNat c.toNat

/-- A text without zero bytes, followed by a zero byte, reads as that text. -/
theorem cstr_append_zero {t r : List UInt8} (ht : ∀ c ∈ t, c ≠ 0) : cstr (t ++ 0 :: r) = t := by
  unfold cstr
  rw [List.takeWhile_append_of_pos (by simpa using ht)]
  simp

/-- Behind a text without zero bytes the next byte decides whether the text ends there. -/
theorem cstr_append_cons_eq_iff {t r : List UInt8} {c : UInt8} (ht : ∀ c ∈ t, c ≠ 0) :
    cstr (t ++ c :: r) = t ↔ c = 0 := by
  unfold cstr
  rw [List.takeWhile_append_of_pos (by simpa using ht), List.append_right_eq_self,
    List.takeWhile_cons]
  by_cases hc : c = 0 <;> simp [hc]

theorem cstr_of_prefix {t l : List UInt8} (ht : ∀ c ∈ t, c ≠ 0) (h : t ++ [0] <+: l) :
    cstr l = t := by
  obtain ⟨r, rfl⟩ := h
  rw [List.append_assoc]
  exact cstr_append_zero ht

/-- A text printed at the start of a buffer it fits in is read back. -/
theorem cstr_write {n : ℕ} (b : Buf UInt8 n) {t : List UInt8} (ht : ∀ c ∈ t, c ≠ 0)
    (hfit : t.length + 1 ≤ n) : cstr (b.write 0 (t ++ [0])).toList = t := by
  refine cstr_of_prefix ht ?_
  have hf : Buf.Fits n ([] : List UInt8).length (t ++ [0]) := by
    unfold Buf.Fits
    simp
    omega
  simpa using Buf.write_prefix (t := []) (u := t ++ [0]) (b := b) List.nil_prefix hf

/-- Print texts one behind the other, each terminated by the zero byte that the
next one overwrites. -/
def Buf.printAll {n : ℕ} (b : Buf UInt8 n) (off : ℕ) : List (List UInt8) → Buf UInt8 n
  | [] => b
  | t :: ts => (b.write off (t ++ [0])).printAll (off + t.length) ts

theorem Buf.prefix_printAll {n : ℕ} {b : Buf UInt8 n} {u : List UInt8} {ts : List (List UInt8)}
    (hu : u <+: b.toList) (hts : ts ≠ []) (hfit : u.length + ts.flatten.length + 1 ≤ n) :
    u ++ ts.flatten ++ [0] <+: (b.printAll u.length ts).toList := by
  induction ts generalizing b u with
  | nil => exact absurd rfl hts
  | cons t ts ih =>
    simp only [List.flatten_cons, List.length_append] at hfit
    have hwrite : u ++ (t ++ [0]) <+: (b.write u.length (t ++ [0])).toList := by
      refine Buf.write_prefix hu ?_
      unfold Buf.Fits
      rw [List.length_append, List.length_singleton]
      omega
    rw [printAll, ← List.length_append]
    by_cases hnil : ts = []
    · subst hnil
      simpa [printAll] using hwrite
    · have hut : u ++ t <+: (b.write u.length (t ++ [0])).toList :=
        (List.prefix_append (u ++ t) [0]).trans (by rwa [List.append_assoc])
      have := ih hut hnil (by rw [List.length_append]; omega)
      rwa [List.append_assoc u t, ← List.flatten_cons] at this

/-- Texts without zero bytes that are printed piece by piece read as one text. -/
theorem Buf.cstr_printAll {n : ℕ} (b : Buf UInt8 n) {ts : List (List UInt8)} (hts : ts ≠ [])
    (hne : ∀ c ∈ ts.flatten, c ≠ 0) (hfit : ts.flatten.length + 1 ≤ n) :
    cstr (b.printAll 0 ts).toList = ts.flatten := by
  refine cstr_of_prefix hne ?_
  have := Buf.prefix_printAll (b := b) (u := []) List.nil_prefix hts (by simpa using hfit)
  simpa using this
