import CameraDaemon.Lib.Memory
import Mathlib.Data.Nat.Find

/-!
# C strings

A C string is a pointer: its characters, none of them zero, the terminator, and the memory that
happens to stand behind it.  The searches of `<string.h>` are given on lists of bytes, with the
treatment of the terminator that the C functions have.

* `ascii` — the bytes of a literal.
* `CStr`, `CStr.mem` — a string and the memory its pointer reads.
* `strlen` — the index of the first zero behind a pointer.
* `strchr` — the position of a character, where the terminator counts as a character.
* `strncmpEq` — does `strncmp`, bounded by the number of bytes of its first argument, return zero?
  `strncmpEq_iff` — it does when the first begins the second.
-/

namespace CString

open Memory

/-- The bytes of a string literal. -/
def ascii (s : String) : List UInt8 := s.toList.map fun c => UInt8.ofNat c.toNat

/-- A C string with what stands behind its terminator. -/
structure CStr where
  chars : List UInt8
  nonzero : ∀ c ∈ chars, c ≠ 0
  behind : ℕ → UInt8

/-- The characters of a literal are checked one by one. -/
theorem ne_zero_of_all {chars : List UInt8} (h : (chars.all fun c => c != 0) = true) :
    ∀ c ∈ chars, c ≠ 0 := by
  intro c hc
  simpa using List.all_eq_true.mp h c hc

/-- The byte at index `i` of the pointer. -/
def CStr.mem (s : CStr) (i : ℕ) : UInt8 :=
  if i < s.chars.length then s.chars.getD i 0
  else if i = s.chars.length then 0
  else s.behind (i - s.chars.length - 1)

/-- `strlen`. -/
def CStr.strlen (s : CStr) : ℕ := s.chars.length

/-- Below the terminator the pointer reads the characters. -/
theorem CStr.mem_mem_chars (s : CStr) {i : ℕ} (hi : i < s.strlen) : s.mem i ∈ s.chars := by
  have hi' : i < s.chars.length := hi
  simp [CStr.mem, hi', List.getElem_mem]

theorem CStr.mem_ne_zero (s : CStr) {i : ℕ} (hi : i < s.strlen) : s.mem i ≠ 0 :=
  s.nonzero _ (s.mem_mem_chars hi)

/-- The bytes of the pointer below the terminator are the characters. -/
theorem CStr.slice_mem (s : CStr) : slice s.mem 0 s.strlen = s.chars := by
  apply List.ext_getElem
  · simp [CStr.strlen]
  · intro i h₁ h₂
    simp [slice, CStr.mem, h₂]

/-- `strlen` of a pointer, where a zero stands somewhere behind it. -/
def strlen (mem : ℕ → UInt8) (h : ∃ i, mem i = 0) : ℕ := Nat.find h

/-- `(int)n`, for the result of `strlen`. -/
def intOfSize (n : ℕ) : Int := (Int32.ofNat n).toInt

theorem intOfSize_of_lt {n : ℕ} (h : n < 2147483648) : intOfSize n = n :=
  Int32.toInt_ofNat_of_lt h

/-- `strchr(s, c) - s`: the search covers the terminator too. -/
def strchr (s : List UInt8) (c : UInt8) : Option ℕ := (s ++ [0]).idxOf? c

/-- What `strchr` finds: the characters of the string, and the terminator. -/
theorem isSome_strchr (s : List UInt8) (c : UInt8) :
    (strchr s c).isSome = true ↔ c ∈ s ∨ c = 0 := by
  rw [strchr, List.isSome_idxOf?, List.mem_append, List.mem_singleton]

/-- `strncmp(a, b, n) == 0` for the `n` bytes `a` and a literal `b`: the comparison stops at the first
difference, and at a terminator of both. -/
def strncmpEq : List UInt8 → List UInt8 → Bool
  | [], _ => true
  | a :: _, [] => a = 0
  | a :: as, b :: bs => if a ≠ b then false else if a = 0 then true else strncmpEq as bs

/-- A string compared over its own length is equal to whatever it begins. -/
theorem strncmpEq_iff {as : List UInt8} (h : ∀ a ∈ as, a ≠ 0) (bs : List UInt8) :
    strncmpEq as bs = true ↔ as <+: bs := by
  induction as generalizing bs with
  | nil => simp [strncmpEq]
  | cons a as ih =>
    have ha : a ≠ 0 := h a List.mem_cons_self
    cases bs with
    | nil => simp [strncmpEq, ha]
    | cons b bs =>
      have hrest := ih (fun c hc => h c (List.mem_cons_of_mem a hc)) bs
      rw [strncmpEq, List.cons_prefix_cons]
      by_cases hab : a = b
      · rw [if_neg (not_not_intro hab), if_neg ha, hrest]
        exact (and_iff_right hab).symm
      · rw [if_pos hab]
        exact iff_of_false Bool.false_ne_true fun hboth => hab hboth.1

end CString
