import Mathlib.Data.List.Basic
import Mathlib.Data.List.GetD

/-!
# Flat memory: reading a slice, storing a block

A buffer is the memory behind a pointer, a function of the index: reading past the end of the
object that the pointer was given for still reads *something*, which is how C reads it.  A copy
between two buffers is `store dst pos (slice src off len)`.

* `slice mem off len` — the `len` cells from `off` on.
* `store mem pos bs` — the memory with the block `bs` written from `pos` on.
* `slice_add`, `slice_store`, `slice_zero_store`, `store_append` — how the two compose.
-/

namespace Memory

variable {β : Type*}

/-- The `len` cells of `mem` from `off` on. -/
def slice (mem : ℕ → β) (off len : ℕ) : List β := (List.range len).map fun i => mem (off + i)

/-- `mem` with the block `bs` written from `pos` on. -/
def store (mem : ℕ → β) (pos : ℕ) (bs : List β) : ℕ → β :=
  fun i => if i < pos then mem i else bs.getD (i - pos) (mem i)

@[simp] theorem length_slice (mem : ℕ → β) (off len : ℕ) : (slice mem off len).length = len := by
  simp [slice]

@[simp] theorem slice_zero_len (mem : ℕ → β) (off : ℕ) : slice mem off 0 = [] := rfl

/-- The front of a slice is a slice. -/
theorem take_slice (mem : ℕ → β) (off : ℕ) {m n : ℕ} (h : m ≤ n) :
    (slice mem off n).take m = slice mem off m := by
  rw [slice, slice, ← List.map_take, List.take_range, Nat.min_eq_left h]

/-- Two adjacent slices are one slice. -/
theorem slice_add (mem : ℕ → β) (off m n : ℕ) :
    slice mem off (m + n) = slice mem off m ++ slice mem (off + m) n := by
  simp only [slice, List.range_add, List.map_append, List.map_map]
  congr 1
  refine List.map_congr_left fun i _ => ?_
  simp [Nat.add_assoc]

/-- The cells behind a store are left alone. -/
theorem store_of_le (mem : ℕ → β) {pos i : ℕ} {bs : List β} (h : pos + bs.length ≤ i) :
    store mem pos bs i = mem i := by
  have hpos : ¬ i < pos := by omega
  rw [store, if_neg hpos, List.getD_eq_default _ _ (by omega)]

/-- A part of what was stored is read back. -/
theorem slice_store_take (mem : ℕ → β) (pos : ℕ) {bs : List β} {n : ℕ} (h : n ≤ bs.length) :
    slice (store mem pos bs) pos n = bs.take n := by
  apply List.ext_getElem
  · simp [h]
  · intro i h₁ h₂
    have hi : i < bs.length := by
      rw [List.length_take] at h₂
      omega
    have hpos : ¬ pos + i < pos := by omega
    simp only [slice, store, List.getElem_map, List.getElem_range, if_neg hpos,
      Nat.add_sub_cancel_left, List.getD_eq_getElem _ _ hi, List.getElem_take]

/-- What was stored is what is read. -/
theorem slice_store (mem : ℕ → β) (pos : ℕ) (bs : List β) :
    slice (store mem pos bs) pos bs.length = bs := by
  rw [slice_store_take mem pos (Nat.le_refl _), List.take_length]

/-- A store leaves the cells before it alone. -/
theorem slice_store_of_le (mem : ℕ → β) {pos off len : ℕ} (h : off + len ≤ pos) (bs : List β) :
    slice (store mem pos bs) off len = slice mem off len := by
  refine List.map_congr_left fun i hi => ?_
  rw [List.mem_range] at hi
  simp [store, show off + i < pos by omega]

/-- Appending a block at the end of a prefix appends it to the prefix read back. -/
theorem slice_zero_store (mem : ℕ → β) (pos : ℕ) (bs : List β) :
    slice (store mem pos bs) 0 (pos + bs.length) = slice mem 0 pos ++ bs := by
  rw [slice_add, slice_store_of_le mem (by omega), Nat.zero_add, slice_store]

@[simp] theorem store_nil (mem : ℕ → β) (pos : ℕ) : store mem pos [] = mem := by
  funext i
  simp [store]

/-- Two adjacent stores are one store. -/
theorem store_append (mem : ℕ → β) (pos : ℕ) (as bs : List β) :
    store (store mem pos as) (pos + as.length) bs = store mem pos (as ++ bs) := by
  funext i
  by_cases hbefore : i < pos
  · have hall : i < pos + as.length := by omega
    simp only [store, if_pos hbefore, if_pos hall]
  · by_cases hfirst : i < pos + as.length
    · have hin : i - pos < as.length := by omega
      simp only [store, if_neg hbefore, if_pos hfirst, List.getD_append _ _ _ _ hin]
    · have hout : as.length ≤ i - pos := by omega
      have hoff : i - pos - as.length = i - (pos + as.length) := by omega
      simp only [store, if_neg hbefore, if_neg hfirst, List.getD_append_right _ _ _ _ hout, hoff,
        List.getD_eq_default _ _ hout]

end Memory
