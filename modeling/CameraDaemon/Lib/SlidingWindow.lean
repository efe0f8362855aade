import Mathlib.Data.List.GetD
import Mathlib.Data.Set.Insert

/-!
# A sliding window over the natural numbers

Numbers are marked as they come, and only the recent ones are remembered: a list of bits stands for
the numbers up to the highest one so far, the last bit for the highest.  When a higher number comes,
the bits move towards the front and the oldest fall out.

* `slide bits k` — the bits moved `k` places towards the front.
* `Holds top bits seen` — up to the highest number `top`, the bits say which numbers are in `seen`.
* `Holds.mark`, `Holds.advance` — marking a number within the window, and one above it.
-/

namespace SlidingWindow

/-- The bits moved `k` places towards the front; clear ones come in behind. -/
def slide (bits : List Bool) (k : ℕ) : List Bool :=
  bits.drop k ++ List.replicate (min k bits.length) false

@[simp] theorem length_slide (bits : List Bool) (k : ℕ) : (slide bits k).length = bits.length := by
  simp only [slide, List.length_append, List.length_drop, List.length_replicate]
  omega

theorem getD_slide (bits : List Bool) (k j : ℕ) :
    (slide bits k).getD j false = bits.getD (j + k) false := by
  rw [slide]
  rcases Nat.lt_or_ge j (bits.drop k).length with hin | hout
  · have hlt : j + k < bits.length := by
      rw [List.length_drop] at hin
      omega
    rw [List.getD_append _ _ _ _ hin, List.getD_eq_getElem _ _ hin, List.getElem_drop,
      List.getD_eq_getElem _ _ hlt]
    simp only [Nat.add_comm]
  · have hge : bits.length ≤ j + k := by
      rw [List.length_drop] at hout
      omega
    rw [List.getD_append_right _ _ _ _ hout, List.getD_eq_default bits _ hge]
    rcases Nat.lt_or_ge (j - (bits.drop k).length) (min k bits.length) with h | h
    · rw [List.getD_eq_getElem _ _ (by rwa [List.length_replicate]), List.getElem_replicate]
    · rw [List.getD_eq_default _ _ (by rwa [List.length_replicate])]

theorem getD_set_true (bits : List Bool) {k : ℕ} (hk : k < bits.length) (j : ℕ) :
    (bits.set k true).getD j false = (decide (j = k) || bits.getD j false) := by
  rw [List.getD_eq_getElem?_getD, List.getD_eq_getElem?_getD]
  by_cases hjk : j = k
  · rw [hjk, List.getElem?_set_self hk, decide_eq_true rfl, Bool.true_or, Option.getD_some]
  · rw [List.getElem?_set_ne (Ne.symm hjk), decide_eq_false hjk, Bool.false_or]

/-- Up to `top` the bits say which of the recent numbers are in `seen`; the last bit is for `top`. -/
structure Holds (top : ℕ) (bits : List Bool) (seen : Set ℕ) : Prop where
  le : ∀ i ∈ seen, i ≤ top
  bit : ∀ i ≤ top, top - i < bits.length →
    (bits.getD (bits.length - 1 - (top - i)) false = true ↔ i ∈ seen)

variable {top : ℕ} {bits : List Bool} {seen : Set ℕ}

/-- In the beginning nothing is marked. -/
theorem holds_replicate (top n : ℕ) : Holds top (List.replicate n false) ∅ := by
  refine ⟨fun i hi => absurd hi (Set.notMem_empty i), fun i _ hwin => ?_⟩
  rw [List.length_replicate] at hwin
  rw [List.getD_eq_getElem _ _ (by rw [List.length_replicate]; omega), List.getElem_replicate]
  exact iff_of_false Bool.false_ne_true (Set.notMem_empty i)

/-- A number within the window is marked. -/
theorem Holds.mark (h : Holds top bits seen) {n : ℕ} (hn : n ≤ top)
    (hwin : top - n < bits.length) :
    Holds top (bits.set (bits.length - 1 - (top - n)) true) (insert n seen) := by
  refine ⟨?_, ?_⟩
  · rintro i (rfl | hi)
    · exact hn
    · exact h.le i hi
  · intro i hi hiwin
    rw [List.length_set] at hiwin ⊢
    rw [getD_set_true _ (by omega), Bool.or_eq_true, decide_eq_true_iff, h.bit i hi hiwin,
      Set.mem_insert_iff]
    refine or_congr_left ?_
    omega

/-- A number above the highest one becomes the highest, and the window slides. -/
theorem Holds.advance (h : Holds top bits seen) (hpos : 0 < bits.length) {n : ℕ} (hn : top < n) :
    Holds n ((slide bits (n - top)).set (bits.length - 1) true) (insert n seen) := by
  refine ⟨?_, ?_⟩
  · rintro i (rfl | hi)
    · exact Nat.le_refl i
    · exact Nat.le_of_lt (Nat.lt_of_le_of_lt (h.le i hi) hn)
  · intro i hi hiwin
    rw [List.length_set, length_slide] at hiwin ⊢
    rw [getD_set_true _ (by rw [length_slide]; omega), getD_slide, Bool.or_eq_true,
      decide_eq_true_iff, Set.mem_insert_iff]
    rcases Nat.lt_or_ge top i with habove | hbelow
    · -- between the old and the new highest nothing was marked
      have hout : bits.length ≤ bits.length - 1 - (n - i) + (n - top) := by omega
      have hnot : i ∉ seen := fun hmem => Nat.not_le.mpr habove (h.le i hmem)
      rw [List.getD_eq_default _ _ hout]
      simp only [Bool.false_eq_true, or_false, hnot]
      omega
    · have hplace : bits.length - 1 - (n - i) + (n - top) = bits.length - 1 - (top - i) := by
        omega
      rw [hplace, h.bit i hbelow (by omega)]
      refine or_congr_left ?_
      omega

end SlidingWindow
