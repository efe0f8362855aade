import Mathlib.Data.List.Basic

/-!
# Loops that overwrite an array in place

A loop runs upwards over a part of an array and overwrites one cell at a time, with a value that is
computed from the array as it stands by then.  If the value for a cell depends only on that cell and
on those behind it, none of which has been overwritten yet, the loop has the same effect as
computing all the values from the old array.

* `sweep f n i w` — `n` turns, from cell `i` on.
* `ReadsAhead f` — the value for a cell depends on that cell and those behind it.
* `getElem?_sweep` — **the cells after the loop.**
-/

namespace Sweep

variable {β : Type*}

/-- `n` turns of a loop that overwrites the cells of `w` from `i` on: `w[i] = f w i`. -/
def sweep (f : List β → ℕ → β) : (n i : ℕ) → List β → List β
  | 0, _, w => w
  | n + 1, i, w => sweep f n (i + 1) (w.set i (f w i))

/-- The value for cell `i` depends on the cells from `i` on. -/
def ReadsAhead (f : List β → ℕ → β) : Prop :=
  ∀ (w w' : List β) (i : ℕ), (∀ j, i ≤ j → w[j]? = w'[j]?) → f w i = f w' i

theorem readsAhead_const (b : β) : ReadsAhead fun _ _ => b := fun _ _ _ _ => rfl

/-- The value is a function of one cell that is not before the one written. -/
theorem readsAhead_getD (d : β) (k : ℕ) : ReadsAhead fun w i => w.getD (i + k) d := by
  intro w w' i h
  simp only [List.getD_eq_getElem?_getD]
  rw [h (i + k) (Nat.le_add_right i k)]

/-- A value computed from two such values. -/
theorem ReadsAhead.map₂ {f g : List β → ℕ → β} (hf : ReadsAhead f) (hg : ReadsAhead g)
    (op : β → β → β) : ReadsAhead fun w i => op (f w i) (g w i) := by
  intro w w' i h
  show op (f w i) (g w i) = op (f w' i) (g w' i)
  rw [hf w w' i h, hg w w' i h]

@[simp] theorem length_sweep (f : List β → ℕ → β) :
    ∀ (n i : ℕ) (w : List β), (sweep f n i w).length = w.length := by
  intro n
  induction n with
  | zero => intro i w; rfl
  | succ n ih =>
    intro i w
    rw [sweep, ih, List.length_set]

/-- **The cells after the loop**: those in its range hold the value computed from the old array, the
others are as they were. -/
theorem getElem?_sweep {f : List β → ℕ → β} (hf : ReadsAhead f) :
    ∀ (n i : ℕ) (w : List β) (j : ℕ),
      (sweep f n i w)[j]? = if i ≤ j ∧ j < i + n then w[j]?.map fun _ => f w j else w[j]? := by
  intro n
  induction n with
  | zero =>
    intro i w j
    rw [if_neg (by omega)]
    rfl
  | succ n ih =>
    intro i w j
    rw [sweep, ih]
    rcases Nat.lt_trichotomy j i with hlt | rfl | hgt
    · rw [if_neg (by omega), if_neg (by omega), List.getElem?_set_ne (by omega)]
    · -- the cell written in this turn is not touched again
      rw [if_neg (by omega), if_pos (by omega), List.getElem?_set_self']
      rfl
    · have hset : ∀ k, j ≤ k → (w.set i (f w i))[k]? = w[k]? := by
        intro k hk
        exact List.getElem?_set_ne (by omega)
      rw [hset j (Nat.le_refl j), hf _ w j hset]
      refine ite_congr ?_ (fun _ => rfl) fun _ => rfl
      rw [eq_iff_iff]
      omega

end Sweep
