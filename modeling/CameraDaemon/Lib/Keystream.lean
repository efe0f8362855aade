import Mathlib.Data.Nat.Notation

/-!
# Streams mixed into a text

A stream cipher mixes element `pos` of a keystream into element `pos` of a text.  What matters to a
program that does it piece by piece is where in the stream it stands: a piece is mixed from a
position on, and the next piece from where the last one ended.  The stream itself usually comes in
blocks.

## Main definitions

* `mixFrom` — mix a stream into a text, from a position on.
* `ofBlocks` — the stream made of numbered blocks.

## Main results

* `mixFrom_append` — pieces one after the other are the whole.
* `mixFrom_mixFrom` — mixing twice gives the text back.
* `zipWith_drop_block` — a part of one block is a part of the stream.
-/

namespace Keystream

variable {α β : Type} (mix : α → β → α)

/-- Mix the stream into a text, from position `pos` on. -/
def mixFrom (stream : ℕ → β) : ℕ → List α → List α
  | _, [] => []
  | pos, a :: text => mix a (stream pos) :: mixFrom stream (pos + 1) text

@[simp] theorem mixFrom_nil (stream : ℕ → β) (pos : ℕ) : mixFrom mix stream pos [] = [] := rfl

@[simp] theorem length_mixFrom (stream : ℕ → β) (pos : ℕ) (text : List α) :
    (mixFrom mix stream pos text).length = text.length := by
  induction text generalizing pos with
  | nil => rfl
  | cons a text ih => simp [mixFrom, ih]

theorem mixFrom_append (stream : ℕ → β) (pos : ℕ) (s t : List α) :
    mixFrom mix stream pos (s ++ t) =
      mixFrom mix stream pos s ++ mixFrom mix stream (pos + s.length) t := by
  induction s generalizing pos with
  | nil => rfl
  | cons a s ih =>
    rw [List.cons_append, mixFrom, mixFrom, ih, List.length_cons, Nat.add_right_comm,
      Nat.add_assoc, List.cons_append]

/-- A mixing that undoes itself element by element undoes itself on texts. -/
theorem mixFrom_mixFrom (hmix : ∀ a b, mix (mix a b) b = a) (stream : ℕ → β) (pos : ℕ)
    (text : List α) : mixFrom mix stream pos (mixFrom mix stream pos text) = text := by
  induction text generalizing pos with
  | nil => rfl
  | cons a text ih => rw [mixFrom, mixFrom, hmix, ih]

theorem mixFrom_take (stream : ℕ → β) (pos n : ℕ) (text : List α) :
    mixFrom mix stream pos (text.take n) = (mixFrom mix stream pos text).take n := by
  induction text generalizing pos n with
  | nil => simp
  | cons a text ih =>
    cases n with
    | zero => rfl
    | succ n => rw [List.take_succ_cons, mixFrom, mixFrom, List.take_succ_cons, ih]

/-! ### Streams of blocks -/

variable {n : ℕ} (block : ℕ → Vector β (n + 1))

/-- The stream of blocks of `n + 1` elements each. -/
def ofBlocks (pos : ℕ) : β :=
  (block (pos / (n + 1))).get ⟨pos % (n + 1), Nat.mod_lt pos n.succ_pos⟩

theorem ofBlocks_eq {k r : ℕ} (hr : r < n + 1) :
    ofBlocks block ((n + 1) * k + r) = (block k)[r] := by
  have hdiv : ((n + 1) * k + r) / (n + 1) = k := by
    rw [Nat.mul_add_div n.succ_pos, Nat.div_eq_of_lt hr, Nat.add_zero]
  have hmod : ((n + 1) * k + r) % (n + 1) = r := by rw [Nat.mul_add_mod, Nat.mod_eq_of_lt hr]
  simp only [ofBlocks, hdiv, hmod]
  rfl

/-- Mixing in a block from its element `r` on, as far as it goes. -/
theorem zipWith_drop_block (k : ℕ) {r : ℕ} {text : List α} (h : r + text.length ≤ n + 1) :
    List.zipWith mix text ((block k).toList.drop r) =
      mixFrom mix (ofBlocks block) ((n + 1) * k + r) text := by
  induction text generalizing r with
  | nil => rfl
  | cons a text ih =>
    rw [List.length_cons] at h
    have hr : r < n + 1 := by omega
    have hlen : r < (block k).toList.length := by rwa [Vector.length_toList]
    rw [List.drop_eq_getElem_cons hlen, List.zipWith_cons_cons, ih (by omega), mixFrom,
      ofBlocks_eq block hr, Vector.getElem_toList]
    rfl

end Keystream
