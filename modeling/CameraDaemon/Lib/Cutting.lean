import Mathlib.Data.List.Basic

/-!
# Cutting a stream into chunks

A reader that is handed a stream in pieces is a fold over the pieces.  Whether its result depends on
where the stream was cut is decided by single pieces, as soon as the reader ignores the pieces of one
element: the finest cutting then leaves the reader as it was, and any piece can stand in a cutting
with nothing but single elements around it.

## Main definitions

* `IsChunk max b` — a piece of one to `max` elements.
* `IsCutting max l chunks` — the chunks, put together, are `l`.
* `singles l` — the finest cutting.

## Main results

* `IsCutting.isInfix` — a chunk of a cutting is an infix.
* `isCutting_around` — an infix is a chunk of a cutting.
* `obs_eq_of_agree` — **if all cuttings agree, no infix that fits a chunk shows.**
* `agree_of_keeps` — if every infix that fits a chunk keeps an invariant, all cuttings agree on what
  the invariant settles.
-/

namespace Cutting

variable {α σ ω : Type*}

/-- A piece of one to `max` elements. -/
def IsChunk (max : ℕ) (b : List α) : Prop := 1 ≤ b.length ∧ b.length ≤ max

instance (max : ℕ) (b : List α) : Decidable (IsChunk max b) :=
  inferInstanceAs (Decidable (_ ∧ _))

/-- The chunks, put together, are the stream. -/
structure IsCutting (max : ℕ) (l : List α) (chunks : List (List α)) : Prop where
  flatten : chunks.flatten = l
  chunk : ∀ b ∈ chunks, IsChunk max b

/-- The finest cutting. -/
def singles (l : List α) : List (List α) := l.map fun x => [x]

theorem flatten_singles (l : List α) : (singles l).flatten = l := by
  induction l with
  | nil => rfl
  | cons x l ih => exact congrArg (x :: ·) ih

theorem isChunk_of_mem_singles {max : ℕ} (hmax : 1 ≤ max) {l b : List α} (hb : b ∈ singles l) :
    IsChunk max b := by
  obtain ⟨x, -, rfl⟩ := List.mem_map.mp hb
  exact ⟨Nat.le_refl 1, hmax⟩

theorem isCutting_singles {max : ℕ} (hmax : 1 ≤ max) (l : List α) : IsCutting max l (singles l) :=
  ⟨flatten_singles l, fun _ => isChunk_of_mem_singles hmax⟩

/-- An infix is a chunk of a cutting, with single elements around it. -/
theorem isCutting_around {max : ℕ} (hmax : 1 ≤ max) {b : List α} (hb : IsChunk max b)
    (a c : List α) : IsCutting max (a ++ b ++ c) (singles a ++ b :: singles c) := by
  refine ⟨?_, fun b' hb' => ?_⟩
  · rw [List.flatten_append, List.flatten_cons, flatten_singles, flatten_singles, List.append_assoc]
  · rcases List.mem_append.mp hb' with ha | hbc
    · exact isChunk_of_mem_singles hmax ha
    rcases List.mem_cons.mp hbc with rfl | hc
    · exact hb
    · exact isChunk_of_mem_singles hmax hc

theorem IsCutting.isInfix {max : ℕ} {l : List α} {chunks : List (List α)}
    (h : IsCutting max l chunks) {b : List α} (hb : b ∈ chunks) : b <:+: l := by
  obtain ⟨before, after, rfl⟩ := List.append_of_mem hb
  refine ⟨before.flatten, after.flatten, ?_⟩
  rw [← h.flatten, List.flatten_append, List.flatten_cons, List.append_assoc]

section Reader

variable {f : σ → List α → σ}

/-- A reader that ignores single elements ignores the finest cutting. -/
theorem foldl_singles (hsingle : ∀ s x, f s [x] = s) (l : List α) (s : σ) :
    (singles l).foldl f s = s := by
  induction l with
  | nil => rfl
  | cons x l ih =>
    show (singles l).foldl f (f s [x]) = s
    rw [hsingle, ih]

/-- Chunks that all keep an invariant keep it together. -/
theorem foldl_keeps {I : σ → Prop} : ∀ (chunks : List (List α)) (s : σ), I s →
    (∀ s b, b ∈ chunks → I s → I (f s b)) → I (chunks.foldl f s) := by
  intro chunks
  induction chunks with
  | nil => exact fun s hs _ => hs
  | cons b chunks ih =>
    intro s hs hkeep
    exact ih (f s b) (hkeep s b List.mem_cons_self hs)
      fun s b' hb' => hkeep s b' (List.mem_cons_of_mem b hb')

variable {obs : σ → ω} {max : ℕ} {l : List α} {s : σ}

/-- **If all cuttings agree, no infix that fits a chunk shows**: it stands in a cutting with nothing
but single elements around it. -/
theorem obs_eq_of_agree (hmax : 1 ≤ max) (hsingle : ∀ s x, f s [x] = s)
    (hagree : ∀ chunks chunks', IsCutting max l chunks → IsCutting max l chunks' →
      obs (chunks.foldl f s) = obs (chunks'.foldl f s))
    {b : List α} (hsub : b <:+: l) (hb : IsChunk max b) : obs (f s b) = obs s := by
  obtain ⟨a, c, rfl⟩ := hsub
  have h := hagree _ _ (isCutting_around hmax hb a c) (isCutting_singles hmax _)
  rwa [List.foldl_append, foldl_singles hsingle, List.foldl_cons, foldl_singles hsingle,
    foldl_singles hsingle] at h

/-- If every infix that fits a chunk keeps an invariant, all cuttings agree on what the invariant
settles. -/
theorem agree_of_keeps {I : σ → Prop} {o : ω} (hI : I s) (hobs : ∀ t, I t → obs t = o)
    (hkeep : ∀ b, b <:+: l → IsChunk max b → ∀ t, I t → I (f t b)) {chunks chunks' : List (List α)}
    (hc : IsCutting max l chunks) (hc' : IsCutting max l chunks') :
    obs (chunks.foldl f s) = obs (chunks'.foldl f s) := by
  have hend : ∀ chunks, IsCutting max l chunks → obs (chunks.foldl f s) = o := by
    intro chunks hc
    exact hobs _ (foldl_keeps chunks s hI fun t b hb =>
      hkeep b (hc.isInfix hb) (hc.chunk b hb) t)
  rw [hend chunks hc, hend chunks' hc']

end Reader

end Cutting
