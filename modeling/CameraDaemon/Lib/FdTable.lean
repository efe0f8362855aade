import Mathlib.Data.List.Basic

/-!
# Descriptor tables

A descriptor table says which object each descriptor number stands for.  A new object gets the
lowest number that is not in use, so a number that was closed is issued again; the table is a list
whose `n`-th entry is the object behind the number `n`, if any.

* `lowestUnused`, `install`, `lookup`, `assign`, `close` — the operations.
* `lookup_install_self`, `lookup_install_of_ne`, `lookup_close_self`, `lookup_close_of_ne` — which
  number stands for what afterwards.
* `mem_install`, `assign_install` — which objects are in the table afterwards.
* `Grows`, `Grows.lookup_cases` — a table after installations only, and what its numbers stand for.
-/

/-- A descriptor table over objects of type `κ`. -/
abbrev FdTable (κ : Type*) := List (Option κ)

namespace FdTable

variable {κ : Type*}

/-- The lowest number that stands for nothing. -/
def lowestUnused (t : FdTable κ) : ℕ := t.findIdx Option.isNone

/-- The object behind a number. -/
def lookup (t : FdTable κ) (fd : ℕ) : Option κ := (t[fd]?).join

/-- The table with `c` behind the lowest unused number. -/
def install (t : FdTable κ) (c : κ) : FdTable κ :=
  if lowestUnused t < t.length then t.set (lowestUnused t) (some c) else t ++ [some c]

/-- The table with the object behind `fd` replaced. -/
def assign (t : FdTable κ) (fd : ℕ) (c : κ) : FdTable κ := t.set fd (some c)

/-- The table after `close(fd)`. -/
def close (t : FdTable κ) (fd : ℕ) : FdTable κ := t.set fd none

/-- When every entry is in use the next number is the length of the table. -/
theorem lowestUnused_eq_length {t : FdTable κ} (h : ¬ lowestUnused t < t.length) :
    lowestUnused t = t.length :=
  Nat.le_antisymm List.findIdx_le_length (Nat.not_lt.mp h)

@[simp] theorem lookup_lowestUnused (t : FdTable κ) : lookup t (lowestUnused t) = none := by
  rcases Nat.lt_or_ge (lowestUnused t) t.length with h | h
  · have hnone : t[lowestUnused t].isNone = true := List.findIdx_getElem
    rw [lookup, List.getElem?_eq_getElem h, Option.isNone_iff_eq_none.mp hnone]
    rfl
  · rw [lookup, List.getElem?_eq_none h]
    rfl

@[simp] theorem lookup_install_self (t : FdTable κ) (c : κ) :
    lookup (install t c) (lowestUnused t) = some c := by
  rw [install]
  split
  · next h => simp [lookup, h]
  · next h => simp [lookup, lowestUnused_eq_length h]

theorem lookup_install_of_ne (t : FdTable κ) (c : κ) {fd : ℕ} (h : fd ≠ lowestUnused t) :
    lookup (install t c) fd = lookup t fd := by
  rw [install]
  split
  · simp [lookup, Ne.symm h]
  · next hfull =>
    rw [lowestUnused_eq_length hfull] at h
    rcases Nat.lt_or_ge fd t.length with hfd | hfd
    · simp [lookup, List.getElem?_append_left hfd]
    · have hgt : (t ++ [some c]).length ≤ fd := by
        rw [List.length_append, List.length_singleton]
        omega
      rw [lookup, lookup, List.getElem?_eq_none hgt, List.getElem?_eq_none hfd]

@[simp] theorem lookup_close_self (t : FdTable κ) (fd : ℕ) : lookup (close t fd) fd = none := by
  rcases Nat.lt_or_ge fd t.length with h | h
  · simp [lookup, close, h]
  · simp [lookup, close, h]

theorem lookup_close_of_ne (t : FdTable κ) {fd fd' : ℕ} (h : fd' ≠ fd) :
    lookup (close t fd) fd' = lookup t fd' := by
  simp [lookup, close, Ne.symm h]

/-- An object is in the table when some number stands for it. -/
theorem mem_iff_lookup (t : FdTable κ) (c : κ) : some c ∈ t ↔ ∃ fd, lookup t fd = some c := by
  rw [List.mem_iff_getElem?]
  refine exists_congr fun fd => ?_
  cases h : t[fd]? with
  | none => simp [lookup, h]
  | some entry => simp [lookup, h]

/-- Installing an object adds it and removes nothing. -/
theorem mem_install (t : FdTable κ) (c c' : κ) : some c' ∈ install t c ↔ some c' ∈ t ∨ c' = c := by
  simp only [mem_iff_lookup]
  constructor
  · rintro ⟨fd, hfd⟩
    by_cases h : fd = lowestUnused t
    · rw [h, lookup_install_self] at hfd
      exact Or.inr (Option.some.inj hfd).symm
    · rw [lookup_install_of_ne t c h] at hfd
      exact Or.inl ⟨fd, hfd⟩
  · rintro (⟨fd, hfd⟩ | rfl)
    · have h : fd ≠ lowestUnused t := by
        rintro rfl
        rw [lookup_lowestUnused] at hfd
        cases hfd
      exact ⟨fd, by rw [lookup_install_of_ne t c h, hfd]⟩
    · exact ⟨lowestUnused t, lookup_install_self t c'⟩

/-- Replacing what was just installed is installing the replacement. -/
theorem assign_install (t : FdTable κ) (c c' : κ) :
    assign (install t c) (lowestUnused t) c' = install t c' := by
  rw [install, install, assign]
  split
  · rw [List.set_set]
  · next h =>
    rw [lowestUnused_eq_length h, List.set_append_right _ _ (Nat.le_refl _)]
    simp

/-! ### Tables that grow -/

/-- The second table is the first one after installations of objects with the property. -/
inductive Grows (P : κ → Prop) (t : FdTable κ) : FdTable κ → Prop
  | refl : Grows P t t
  | install {u : FdTable κ} {c : κ} : Grows P t u → P c → Grows P t (u.install c)

section Grows

variable {P : κ → Prop} {t u v : FdTable κ}

theorem Grows.trans (h : Grows P t u) (h' : Grows P u v) : Grows P t v := by
  induction h' with
  | refl => exact h
  | install _ hc ih => exact ih.install hc

/-- A number that is in use stands for the same object later on, and what has come has the
property. -/
theorem Grows.lookup_cases (h : Grows P t u) (fd : ℕ) :
    lookup u fd = lookup t fd ∨ lookup t fd = none ∧ ∃ c, P c ∧ lookup u fd = some c := by
  induction h with
  | refl => exact Or.inl rfl
  | @install u c _ hc ih =>
    by_cases hfd : fd = lowestUnused u
    · -- the number was unused, so it was so from the start
      subst hfd
      have hfree := lookup_lowestUnused u
      rcases ih with hsame | ⟨-, c', -, hsome⟩
      · exact Or.inr ⟨hsame ▸ hfree, c, hc, lookup_install_self u c⟩
      · rw [hfree] at hsome
        cases hsome
    · rwa [lookup_install_of_ne u c hfd]

/-- A number that is in use stands for the same object later on. -/
theorem Grows.lookup_eq (h : Grows P t u) {fd : ℕ} {c : κ} (hfd : lookup t fd = some c) :
    lookup u fd = some c := by
  rcases h.lookup_cases fd with hsame | ⟨hnone, -⟩
  · rw [hsame, hfd]
  · rw [hfd] at hnone
    cases hnone

/-- An object without the property has been there from the start. -/
theorem Grows.lookup_iff (h : Grows P t u) {fd : ℕ} {c : κ} (hc : ¬ P c) :
    lookup u fd = some c ↔ lookup t fd = some c := by
  constructor
  · intro hu
    rcases h.lookup_cases fd with hsame | ⟨-, c', hc', hsome⟩
    · rw [← hsame, hu]
    · rw [hu] at hsome
      cases hsome
      exact absurd hc' hc
  · exact h.lookup_eq

end Grows

end FdTable
