import Mathlib.Data.List.Basic
import Mathlib.Data.List.Induction

/-!
# Runs of a labelled step function

A component is given by a partial step function `step : σ → α → Option σ`: the label says which
party moves and with what input, and `none` says that the move is not possible in that state.
Everything nondeterministic sits in the labels, so a run is a list of labels and one starting
state reaches at most one end state along it.

A side condition `ok : σ → α → Prop` on the state before a step and its label cuts the runs down
to those all of whose steps meet it.

## Main definitions

* `exec step s as` — the state after the labels `as`, computed.
* `Run step ok s as t` — the labels `as` lead from `s` to `t` and every step meets `ok`.
* `execWhen step ok s as` — `exec` that tests `ok` before every step.

## Main results

* `Run.invariant` — what every admitted step preserves holds at the end of every admitted run.
* `run_of_execWhen`, `exists_run_of_execWhen` — a tested execution is an admitted run.
* `forall_exec_iff` — a property holds along a whole execution exactly when every step meets the
  condition that makes it last.
* `exec_simulates` — a relation that survives every step, where some labels are erased from the
  second execution, survives the execution.
-/

namespace Transition

variable {σ α : Type*}

/-- The state after the labels, in order; `none` as soon as one of them is not possible. -/
def exec (step : σ → α → Option σ) : σ → List α → Option σ
  | s, [] => some s
  | s, a :: as => (step s a).bind fun t => exec step t as

@[simp] theorem exec_cons (step : σ → α → Option σ) (s : σ) (a : α) (as : List α) :
    exec step s (a :: as) = (step s a).bind fun t => exec step t as := rfl

theorem exec_append (step : σ → α → Option σ) :
    ∀ (as bs : List α) (s : σ),
      exec step s (as ++ bs) = (exec step s as).bind fun t => exec step t bs := by
  intro as
  induction as with
  | nil => intro bs s; rfl
  | cons a as ih =>
    intro bs s
    simp only [List.cons_append, exec_cons, Option.bind_assoc]
    congr 1
    funext t
    exact ih bs t

/-- The admitted runs from `s`, growing at their end: the labels so far and the state they lead
to. -/
inductive Run (step : σ → α → Option σ) (ok : σ → α → Prop) (s : σ) : List α → σ → Prop
  /-- The run that has not moved. -/
  | nil : Run step ok s [] s
  /-- One more admitted step. -/
  | snoc {as : List α} {t u : σ} {a : α} :
      Run step ok s as t → ok t a → step t a = some u → Run step ok s (as ++ [a]) u

variable {step : σ → α → Option σ} {ok : σ → α → Prop} {s t : σ} {as : List α}

/-- **The invariant rule.**  A property of the starting state that every admitted step preserves
holds at the end of every admitted run. -/
theorem Run.invariant {I : σ → Prop} (hr : Run step ok s as t) (h0 : I s)
    (hstep : ∀ v a u, I v → ok v a → step v a = some u → I u) : I t := by
  induction hr with
  | nil => exact h0
  | snoc _ hok hs ih => exact hstep _ _ _ ih hok hs

/-- `exec` that also tests the side condition before every step. -/
def execWhen (step : σ → α → Option σ) (ok : σ → α → Prop) [∀ s a, Decidable (ok s a)] :
    σ → List α → Option σ
  | s, [] => some s
  | s, a :: as => if ok s a then (step s a).bind fun t => execWhen step ok t as else none

theorem Run.append {bs : List α} {u : σ} (hr : Run step ok s as t) (hr' : Run step ok t bs u) :
    Run step ok s (as ++ bs) u := by
  induction hr' with
  | nil => rwa [List.append_nil]
  | snoc _ hok hs ih =>
    rw [← List.append_assoc]
    exact .snoc ih hok hs

/-- A tested execution is an admitted run. -/
theorem run_of_execWhen [∀ s a, Decidable (ok s a)] :
    ∀ (as : List α) (s : σ), execWhen step ok s as = some t → Run step ok s as t := by
  intro as
  induction as with
  | nil =>
    intro s h
    cases h
    exact .nil
  | cons a as ih =>
    intro s h
    rw [execWhen] at h
    split at h
    · next hok =>
      obtain ⟨u, hu, hrest⟩ := Option.bind_eq_some_iff.mp h
      exact (Run.snoc .nil hok hu).append (ih u hrest)
    · cases h

/-- A tested execution whose end passes a test is an admitted run to a state that passes it. -/
theorem exists_run_of_execWhen [∀ s a, Decidable (ok s a)] {p : σ → Bool}
    (h : (execWhen step ok s as).any p = true) : ∃ t, Run step ok s as t ∧ p t = true := by
  obtain ⟨t, ht, hp⟩ := (Option.any_eq_true _ _).mp h
  exact ⟨t, run_of_execWhen as s ht, hp⟩

/-! ### Properties along an execution -/

theorem exec_concat_eq_some {a : α} {u : σ} :
    exec step s (as ++ [a]) = some u ↔ ∃ t, exec step s as = some t ∧ step t a = some u := by
  simp [exec_append, exec, Option.bind_eq_some_iff]

/-- A part of an execution can be executed from where it begins. -/
theorem exists_exec_part {before during labels : List α} {last : σ}
    (hrun : exec step s labels = some last) (hsub : before ++ during <+: labels)
    (hbefore : exec step s before = some t) : ∃ u, exec step t during = some u := by
  obtain ⟨after, rfl⟩ := hsub
  rw [List.append_assoc, exec_append, hbefore, Option.bind_some, exec_append,
    Option.bind_eq_some_iff] at hrun
  obtain ⟨u, hduring, -⟩ := hrun
  exact ⟨u, hduring⟩

/-- What every step preserves holds after every execution. -/
theorem exec_invariant {I : σ → Prop} (h0 : I s)
    (hstep : ∀ v a u, I v → step v a = some u → I u) (h : exec step s as = some t) : I t := by
  induction as using List.reverseRecOn generalizing t with
  | nil =>
    cases h
    exact h0
  | append_singleton as a ih =>
    obtain ⟨u, hu, ha⟩ := exec_concat_eq_some.mp h
    exact hstep u a t (ih hu) ha

/-- **The rule for whole executions.**  If, under an invariant, the property lasts over a step
exactly when the step meets a condition, then it holds along a whole execution exactly when every
step of it meets the condition. -/
theorem forall_exec_iff {I P : σ → Prop} (h0 : I s) (hP : P s)
    (hI : ∀ v a u, I v → step v a = some u → I u)
    (hstep : ∀ v a u, I v → P v → step v a = some u → (P u ↔ ok v a)) (labels : List α) :
    (∀ as t, as <+: labels → exec step s as = some t → P t) ↔
      ∀ as a t u, as ++ [a] <+: labels → exec step s as = some t → step t a = some u → ok t a := by
  constructor
  · intro h as a t u hsub ht hu
    have hbefore : as <+: labels := (List.prefix_append as [a]).trans hsub
    have hafter : P u := h (as ++ [a]) u hsub (exec_concat_eq_some.mpr ⟨t, ht, hu⟩)
    exact (hstep t a u (exec_invariant h0 hI ht) (h as t hbefore ht) hu).mp hafter
  · intro h as
    induction as using List.reverseRecOn with
    | nil =>
      intro t _ ht
      cases ht
      exact hP
    | append_singleton as a ih =>
      intro u hsub hu
      obtain ⟨t, ht, ha⟩ := exec_concat_eq_some.mp hu
      have hbefore : as <+: labels := (List.prefix_append as [a]).trans hsub
      exact (hstep t a u (exec_invariant h0 hI ht) (ih t hbefore ht) ha).mpr
        (h as a t u hsub ht ha)

/-! ### Executions with labels erased -/

/-- **The erasure rule.**  If a step whose label is erased keeps the relation, and a step whose label
is kept can be followed by the other side, then an execution can be followed on the labels that are
kept. -/
theorem exec_simulates {τ β : Type*} {step' : τ → β → Option τ} {erase : α → Option β}
    {R : σ → τ → Prop}
    (hskip : ∀ s t a s', R s t → step s a = some s' → erase a = none → R s' t)
    (hkeep : ∀ s t a b s', R s t → step s a = some s' → erase a = some b →
      ∃ t', step' t b = some t' ∧ R s' t') :
    ∀ (as : List α) (s : σ) (t : τ) (s' : σ), R s t → exec step s as = some s' →
      ∃ t', exec step' t (as.filterMap erase) = some t' ∧ R s' t' := by
  intro as
  induction as with
  | nil =>
    intro s t s' hR h
    cases h
    exact ⟨t, rfl, hR⟩
  | cons a as ih =>
    intro s t s' hR h
    obtain ⟨u, hu, hrest⟩ := Option.bind_eq_some_iff.mp h
    cases hb : erase a with
    | none =>
      rw [List.filterMap_cons_none hb]
      exact ih u t s' (hskip s t a u hR hu hb) hrest
    | some b =>
      obtain ⟨v, hv, hR'⟩ := hkeep s t a b u hR hu hb
      obtain ⟨t', ht', hend⟩ := ih u v s' hR' hrest
      rw [List.filterMap_cons_some hb, exec_cons, hv, Option.bind_some]
      exact ⟨t', ht', hend⟩

end Transition
