import Mathlib.Data.List.Basic

/-!
# Mutexes and condition variables

A mutex is its owner, if any.  `tryLock` reports *busy*, the value that `pthread_mutex_trylock`
returns as an error: it is `false` exactly when the free mutex was taken.  `unlock` frees the mutex
whoever calls it, as the ordinary mutex of pthreads does.  A condition variable is the list of the
threads blocked in it; a signal that finds none is lost.

* `Mutex`, `lock`, `tryLock`, `unlock`.
* `CondVar`, `block`, `signal`.
-/

namespace Sync

variable {θ : Type*}

/-- The owner of a mutex. -/
abbrev Mutex (θ : Type*) := Option θ

/-- Take the mutex; not possible while it has an owner. -/
def lock (m : Mutex θ) (t : θ) : Option (Mutex θ) :=
  match m with
  | none => some (some t)
  | some _ => none

/-- Try to take the mutex: whether it was busy, and the mutex afterwards. -/
def tryLock (m : Mutex θ) (t : θ) : Bool × Mutex θ :=
  match m with
  | none => (false, some t)
  | some owner => (true, some owner)

/-- Free the mutex. -/
def unlock (_ : Mutex θ) : Mutex θ := none

theorem lock_eq_some {m m' : Mutex θ} {t : θ} (h : lock m t = some m') : m = none ∧ m' = some t := by
  cases m with
  | none =>
    cases h
    exact ⟨rfl, rfl⟩
  | some owner => cases h

/-- The threads blocked in a condition variable. -/
abbrev CondVar (θ : Type*) := List θ

/-- Block a thread. -/
def block (c : CondVar θ) (t : θ) : CondVar θ := c ++ [t]

/-- Wake one thread, if any is blocked. -/
def signal (c : CondVar θ) : CondVar θ := c.tail

end Sync
