import CameraDaemon.Snapshot.Callback

/-!
# Snapshots: the wait and the lock

The wait of a `/snapshot` request is safe if the flag cannot be cleared between its test and its
wait, and the image is written under the lock if the callback's idea of the lock is right.  Neither
holds: the callback takes a busy lock for its own.  Both hold as long as it does not meet the HTTP
thread at the wrong moment.

## Main definitions

* `Stranded` — the HTTP thread is blocked in its wait and nothing will wake it.
* `LockOwned` — the callback's idea of the lock is right, and it has been at every access.
* `EndsBeforeWait`, `MeetsHttp` — the steps that break them.

## Main results

* `not_stranded` — **the wake-up is not missed** unless a frame ends between the test and the wait.
* `lockOwned` — **the lock is owned as believed** unless a callback meets the lock in the HTTP
  thread's hands.
* `strandingRun_stranded`, `requestRun_not_lockOwned` — runs in which they fail.
-/

namespace CameraDaemon

open Sync Transition

/-! ### The wait -/

/-- The HTTP thread is blocked in `pthread_cond_wait`, the flag is clear and no wake-up is
pending. -/
def Stranded (s : SnapState) : Prop :=
  s.http = .inWait ∧ SnapThread.http ∈ s.imgCond ∧ s.snapshotRequestN = 0

/-- The collected frame ends while the HTTP thread is between its test and its wait. -/
def EndsBeforeWait (s : SnapState) : SnapLabel → Prop
  | .callback b => s.http = .enterWait ∧ s.state = true ∧ b.frameEnd = true
  | _ => False

instance (s : SnapState) : ∀ a, Decidable (EndsBeforeWait s a)
  | .callback b =>
    inferInstanceAs (Decidable (s.http = .enterWait ∧ s.state = true ∧ b.frameEnd = true))
  | .request => inferInstanceAs (Decidable False)
  | .http => inferInstanceAs (Decidable False)
  | .spurious => inferInstanceAs (Decidable False)

/-- From the test to the wake-up the flag is set. -/
structure WaitInv (s : SnapState) : Prop where
  book : Bookkeeping s
  entering : s.http = .enterWait → s.snapshotRequestN ≠ 0
  blocked : SnapThread.http ∈ s.imgCond → s.snapshotRequestN ≠ 0

theorem waitInv_httpStep {s s' : SnapState} (h : WaitInv s) (hs : snapHttpStep s = some s') :
    s'.http = .enterWait ∨ SnapThread.http ∈ s'.imgCond → s'.snapshotRequestN ≠ 0 := by
  unfold snapHttpStep at hs
  split at hs
  · cases hs
  · obtain ⟨m, -, rfl⟩ := Option.map_eq_some_iff.mp hs
    exact fun hw => h.blocked (hw.resolve_left nofun)
  · cases hs
    exact fun _ => Nat.one_ne_zero
  · cases hs
    rintro (hw | hw)
    · intro hn
      simp only [if_pos hn] at hw
      cases hw
    · exact h.blocked hw
  · next hpc =>
    -- the flag was set at the test and is still set
    cases hs
    exact fun _ => h.entering hpc
  · split at hs
    · cases hs
    · obtain ⟨m, -, rfl⟩ := Option.map_eq_some_iff.mp hs
      exact fun hw => h.blocked (hw.resolve_left nofun)
  · cases hs
    exact fun hw => h.blocked (hw.resolve_left nofun)
  · cases hs
    exact fun hw => h.blocked (hw.resolve_left nofun)

theorem waitInv_callback {s t : SnapState} {b : MmalBuffer} (h : WaitInv s)
    (hok : ¬ EndsBeforeWait s (.callback b)) (hcb : Callback s b t) :
    t.http = .enterWait ∨ SnapThread.http ∈ t.imgCond → t.snapshotRequestN ≠ 0 := by
  have hall : s.http = .enterWait ∨ SnapThread.http ∈ s.imgCond → s.snapshotRequestN ≠ 0 :=
    fun hw => hw.elim h.entering h.blocked
  cases hcb with
  | skip hn => exact hall
  | take hn halready hlock => exact hall
  | start hp hstate hend => exact hall
  | ignore hp hstate hend => exact hall
  | append hp hstate hend => exact hall
  | finish hp hstate hend =>
    -- the flag is cleared: the thread is not at its wait, and the signal has woken it
    rintro (hw | hw)
    · exact absurd ⟨hw, hstate, hend⟩ hok
    · have hw' : SnapThread.http ∈ signal s.imgCond := hw
      rw [h.book.signal_nil] at hw'
      cases hw'

/-- A step that meets the condition keeps the flag set from the test to the wake-up. -/
theorem waitInv_step {s s' : SnapState} {a : SnapLabel} (h : WaitInv s)
    (hok : ¬ EndsBeforeWait s a) (hs : snapStep s a = some s') : WaitInv s' := by
  have hbook := bookkeeping_step h.book hs
  suffices hw : s'.http = .enterWait ∨ SnapThread.http ∈ s'.imgCond → s'.snapshotRequestN ≠ 0 from
    ⟨hbook, fun he => hw (Or.inl he), fun hb => hw (Or.inr hb)⟩
  cases a with
  | request =>
    rw [snapStep] at hs
    split at hs
    · cases hs
      rintro (hw | hw)
      · cases hw
      · exact h.blocked hw
    · cases hs
  | http => exact waitInv_httpStep h hs
  | spurious =>
    rw [snapStep] at hs
    split at hs
    · next hpc =>
      cases hs
      rintro (hw | hw)
      · exact h.entering hw
      · exact h.blocked (List.mem_of_mem_erase hw)
    · cases hs
  | callback b =>
    obtain ⟨t, hcb, rfl⟩ := callback_of_snapStep hs
    -- stated of `t`: the list of delivered buffers does not occur in it
    have hw := waitInv_callback h hok hcb
    exact hw

theorem waitInv_init : WaitInv snapInit := ⟨bookkeeping_init, nofun, nofun⟩

/-- **The wake-up is not missed** in a run in which the collected frame never ends between the HTTP
thread's test and its wait. -/
theorem not_stranded {labels : List SnapLabel} {s : SnapState}
    (hr : Run snapStep (fun s a => ¬ EndsBeforeWait s a) snapInit labels s) : ¬ Stranded s := by
  have hinv := hr.invariant waitInv_init fun _ _ _ h hok hs => waitInv_step h hok hs
  rintro ⟨-, hblocked, hn⟩
  exact hinv.blocked hblocked hn

/-- Two frames end between the test and the wait: the first starts the collection, the second ends
it and signals to nobody. -/
def strandingRun : List SnapLabel :=
  requestRun ++ [.callback (frameEndBuffer 1), .callback (frameEndBuffer 2), .http]

/-- **The wake-up can be missed**: the lock that the HTTP thread holds is no obstacle to the callback,
which takes a busy lock for its own. -/
theorem strandingRun_stranded : ∃ s, exec snapStep snapInit strandingRun = some s ∧ Stranded s :=
  ⟨_, rfl, rfl, by decide, rfl⟩

theorem not_stranded_servedRun :
    ∃ s, Run snapStep (fun s a => ¬ EndsBeforeWait s a) snapInit servedRun s ∧
      s.replies.length = 1 ∧ ¬ Stranded s := by
  have hrun : (execWhen snapStep (fun s a => ¬ EndsBeforeWait s a) snapInit servedRun).any
      (fun s => decide (s.replies.length = 1)) = true := by
    decide
  obtain ⟨s, hs, hp⟩ := exists_run_of_execWhen hrun
  exact ⟨s, hs, of_decide_eq_true hp, not_stranded hs⟩

/-! ### The lock -/

/-- The callback's idea that it holds the lock is right, and it has held the lock at every write of
the image or of its size and at every unlock. -/
def LockOwned (s : SnapState) : Prop :=
  (s.alreadyAcquiredLock = true → s.imgLock = some .encoder) ∧
    ∀ owner ∈ s.accesses, owner = some .encoder

/-- A callback for a pending request tries the lock while the HTTP thread holds it. -/
def MeetsHttp (s : SnapState) : SnapLabel → Prop
  | .callback _ =>
    s.snapshotRequestN ≠ 0 ∧ s.alreadyAcquiredLock = false ∧ s.imgLock = some .http
  | _ => False

instance (s : SnapState) : ∀ a, Decidable (MeetsHttp s a)
  | .callback _ =>
    inferInstanceAs (Decidable
      (s.snapshotRequestN ≠ 0 ∧ s.alreadyAcquiredLock = false ∧ s.imgLock = some .http))
  | .request => inferInstanceAs (Decidable False)
  | .http => inferInstanceAs (Decidable False)
  | .spurious => inferInstanceAs (Decidable False)

/-- The HTTP thread is between its lock and its unlock, and not in its wait. -/
def SnapPc.holds : SnapPc → Bool
  | .setFlag | .test | .enterWait | .reply | .unlock => true
  | _ => false

/-- Both threads own the lock where they think they do. -/
structure LockInv (s : SnapState) : Prop where
  owned : LockOwned s
  http : s.http.holds = true → s.imgLock = some .http

theorem LockInv.not_already {s : SnapState} (h : LockInv s) (hlock : s.imgLock ≠ some .encoder) :
    s.alreadyAcquiredLock = false := by
  by_contra halready
  exact hlock (h.owned.1 (by simpa using halready))

theorem lockInv_httpStep {s s' : SnapState} (h : LockInv s) (hs : snapHttpStep s = some s') :
    LockInv s' := by
  obtain ⟨halready, haccess⟩ := h.owned
  -- whenever the HTTP thread changes the lock, the callback does not believe to hold it
  have hhttp : s.http.holds = true → s.alreadyAcquiredLock = false := fun hh =>
    h.not_already (by simp [h.http hh])
  unfold snapHttpStep at hs
  split at hs
  · cases hs
  · -- the lock was free, so the callback did not think it had it
    obtain ⟨m, hm, rfl⟩ := Option.map_eq_some_iff.mp hs
    obtain ⟨hfree, rfl⟩ := lock_eq_some hm
    have hno := h.not_already (by simp [hfree])
    exact ⟨⟨fun ha => absurd ha (by simp [hno]), haccess⟩, fun _ => rfl⟩
  · next hpc =>
    cases hs
    exact ⟨⟨halready, haccess⟩, fun _ => h.http (by rw [hpc]; rfl)⟩
  · next hpc =>
    cases hs
    exact ⟨⟨halready, haccess⟩, fun _ => h.http (by rw [hpc]; rfl)⟩
  · next hpc =>
    cases hs
    have hno := hhttp (by rw [hpc]; rfl)
    exact ⟨⟨fun ha => absurd ha (by simp [hno]), haccess⟩, nofun⟩
  · split at hs
    · cases hs
    · -- woken, and the lock is taken again
      obtain ⟨m, hm, rfl⟩ := Option.map_eq_some_iff.mp hs
      obtain ⟨hfree, rfl⟩ := lock_eq_some hm
      have hno := h.not_already (by simp [hfree])
      exact ⟨⟨fun ha => absurd ha (by simp [hno]), haccess⟩, fun _ => rfl⟩
  · next hpc =>
    cases hs
    exact ⟨⟨halready, haccess⟩, fun _ => h.http (by rw [hpc]; rfl)⟩
  · next hpc =>
    cases hs
    have hno := hhttp (by rw [hpc]; rfl)
    exact ⟨⟨fun ha => absurd ha (by simp [hno]), haccess⟩, nofun⟩

/-- A callback that goes past its lock without meeting the HTTP thread owns it. -/
theorem LockInv.owner_of_proceeds {s : SnapState} {b : MmalBuffer} (h : LockInv s)
    (hok : ¬ MeetsHttp s (.callback b)) (hp : Proceeds s) : s.imgLock = some .encoder := by
  by_contra hne
  have hno := h.not_already hne
  -- the callback has gone on because `trylock` failed, so somebody has the lock
  have hlock := hp.2.resolve_left (by simp [hno])
  obtain ⟨owner, howner⟩ := Option.ne_none_iff_exists'.mp hlock
  cases owner with
  | http => exact hok ⟨hp.1, hno, howner⟩
  | encoder => exact hne howner

theorem lockInv_callback {s t : SnapState} {b : MmalBuffer} (h : LockInv s)
    (hok : ¬ MeetsHttp s (.callback b)) (hcb : Callback s b t) (delivered : List MmalBuffer) :
    LockInv { t with delivered := delivered } := by
  obtain ⟨halready, haccess⟩ := h.owned
  cases hcb with
  | skip hn => exact ⟨⟨halready, haccess⟩, h.http⟩
  | take hn hno hfree =>
    -- `trylock` took the free lock, which the HTTP thread therefore does not hold
    refine ⟨⟨fun _ => rfl, haccess⟩, fun hh => ?_⟩
    have hlock := h.http hh
    rw [hfree] at hlock
    cases hlock
  | start hp hstate hend =>
    have howner := h.owner_of_proceeds hok hp
    exact ⟨⟨fun _ => howner, List.forall_mem_cons.mpr ⟨howner, haccess⟩⟩, h.http⟩
  | ignore hp hstate hend =>
    have howner := h.owner_of_proceeds hok hp
    exact ⟨⟨fun _ => howner, haccess⟩, h.http⟩
  | append hp hstate hend =>
    have howner := h.owner_of_proceeds hok hp
    exact ⟨⟨fun _ => howner, List.forall_mem_cons.mpr ⟨howner, haccess⟩⟩, h.http⟩
  | finish hp hstate hend =>
    have howner := h.owner_of_proceeds hok hp
    refine ⟨⟨nofun, ?_⟩, fun hh => ?_⟩
    · exact List.forall_mem_cons.mpr ⟨howner, List.forall_mem_cons.mpr ⟨howner, haccess⟩⟩
    · -- the HTTP thread did not hold the lock that is freed
      have hlock := h.http hh
      rw [howner] at hlock
      cases hlock

/-- A step that meets the condition keeps the ownership. -/
theorem lockInv_step {s s' : SnapState} {a : SnapLabel} (h : LockInv s) (hok : ¬ MeetsHttp s a)
    (hs : snapStep s a = some s') : LockInv s' := by
  cases a with
  | request =>
    rw [snapStep] at hs
    split at hs
    · cases hs
      refine ⟨h.owned, fun hpc => ?_⟩
      cases hpc
    · cases hs
  | http => exact lockInv_httpStep h hs
  | spurious =>
    rw [snapStep] at hs
    split at hs
    · cases hs
      exact ⟨h.owned, h.http⟩
    · cases hs
  | callback b =>
    obtain ⟨t, hcb, rfl⟩ := callback_of_snapStep hs
    exact lockInv_callback h hok hcb _

theorem lockInv_init : LockInv snapInit := ⟨⟨nofun, nofun⟩, nofun⟩

/-- **The lock is owned as believed** in a run in which no callback for a pending request tries the
lock while the HTTP thread holds it. -/
theorem lockOwned {labels : List SnapLabel} {s : SnapState}
    (hr : Run snapStep (fun s a => ¬ MeetsHttp s a) snapInit labels s) : LockOwned s :=
  (hr.invariant lockInv_init fun _ _ _ h hok hs => lockInv_step h hok hs).owned

/-- **A callback writes the image without the lock**: a frame ends while the HTTP thread holds the
lock, and the callback takes the busy lock for its own. -/
theorem requestRun_not_lockOwned :
    ∃ s, exec snapStep snapInit (requestRun ++ [.callback (frameEndBuffer 1)]) = some s ∧
      s.alreadyAcquiredLock = true ∧ s.imgLock = some .http ∧ s.accesses = [some .http] ∧
      ¬ LockOwned s :=
  ⟨_, rfl, rfl, rfl, rfl, fun h => absurd (h.1 rfl) (by decide)⟩

theorem lockOwned_servedRun :
    ∃ s, Run snapStep (fun s a => ¬ MeetsHttp s a) snapInit servedRun s ∧
      s.accesses.length = 4 ∧ LockOwned s := by
  have hrun : (execWhen snapStep (fun s a => ¬ MeetsHttp s a) snapInit servedRun).any
      (fun s => decide (s.accesses.length = 4)) = true := by
    decide
  obtain ⟨s, hs, hp⟩ := exists_run_of_execWhen hrun
  exact ⟨s, hs, of_decide_eq_true hp, lockOwned hs⟩

end CameraDaemon
