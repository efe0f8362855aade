import CameraDaemon.Lib.Custody
import CameraDaemon.Snapshot.Callback
import CameraDaemon.VideoEncoder

/-!
# The buffers of an encoder port

`fill_port_buffer` sends every buffer of a pool to the output port of an encoder.  The port gives a
buffer to its callback, and whatever the callback does with it, the end is the same: the buffer is
released to the queue of the pool and, while the port is enabled, the first buffer of the queue is
sent to the port in exchange.

Neither function looks after a buffer that `mmal_port_send_buffer` refuses.  The caller still owns
it, and forgets it: the JPEG callback does not read the status at all, the two others print a
message.  Each failure costs the port one buffer for good, and a port that has lost them all never
calls back again.

## Main definitions

* `fillPortBuffer` — `fill_port_buffer`; which of its sends succeed is a part of the input.
* `PortCall.finish` — the end of both callbacks, from the label `end:` on.
* `withPool` — a component whose callbacks take buffers from a port and replenish it.
* `jpegPortStep`, `videoPortStep` — the two ports, with all that their callbacks do.

## Main results

* `fillPortBuffer_spec`, `exec_withPool` — the stock is kept as a whole, and as many buffers are lost
  as sends have failed.
* `buffers_intact_iff` — **no buffer is missing exactly when no send fails.**
* `withPool_starved` — after as many failures as the pool has buffers no callback is made.
-/

namespace CameraDaemon

open Custody Transition

variable {κ : Type*}

/-! ### Filling the port -/

/-- The turns of the loop of `fill_port_buffer` from turn `q` on.  An empty queue gives a null
pointer, which is sent nevertheless: `none`. -/
def fillTurns (sendOk : ℕ → Bool) : (turns q : ℕ) → Pool κ → Option (Pool κ)
  | 0, _, pool => some pool
  | turns + 1, q, pool =>
    match pool.get with
    | none => none
    | some (buffer, pool) => fillTurns sendOk turns (q + 1) (pool.hand (sendOk q) buffer)

/-- `fill_port_buffer`; `sendOk q` says whether the send of turn `q` succeeds. -/
def fillPortBuffer (sendOk : ℕ → Bool) (pool : Pool κ) : Option (Pool κ) :=
  fillTurns sendOk pool.queue.length 0 pool

/-- The loop keeps the stock, and loses a buffer at every turn whose send fails. -/
theorem fillTurns_spec (sendOk : ℕ → Bool) : ∀ (turns q : ℕ) (pool : Pool κ),
    turns ≤ pool.queue.length →
      ∃ filled, fillTurns sendOk turns q pool = some filled ∧ filled.all.Perm pool.all ∧
        filled.lost.length =
          pool.lost.length + (List.range' q turns).countP fun i => !sendOk i := by
  intro turns
  induction turns with
  | zero =>
    intro q pool _
    exact ⟨pool, rfl, List.Perm.refl _, rfl⟩
  | succ turns ih =>
    intro q pool hturns
    have hne : pool.queue ≠ [] := by
      intro hnil
      rw [hnil] at hturns
      exact Nat.not_succ_le_zero turns hturns
    obtain ⟨buffer, rest, hget, hlength⟩ := Pool.exists_get hne
    obtain ⟨filled, hfill, hperm, hlost⟩ := ih (q + 1) (rest.hand (sendOk q) buffer) (by
      rw [Pool.queue_hand]
      omega)
    refine ⟨filled, ?_, ?_, ?_⟩
    · rw [fillTurns, hget]
      exact hfill
    · exact (hperm.trans (Pool.hand_perm _ _ _)).trans (Pool.perm_of_get hget).symm
    · rw [hlost, Pool.length_lost_hand, Pool.lost_of_get hget, List.range'_succ, List.countP_cons]
      cases sendOk q with
      | false =>
        simp only [Bool.not_false, Bool.toNat_true, if_true]
        omega
      | true => simp

/-- **What `fill_port_buffer` does**: no turn finds the queue empty, the stock is kept, and as many
buffers are lost as sends fail. -/
theorem fillPortBuffer_spec (sendOk : ℕ → Bool) (stock : List κ) :
    ∃ pool, fillPortBuffer sendOk (.full stock) = some pool ∧ pool.all.Perm stock ∧
      pool.lost.length = (List.range' 0 stock.length).countP fun i => !sendOk i := by
  obtain ⟨pool, hfill, hperm, hlost⟩ :=
    fillTurns_spec sendOk stock.length 0 (Pool.full stock) (Nat.le_refl _)
  rw [Pool.all_full] at hperm
  refine ⟨pool, hfill, hperm, ?_⟩
  rw [hlost]
  exact Nat.zero_add _

/-! ### The end of a callback -/

/-- What an invocation of a callback is given and meets: the buffer, `port->is_enabled`, and whether
`mmal_port_send_buffer` succeeds. -/
structure PortCall (κ : Type*) where
  buffer : κ
  isEnabled : Bool
  sendOk : Bool

/-- The invocation sends a buffer, and the port refuses it. -/
def PortCall.fails (call : PortCall κ) : Bool := call.isEnabled && !call.sendOk

/-- An event of a component and, if it is an invocation of the callback, what that meets. -/
structure PortEvent (α κ : Type*) where
  event : α
  call : Option (PortCall κ)

/-- A send of the event fails. -/
def PortEvent.fails {α : Type*} (l : PortEvent α κ) : Bool := l.call.any PortCall.fails

variable [DecidableEq κ]

/-- `jpeg_encoder_output_buffer_callback` and `video_encoder_output_callback` from the label `end:`
on. -/
def PortCall.finish (call : PortCall κ) (pool : Pool κ) : Pool κ :=
  let released := pool.giveBack call.buffer
  if call.isEnabled then
    match released.get with
    | none => released
    | some (new, rest) => rest.hand call.sendOk new
  else released

/-- The end of a callback keeps the stock, and loses a buffer exactly when its send fails: the queue
holds at least the buffer that has just been released. -/
theorem PortCall.finish_spec (call : PortCall κ) {pool : Pool κ} (h : call.buffer ∈ pool.client) :
    (call.finish pool).all.Perm pool.all ∧
      (call.finish pool).lost.length = pool.lost.length + call.fails.toNat := by
  have hreleased := Pool.giveBack_perm h
  rw [PortCall.finish, PortCall.fails]
  cases call.isEnabled with
  | false => exact ⟨hreleased, rfl⟩
  | true =>
    obtain ⟨new, rest, hget, -⟩ :=
      Pool.exists_get (Pool.giveBack_queue_ne_nil call.buffer pool)
    simp only [if_true, hget, Bool.true_and]
    constructor
    · exact ((Pool.hand_perm _ _ _).trans (Pool.perm_of_get hget).symm).trans hreleased
    · rw [Pool.length_lost_hand, Pool.lost_of_get hget]
      rfl

/-! ### A component and its port -/

/-- A component whose callbacks take buffers from a port: a callback is given a buffer that the port
owns, and ends by replenishing the port; the other events do not touch the pool. -/
def withPool {σ α : Type*} (step : σ → α → Option σ) (isCallback : α → Bool) (s : σ × Pool κ)
    (l : PortEvent α κ) : Option (σ × Pool κ) :=
  if isCallback l.event then
    match l.call with
    | none => none
    | some call =>
      if call.buffer ∈ s.2.client then
        (step s.1 l.event).map fun t => (t, call.finish s.2)
      else none
  else
    match l.call with
    | none => (step s.1 l.event).map fun t => (t, s.2)
    | some _ => none

/-- Is the event an invocation of the JPEG encoder's callback? -/
def SnapLabel.isCallback : SnapLabel → Bool
  | .callback _ => true
  | _ => false

/-- Is the event an invocation of the video encoder's callback? -/
def CameraEvent.isCallback : CameraEvent → Bool
  | .buffer _ _ => true
  | _ => false

/-- The port of the JPEG encoder, with the requests that its callback serves. -/
def jpegPortStep : SnapState × Pool κ → PortEvent SnapLabel κ → Option (SnapState × Pool κ) :=
  withPool snapStep SnapLabel.isCallback

/-- The port of the video encoder, with the sessions and clients that its callback serves. -/
def videoPortStep (env : ServerEnv) :
    Camera × Pool κ → PortEvent CameraEvent κ → Option (Camera × Pool κ) :=
  withPool (cameraStep env) CameraEvent.isCallback

section Component

variable {σ α : Type*} {step : σ → α → Option σ} {isCallback : α → Bool}

/-- What a step does to the pool. -/
theorem withPool_spec {s t : σ × Pool κ} {l : PortEvent α κ}
    (h : withPool step isCallback s l = some t) :
    t.2.all.Perm s.2.all ∧ t.2.lost.length = s.2.lost.length + l.fails.toNat := by
  rw [withPool] at h
  split at h
  · -- the callback
    split at h
    · cases h
    · next call hcall =>
      split at h
      · next hmem =>
        obtain ⟨u, -, rfl⟩ := Option.map_eq_some_iff.mp h
        rw [PortEvent.fails, hcall]
        exact call.finish_spec hmem
      · cases h
  · split at h
    · next hcall =>
      obtain ⟨u, -, rfl⟩ := Option.map_eq_some_iff.mp h
      rw [PortEvent.fails, hcall]
      exact ⟨List.Perm.refl _, rfl⟩
    · cases h

/-- **What a run does to the pool**: the stock is kept, and as many buffers are lost as sends have
failed. -/
theorem exec_withPool : ∀ (labels : List (PortEvent α κ)) (s t : σ × Pool κ),
    exec (withPool step isCallback) s labels = some t →
      t.2.all.Perm s.2.all ∧
        t.2.lost.length = s.2.lost.length + labels.countP PortEvent.fails := by
  intro labels
  induction labels with
  | nil =>
    intro s t h
    cases h
    exact ⟨List.Perm.refl _, rfl⟩
  | cons l labels ih =>
    intro s t h
    obtain ⟨u, hu, hrest⟩ := Option.bind_eq_some_iff.mp h
    obtain ⟨hperm, hlost⟩ := withPool_spec hu
    obtain ⟨hperm', hlost'⟩ := ih u t hrest
    refine ⟨hperm'.trans hperm, ?_⟩
    rw [hlost', hlost, List.countP_cons]
    cases l.fails with
    | false => simp
    | true =>
      simp only [Bool.toNat_true, if_true]
      omega

/-- The pool is intact at the start of the run and after each of its events. -/
def IntactThroughout (step : σ × Pool κ → PortEvent α κ → Option (σ × Pool κ)) (stock : List κ)
    (s : σ × Pool κ) (labels : List (PortEvent α κ)) : Prop :=
  ∀ as t, as <+: labels → exec step s as = some t → t.2.Intact stock

/-- The pool of a component stays intact exactly when it was so and no send fails. -/
theorem withPool_intact_iff {stock : List κ} (hstock : stock.Nodup) {s : σ × Pool κ}
    (hall : s.2.all.Perm stock) {labels : List (PortEvent α κ)} {last : σ × Pool κ}
    (hrun : exec (withPool step isCallback) s labels = some last) :
    IntactThroughout (withPool step isCallback) stock s labels ↔
      s.2.lost.length = 0 ∧ ∀ l ∈ labels, l.fails = false := by
  have hnone : labels.countP PortEvent.fails = 0 ↔ ∀ l ∈ labels, l.fails = false := by
    simp only [List.countP_eq_zero, Bool.not_eq_true]
  constructor
  · intro h
    obtain ⟨hperm, hlost⟩ := exec_withPool labels s last hrun
    have hlast := h labels last List.prefix_rfl hrun
    rw [Pool.intact_iff hstock (hperm.trans hall), hlost] at hlast
    exact ⟨by omega, hnone.mp (by omega)⟩
  · rintro ⟨hstart, hok⟩ as t hsub ht
    obtain ⟨hperm, hlost⟩ := exec_withPool as s t ht
    have hcount : as.countP PortEvent.fails = 0 := by
      have hle := hsub.sublist.countP_le (p := PortEvent.fails)
      have hzero := hnone.mpr hok
      omega
    rw [Pool.intact_iff hstock (hperm.trans hall), hlost, hstart, hcount]

/-- **A port that has lost all its buffers never calls back again.** -/
theorem withPool_starved {stock : List κ} {s last : σ × Pool κ} (hall : s.2.all.Perm stock)
    {labels : List (PortEvent α κ)} (hrun : exec (withPool step isCallback) s labels = some last)
    (hfails : s.2.lost.length + labels.countP PortEvent.fails = stock.length)
    {l : PortEvent α κ} (hl : isCallback l.event = true) :
    withPool step isCallback last l = none := by
  obtain ⟨hperm, hlost⟩ := exec_withPool labels s last hrun
  have hlength := Pool.length_all (hperm.trans hall)
  have hclient : last.2.client = [] := List.length_eq_zero_iff.mp (by omega)
  rw [withPool, if_pos hl]
  cases l.call with
  | none => rfl
  | some call => simp only [hclient, List.not_mem_nil, if_false]

end Component

/-! ### No buffer is lost -/

/-- **No buffer is missing exactly when no send fails**: whatever the callbacks of the two encoders
do, each buffer of the pool stays in the queue or with the port if and only if every send of
`fill_port_buffer` and of the callbacks succeeds. -/
theorem buffers_intact_iff {stock : List κ} (hstock : stock.Nodup) (sendOk : ℕ → Bool) :
    ∃ pool, fillPortBuffer sendOk (.full stock) = some pool ∧
      (∀ s labels last, exec jpegPortStep (s, pool) labels = some last →
        (IntactThroughout jpegPortStep stock (s, pool) labels ↔
          (∀ q < stock.length, sendOk q = true) ∧ ∀ l ∈ labels, l.fails = false)) ∧
      ∀ env c labels last, exec (videoPortStep env) (c, pool) labels = some last →
        (IntactThroughout (videoPortStep env) stock (c, pool) labels ↔
          (∀ q < stock.length, sendOk q = true) ∧ ∀ l ∈ labels, l.fails = false) := by
  obtain ⟨pool, hfill, hall, hlost⟩ := fillPortBuffer_spec sendOk stock
  have hfilled : pool.lost.length = 0 ↔ ∀ q < stock.length, sendOk q = true := by
    rw [hlost]
    simp [List.countP_eq_zero, List.mem_range']
  refine ⟨pool, hfill, ?_, ?_⟩
  · intro s labels last hrun
    rw [← hfilled]
    exact withPool_intact_iff hstock (s := (s, pool)) hall hrun
  · intro env c labels last hrun
    rw [← hfilled]
    exact withPool_intact_iff hstock (s := (c, pool)) hall hrun

/-- A callback of the JPEG encoder on an enabled port. -/
def jpegCall (buffer : ℕ) (sendOk : Bool) : PortEvent SnapLabel ℕ :=
  { event := .callback (frameEndBuffer 1)
    call := some { buffer := buffer, isEnabled := true, sendOk := sendOk } }

/-- One failed send, and the only buffer is in neither place. -/
theorem buffer_lost :
    ∃ pool, fillPortBuffer (fun _ => true) (.full [0]) = some pool ∧
      ∃ last, exec jpegPortStep (snapInit, pool) [jpegCall 0 false] = some last ∧
        last.2.queue = [] ∧ last.2.client = [] ∧ ¬ last.2.Intact [0] := by
  refine ⟨{ queue := [], client := [0], lost := [] }, rfl, _, rfl, rfl, rfl, ?_⟩
  intro h
  exact absurd h.total (by decide)

theorem buffers_intact_iff_three :
    ∃ pool last, fillPortBuffer (fun _ => true) (.full [0, 1, 2]) = some pool ∧
      exec jpegPortStep (snapInit, pool) [jpegCall 1 true, jpegCall 0 true, jpegCall 2 true] =
        some last ∧
      IntactThroughout jpegPortStep [0, 1, 2] (snapInit, pool)
        [jpegCall 1 true, jpegCall 0 true, jpegCall 2 true] ∧
      ¬ IntactThroughout jpegPortStep [0, 1, 2] (snapInit, pool)
        [jpegCall 1 true, jpegCall 0 false, jpegCall 2 true] := by
  have hnodup : [0, 1, 2].Nodup := by decide
  obtain ⟨pool, hfill, hjpeg, -⟩ := buffers_intact_iff hnodup fun _ => true
  have hpool : pool = { queue := [], client := [2, 1, 0], lost := [] } :=
    (Option.some.inj hfill).symm
  subst hpool
  have hgood := hjpeg snapInit [jpegCall 1 true, jpegCall 0 true, jpegCall 2 true] _ rfl
  have hbad := hjpeg snapInit [jpegCall 1 true, jpegCall 0 false, jpegCall 2 true] _ rfl
  refine ⟨_, _, hfill, rfl, hgood.mpr ⟨fun _ _ => rfl, by decide⟩, fun hintact => ?_⟩
  exact absurd (hbad.mp hintact).2 (by decide)

end CameraDaemon
