import CameraDaemon.Lib.Run
import CameraDaemon.Lib.Sync
import CameraDaemon.Os

/-!
# Snapshots: the callback and the request

`GET /snapshot` sets `snapshot_request_n` under `img_lock` and waits on `img_cond` until the JPEG
encoder's callback has collected a frame and cleared it.  The callback keeps its own idea of whether
it holds the lock in a static variable, set when `pthread_mutex_trylock` returns *nonzero*: it
believes to hold the lock when somebody else, or an earlier callback, holds it, and does not believe
so when it has just taken it.

The HTTP thread moves by one step at a time; an invocation of the callback is one step.

## Main definitions

* `SnapState` — the variables of the snapshot code.
* `jpegEncoderOutputBufferCallback` — the callback.
* `snapHttpStep`, `snapStep` — the HTTP thread's `/snapshot` code and the callback, interleaved.

## Main results

* `callback_cases` — **everything an invocation of the callback can do.**
* `bookkeeping_step` — what holds in every run, whoever holds the lock.
-/

namespace CameraDaemon

open Memory Sync Transition

/-! ### The state -/

/-- `IMAGE_BUFFER_SIZE`, the value of `image_max_size`. -/
def imageMaxSize : ℕ := 3 * 1920 * 1080

/-- The threads that use `img_lock`. -/
inductive SnapThread
  | http
  | encoder
  deriving DecidableEq, Repr

/-- Where the HTTP thread is in the `/snapshot` branch of `server_on_url`. -/
inductive SnapPc
  | idle
  /-- At `pthread_mutex_lock`. -/
  | lock
  /-- At `snapshot_request_n = 1`. -/
  | setFlag
  /-- At the test of the `while` loop. -/
  | test
  /-- At the entry of `pthread_cond_wait`. -/
  | enterWait
  /-- Inside `pthread_cond_wait`: blocked, or woken and about to take the lock again. -/
  | inWait
  /-- At the `write` of the reply. -/
  | reply
  /-- At `pthread_mutex_unlock`. -/
  | unlock
  deriving DecidableEq, Repr

/-- A reply: the image written, the buffers delivered before it and how many of them were delivered
before `snapshot_request_n` was set for it. -/
structure SnapReply where
  image : List UInt8
  delivered : List MmalBuffer
  requestedAt : ℕ

/-- The variables of the snapshot code, and what is recorded of the run. -/
structure SnapState where
  imgLock : Mutex SnapThread
  imgCond : CondVar SnapThread
  snapshotRequestN : ℕ
  imageBuffer : ℕ → UInt8
  imageSize : ℕ
  /-- `already_acquired_lock` of the callback. -/
  alreadyAcquiredLock : Bool
  /-- `state` of the callback: has a frame been started? -/
  state : Bool
  http : SnapPc
  /-- The buffers delivered so far, in order. -/
  delivered : List MmalBuffer
  /-- How many buffers had been delivered when `snapshot_request_n` was last set. -/
  requestedAt : ℕ
  /-- The replies, latest first. -/
  replies : List SnapReply
  /-- The owner of the lock at each write of the image, or of its size, and at each unlock that the
  callback has made, latest first. -/
  accesses : List (Option SnapThread)

/-- The image, `image_buffer[0..image_size)`. -/
def SnapState.image (s : SnapState) : List UInt8 := slice s.imageBuffer 0 s.imageSize

/-! ### The callback -/

/-- `if (!already_acquired_lock) if (pthread_mutex_trylock(…)) already_acquired_lock = 1`. -/
def believeLock (s : SnapState) : SnapState :=
  if s.alreadyAcquiredLock then s
  else
    let (busy, lock) := tryLock s.imgLock .encoder
    { s with imgLock := lock, alreadyAcquiredLock := busy }

/-- Append a payload to the image. -/
def appendPayload (s : SnapState) (b : MmalBuffer) : SnapState :=
  { s with
    imageBuffer := store s.imageBuffer s.imageSize b.payload.bytes
    imageSize := s.imageSize + b.payload.length
    accesses := s.imgLock :: s.accesses }

/-- Clear the request, signal and unlock. -/
def finishRequest (s : SnapState) : SnapState :=
  { s with
    snapshotRequestN := 0
    imgCond := signal s.imgCond
    imgLock := unlock s.imgLock
    alreadyAcquiredLock := false
    accesses := s.imgLock :: s.accesses }

/-- The part of the callback under the lock it believes to hold. -/
def collect (s : SnapState) (b : MmalBuffer) : SnapState :=
  if b.frameEnd = true ∧ s.state = false then
    { s with imageSize := 0, state := true, accesses := s.imgLock :: s.accesses }
  else
    let s := if s.state then appendPayload s b else s
    if b.frameEnd then
      let s := if s.state then finishRequest s else s
      { s with state := false }
    else s

/-- `jpeg_encoder_output_buffer_callback`. -/
def jpegEncoderOutputBufferCallback (s : SnapState) (b : MmalBuffer) : SnapState :=
  if s.snapshotRequestN = 0 then s
  else
    let s := believeLock s
    if s.alreadyAcquiredLock then collect s b else s

/-! ### The step system -/

/-- The choices of a run. -/
inductive SnapLabel
  /-- A `/snapshot` request arrives. -/
  | request
  /-- The HTTP thread goes on. -/
  | http
  /-- The wait returns without a signal. -/
  | spurious
  /-- The encoder delivers a buffer. -/
  | callback (b : MmalBuffer)

/-- One step of the HTTP thread; `none` while it is blocked. -/
def snapHttpStep (s : SnapState) : Option SnapState :=
  match s.http with
  | .idle => none
  | .lock => (lock s.imgLock .http).map fun m => { s with imgLock := m, http := .setFlag }
  | .setFlag =>
    some { s with snapshotRequestN := 1, requestedAt := s.delivered.length, http := .test }
  | .test => some { s with http := if s.snapshotRequestN = 0 then .reply else .enterWait }
  | .enterWait =>
    some { s with
      imgLock := unlock s.imgLock, imgCond := block s.imgCond .http, http := .inWait }
  | .inWait =>
    if SnapThread.http ∈ s.imgCond then none
    else (lock s.imgLock .http).map fun m => { s with imgLock := m, http := .test }
  | .reply =>
    some { s with
      replies :=
        { image := s.image, delivered := s.delivered, requestedAt := s.requestedAt } :: s.replies
      http := .unlock }
  | .unlock => some { s with imgLock := unlock s.imgLock, http := .idle }

/-- One step. -/
def snapStep (s : SnapState) : SnapLabel → Option SnapState
  | .request => if s.http = .idle then some { s with http := .lock } else none
  | .http => snapHttpStep s
  | .spurious =>
    if s.http = .inWait then some { s with imgCond := s.imgCond.erase .http } else none
  | .callback b =>
    some { jpegEncoderOutputBufferCallback s b with delivered := s.delivered ++ [b] }

/-- The start: `main` has initialised the lock and the buffer. -/
def snapInit : SnapState :=
  { imgLock := none
    imgCond := []
    snapshotRequestN := 0
    imageBuffer := fun _ => 0
    imageSize := 0
    alreadyAcquiredLock := false
    state := false
    http := .idle
    delivered := []
    requestedAt := 0
    replies := []
    accesses := [] }

/-! ### What the callback can do -/

/-- The state once the callback believes to hold the lock. -/
def SnapState.believing (s : SnapState) : SnapState := { s with alreadyAcquiredLock := true }

/-- The callback goes past its lock: a request is pending, and it believed to hold the lock before
or finds it taken. -/
def Proceeds (s : SnapState) : Prop :=
  s.snapshotRequestN ≠ 0 ∧ (s.alreadyAcquiredLock = true ∨ s.imgLock ≠ none)

/-- Everything an invocation of the callback can do. -/
inductive Callback (s : SnapState) (b : MmalBuffer) : SnapState → Prop
  /-- No request is pending. -/
  | skip : s.snapshotRequestN = 0 → Callback s b s
  /-- The lock is taken, and the callback does not know it. -/
  | take : s.snapshotRequestN ≠ 0 → s.alreadyAcquiredLock = false → s.imgLock = none →
      Callback s b { s with imgLock := some .encoder }
  /-- The end of a frame: the next one is collected. -/
  | start : Proceeds s → s.state = false → b.frameEnd = true →
      Callback s b
        { s.believing with imageSize := 0, state := true, accesses := s.imgLock :: s.accesses }
  /-- The middle of a frame that is not collected. -/
  | ignore : Proceeds s → s.state = false → b.frameEnd = false → Callback s b s.believing
  /-- The middle of the frame that is collected. -/
  | append : Proceeds s → s.state = true → b.frameEnd = false →
      Callback s b (appendPayload s.believing b)
  /-- The end of the frame that is collected. -/
  | finish : Proceeds s → s.state = true → b.frameEnd = true →
      Callback s b { finishRequest (appendPayload s.believing b) with state := false }

theorem believeLock_of_proceeds {s : SnapState} (h : Proceeds s) : believeLock s = s.believing := by
  rw [believeLock]
  split
  · next halready => rw [SnapState.believing, ← halready]
  · next halready =>
    have hlock := h.2.resolve_left halready
    obtain ⟨owner, howner⟩ := Option.ne_none_iff_exists'.mp hlock
    simp only [howner, tryLock, SnapState.believing]

/-- What the callback does once it believes to hold the lock. -/
theorem callback_collect {s : SnapState} (h : Proceeds s) (b : MmalBuffer) :
    Callback s b (collect s.believing b) := by
  have hstate' : s.believing.state = s.state := rfl
  rw [collect]
  cases hstate : s.state with
  | false =>
    rw [hstate] at hstate'
    cases hend : b.frameEnd with
    | false =>
      simp only [hstate', Bool.false_eq_true, false_and, if_false]
      exact .ignore h hstate hend
    | true =>
      simp only [hstate', and_self, if_true]
      exact .start h hstate hend
  | true =>
    rw [hstate] at hstate'
    have happend : (appendPayload s.believing b).state = true := hstate'
    cases hend : b.frameEnd with
    | false =>
      simp only [hstate', Bool.false_eq_true, false_and, if_false, if_true]
      exact .append h hstate hend
    | true =>
      simp only [hstate', happend, Bool.true_eq_false, and_false, if_false, if_true]
      exact .finish h hstate hend

/-- **Everything an invocation of the callback can do.** -/
theorem callback_cases (s : SnapState) (b : MmalBuffer) :
    Callback s b (jpegEncoderOutputBufferCallback s b) := by
  rw [jpegEncoderOutputBufferCallback]
  by_cases hn : s.snapshotRequestN = 0
  · rw [if_pos hn]
    exact .skip hn
  rw [if_neg hn]
  by_cases hp : s.alreadyAcquiredLock = true ∨ s.imgLock ≠ none
  · have hproc : Proceeds s := ⟨hn, hp⟩
    have hbelieve : s.believing.alreadyAcquiredLock = true := rfl
    simp only [believeLock_of_proceeds hproc, hbelieve, if_true]
    exact callback_collect hproc b
  · rw [not_or, not_not, Bool.not_eq_true] at hp
    obtain ⟨halready, hlock⟩ := hp
    have hbelieve : believeLock s = { s with imgLock := some .encoder } := by
      simp [believeLock, halready, hlock, tryLock]
    rw [hbelieve]
    simp only [halready, Bool.false_eq_true, if_false]
    rw [← halready]
    exact .take hn halready hlock

/-- A step of the callback, by what it can do. -/
theorem callback_of_snapStep {s s' : SnapState} {b : MmalBuffer}
    (hs : snapStep s (.callback b) = some s') :
    ∃ t, Callback s b t ∧ s' = { t with delivered := s.delivered ++ [b] } := by
  cases hs
  exact ⟨_, callback_cases s b, rfl⟩

/-! ### The bookkeeping -/

/-- The HTTP thread has set the flag and not seen it cleared. -/
def SnapPc.waits : SnapPc → Bool
  | .test | .enterWait | .inWait => true
  | _ => false

/-- What holds in every run: the collector is reset whenever no request is pending, a frame is
collected only under the lock that the callback believes to hold, and nobody but the HTTP thread
waits. -/
structure Bookkeeping (s : SnapState) : Prop where
  noRequest : s.http.waits = false → s.snapshotRequestN = 0
  reset : s.snapshotRequestN = 0 → s.alreadyAcquiredLock = false ∧ s.state = false
  started : s.state = true → s.alreadyAcquiredLock = true
  cond : s.imgCond = [] ∨ s.imgCond = [.http] ∧ s.http = .inWait

/-- A signal leaves nobody blocked. -/
theorem Bookkeeping.signal_nil {s : SnapState} (h : Bookkeeping s) : signal s.imgCond = [] := by
  rcases h.cond with hc | ⟨hc, -⟩
  · rw [hc]
    rfl
  · rw [hc]
    rfl

theorem bookkeeping_init : Bookkeeping snapInit :=
  ⟨fun _ => rfl, fun _ => ⟨rfl, rfl⟩, nofun, Or.inl rfl⟩

theorem bookkeeping_httpStep {s s' : SnapState} (h : Bookkeeping s)
    (hs : snapHttpStep s = some s') : Bookkeeping s' := by
  -- outside its wait the HTTP thread is not blocked
  have hfree : s.http ≠ .inWait → s.imgCond = [] := fun hne =>
    h.cond.resolve_right fun hc => hne hc.2
  unfold snapHttpStep at hs
  split at hs
  · cases hs
  · next hpc =>
    obtain ⟨m, -, rfl⟩ := Option.map_eq_some_iff.mp hs
    exact ⟨fun _ => h.noRequest (by rw [hpc]; rfl), h.reset, h.started,
      Or.inl (hfree (by simp [hpc]))⟩
  · next hpc =>
    -- the request is set, so there is nothing to say about the time without one
    cases hs
    exact ⟨nofun, nofun, h.started, Or.inl (hfree (by simp [hpc]))⟩
  · next hpc =>
    cases hs
    refine ⟨fun hw => ?_, h.reset, h.started, Or.inl (hfree (by simp [hpc]))⟩
    by_contra hn
    simp only [if_neg hn] at hw
    cases hw
  · next hpc =>
    cases hs
    refine ⟨nofun, h.reset, h.started, Or.inr ⟨?_, rfl⟩⟩
    rw [hfree (by simp [hpc])]
    rfl
  · next hpc =>
    split at hs
    · cases hs
    · next hwoken =>
      -- the thread goes on only once it is not blocked any more
      obtain ⟨m, -, rfl⟩ := Option.map_eq_some_iff.mp hs
      refine ⟨nofun, h.reset, h.started, Or.inl ?_⟩
      refine h.cond.resolve_right fun hc => hwoken ?_
      rw [hc.1]
      exact List.mem_cons_self
  · next hpc =>
    cases hs
    exact ⟨fun _ => h.noRequest (by rw [hpc]; rfl), h.reset, h.started,
      Or.inl (hfree (by simp [hpc]))⟩
  · next hpc =>
    cases hs
    exact ⟨fun _ => h.noRequest (by rw [hpc]; rfl), h.reset, h.started,
      Or.inl (hfree (by simp [hpc]))⟩

theorem bookkeeping_callback {s t : SnapState} {b : MmalBuffer} (h : Bookkeeping s)
    (hcb : Callback s b t) (delivered : List MmalBuffer) :
    Bookkeeping { t with delivered := delivered } := by
  cases hcb with
  | skip hn => exact ⟨h.noRequest, h.reset, h.started, h.cond⟩
  | take hn halready hlock => exact ⟨h.noRequest, h.reset, h.started, h.cond⟩
  | start hp hstate hend => exact ⟨h.noRequest, fun hn => absurd hn hp.1, fun _ => rfl, h.cond⟩
  | ignore hp hstate hend => exact ⟨h.noRequest, fun hn => absurd hn hp.1, fun _ => rfl, h.cond⟩
  | append hp hstate hend => exact ⟨h.noRequest, fun hn => absurd hn hp.1, fun _ => rfl, h.cond⟩
  | finish hp hstate hend =>
    exact ⟨fun _ => rfl, fun _ => ⟨rfl, rfl⟩, nofun, Or.inl h.signal_nil⟩

/-- Every step keeps the bookkeeping. -/
theorem bookkeeping_step {s s' : SnapState} {a : SnapLabel} (h : Bookkeeping s)
    (hs : snapStep s a = some s') : Bookkeeping s' := by
  cases a with
  | request =>
    rw [snapStep] at hs
    split at hs
    · next hpc =>
      cases hs
      refine ⟨fun _ => h.noRequest (by rw [hpc]; rfl), h.reset, h.started, Or.inl ?_⟩
      exact h.cond.resolve_right fun hc => by simp [hpc] at hc
    · cases hs
  | http => exact bookkeeping_httpStep h hs
  | spurious =>
    rw [snapStep] at hs
    split at hs
    · cases hs
      refine ⟨h.noRequest, h.reset, h.started, Or.inl ?_⟩
      show s.imgCond.erase .http = []
      rcases h.cond with hc | ⟨hc, -⟩
      · rw [hc]
        rfl
      · rw [hc]
        rfl
    · cases hs
  | callback b =>
    obtain ⟨t, hcb, rfl⟩ := callback_of_snapStep hs
    exact bookkeeping_callback h hcb _

/-! ### A request that is served -/

/-- A part of a frame, which ends it or does not. -/
def framePart (bytes : List UInt8) (frameEnd : Bool) : MmalBuffer :=
  { config := false, codecSideInfo := false, keyframe := false, frameEnd := frameEnd
    payload := Block.ofList bytes }

/-- A buffer of one byte that ends a frame. -/
def frameEndBuffer (byte : UInt8) : MmalBuffer := framePart [byte] true

/-- A request up to the entry of its wait. -/
def requestRun : List SnapLabel := [.request, .http, .http, .http]

/-- A request whose frame, in two buffers, comes while it waits. -/
def servedRun : List SnapLabel :=
  requestRun ++ [.http, .callback (frameEndBuffer 0), .callback (frameEndBuffer 1),
    .callback (framePart [2, 3] false), .callback (framePart [4, 5, 6] true), .http, .http, .http,
    .http]

end CameraDaemon
