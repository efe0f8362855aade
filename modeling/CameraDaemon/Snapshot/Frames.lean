import CameraDaemon.Snapshot.Callback

/-!
# Snapshots: the frame of a reply

A reply is written from `image_buffer` once the flag is clear.  The collector starts at the end of a
frame, appends every buffer up to the end of the next one and clears the flag, and it is reset
whenever no request is pending; so the image of a reply is one whole frame, begun after the request,
whoever holds the lock meanwhile.

Nothing looks at the size of the image buffer: a frame that is longer is written past its end.

## Main definitions

* `IsFrame` — bytes are those of one whole frame, delivered after a request.
* `openFrame`, `Fits` — the buffers of the frame that is being delivered, and that they fit the image
  buffer.
* `CollectInv`, `FrameInv` — what the collector has done so far.

## Main results

* `frameInv_step` — every step keeps `FrameInv`.
* `reply_isFrame` — **every reply is one whole frame captured after its request.**
* `image_in_bounds_iff` — **the image stays within its buffer exactly when what is collected fits.**
* `image_overrun` — a frame that does not.
-/

namespace CameraDaemon

open Memory Sync Transition

/-- The payloads of some buffers, one after another. -/
def payloads (bs : List MmalBuffer) : List UInt8 := (bs.map fun b => b.payload.bytes).flatten

@[simp] theorem payloads_nil : payloads [] = [] := rfl

@[simp] theorem payloads_concat (bs : List MmalBuffer) (b : MmalBuffer) :
    payloads (bs ++ [b]) = payloads bs ++ b.payload.bytes := by
  simp [payloads]

@[simp] theorem Block.length_bytes (b : Block) : b.bytes.length = b.length := length_slice _ _ _

/-- The image is the payload of all buffers after some end of a frame `b₁` up to the next one `b₂`,
and `b₁` was delivered after the request. -/
def IsFrame (requestedAt : ℕ) (delivered : List MmalBuffer) (image : List UInt8) : Prop :=
  ∃ (before : List MmalBuffer) (b₁ : MmalBuffer) (frame : List MmalBuffer) (b₂ : MmalBuffer)
    (after : List MmalBuffer),
    delivered = before ++ b₁ :: (frame ++ b₂ :: after) ∧ requestedAt ≤ before.length ∧
    b₁.frameEnd = true ∧ (∀ b ∈ frame, b.frameEnd = false) ∧ b₂.frameEnd = true ∧
    image = payloads (frame ++ [b₂])

/-- Buffers delivered later do not matter. -/
theorem IsFrame.later {requestedAt : ℕ} {delivered : List MmalBuffer} {image : List UInt8}
    (h : IsFrame requestedAt delivered image) (b : MmalBuffer) :
    IsFrame requestedAt (delivered ++ [b]) image := by
  obtain ⟨before, b₁, frame, b₂, after, hd, hreq, hb₁, hframe, hb₂, himage⟩ := h
  refine ⟨before, b₁, frame, b₂, after ++ [b], ?_, hreq, hb₁, hframe, hb₂, himage⟩
  rw [hd]
  simp

/-- The image so far is the payload of all buffers after some end of a frame, delivered after the
request, and none of them ends a frame. -/
def Collected (requestedAt : ℕ) (delivered : List MmalBuffer) (image : List UInt8) : Prop :=
  ∃ (before : List MmalBuffer) (b₁ : MmalBuffer) (frame : List MmalBuffer),
    delivered = before ++ b₁ :: frame ∧ requestedAt ≤ before.length ∧ b₁.frameEnd = true ∧
    (∀ b ∈ frame, b.frameEnd = false) ∧ image = payloads frame

/-- The end of a frame starts a collection. -/
theorem Collected.start {requestedAt : ℕ} {delivered : List MmalBuffer} {b : MmalBuffer}
    (hreq : requestedAt ≤ delivered.length) (hend : b.frameEnd = true) :
    Collected requestedAt (delivered ++ [b]) [] :=
  ⟨delivered, b, [], rfl, hreq, hend, nofun, rfl⟩

theorem Collected.append {requestedAt : ℕ} {delivered : List MmalBuffer} {image : List UInt8}
    (h : Collected requestedAt delivered image) {b : MmalBuffer} (hend : b.frameEnd = false) :
    Collected requestedAt (delivered ++ [b]) (image ++ b.payload.bytes) := by
  obtain ⟨before, b₁, frame, hd, hreq, hb₁, hframe, himage⟩ := h
  refine ⟨before, b₁, frame ++ [b], by simp [hd], hreq, hb₁, ?_, by simp [himage]⟩
  intro c hc
  rcases List.mem_append.mp hc with hc | hc
  · exact hframe c hc
  · rw [List.mem_singleton.mp hc, hend]

/-- The end of the next frame completes it. -/
theorem Collected.finish {requestedAt : ℕ} {delivered : List MmalBuffer} {image : List UInt8}
    (h : Collected requestedAt delivered image) {b : MmalBuffer} (hend : b.frameEnd = true) :
    IsFrame requestedAt (delivered ++ [b]) (image ++ b.payload.bytes) := by
  obtain ⟨before, b₁, frame, hd, hreq, hb₁, hframe, himage⟩ := h
  exact ⟨before, b₁, frame, b, [], by simp [hd], hreq, hb₁, hframe, hend, by simp [himage]⟩

/-! ### Frames that fit -/

/-- The buffers delivered since the last end of a frame. -/
def openFrame (delivered : List MmalBuffer) : List MmalBuffer :=
  (delivered.reverse.takeWhile fun b => !b.frameEnd).reverse

theorem openFrame_eq (before : List MmalBuffer) {b₁ : MmalBuffer} {frame : List MmalBuffer}
    (hb₁ : b₁.frameEnd = true) (hframe : ∀ b ∈ frame, b.frameEnd = false) :
    openFrame (before ++ b₁ :: frame) = frame := by
  have hopen : ∀ b ∈ frame.reverse, (!b.frameEnd) = true := by
    intro b hb
    rw [hframe b (List.mem_reverse.mp hb)]
    rfl
  have hrev : (before ++ b₁ :: frame).reverse = frame.reverse ++ (b₁ :: before.reverse) := by simp
  rw [openFrame, hrev, List.takeWhile_append_of_pos hopen, List.takeWhile_cons_of_neg (by simp [hb₁])]
  simp

/-- A buffer keeps its frame within the image buffer. -/
def Fits (s : SnapState) : SnapLabel → Prop
  | .callback b => (payloads (openFrame s.delivered)).length + b.payload.length ≤ imageMaxSize
  | _ => True

instance (s : SnapState) : ∀ a, Decidable (Fits s a)
  | .callback b =>
    inferInstanceAs (Decidable
      ((payloads (openFrame s.delivered)).length + b.payload.length ≤ imageMaxSize))
  | .request => inferInstanceAs (Decidable True)
  | .http => inferInstanceAs (Decidable True)
  | .spurious => inferInstanceAs (Decidable True)

theorem Collected.length_eq {requestedAt : ℕ} {delivered : List MmalBuffer} {image : List UInt8}
    (h : Collected requestedAt delivered image) :
    image.length = (payloads (openFrame delivered)).length := by
  obtain ⟨before, b₁, frame, hd, -, hb₁, hframe, himage⟩ := h
  rw [hd, openFrame_eq before hb₁ hframe, himage]

/-! ### The invariant -/

/-- The HTTP thread is past setting the flag and has not written its reply. -/
def SnapPc.asks : SnapPc → Bool
  | .test | .enterWait | .inWait | .reply => true
  | _ => false

/-- What holds of the collector in every run, whether the frames fit or not. -/
structure CollectInv (s : SnapState) : Prop where
  book : Bookkeeping s
  requested : s.requestedAt ≤ s.delivered.length
  collected : s.state = true → Collected s.requestedAt s.delivered s.image

/-- What the collector has done so far, if the frames fit. -/
structure FrameInv (s : SnapState) : Prop extends CollectInv s where
  complete : s.http.asks = true → s.snapshotRequestN = 0 →
    IsFrame s.requestedAt s.delivered s.image
  replies : ∀ r ∈ s.replies, IsFrame r.requestedAt r.delivered r.image
  size : s.imageSize ≤ imageMaxSize

theorem collectInv_init : CollectInv snapInit := ⟨bookkeeping_init, Nat.le_refl _, nofun⟩

theorem frameInv_init : FrameInv snapInit :=
  ⟨collectInv_init, nofun, nofun, Nat.zero_le _⟩

/-- Appending a payload appends it to the image. -/
theorem image_appendPayload (s : SnapState) (b : MmalBuffer) :
    (appendPayload s.believing b).image = s.image ++ b.payload.bytes := by
  have happend := slice_zero_store s.imageBuffer s.imageSize b.payload.bytes
  rwa [Block.length_bytes] at happend

/-- While a frame is collected, the image is as long as the frame so far. -/
theorem CollectInv.imageSize_eq {s : SnapState} (h : CollectInv s) (hstate : s.state = true) :
    s.imageSize = (payloads (openFrame s.delivered)).length := by
  have hlen := (h.collected hstate).length_eq
  rwa [SnapState.image, length_slice] at hlen

/-! ### The collector -/

theorem collectInv_httpStep {s s' : SnapState} (h : CollectInv s) (hs : snapHttpStep s = some s') :
    CollectInv s' := by
  have hbook := bookkeeping_httpStep h.book hs
  unfold snapHttpStep at hs
  split at hs
  · cases hs
  · obtain ⟨m, -, rfl⟩ := Option.map_eq_some_iff.mp hs
    exact ⟨hbook, h.requested, h.collected⟩
  · next hpc =>
    -- a new request: no frame is being collected
    cases hs
    have hstate := (h.book.reset (h.book.noRequest (by rw [hpc]; rfl))).2
    exact ⟨hbook, Nat.le_refl _, fun hst => absurd hst (by simp [hstate])⟩
  · cases hs
    exact ⟨hbook, h.requested, h.collected⟩
  · cases hs
    exact ⟨hbook, h.requested, h.collected⟩
  · split at hs
    · cases hs
    · obtain ⟨m, -, rfl⟩ := Option.map_eq_some_iff.mp hs
      exact ⟨hbook, h.requested, h.collected⟩
  · cases hs
    exact ⟨hbook, h.requested, h.collected⟩
  · cases hs
    exact ⟨hbook, h.requested, h.collected⟩

theorem collectInv_callback {s t : SnapState} {b : MmalBuffer} (h : CollectInv s)
    (hcb : Callback s b t) : CollectInv { t with delivered := s.delivered ++ [b] } := by
  have hbook := bookkeeping_callback h.book hcb (s.delivered ++ [b])
  have hreq : s.requestedAt ≤ (s.delivered ++ [b]).length := by
    rw [List.length_append]
    exact Nat.le_add_right_of_le h.requested
  cases hcb with
  | skip hn => exact ⟨hbook, hreq, fun hst => absurd hst (by simp [(h.book.reset hn).2])⟩
  | take hn halready hlock =>
    exact ⟨hbook, hreq, fun hst => absurd (h.book.started hst) (by simp [halready])⟩
  | start hp hstate hend => exact ⟨hbook, hreq, fun _ => Collected.start h.requested hend⟩
  | ignore hp hstate hend =>
    exact ⟨hbook, hreq, fun hst => absurd hst (by simp [SnapState.believing, hstate])⟩
  | append hp hstate hend =>
    refine ⟨hbook, hreq, fun _ => ?_⟩
    have hnext := (h.collected hstate).append hend
    rwa [← image_appendPayload] at hnext
  | finish hp hstate hend =>
    refine ⟨hbook, hreq, fun hst => ?_⟩
    cases hst

/-- Every step keeps the collector in order. -/
theorem collectInv_step {s s' : SnapState} {a : SnapLabel} (h : CollectInv s)
    (hs : snapStep s a = some s') : CollectInv s' := by
  cases a with
  | request =>
    have hbook := bookkeeping_step h.book hs
    rw [snapStep] at hs
    split at hs
    · cases hs
      exact ⟨hbook, h.requested, h.collected⟩
    · cases hs
  | http => exact collectInv_httpStep h hs
  | spurious =>
    have hbook := bookkeeping_step h.book hs
    rw [snapStep] at hs
    split at hs
    · cases hs
      exact ⟨hbook, h.requested, h.collected⟩
    · cases hs
  | callback b =>
    obtain ⟨t, hcb, rfl⟩ := callback_of_snapStep hs
    exact collectInv_callback h hcb

/-! ### The frames -/

theorem frameInv_httpStep {s s' : SnapState} (h : FrameInv s) (hs : snapHttpStep s = some s') :
    FrameInv s' := by
  have hcol := collectInv_httpStep h.toCollectInv hs
  unfold snapHttpStep at hs
  split at hs
  · cases hs
  · obtain ⟨m, -, rfl⟩ := Option.map_eq_some_iff.mp hs
    exact ⟨hcol, nofun, h.replies, h.size⟩
  · cases hs
    exact ⟨hcol, fun _ => nofun, h.replies, h.size⟩
  · next hpc =>
    cases hs
    exact ⟨hcol, fun _ => h.complete (by rw [hpc]; rfl), h.replies, h.size⟩
  · next hpc =>
    cases hs
    exact ⟨hcol, fun _ => h.complete (by rw [hpc]; rfl), h.replies, h.size⟩
  · next hpc =>
    split at hs
    · cases hs
    · obtain ⟨m, -, rfl⟩ := Option.map_eq_some_iff.mp hs
      exact ⟨hcol, fun _ => h.complete (by rw [hpc]; rfl), h.replies, h.size⟩
  · next hpc =>
    -- the reply is written from a complete frame
    cases hs
    have hframe := h.complete (by rw [hpc]; rfl) (h.book.noRequest (by rw [hpc]; rfl))
    exact ⟨hcol, nofun, List.forall_mem_cons.mpr ⟨hframe, h.replies⟩, h.size⟩
  · cases hs
    exact ⟨hcol, nofun, h.replies, h.size⟩

theorem frameInv_callback {s t : SnapState} {b : MmalBuffer} (h : FrameInv s)
    (hfits : Fits s (.callback b)) (hcb : Callback s b t) :
    FrameInv { t with delivered := s.delivered ++ [b] } := by
  have hcol := collectInv_callback h.toCollectInv hcb
  -- while a frame is collected, the image grows with it
  have hsize : s.state = true → s.imageSize + b.payload.length ≤ imageMaxSize := by
    intro hstate
    rw [h.imageSize_eq hstate]
    exact hfits
  cases hcb with
  | skip hn =>
    exact ⟨hcol, fun ha hn => (h.complete ha hn).later b, h.replies, h.size⟩
  | take hn halready hlock =>
    exact ⟨hcol, fun ha hn => (h.complete ha hn).later b, h.replies, h.size⟩
  | start hp hstate hend =>
    exact ⟨hcol, fun _ hn => absurd hn hp.1, h.replies, Nat.zero_le _⟩
  | ignore hp hstate hend =>
    exact ⟨hcol, fun _ hn => absurd hn hp.1, h.replies, h.size⟩
  | append hp hstate hend =>
    exact ⟨hcol, fun _ hn => absurd hn hp.1, h.replies, hsize hstate⟩
  | finish hp hstate hend =>
    refine ⟨hcol, fun _ _ => ?_, h.replies, hsize hstate⟩
    have hnext := (h.collected hstate).finish hend
    rwa [← image_appendPayload] at hnext

/-- **Every step keeps the invariant.** -/
theorem frameInv_step {s s' : SnapState} {a : SnapLabel} (h : FrameInv s) (hfits : Fits s a)
    (hs : snapStep s a = some s') : FrameInv s' := by
  cases a with
  | request =>
    have hcol := collectInv_step h.toCollectInv hs
    rw [snapStep] at hs
    split at hs
    · cases hs
      refine ⟨hcol, fun hpc => ?_, h.replies, h.size⟩
      cases hpc
    · cases hs
  | http => exact frameInv_httpStep h hs
  | spurious =>
    have hcol := collectInv_step h.toCollectInv hs
    rw [snapStep] at hs
    split at hs
    · cases hs
      exact ⟨hcol, h.complete, h.replies, h.size⟩
    · cases hs
  | callback b =>
    obtain ⟨t, hcb, rfl⟩ := callback_of_snapStep hs
    exact frameInv_callback h hfits hcb

/-- **Every reply is one whole frame captured after its request**, in every run whose frames fit the
image buffer; and the image never leaves the buffer. -/
theorem reply_isFrame {labels : List SnapLabel} {s : SnapState}
    (hr : Run snapStep Fits snapInit labels s) :
    (∀ r ∈ s.replies, IsFrame r.requestedAt r.delivered r.image) ∧ s.imageSize ≤ imageMaxSize := by
  have hinv := hr.invariant frameInv_init fun _ _ _ h hfits hs => frameInv_step h hfits hs
  exact ⟨hinv.replies, hinv.size⟩

theorem reply_isFrame_servedRun :
    ∃ s, Run snapStep Fits snapInit servedRun s ∧ s.replies.map SnapReply.image = [[2, 3, 4, 5, 6]] ∧
      ∀ r ∈ s.replies, IsFrame r.requestedAt r.delivered r.image := by
  have hrun : (execWhen snapStep Fits snapInit servedRun).any
      (fun s => decide (s.replies.map SnapReply.image = [[2, 3, 4, 5, 6]])) = true := by
    decide
  obtain ⟨s, hs, hp⟩ := exists_run_of_execWhen hrun
  exact ⟨s, hs, of_decide_eq_true hp, (reply_isFrame hs).1⟩

/-! ### The bounds of the image buffer -/

/-- A buffer that is collected keeps its frame within the image buffer. -/
def CollectedFits (s : SnapState) (a : SnapLabel) : Prop := s.state = true → Fits s a

/-- The HTTP thread does not touch the image. -/
theorem imageSize_httpStep {s s' : SnapState} (hs : snapHttpStep s = some s') :
    s'.imageSize = s.imageSize := by
  unfold snapHttpStep at hs
  split at hs
  · cases hs
  · obtain ⟨m, -, rfl⟩ := Option.map_eq_some_iff.mp hs
    rfl
  · cases hs
    rfl
  · cases hs
    rfl
  · cases hs
    rfl
  · split at hs
    · cases hs
    · obtain ⟨m, -, rfl⟩ := Option.map_eq_some_iff.mp hs
      rfl
  · cases hs
    rfl
  · cases hs
    rfl

/-- The callback stays within the image buffer exactly when what it collects fits. -/
theorem imageSize_callback_iff {s t : SnapState} {b : MmalBuffer} (h : CollectInv s)
    (hsize : s.imageSize ≤ imageMaxSize) (hcb : Callback s b t) :
    t.imageSize ≤ imageMaxSize ↔ CollectedFits s (.callback b) := by
  -- a frame is collected only by the callbacks that append
  have hidle : s.state = false → CollectedFits s (.callback b) := by
    intro hstate hst
    rw [hstate] at hst
    cases hst
  have hgrows : s.state = true →
      (s.imageSize + b.payload.length ≤ imageMaxSize ↔ CollectedFits s (.callback b)) := by
    intro hstate
    rw [h.imageSize_eq hstate]
    exact ⟨fun hfits _ => hfits, fun hfits => hfits hstate⟩
  cases hcb with
  | skip hn => exact iff_of_true hsize (hidle (h.book.reset hn).2)
  | take hn halready hlock =>
    refine iff_of_true hsize fun hst => absurd (h.book.started hst) ?_
    simp [halready]
  | start hp hstate hend => exact iff_of_true (Nat.zero_le _) (hidle hstate)
  | ignore hp hstate hend => exact iff_of_true hsize (hidle hstate)
  | append hp hstate hend => exact hgrows hstate
  | finish hp hstate hend => exact hgrows hstate

/-- A step stays within the image buffer exactly when what it collects fits. -/
theorem imageSize_step_iff {s s' : SnapState} {a : SnapLabel} (h : CollectInv s)
    (hsize : s.imageSize ≤ imageMaxSize) (hs : snapStep s a = some s') :
    s'.imageSize ≤ imageMaxSize ↔ CollectedFits s a := by
  cases a with
  | request =>
    rw [snapStep] at hs
    split at hs
    · cases hs
      exact iff_of_true hsize fun _ => trivial
    · cases hs
  | http =>
    rw [imageSize_httpStep hs]
    exact iff_of_true hsize fun _ => trivial
  | spurious =>
    rw [snapStep] at hs
    split at hs
    · cases hs
      exact iff_of_true hsize fun _ => trivial
    · cases hs
  | callback b =>
    obtain ⟨t, hcb, rfl⟩ := callback_of_snapStep hs
    show t.imageSize ≤ imageMaxSize ↔ _
    exact imageSize_callback_iff h hsize hcb

/-- **The image stays within its buffer all along a run exactly when every buffer that is collected
fits**, with the buffers of its frame before it. -/
theorem image_in_bounds_iff (labels : List SnapLabel) :
    (∀ as s, as <+: labels → exec snapStep snapInit as = some s → s.imageSize ≤ imageMaxSize) ↔
      ∀ as b s, as ++ [.callback b] <+: labels → exec snapStep snapInit as = some s →
        s.state = true →
          (payloads (openFrame s.delivered)).length + b.payload.length ≤ imageMaxSize := by
  rw [forall_exec_iff collectInv_init (Nat.zero_le _) (fun _ _ _ h hs => collectInv_step h hs)
    (fun _ _ _ h hsize hs => imageSize_step_iff h hsize hs) labels]
  constructor
  · intro h as b s hsub hs hstate
    exact h as (.callback b) s _ hsub hs rfl hstate
  · intro h as a s s' hsub hs _ hstate
    cases a with
    | callback b => exact h as b s hsub hs hstate
    | request => trivial
    | http => trivial
    | spurious => trivial

/-- A buffer of four million bytes in the middle of a frame. -/
def largeBuffer : MmalBuffer :=
  { config := false, codecSideInfo := false, keyframe := false, frameEnd := false
    payload := { data := fun _ => 0, length := 4000000 } }

/-- A request whose frame has two such buffers. -/
def overrunRun : List SnapLabel :=
  requestRun ++ [.http, .callback (frameEndBuffer 0), .callback (frameEndBuffer 1),
    .callback largeBuffer, .callback largeBuffer]

/-- **A frame of eight million bytes is written past the end of the image buffer.** -/
theorem image_overrun :
    ((exec snapStep snapInit overrunRun).map fun s => s.imageSize) = some 8000000 ∧
      imageMaxSize = 6220800 ∧
      ¬ ∀ as s, as <+: overrunRun → exec snapStep snapInit as = some s →
        s.imageSize ≤ imageMaxSize := by
  have hsize : ((exec snapStep snapInit overrunRun).map fun s => s.imageSize) = some 8000000 := by
    decide +kernel
  refine ⟨hsize, by decide, fun h => ?_⟩
  obtain ⟨s, hs, hlarge⟩ := Option.map_eq_some_iff.mp hsize
  have hle := h overrunRun s List.prefix_rfl hs
  rw [hlarge] at hle
  exact absurd hle (by decide)

end CameraDaemon
