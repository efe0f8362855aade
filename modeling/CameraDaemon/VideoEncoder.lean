import CameraDaemon.Http.Handlers
import CameraDaemon.Lib.Run

/-!
# The video encoder and its sessions

`video_encoder_output_callback` saves the CONFIG buffer as the stream header, writes the video
buffers to the live client and gives them to `srtp_sender_callback` while a receiver is active.  Each
of the two uses has a gate, a static variable that a keyframe opens.  The gate of the receiver is
closed by a video buffer that finds no receiver, and by nothing else: a session that is stopped and
started again, or started over, between two video buffers finds the gate open.

Handlers and callbacks are atomic here.  What the sessions depend on (`SrtpView`) moves by itself,
whatever the packets and the live client do, so the content of a session is computed there.

## Main definitions

* `videoEncoderOutputCallback` — the callback.
* `Camera`, `cameraStep` — the daemon with its casts, stops, live requests and encoder buffers.
* `SrtpView`, `viewStep` — the stream header, the flag, the gate, and the blocks that were sent.
* `SessionsRight` — every session has the content it should have, and nothing is sent outside one.
* `KeyframeFirst` — a cast that finds the gate open is followed by a keyframe.

## Main results

* `cameraStep_view` — the camera follows the view.
* `foldl_viewStep_session`, `foldl_viewStep_idle` — what is sent inside a session, and outside.
* `sessionsRight_iff` — **sessions have the right content exactly when a keyframe comes first
  wherever a cast has found the gate open.**
* `recast_without_keyframe` — a session that starts in the middle of a group of pictures.
-/

namespace CameraDaemon

open CString Transition

/-! ### The callback -/

/-- The daemon with the static variables of the callback. -/
structure Camera where
  daemon : Daemon
  /-- `frame_start`, which is `1` or `-1`. -/
  frameStart : Bool
  /-- `srtp_frame_start`, which is `1` or `-1`. -/
  srtpFrameStart : Bool
  /-- What was written to `client_fd`, latest first. -/
  written : List (ℕ × List UInt8)
  /-- The blocks given to `srtp_sender_callback`, in order. -/
  sent : List (List UInt8)

/-- The CONFIG branch: the header is saved once, and a second one fails the assertion. -/
def saveHeader (env : ServerEnv) (b : MmalBuffer) (c : Camera) : Option Camera :=
  if c.daemon.streamHeader.isSome then none
  else some { c with
    daemon := { c.daemon with streamHeader := some (b.payload.copy env.staleHeap) } }

/-- The live branch; `writeOk` says whether the `write` succeeds. -/
def liveBranch (b : MmalBuffer) (writeOk : Bool) (c : Camera) : Camera :=
  if c.daemon.haveActiveClient then
    if c.frameStart || b.keyframe then
      if writeOk then
        { c with
          frameStart := true
          written := (c.daemon.clientFd, b.payload.bytes) :: c.written }
      else
        { c with frameStart := false, daemon := { c.daemon with haveActiveClient := false } }
    else c
  else c

/-- `srtp_sender_callback` on a block; `none` when its behaviour is undefined. -/
def giveBlock (crypto : SrtpCrypto) (block : Block) (c : Camera) : Option Camera :=
  let result := srtpSenderCallback crypto block.data block.length c.daemon.world.ctx
  if result.1 = .returned then
    some { c with
      daemon := { c.daemon with world := { c.daemon.world with ctx := result.2.1 } }
      sent := c.sent ++ [block.bytes] }
  else none

/-- The branch of the receiver. -/
def srtpBranch (crypto : SrtpCrypto) (b : MmalBuffer) (c : Camera) : Option Camera :=
  if c.daemon.haveActiveSrtpReceiver then
    if c.srtpFrameStart || b.keyframe then
      giveBlock crypto b.payload { c with srtpFrameStart := true }
    else some c
  else some { c with srtpFrameStart := false }

/-- `video_encoder_output_callback`. -/
def videoEncoderOutputCallback (env : ServerEnv) (b : MmalBuffer) (writeOk : Bool) (c : Camera) :
    Option Camera :=
  if b.config then saveHeader env b c
  else if b.codecSideInfo then some c
  else srtpBranch env.crypto b (liveBranch b writeOk c)

/-! ### The camera -/

/-- What happens to the camera. -/
inductive CameraEvent
  /-- A cast whose body holds these values. -/
  | cast (args : CastArgs)
  | stop (fd : ℕ)
  | live (fd : ℕ)
  | buffer (b : MmalBuffer) (writeOk : Bool)

/-- One event.  A cast counts when it succeeds; what ends the process ends the run. -/
def cameraStep (env : ServerEnv) (c : Camera) : CameraEvent → Option Camera
  | .cast args =>
    if (startSession env args c.daemon).dead.isSome then none
    else some { c with
      daemon := startSession env args c.daemon
      sent := c.sent ++ [c.daemon.header.bytes] }
  | .stop fd => some { c with daemon := getAction fd (ascii "/stop_srtp") c.daemon }
  | .live fd => some { c with daemon := getAction fd (ascii "/live") c.daemon }
  | .buffer b writeOk => videoEncoderOutputCallback env b writeOk c

/-- The camera as `main` starts it. -/
def cameraInit (os : FdTable OsObject) : Camera :=
  { daemon := daemonInit os, frameStart := false, srtpFrameStart := false, written := []
    sent := [] }

/-! ### What the sessions depend on -/

/-- The part of the camera that decides what is given to `srtp_sender_callback`. -/
structure SrtpView where
  header : List UInt8
  active : Bool
  gate : Bool
  sent : List (List UInt8)

def Camera.view (c : Camera) : SrtpView :=
  { header := c.daemon.header.bytes
    active := c.daemon.haveActiveSrtpReceiver
    gate := c.srtpFrameStart
    sent := c.sent }

/-- A video buffer at the gate. -/
def SrtpView.video (v : SrtpView) (b : MmalBuffer) : SrtpView :=
  if v.active then
    if v.gate || b.keyframe then { v with gate := true, sent := v.sent ++ [b.payload.bytes] }
    else v
  else { v with gate := false }

/-- Is the buffer neither CONFIG nor CODECSIDEINFO? -/
def MmalBuffer.isVideo (b : MmalBuffer) : Bool := !b.config && !b.codecSideInfo

/-- The event, as the sessions see it. -/
def viewStep (v : SrtpView) : CameraEvent → SrtpView
  | .cast _ => { v with active := true, sent := v.sent ++ [v.header] }
  | .stop _ => { v with active := false }
  | .live _ => v
  | .buffer b _ =>
    if b.config then { v with header := b.payload.bytes }
    else if b.codecSideInfo then v
    else v.video b

section View

variable {env : ServerEnv} {c c' : Camera}

/-- A cast that succeeds sets the flag and keeps the stream header. -/
theorem startSession_alive {args : CastArgs} {d : Daemon}
    (h : (startSession env args d).dead.isSome = false) :
    (startSession env args d).haveActiveSrtpReceiver = true ∧
      (startSession env args d).header = d.header := by
  rw [startSession] at h ⊢
  cases hprep : prepareSrtpSender env.system args d.world with
  | error e =>
    rw [hprep] at h
    cases h
  | ok w =>
    -- the header was sent, or its sending has ended the process
    rw [hprep] at h
    simp only [activate] at h ⊢
    split at h
    · next hret =>
      rw [if_pos hret]
      exact ⟨rfl, rfl⟩
    · cases h

/-- The live client is no concern of the sessions. -/
@[simp] theorem view_liveBranch (b : MmalBuffer) (writeOk : Bool) (c : Camera) :
    (liveBranch b writeOk c).view = c.view := by
  rw [liveBranch]
  split
  · split
    · split
      · rfl
      · rfl
    · rfl
  · rfl

theorem giveBlock_view {crypto : SrtpCrypto} {block : Block}
    (h : giveBlock crypto block c = some c') :
    c'.view = { c.view with sent := c.view.sent ++ [block.bytes] } := by
  simp only [giveBlock] at h
  split at h
  · cases h
    rfl
  · cases h

theorem srtpBranch_view {crypto : SrtpCrypto} {b : MmalBuffer}
    (h : srtpBranch crypto b c = some c') : c'.view = c.view.video b := by
  rw [srtpBranch] at h
  rw [SrtpView.video]
  split at h
  · next hactive =>
    rw [if_pos (show c.view.active = true from hactive)]
    split at h
    · next hgate =>
      rw [if_pos (show (c.view.gate || b.keyframe) = true from hgate)]
      exact giveBlock_view h
    · next hgate =>
      rw [if_neg (show ¬ (c.view.gate || b.keyframe) = true from hgate)]
      cases h
      rfl
  · next hactive =>
    rw [if_neg (show ¬ c.view.active = true from hactive)]
    cases h
    rfl

/-- **The camera follows the view.** -/
theorem cameraStep_view {e : CameraEvent} (h : cameraStep env c e = some c') :
    c'.view = viewStep c.view e := by
  cases e with
  | cast args =>
    rw [cameraStep] at h
    split at h
    · cases h
    · next halive =>
      cases h
      obtain ⟨hactive, hheader⟩ := startSession_alive (Bool.not_eq_true _ ▸ halive)
      simp only [Camera.view, viewStep, hactive, hheader]
  | stop fd =>
    cases h
    simp only [Camera.view, viewStep, getAction_stop]
    rfl
  | live fd =>
    cases h
    simp only [Camera.view, viewStep, getAction_live]
    rfl
  | buffer b writeOk =>
    rw [cameraStep, videoEncoderOutputCallback] at h
    rw [viewStep]
    split at h
    · next hconfig =>
      rw [if_pos hconfig]
      rw [saveHeader] at h
      split at h
      · cases h
      · cases h
        simp only [Camera.view, Daemon.header, Option.getD_some, Block.bytes_copy]
    · next hconfig =>
      rw [if_neg hconfig]
      split at h
      · next hside =>
        rw [if_pos hside]
        cases h
        rfl
      · next hside =>
        rw [if_neg hside, ← view_liveBranch b writeOk c]
        exact srtpBranch_view h

theorem exec_view : ∀ (events : List CameraEvent) (c c' : Camera),
    exec (cameraStep env) c events = some c' → c'.view = events.foldl viewStep c.view := by
  intro events
  induction events with
  | nil =>
    intro c c' h
    cases h
    rfl
  | cons e events ih =>
    intro c c' h
    obtain ⟨d, hd, hrest⟩ := Option.bind_eq_some_iff.mp h
    rw [ih d c' hrest, cameraStep_view hd, List.foldl_cons]

end View

/-! ### The content of a session -/

/-- The video buffer that the event delivers, if it does. -/
def CameraEvent.videoBuffer : CameraEvent → Option MmalBuffer
  | .buffer b _ => if b.isVideo then some b else none
  | _ => none

/-- The video buffers among the events. -/
def videoBuffers (events : List CameraEvent) : List MmalBuffer :=
  events.filterMap CameraEvent.videoBuffer

/-- The buffers from the first keyframe on. -/
def fromKeyframe (bs : List MmalBuffer) : List MmalBuffer := bs.dropWhile fun b => !b.keyframe

/-- The stream header after an event. -/
def headerAfter (header : List UInt8) : CameraEvent → List UInt8
  | .buffer b _ => if b.config then b.payload.bytes else header
  | _ => header

/-- The bytes of the CONFIG buffer among the events. -/
def savedHeader (events : List CameraEvent) : List UInt8 := events.foldl headerAfter []

/-- Does the event leave a session as it is? -/
def CameraEvent.staysInSession : CameraEvent → Bool
  | .cast _ | .stop _ => false
  | .live _ | .buffer _ _ => true

def CameraEvent.isCast : CameraEvent → Bool
  | .cast _ => true
  | _ => false

/-- No session is open after these events: none was started, or a stop came last. -/
def EndsOutside (events : List CameraEvent) : Prop :=
  events = [] ∨ ∃ before fd, events = before ++ [.stop fd]

/-- What the sessions of a run are made of. -/
structure SessionsRight (env : ServerEnv) (os : FdTable OsObject) (events : List CameraEvent) :
    Prop where
  /-- From its cast on, a session is given the saved stream header and then the video buffers from
  the first keyframe on. -/
  inside : ∀ before args during c c', before ++ .cast args :: during <+: events →
    (∀ e ∈ during, e.staysInSession = true) →
    exec (cameraStep env) (cameraInit os) before = some c →
    exec (cameraStep env) c (.cast args :: during) = some c' →
    c'.sent = c.sent ++
      savedHeader before :: (fromKeyframe (videoBuffers during)).map fun b => b.payload.bytes
  /-- From a stop, or the start, to the next cast nothing is sent. -/
  outside : ∀ before during c c', before ++ during <+: events → EndsOutside before →
    (∀ e ∈ during, e.isCast = false) →
    exec (cameraStep env) (cameraInit os) before = some c →
    exec (cameraStep env) c during = some c' → c'.sent = c.sent

/-- Where a cast finds the gate open, the first video buffer of the session is a keyframe. -/
def KeyframeFirst (env : ServerEnv) (os : FdTable OsObject) (events : List CameraEvent) : Prop :=
  ∀ before args during c, before ++ .cast args :: during <+: events →
    (∀ e ∈ during, e.staysInSession = true) →
    exec (cameraStep env) (cameraInit os) before = some c → c.srtpFrameStart = true →
    ∀ b, (videoBuffers during).head? = some b → b.keyframe = true

section Content

variable (v : SrtpView) {b : MmalBuffer} (writeOk : Bool)

theorem viewStep_video (hb : b.isVideo = true) : viewStep v (.buffer b writeOk) = v.video b := by
  rw [MmalBuffer.isVideo, Bool.and_eq_true, Bool.not_eq_true', Bool.not_eq_true'] at hb
  simp only [viewStep, hb.1, hb.2, Bool.false_eq_true, if_false]

/-- A buffer that is not video changes the stream header at most. -/
theorem viewStep_not_video (hb : b.isVideo = false) :
    viewStep v (.buffer b writeOk) =
      { v with header := headerAfter v.header (.buffer b writeOk) } := by
  simp only [viewStep, headerAfter]
  split
  · rfl
  · next hconfig =>
    have hside : b.codecSideInfo = true := by simpa [MmalBuffer.isVideo, hconfig] using hb
    rw [if_pos hside]

theorem videoBuffers_buffer (b : MmalBuffer) (events : List CameraEvent) :
    videoBuffers (.buffer b writeOk :: events) =
      if b.isVideo then b :: videoBuffers events else videoBuffers events := by
  cases hb : b.isVideo with
  | true => simp [videoBuffers, CameraEvent.videoBuffer, hb]
  | false => simp [videoBuffers, CameraEvent.videoBuffer, hb]

/-- The buffers that pass the gate: all of them if it is open, else those from the first keyframe
on. -/
def throughGate (gate : Bool) (bs : List MmalBuffer) : List MmalBuffer :=
  if gate then bs else fromKeyframe bs

theorem throughGate_cons (gate : Bool) (b : MmalBuffer) (bs : List MmalBuffer) :
    throughGate gate (b :: bs) =
      if gate || b.keyframe then b :: bs else throughGate gate bs := by
  cases gate with
  | true => rfl
  | false =>
    cases hb : b.keyframe with
    | true => simp [throughGate, fromKeyframe, hb]
    | false => simp [throughGate, fromKeyframe, hb]

/-- **What is sent in a session** is the video buffers that pass the gate. -/
theorem foldl_viewStep_session : ∀ (during : List CameraEvent) (v : SrtpView),
    v.active = true → (∀ e ∈ during, e.staysInSession = true) →
    (during.foldl viewStep v).sent =
      v.sent ++ (throughGate v.gate (videoBuffers during)).map fun b => b.payload.bytes := by
  intro during
  induction during with
  | nil =>
    intro v _ _
    simp [videoBuffers, throughGate, fromKeyframe]
  | cons e during ih =>
    intro v hactive hstays
    have hrest := fun e' he' => hstays e' (List.mem_cons_of_mem e he')
    rw [List.foldl_cons]
    cases e with
    | cast args => cases hstays _ List.mem_cons_self
    | stop fd => cases hstays _ List.mem_cons_self
    | live fd => exact ih v hactive hrest
    | buffer b writeOk =>
      rw [videoBuffers_buffer]
      cases hb : b.isVideo with
      | false =>
        rw [viewStep_not_video v writeOk hb]
        exact ih _ hactive hrest
      | true =>
        rw [viewStep_video v writeOk hb, SrtpView.video, if_pos hactive, if_pos rfl,
          throughGate_cons]
        split
        · -- the buffer is sent, and the gate is open from now on
          rw [ih { v with gate := true, sent := v.sent ++ [b.payload.bytes] } hactive hrest]
          simp [throughGate]
        · exact ih v hactive hrest

/-- **Nothing is sent outside a session.** -/
theorem foldl_viewStep_idle : ∀ (during : List CameraEvent) (v : SrtpView), v.active = false →
    (∀ e ∈ during, e.isCast = false) → (during.foldl viewStep v).sent = v.sent := by
  intro during
  induction during with
  | nil => exact fun v _ _ => rfl
  | cons e during ih =>
    intro v hidle hcast
    have hrest := fun e' he' => hcast e' (List.mem_cons_of_mem e he')
    rw [List.foldl_cons]
    cases e with
    | cast args => cases hcast _ List.mem_cons_self
    | stop fd => exact ih _ rfl hrest
    | live fd => exact ih v hidle hrest
    | buffer b writeOk =>
      cases hb : b.isVideo with
      | false =>
        rw [viewStep_not_video v writeOk hb]
        exact ih _ hidle hrest
      | true =>
        rw [viewStep_video v writeOk hb, SrtpView.video, if_neg (by simp [hidle])]
        exact ih _ hidle hrest

theorem viewStep_header (e : CameraEvent) : (viewStep v e).header = headerAfter v.header e := by
  cases e with
  | cast args => rfl
  | stop fd => rfl
  | live fd => rfl
  | buffer b writeOk =>
    cases hb : b.isVideo with
    | false => rw [viewStep_not_video v writeOk hb]
    | true =>
      have hconfig : ¬ b.config = true := by
        intro h
        simp [MmalBuffer.isVideo, h] at hb
      rw [viewStep_video v writeOk hb, headerAfter, if_neg hconfig, SrtpView.video]
      split
      · split
        · rfl
        · rfl
      · rfl

theorem foldl_viewStep_header (events : List CameraEvent) :
    ∀ v : SrtpView, (events.foldl viewStep v).header = events.foldl headerAfter v.header := by
  induction events with
  | nil => exact fun v => rfl
  | cons e events ih =>
    intro v
    rw [List.foldl_cons, List.foldl_cons, ih, viewStep_header]

end Content

section Sessions

variable {env : ServerEnv} {os : FdTable OsObject} {before during : List CameraEvent}
  {c c' : Camera}

/-- What a session is given, gate open or closed. -/
theorem session_sent {args : CastArgs} (hstays : ∀ e ∈ during, e.staysInSession = true)
    (hbefore : exec (cameraStep env) (cameraInit os) before = some c)
    (hduring : exec (cameraStep env) c (.cast args :: during) = some c') :
    c'.sent = c.sent ++ savedHeader before ::
      (throughGate c.srtpFrameStart (videoBuffers during)).map fun b => b.payload.bytes := by
  have hheader : c.view.header = savedHeader before := by
    rw [exec_view _ _ _ hbefore, foldl_viewStep_header]
    rfl
  have hsent : c'.sent = ((CameraEvent.cast args :: during).foldl viewStep c.view).sent :=
    congrArg SrtpView.sent (exec_view _ _ _ hduring)
  rw [hsent, List.foldl_cons, foldl_viewStep_session during _ rfl hstays, ← hheader]
  simp only [viewStep, List.append_assoc, List.singleton_append]
  rfl

/-- Outside a session nothing is sent. -/
theorem outside_sent (hends : EndsOutside before) (hcast : ∀ e ∈ during, e.isCast = false)
    (hbefore : exec (cameraStep env) (cameraInit os) before = some c)
    (hduring : exec (cameraStep env) c during = some c') : c'.sent = c.sent := by
  have hidle : c.view.active = false := by
    rw [exec_view _ _ _ hbefore]
    rcases hends with rfl | ⟨before', fd, rfl⟩
    · rfl
    · rw [List.foldl_append]
      rfl
  have hsent : c'.sent = (during.foldl viewStep c.view).sent :=
    congrArg SrtpView.sent (exec_view _ _ _ hduring)
  rw [hsent, foldl_viewStep_idle during _ hidle hcast]
  rfl

end Sessions

/-- The open gate does no harm exactly when the buffers begin with a keyframe. -/
theorem length_fromKeyframe_iff (bs : List MmalBuffer) :
    (fromKeyframe bs).length = bs.length ↔ ∀ b, bs.head? = some b → b.keyframe = true := by
  cases bs with
  | nil => simp [fromKeyframe]
  | cons b bs =>
    have hcons : fromKeyframe (b :: bs) = if b.keyframe then b :: bs else fromKeyframe bs :=
      throughGate_cons false b bs
    have hle : (fromKeyframe bs).length ≤ bs.length := (List.dropWhile_suffix _).length_le
    rw [hcons]
    split
    · next hkey => simp [hkey]
    · next hkey =>
      refine iff_of_false ?_ fun h => hkey (h b rfl)
      rw [List.length_cons]
      omega

theorem fromKeyframe_eq_self {bs : List MmalBuffer}
    (h : ∀ b, bs.head? = some b → b.keyframe = true) : fromKeyframe bs = bs :=
  (List.dropWhile_suffix _).eq_of_length ((length_fromKeyframe_iff bs).mpr h)

/-- **The sessions of a run have the right content exactly when a keyframe comes first wherever a cast
has found the gate open.** -/
theorem sessionsRight_iff {env : ServerEnv} {os : FdTable OsObject} {events : List CameraEvent}
    {last : Camera} (hrun : exec (cameraStep env) (cameraInit os) events = some last) :
    SessionsRight env os events ↔ KeyframeFirst env os events := by
  constructor
  · intro hright before args during c hevents hstays hbefore hgate
    -- the session of the run, executed up to the end of `during`
    obtain ⟨c', hduring⟩ := exists_exec_part hrun hevents hbefore
    have hgiven := session_sent hstays hbefore hduring
    rw [hright.inside before args during c c' hevents hstays hbefore hduring, hgate] at hgiven
    -- payloads may coincide, the number of blocks does not
    have hlength := congrArg List.length hgiven
    simp only [throughGate, if_true, List.length_append, List.length_cons, List.length_map]
      at hlength
    exact (length_fromKeyframe_iff _).mp (by omega)
  · intro hfirst
    refine ⟨fun before args during c c' hevents hstays hbefore hduring => ?_,
      fun before during c c' _ hends hcast hbefore hduring =>
        outside_sent hends hcast hbefore hduring⟩
    rw [session_sent hstays hbefore hduring]
    cases hgate : c.srtpFrameStart with
    | false => rfl
    | true =>
      rw [fromKeyframe_eq_self (hfirst before args during c hevents hstays hbefore hgate)]
      rfl

/-! ### A session in the middle of a group of pictures -/

/-- A buffer of one byte. -/
def oneByteBuffer (keyframe config : Bool) (byte : UInt8) : MmalBuffer :=
  { config := config, codecSideInfo := false, keyframe := keyframe, frameEnd := true
    payload := Block.ofList [byte] }

/-- The CONFIG buffer, a session with a keyframe, and a session that is started before the next
buffer comes, which is no keyframe. -/
def recastEvents : List CameraEvent :=
  [.buffer (oneByteBuffer false true 1) true, .cast (castTo 5004 1),
    .buffer (oneByteBuffer true false 2) true, .stop 4, .cast (castTo 5006 2),
    .buffer (oneByteBuffer false false 3) true]

/-- **A session that is started between two buffers of another is sent no keyframe first.** -/
theorem recast_without_keyframe :
    (exec (cameraStep sampleEnv) (cameraInit []) recastEvents).map Camera.sent =
        some [[1], [2], [1], [3]] ∧
      ¬ SessionsRight sampleEnv [] recastEvents := by
  have hsent : (exec (cameraStep sampleEnv) (cameraInit []) recastEvents).map Camera.sent =
      some [[1], [2], [1], [3]] := by
    decide +kernel
  have hfirst : (exec (cameraStep sampleEnv) (cameraInit []) (recastEvents.take 4)).map Camera.sent =
      some [[1], [2]] := by
    decide +kernel
  refine ⟨hsent, fun hright => ?_⟩
  obtain ⟨c, hc, hcsent⟩ := Option.map_eq_some_iff.mp hfirst
  obtain ⟨c', hc', hcsent'⟩ := Option.map_eq_some_iff.mp hsent
  rw [show recastEvents = recastEvents.take 4 ++ recastEvents.drop 4 from rfl, exec_append, hc,
    Option.bind_some] at hc'
  have hinside := hright.inside (recastEvents.take 4) (castTo 5006 2) (recastEvents.drop 5) c c'
    List.prefix_rfl (by decide) hc hc'
  rw [hcsent, hcsent'] at hinside
  exact absurd hinside (by decide)

theorem sessionsRight_iff_one :
    ∃ last, exec (cameraStep sampleEnv) (cameraInit []) (recastEvents.take 4) = some last ∧
      (SessionsRight sampleEnv [] (recastEvents.take 4) ↔
        KeyframeFirst sampleEnv [] (recastEvents.take 4)) := by
  have hrun : (exec (cameraStep sampleEnv) (cameraInit []) (recastEvents.take 4)).isSome = true := by
    decide +kernel
  obtain ⟨last, hlast⟩ := Option.isSome_iff_exists.mp hrun
  exact ⟨last, hlast, sessionsRight_iff hlast⟩

end CameraDaemon
