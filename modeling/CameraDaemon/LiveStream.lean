import CameraDaemon.VideoEncoder

/-!
# The live streams

A `/live` request is answered with an HTTP header and the saved stream header; from then on the
video buffers are written to its connection, until a write fails or another request takes the stream
over.  The gate of the live branch, `frame_start`, is opened by a keyframe and closed by a failed
write, and by nothing else: a request that takes over a stream finds it open.

The camera of `VideoEncoder` keeps the successful writes of the callback.  Here every call of
`write` on a live connection is kept, those of the response included.  The outcome of the response
is ignored by the source and taken as a success.

## Main definitions

* `liveWrites` — the calls of `write` that an event makes on live connections.
* `Feed`, `feedStep` — the camera together with these calls.
* `LiveView`, `liveViewStep` — the part of the camera that decides them.
* `StreamsRight` — every stream has the content it should have, and nothing follows its end.
* `LiveKeyframeFirst` — a request that finds the gate open is followed by a keyframe.

## Main results

* `feedStep_view` — the camera follows the view.
* `foldl_liveViewStep_stream`, `foldl_liveViewStep_ended` — what is written to a stream, and after
  it.
* `streamsRight_iff` — **streams have the right content exactly when a keyframe comes first wherever
  a request has found the gate open.**
* `takeover_without_keyframe` — a stream taken over in the middle of a group of pictures.
-/

namespace CameraDaemon

open CString Transition

/-! ### The writes -/

/-- A call of `write` on a live connection, and whether it succeeds. -/
structure FeedWrite where
  fd : ℕ
  bytes : List UInt8
  ok : Bool
  deriving DecidableEq, Repr

/-- `http_header`, as `/live` prints it. -/
def liveHttpHeader : List UInt8 :=
  ascii "HTTP/1.1 200 OK\r\nContent-Type: video/h264\r\nConnection: keep-alive\r\n\r\n"

/-- The response to `/live`: the HTTP header, then the stream header. -/
def liveResponse (fd : ℕ) (streamHeader : List UInt8) : List FeedWrite :=
  [{ fd := fd, bytes := liveHttpHeader, ok := true },
    { fd := fd, bytes := streamHeader, ok := true }]

/-- The response is taken to arrive. -/
theorem liveResponse_ok {fd : ℕ} {streamHeader : List UInt8} {w : FeedWrite}
    (hw : w ∈ liveResponse fd streamHeader) : w.ok = true := by
  simp only [liveResponse, List.mem_cons, List.not_mem_nil, or_false] at hw
  rcases hw with rfl | rfl
  · rfl
  · rfl

/-- Does the live branch write the buffer? -/
def Camera.writesLive (c : Camera) (b : MmalBuffer) : Bool :=
  b.isVideo && (c.daemon.haveActiveClient && (c.frameStart || b.keyframe))

/-- The calls of `write` on live connections that the event makes. -/
def liveWrites (c : Camera) : CameraEvent → List FeedWrite
  | .live fd => liveResponse fd c.daemon.header.bytes
  | .buffer b writeOk =>
    if c.writesLive b then
      [{ fd := c.daemon.clientFd, bytes := b.payload.bytes, ok := writeOk }]
    else []
  | .cast _ | .stop _ => []

/-- The camera and the calls of `write` on live connections so far, in order. -/
structure Feed where
  camera : Camera
  writes : List FeedWrite

/-- One event. -/
def feedStep (env : ServerEnv) (s : Feed) (e : CameraEvent) : Option Feed :=
  (cameraStep env s.camera e).map fun c =>
    { camera := c, writes := s.writes ++ liveWrites s.camera e }

theorem feedStep_of_cameraStep {env : ServerEnv} {s : Feed} {e : CameraEvent} {c : Camera}
    (h : cameraStep env s.camera e = some c) :
    feedStep env s e = some { camera := c, writes := s.writes ++ liveWrites s.camera e } := by
  rw [feedStep, h, Option.map_some]

/-- The camera as `main` starts it, and no writes. -/
def feedInit (os : FdTable OsObject) : Feed := { camera := cameraInit os, writes := [] }

theorem isVideo_iff (b : MmalBuffer) :
    b.isVideo = true ↔ b.config = false ∧ b.codecSideInfo = false := by
  rw [MmalBuffer.isVideo, Bool.and_eq_true, Bool.not_eq_true', Bool.not_eq_true']

/-- The branch of the receiver leaves the live client alone. -/
theorem srtpBranch_live {crypto : SrtpCrypto} {b : MmalBuffer} {c c' : Camera}
    (h : srtpBranch crypto b c = some c') :
    c'.daemon.streamHeader = c.daemon.streamHeader ∧
      c'.daemon.haveActiveClient = c.daemon.haveActiveClient ∧
      c'.daemon.clientFd = c.daemon.clientFd ∧ c'.frameStart = c.frameStart ∧
      c'.written = c.written := by
  unfold srtpBranch giveBlock at h
  split at h
  · split at h
    · -- the buffer is given to `srtp_sender_callback`, which must return
      simp only at h
      split at h
      · cases h
        exact ⟨rfl, rfl, rfl, rfl, rfl⟩
      · cases h
    · cases h
      exact ⟨rfl, rfl, rfl, rfl, rfl⟩
  · cases h
    exact ⟨rfl, rfl, rfl, rfl, rfl⟩

/-- The callback makes the calls listed: those that succeed are the ones it has written. -/
theorem videoEncoderOutputCallback_written {env : ServerEnv} {b : MmalBuffer} {writeOk : Bool}
    {c c' : Camera} (h : videoEncoderOutputCallback env b writeOk c = some c') :
    c'.written =
      ((liveWrites c (.buffer b writeOk)).filter FeedWrite.ok).map (fun w => (w.fd, w.bytes)) ++
        c.written := by
  unfold videoEncoderOutputCallback at h
  split at h
  · next hconfig =>
    have hvideo : b.isVideo = false := by simp [MmalBuffer.isVideo, hconfig]
    unfold saveHeader at h
    split at h
    · cases h
    · cases h
      simp [liveWrites, Camera.writesLive, hvideo]
  split at h
  · next hside =>
    have hvideo : b.isVideo = false := by simp [MmalBuffer.isVideo, hside]
    cases h
    simp [liveWrites, Camera.writesLive, hvideo]
  · next hconfig hside =>
    have hvideo : b.isVideo = true :=
      (isVideo_iff b).mpr ⟨Bool.not_eq_true _ ▸ hconfig, Bool.not_eq_true _ ▸ hside⟩
    rw [(srtpBranch_live h).2.2.2.2, liveBranch]
    by_cases hactive : c.daemon.haveActiveClient = true
    · by_cases hgate : (c.frameStart || b.keyframe) = true
      · cases writeOk with
        | true => simp [liveWrites, Camera.writesLive, hvideo, hactive, hgate]
        | false => simp [liveWrites, Camera.writesLive, hvideo, hactive, hgate]
      · simp [liveWrites, Camera.writesLive, hvideo, hactive, hgate]
    · simp [liveWrites, Camera.writesLive, hvideo, hactive]

/-! ### What the streams depend on -/

/-- The part of the camera that decides what is written to live connections. -/
structure LiveView where
  header : Option Block
  active : Bool
  fd : ℕ
  gate : Bool
  writes : List FeedWrite

/-- The bytes of the stream header, none before it is saved. -/
def LiveView.headerBytes (v : LiveView) : List UInt8 := (v.header.getD Block.null).bytes

def Feed.view (s : Feed) : LiveView :=
  { header := s.camera.daemon.streamHeader
    active := s.camera.daemon.haveActiveClient
    fd := s.camera.daemon.clientFd
    gate := s.camera.frameStart
    writes := s.writes }

/-- A video buffer at the gate; a failed write closes the gate and ends the stream. -/
def LiveView.video (v : LiveView) (b : MmalBuffer) (writeOk : Bool) : LiveView :=
  if v.active && (v.gate || b.keyframe) then
    { v with
      active := writeOk
      gate := writeOk
      writes := v.writes ++ [{ fd := v.fd, bytes := b.payload.bytes, ok := writeOk }] }
  else v

/-- The event, as the streams see it. -/
def liveViewStep (env : ServerEnv) (v : LiveView) : CameraEvent → LiveView
  | .cast _ | .stop _ => v
  | .live fd =>
    { v with active := true, fd := fd, writes := v.writes ++ liveResponse fd v.headerBytes }
  | .buffer b writeOk =>
    if b.config then { v with header := some (b.payload.copy env.staleHeap) }
    else if b.codecSideInfo then v
    else v.video b writeOk

section View

variable {env : ServerEnv} {s s' : Feed}

/-- A video buffer, as the live branch treats it. -/
theorem liveBranch_view (s : Feed) {b : MmalBuffer} (hvideo : b.isVideo = true)
    (writeOk : Bool) :
    ({ camera := liveBranch b writeOk s.camera
       writes := s.writes ++ liveWrites s.camera (.buffer b writeOk) } : Feed).view =
      s.view.video b writeOk := by
  by_cases hactive : s.camera.daemon.haveActiveClient = true
  · by_cases hgate : (s.camera.frameStart || b.keyframe) = true
    · cases writeOk with
      | true =>
        simp [Feed.view, LiveView.video, liveBranch, liveWrites, Camera.writesLive, hvideo,
          hactive, hgate]
      | false =>
        simp [Feed.view, LiveView.video, liveBranch, liveWrites, Camera.writesLive, hvideo,
          hactive, hgate]
    · simp [Feed.view, LiveView.video, liveBranch, liveWrites, Camera.writesLive, hvideo,
        hactive, hgate]
  · simp [Feed.view, LiveView.video, liveBranch, liveWrites, Camera.writesLive, hvideo,
      hactive]

/-- **The camera follows the view.** -/
theorem feedStep_view {e : CameraEvent} (h : feedStep env s e = some s') :
    s'.view = liveViewStep env s.view e := by
  obtain ⟨c, hc, rfl⟩ := Option.map_eq_some_iff.mp h
  cases e with
  | cast args =>
    have hkeeps := startSession_keeps env args s.camera.daemon
    rw [cameraStep] at hc
    split at hc
    · cases hc
    · cases hc
      simp only [Feed.view, liveViewStep, liveWrites, List.append_nil, hkeeps.streamHeader,
        hkeeps.haveActiveClient, hkeeps.clientFd]
  | stop fd =>
    cases hc
    simp only [Feed.view, liveViewStep, liveWrites, List.append_nil, getAction_stop]
  | live fd =>
    cases hc
    simp only [Feed.view, liveViewStep, getAction_live]
    rfl
  | buffer b writeOk =>
    rw [cameraStep, videoEncoderOutputCallback] at hc
    rw [liveViewStep]
    split at hc
    · next hconfig =>
      have hvideo : b.isVideo = false := by simp [MmalBuffer.isVideo, hconfig]
      rw [if_pos hconfig]
      unfold saveHeader at hc
      split at hc
      · cases hc
      · cases hc
        simp [Feed.view, liveWrites, Camera.writesLive, hvideo]
    · next hconfig =>
      rw [if_neg hconfig]
      split at hc
      · next hside =>
        have hvideo : b.isVideo = false := by simp [MmalBuffer.isVideo, hside]
        rw [if_pos hside]
        cases hc
        simp [Feed.view, liveWrites, Camera.writesLive, hvideo]
      · next hside =>
        -- the branch of the receiver comes second and does not matter
        have hvideo : b.isVideo = true :=
          (isVideo_iff b).mpr ⟨Bool.not_eq_true _ ▸ hconfig, Bool.not_eq_true _ ▸ hside⟩
        obtain ⟨hheader, hclient, hfd, hgate, -⟩ := srtpBranch_live hc
        rw [if_neg hside, ← liveBranch_view s hvideo writeOk]
        simp only [Feed.view, hheader, hclient, hfd, hgate]

theorem exec_liveView : ∀ (events : List CameraEvent) (s s' : Feed),
    exec (feedStep env) s events = some s' → s'.view = events.foldl (liveViewStep env) s.view := by
  intro events
  induction events with
  | nil =>
    intro s s' h
    cases h
    rfl
  | cons e events ih =>
    intro s s' h
    obtain ⟨t, ht, hrest⟩ := Option.bind_eq_some_iff.mp h
    rw [ih t s' hrest, feedStep_view ht, List.foldl_cons]

end View

/-! ### The content of a stream -/

def CameraEvent.isLive : CameraEvent → Bool
  | .live _ => true
  | _ => false

/-- The writes to `fd` from a state of the gate on, up to the one that fails. -/
def streamWrites (fd : ℕ) : (gate : Bool) → List CameraEvent → List FeedWrite
  | _, [] => []
  | gate, .buffer b writeOk :: events =>
    if b.isVideo && (gate || b.keyframe) then
      { fd := fd, bytes := b.payload.bytes, ok := writeOk } ::
        if writeOk then streamWrites fd true events else []
    else streamWrites fd gate events
  | gate, _ :: events => streamWrites fd gate events

/-- What a stream should be: the response, and then each of the buffers. -/
def streamOf (fd : ℕ) (streamHeader : List UInt8) (bs : List MmalBuffer) : List FeedWrite :=
  liveResponse fd streamHeader ++
    bs.map fun b => { fd := fd, bytes := b.payload.bytes, ok := true }

/-- What the streams of a run are made of. -/
structure StreamsRight (env : ServerEnv) (os : FdTable OsObject) (events : List CameraEvent) :
    Prop where
  /-- From its request on, as long as no request takes it over and no write fails, a stream is the
  response with the saved stream header and then the video buffers from the first keyframe on. -/
  inside : ∀ before fd during s s' ws, before ++ .live fd :: during <+: events →
    (∀ e ∈ during, e.isLive = false) →
    exec (feedStep env) (feedInit os) before = some s →
    exec (feedStep env) s (.live fd :: during) = some s' →
    s'.writes = s.writes ++ ws → (∀ w ∈ ws, w.ok = true) →
    ws = streamOf fd (savedHeader before) (fromKeyframe (videoBuffers during))
  /-- From a failed write, or the start, to the next request nothing is written. -/
  ended : ∀ before during s s', before ++ during <+: events →
    (∀ w, s.writes.getLast? = some w → w.ok = false) → (∀ e ∈ during, e.isLive = false) →
    exec (feedStep env) (feedInit os) before = some s →
    exec (feedStep env) s during = some s' → s'.writes = s.writes

/-- Where a request finds the gate open, the first video buffer of its stream is a keyframe, unless
its write fails. -/
def LiveKeyframeFirst (env : ServerEnv) (os : FdTable OsObject) (events : List CameraEvent) :
    Prop :=
  ∀ before fd quiet b s, before ++ .live fd :: (quiet ++ [.buffer b true]) <+: events →
    (∀ e ∈ quiet, e.isLive = false ∧ e.videoBuffer = none) → b.isVideo = true →
    exec (feedStep env) (feedInit os) before = some s → s.camera.frameStart = true →
    b.keyframe = true

section Content

variable {env : ServerEnv}

theorem liveViewStep_video (v : LiveView) {b : MmalBuffer} (hb : b.isVideo = true)
    (writeOk : Bool) : liveViewStep env v (.buffer b writeOk) = v.video b writeOk := by
  obtain ⟨hconfig, hside⟩ := (isVideo_iff b).mp hb
  simp only [liveViewStep, hconfig, hside, Bool.false_eq_true, if_false]

/-- A buffer that is not video changes the stream header at most. -/
theorem liveViewStep_not_video (env : ServerEnv) (v : LiveView) {b : MmalBuffer}
    (hb : b.isVideo = false) (writeOk : Bool) :
    ∃ header, liveViewStep env v (.buffer b writeOk) = { v with header := header } := by
  by_cases hconfig : b.config = true
  · refine ⟨some (b.payload.copy env.staleHeap), ?_⟩
    simp only [liveViewStep, hconfig, if_true]
  · have hside : b.codecSideInfo = true := by simpa [MmalBuffer.isVideo, hconfig] using hb
    refine ⟨v.header, ?_⟩
    simp only [liveViewStep, hconfig, hside, if_true, Bool.false_eq_true, if_false]

/-- Once the stream has ended nothing is written before the next request. -/
theorem foldl_liveViewStep_ended : ∀ (during : List CameraEvent) (v : LiveView),
    v.active = false → (∀ e ∈ during, e.isLive = false) →
    (during.foldl (liveViewStep env) v).writes = v.writes := by
  intro during
  induction during with
  | nil =>
    intro v _ _
    rfl
  | cons e during ih =>
    intro v hended hlive
    have hrest : ∀ e' ∈ during, e'.isLive = false :=
      fun e' he' => hlive e' (List.mem_cons_of_mem e he')
    rw [List.foldl_cons]
    cases e with
    | cast args => exact ih v hended hrest
    | stop fd => exact ih v hended hrest
    | live fd => cases hlive _ List.mem_cons_self
    | buffer b writeOk =>
      cases hb : b.isVideo with
      | false =>
        obtain ⟨header, hstep⟩ := liveViewStep_not_video env v hb writeOk
        rw [hstep]
        exact ih { v with header := header } hended hrest
      | true =>
        have hstays : v.video b writeOk = v := by
          rw [LiveView.video, hended]
          rfl
        rw [liveViewStep_video v hb, hstays]
        exact ih v hended hrest

/-- **What is written to a stream**, gate open or closed. -/
theorem foldl_liveViewStep_stream : ∀ (during : List CameraEvent) (v : LiveView),
    v.active = true → (∀ e ∈ during, e.isLive = false) →
    (during.foldl (liveViewStep env) v).writes = v.writes ++ streamWrites v.fd v.gate during := by
  intro during
  induction during with
  | nil =>
    intro v _ _
    simp [streamWrites]
  | cons e during ih =>
    intro v hactive hlive
    have hrest : ∀ e' ∈ during, e'.isLive = false :=
      fun e' he' => hlive e' (List.mem_cons_of_mem e he')
    rw [List.foldl_cons]
    cases e with
    | cast args => exact ih v hactive hrest
    | stop fd => exact ih v hactive hrest
    | live fd => cases hlive _ List.mem_cons_self
    | buffer b writeOk =>
      rw [streamWrites]
      cases hb : b.isVideo with
      | false =>
        obtain ⟨header, hstep⟩ := liveViewStep_not_video env v hb writeOk
        rw [hstep, if_neg (by simp)]
        exact ih { v with header := header } hactive hrest
      | true =>
        rw [liveViewStep_video v hb, LiveView.video, hactive, Bool.true_and]
        by_cases hgate : (v.gate || b.keyframe) = true
        · rw [if_pos hgate, if_pos hgate]
          cases writeOk with
          | true =>
            -- the gate is open from now on
            rw [ih _ rfl hrest]
            simp
          | false =>
            rw [foldl_liveViewStep_ended during _ rfl hrest]
            simp
        · rw [if_neg hgate, if_neg hgate]
          exact ih v hactive hrest

/-- Events without video buffers write nothing to a stream. -/
theorem streamWrites_quiet (fd : ℕ) (gate : Bool) (events : List CameraEvent) :
    ∀ quiet : List CameraEvent, (∀ e ∈ quiet, e.videoBuffer = none) →
      streamWrites fd gate (quiet ++ events) = streamWrites fd gate events := by
  intro quiet
  induction quiet with
  | nil =>
    intro _
    rfl
  | cons e quiet ih =>
    intro hquiet
    have hrest := ih fun e' he' => hquiet e' (List.mem_cons_of_mem e he')
    cases e with
    | cast args => exact hrest
    | stop fd => exact hrest
    | live fd => exact hrest
    | buffer b writeOk =>
      have hb : b.isVideo = false := by
        have hnone := hquiet _ List.mem_cons_self
        simpa [CameraEvent.videoBuffer] using hnone
      rw [List.cons_append, streamWrites, hb, Bool.false_and, if_neg Bool.false_ne_true]
      exact hrest

/-- As long as no write fails, the writes are the video buffers that pass the gate. -/
theorem streamWrites_of_ok (fd : ℕ) : ∀ (events : List CameraEvent) (gate : Bool),
    (∀ w ∈ streamWrites fd gate events, w.ok = true) →
    streamWrites fd gate events =
      (throughGate gate (videoBuffers events)).map fun b =>
        { fd := fd, bytes := b.payload.bytes, ok := true } := by
  intro events
  induction events with
  | nil =>
    intro gate _
    cases gate with
    | true => rfl
    | false => rfl
  | cons e events ih =>
    intro gate hok
    cases e with
    | cast args => exact ih gate hok
    | stop fd' => exact ih gate hok
    | live fd' => exact ih gate hok
    | buffer b writeOk =>
      rw [streamWrites] at hok ⊢
      rw [videoBuffers_buffer]
      cases hb : b.isVideo with
      | false =>
        rw [hb, Bool.false_and, if_neg Bool.false_ne_true] at hok
        rw [Bool.false_and, if_neg Bool.false_ne_true, if_neg Bool.false_ne_true]
        exact ih gate hok
      | true =>
        rw [hb, Bool.true_and] at hok
        rw [Bool.true_and, if_pos rfl, throughGate_cons]
        by_cases hgate : (gate || b.keyframe) = true
        · rw [if_pos hgate] at hok ⊢
          have hwrite : writeOk = true := hok _ List.mem_cons_self
          subst hwrite
          rw [if_pos rfl] at hok
          have hrest := ih true fun w hw => hok w (List.mem_cons_of_mem _ hw)
          rw [if_pos hgate, if_pos rfl, hrest, List.map_cons]
          rfl
        · rw [if_neg hgate] at hok ⊢
          rw [if_neg hgate]
          exact ih gate hok

/-- The first video buffer, with the events before it. -/
theorem exists_first_video : ∀ {events : List CameraEvent} {b : MmalBuffer},
    (videoBuffers events).head? = some b →
    ∃ quiet writeOk rest, events = quiet ++ .buffer b writeOk :: rest ∧ b.isVideo = true ∧
      ∀ e ∈ quiet, e.videoBuffer = none := by
  intro events
  induction events with
  | nil =>
    intro b h
    cases h
  | cons e events ih =>
    intro b h
    cases he : e.videoBuffer with
    | none =>
      rw [videoBuffers, List.filterMap_cons_none he] at h
      obtain ⟨quiet, writeOk, rest, hevents, hb, hquiet⟩ := ih h
      refine ⟨e :: quiet, writeOk, rest, by rw [hevents, List.cons_append], hb, ?_⟩
      intro e' he'
      rcases List.mem_cons.mp he' with rfl | he'
      · exact he
      · exact hquiet e' he'
    | some b' =>
      rw [videoBuffers, List.filterMap_cons_some he, List.head?_cons, Option.some.injEq] at h
      subst h
      cases e with
      | cast args => cases he
      | stop fd => cases he
      | live fd => cases he
      | buffer b'' writeOk =>
        rw [CameraEvent.videoBuffer] at he
        split at he
        · next hb =>
          cases he
          refine ⟨[], writeOk, events, rfl, hb, ?_⟩
          intro e' he'
          cases he'
        · cases he

/-- The first video buffer of a stream whose gate is open is written. -/
theorem streamWrites_first (fd : ℕ) {quiet : List CameraEvent} {b : MmalBuffer}
    (hquiet : ∀ e ∈ quiet, e.videoBuffer = none) (hb : b.isVideo = true) (writeOk : Bool)
    (rest : List CameraEvent) :
    { fd := fd, bytes := b.payload.bytes, ok := writeOk } ∈
      streamWrites fd true (quiet ++ .buffer b writeOk :: rest) := by
  rw [streamWrites_quiet fd true _ quiet hquiet, streamWrites, hb, Bool.true_and, Bool.true_or,
    if_pos rfl]
  exact List.mem_cons_self

/-- With an open gate, as long as no write fails, the first video buffer is among the writes. -/
theorem exists_first_written {fd : ℕ} {events : List CameraEvent} {b : MmalBuffer}
    (hoks : ∀ w ∈ streamWrites fd true events, w.ok = true)
    (hb : (videoBuffers events).head? = some b) :
    ∃ quiet rest, events = quiet ++ .buffer b true :: rest ∧ b.isVideo = true ∧
      ∀ e ∈ quiet, e.videoBuffer = none := by
  obtain ⟨quiet, writeOk, rest, rfl, hvideo, hquiet⟩ := exists_first_video hb
  have hwrite : writeOk = true := hoks _ (streamWrites_first fd hquiet hvideo writeOk rest)
  subst hwrite
  exact ⟨quiet, rest, rfl, hvideo, hquiet⟩

/-- The only video buffer of a stream. -/
theorem videoBuffers_first {quiet : List CameraEvent} {b : MmalBuffer} (writeOk : Bool)
    (hquiet : ∀ e ∈ quiet, e.videoBuffer = none) (hb : b.isVideo = true) :
    videoBuffers (quiet ++ [.buffer b writeOk]) = [b] := by
  rw [videoBuffers, List.filterMap_append, List.filterMap_eq_nil_iff.mpr hquiet, List.nil_append]
  simp [CameraEvent.videoBuffer, hb]

/-- An open stream: its last write has succeeded. -/
def LiveView.LastOk (v : LiveView) : Prop :=
  v.active = true → ∃ w, v.writes.getLast? = some w ∧ w.ok = true

theorem liveViewStep_lastOk {v : LiveView} (h : v.LastOk) (e : CameraEvent) :
    (liveViewStep env v e).LastOk := by
  cases e with
  | cast args => exact h
  | stop fd => exact h
  | live fd =>
    intro _
    refine ⟨{ fd := fd, bytes := v.headerBytes, ok := true }, ?_, rfl⟩
    simp [liveViewStep, liveResponse]
  | buffer b writeOk =>
    cases hb : b.isVideo with
    | false =>
      obtain ⟨header, hstep⟩ := liveViewStep_not_video env v hb writeOk
      rw [hstep]
      exact h
    | true =>
      rw [liveViewStep_video v hb, LiveView.video]
      split
      · intro hactive
        exact ⟨_, List.getLast?_concat, hactive⟩
      · exact h

theorem foldl_liveViewStep_lastOk (events : List CameraEvent) :
    ∀ {v : LiveView}, v.LastOk → (events.foldl (liveViewStep env) v).LastOk := by
  induction events with
  | nil =>
    intro v h
    exact h
  | cons e events ih =>
    intro v h
    rw [List.foldl_cons]
    exact ih (liveViewStep_lastOk h e)

/-- The header in the view is the saved one. -/
theorem foldl_liveViewStep_header (events : List CameraEvent) :
    ∀ v : LiveView,
      (events.foldl (liveViewStep env) v).headerBytes = events.foldl headerAfter v.headerBytes := by
  induction events with
  | nil =>
    intro v
    rfl
  | cons e events ih =>
    intro v
    have hstep : (liveViewStep env v e).headerBytes = headerAfter v.headerBytes e := by
      cases e with
      | cast args => rfl
      | stop fd => rfl
      | live fd => rfl
      | buffer b writeOk =>
        by_cases hconfig : b.config = true
        · simp only [liveViewStep, headerAfter, hconfig, if_true, LiveView.headerBytes,
            Option.getD_some, Block.bytes_copy]
        · simp only [liveViewStep, headerAfter, hconfig, Bool.false_eq_true, if_false,
            LiveView.video]
          split
          · rfl
          split
          · rfl
          · rfl
    rw [List.foldl_cons, List.foldl_cons, ih, hstep]

end Content

section Streams

variable {env : ServerEnv} {os : FdTable OsObject} {before during : List CameraEvent}
  {s s' : Feed}

/-- What is written to a stream from its request on, gate open or closed. -/
theorem stream_writes {fd : ℕ} (hlive : ∀ e ∈ during, e.isLive = false)
    (hbefore : exec (feedStep env) (feedInit os) before = some s)
    (hduring : exec (feedStep env) s (.live fd :: during) = some s') :
    s'.writes = s.writes ++
      (liveResponse fd (savedHeader before) ++ streamWrites fd s.camera.frameStart during) := by
  have hheader : s.view.headerBytes = savedHeader before := by
    rw [exec_liveView _ _ _ hbefore, foldl_liveViewStep_header]
    rfl
  have hwrites : s'.writes =
      ((CameraEvent.live fd :: during).foldl (liveViewStep env) s.view).writes :=
    congrArg LiveView.writes (exec_liveView _ _ _ hduring)
  rw [hwrites, List.foldl_cons, foldl_liveViewStep_stream during _ rfl hlive, ← hheader]
  simp only [liveViewStep, List.append_assoc]
  rfl

/-- Nothing is written between the end of a stream and the next request. -/
theorem ended_writes (hlast : ∀ w, s.writes.getLast? = some w → w.ok = false)
    (hlive : ∀ e ∈ during, e.isLive = false)
    (hbefore : exec (feedStep env) (feedInit os) before = some s)
    (hduring : exec (feedStep env) s during = some s') : s'.writes = s.writes := by
  have hlastOk : s.view.LastOk := by
    rw [exec_liveView _ _ _ hbefore]
    apply foldl_liveViewStep_lastOk
    intro hactive
    cases hactive
  have hended : s.view.active = false := by
    by_contra hactive
    obtain ⟨w, hw, hok⟩ := hlastOk (Bool.not_eq_false _ ▸ hactive)
    rw [hlast w hw] at hok
    cases hok
  have hwrites : s'.writes = (during.foldl (liveViewStep env) s.view).writes :=
    congrArg LiveView.writes (exec_liveView _ _ _ hduring)
  rw [hwrites, foldl_liveViewStep_ended during _ hended hlive]
  rfl

end Streams

/-- **The live streams of a run have the right content exactly when a keyframe comes first wherever
a request has found the gate open.** -/
theorem streamsRight_iff {env : ServerEnv} {os : FdTable OsObject} {events : List CameraEvent}
    {last : Feed} (hrun : exec (feedStep env) (feedInit os) events = some last) :
    StreamsRight env os events ↔ LiveKeyframeFirst env os events := by
  constructor
  · intro hright before fd quiet b s hevents hquiet hb hbefore hgate
    -- the stream of the run, executed up to its first video buffer
    obtain ⟨s', hduring⟩ := exists_exec_part hrun hevents hbefore
    have hlive : ∀ e ∈ quiet ++ [CameraEvent.buffer b true], e.isLive = false := by
      intro e he
      rcases List.mem_append.mp he with he | he
      · exact (hquiet e he).1
      · rw [List.mem_singleton.mp he]
        rfl
    have hnone : ∀ e ∈ quiet, e.videoBuffer = none := fun e he => (hquiet e he).2
    have hone : streamWrites fd true (quiet ++ [CameraEvent.buffer b true]) =
        [{ fd := fd, bytes := b.payload.bytes, ok := true }] := by
      rw [streamWrites_quiet fd true _ quiet hnone]
      simp [streamWrites, hb]
    have hwrites := stream_writes hlive hbefore hduring
    rw [hgate, hone] at hwrites
    have hok : ∀ w ∈ liveResponse fd (savedHeader before) ++
        [{ fd := fd, bytes := b.payload.bytes, ok := true }], w.ok = true := by
      intro w hw
      rcases List.mem_append.mp hw with hw | hw
      · exact liveResponse_ok hw
      · rw [List.mem_singleton.mp hw]
    have hstream := hright.inside before fd _ s s' _ hevents hlive hbefore hduring hwrites hok
    -- payloads may coincide, the number of writes does not
    have hlength := congrArg List.length hstream
    rw [videoBuffers_first true hnone hb] at hlength
    simp only [streamOf, List.length_append, List.length_map, List.length_singleton] at hlength
    exact (length_fromKeyframe_iff [b]).mp (by rw [List.length_singleton]; omega) b rfl
  · intro hfirst
    constructor
    · intro before fd during s s' ws hevents hlive hbefore hduring hws hok
      have hwrites := stream_writes hlive hbefore hduring
      rw [hws] at hwrites
      have hstream := List.append_cancel_left hwrites
      have hoks : ∀ w ∈ streamWrites fd s.camera.frameStart during, w.ok = true := by
        intro w hw
        apply hok
        rw [hstream]
        exact List.mem_append_right _ hw
      rw [hstream, streamWrites_of_ok fd during _ hoks, streamOf]
      cases hgate : s.camera.frameStart with
      | false => rfl
      | true =>
        rw [hgate] at hoks
        have hkey : ∀ b, (videoBuffers during).head? = some b → b.keyframe = true := by
          intro b hb
          obtain ⟨quiet, rest, rfl, hvideo, hquiet⟩ := exists_first_written hoks hb
          refine hfirst before fd quiet b s ?_ ?_ hvideo hbefore hgate
          · refine List.IsPrefix.trans ⟨rest, ?_⟩ hevents
            simp
          · intro e he
            exact ⟨hlive e (List.mem_append_left _ he), hquiet e he⟩
        rw [fromKeyframe_eq_self hkey]
        rfl
    · intro before during s s' _ hlast hlive hbefore hduring
      exact ended_writes hlast hlive hbefore hduring

/-! ### A stream taken over in the middle of a group of pictures -/

/-- The CONFIG buffer, a stream with a keyframe, and a request that takes it over before the next
buffer comes, which is no keyframe. -/
def takeoverEvents : List CameraEvent :=
  [.buffer (oneByteBuffer false true 1) true, .live 4, .buffer (oneByteBuffer true false 2) true,
    .live 5, .buffer (oneByteBuffer false false 3) true]

/-- **A stream that is taken over between two buffers does not begin with a keyframe.** -/
theorem takeover_without_keyframe :
    (exec (feedStep sampleEnv) (feedInit []) takeoverEvents).map Feed.writes =
        some (streamOf 4 [1] [oneByteBuffer true false 2] ++
          streamOf 5 [1] [oneByteBuffer false false 3]) ∧
      ¬ StreamsRight sampleEnv [] takeoverEvents := by
  have hwrites : (exec (feedStep sampleEnv) (feedInit []) takeoverEvents).map Feed.writes =
      some (streamOf 4 [1] [oneByteBuffer true false 2] ++
        streamOf 5 [1] [oneByteBuffer false false 3]) := by
    decide +kernel
  have hfirst : (exec (feedStep sampleEnv) (feedInit []) (takeoverEvents.take 3)).map
      Feed.writes = some (streamOf 4 [1] [oneByteBuffer true false 2]) := by
    decide +kernel
  refine ⟨hwrites, fun hright => ?_⟩
  obtain ⟨s, hs, hsw⟩ := Option.map_eq_some_iff.mp hfirst
  obtain ⟨s', hs', hsw'⟩ := Option.map_eq_some_iff.mp hwrites
  rw [show takeoverEvents = takeoverEvents.take 3 ++ takeoverEvents.drop 3 from rfl, exec_append,
    hs, Option.bind_some] at hs'
  rw [← hsw] at hsw'
  have hinside := hright.inside (takeoverEvents.take 3) 5 (takeoverEvents.drop 4) s s' _
    List.prefix_rfl (by decide) hs hs' hsw' (by decide)
  exact absurd hinside (by decide)

theorem streamsRight_iff_one :
    ∃ last, exec (feedStep sampleEnv) (feedInit []) (takeoverEvents.take 3) = some last ∧
      (StreamsRight sampleEnv [] (takeoverEvents.take 3) ↔
        LiveKeyframeFirst sampleEnv [] (takeoverEvents.take 3)) := by
  have hrun : (exec (feedStep sampleEnv) (feedInit []) (takeoverEvents.take 3)).isSome = true := by
    decide +kernel
  obtain ⟨last, hlast⟩ := Option.isSome_iff_exists.mp hrun
  exact ⟨last, hlast, streamsRight_iff hlast⟩

end CameraDaemon
