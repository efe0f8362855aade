import CameraDaemon.Lib.Run
import CameraDaemon.Os

/-!
# The live client

`GET /live` stores the descriptor of its connection in `userdata.client_fd` and sets
`have_active_client`; from then on the encoder thread writes every buffer to that *number*, until a
write fails.  The server loop closes a connection at its end of file without looking at either
variable, and the system gives the number to the next connection that is accepted.

Each thread moves by one assignment or system call at a time.  A connection is named by the order of
the accepts, so the log can tell who received a buffer from which number it was written to.

## Main definitions

* `LiveState`, `liveStep` — the server loop and the live branch of the encoder callback.
* `ToAsker` — a buffer was received by nobody but the connection that asked last.
* `KeepsNumber` — an accept is not given the number `client_fd` while `have_active_client` is set.

## Main results

* `liveInv_step` — the invariant of the runs that meet `KeepsNumber`.
* `toAsker_of_keepsNumber` — **in such a run live video goes to the connection that asked.**
* `reused_number_leaks` — without it a connection that never asked receives the video.
-/

namespace CameraDaemon

open FdTable Transition

/-! ### The step system -/

/-- Where the server loop is. -/
inductive ServerPc
  /-- In `select`. -/
  | idle
  /-- At `close(i)`, after `handle_request` has seen the end of file. -/
  | close (fd : ℕ)
  /-- At `FD_CLR(i, &active_fd_set)`. -/
  | fdClr (fd : ℕ)
  /-- At `userdata.client_fd = filedes`, after the response has been written. -/
  | setClientFd (fd : ℕ)
  /-- At `userdata.have_active_client = 1`. -/
  | activate
  deriving DecidableEq, Repr

/-- Where the encoder thread is in the live branch of `video_encoder_output_callback`. -/
inductive LivePc
  | idle
  /-- At the test of `have_active_client`. -/
  | test (keyframe : Bool)
  /-- At the keyframe gate. -/
  | gate (keyframe : Bool)
  /-- At `write(userdata->client_fd, …)`. -/
  | write
  /-- At `frame_start = -1`, after a write has failed. -/
  | resetFrameStart
  /-- At `userdata->have_active_client = 0`. -/
  | deactivate
  deriving DecidableEq, Repr

/-- A buffer written to `client_fd`: the connection that received it, if any, and the connection
whose `/live` request set `client_fd` last. -/
structure LiveWrite where
  receiver : Option ℕ
  asked : Option ℕ
  deriving DecidableEq, Repr

/-- The daemon, as far as live video is concerned. -/
structure LiveState where
  os : FdTable OsObject
  /-- `active_fd_set`, without the listener. -/
  activeFds : List ℕ
  /-- The number of connections accepted so far. -/
  accepted : ℕ
  clientFd : ℕ
  haveActiveClient : Bool
  /-- `frame_start`, which is `1` or `-1`. -/
  frameStart : Bool
  /-- The connection whose `/live` request set `client_fd` last. -/
  asked : Option ℕ
  server : ServerPc
  encoder : LivePc
  /-- The writes to `client_fd`, latest first. -/
  writes : List LiveWrite
  deriving DecidableEq, Repr

/-- The choices of a run. -/
inductive LiveLabel
  /-- A connection is accepted. -/
  | accept
  /-- `handle_request` sees the end of file, or a read error, on a connection. -/
  | eof (fd : ℕ)
  /-- `handle_request` reads `GET /live` from a connection. -/
  | live (fd : ℕ)
  /-- A cast opens a socket. -/
  | socket
  /-- The server loop goes on. -/
  | server
  /-- The encoder delivers a video buffer. -/
  | buffer (keyframe : Bool)
  /-- The encoder thread goes on; a write to an open connection succeeds if `ok`. -/
  | encoder (ok : Bool)
  deriving DecidableEq, Repr

/-- The connection behind a descriptor. -/
def connAt (os : FdTable OsObject) (fd : ℕ) : Option ℕ :=
  match os.lookup fd with
  | some (.conn id) => some id
  | _ => none

/-- One step of the server loop. -/
def serverStep (s : LiveState) : Option LiveState :=
  match s.server with
  | .idle => none
  | .close fd => some { s with os := s.os.close fd, server := .fdClr fd }
  | .fdClr fd => some { s with activeFds := s.activeFds.erase fd, server := .idle }
  | .setClientFd fd =>
    some { s with clientFd := fd, asked := connAt s.os fd, server := .activate }
  | .activate => some { s with haveActiveClient := true, server := .idle }

/-- One step of the encoder thread; a write to anything but a connection fails. -/
def liveEncoderStep (s : LiveState) (ok : Bool) : Option LiveState :=
  match s.encoder with
  | .idle => none
  | .test keyframe =>
    if s.haveActiveClient then some { s with encoder := .gate keyframe }
    else some { s with encoder := .idle }
  | .gate keyframe =>
    if s.frameStart || keyframe then some { s with frameStart := true, encoder := .write }
    else some { s with encoder := .idle }
  | .write =>
    match connAt s.os s.clientFd with
    | some id =>
      if ok then
        some { s with
          writes := { receiver := some id, asked := s.asked } :: s.writes, encoder := .idle }
      else
        some { s with
          writes := { receiver := none, asked := s.asked } :: s.writes
          encoder := .resetFrameStart }
    | none =>
      some { s with
        writes := { receiver := none, asked := s.asked } :: s.writes
        encoder := .resetFrameStart }
  | .resetFrameStart => some { s with frameStart := false, encoder := .deactivate }
  | .deactivate => some { s with haveActiveClient := false, encoder := .idle }

/-- One step of the daemon. -/
def liveStep (s : LiveState) : LiveLabel → Option LiveState
  | .accept =>
    if s.server = .idle then
      some { s with
        os := s.os.install (.conn s.accepted)
        activeFds := s.os.lowestUnused :: s.activeFds
        accepted := s.accepted + 1 }
    else none
  | .eof fd =>
    if s.server = .idle ∧ fd ∈ s.activeFds then some { s with server := .close fd } else none
  | .live fd =>
    if s.server = .idle ∧ fd ∈ s.activeFds then some { s with server := .setClientFd fd } else none
  | .socket =>
    if s.server = .idle then some { s with os := s.os.install (.udp none) } else none
  | .server => serverStep s
  | .buffer keyframe =>
    if s.encoder = .idle then some { s with encoder := .test keyframe } else none
  | .encoder ok => liveEncoderStep s ok

/-- The daemon in its first `select`: some descriptors are in use, and the listener has the lowest
of the others. -/
def liveInit (inUse : List Bool) : LiveState :=
  { os := FdTable.install (inUse.map fun used => if used then some .other else none) .listener
    activeFds := []
    accepted := 0
    clientFd := 0
    haveActiveClient := false
    frameStart := false
    asked := none
    server := .idle
    encoder := .idle
    writes := [] }

/-- Whoever received the buffer is the connection whose `/live` request set `client_fd` last. -/
def ToAsker (w : LiveWrite) : Prop := ∀ id, w.receiver = some id → w.asked = some id

/-- No accept is given the number `client_fd` while `have_active_client` is set. -/
def KeepsNumber (s : LiveState) (a : LiveLabel) : Prop :=
  a = .accept → s.haveActiveClient = true → s.os.lowestUnused ≠ s.clientFd

instance (s : LiveState) (a : LiveLabel) : Decidable (KeepsNumber s a) :=
  inferInstanceAs (Decidable (_ → _))

/-! ### The invariant -/

/-- The connection behind `client_fd`, if there is one, is the one that asked. -/
def LiveState.ClientIsAsker (s : LiveState) : Prop :=
  ∀ id, connAt s.os s.clientFd = some id → s.asked = some id

/-- The invariant: while the client counts as active, or is about to, its number stands for the
connection that asked or for none; and the encoder is past its test only while it counts as
active. -/
structure LiveInv (s : LiveState) : Prop where
  writes : ∀ w ∈ s.writes, ToAsker w
  client : s.haveActiveClient = true ∨ s.server = .activate → s.ClientIsAsker
  encoder : ∀ keyframe, s.encoder = .gate keyframe ∨ s.encoder = .write →
    s.haveActiveClient = true

theorem connAt_install_conn {os : FdTable OsObject} {fd : ℕ} (id : ℕ) (h : os.lowestUnused ≠ fd) :
    connAt (os.install (.conn id)) fd = connAt os fd := by
  rw [connAt, lookup_install_of_ne os _ h.symm, connAt]

/-- A socket that is not a connection puts no connection anywhere. -/
theorem connAt_install_udp {os : FdTable OsObject} {fd id : ℕ} {port : Option UInt16}
    (h : connAt (os.install (.udp port)) fd = some id) : connAt os fd = some id := by
  by_cases hfd : fd = os.lowestUnused
  · subst hfd
    rw [connAt, lookup_install_self] at h
    cases h
  · rwa [connAt, lookup_install_of_ne os _ hfd] at h

theorem connAt_close {os : FdTable OsObject} {fd fd' id : ℕ}
    (h : connAt (os.close fd) fd' = some id) : connAt os fd' = some id := by
  by_cases hfd : fd' = fd
  · subst hfd
    rw [connAt, lookup_close_self] at h
    cases h
  · rwa [connAt, lookup_close_of_ne os hfd] at h

/-- A step of the server loop keeps the invariant. -/
theorem liveInv_serverStep {s s' : LiveState} (h : LiveInv s) (hs : serverStep s = some s') :
    LiveInv s' := by
  unfold serverStep at hs
  split at hs
  · cases hs
  · next fd hpc =>
    -- a close only takes connections away
    cases hs
    refine ⟨h.writes, fun hact id hid => ?_, h.encoder⟩
    exact h.client (Or.inl (hact.resolve_right nofun)) id (connAt_close hid)
  · next fd hpc =>
    cases hs
    exact ⟨h.writes, fun hact => h.client (Or.inl (hact.resolve_right nofun)), h.encoder⟩
  · -- `client_fd` and the connection that asked are set together
    cases hs
    exact ⟨h.writes, fun _ id hid => hid, h.encoder⟩
  · next hpc =>
    cases hs
    exact ⟨h.writes, fun _ => h.client (Or.inr hpc), fun _ _ => rfl⟩

/-- A step of the encoder thread keeps the invariant: a write that reaches a connection reaches the
one that asked. -/
theorem liveInv_encoderStep {s s' : LiveState} {ok : Bool} (h : LiveInv s)
    (hs : liveEncoderStep s ok = some s') : LiveInv s' := by
  unfold liveEncoderStep at hs
  split at hs
  · cases hs
  · next keyframe hpc =>
    split at hs
    · next hactive =>
      cases hs
      exact ⟨h.writes, h.client, fun _ _ => hactive⟩
    · cases hs
      exact ⟨h.writes, h.client, fun _ hpc' => absurd hpc' (by simp)⟩
  · next keyframe hpc =>
    have hactive := h.encoder keyframe (Or.inl hpc)
    split at hs
    · cases hs
      exact ⟨h.writes, h.client, fun _ _ => hactive⟩
    · cases hs
      exact ⟨h.writes, h.client, fun _ hpc' => absurd hpc' (by simp)⟩
  · next hpc =>
    have hactive := h.encoder true (Or.inr hpc)
    split at hs
    · next id hid =>
      have hasked := h.client (Or.inl hactive) id hid
      split at hs
      · -- the write reaches the connection behind the number
        cases hs
        refine ⟨?_, h.client, fun _ hpc' => absurd hpc' (by simp)⟩
        refine List.forall_mem_cons.mpr ⟨?_, h.writes⟩
        rintro _ ⟨⟩
        exact hasked
      · cases hs
        exact ⟨List.forall_mem_cons.mpr ⟨nofun, h.writes⟩, h.client,
          fun _ hpc' => absurd hpc' (by simp)⟩
    · cases hs
      exact ⟨List.forall_mem_cons.mpr ⟨nofun, h.writes⟩, h.client,
        fun _ hpc' => absurd hpc' (by simp)⟩
  · cases hs
    exact ⟨h.writes, h.client, fun _ hpc' => absurd hpc' (by simp)⟩
  · cases hs
    exact ⟨h.writes, fun hact => h.client (Or.inr (hact.resolve_left nofun)),
      fun _ hpc' => absurd hpc' (by simp)⟩

/-- **A step that meets the condition keeps the invariant.** -/
theorem liveInv_step {s s' : LiveState} {a : LiveLabel} (h : LiveInv s) (hok : KeepsNumber s a)
    (hs : liveStep s a = some s') : LiveInv s' := by
  cases a with
  | server => exact liveInv_serverStep h hs
  | encoder ok => exact liveInv_encoderStep h hs
  | accept =>
    rw [liveStep] at hs
    split at hs
    · next hidle =>
      cases hs
      refine ⟨h.writes, fun hact id hid => ?_, h.encoder⟩
      -- the server is in `select`, so the client counts as active and its number is not issued
      have hactive := hact.resolve_right (by simp [hidle])
      rw [connAt_install_conn _ (hok rfl hactive)] at hid
      exact h.client (Or.inl hactive) id hid
    · cases hs
  | eof fd | live fd =>
    rw [liveStep] at hs
    split at hs
    · cases hs
      exact ⟨h.writes, fun hact => h.client (Or.inl (hact.resolve_right nofun)), h.encoder⟩
    · cases hs
  | socket =>
    rw [liveStep] at hs
    split at hs
    · cases hs
      exact ⟨h.writes, fun hact id hid => h.client hact id (connAt_install_udp hid), h.encoder⟩
    · cases hs
  | buffer keyframe =>
    rw [liveStep] at hs
    split at hs
    · cases hs
      exact ⟨h.writes, h.client, fun _ hpc' => absurd hpc' (by simp)⟩
    · cases hs

theorem liveInv_init (inUse : List Bool) : LiveInv (liveInit inUse) :=
  ⟨nofun, fun hact => absurd hact (by simp [liveInit]), fun _ hpc => absurd hpc (by simp [liveInit])⟩

/-- **Live video goes to the connection that asked for it**, in every run in which no accept is given
the number `client_fd` while `have_active_client` is set. -/
theorem toAsker_of_keepsNumber {inUse : List Bool} {labels : List LiveLabel} {s : LiveState}
    (hr : Run liveStep KeepsNumber (liveInit inUse) labels s) : ∀ w ∈ s.writes, ToAsker w :=
  (hr.invariant (liveInv_init inUse) fun _ _ _ h hok hs => liveInv_step h hok hs).writes

/-! ### A number that is issued again -/

/-- A connection is accepted and asks for live video. -/
def askLive (fd : ℕ) : List LiveLabel := [.accept, .live fd, .server, .server]

/-- A keyframe, written. -/
def keyframeRun : List LiveLabel := [.buffer true, .encoder true, .encoder true, .encoder true]

/-- A client asks, gets a frame and leaves; the next connection gets its number, and the next frame. -/
def reuseRun : List LiveLabel :=
  askLive 4 ++ keyframeRun ++ [.eof 4, .server, .server, .accept] ++ keyframeRun

/-- **A connection that never asked receives the video**: connection 1 has the number of connection
0, which asked and has been closed. -/
theorem reused_number_leaks :
    ∃ s, exec liveStep (liveInit [true, true, true]) reuseRun = some s ∧
      s.writes = [{ receiver := some 1, asked := some 0 }, { receiver := some 0, asked := some 0 }] ∧
      ¬ ∀ w ∈ s.writes, ToAsker w := by
  refine ⟨_, rfl, rfl, fun h => ?_⟩
  exact absurd (h _ List.mem_cons_self 1 rfl) (by decide)

theorem toAsker_of_keepsNumber_askLive :
    ∃ s, Run liveStep KeepsNumber (liveInit [true, true, true])
        (askLive 4 ++ keyframeRun ++ [.accept] ++ keyframeRun) s ∧
      s.writes.length = 2 ∧ ∀ w ∈ s.writes, ToAsker w := by
  have hrun : (execWhen liveStep KeepsNumber (liveInit [true, true, true])
      (askLive 4 ++ keyframeRun ++ [.accept] ++ keyframeRun)).any
      (fun s => decide (s.writes.length = 2)) = true := by
    decide
  obtain ⟨s, hs, hp⟩ := exists_run_of_execWhen hrun
  exact ⟨s, hs, of_decide_eq_true hp, toAsker_of_keepsNumber hs⟩

end CameraDaemon
