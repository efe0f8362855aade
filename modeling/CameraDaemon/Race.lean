import CameraDaemon.Lib.Run
import CameraDaemon.RtpWorker

/-!
# Two threads and one sender context

The HTTP thread serves `/srtp_cast_to` and `/stop_srtp`; the encoder thread delivers video buffers.
Both run `srtp_sender_callback` on the one sender context, and the HTTP thread rewrites that context
in `prepare_srtp_sender`, without any lock.  Here each thread has a program counter and moves by one
assignment or library call at a time; a run is any interleaving.

The log records what `srtp_protect` returned and what was handed to `sendto`.  It is `Clear` when
every datagram is the output of an earlier call of `srtp_protect` that succeeded.

## Main definitions

* `SendPc`, `sendStep` — a thread inside `srtp_sender_callback`.
* `RaceState`, `raceStep` — both threads, and one step of one of them.
* `Clear` — no plaintext has left.
* `Exclusive` — no thread starts on the sender context while the other is in the middle of a packet
  or of `prepare_srtp_sender`.

## Main results

* `sendStep_next` — one step of a thread in the middle of a packet, by its stage.
* `raceInv_step` — the invariant of the runs that meet `Exclusive`.
* `clear_of_exclusive` — **in such a run no plaintext leaves.**
* `recast_leaks` — without it one does: the encoder sends between the first two assignments of a
  second cast.
-/

namespace CameraDaemon

open ByteOrder Memory Transition

/-! ### A thread inside `srtp_sender_callback` -/

/-- The statements of one turn of the loop on the shared context, in order. -/
inductive SendStage
  | copyBody
  | bumpSeq
  | swapSeq
  | bumpTs
  | swapTs
  | protect
  | sendto (pktLen : ℕ)
  deriving DecidableEq, Repr

/-- Where a thread is in `srtp_sender_callback`. -/
inductive SendPc
  /-- At the test of the loop. -/
  | loop (offset : ℕ)
  /-- At a statement of a turn. -/
  | turn (c : RtpChunk) (stage : SendStage)
  deriving DecidableEq, Repr

/-- What is recorded of the traffic. -/
inductive NetEvent
  /-- A call of `srtp_protect` that left this header and body in the message. -/
  | protect (status : SrtpErrStatus) (header : SrtpHdr) (body : List UInt8)
  | sendto (d : RtpDatagram)
  deriving DecidableEq, Repr

/-- What the two threads share of the sender, the log (latest event first) and the number of packets
sent since the stream of the present session was added. -/
structure Net where
  world : SenderWorld
  log : List NetEvent
  sent : ℕ

/-- Change the sender context. -/
def Net.onCtx (net : Net) (f : SrtpSenderContext → SrtpSenderContext) : Net :=
  { net with world := { net.world with ctx := f net.world.ctx } }

@[simp] theorem Net.onCtx_ctx (net : Net) (f : SrtpSenderContext → SrtpSenderContext) :
    (net.onCtx f).world.ctx = f net.world.ctx := rfl

@[simp] theorem Net.onCtx_sent (net : Net) (f : SrtpSenderContext → SrtpSenderContext) :
    (net.onCtx f).sent = net.sent := rfl

@[simp] theorem Net.onCtx_log (net : Net) (f : SrtpSenderContext → SrtpSenderContext) :
    (net.onCtx f).log = net.log := rfl

/-- What a step inside `srtp_sender_callback` comes to. -/
inductive SendOutcome
  | next (pc : SendPc) (net : Net)
  /-- The loop is over. -/
  | finished
  /-- A null context, or `offset` out of the range of `int`. -/
  | crashed

/-- One step of a thread inside `srtp_sender_callback`. -/
def sendStep (crypto : SrtpCrypto) (block : Block) (net : Net) : SendPc → SendOutcome
  | .loop offset =>
    if offset < block.length then
      match nextChunk block.length offset with
      | none => .crashed
      | some c => .next (.turn c .copyBody) net
    else .finished
  | .turn c .copyBody => .next (.turn c .bumpSeq) (net.onCtx (copyBody block.data c))
  | .turn c .bumpSeq => .next (.turn c .swapSeq) (net.onCtx bumpSeq)
  | .turn c .swapSeq => .next (.turn c .bumpTs) (net.onCtx swapSeq)
  | .turn c .bumpTs => .next (.turn c .swapTs) (net.onCtx bumpTs)
  | .turn c .swapTs => .next (.turn c .protect) (net.onCtx swapTs)
  | .turn c .protect =>
    match protectMessage crypto (c.bodyLen + rtpHeaderLen) net.world.ctx with
    | none => .crashed
    | some (ctx, status, pktLen, _) =>
      .next (.turn c (.sendto pktLen))
        { net.onCtx fun _ => ctx with
          log := .protect status (datagram pktLen ctx).header (datagram pktLen ctx).body
            :: net.log }
  | .turn c (.sendto pktLen) =>
    .next (.loop c.offset)
      { net with
        log := .sendto (datagram pktLen net.world.ctx) :: net.log
        sent := net.sent + 1 }

/-! ### The step system -/

/-- A request that concerns the sender. -/
inductive SrtpRequest
  | cast (args : CastArgs)
  | stop

/-- Where the HTTP thread is. -/
inductive HttpPc
  | idle
  /-- At `userdata.have_active_srtp_receiver = 0` of `/stop_srtp`. -/
  | stopSrtp
  /-- In `prepare_srtp_sender`, with the statements left. -/
  | prepare (args : CastArgs) (rest : List PrepStmt)
  /-- At the call of `srtp_sender_callback` on the stream header. -/
  | callSender
  /-- In that call, which has been given the pointer and this length. -/
  | sender (length : ℕ) (pc : SendPc)
  /-- At `userdata.have_active_srtp_receiver = 1`. -/
  | activate

/-- Where the encoder thread is in `video_encoder_output_callback`. -/
inductive EncoderPc
  | idle
  /-- At `userdata->stream_header = malloc(buffer->length)`, the assertion before it included. -/
  | headerAlloc (buffer : MmalBuffer)
  /-- At `userdata->stream_header_size = buffer->length`. -/
  | headerSize (buffer : MmalBuffer)
  /-- At the `memcpy` into the stream header. -/
  | headerCopy (buffer : MmalBuffer)
  /-- At the test of `have_active_srtp_receiver`. -/
  | test (buffer : MmalBuffer)
  /-- At the keyframe gate. -/
  | gate (buffer : MmalBuffer)
  | sender (block : Block) (pc : SendPc)

/-- The daemon, as far as the sender is concerned. -/
structure RaceState where
  net : Net
  haveActiveSrtpReceiver : Bool
  /-- `srtp_frame_start`, which is `1` or `-1`. -/
  srtpFrameStart : Bool
  /-- The memory behind `stream_header`; `none` for the null pointer. -/
  streamHeader : Option (ℕ → UInt8)
  streamHeaderSize : ℕ
  http : HttpPc
  encoder : EncoderPc
  /-- The process has neither exited nor crashed. -/
  alive : Bool

/-- What the threads get from outside. -/
structure RaceEnv where
  crypto : SrtpCrypto
  system : SenderSystem
  /-- What the memory for `stream_header` holds before it is written. -/
  staleHeap : ℕ → UInt8

/-- The stream header as it is now, with the length that a call has been given.  The pointer is set
before the size, so a null pointer comes with the length zero. -/
def RaceState.headerBlock (s : RaceState) (length : ℕ) : Block :=
  { data := s.streamHeader.getD fun _ => 0, length := length }

/-- The choices of a run: what arrives, and which thread moves. -/
inductive RaceLabel
  | request (r : SrtpRequest)
  | buffer (b : MmalBuffer)
  | http
  | encoder

/-- Where the HTTP thread goes after a statement of `prepare_srtp_sender`. -/
def afterPrepare (args : CastArgs) : List PrepStmt → HttpPc
  | [] => .callSender
  | stmt :: rest => .prepare args (stmt :: rest)

/-- One step of the HTTP thread. -/
def httpStep (env : RaceEnv) (s : RaceState) : Option RaceState :=
  match s.http with
  | .idle => none
  | .stopSrtp => some { s with haveActiveSrtpReceiver := false, http := .idle }
  | .prepare _ [] => none
  | .prepare args (stmt :: rest) =>
    match prepStep env.system args s.net.world stmt with
    | .error _ => some { s with alive := false }
    | .ok w =>
      some { s with net := { s.net with world := w, sent := 0 }, http := afterPrepare args rest }
  | .callSender => some { s with http := .sender s.streamHeaderSize (.loop 0) }
  | .sender length pc =>
    match sendStep env.crypto (s.headerBlock length) s.net pc with
    | .next pc net => some { s with net := net, http := .sender length pc }
    | .finished => some { s with http := .activate }
    | .crashed => some { s with alive := false }
  | .activate => some { s with haveActiveSrtpReceiver := true, http := .idle }

/-- One step of the encoder thread. -/
def encoderStep (env : RaceEnv) (s : RaceState) : Option RaceState :=
  match s.encoder with
  | .idle => none
  | .headerAlloc buffer =>
    -- `assert(userdata->stream_header == NULL)`
    if s.streamHeader.isSome then some { s with alive := false }
    else some { s with streamHeader := some env.staleHeap, encoder := .headerSize buffer }
  | .headerSize buffer =>
    some { s with streamHeaderSize := buffer.payload.length, encoder := .headerCopy buffer }
  | .headerCopy buffer =>
    some { s with
      streamHeader := s.streamHeader.map fun memory => store memory 0 buffer.payload.bytes
      encoder := .idle }
  | .test buffer =>
    if s.haveActiveSrtpReceiver then some { s with encoder := .gate buffer }
    else some { s with srtpFrameStart := false, encoder := .idle }
  | .gate buffer =>
    if s.srtpFrameStart || buffer.keyframe then
      some { s with srtpFrameStart := true, encoder := .sender buffer.payload (.loop 0) }
    else some { s with encoder := .idle }
  | .sender block pc =>
    match sendStep env.crypto block s.net pc with
    | .next pc net => some { s with net := net, encoder := .sender block pc }
    | .finished => some { s with encoder := .idle }
    | .crashed => some { s with alive := false }

/-- One step of the daemon. -/
def raceStep (env : RaceEnv) (s : RaceState) (a : RaceLabel) : Option RaceState :=
  if s.alive then
    match a with
    | .request r =>
      match s.http, r with
      | .idle, .cast args => some { s with http := .prepare args PrepStmt.all }
      | .idle, .stop => some { s with http := .stopSrtp }
      | _, _ => none
    | .buffer b =>
      match s.encoder with
      | .idle =>
        if b.config then some { s with encoder := .headerAlloc b }
        else if b.codecSideInfo then some s
        else some { s with encoder := .test b }
      | _ => none
    | .http => httpStep env s
    | .encoder => encoderStep env s
  else none

/-- The daemon after `srtp_backend_init`, with the descriptors open by then. -/
def raceInit (os : FdTable OsObject) : RaceState :=
  { net := { world := senderStart os, log := [], sent := 0 }
    haveActiveSrtpReceiver := false
    srtpFrameStart := false
    streamHeader := none
    streamHeaderSize := 0
    http := .idle
    encoder := .idle
    alive := true }

/-- Every datagram is what an earlier, successful call of `srtp_protect` left in the message. -/
def Clear : List NetEvent → Prop
  | [] => True
  | .protect _ _ _ :: past => Clear past
  | .sendto d :: past => .protect .ok d.header d.body ∈ past ∧ Clear past

instance decidableClear : ∀ log, Decidable (Clear log)
  | [] => inferInstanceAs (Decidable True)
  | .protect _ _ _ :: past => decidableClear past
  | .sendto d :: past =>
    have := decidableClear past
    inferInstanceAs (Decidable (.protect .ok d.header d.body ∈ past ∧ Clear past))

/-! ### The middle of a packet, and of `prepare_srtp_sender` -/

/-- A stretch of statements on the sender context that has begun and is not over. -/
inductive Critical
  | prepare (args : CastArgs) (rest : List PrepStmt)
  | packet (stage : SendStage)

/-- A packet has begun once its body is copied. -/
def SendPc.critical : SendPc → Option Critical
  | .loop _ => none
  | .turn _ .copyBody => none
  | .turn _ stage => some (.packet stage)

/-- `prepare_srtp_sender` has begun once its first statement is done. -/
def HttpPc.critical : HttpPc → Option Critical
  | .prepare args rest => if rest = PrepStmt.all then none else some (.prepare args rest)
  | .sender _ pc => pc.critical
  | _ => none

def EncoderPc.critical : EncoderPc → Option Critical
  | .sender _ pc => pc.critical
  | _ => none

/-- Is the next statement one on the sender context? -/
def SendPc.touches : SendPc → Bool
  | .loop _ => false
  | .turn _ _ => true

def HttpPc.touches : HttpPc → Bool
  | .prepare _ _ => true
  | .sender _ pc => pc.touches
  | _ => false

def EncoderPc.touches : EncoderPc → Bool
  | .sender _ pc => pc.touches
  | _ => false

/-- No thread executes a statement on the sender context while the other thread is in the middle of
a packet or of `prepare_srtp_sender`. -/
def Exclusive (s : RaceState) : RaceLabel → Prop
  | .http => s.http.touches = true → s.encoder.critical.isNone = true
  | .encoder => s.encoder.touches = true → s.http.critical.isNone = true
  | _ => True

/-- The present session has room for one more packet. -/
def UnderLimit (s : RaceState) : Prop := s.net.sent < 2 ^ 48 - 2

instance decidableExclusive (s : RaceState) : ∀ a, Decidable (Exclusive s a)
  | .http =>
    inferInstanceAs (Decidable (s.http.touches = true → s.encoder.critical.isNone = true))
  | .encoder =>
    inferInstanceAs (Decidable (s.encoder.touches = true → s.http.critical.isNone = true))
  | .request _ => inferInstanceAs (Decidable True)
  | .buffer _ => inferInstanceAs (Decidable True)

instance (s : RaceState) : Decidable (UnderLimit s) :=
  inferInstanceAs (Decidable (s.net.sent < 2 ^ 48 - 2))

/-! ### The invariant of exclusive runs -/

/-- The header and the stream agree, between two packets. -/
def Net.Between (net : Net) : Prop := ∃ stream, SenderAt net.world.ctx stream net.sent

/-- How far the header is, by the statement that comes next in a packet. -/
def SendStage.Inv (net : Net) : SendStage → Prop
  | .copyBody | .bumpSeq => net.Between
  | .swapSeq => ∃ stream, SenderSeq net.world.ctx stream net.sent (UInt16.ofNat (net.sent + 1))
  | .bumpTs | .swapTs | .protect =>
    ∃ stream, SenderSeq net.world.ctx stream net.sent (htons (UInt16.ofNat (net.sent + 1)))
  | .sendto pktLen =>
    (∃ stream, SenderAt net.world.ctx stream (net.sent + 1)) ∧
      .protect .ok (datagram pktLen net.world.ctx).header (datagram pktLen net.world.ctx).body
        ∈ net.log

/-- What holds in the middle of a stretch: of `prepare_srtp_sender`, that its statements so far have
been executed on some context without interruption. -/
def Critical.Inv (sys : SenderSystem) (net : Net) : Critical → Prop
  | .prepare args rest =>
    ∃ (w : SenderWorld) (before : List PrepStmt),
      before ++ rest = PrepStmt.all ∧ before.foldlM (prepStep sys args) w = .ok net.world
  | .packet stage => stage.Inv net

/-- A thread is past a test of `have_active_srtp_receiver` or past `prepare_srtp_sender`. -/
def RaceState.Started (s : RaceState) : Prop :=
  s.haveActiveSrtpReceiver = true ∨
    (match s.http with
      | .callSender | .sender _ _ | .activate => True
      | _ => False) ∨
    (match s.encoder with
      | .gate _ | .sender _ _ => True
      | _ => False)

/-- At most one of two threads is in the middle of a stretch, which is then as far as it says; while
none is, a sender that can be reached is between two packets. -/
def Net.Phase (net : Net) (sys : SenderSystem) (started : Prop) :
    (own other : Option Critical) → Prop
  | none, none => started → net.Between
  | some c, none => c.Inv sys net
  | none, some c => c.Inv sys net
  | some _, some _ => False

/-- The invariant of exclusive runs. -/
structure RaceInv (sys : SenderSystem) (s : RaceState) : Prop where
  clear : Clear s.net.log
  phase : s.alive = true → s.net.Phase sys s.Started s.http.critical s.encoder.critical

/-- **One step of a packet**, by the statement that comes next. -/
theorem sendStep_next {crypto : SrtpCrypto} (hc : crypto.Succeeds rtpPktBodySize) {block : Block}
    {net net' : Net} {c : RtpChunk} {stage : SendStage} {pc' : SendPc} (hk : net.sent < 2 ^ 48 - 2)
    (h : stage.Inv net) (hs : sendStep crypto block net (.turn c stage) = .next pc' net') :
    (Clear net.log → Clear net'.log) ∧
      match pc' with
      | .loop _ => net'.Between
      | .turn _ stage' => stage'.Inv net' ∧ stage' ≠ .copyBody := by
  cases stage with
  | copyBody =>
    obtain ⟨stream, hat⟩ := h
    cases hs
    exact ⟨id, ⟨stream, hat.copyBody block.data c⟩, nofun⟩
  | bumpSeq =>
    obtain ⟨stream, hat⟩ := h
    cases hs
    refine ⟨id, ⟨stream, ?_⟩, nofun⟩
    rw [UInt16.ofNat_add]
    exact hat.bumpSeq
  | swapSeq =>
    obtain ⟨stream, hseq⟩ := h
    cases hs
    exact ⟨id, ⟨stream, hseq.swapSeq⟩, nofun⟩
  | bumpTs =>
    obtain ⟨stream, hseq⟩ := h
    cases hs
    exact ⟨id, ⟨stream, hseq.bumpTs⟩, nofun⟩
  | swapTs =>
    obtain ⟨stream, hseq⟩ := h
    cases hs
    exact ⟨id, ⟨stream, hseq.swapTs⟩, nofun⟩
  | protect =>
    obtain ⟨stream, hseq⟩ := h
    obtain ⟨stream', ctx', hat', -, -, -, hprot⟩ := protectMessage_next hc hk hseq c
    simp only [sendStep, hprot] at hs
    cases hs
    exact ⟨id, ⟨⟨stream', hat'⟩, List.mem_cons_self⟩, nofun⟩
  | sendto pktLen =>
    obtain ⟨hat, hmem⟩ := h
    cases hs
    exact ⟨fun hclear => ⟨hmem, hclear⟩, hat⟩

theorem Net.Phase.symm {net : Net} {sys : SenderSystem} {started : Prop}
    {own other : Option Critical} (h : net.Phase sys started own other) :
    net.Phase sys started other own := by
  cases own <;> cases other <;> exact h

/-- The phase is kept if the sender is reached only from where it was reached before. -/
theorem Net.Phase.mono {net : Net} {sys : SenderSystem} {started started' : Prop}
    {own other : Option Critical} (h : net.Phase sys started own other)
    (himp : started' → started) : net.Phase sys started' own other := by
  cases own with
  | none =>
    cases other with
    | none => exact fun hst => h (himp hst)
    | some c => exact h
  | some c =>
    cases other with
    | none => exact h
    | some _ => exact h

section Sender

variable {crypto : SrtpCrypto} {sys : SenderSystem} {block : Block} {net net' : Net}
  {pc pc' : SendPc} {started : Prop} {other : Option Critical}

/-- **One step inside `srtp_sender_callback`**, whichever thread makes it. -/
theorem phase_sendStep (hc : crypto.Succeeds rtpPktBodySize) (hk : net.sent < 2 ^ 48 - 2)
    (hst : started) (h : net.Phase sys started pc.critical other)
    (hex : pc.touches = true → other.isNone = true)
    (hs : sendStep crypto block net pc = .next pc' net') :
    (Clear net.log → Clear net'.log) ∧ net'.Phase sys started pc'.critical other := by
  cases pc with
  | loop offset =>
    -- only the chunk is computed
    rw [sendStep] at hs
    split at hs
    · split at hs
      · cases hs
      · cases hs
        exact ⟨id, h⟩
    · cases hs
  | turn c stage =>
    -- a statement on the sender context, so the other thread is in the middle of nothing
    have hother : other = none := Option.isNone_iff_eq_none.mp (hex rfl)
    subst hother
    have hstage : stage.Inv net := by
      cases stage with
      | copyBody => exact h hst
      | bumpSeq | swapSeq | bumpTs | swapTs | protect | sendto => exact h
    obtain ⟨hclear, hnext⟩ := sendStep_next hc hk hstage hs
    refine ⟨hclear, ?_⟩
    cases pc' with
    | loop offset => exact fun _ => hnext
    | turn c' stage' =>
      obtain ⟨hinv, hne⟩ := hnext
      cases stage' with
      | copyBody => exact absurd rfl hne
      | bumpSeq | swapSeq | bumpTs | swapTs | protect | sendto => exact hinv

/-- The loop ends between two packets. -/
theorem critical_of_finished (hs : sendStep crypto block net pc = .finished) :
    pc.critical = none := by
  cases pc with
  | loop offset => rfl
  | turn c stage =>
    cases stage with
    | protect =>
      rw [sendStep] at hs
      split at hs <;> cases hs
    | copyBody | bumpSeq | swapSeq | bumpTs | swapTs | sendto => cases hs

end Sender

/-- One statement of `prepare_srtp_sender` with nobody in between. -/
theorem phase_prepStep {sys : SenderSystem} {args : CastArgs} {stmt : PrepStmt}
    {rest : List PrepStmt} {net : Net} {w : SenderWorld} {started started' : Prop}
    (h : net.Phase sys started (HttpPc.prepare args (stmt :: rest)).critical none)
    (hw : prepStep sys args net.world stmt = .ok w) :
    ({ net with world := w, sent := 0 } : Net).Phase sys started'
      (afterPrepare args rest).critical none := by
  -- the statements before this one, and the world that they started from
  obtain ⟨w₀, before, hall, hfold⟩ : Critical.Inv sys net (.prepare args (stmt :: rest)) := by
    rw [HttpPc.critical] at h
    split at h
    · next heq => exact ⟨net.world, [], heq, rfl⟩
    · exact h
  have hall' : (before ++ [stmt]) ++ rest = PrepStmt.all := by simpa using hall
  have hfold' : (before ++ [stmt]).foldlM (prepStep sys args) w₀ = .ok w := by
    rw [List.foldlM_append, hfold]
    show (prepStep sys args net.world stmt >>= pure) = .ok w
    rw [bind_pure, hw]
  cases rest with
  | nil =>
    rw [List.append_nil] at hall'
    rw [hall'] at hfold'
    exact fun _ => ⟨args.stream, prepareSrtpSender_at hfold'⟩
  | cons next rest =>
    -- a statement is done, so what is left is not the whole list
    have hne : next :: rest ≠ PrepStmt.all := by
      intro heq
      have hlen := congrArg List.length hall
      rw [← heq] at hlen
      simp only [List.length_append, List.length_cons] at hlen
      omega
    rw [afterPrepare, HttpPc.critical, if_neg hne]
    exact ⟨w₀, before ++ [stmt], hall', hfold'⟩

/-- A step that leaves the sender and the middle of every stretch alone keeps the invariant, if it
reaches the sender only from where it was reached before. -/
theorem RaceInv.quiet {sys : SenderSystem} {s s' : RaceState} (h : RaceInv sys s)
    (halive : s.alive = true) (hnet : s'.net = s.net)
    (hhttp : s'.http.critical = s.http.critical)
    (hencoder : s'.encoder.critical = s.encoder.critical) (hstarted : s'.Started → s.Started) :
    RaceInv sys s' := by
  refine ⟨by rw [hnet]; exact h.clear, fun _ => ?_⟩
  rw [hnet, hhttp, hencoder]
  exact (h.phase halive).mono hstarted

/-- A step of the HTTP thread keeps the invariant. -/
theorem raceInv_httpStep {env : RaceEnv} (hc : env.crypto.Succeeds rtpPktBodySize)
    {s s' : RaceState} (h : RaceInv env.system s) (halive : s.alive = true)
    (hex : Exclusive s .http) (hk : UnderLimit s) (hs : httpStep env s = some s') :
    RaceInv env.system s' := by
  have hphase := h.phase halive
  rw [Exclusive] at hex
  unfold httpStep at hs
  split at hs
  · cases hs
  · next hpc =>
    -- `/stop_srtp`
    cases hs
    refine h.quiet halive rfl (by rw [hpc]; rfl) rfl ?_
    simp only [RaceState.Started, hpc]
    tauto
  · cases hs
  · next args stmt rest hpc =>
    -- a statement of `prepare_srtp_sender`: the encoder is in the middle of nothing
    rw [hpc] at hphase hex
    rw [Option.isNone_iff_eq_none.mp (hex rfl)] at hphase
    split at hs
    · cases hs
      exact ⟨h.clear, nofun⟩
    · next w hw =>
      cases hs
      refine ⟨h.clear, fun _ => ?_⟩
      rw [Option.isNone_iff_eq_none.mp (hex rfl)]
      exact phase_prepStep hphase hw
  · next hpc =>
    -- the call of `srtp_sender_callback` on the stream header
    cases hs
    refine h.quiet halive rfl (by rw [hpc]; rfl) rfl ?_
    simp only [RaceState.Started, hpc]
    tauto
  · next block pc hpc =>
    have hst : s.Started := Or.inr (Or.inl (by rw [hpc]; trivial))
    rw [hpc] at hphase hex
    split at hs
    · next pc' net' hsend =>
      cases hs
      obtain ⟨hclear, hnext⟩ := phase_sendStep hc hk hst hphase hex hsend
      exact ⟨hclear h.clear, fun _ => hnext.mono fun _ => hst⟩
    · next hfin =>
      -- the loop is over, so the thread was not in the middle of a packet
      cases hs
      refine h.quiet halive rfl ?_ rfl fun _ => hst
      rw [hpc]
      exact (critical_of_finished hfin).symm
    · cases hs
      exact ⟨h.clear, nofun⟩
  · next hpc =>
    -- `have_active_srtp_receiver = 1`
    cases hs
    have hst : s.Started := Or.inr (Or.inl (by rw [hpc]; trivial))
    exact h.quiet halive rfl (by rw [hpc]; rfl) rfl fun _ => hst

/-- A step of the encoder thread keeps the invariant. -/
theorem raceInv_encoderStep {env : RaceEnv} (hc : env.crypto.Succeeds rtpPktBodySize)
    {s s' : RaceState} (h : RaceInv env.system s) (halive : s.alive = true)
    (hex : Exclusive s .encoder) (hk : UnderLimit s) (hs : encoderStep env s = some s') :
    RaceInv env.system s' := by
  have hphase := h.phase halive
  rw [Exclusive] at hex
  unfold encoderStep at hs
  split at hs
  · cases hs
  · next buffer hpc =>
    -- the memory for the stream header, or a second one
    split at hs
    · cases hs
      exact ⟨h.clear, nofun⟩
    · cases hs
      refine h.quiet halive rfl rfl (by rw [hpc]; rfl) ?_
      simp only [RaceState.Started, hpc]
      exact id
  · next buffer hpc =>
    cases hs
    refine h.quiet halive rfl rfl (by rw [hpc]; rfl) ?_
    simp only [RaceState.Started, hpc]
    exact id
  · next buffer hpc =>
    cases hs
    refine h.quiet halive rfl rfl (by rw [hpc]; rfl) ?_
    simp only [RaceState.Started, hpc]
    exact id
  · next buffer hpc =>
    -- the test of `have_active_srtp_receiver`
    split at hs
    · next hactive =>
      cases hs
      exact h.quiet halive rfl rfl (by rw [hpc]; rfl) fun _ => Or.inl hactive
    · cases hs
      refine h.quiet halive rfl rfl (by rw [hpc]; rfl) ?_
      simp only [RaceState.Started, hpc]
      tauto
  · next buffer hpc =>
    -- the keyframe gate
    have hst : s.Started := Or.inr (Or.inr (by rw [hpc]; trivial))
    split at hs
    · cases hs
      exact h.quiet halive rfl rfl (by rw [hpc]; rfl) fun _ => hst
    · cases hs
      exact h.quiet halive rfl rfl (by rw [hpc]; rfl) fun _ => hst
  · next block pc hpc =>
    have hst : s.Started := Or.inr (Or.inr (by rw [hpc]; trivial))
    rw [hpc] at hphase hex
    split at hs
    · next pc' net' hsend =>
      cases hs
      obtain ⟨hclear, hnext⟩ := phase_sendStep hc hk hst hphase.symm hex hsend
      exact ⟨hclear h.clear, fun _ => hnext.symm.mono fun _ => hst⟩
    · next hfin =>
      cases hs
      refine h.quiet halive rfl rfl ?_ fun _ => hst
      rw [hpc]
      exact (critical_of_finished hfin).symm
    · cases hs
      exact ⟨h.clear, nofun⟩

/-- **A step that meets the condition keeps the invariant.** -/
theorem raceInv_step {env : RaceEnv} (hc : env.crypto.Succeeds rtpPktBodySize)
    {s s' : RaceState} {a : RaceLabel} (h : RaceInv env.system s)
    (hok : Exclusive s a ∧ UnderLimit s) (hs : raceStep env s a = some s') :
    RaceInv env.system s' := by
  unfold raceStep at hs
  split at hs
  · next halive =>
    cases a with
    | http => exact raceInv_httpStep hc h halive hok.1 hok.2 hs
    | encoder => exact raceInv_encoderStep hc h halive hok.1 hok.2 hs
    | request r =>
      -- an idle HTTP thread takes the request up and touches nothing
      cases hpc : s.http with
      | idle =>
        cases r with
        | cast args =>
          simp only [hpc] at hs
          cases hs
          refine h.quiet halive rfl (by rw [hpc]; rfl) rfl ?_
          simp only [RaceState.Started, hpc]
          exact id
        | stop =>
          simp only [hpc] at hs
          cases hs
          refine h.quiet halive rfl (by rw [hpc]; rfl) rfl ?_
          simp only [RaceState.Started, hpc]
          exact id
      | stopSrtp | prepare | callSender | sender | activate => simp [hpc] at hs
    | buffer b =>
      cases hpc : s.encoder with
      | idle =>
        simp only [hpc] at hs
        split at hs
        · cases hs
          refine h.quiet halive rfl rfl (by rw [hpc]; rfl) ?_
          simp only [RaceState.Started, hpc]
          exact id
        · split at hs
          · cases hs
            exact h
          · cases hs
            refine h.quiet halive rfl rfl (by rw [hpc]; rfl) ?_
            simp only [RaceState.Started, hpc]
            exact id
      | headerAlloc | headerSize | headerCopy | test | gate | sender => simp [hpc] at hs
  · cases hs

theorem raceInv_init (sys : SenderSystem) (os : FdTable OsObject) : RaceInv sys (raceInit os) := by
  refine ⟨trivial, fun _ hst => ?_⟩
  simp [RaceState.Started, raceInit] at hst

/-- **No plaintext leaves** in a run in which no thread works on the sender context while the other
is in the middle of a packet or of `prepare_srtp_sender`, whatever requests and buffers arrive. -/
theorem clear_of_exclusive {env : RaceEnv} (hc : env.crypto.Succeeds rtpPktBodySize)
    {os : FdTable OsObject} {labels : List RaceLabel} {s : RaceState}
    (hr : Run (raceStep env) (fun s a => Exclusive s a ∧ UnderLimit s) (raceInit os) labels s) :
    Clear s.net.log :=
  (hr.invariant (raceInv_init env.system os) fun _ _ _ h hok hs => raceInv_step hc h hok hs).clear

/-! ### A cast while the encoder sends -/

/-- Outside, for the runs below. -/
def sampleRaceEnv : RaceEnv :=
  { crypto := invertingCrypto, system := ownPorts, staleHeap := fun _ => 0 }

/-- A keyframe of one byte. -/
def oneByteKeyframe : MmalBuffer :=
  { config := false, codecSideInfo := false, keyframe := true, frameEnd := true
    payload := { data := fun i => if i < 2 then 7 else 0, length := 1 } }

/-- A whole cast without a stream header, up to `have_active_srtp_receiver = 1`. -/
def castRun (args : CastArgs) : List RaceLabel :=
  .request (.cast args) :: List.replicate 20 .http

/-- A buffer up to the loop of `srtp_sender_callback`. -/
def bufferRun (b : MmalBuffer) : List RaceLabel := [.buffer b, .encoder, .encoder]

/-- A session to SSRC 1, then a cast to SSRC 2 whose first assignment comes before the packet of the
encoder. -/
def recastRun : List RaceLabel :=
  castRun (castTo 5004 1) ++ bufferRun oneByteKeyframe
    ++ [.request (.cast (castTo 5006 2)), .http] ++ List.replicate 8 .encoder

/-- The datagram of that packet: the plaintext under the SSRC of the second cast. -/
def leakedDatagram : RtpDatagram :=
  { header :=
      { cc := 0, x := 0, p := 0, version := 2, pt := 99, m := 0, seq := htons 1, ts := 256
        ssrc := htonl 2 }
    body := [7]
    sock := 0
    dest := { sinFamily := pfInet, sinPort := htons 5004, sinAddr := 0x0201a8c0 } }

/-- **A second cast lets plaintext out**: `srtp_protect` finds no stream for the new SSRC, returns an
error and leaves the packet as it is, and the packet is sent. -/
theorem recast_leaks :
    sampleRaceEnv.crypto.Succeeds rtpPktBodySize ∧
      ∃ s, exec (raceStep sampleRaceEnv) (raceInit []) recastRun = some s ∧ UnderLimit s ∧
        s.net.log = [.sendto leakedDatagram,
          .protect .noCtx leakedDatagram.header leakedDatagram.body] ∧
        ¬ Clear s.net.log := by
  refine ⟨invertingCrypto_succeeds _, ?_⟩
  have hrun : (exec (raceStep sampleRaceEnv) (raceInit []) recastRun).any (fun s =>
      decide (UnderLimit s ∧
        s.net.log = [.sendto leakedDatagram,
          .protect .noCtx leakedDatagram.header leakedDatagram.body] ∧
        ¬ Clear s.net.log)) = true := by
    decide +kernel
  obtain ⟨s, hs, hp⟩ := (Option.any_eq_true _ _).mp hrun
  exact ⟨s, hs, of_decide_eq_true hp⟩

/-- A cast and a packet of the encoder after it, one at a time. -/
theorem clear_of_exclusive_castRun :
    ∃ s, Run (raceStep sampleRaceEnv) (fun s a => Exclusive s a ∧ UnderLimit s) (raceInit [])
        (castRun (castTo 5004 1) ++ bufferRun oneByteKeyframe ++ List.replicate 8 .encoder) s ∧
      s.net.sent = 1 ∧ Clear s.net.log := by
  have hrun : (execWhen (raceStep sampleRaceEnv) (fun s a => Exclusive s a ∧ UnderLimit s)
      (raceInit [])
      (castRun (castTo 5004 1) ++ bufferRun oneByteKeyframe ++ List.replicate 8 .encoder)).any
      (fun s => decide (s.net.sent = 1)) = true := by
    decide +kernel
  obtain ⟨s, hs, hp⟩ := exists_run_of_execWhen hrun
  exact ⟨s, hs, of_decide_eq_true hp, clear_of_exclusive (invertingCrypto_succeeds _) hs⟩

end CameraDaemon
