import CameraDaemon.Base64
import CameraDaemon.Os
import CameraDaemon.Srtp.Protect

/-!
# The SRTP sender

`rtpworker.c` keeps one sender context: the message buffer with its RTP header, the SRTP context,
the UDP socket and the receiver's address.  `prepare_srtp_sender` rewrites all of it, statement by
statement, for a new receiver; `srtp_sender_callback` cuts a block of video into packets and, for
each, copies the body, moves the header on, protects the message in place and sends it.

Each statement that touches the shared context is a definition of its own, so that the sequential
functions below and the interleaving of two threads are built from the same parts.

## Main definitions

* `SrtpSenderContext` — `struct srtp_sender_context`.
* `PrepStmt`, `prepStep`, `prepareSrtpSender` — the statements of `prepare_srtp_sender`, in order.
* `nextChunk`, `rtpChunks` — the loop control of `srtp_sender_callback`.
* `sendPacket`, `srtpSenderCallback` — one turn of its loop, and the whole call.

## Main results

* `prepareSrtpSender_eq` — what a call of `prepare_srtp_sender` does, in one equation.
* `SenderSeq`, `SenderAt` — the sender has sent exactly the packets `1, …, k` of its session.
* `prepareSrtpSender_at` — a prepared sender has sent nothing.
* `sendPacket_next` — **one turn of the loop sends packet `k + 1`.**
-/

namespace CameraDaemon

open ByteOrder CString FdTable Memory

/-! ### The sender context -/

/-- `RTP_PKT_SIZE`. -/
def rtpPktSize : ℕ := 1378

/-- `RTP_HEADER_LEN`. -/
def rtpHeaderLen : ℕ := 12

/-- `RTP_PKT_BODY_SIZE`.  Kept folded: a sum with it is compared with the range of `int`. -/
@[irreducible] def rtpPktBodySize : ℕ := rtpPktSize - rtpHeaderLen

theorem rtpPktBodySize_eq : rtpPktBodySize = 1366 := by
  rw [rtpPktBodySize]
  rfl

/-- The fields of `struct sockaddr_in` that the sender sets. -/
structure SockaddrIn where
  sinFamily : ℕ
  sinPort : UInt16
  sinAddr : UInt32
  deriving DecidableEq, Repr

/-- `struct srtp_sender_context`; a null `srtp_ctx` is `none`. -/
structure SrtpSenderContext where
  message : RtpMsg
  srtpCtx : Option SrtpCtx
  sock : ℤ
  raddr : SockaddrIn

/-- The context as `srtp_backend_init` allocates it, all zero. -/
def srtpBackendInit : SrtpSenderContext :=
  { message :=
      { header :=
          { cc := 0, x := 0, p := 0, version := 0, pt := 0, m := 0, seq := 0, ts := 0, ssrc := 0 }
        body := fun _ => 0 }
    srtpCtx := none
    sock := 0
    raddr := { sinFamily := 0, sinPort := 0, sinAddr := 0 } }

/-- Change the header of the message. -/
def SrtpSenderContext.onHeader (ctx : SrtpSenderContext) (f : SrtpHdr → SrtpHdr) :
    SrtpSenderContext :=
  { ctx with message := { ctx.message with header := f ctx.message.header } }

/-! ### Preparing a session -/

/-- `cipher_key_len` of the policy: sixteen octets of key and fourteen of salt. -/
def cipherKeyLen : ℕ := 30

/-- `PF_INET`. -/
def pfInet : ℕ := 2

/-- The arguments of `prepare_srtp_sender`. -/
structure CastArgs where
  /-- What `inet_aton(receiver_ip, …)` leaves in `rcvr_addr`. -/
  rcvrAddr : UInt32
  receiverPort : Int32
  ssrc : Int32
  inputKey : CStr
  /-- What the stack holds where the array `key` is put. -/
  stale : ℕ → UInt8

/-- The calls of `exit` in `prepare_srtp_sender`. -/
inductive SenderExit
  /-- "error: padding in base64 unexpected". -/
  | padding
  /-- "error: too few digits in key/salt". -/
  | tooFewDigits
  /-- "error: too many digits in key/salt". -/
  | tooManyDigits
  /-- "local port bind". -/
  | bind
  /-- "can't create srtp session". -/
  | srtpCreate
  deriving DecidableEq, Repr

/-- `expected_len`. -/
def expectedLen : ℕ := cipherKeyLen * 4 / 3

/-- The decoding of the key text: characters read, padding, the array `key`. -/
def CastArgs.decoded (args : CastArgs) : ℕ × Option ℕ × (ℕ → UInt8) :=
  base64StringToOctetString args.stale args.inputKey.mem expectedLen

/-- The checks of the key, up to the last one. -/
@[irreducible] def CastArgs.keyError (args : CastArgs) : Option SenderExit :=
  if args.decoded.2.1 ≠ some 0 then some .padding
  else if args.decoded.1 < expectedLen then some .tooFewDigits
  else if intOfSize args.inputKey.strlen > Int.ofNat (cipherKeyLen * 2) then some .tooManyDigits
  else none

/-- The policy given to `srtp_create`. -/
def CastArgs.policy (args : CastArgs) : SrtpPolicy :=
  { ssrcValue := args.ssrc.toUInt32
    key := slice args.decoded.2.2 0 cipherKeyLen
    secServ := .conf
    windowSize := 0
    allowRepeatTx := 0 }

/-- `htons(receiver_port)` reads the low half of its argument. -/
def CastArgs.port (args : CastArgs) : UInt16 := args.receiverPort.toUInt32.toUInt16

/-- The descriptors of the process, the sender context and the number of sessions prepared so
far. -/
structure SenderWorld where
  os : FdTable OsObject
  ctx : SrtpSenderContext
  sessions : ℕ

/-- The process before the first cast, with the descriptors open by then. -/
def senderStart (os : FdTable OsObject) : SenderWorld :=
  { os := os, ctx := srtpBackendInit, sessions := 0 }

/-- The statements of `prepare_srtp_sender`, without those on local variables alone. -/
inductive PrepStmt
  | ssrc
  | ts
  | seq
  | m
  | pt
  | version
  | p
  | x
  | cc
  | keyChecks
  | socket
  | sinAddr
  | sinFamily
  | sinPort
  | bind
  | publish
  | addStream
  deriving DecidableEq, Repr

/-- The assignments to the header of the message. -/
def PrepStmt.header : List PrepStmt := [.ssrc, .ts, .seq, .m, .pt, .version, .p, .x, .cc]

/-- The assignments to the socket and the receiver's address. -/
def PrepStmt.address : List PrepStmt := [.socket, .sinAddr, .sinFamily, .sinPort]

/-- The order of the statements. -/
def PrepStmt.all : List PrepStmt :=
  header ++ [.keyChecks] ++ address ++ [.bind] ++ [.publish, .addStream]

/-- One statement of `prepare_srtp_sender`.  `srtp_create` is two of them: it publishes a context
without streams and adds the stream to it afterwards. -/
def prepStep (sys : SenderSystem) (args : CastArgs) (w : SenderWorld) :
    PrepStmt → Except SenderExit SenderWorld
  | .ssrc => .ok { w with ctx := w.ctx.onHeader fun h => { h with ssrc := htonl args.ssrc.toUInt32 } }
  | .ts => .ok { w with ctx := w.ctx.onHeader fun h => { h with ts := 0 } }
  | .seq => .ok { w with ctx := w.ctx.onHeader fun h => { h with seq := 0 } }
  | .m => .ok { w with ctx := w.ctx.onHeader fun h => { h with m := 0 } }
  | .pt => .ok { w with ctx := w.ctx.onHeader fun h => { h with pt := 99 } }
  | .version => .ok { w with ctx := w.ctx.onHeader fun h => { h with version := 2 } }
  | .p => .ok { w with ctx := w.ctx.onHeader fun h => { h with p := 0 } }
  | .x => .ok { w with ctx := w.ctx.onHeader fun h => { h with x := 0 } }
  | .cc => .ok { w with ctx := w.ctx.onHeader fun h => { h with cc := 0 } }
  | .keyChecks =>
    match args.keyError with
    | some e => .error e
    | none => .ok w
  | .socket =>
    -- the result is not tested, and `bind` fails on it
    if sys.socketOk w.sessions then
      .ok { w with os := w.os.install (.udp none), ctx := { w.ctx with sock := w.os.lowestUnused } }
    else .ok { w with ctx := { w.ctx with sock := -1 } }
  | .sinAddr =>
    .ok { w with ctx := { w.ctx with raddr := { w.ctx.raddr with sinAddr := args.rcvrAddr } } }
  | .sinFamily =>
    .ok { w with ctx := { w.ctx with raddr := { w.ctx.raddr with sinFamily := pfInet } } }
  | .sinPort =>
    .ok { w with ctx := { w.ctx with raddr := { w.ctx.raddr with sinPort := htons args.port } } }
  | .bind =>
    match bindUdp sys w.sessions w.os w.ctx.sock args.port with
    | some os => .ok { w with os := os }
    | none => .error .bind
  | .publish =>
    if sys.contextOk w.sessions then
      .ok { w with ctx := { w.ctx with srtpCtx := some srtpCreatePublished } }
    else .error .srtpCreate
  | .addStream =>
    if sys.streamOk w.sessions then
      match srtpAddStream srtpCreatePublished args.policy with
      | .ok srtp =>
        .ok { w with ctx := { w.ctx with srtpCtx := some srtp }, sessions := w.sessions + 1 }
      | .error _ => .error .srtpCreate
    else .error .srtpCreate

/-- `prepare_srtp_sender`, or the `exit` it reaches. -/
def prepareSrtpSender (sys : SenderSystem) (args : CastArgs) (w : SenderWorld) :
    Except SenderExit SenderWorld :=
  PrepStmt.all.foldlM (prepStep sys args) w

/-- The header a session starts with. -/
def CastArgs.header (args : CastArgs) : SrtpHdr :=
  { cc := 0, x := 0, p := 0, version := 2, pt := 99, m := 0, seq := 0, ts := 0
    ssrc := htonl args.ssrc.toUInt32 }

/-- The stream a session starts with. -/
def CastArgs.stream (args : CastArgs) : SrtpStream :=
  { ssrc := htonl args.ssrc.toUInt32
    masterKey := args.policy.key
    limit := srtpKeyLimitInit
    rtpRdbx := srtpRdbxInit 128
    rtpServices := .conf
    direction := .unknown
    allowRepeatTx := false
    pendingRoc := 0 }

/-- The sender context a session starts with; the body of the message is left alone. -/
def CastArgs.context (args : CastArgs) (body : ℕ → UInt8) (sock : ℤ) : SrtpSenderContext :=
  { message := { header := args.header, body := body }
    srtpCtx := some { streamList := [args.stream] }
    sock := sock
    raddr := { sinFamily := pfInet, sinPort := htons args.port, sinAddr := args.rcvrAddr } }

theorem srtpAddStream_policy (args : CastArgs) :
    srtpAddStream srtpCreatePublished args.policy = .ok { streamList := [args.stream] } := by
  simp [srtpAddStream, srtpStreamInit, srtpCreatePublished, CastArgs.policy, CastArgs.stream,
    SrtpPolicy.window]

/-- The `exit` that a refusal of the system comes to. -/
def SenderSystem.refusal (sys : SenderSystem) (w : SenderWorld) (port : UInt16) :
    Option SenderExit :=
  if sys.socketOk w.sessions = true ∧ sys.bindOk w.sessions (w.os.install (.udp none)) port = true
  then
    if sys.contextOk w.sessions = true ∧ sys.streamOk w.sessions = true then none
    else some .srtpCreate
  else some .bind

/-- The process with a session that has been prepared. -/
def SenderWorld.prepared (w : SenderWorld) (sys : SenderSystem) (args : CastArgs) : SenderWorld :=
  { os := w.os.install (.udp (some (sys.localPort w.sessions args.port)))
    ctx := args.context w.ctx.message.body w.os.lowestUnused
    sessions := w.sessions + 1 }

section Prepare

variable (sys : SenderSystem) (args : CastArgs) (w : SenderWorld)

theorem foldlM_prepStep_header :
    PrepStmt.header.foldlM (prepStep sys args) w =
      .ok { w with ctx :=
        { w.ctx with message := { header := args.header, body := w.ctx.message.body } } } := by
  simp only [PrepStmt.header, List.foldlM_cons, List.foldlM_nil, prepStep,
    SrtpSenderContext.onHeader, CastArgs.header, bind, Except.bind, pure, Except.pure]

/-- The descriptor and the address, then `bind`: the socket is there and bound, or the process
exits. -/
theorem foldlM_prepStep_socket :
    (PrepStmt.address ++ [PrepStmt.bind]).foldlM (prepStep sys args) w =
      if sys.socketOk w.sessions = true ∧
          sys.bindOk w.sessions (w.os.install (.udp none)) args.port = true then
        .ok { w with
          os := w.os.install (.udp (some (sys.localPort w.sessions args.port)))
          ctx := { w.ctx with
            sock := w.os.lowestUnused
            raddr :=
              { sinFamily := pfInet, sinPort := htons args.port, sinAddr := args.rcvrAddr } } }
      else .error .bind := by
  simp only [PrepStmt.address, List.cons_append, List.nil_append, List.foldlM_cons,
    List.foldlM_nil, prepStep]
  cases hsocket : sys.socketOk w.sessions with
  | false => simp [bindUdp, bind, Except.bind]
  | true =>
    cases hbind : sys.bindOk w.sessions (w.os.install (.udp none)) args.port with
    | false => simp [bindUdp_install, hbind, bind, Except.bind]
    | true => simp [bindUdp_install, hbind, bind, Except.bind, pure, Except.pure]

theorem foldlM_prepStep_create :
    [PrepStmt.publish, .addStream].foldlM (prepStep sys args) w =
      if sys.contextOk w.sessions = true ∧ sys.streamOk w.sessions = true then
        .ok { w with
          ctx := { w.ctx with srtpCtx := some { streamList := [args.stream] } }
          sessions := w.sessions + 1 }
      else .error .srtpCreate := by
  simp only [List.foldlM_cons, List.foldlM_nil, prepStep, srtpAddStream_policy]
  cases hcontext : sys.contextOk w.sessions with
  | false => simp [bind, Except.bind]
  | true =>
    cases hstream : sys.streamOk w.sessions with
    | false => simp [hstream, bind, Except.bind]
    | true => simp [hstream, bind, Except.bind, pure, Except.pure]

/-- **What a call of `prepare_srtp_sender` does**: it checks the key, then asks the system, and leaves
a context that depends on the arguments, the descriptor and the stale body alone. -/
theorem prepareSrtpSender_eq :
    prepareSrtpSender sys args w =
      match args.keyError.or (sys.refusal w args.port) with
      | some e => .error e
      | none => .ok (w.prepared sys args) := by
  have hall : PrepStmt.all =
      PrepStmt.header ++ [PrepStmt.keyChecks] ++ (PrepStmt.address ++ [PrepStmt.bind]) ++
        [PrepStmt.publish, .addStream] := rfl
  have hkey : [PrepStmt.keyChecks].foldlM (prepStep sys args) =
      fun v => match args.keyError with | some e => .error e | none => .ok v := by
    funext v
    simp only [List.foldlM_cons, List.foldlM_nil, bind_pure, prepStep]
  rw [prepareSrtpSender, hall, List.foldlM_append, List.foldlM_append, List.foldlM_append,
    foldlM_prepStep_header, hkey]
  cases args.keyError with
  | some e => simp only [bind, Except.bind, Option.some_or]
  | none =>
    simp only [bind, Except.bind, Option.none_or, foldlM_prepStep_socket, SenderSystem.refusal]
    by_cases hsocket : sys.socketOk w.sessions = true ∧
        sys.bindOk w.sessions (w.os.install (.udp none)) args.port = true
    · simp only [if_pos hsocket, foldlM_prepStep_create]
      by_cases hcreate : sys.contextOk w.sessions = true ∧ sys.streamOk w.sessions = true
      · simp only [if_pos hcreate, SenderWorld.prepared, CastArgs.context]
      · simp only [if_neg hcreate]
    · simp only [if_neg hsocket]

variable {sys args w}

/-- A call that returns has passed the checks of the key and has been refused nothing. -/
theorem prepareSrtpSender_eq_ok {w' : SenderWorld} (h : prepareSrtpSender sys args w = .ok w') :
    (args.keyError = none ∧ sys.refusal w args.port = none) ∧ w' = w.prepared sys args := by
  rw [prepareSrtpSender_eq] at h
  split at h
  · cases h
  · next hnone =>
    cases h
    exact ⟨Option.or_eq_none_iff.mp hnone, rfl⟩

/-- With a good key and a system that refuses nothing a session is prepared. -/
theorem prepareSrtpSender_of_granted (hkey : args.keyError = none)
    (hsys : sys.refusal w args.port = none) :
    prepareSrtpSender sys args w = .ok (w.prepared sys args) := by
  rw [prepareSrtpSender_eq, hkey, hsys]
  rfl

/-- With a good key the process exits where the system refuses something. -/
theorem prepareSrtpSender_of_refused (hkey : args.keyError = none) {e : SenderExit}
    (hsys : sys.refusal w args.port = some e) : prepareSrtpSender sys args w = .error e := by
  rw [prepareSrtpSender_eq, hkey, hsys]
  rfl

/-- Where only the ports of the process count, a port that is bound already is what is refused. -/
theorem SenderSystem.OwnPortsOnly.refusal_eq (hsys : sys.OwnPortsOnly) (w : SenderWorld)
    {port : UInt16} (hport : port ≠ 0) :
    sys.refusal w port = if udpBound w.os port then some .bind else none := by
  have hbind := hsys.bind_iff w.sessions (w.os.install (.udp none)) port hport
  rw [udpBound_install_none] at hbind
  rw [refusal, hsys.socket_ok, hsys.context_ok, hsys.stream_ok]
  cases hbound : udpBound w.os port with
  | true =>
    rw [if_neg (by simp [hbind, hbound])]
    rfl
  | false =>
    rw [if_pos ⟨rfl, hbind.mpr hbound⟩]
    rfl

end Prepare

/-- The key text `AAAA…A` of forty characters. -/
def zeroKey : CStr :=
  { chars := List.replicate 40 65
    nonzero := ne_zero_of_all (by decide)
    behind := fun _ => 0 }

/-- A cast to `192.168.1.2` with the key of forty zero sextets. -/
def castTo (port ssrc : Int32) : CastArgs :=
  { rcvrAddr := 0x0201a8c0, receiverPort := port, ssrc := ssrc, inputKey := zeroKey
    stale := fun _ => 0 }

theorem castTo_keyError : (castTo 5004 1).keyError = none := by decide +kernel

/-- A first cast, on a system that refuses nothing but a port of the process. -/
theorem prepareSrtpSender_castTo :
    prepareSrtpSender ownPorts (castTo 5004 1) (senderStart []) =
      .ok ((senderStart []).prepared ownPorts (castTo 5004 1)) :=
  prepareSrtpSender_of_granted castTo_keyError rfl

/-! ### Sending a block -/

/-- What one turn of the loop of `srtp_sender_callback` works on: the length of the packet's body,
which fits the message, and the value of `offset` once it has been moved on, which is where the body
is copied from. -/
structure RtpChunk where
  bodyLen : ℕ
  offset : ℕ
  bodyLen_le : bodyLen ≤ rtpPktBodySize
  deriving DecidableEq, Repr

/-- The loop control of `srtp_sender_callback` at `offset`; `none` when `offset + RTP_PKT_BODY_SIZE`
leaves the range of `int`. -/
def nextChunk (length offset : ℕ) : Option RtpChunk :=
  if offset + rtpPktBodySize ≥ 2 ^ 31 then none
  else if h : offset + rtpPktBodySize < length then
    some
      { bodyLen := rtpPktBodySize
        offset := offset + rtpPktBodySize
        bodyLen_le := Nat.le_refl _ }
  else
    some
      { bodyLen := length - offset
        offset := length
        bodyLen_le := Nat.sub_le_iff_le_add'.mpr (Nat.le_of_not_lt h) }

theorem lt_offset_of_nextChunk {length offset : ℕ} {c : RtpChunk}
    (h : nextChunk length offset = some c) (hlt : offset < length) :
    offset < c.offset ∧ c.offset ≤ length := by
  have hsize := rtpPktBodySize_eq
  rw [nextChunk] at h
  split at h
  · cases h
  split at h
  · cases h
    show offset < offset + rtpPktBodySize ∧ offset + rtpPktBodySize ≤ length
    omega
  · cases h
    exact ⟨hlt, le_rfl⟩

/-- The loop of `srtp_sender_callback` without its packets, for at most `turns` turns: the chunks
and whether the loop ends in a signed overflow. -/
def rtpChunksFor (length : ℕ) : (turns offset : ℕ) → List RtpChunk × Bool
  | 0, _ => ([], false)
  | turns + 1, offset =>
    if offset < length then
      match nextChunk length offset with
      | none => ([], true)
      | some c =>
        let rest := rtpChunksFor length turns c.offset
        (c :: rest.1, rest.2)
    else ([], false)

/-- The turns of the loop from `offset` on.  Every turn moves `offset` on, so there are at most as
many as octets left; `rtpChunks_eq` says that none is cut off. -/
def rtpChunks (length offset : ℕ) : List RtpChunk × Bool :=
  rtpChunksFor length (length - offset) offset

theorem rtpChunksFor_of_ge {length offset : ℕ} (turns : ℕ) (h : length ≤ offset) :
    rtpChunksFor length turns offset = ([], false) := by
  cases turns with
  | zero => rfl
  | succ turns => rw [rtpChunksFor, if_neg (Nat.not_lt.mpr h)]

/-- As many turns as octets left are enough. -/
theorem rtpChunksFor_eq_of_le {length : ℕ} : ∀ (turns offset : ℕ), length - offset ≤ turns →
    rtpChunksFor length turns offset = rtpChunksFor length (length - offset) offset := by
  intro turns
  induction turns using Nat.strong_induction_on with
  | _ turns ih =>
    intro offset h
    rcases Nat.lt_or_ge offset length with hlt | hge
    · obtain ⟨m, hm⟩ : ∃ m, turns = m + 1 := ⟨turns - 1, by omega⟩
      obtain ⟨n, hn⟩ : ∃ n, length - offset = n + 1 := ⟨length - offset - 1, by omega⟩
      rw [hm, hn, rtpChunksFor, rtpChunksFor, if_pos hlt, if_pos hlt]
      cases hc : nextChunk length offset with
      | none => rfl
      | some c =>
        have hmove := lt_offset_of_nextChunk hc hlt
        simp only [ih m (by omega) c.offset (by omega), ih n (by omega) c.offset (by omega)]
    · rw [rtpChunksFor_of_ge _ hge, rtpChunksFor_of_ge _ hge]

theorem rtpChunks_of_ge {length offset : ℕ} (h : length ≤ offset) :
    rtpChunks length offset = ([], false) :=
  rtpChunksFor_of_ge _ h

/-- **The loop, one turn at a time.** -/
theorem rtpChunks_eq {length offset : ℕ} (hlt : offset < length) :
    rtpChunks length offset =
      match nextChunk length offset with
      | none => ([], true)
      | some c => (c :: (rtpChunks length c.offset).1, (rtpChunks length c.offset).2) := by
  obtain ⟨n, hn⟩ : ∃ n, length - offset = n + 1 := ⟨length - offset - 1, by omega⟩
  rw [rtpChunks, hn, rtpChunksFor, if_pos hlt]
  cases hc : nextChunk length offset with
  | none => rfl
  | some c =>
    have hmove := lt_offset_of_nextChunk hc hlt
    have hturns := rtpChunksFor_eq_of_le n c.offset (show length - c.offset ≤ n by omega)
    simp only [hturns, rtpChunks]

/-- A datagram handed to `sendto`: the first `pkt_len` octets of the message, the socket and the
address. -/
structure RtpDatagram where
  header : SrtpHdr
  body : List UInt8
  sock : ℤ
  dest : SockaddrIn
  deriving DecidableEq, Repr

/-- What `srtp_protect` returned for a packet, the index it used and the datagram sent after it. -/
structure RtpSent where
  status : SrtpErrStatus
  index : Option ℕ
  datagram : RtpDatagram
  deriving DecidableEq, Repr

/-- A packet: its chunk, the header and the body at the moment `srtp_protect` is called, and what
came of the call, unless the call crashed. -/
structure RtpPacket where
  chunk : RtpChunk
  header : SrtpHdr
  body : List UInt8
  sent : Option RtpSent
  deriving DecidableEq, Repr

/-- `memcpy(srtpctx->message.body, &data[offset], body_len)`. -/
def copyBody (data : ℕ → UInt8) (c : RtpChunk) (ctx : SrtpSenderContext) : SrtpSenderContext :=
  { ctx with message :=
      { ctx.message with body := store ctx.message.body 0 (slice data c.offset c.bodyLen) } }

/-- `hdr->seq = ntohs(hdr->seq) + 1`. -/
def bumpSeq (ctx : SrtpSenderContext) : SrtpSenderContext :=
  ctx.onHeader fun h => { h with seq := ntohs h.seq + 1 }

/-- `hdr->seq = htons(hdr->seq)`. -/
def swapSeq (ctx : SrtpSenderContext) : SrtpSenderContext :=
  ctx.onHeader fun h => { h with seq := htons h.seq }

/-- `hdr->ts = ntohs(hdr->ts) + 1`, which reads the low half of the timestamp. -/
def bumpTs (ctx : SrtpSenderContext) : SrtpSenderContext :=
  ctx.onHeader fun h => { h with ts := (ntohs h.ts.toUInt16).toUInt32 + 1 }

/-- `hdr->ts = htons(hdr->ts)`, which keeps the low half of the timestamp. -/
def swapTs (ctx : SrtpSenderContext) : SrtpSenderContext :=
  ctx.onHeader fun h => { h with ts := (htons h.ts.toUInt16).toUInt32 }

/-- `srtp_protect(srtpctx->srtp_ctx, &srtpctx->message.header, &pkt_len)`: the status, the packet
length and the index used; `none` when the context is null and the call crashes. -/
def protectMessage (crypto : SrtpCrypto) (pktLen : ℕ) (ctx : SrtpSenderContext) :
    Option (SrtpSenderContext × SrtpErrStatus × ℕ × Option ℕ) :=
  match ctx.srtpCtx with
  | none => none
  | some srtp =>
    let (status, srtp, msg, pktLen, index) := srtpProtect crypto srtp ctx.message pktLen
    some ({ ctx with srtpCtx := some srtp, message := msg }, status, pktLen, index)

/-- The datagram `sendto` is given. -/
def datagram (pktLen : ℕ) (ctx : SrtpSenderContext) : RtpDatagram :=
  { header := ctx.message.header
    body := slice ctx.message.body 0 (pktLen - rtpHeaderLen)
    sock := ctx.sock
    dest := ctx.raddr }

/-- The message of a packet, up to the call of `srtp_protect`. -/
def fillMessage (data : ℕ → UInt8) (c : RtpChunk) (ctx : SrtpSenderContext) : SrtpSenderContext :=
  swapTs (bumpTs (swapSeq (bumpSeq (copyBody data c ctx))))

/-- The header of a filled message: the sequence number and the timestamp are counted up. -/
theorem fillMessage_header (data : ℕ → UInt8) (c : RtpChunk) (ctx : SrtpSenderContext) :
    (fillMessage data c ctx).message.header =
      { ctx.message.header with
        seq := htons (ntohs ctx.message.header.seq + 1)
        ts :=
          (htons ((ntohs ctx.message.header.ts.toUInt16).toUInt32 + 1).toUInt16).toUInt32 } := by
  simp only [fillMessage, swapTs, bumpTs, swapSeq, bumpSeq, copyBody, SrtpSenderContext.onHeader]

theorem fillMessage_raddr (data : ℕ → UInt8) (c : RtpChunk) (ctx : SrtpSenderContext) :
    (fillMessage data c ctx).raddr = ctx.raddr := by
  simp only [fillMessage, swapTs, bumpTs, swapSeq, bumpSeq, copyBody, SrtpSenderContext.onHeader]

theorem fillMessage_srtpCtx (data : ℕ → UInt8) (c : RtpChunk) (ctx : SrtpSenderContext) :
    (fillMessage data c ctx).srtpCtx = ctx.srtpCtx := by
  simp only [fillMessage, swapTs, bumpTs, swapSeq, bumpSeq, copyBody, SrtpSenderContext.onHeader]

theorem fillMessage_body (data : ℕ → UInt8) (c : RtpChunk) (ctx : SrtpSenderContext) :
    (fillMessage data c ctx).message.body =
      store ctx.message.body 0 (slice data c.offset c.bodyLen) := by
  simp only [fillMessage, swapTs, bumpTs, swapSeq, bumpSeq, copyBody, SrtpSenderContext.onHeader]

/-- One turn of the loop of `srtp_sender_callback`. -/
def sendPacket (crypto : SrtpCrypto) (data : ℕ → UInt8) (c : RtpChunk) (ctx : SrtpSenderContext) :
    SrtpSenderContext × RtpPacket :=
  let filled := fillMessage data c ctx
  let packet : RtpPacket :=
    { chunk := c
      header := filled.message.header
      body := slice filled.message.body 0 c.bodyLen
      sent := none }
  match protectMessage crypto (c.bodyLen + rtpHeaderLen) filled with
  | none => (filled, packet)
  | some (ctx, status, pktLen, index) =>
    (ctx, { packet with
      sent := some { status := status, index := index, datagram := datagram pktLen ctx } })

/-- How a call of `srtp_sender_callback` ends. -/
inductive SenderEnd
  | returned
  /-- Undefined behaviour: `offset` leaves the range of `int`. -/
  | overflow
  /-- `srtp_protect` was given a null context. -/
  | crashed
  deriving DecidableEq, Repr

/-- The turns of the loop, in order, up to a crash. -/
def sendChunks (crypto : SrtpCrypto) (data : ℕ → UInt8) :
    List RtpChunk → SrtpSenderContext → Bool × SrtpSenderContext × List RtpPacket
  | [], ctx => (false, ctx, [])
  | c :: cs, ctx =>
    let (ctx, packet) := sendPacket crypto data c ctx
    if packet.sent = none then (true, ctx, [packet])
    else
      let rest := sendChunks crypto data cs ctx
      (rest.1, rest.2.1, packet :: rest.2.2)

theorem sendChunks_cons (crypto : SrtpCrypto) (data : ℕ → UInt8) (c : RtpChunk)
    (cs : List RtpChunk) (ctx : SrtpSenderContext) :
    sendChunks crypto data (c :: cs) ctx =
      if (sendPacket crypto data c ctx).2.sent = none then
        (true, (sendPacket crypto data c ctx).1, [(sendPacket crypto data c ctx).2])
      else
        ((sendChunks crypto data cs (sendPacket crypto data c ctx).1).1,
          (sendChunks crypto data cs (sendPacket crypto data c ctx).1).2.1,
          (sendPacket crypto data c ctx).2 ::
            (sendChunks crypto data cs (sendPacket crypto data c ctx).1).2.2) := rfl

/-- `srtp_sender_callback`: how it ends, the context it leaves and the packets of the call. -/
def srtpSenderCallback (crypto : SrtpCrypto) (data : ℕ → UInt8) (length : ℕ)
    (ctx : SrtpSenderContext) : SenderEnd × SrtpSenderContext × List RtpPacket :=
  let chunks := rtpChunks length 0
  let (crashed, ctx, packets) := sendChunks crypto data chunks.1 ctx
  (if crashed then .crashed else if chunks.2 then .overflow else .returned, ctx, packets)

/-! ### The packets of a session -/

/-- The stream is the only one of the context and has protected the packets `1, …, k`, the header
agrees with it on the SSRC, and the sequence number field of the header holds `seq`. -/
structure SenderSeq (ctx : SrtpSenderContext) (stream : SrtpStream) (k : ℕ) (seq : UInt16) :
    Prop where
  srtpCtx : ctx.srtpCtx = some { streamList := [stream] }
  at_k : stream.At k
  ssrc : ctx.message.header.ssrc = stream.ssrc
  cc : ctx.message.header.cc = 0
  x : ctx.message.header.x = 0
  seq : ctx.message.header.seq = seq

/-- The sender has sent exactly the packets `1, …, k` of the session of `stream`. -/
def SenderAt (ctx : SrtpSenderContext) (stream : SrtpStream) (k : ℕ) : Prop :=
  SenderSeq ctx stream k (htons (UInt16.ofNat k))

/-- A prepared sender has sent nothing. -/
theorem senderAt_context (args : CastArgs) (body : ℕ → UInt8) (sock : ℤ) :
    SenderAt (args.context body sock) args.stream 0 where
  srtpCtx := rfl
  at_k := ⟨rfl, rfl, rfl, rfl⟩
  ssrc := rfl
  cc := rfl
  x := rfl
  seq := show (0 : UInt16) = htons (UInt16.ofNat 0) by decide

theorem prepareSrtpSender_at {sys : SenderSystem} {args : CastArgs} {w w' : SenderWorld}
    (h : prepareSrtpSender sys args w = .ok w') : SenderAt w'.ctx args.stream 0 := by
  rw [(prepareSrtpSender_eq_ok h).2]
  exact senderAt_context args _ _

section Packet

variable {ctx : SrtpSenderContext} {stream : SrtpStream} {k : ℕ} {seq : UInt16}

theorem SenderSeq.copyBody (h : SenderSeq ctx stream k seq) (data : ℕ → UInt8) (c : RtpChunk) :
    SenderSeq (copyBody data c ctx) stream k seq :=
  ⟨h.srtpCtx, h.at_k, h.ssrc, h.cc, h.x, h.seq⟩

theorem SenderSeq.bumpSeq (h : SenderSeq ctx stream k (htons seq)) :
    SenderSeq (bumpSeq ctx) stream k (seq + 1) := by
  refine ⟨h.srtpCtx, h.at_k, h.ssrc, h.cc, h.x, ?_⟩
  show ntohs ctx.message.header.seq + 1 = seq + 1
  rw [h.seq, ntohs_htons]

theorem SenderSeq.swapSeq (h : SenderSeq ctx stream k seq) :
    SenderSeq (swapSeq ctx) stream k (htons seq) := by
  refine ⟨h.srtpCtx, h.at_k, h.ssrc, h.cc, h.x, ?_⟩
  show htons ctx.message.header.seq = htons seq
  rw [h.seq]

theorem SenderSeq.bumpTs (h : SenderSeq ctx stream k seq) : SenderSeq (bumpTs ctx) stream k seq :=
  ⟨h.srtpCtx, h.at_k, h.ssrc, h.cc, h.x, h.seq⟩

theorem SenderSeq.swapTs (h : SenderSeq ctx stream k seq) : SenderSeq (swapTs ctx) stream k seq :=
  ⟨h.srtpCtx, h.at_k, h.ssrc, h.cc, h.x, h.seq⟩

/-- Filling the message gives it the next sequence number. -/
theorem SenderAt.fillMessage (h : SenderAt ctx stream k) (data : ℕ → UInt8) (c : RtpChunk) :
    SenderSeq (fillMessage data c ctx) stream k (htons (UInt16.ofNat (k + 1))) := by
  rw [UInt16.ofNat_add]
  exact (SenderSeq.copyBody h data c).bumpSeq.swapSeq.bumpTs.swapTs

/-- Once the header carries the next sequence number, protecting the message succeeds under the next
index and leaves the header alone. -/
theorem protectMessage_next {crypto : SrtpCrypto} (hc : crypto.Succeeds rtpPktBodySize)
    (hk : k < 2 ^ 48 - 2) (h : SenderSeq ctx stream k (htons (UInt16.ofNat (k + 1))))
    (c : RtpChunk) :
    ∃ (stream' : SrtpStream) (ctx' : SrtpSenderContext),
      SenderAt ctx' stream' (k + 1) ∧ stream'.ssrc = stream.ssrc ∧
      stream'.masterKey = stream.masterKey ∧ ctx'.message.header = ctx.message.header ∧
      protectMessage crypto (c.bodyLen + rtpHeaderLen) ctx =
        some (ctx', .ok, c.bodyLen + rtpHeaderLen, some (k + 1)) := by
  have hnum : (ntohs ctx.message.header.seq).toNat = (k + 1) % 2 ^ 16 := by
    rw [h.seq, ntohs_htons, UInt16.toNat_ofNat']
  have hlen : octetsInRtpHeader ≤ c.bodyLen + rtpHeaderLen := Nat.le_add_left _ _
  have hfits : c.bodyLen + rtpHeaderLen - octetsInRtpHeader ≤ rtpPktBodySize := c.bodyLen_le
  obtain ⟨stream', hat', hs', hkey', hprot⟩ :=
    srtpProtect_next hc h.at_k hk hlen hfits h.cc h.x h.ssrc hnum
  refine ⟨stream',
    { ctx with
      srtpCtx := some { streamList := [stream'] }
      message := { ctx.message with
        body := store ctx.message.body 0 (crypto.encrypt stream.masterKey ctx.message.header.ssrc
          (k + 1) (slice ctx.message.body 0 (c.bodyLen + rtpHeaderLen - octetsInRtpHeader))).2 } },
    ⟨rfl, hat', ?_, h.cc, h.x, h.seq⟩, hs', hkey', rfl, ?_⟩
  · rw [hs', ← h.ssrc]
  · simp only [protectMessage, h.srtpCtx, hprot]

/-- **One turn of the loop sends packet `k + 1`**: its header carries that number and the SSRC of
the session, and it is protected under that index. -/
theorem sendPacket_next {crypto : SrtpCrypto} (hc : crypto.Succeeds rtpPktBodySize)
    (hk : k < 2 ^ 48 - 2) (h : SenderAt ctx stream k) (data : ℕ → UInt8) (c : RtpChunk) :
    ∃ (stream' : SrtpStream) (ctx' : SrtpSenderContext) (packet : RtpPacket) (d : RtpDatagram),
      sendPacket crypto data c ctx = (ctx', packet) ∧ SenderAt ctx' stream' (k + 1) ∧
      stream'.ssrc = stream.ssrc ∧ packet.header.seq = htons (UInt16.ofNat (k + 1)) ∧
      packet.header.ssrc = stream.ssrc ∧ d.header = packet.header ∧
      packet.sent = some { status := .ok, index := some (k + 1), datagram := d } := by
  have hfill := h.fillMessage data c
  obtain ⟨stream', ctx', hat', hssrc', -, hhdr', hprot⟩ := protectMessage_next hc hk hfill c
  refine ⟨stream', ctx',
    { chunk := c
      header := (fillMessage data c ctx).message.header
      body := slice (fillMessage data c ctx).message.body 0 c.bodyLen
      sent := some
        { status := .ok
          index := some (k + 1)
          datagram := datagram (c.bodyLen + rtpHeaderLen) ctx' } },
    datagram (c.bodyLen + rtpHeaderLen) ctx', ?_, hat', hssrc', hfill.seq, hfill.ssrc, hhdr', rfl⟩
  simp only [sendPacket, hprot]

end Packet

end CameraDaemon
