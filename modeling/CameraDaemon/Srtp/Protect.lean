import CameraDaemon.Lib.ByteOrder
import CameraDaemon.Lib.Memory
import CameraDaemon.Srtp.Rdbx

/-!
# Protecting an RTP packet

`srtp_protect` works in place: it is given a pointer to a packet and its length, looks up the
stream of the header's SSRC, charges the key, estimates the packet's index, marks the index as used
and only then encrypts.  Every failure on the way returns with the packet as it was, while what has
been charged and marked by then stays charged and marked.

The ciphers are a parameter (`SrtpCrypto`): setting the initialisation vector, encrypting and
authenticating under the keys derived from a master key.  The vector is built from the SSRC and the
estimated index, so those two are what the parameter is given.  Streams are created from policies
that name one SSRC; a context has no template stream, and no master key identifiers are in use.

## Main definitions

* `SrtpHdr`, `RtpMsg` — the RTP header and the message buffer around it.
* `SrtpKeyLimit`, `srtpKeyLimitUpdate` — the key usage limit.
* `SrtpStream`, `SrtpCtx`, `srtpAddStream`, `srtpCreate` — streams, contexts and their creation.
* `srtpProtect` — the function the sender calls.

## Main results

* `SrtpStream.At` — a stream that has protected exactly the packets `1, …, k`.
* `srtpProtect_next` — **packet `k + 1` of such a stream is protected under index `k + 1`.**
* `srtpProtect_noCtx` — a header whose SSRC has no stream comes back as it was.
-/

namespace CameraDaemon

open ByteOrder Memory

/-! ### Packets -/

/-- `struct srtp_hdr_t`, fields of more than one byte as they stand in memory (network order). -/
structure SrtpHdr where
  cc : BitVec 4
  x : BitVec 1
  p : BitVec 1
  version : BitVec 2
  pt : BitVec 7
  m : BitVec 1
  seq : UInt16
  ts : UInt32
  ssrc : UInt32
  deriving DecidableEq, Repr

/-- `struct rtp_msg_t`: the header and the memory of the body behind it. -/
structure RtpMsg where
  header : SrtpHdr
  body : ℕ → UInt8

/-- `octets_in_rtp_header`. -/
def octetsInRtpHeader : ℕ := 12

/-- `octets_in_rtp_extn_hdr`. -/
def octetsInRtpExtnHdr : ℕ := 4

/-- The length field of the extension header, which stands behind the contributing sources. -/
def RtpMsg.xtnLength (msg : RtpMsg) : ℕ :=
  (msg.body (4 * msg.header.cc.toNat + 2)).toNat * 256
    + (msg.body (4 * msg.header.cc.toNat + 3)).toNat

/-- `srtp_validate_rtp_header`. -/
def srtpValidateRtpHeader (msg : RtpMsg) (pktOctetLen : ℕ) : SrtpErrStatus :=
  let rtpHeaderLen := octetsInRtpHeader + 4 * msg.header.cc.toNat
  if pktOctetLen < octetsInRtpHeader then .badParam
  else if msg.header.x = 1 then
    if pktOctetLen < rtpHeaderLen + octetsInRtpExtnHdr then .badParam
    else if pktOctetLen < rtpHeaderLen + octetsInRtpExtnHdr + msg.xtnLength * 4 then .badParam
    else .ok
  else if pktOctetLen < rtpHeaderLen then .badParam
  else .ok

/-! ### The key limit -/

/-- `srtp_key_state_t`. -/
inductive SrtpKeyState
  | normal
  | pastSoftLimit
  | expired
  deriving DecidableEq, Repr

/-- `srtp_key_event_t`. -/
inductive SrtpKeyEvent
  | normal
  | softLimit
  | hardLimit
  deriving DecidableEq, Repr

/-- `srtp_key_limit_ctx_t`. -/
structure SrtpKeyLimit where
  numLeft : ℕ
  state : SrtpKeyState
  deriving DecidableEq, Repr

/-- `soft_limit`. -/
def softLimit : ℕ := 0x10000

/-- The limit `srtp_stream_init_keys` sets, `0xffffffffffff`. -/
def srtpKeyLimitInit : SrtpKeyLimit := { numLeft := 2 ^ 48 - 1, state := .normal }

/-- `srtp_key_limit_update`: one use of the key. -/
def srtpKeyLimitUpdate (key : SrtpKeyLimit) : SrtpKeyEvent × SrtpKeyLimit :=
  let numLeft := if key.numLeft = 0 then 2 ^ 64 - 1 else key.numLeft - 1
  if numLeft ≥ softLimit then (.normal, { key with numLeft := numLeft })
  else
    let state := if key.state = .normal then .pastSoftLimit else key.state
    if numLeft < 1 then (.hardLimit, { numLeft := numLeft, state := .expired })
    else (.softLimit, { numLeft := numLeft, state := state })

/-! ### Streams and contexts -/

/-- `srtp_sec_serv_t`. -/
inductive SrtpSecServ
  | none
  | conf
  | auth
  | confAndAuth
  deriving DecidableEq, Repr

/-- The confidentiality bit of a set of services. -/
def SrtpSecServ.hasConf : SrtpSecServ → Bool
  | .none => false
  | .conf => true
  | .auth => false
  | .confAndAuth => true

/-- The authentication bit of a set of services. -/
def SrtpSecServ.hasAuth : SrtpSecServ → Bool
  | .none => false
  | .conf => false
  | .auth => true
  | .confAndAuth => true

/-- `direction_t`. -/
inductive SrtpDirection
  | unknown
  | sender
  | receiver
  deriving DecidableEq, Repr

/-- The fields of `srtp_policy_t` that a stream is created from. -/
structure SrtpPolicy where
  ssrcValue : UInt32
  key : List UInt8
  secServ : SrtpSecServ
  windowSize : ℕ
  allowRepeatTx : ℕ
  deriving DecidableEq, Repr

/-- `srtp_stream_ctx_t`; the session keys are a function of the master key. -/
structure SrtpStream where
  ssrc : UInt32
  masterKey : List UInt8
  limit : SrtpKeyLimit
  rtpRdbx : SrtpRdbx
  rtpServices : SrtpSecServ
  direction : SrtpDirection
  allowRepeatTx : Bool
  pendingRoc : ℕ
  deriving DecidableEq, Repr

/-- `srtp_ctx_t`: the list of streams. -/
structure SrtpCtx where
  streamList : List SrtpStream
  deriving DecidableEq, Repr

/-- The window `srtp_stream_init` gives a stream: zero asks for the default. -/
def SrtpPolicy.window (policy : SrtpPolicy) : ℕ :=
  if policy.windowSize ≠ 0 then policy.windowSize else 128

/-- `srtp_stream_init`. -/
def srtpStreamInit (policy : SrtpPolicy) : Except SrtpErrStatus SrtpStream :=
  if policy.windowSize ≠ 0 ∧ (policy.windowSize < 64 ∨ policy.windowSize ≥ 0x8000) then
    .error .badParam
  else if policy.allowRepeatTx ≠ 0 ∧ policy.allowRepeatTx ≠ 1 then .error .badParam
  else .ok
    { ssrc := htonl policy.ssrcValue
      masterKey := policy.key
      limit := srtpKeyLimitInit
      rtpRdbx := srtpRdbxInit policy.window
      rtpServices := policy.secServ
      direction := .unknown
      allowRepeatTx := policy.allowRepeatTx = 1
      pendingRoc := 0 }

/-- `srtp_add_stream` for a policy that names its SSRC. -/
def srtpAddStream (ctx : SrtpCtx) (policy : SrtpPolicy) : Except SrtpErrStatus SrtpCtx :=
  match srtpStreamInit policy with
  | .error status => .error status
  | .ok stream => .ok { streamList := stream :: ctx.streamList }

/-- The context `srtp_create` publishes through its first argument before it adds any stream. -/
def srtpCreatePublished : SrtpCtx := { streamList := [] }

/-- `srtp_create` for a single policy. -/
def srtpCreate (policy : SrtpPolicy) : Except SrtpErrStatus SrtpCtx :=
  srtpAddStream srtpCreatePublished policy

/-- `srtp_get_stream`. -/
def srtpGetStream (ctx : SrtpCtx) (ssrc : UInt32) : Option SrtpStream :=
  ctx.streamList.find? fun stream => stream.ssrc = ssrc

/-- The list with a stream in the place of the first one of its SSRC. -/
def putFirst (stream : SrtpStream) : List SrtpStream → List SrtpStream
  | [] => []
  | old :: streams =>
    if old.ssrc = stream.ssrc then stream :: streams else old :: putFirst stream streams

/-- Write a stream that `srtp_get_stream` has found back to its place. -/
def SrtpCtx.putStream (ctx : SrtpCtx) (stream : SrtpStream) : SrtpCtx :=
  { streamList := putFirst stream ctx.streamList }

/-- A stream is put where it was found. -/
theorem putFirst_of_find {stream : SrtpStream} {ssrc : UInt32} {streams : List SrtpStream}
    (h : streams.find? (fun s => s.ssrc = ssrc) = some stream) :
    putFirst stream streams = streams := by
  have hssrc : stream.ssrc = ssrc := by simpa using List.find?_some h
  induction streams with
  | nil => rfl
  | cons old streams ih =>
    rw [putFirst, hssrc]
    rw [List.find?_cons] at h
    split at h
    · next heq =>
      cases h
      rw [if_pos (of_decide_eq_true heq)]
    · next hne => rw [if_neg (of_decide_eq_false hne), ih h]

theorem mem_putFirst {stream s : SrtpStream} {streams : List SrtpStream}
    (h : s ∈ putFirst stream streams) : s = stream ∨ s ∈ streams := by
  induction streams with
  | nil => cases h
  | cons old streams ih =>
    rw [putFirst] at h
    split at h
    · rcases List.mem_cons.mp h with rfl | hrest
      · exact .inl rfl
      · exact .inr (List.mem_cons_of_mem old hrest)
    · rcases List.mem_cons.mp h with rfl | hrest
      · exact .inr List.mem_cons_self
      · exact (ih hrest).imp_right (List.mem_cons_of_mem old)

/-! ### Protecting -/

/-- The ciphers of a stream, by master key.  The initialisation vector is made of the SSRC and the
estimated index. -/
structure SrtpCrypto where
  /-- `srtp_cipher_set_iv`. -/
  setIv : List UInt8 → UInt32 → ℕ → SrtpErrStatus
  /-- `srtp_cipher_encrypt` under that vector. -/
  encrypt : List UInt8 → UInt32 → ℕ → List UInt8 → SrtpErrStatus × List UInt8
  /-- `srtp_auth_start`, `srtp_auth_update` and `srtp_auth_compute`: the tag of a packet. -/
  auth : List UInt8 → SrtpHdr → List UInt8 → ℕ → SrtpErrStatus × List UInt8

/-- The cipher calls succeed on at most `n` octets. -/
structure SrtpCrypto.Succeeds (crypto : SrtpCrypto) (n : ℕ) : Prop where
  setIv_ok : ∀ key ssrc est, crypto.setIv key ssrc est = .ok
  encrypt_ok : ∀ key ssrc est bytes, bytes.length ≤ n → (crypto.encrypt key ssrc est bytes).1 = .ok

theorem SrtpCrypto.Succeeds.mono {crypto : SrtpCrypto} {m n : ℕ} (h : crypto.Succeeds n)
    (hle : m ≤ n) : crypto.Succeeds m :=
  ⟨h.setIv_ok, fun key ssrc est bytes hlen => h.encrypt_ok key ssrc est bytes (hlen.trans hle)⟩

/-- The ciphers work in place on at most `n` octets: they write as many as they read. -/
def SrtpCrypto.InPlace (crypto : SrtpCrypto) (n : ℕ) : Prop :=
  ∀ key ssrc est bytes, bytes.length ≤ n →
    (crypto.encrypt key ssrc est bytes).2.length = bytes.length

theorem SrtpCrypto.InPlace.mono {crypto : SrtpCrypto} {m n : ℕ} (h : crypto.InPlace n)
    (hle : m ≤ n) : crypto.InPlace m :=
  fun key ssrc est bytes hlen => h key ssrc est bytes (hlen.trans hle)

/-- A cipher to run the model with: it inverts every bit. -/
def invertingCrypto : SrtpCrypto :=
  { setIv := fun _ _ _ => .ok
    encrypt := fun _ _ _ bytes => (.ok, bytes.map fun b => b ^^^ 0xff)
    auth := fun _ _ _ _ => (.ok, []) }

theorem invertingCrypto_succeeds (n : ℕ) : invertingCrypto.Succeeds n :=
  ⟨fun _ _ _ => rfl, fun _ _ _ _ _ => rfl⟩

/-- What a call of `srtp_protect` leaves behind. -/
structure SrtpProtectResult where
  status : SrtpErrStatus
  stream : SrtpStream
  msg : RtpMsg
  pktOctetLen : ℕ
  /-- The index the keystream was selected with, once the cipher has been given one. -/
  index : Option ℕ

/-- Where the encrypted portion starts, in octets from the start of the packet; `none` for a stream
without confidentiality. -/
def srtpEncStart (services : SrtpSecServ) (msg : RtpMsg) (pktOctetLen : ℕ) :
    Except SrtpErrStatus (Option ℕ) :=
  if services.hasConf then
    let encStart := octetsInRtpHeader + 4 * msg.header.cc.toNat
      + (if msg.header.x = 1 then 4 * (msg.xtnLength + 1) else 0)
    if encStart ≤ pktOctetLen then .ok (some encStart) else .error .parseErr
  else .ok none

/-- `srtp_get_est_pkt_index`: status, estimated index and its distance to the highest one. -/
def srtpGetEstPktIndex (hdr : SrtpHdr) (stream : SrtpStream) : SrtpErrStatus × ℕ × ℤ :=
  if stream.pendingRoc ≠ 0 then
    srtpEstimateIndex stream.rtpRdbx stream.pendingRoc (ntohs hdr.seq).toNat
  else
    let (est, delta) := srtpRdbxEstimateIndex stream.rtpRdbx (ntohs hdr.seq).toNat
    (.ok, est, delta)

/-- The part of `srtp_protect` between the estimate and the ciphers: refuse an index that was used
already or is too old, and mark the others as used. -/
def srtpReserveIndex (hdr : SrtpHdr) (stream : SrtpStream) : SrtpErrStatus × SrtpStream × ℕ :=
  match srtpGetEstPktIndex hdr stream with
  | (.ok, est, delta) =>
    let check := srtpRdbxCheck stream.rtpRdbx delta
    if check ≠ .ok ∧ (check ≠ .replayFail ∨ ¬ stream.allowRepeatTx) then (check, stream, est)
    else (.ok, { stream with rtpRdbx := srtpRdbxAddIndex stream.rtpRdbx delta }, est)
  | (.pktIdxAdv, est, _) =>
    let rdbx := srtpRdbxSetRocSeq stream.rtpRdbx ((est >>> 16) % 2 ^ 32) (est % 2 ^ 16)
    (.ok, { stream with rtpRdbx := srtpRdbxAddIndex rdbx 0, pendingRoc := 0 }, est)
  | (status, est, _) => (status, stream, est)

/-- The part of `srtp_protect` that runs the ciphers, once the index is reserved. -/
def srtpRunCiphers (crypto : SrtpCrypto) (stream : SrtpStream) (est : ℕ) (encStart : Option ℕ)
    (msg : RtpMsg) (pktOctetLen : ℕ) : SrtpProtectResult :=
  let failed (status : SrtpErrStatus) (msg : RtpMsg) (index : Option ℕ) : SrtpProtectResult :=
    { status := status, stream := stream, msg := msg, pktOctetLen := pktOctetLen, index := index }
  if crypto.setIv stream.masterKey msg.header.ssrc est ≠ .ok then failed .cipherFail msg none
  else
    let out := match encStart with
      | none => (SrtpErrStatus.ok, [])
      | some start =>
        crypto.encrypt stream.masterKey msg.header.ssrc est
          (slice msg.body (start - octetsInRtpHeader) (pktOctetLen - start))
    if out.1 ≠ .ok then failed .cipherFail msg (some est)
    else
      let pos := (encStart.getD octetsInRtpHeader) - octetsInRtpHeader
      let msg := { msg with body := store msg.body pos out.2 }
      if stream.rtpServices.hasAuth then
        let tag := crypto.auth stream.masterKey msg.header
          (slice msg.body 0 (pktOctetLen - octetsInRtpHeader)) est
        if tag.1 ≠ .ok then failed tag.1 msg (some est)
        else
          { status := .ok, stream := stream
            msg := { msg with body := store msg.body (pktOctetLen - octetsInRtpHeader) tag.2 }
            pktOctetLen := pktOctetLen + tag.2.length, index := some est }
      else failed .ok msg (some est)

/-- The first part of `srtp_protect` on a stream: settle its direction and charge its key.  A stream
of the other direction only raises an event. -/
def srtpCharge (stream : SrtpStream) : SrtpStream :=
  { stream with
    direction := if stream.direction = .unknown then .sender else stream.direction
    limit := (srtpKeyLimitUpdate stream.limit).2 }

/-- `srtp_protect_mki` from the point where the stream has been found. -/
def srtpProtectStream (crypto : SrtpCrypto) (stream : SrtpStream) (msg : RtpMsg)
    (pktOctetLen : ℕ) : SrtpProtectResult :=
  let event := (srtpKeyLimitUpdate stream.limit).1
  let stream := srtpCharge stream
  let failed (status : SrtpErrStatus) (stream : SrtpStream) : SrtpProtectResult :=
    { status := status, stream := stream, msg := msg, pktOctetLen := pktOctetLen, index := none }
  if event = .hardLimit then failed .keyExpired stream
  else
    match srtpEncStart stream.rtpServices msg pktOctetLen with
    | .error status => failed status stream
    | .ok encStart =>
      match srtpReserveIndex msg.header stream with
      | (.ok, stream, est) => srtpRunCiphers crypto stream est encStart msg pktOctetLen
      | (status, stream, _) => failed status stream

/-- `srtp_protect`: status, context, packet, packet length and the index used. -/
def srtpProtect (crypto : SrtpCrypto) (ctx : SrtpCtx) (msg : RtpMsg) (pktOctetLen : ℕ) :
    SrtpErrStatus × SrtpCtx × RtpMsg × ℕ × Option ℕ :=
  let valid := srtpValidateRtpHeader msg pktOctetLen
  if valid ≠ .ok then (valid, ctx, msg, pktOctetLen, none)
  else
    match srtpGetStream ctx msg.header.ssrc with
    | none => (.noCtx, ctx, msg, pktOctetLen, none)
    | some stream =>
      let r := srtpProtectStream crypto stream msg pktOctetLen
      (r.status, ctx.putStream r.stream, r.msg, r.pktOctetLen, r.index)

/-! ### The next packet of a stream -/

/-- A stream with confidentiality only that has protected exactly the packets `1, …, k`. -/
structure SrtpStream.At (stream : SrtpStream) (k : ℕ) : Prop where
  services : stream.rtpServices = .conf
  pendingRoc : stream.pendingRoc = 0
  index : stream.rtpRdbx.index = k
  numLeft : stream.limit.numLeft = 2 ^ 48 - 1 - k

/-- A use of a key with two uses left is not refused and leaves one use less. -/
theorem srtpKeyLimitUpdate_of_two_le {key : SrtpKeyLimit} (h : 2 ≤ key.numLeft) :
    (srtpKeyLimitUpdate key).1 ≠ .hardLimit ∧
      (srtpKeyLimitUpdate key).2.numLeft = key.numLeft - 1 := by
  have hne : key.numLeft ≠ 0 := by omega
  have hpos : ¬ key.numLeft - 1 < 1 := by omega
  simp only [srtpKeyLimitUpdate, if_neg hne, if_neg hpos]
  split
  · exact ⟨nofun, rfl⟩
  · exact ⟨nofun, rfl⟩

@[simp] theorem srtpCharge_services (stream : SrtpStream) :
    (srtpCharge stream).rtpServices = stream.rtpServices := rfl

@[simp] theorem srtpCharge_pendingRoc (stream : SrtpStream) :
    (srtpCharge stream).pendingRoc = stream.pendingRoc := rfl

@[simp] theorem srtpCharge_rtpRdbx (stream : SrtpStream) :
    (srtpCharge stream).rtpRdbx = stream.rtpRdbx := rfl

@[simp] theorem srtpCharge_ssrc (stream : SrtpStream) :
    (srtpCharge stream).ssrc = stream.ssrc := rfl

@[simp] theorem srtpCharge_masterKey (stream : SrtpStream) :
    (srtpCharge stream).masterKey = stream.masterKey := rfl

@[simp] theorem srtpCharge_numLeft (stream : SrtpStream) :
    (srtpCharge stream).limit.numLeft = (srtpKeyLimitUpdate stream.limit).2.numLeft := rfl

/-- The sequence number that follows packet `k` reserves index `k + 1`. -/
theorem srtpReserveIndex_next {hdr : SrtpHdr} {stream : SrtpStream} {k : ℕ}
    (hpend : stream.pendingRoc = 0) (hidx : stream.rtpRdbx.index = k) (hk : k + 1 < 2 ^ 48)
    (hseq : (ntohs hdr.seq).toNat = (k + 1) % 2 ^ 16) :
    srtpReserveIndex hdr stream =
      (.ok, { stream with rtpRdbx := srtpRdbxAddIndex stream.rtpRdbx 1 }, k + 1) := by
  have hest : srtpGetEstPktIndex hdr stream = (.ok, k + 1, 1) := by
    rw [srtpGetEstPktIndex, if_neg (by simp [hpend]), hseq, ← hidx,
      srtpRdbxEstimateIndex_succ (by omega)]
  have hcheck : srtpRdbxCheck stream.rtpRdbx 1 = .ok := by simp [srtpRdbxCheck]
  simp [srtpReserveIndex, hest, hcheck]

/-- The ciphers of a stream with confidentiality only encrypt the body in place. -/
theorem srtpRunCiphers_conf {crypto : SrtpCrypto} {n : ℕ} (hc : crypto.Succeeds n)
    {stream : SrtpStream} (hserv : stream.rtpServices = .conf) (est : ℕ) (msg : RtpMsg)
    {pktOctetLen : ℕ} (hn : pktOctetLen - octetsInRtpHeader ≤ n) :
    srtpRunCiphers crypto stream est (some octetsInRtpHeader) msg pktOctetLen =
      { status := .ok, stream := stream
        msg := { msg with
          body := store msg.body 0 (crypto.encrypt stream.masterKey msg.header.ssrc est
            (slice msg.body 0 (pktOctetLen - octetsInRtpHeader))).2 }
        pktOctetLen := pktOctetLen, index := some est } := by
  have hencrypt := hc.encrypt_ok stream.masterKey msg.header.ssrc est
    (slice msg.body 0 (pktOctetLen - octetsInRtpHeader)) (by rwa [length_slice])
  simp [srtpRunCiphers, hc.setIv_ok, hencrypt, hserv, SrtpSecServ.hasAuth]

/-- A stream that has protected the packets up to `k` protects the next one under index `k + 1`. -/
theorem srtpProtectStream_next {crypto : SrtpCrypto} {n : ℕ} (hc : crypto.Succeeds n)
    {stream : SrtpStream} {k : ℕ} (hat : stream.At k) (hk : k < 2 ^ 48 - 2) {msg : RtpMsg}
    {pktOctetLen : ℕ} (hlen : octetsInRtpHeader ≤ pktOctetLen)
    (hn : pktOctetLen - octetsInRtpHeader ≤ n) (hcc : msg.header.cc = 0) (hx : msg.header.x = 0)
    (hseq : (ntohs msg.header.seq).toNat = (k + 1) % 2 ^ 16) :
    ∃ stream' : SrtpStream, stream'.At (k + 1) ∧ stream'.ssrc = stream.ssrc ∧
      stream'.masterKey = stream.masterKey ∧
      srtpProtectStream crypto stream msg pktOctetLen =
        { status := .ok, stream := stream'
          msg := { msg with
            body := store msg.body 0 (crypto.encrypt stream.masterKey msg.header.ssrc (k + 1)
              (slice msg.body 0 (pktOctetLen - octetsInRtpHeader))).2 }
          pktOctetLen := pktOctetLen, index := some (k + 1) } := by
  have hleft : 2 ≤ stream.limit.numLeft := by
    rw [hat.numLeft]
    omega
  obtain ⟨hevent, hnum⟩ := srtpKeyLimitUpdate_of_two_le hleft
  have hstart : srtpEncStart (srtpCharge stream).rtpServices msg pktOctetLen
      = .ok (some octetsInRtpHeader) := by
    simp [srtpEncStart, srtpCharge, hat.services, SrtpSecServ.hasConf, hcc, hx, hlen]
  have hpend : (srtpCharge stream).pendingRoc = 0 := by rw [srtpCharge_pendingRoc, hat.pendingRoc]
  have hlast : (srtpCharge stream).rtpRdbx.index = k := by rw [srtpCharge_rtpRdbx, hat.index]
  have hres := srtpReserveIndex_next hpend hlast (by omega) hseq
  have hidx : (srtpRdbxAddIndex stream.rtpRdbx 1).index = k + 1 := by
    rw [srtpRdbxAddIndex_one_index (by rw [hat.index]; omega), hat.index]
  refine ⟨{ srtpCharge stream with rtpRdbx := srtpRdbxAddIndex (srtpCharge stream).rtpRdbx 1 },
    ⟨?_, ?_, ?_, ?_⟩, ?_, ?_, ?_⟩
  · simp [hat.services]
  · simp [hat.pendingRoc]
  · simp [hidx]
  · simp only [srtpCharge_numLeft, hnum, hat.numLeft]
    omega
  · simp
  · simp
  · rw [srtpProtectStream, if_neg hevent]
    simp only [hstart, hres]
    rw [srtpRunCiphers_conf hc (by simp [hat.services]) _ _ hn]
    simp

/-- A header of its own length passes the check of the header. -/
theorem srtpValidateRtpHeader_plain {msg : RtpMsg} {pktOctetLen : ℕ}
    (hlen : octetsInRtpHeader ≤ pktOctetLen) (hcc : msg.header.cc = 0) (hx : msg.header.x = 0) :
    srtpValidateRtpHeader msg pktOctetLen = .ok := by
  simp [srtpValidateRtpHeader, hcc, hx, Nat.not_lt.mpr hlen]

/-- **Packet `k + 1` of a stream is protected under index `k + 1`**: the call succeeds, the body is
encrypted in place under that index and nothing else of the packet changes. -/
theorem srtpProtect_next {crypto : SrtpCrypto} {n : ℕ} (hc : crypto.Succeeds n)
    {stream : SrtpStream} {k : ℕ} (hat : stream.At k) (hk : k < 2 ^ 48 - 2) {msg : RtpMsg}
    {pktOctetLen : ℕ} (hlen : octetsInRtpHeader ≤ pktOctetLen)
    (hn : pktOctetLen - octetsInRtpHeader ≤ n) (hcc : msg.header.cc = 0) (hx : msg.header.x = 0)
    (hssrc : msg.header.ssrc = stream.ssrc)
    (hseq : (ntohs msg.header.seq).toNat = (k + 1) % 2 ^ 16) :
    ∃ stream' : SrtpStream, stream'.At (k + 1) ∧ stream'.ssrc = stream.ssrc ∧
      stream'.masterKey = stream.masterKey ∧
      srtpProtect crypto { streamList := [stream] } msg pktOctetLen =
        (.ok, { streamList := [stream'] },
          { msg with
            body := store msg.body 0 (crypto.encrypt stream.masterKey msg.header.ssrc (k + 1)
              (slice msg.body 0 (pktOctetLen - octetsInRtpHeader))).2 },
          pktOctetLen, some (k + 1)) := by
  obtain ⟨stream', hat', hs', hkey', hprot⟩ :=
    srtpProtectStream_next hc hat hk hlen hn hcc hx hseq
  refine ⟨stream', hat', hs', hkey', ?_⟩
  simp [srtpProtect, srtpValidateRtpHeader_plain hlen hcc hx, srtpGetStream, hssrc, hprot,
    SrtpCtx.putStream, putFirst, hs']

/-- A header whose SSRC has no stream in the context comes back with the packet as it was. -/
theorem srtpProtect_noCtx (crypto : SrtpCrypto) {ctx : SrtpCtx} {msg : RtpMsg} {pktOctetLen : ℕ}
    (hlen : octetsInRtpHeader ≤ pktOctetLen) (hcc : msg.header.cc = 0) (hx : msg.header.x = 0)
    (hnone : srtpGetStream ctx msg.header.ssrc = none) :
    srtpProtect crypto ctx msg pktOctetLen = (.noCtx, ctx, msg, pktOctetLen, none) := by
  simp [srtpProtect, srtpValidateRtpHeader_plain hlen hcc hx, hnone]

end CameraDaemon
