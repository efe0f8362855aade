import CameraDaemon.Headers

/-!
# The size of the packets

`srtp_sender_callback` cuts a block with an `int` and a strict comparison: every turn but the last
takes `RTP_PKT_BODY_SIZE` octets, and the last takes what is left, which is a whole body when the
length of the block is a multiple of it.  The lengths of the bodies therefore have a closed form, by
division with rest.

The message is protected in place.  A stream created for confidentiality only gets no trailer, so a
datagram is as long as its body and the header, whether the ciphers succeed or not, and nothing
behind the array `body` is written.

## Main definitions

* `SrtpSenderContext.ConfOnly` — every stream of the context has confidentiality only.
* `contextAfter` — the context of a session after some blocks.
* `WellCut` — a block is cut into packets of the right number and sizes.

## Main results

* `rtpChunks_wellSized` — the chunks of a block have the right number and sizes.
* `srtpProtect_confOnly` — **without authentication `srtp_protect` keeps the length of the packet.**
* `sendChunks_confOnly` — the packets of a call, and what is left of the message behind its body.
* `session_wellCut` — **every call of every session cuts its block well.**
-/

namespace CameraDaemon

open Memory

/-! ### The lengths of the bodies -/

/-- The chunks of a block have the right number and sizes. -/
structure WellSized (length : ℕ) (bodyLens : List ℕ) : Prop where
  /-- The number of bodies is the quotient, rounded up. -/
  count : bodyLens.length = (length + 1365) / 1366
  bounds : ∀ n ∈ bodyLens, 1 ≤ n ∧ n ≤ rtpPktBodySize
  full : ∀ n ∈ bodyLens.dropLast, n = rtpPktBodySize
  sum : bodyLens.sum = length

theorem rtpChunks_wellSized {length : ℕ} (hlen : length ≤ 2 ^ 31 - 1366) :
    WellSized length ((rtpChunks length 0).1.map RtpChunk.bodyLen) := by
  have hsize := rtpPktBodySize_eq
  rcases Nat.eq_zero_or_pos length with rfl | hpos
  · -- an empty block has no chunks
    rw [rtpChunks_of_ge le_rfl]
    exact ⟨rfl, nofun, nofun, rfl⟩
  · have hlens : (rtpChunks length 0).1.map RtpChunk.bodyLen =
        List.replicate ((length - 1) / 1366) rtpPktBodySize ++ [(length - 1) % 1366 + 1] := by
      rw [rtpChunks_closed hlen (length - 1) 0 (by omega), List.map_append, List.map_map,
        Function.comp_def, List.map_const', List.length_range]
      rfl
    rw [hlens]
    refine ⟨?_, ?_, ?_, ?_⟩
    · rw [List.length_append, List.length_replicate, List.length_singleton]
      omega
    · intro n hn
      rcases List.mem_append.mp hn with hfull | hlast
      · rw [List.eq_of_mem_replicate hfull]
        omega
      · rw [List.mem_singleton.mp hlast]
        omega
    · intro n hn
      rw [List.dropLast_concat] at hn
      exact List.eq_of_mem_replicate hn
    · rw [List.sum_append, List.sum_replicate_nat, List.sum_singleton, hsize]
      omega

/-! ### Confidentiality only -/

/-- Every stream of the context has confidentiality only. -/
def SrtpCtx.ConfOnly (ctx : SrtpCtx) : Prop :=
  ∀ stream ∈ ctx.streamList, stream.rtpServices = .conf

/-- The sender has a context, and every stream of it has confidentiality only. -/
def SrtpSenderContext.ConfOnly (ctx : SrtpSenderContext) : Prop :=
  ∃ srtp, ctx.srtpCtx = some srtp ∧ srtp.ConfOnly

theorem srtpReserveIndex_services (hdr : SrtpHdr) (stream : SrtpStream) :
    (srtpReserveIndex hdr stream).2.1.rtpServices = stream.rtpServices := by
  simp only [srtpReserveIndex]
  split
  · split
    · rfl
    · rfl
  · rfl
  · rfl

section ConfOnly

variable (crypto : SrtpCrypto)

theorem srtpRunCiphers_confOnly {stream : SrtpStream} (hserv : stream.rtpServices = .conf)
    (est : ℕ) (encStart : Option ℕ) (msg : RtpMsg) (pktOctetLen : ℕ) :
    (srtpRunCiphers crypto stream est encStart msg pktOctetLen).stream = stream ∧
      (srtpRunCiphers crypto stream est encStart msg pktOctetLen).pktOctetLen = pktOctetLen := by
  -- the length grows only with a tag
  cases encStart with
  | none =>
    simp only [srtpRunCiphers, hserv, SrtpSecServ.hasAuth, Bool.false_eq_true, if_false]
    split_ifs <;> exact ⟨rfl, rfl⟩
  | some start =>
    simp only [srtpRunCiphers, hserv, SrtpSecServ.hasAuth, Bool.false_eq_true, if_false]
    split_ifs <;> exact ⟨rfl, rfl⟩

/-- The ciphers write nothing behind the packet. -/
theorem srtpRunCiphers_body {stream : SrtpStream}
    (hserv : stream.rtpServices = .conf) (est : ℕ) {encStart : Option ℕ} {msg : RtpMsg}
    {pktOctetLen : ℕ} (hc : crypto.InPlace (pktOctetLen - octetsInRtpHeader))
    (hstart : ∀ s, encStart = some s → octetsInRtpHeader ≤ s ∧ s ≤ pktOctetLen)
    {i : ℕ} (hi : pktOctetLen - octetsInRtpHeader ≤ i) :
    (srtpRunCiphers crypto stream est encStart msg pktOctetLen).msg.body i = msg.body i := by
  cases encStart with
  | none =>
    simp only [srtpRunCiphers, hserv, SrtpSecServ.hasAuth, Bool.false_eq_true, if_false,
      store_nil]
    split_ifs <;> rfl
  | some start =>
    obtain ⟨hheader, hpkt⟩ := hstart start rfl
    simp only [srtpRunCiphers, hserv, SrtpSecServ.hasAuth, Bool.false_eq_true, if_false,
      Option.getD_some]
    split_ifs
    · rfl
    · rfl
    · refine store_of_le _ ?_
      rw [hc _ _ _ _ (by rw [length_slice]; omega), length_slice]
      omega

/-- Where the encrypted portion starts is behind the header and in the packet. -/
theorem srtpEncStart_bounds {services : SrtpSecServ} {msg : RtpMsg} {pktOctetLen s : ℕ}
    (h : srtpEncStart services msg pktOctetLen = .ok (some s)) :
    octetsInRtpHeader ≤ s ∧ s ≤ pktOctetLen := by
  simp only [srtpEncStart] at h
  generalize hend : octetsInRtpHeader + 4 * msg.header.cc.toNat +
    (if msg.header.x = 1 then 4 * (msg.xtnLength + 1) else 0) = encStart at h
  split at h
  · split at h
    · next hle =>
      cases h
      exact ⟨by omega, hle⟩
    · cases h
  · cases h

theorem srtpProtectStream_confOnly {stream : SrtpStream} (hserv : stream.rtpServices = .conf)
    (msg : RtpMsg) (pktOctetLen : ℕ) :
    (srtpProtectStream crypto stream msg pktOctetLen).stream.rtpServices = .conf ∧
      (srtpProtectStream crypto stream msg pktOctetLen).pktOctetLen = pktOctetLen ∧
      (crypto.InPlace (pktOctetLen - octetsInRtpHeader) → ∀ i, pktOctetLen - octetsInRtpHeader ≤ i →
        (srtpProtectStream crypto stream msg pktOctetLen).msg.body i = msg.body i) := by
  have hcharged : (srtpCharge stream).rtpServices = .conf := hserv
  have hreserved := srtpReserveIndex_services msg.header (srtpCharge stream)
  rw [hcharged] at hreserved
  simp only [srtpProtectStream]
  split
  · exact ⟨hserv, rfl, fun _ _ _ => rfl⟩
  split
  · exact ⟨hserv, rfl, fun _ _ _ => rfl⟩
  next encStart hstart =>
  split
  · next stream' est hres =>
    rw [hres] at hreserved
    obtain ⟨hstream, hpkt⟩ :=
      srtpRunCiphers_confOnly crypto hreserved est encStart msg pktOctetLen
    refine ⟨?_, hpkt, fun hc i hi => ?_⟩
    · rw [hstream]
      exact hreserved
    · refine srtpRunCiphers_body crypto hreserved est hc (fun s hs => ?_) hi
      rw [hs] at hstart
      exact srtpEncStart_bounds hstart
  · next status stream' est hne hres =>
    rw [hres] at hreserved
    exact ⟨hreserved, rfl, fun _ _ _ => rfl⟩

/-- Writing a stream with confidentiality only back keeps the context as it should be. -/
theorem SrtpCtx.ConfOnly.putStream {ctx : SrtpCtx} (h : ctx.ConfOnly) {stream : SrtpStream}
    (hserv : stream.rtpServices = .conf) : (ctx.putStream stream).ConfOnly := by
  intro s hs
  rcases mem_putFirst hs with rfl | hold
  · exact hserv
  · exact h s hold

/-- **Without authentication `srtp_protect` keeps the length of the packet**, whatever comes of it,
and ciphers that work in place write nothing behind the packet. -/
theorem srtpProtect_confOnly {ctx : SrtpCtx} (h : ctx.ConfOnly) (msg : RtpMsg) (pktOctetLen : ℕ) :
    (srtpProtect crypto ctx msg pktOctetLen).2.1.ConfOnly ∧
      (srtpProtect crypto ctx msg pktOctetLen).2.2.2.1 = pktOctetLen ∧
      (crypto.InPlace (pktOctetLen - octetsInRtpHeader) → ∀ i, pktOctetLen - octetsInRtpHeader ≤ i →
        (srtpProtect crypto ctx msg pktOctetLen).2.2.1.body i = msg.body i) := by
  simp only [srtpProtect]
  split
  · exact ⟨h, rfl, fun _ _ _ => rfl⟩
  split
  · exact ⟨h, rfl, fun _ _ _ => rfl⟩
  · next stream hstream =>
    have hserv := h stream (List.mem_of_find?_eq_some hstream)
    obtain ⟨hserv', hpkt, hbody⟩ :=
      srtpProtectStream_confOnly crypto hserv msg pktOctetLen
    exact ⟨h.putStream hserv', hpkt, hbody⟩

/-! ### The packets of a call -/

/-- The number of octets handed to `sendto`. -/
def RtpDatagram.size (d : RtpDatagram) : ℕ := rtpHeaderLen + d.body.length

/-- The packet was sent, as a datagram of its header and its body. -/
def RtpPacket.SentWhole (p : RtpPacket) : Prop :=
  ∃ s, p.sent = some s ∧ s.datagram.size = p.chunk.bodyLen + rtpHeaderLen

/-- One turn of the loop sends its packet whole, and writes to the message no further than the
packet reaches. -/
theorem sendPacket_confOnly (data : ℕ → UInt8) (c : RtpChunk) {ctx : SrtpSenderContext}
    (h : ctx.ConfOnly) :
    (sendPacket crypto data c ctx).1.ConfOnly ∧ (sendPacket crypto data c ctx).2.SentWhole ∧
      (crypto.InPlace c.bodyLen → ∀ i, c.bodyLen ≤ i →
        (sendPacket crypto data c ctx).1.message.body i = ctx.message.body i) := by
  obtain ⟨srtp, hsrtp, hconf⟩ := h
  have hfill := (fillMessage_srtpCtx data c ctx).trans hsrtp
  have hcopied : ∀ i, c.bodyLen ≤ i →
      (fillMessage data c ctx).message.body i = ctx.message.body i := by
    intro i hi
    rw [fillMessage_body]
    refine store_of_le _ ?_
    rw [length_slice]
    omega
  obtain ⟨hconf', hpkt, hbody⟩ := srtpProtect_confOnly crypto hconf
    (fillMessage data c ctx).message (c.bodyLen + rtpHeaderLen)
  simp only [sendPacket, protectMessage, hfill]
  refine ⟨⟨_, rfl, hconf'⟩, ⟨_, rfl, ?_⟩, fun hc i hi => ?_⟩
  · simp only [RtpDatagram.size, datagram, length_slice, hpkt]
    omega
  · exact (hbody hc i hi).trans (hcopied i hi)

/-- **The packets of a call**: each of the chunks is sent whole, and behind the array `body` the
message is left alone. -/
theorem sendChunks_confOnly (data : ℕ → UInt8) : ∀ (cs : List RtpChunk) {ctx : SrtpSenderContext},
    ctx.ConfOnly →
      (sendChunks crypto data cs ctx).2.1.ConfOnly ∧
      (sendChunks crypto data cs ctx).2.2.map RtpPacket.chunk = cs ∧
      (∀ p ∈ (sendChunks crypto data cs ctx).2.2, p.SentWhole) ∧
      (crypto.InPlace rtpPktBodySize → ∀ i, rtpPktBodySize ≤ i →
        (sendChunks crypto data cs ctx).2.1.message.body i = ctx.message.body i) := by
  intro cs
  induction cs with
  | nil =>
    intro ctx h
    exact ⟨h, rfl, fun p hp => absurd hp List.not_mem_nil, fun _ _ _ => rfl⟩
  | cons c cs ih =>
    intro ctx h
    obtain ⟨hconf, hwhole, hbody⟩ := sendPacket_confOnly crypto data c h
    obtain ⟨hconf', hchunks, hwholes, hbody'⟩ := ih hconf
    have hnot : ¬ (sendPacket crypto data c ctx).2.sent = none := by
      obtain ⟨s, hsent, -⟩ := hwhole
      rw [hsent]
      exact Option.some_ne_none s
    rw [sendChunks_cons, if_neg hnot]
    refine ⟨hconf', ?_, ?_, fun hc i hi => ?_⟩
    · rw [List.map_cons, hchunks, (sendPacket_chunk crypto data c ctx).1]
    · exact List.forall_mem_cons.mpr ⟨hwhole, hwholes⟩
    · exact (hbody' hc i hi).trans (hbody (hc.mono c.bodyLen_le) i (c.bodyLen_le.trans hi))

end ConfOnly

/-! ### A session -/

/-- The context of a session after some blocks. -/
def contextAfter (crypto : SrtpCrypto) (blocks : List Block) (ctx : SrtpSenderContext) :
    SrtpSenderContext :=
  blocks.foldl (fun ctx b => (srtpSenderCallback crypto b.data b.length ctx).2.1) ctx

theorem contextAfter_confOnly (crypto : SrtpCrypto) : ∀ (blocks : List Block)
    {ctx : SrtpSenderContext}, ctx.ConfOnly → (contextAfter crypto blocks ctx).ConfOnly := by
  intro blocks
  induction blocks with
  | nil => exact fun h => h
  | cons b bs ih =>
    intro ctx h
    exact ih (sendChunks_confOnly crypto b.data _ h).1

/-- A prepared session has confidentiality only. -/
theorem prepareSrtpSender_confOnly {sys : SenderSystem} {args : CastArgs} {w w' : SenderWorld}
    (h : prepareSrtpSender sys args w = .ok w') : w'.ctx.ConfOnly := by
  have hat := prepareSrtpSender_at h
  refine ⟨_, hat.srtpCtx, fun stream hstream => ?_⟩
  rw [List.mem_singleton.mp hstream]
  rfl

/-- The members of `struct rtp_msg_t`, the header and the array `body`, take `RTP_PKT_SIZE` octets. -/
theorem rtpHeaderLen_add_body : rtpHeaderLen + rtpPktBodySize = rtpPktSize := by
  rw [rtpPktBodySize_eq]
  rfl

/-- A call of `srtp_sender_callback` on a block of `length` octets returns, has sent packets of the
right number and sizes, none longer than a message, and has written to nothing behind it. -/
structure WellCut (crypto : SrtpCrypto) (length : ℕ) (ctx : SrtpSenderContext)
    (call : SenderEnd × SrtpSenderContext × List RtpPacket) : Prop where
  returned : call.1 = .returned
  sizes : WellSized length (call.2.2.map fun p => p.chunk.bodyLen)
  sent : ∀ p ∈ call.2.2, ∃ s, p.sent = some s ∧
    s.datagram.size = p.chunk.bodyLen + rtpHeaderLen ∧ s.datagram.size ≤ rtpPktSize
  behind : crypto.InPlace rtpPktBodySize → ∀ i, rtpPktBodySize ≤ i →
    call.2.1.message.body i = ctx.message.body i

theorem srtpSenderCallback_wellCut (crypto : SrtpCrypto) (data : ℕ → UInt8) {length : ℕ}
    (hlen : length ≤ 2 ^ 31 - 1366) {ctx : SrtpSenderContext} (h : ctx.ConfOnly) :
    WellCut crypto length ctx (srtpSenderCallback crypto data length ctx) := by
  obtain ⟨-, hchunks, hwhole, hbody⟩ :=
    sendChunks_confOnly crypto data (rtpChunks length 0).1 h
  have hsizes := rtpChunks_wellSized hlen
  obtain ⟨srtp, hsrtp, -⟩ := h
  refine ⟨srtpSenderCallback_returned crypto data hlen (by rw [hsrtp]; rfl), ?_, ?_, hbody⟩
  · rw [← hchunks, List.map_map] at hsizes
    exact hsizes
  · intro p hp
    obtain ⟨s, hs, hsize⟩ := hwhole p hp
    have hle := p.chunk.bodyLen_le
    refine ⟨s, hs, hsize, ?_⟩
    rw [hsize, ← rtpHeaderLen_add_body]
    omega

/-- **Every call of every session cuts its block well**: for every length up to the last that `int`
can count, it returns, and its packets are as many as whole bodies fit, rounded up, all but the last
of them whole, none longer than the message they are protected in. -/
theorem session_wellCut {sys : SenderSystem} {args : CastArgs} {w w' : SenderWorld}
    (h : prepareSrtpSender sys args w = .ok w') (crypto : SrtpCrypto) (earlier : List Block)
    (data : ℕ → UInt8) {length : ℕ} (hlen : length ≤ 2 ^ 31 - 1366) :
    WellCut crypto length (contextAfter crypto earlier w'.ctx)
      (srtpSenderCallback crypto data length (contextAfter crypto earlier w'.ctx)) :=
  srtpSenderCallback_wellCut crypto data hlen
    (contextAfter_confOnly crypto earlier (prepareSrtpSender_confOnly h))

theorem session_wellCut_castTo :
    ∃ w', prepareSrtpSender ownPorts (castTo 5004 1) (senderStart []) = .ok w' ∧
      WellCut invertingCrypto 2732 (contextAfter invertingCrypto [Block.ofList [1]] w'.ctx)
        (srtpSenderCallback invertingCrypto countingData 2732
          (contextAfter invertingCrypto [Block.ofList [1]] w'.ctx)) :=
  ⟨_, prepareSrtpSender_castTo,
    session_wellCut prepareSrtpSender_castTo invertingCrypto _ countingData (by decide)⟩

end CameraDaemon
