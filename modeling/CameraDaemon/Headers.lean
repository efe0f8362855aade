import CameraDaemon.Session

/-!
# The headers of a session

Before each packet `srtp_sender_callback` counts the sequence number and the timestamp up, both with
the helpers for sixteen bits.  The timestamp is a field of 32 bits: its sixteen counted bits stand
in the upper half on the wire, and the lower half is zero.  The SSRC is never touched, and neither
is the address that the packets are sent to; `srtp_protect` leaves the header alone.

None of this depends on the ciphers, or on how long the key lasts.

## Main definitions

* `HeaderAt` — the header and the address after `k` packets.
* `RtpPacket.Carries` — the header and the address of packet `n`.

## Main results

* `srtpProtect_header` — `srtp_protect` leaves the header alone.
* `session_carries` — packet `n` of a session carries its SSRC and `n`, in the wrong half.
* `sendBlocks_eq_nil_iff` — a session sends nothing exactly when its blocks are empty.
* `timestamps_iff` — **the timestamps of a session are right exactly when it sends nothing**, and
  the timestamp of packet `k` is right exactly when `2 ^ 32` divides `k`.
-/

namespace CameraDaemon

open ByteOrder Memory

/-! ### `srtp_protect` leaves the header alone -/

theorem srtpRunCiphers_header (crypto : SrtpCrypto) (stream : SrtpStream) (est : ℕ)
    (encStart : Option ℕ) (msg : RtpMsg) (pktOctetLen : ℕ) :
    (srtpRunCiphers crypto stream est encStart msg pktOctetLen).msg.header = msg.header := by
  -- the body is rewritten in each of the branches, the header in none
  cases encStart with
  | none =>
    simp only [srtpRunCiphers]
    split_ifs <;> rfl
  | some start =>
    simp only [srtpRunCiphers]
    split_ifs <;> rfl

theorem srtpProtectStream_header (crypto : SrtpCrypto) (stream : SrtpStream) (msg : RtpMsg)
    (pktOctetLen : ℕ) :
    (srtpProtectStream crypto stream msg pktOctetLen).msg.header = msg.header := by
  simp only [srtpProtectStream]
  split
  · rfl
  split
  · rfl
  split
  · exact srtpRunCiphers_header _ _ _ _ _ _
  · rfl

/-- **`srtp_protect` leaves the header alone**, whatever comes of it. -/
theorem srtpProtect_header (crypto : SrtpCrypto) (ctx : SrtpCtx) (msg : RtpMsg) (pktOctetLen : ℕ) :
    (srtpProtect crypto ctx msg pktOctetLen).2.2.1.header = msg.header := by
  simp only [srtpProtect]
  split
  · rfl
  split
  · rfl
  · exact srtpProtectStream_header _ _ _ _

theorem protectMessage_header {crypto : SrtpCrypto} {pktLen pktLen' : ℕ} {status : SrtpErrStatus}
    {index : Option ℕ} {ctx ctx' : SrtpSenderContext}
    (h : protectMessage crypto pktLen ctx = some (ctx', status, pktLen', index)) :
    ctx'.message.header = ctx.message.header ∧ ctx'.raddr = ctx.raddr := by
  unfold protectMessage at h
  split at h
  · cases h
  · next srtp hsrtp =>
    have hheader := srtpProtect_header crypto srtp ctx.message pktLen
    cases h
    exact ⟨hheader, rfl⟩

/-! ### One packet -/

/-- The timestamp field after `k` packets, as it stands in memory. -/
def tsField (k : ℕ) : UInt32 := (htons (UInt16.ofNat k)).toUInt32

/-- Counting the field up. -/
theorem tsField_succ (k : ℕ) :
    (htons ((ntohs (tsField k).toUInt16).toUInt32 + 1).toUInt16).toUInt32 = tsField (k + 1) := by
  have hread : ntohs (tsField k).toUInt16 = UInt16.ofNat k := by
    rw [tsField, UInt16.toUInt16_toUInt32, ntohs_htons]
  have hcount : ((UInt16.ofNat k).toUInt32 + 1).toUInt16 = UInt16.ofNat (k + 1) := by
    rw [UInt32.toUInt16_add, UInt16.toUInt16_toUInt32, UInt16.ofNat_add]
    rfl
  rw [hread, hcount, tsField]

/-- The header and the address after `k` packets. -/
structure HeaderAt (ctx : SrtpSenderContext) (ssrc : UInt32) (dest : SockaddrIn) (k : ℕ) :
    Prop where
  ts : ctx.message.header.ts = tsField k
  ssrc : ctx.message.header.ssrc = ssrc
  raddr : ctx.raddr = dest

/-- The header and the address of packet `n`; the datagram has the header that was protected. -/
structure RtpPacket.Carries (p : RtpPacket) (ssrc : UInt32) (dest : SockaddrIn) (n : ℕ) : Prop where
  ts : p.header.ts = tsField n
  ssrc : p.header.ssrc = ssrc
  datagram : ∀ s, p.sent = some s → s.datagram.header = p.header ∧ s.datagram.dest = dest

section Packet

variable {ctx : SrtpSenderContext} {ssrc : UInt32} {dest : SockaddrIn} {k : ℕ}

/-- Filling the message counts the timestamp up and leaves the SSRC and the address. -/
theorem HeaderAt.fillMessage (h : HeaderAt ctx ssrc dest k) (data : ℕ → UInt8) (c : RtpChunk) :
    HeaderAt (fillMessage data c ctx) ssrc dest (k + 1) := by
  have hheader := fillMessage_header data c ctx
  refine ⟨?_, ?_, ?_⟩
  · rw [hheader, h.ts, tsField_succ]
  · rw [hheader, h.ssrc]
  · rw [fillMessage_raddr, h.raddr]

/-- One turn of the loop. -/
theorem HeaderAt.sendPacket (h : HeaderAt ctx ssrc dest k) (crypto : SrtpCrypto) (data : ℕ → UInt8)
    (c : RtpChunk) :
    HeaderAt (sendPacket crypto data c ctx).1 ssrc dest (k + 1) ∧
      (CameraDaemon.sendPacket crypto data c ctx).2.Carries ssrc dest (k + 1) := by
  have hfill := h.fillMessage data c
  simp only [CameraDaemon.sendPacket]
  split
  · -- the call crashes, and nothing is sent
    refine ⟨hfill, hfill.ts, hfill.ssrc, fun s hs => ?_⟩
    cases hs
  · next ctx' status pktLen index hprot =>
    obtain ⟨hheader, hraddr⟩ := protectMessage_header hprot
    refine ⟨⟨?_, ?_, ?_⟩, hfill.ts, hfill.ssrc, fun s hs => ?_⟩
    · rw [hheader, hfill.ts]
    · rw [hheader, hfill.ssrc]
    · rw [hraddr, hfill.raddr]
    · cases hs
      exact ⟨hheader, hraddr.trans hfill.raddr⟩

end Packet

/-! ### A session -/

section Session

variable {sys : SenderSystem} {args : CastArgs} {w w' : SenderWorld}

/-- What a session starts with. -/
theorem prepareSrtpSender_headerAt (h : prepareSrtpSender sys args w = .ok w') :
    HeaderAt w'.ctx (htonl args.ssrc.toUInt32)
      { sinFamily := pfInet, sinPort := htons args.port, sinAddr := args.rcvrAddr } 0 := by
  rw [(prepareSrtpSender_eq_ok h).2]
  exact ⟨rfl, rfl, rfl⟩

/-- **The headers of a session**: packet `n` carries the SSRC and `n`, and goes to the receiver. -/
theorem session_carries (h : prepareSrtpSender sys args w = .ok w') (crypto : SrtpCrypto)
    (blocks : List Block) :
    ∀ (k : ℕ) (p : RtpPacket), (sendBlocks crypto blocks w'.ctx)[k]? = some p →
      p.Carries (htonl args.ssrc.toUInt32) w'.ctx.raddr (k + 1) := by
  intro k p hp
  have hstart := prepareSrtpSender_headerAt h
  have hstart' : HeaderAt w'.ctx (htonl args.ssrc.toUInt32) w'.ctx.raddr 0 :=
    ⟨hstart.ts, hstart.ssrc, rfl⟩
  have hcarries := sendBlocks_rule
    (I := fun ctx k => HeaderAt ctx (htonl args.ssrc.toUInt32) w'.ctx.raddr k)
    (P := fun p n => p.Carries (htonl args.ssrc.toUInt32) w'.ctx.raddr n)
    (fun data c ctx k hk => hk.sendPacket crypto data c) blocks w'.ctx 0 hstart' k p hp
  rwa [Nat.zero_add] at hcarries

end Session

/-- A block that is not empty has a first chunk. -/
theorem rtpChunks_ne_nil {length : ℕ} (h : 0 < length) : (rtpChunks length 0).1 ≠ [] := by
  have hsize := rtpPktBodySize_eq
  rw [rtpChunks_eq h, nextChunk, if_neg (by omega)]
  split
  · next hnone =>
    split at hnone
    · cases hnone
    · cases hnone
  · exact List.cons_ne_nil _ _

/-- **A session sends nothing exactly when all its blocks are empty.** -/
theorem sendBlocks_eq_nil_iff (crypto : SrtpCrypto) : ∀ (blocks : List Block)
    (ctx : SrtpSenderContext), sendBlocks crypto blocks ctx = [] ↔ ∀ b ∈ blocks, b.length = 0 := by
  intro blocks
  induction blocks with
  | nil =>
    intro ctx
    simp [sendBlocks]
  | cons b bs ih =>
    intro ctx
    rw [List.forall_mem_cons]
    rcases Nat.eq_zero_or_pos b.length with hzero | hpos
    · have hcall : srtpSenderCallback crypto b.data b.length ctx = (.returned, ctx, []) := by
        rw [hzero, srtpSenderCallback, rtpChunks_of_ge (Nat.le_refl 0)]
        rfl
      rw [sendBlocks, hcall]
      simp only [List.nil_append, hzero, true_and]
      exact ih ctx
    · -- the first chunk gives a packet, however the call ends
      have hpacket : (srtpSenderCallback crypto b.data b.length ctx).2.2 ≠ [] := by
        rw [srtpSenderCallback_eq]
        obtain ⟨c, cs, hcs⟩ := List.exists_cons_of_ne_nil (rtpChunks_ne_nil hpos)
        rw [hcs, sendChunks_cons]
        split
        · exact List.cons_ne_nil _ _
        · exact List.cons_ne_nil _ _
      refine iff_of_false ?_ fun h => by omega
      rw [sendBlocks]
      split
      · next ctx' packets hret =>
        rw [hret] at hpacket
        exact fun hnil => hpacket (List.append_eq_nil_iff.mp hnil).1
      · next ctx' packets hret =>
        rw [hret] at hpacket
        exact hpacket

/-! ### The timestamps -/

/-- The timestamp on the wire: the sixteen counted bits in the upper half. -/
theorem toNat_ntohl_tsField (n : ℕ) : (ntohl (tsField n)).toNat = n % 65536 * 65536 := by
  rw [tsField, toNat_ntohl_htons, UInt16.toNat_ofNat']

theorem ntohl_tsField_iff (n : ℕ) :
    (ntohl (tsField n)).toNat = n % 4294967296 ↔ 4294967296 ∣ n := by
  rw [toNat_ntohl_tsField]
  omega

/-- **The timestamps of a session count up on the wire exactly when it sends nothing**; the
timestamp of its `k`-th packet, which is what the datagram carries, is `k` modulo `2 ^ 32` exactly
when `2 ^ 32` divides `k`. -/
theorem timestamps_iff {sys : SenderSystem} {args : CastArgs} {w w' : SenderWorld}
    (h : prepareSrtpSender sys args w = .ok w') (crypto : SrtpCrypto) (blocks : List Block) :
    ((∀ k p, (sendBlocks crypto blocks w'.ctx)[k]? = some p →
        (ntohl p.header.ts).toNat = (k + 1) % 4294967296) ↔ ∀ b ∈ blocks, b.length = 0) ∧
      ∀ k p, (sendBlocks crypto blocks w'.ctx)[k]? = some p →
        ((ntohl p.header.ts).toNat = (k + 1) % 4294967296 ↔ 4294967296 ∣ k + 1) ∧
        ∀ s, p.sent = some s → s.datagram.header.ts = p.header.ts := by
  have hcarries := session_carries h crypto blocks
  have hts : ∀ k p, (sendBlocks crypto blocks w'.ctx)[k]? = some p →
      ((ntohl p.header.ts).toNat = (k + 1) % 4294967296 ↔ 4294967296 ∣ k + 1) := by
    intro k p hp
    rw [(hcarries k p hp).ts]
    exact ntohl_tsField_iff (k + 1)
  refine ⟨?_, fun k p hp => ⟨hts k p hp, fun s hs => ?_⟩⟩
  · rw [← sendBlocks_eq_nil_iff crypto blocks w'.ctx]
    constructor
    · intro hall
      -- the first packet is wrong
      cases hpackets : sendBlocks crypto blocks w'.ctx with
      | nil => rfl
      | cons p ps =>
        have hp : (sendBlocks crypto blocks w'.ctx)[0]? = some p := by rw [hpackets]; rfl
        have hdvd := (hts 0 p hp).mp (hall 0 p hp)
        omega
    · intro hnil k p hp
      rw [hnil] at hp
      cases hp
  · rw [((hcarries k p hp).datagram s hs).1]

/-- **The first packet of a session has the timestamp `65536`.** -/
theorem first_timestamp_wrong :
    ∃ w', prepareSrtpSender ownPorts (castTo 5004 1) (senderStart []) = .ok w' ∧
      ∃ p, (sendBlocks invertingCrypto [Block.ofList [1]] w'.ctx)[0]? = some p ∧
        (ntohl p.header.ts).toNat = 65536 := by
  refine ⟨_, prepareSrtpSender_castTo, ?_⟩
  have hts : ((sendBlocks invertingCrypto [Block.ofList [1]]
      ((castTo 5004 1).context srtpBackendInit.message.body 0))[0]?).any
      (fun p => decide ((ntohl p.header.ts).toNat = 65536)) = true := by
    decide +kernel
  obtain ⟨p, hp, hpts⟩ := (Option.any_eq_true _ _).mp hts
  exact ⟨p, hp, of_decide_eq_true hpts⟩

theorem timestamps_iff_castTo :
    ∃ w', prepareSrtpSender ownPorts (castTo 5004 1) (senderStart []) = .ok w' ∧
      ((∀ k p, (sendBlocks invertingCrypto [Block.ofList [1]] w'.ctx)[k]? = some p →
          (ntohl p.header.ts).toNat = (k + 1) % 4294967296) ↔
        ∀ b ∈ [Block.ofList [1]], b.length = 0) :=
  ⟨_, prepareSrtpSender_castTo,
    (timestamps_iff prepareSrtpSender_castTo invertingCrypto [Block.ofList [1]]).1⟩

end CameraDaemon
