import CameraDaemon.RtpWorker

/-!
# What a call and a session send

`srtp_sender_callback` moves `offset` on *before* it copies the body of a packet, so each body is
read one chunk further on than it should be, and the last one behind the end of the block.  The
headers are right: through every wrap of the sixteen-bit counter the packets of a session are
numbered by the index that libsrtp reconstructs.

## Main definitions

* `Packetised` — the packets of a call carry the bytes of the block, and only those are read.
* `sendBlocks` — a session: calls of `srtp_sender_callback`, one after another.
* `RtpPacket.IsNumber` — a packet carries a number, and was protected under it.

## Main results

* `rtpChunks_closed` — the chunks of a call in closed form.
* `packetised_iff` — **a call packetises its block exactly when the block is empty.**
* `sendBlocks_rule` — what every turn keeps, and gives to its packet, over a whole session.
* `sendBlocks_numbered` — the packets of a session have the numbers that follow.
* `session_numbered` — **packet `k` of a session has number and index `k`.**
-/

namespace CameraDaemon

open ByteOrder Memory

/-! ### The chunks of a block -/

/-- A last body fits the message. -/
theorem mod_succ_le_bodySize (n : ℕ) : n % 1366 + 1 ≤ rtpPktBodySize := by
  have hlt := Nat.mod_lt n (show 0 < 1366 by decide)
  rw [rtpPktBodySize_eq]
  omega

/-- **The chunks in closed form**: whole bodies, and a last one of what is left, which is copied from
the end of the block; `offset` stays in the range of `int`. -/
theorem rtpChunks_closed {length : ℕ} (hlen : length ≤ 2 ^ 31 - 1366) :
    ∀ (left offset : ℕ), length - offset = left + 1 →
      rtpChunks length offset =
        ((List.range (left / 1366)).map (fun i =>
            { bodyLen := rtpPktBodySize
              offset := offset + (i + 1) * rtpPktBodySize
              bodyLen_le := Nat.le_refl _ }) ++
          [{ bodyLen := left % 1366 + 1
             offset := length
             bodyLen_le := mod_succ_le_bodySize left }], false) := by
  intro left
  have hsize := rtpPktBodySize_eq
  induction left using Nat.strong_induction_on with
  | _ left ih =>
    intro offset hleft
    have hlt : offset < length := by omega
    have hrange : ¬ offset + rtpPktBodySize ≥ 2 ^ 31 := by omega
    rcases Nat.lt_or_ge (offset + rtpPktBodySize) length with hmore | hdone
    · -- a whole body, and more to come
      have hnext : nextChunk length offset =
          some
            { bodyLen := rtpPktBodySize
              offset := offset + rtpPktBodySize
              bodyLen_le := Nat.le_refl _ } := by
        rw [nextChunk, if_neg hrange, dif_pos hmore]
      have hrest := ih (left - 1366) (by omega) (offset + rtpPktBodySize) (by omega)
      have hquot : left / 1366 = (left - 1366) / 1366 + 1 := by omega
      have hrem : left % 1366 = (left - 1366) % 1366 := by omega
      have hshift : ∀ i, offset + rtpPktBodySize + (i + 1) * rtpPktBodySize =
          offset + (i + 1 + 1) * rtpPktBodySize := by
        intro i
        rw [Nat.add_mul (i + 1), Nat.one_mul]
        omega
      rw [rtpChunks_eq hlt, hnext]
      simp only [hrest, hquot, hrem, List.range_succ_eq_map, List.map_cons, List.map_map,
        List.cons_append, Function.comp_def, hshift, Nat.succ_eq_add_one, Nat.zero_add, Nat.one_mul]
    · -- the last body
      have hnext : nextChunk length offset =
          some
            { bodyLen := length - offset
              offset := length
              bodyLen_le := Nat.sub_le_iff_le_add'.mpr hdone } := by
        rw [nextChunk, if_neg hrange, dif_neg (Nat.not_lt.mpr hdone)]
      have hquot : left / 1366 = 0 := by omega
      have hrem : left % 1366 + 1 = length - offset := by omega
      rw [rtpChunks_eq hlt, hnext]
      simp only [rtpChunks_of_ge le_rfl, hquot, hrem, List.range_zero, List.map_nil,
        List.nil_append]

/-- The chunks of a block add up to it, and the last of them, which is not empty, is copied from the
end of the block. -/
theorem rtpChunks_last {length : ℕ} (hlen : length ≤ 2 ^ 31 - 1366) (hpos : 0 < length) :
    ∃ (init : List RtpChunk) (last : RtpChunk),
      (rtpChunks length 0).1 = init ++ [last] ∧ last.offset = length ∧
      0 < last.bodyLen ∧ (init.map RtpChunk.bodyLen).sum + last.bodyLen = length := by
  have hsize := rtpPktBodySize_eq
  rw [rtpChunks_closed hlen (length - 1) 0 (by omega)]
  refine ⟨_, _, rfl, rfl, Nat.succ_pos _, ?_⟩
  rw [List.map_map, Function.comp_def, List.map_const', List.length_range, List.sum_replicate_nat,
    hsize]
  show (length - 1) / 1366 * 1366 + ((length - 1) % 1366 + 1) = length
  omega

/-- A block in the range of `int` is cut without overflow. -/
theorem rtpChunks_no_overflow {length : ℕ} (hlen : length ≤ 2 ^ 31 - 1366) :
    (rtpChunks length 0).2 = false := by
  rcases Nat.eq_zero_or_pos length with rfl | hpos
  · rw [rtpChunks_of_ge le_rfl]
  · rw [rtpChunks_closed hlen (length - 1) 0 (by omega)]

/-! ### The packets of a call -/

/-- A turn sends the chunk it was given. -/
theorem sendPacket_chunk (crypto : SrtpCrypto) (data : ℕ → UInt8) (c : RtpChunk)
    (ctx : SrtpSenderContext) :
    (sendPacket crypto data c ctx).2.chunk = c ∧
      (sendPacket crypto data c ctx).2.body.length = c.bodyLen := by
  simp only [sendPacket]
  split
  · exact ⟨rfl, length_slice _ _ _⟩
  · exact ⟨rfl, length_slice _ _ _⟩

/-- The packets of a call are those of its first chunks: of all of them, unless a turn crashes. -/
theorem sendChunks_prefix (crypto : SrtpCrypto) (data : ℕ → UInt8) :
    ∀ (cs : List RtpChunk) (ctx : SrtpSenderContext),
      (sendChunks crypto data cs ctx).2.2.map RtpPacket.chunk <+: cs ∧
        ∀ p ∈ (sendChunks crypto data cs ctx).2.2, p.body.length = p.chunk.bodyLen := by
  intro cs
  induction cs with
  | nil => intro ctx; exact ⟨List.prefix_rfl, fun p hp => absurd hp List.not_mem_nil⟩
  | cons c cs ih =>
    intro ctx
    obtain ⟨hchunk, hbody⟩ := sendPacket_chunk crypto data c ctx
    obtain ⟨hpre, hlen⟩ := ih (sendPacket crypto data c ctx).1
    rw [sendChunks_cons]
    split
    · refine ⟨?_, ?_⟩
      · simp [hchunk]
      · simp [hchunk, hbody]
    · refine ⟨?_, ?_⟩
      · simp only [List.map_cons, hchunk]
        exact (List.prefix_cons_inj c).mpr hpre
      · simp only [List.forall_mem_cons, hchunk, hbody, true_and]
        exact hlen

/-- With a context, a turn sends its packet and leaves a context. -/
theorem sendPacket_isSome (crypto : SrtpCrypto) (data : ℕ → UInt8) (c : RtpChunk)
    {ctx : SrtpSenderContext} (hctx : ctx.srtpCtx.isSome = true) :
    (sendPacket crypto data c ctx).2.sent ≠ none ∧
      (sendPacket crypto data c ctx).1.srtpCtx.isSome = true := by
  obtain ⟨srtp, hsrtp⟩ := Option.isSome_iff_exists.mp hctx
  have hfill := (fillMessage_srtpCtx data c ctx).trans hsrtp
  simp only [sendPacket, protectMessage, hfill]
  exact ⟨Option.some_ne_none _, rfl⟩

theorem sendChunks_not_crashed (crypto : SrtpCrypto) (data : ℕ → UInt8) :
    ∀ (cs : List RtpChunk) (ctx : SrtpSenderContext), ctx.srtpCtx.isSome = true →
      (sendChunks crypto data cs ctx).1 = false := by
  intro cs
  induction cs with
  | nil => exact fun ctx _ => rfl
  | cons c cs ih =>
    intro ctx hctx
    obtain ⟨hsent, hnext⟩ := sendPacket_isSome crypto data c hctx
    rw [sendChunks_cons, if_neg hsent]
    exact ih _ hnext

/-- **A call on a block in the range of `int` returns**, once there is a context. -/
theorem srtpSenderCallback_returned (crypto : SrtpCrypto) (data : ℕ → UInt8) {length : ℕ}
    (hlen : length ≤ 2 ^ 31 - 1366) {ctx : SrtpSenderContext} (hctx : ctx.srtpCtx.isSome = true) :
    (srtpSenderCallback crypto data length ctx).1 = .returned := by
  simp only [srtpSenderCallback, sendChunks_not_crashed crypto data _ ctx hctx,
    rtpChunks_no_overflow hlen]
  rfl

/-- The packets of a call carry the bytes of the block, in order, and every byte that the `memcpy` of
a packet reads stands before the end of the block. -/
def Packetised (data : ℕ → UInt8) (length : ℕ) (packets : List RtpPacket) : Prop :=
  (packets.map RtpPacket.body).flatten = slice data 0 length ∧
    ∀ p ∈ packets, ∀ i < p.chunk.bodyLen, p.chunk.offset + i < length

/-- **A call packetises its block exactly when the block is empty**: the last packet of any other
block is read from its end on. -/
theorem packetised_iff (crypto : SrtpCrypto) (ctx : SrtpSenderContext) (data : ℕ → UInt8)
    {length : ℕ} (hlen : length ≤ 2 ^ 31 - 1366) :
    Packetised data length (srtpSenderCallback crypto data length ctx).2.2 ↔ length = 0 := by
  constructor
  · rintro ⟨hbytes, hread⟩
    by_contra hne
    obtain ⟨init, last, hchunks, hoff, hpos, hsum⟩ :=
      rtpChunks_last hlen (Nat.pos_of_ne_zero hne)
    simp only [srtpSenderCallback, hchunks] at hbytes hread
    obtain ⟨hpre, hbody⟩ := sendChunks_prefix crypto data (init ++ [last]) ctx
    generalize hps : (sendChunks crypto data (init ++ [last]) ctx).2.2 = ps at *
    have hsumps : (ps.map fun p => p.chunk.bodyLen).sum = length := by
      have hcongr : ps.map (fun p => p.body.length) = ps.map fun p => p.chunk.bodyLen :=
        List.map_congr_left hbody
      have hflat := congrArg List.length hbytes
      rwa [List.length_flatten, List.map_map, length_slice, Function.comp_def, hcongr] at hflat
    rcases List.prefix_concat_iff.mp hpre with hall | hshort
    · -- every chunk is sent, the last one too
      obtain ⟨p, hp, hlast⟩ := List.mem_map.mp (hall ▸ List.mem_append_right init
        (List.mem_singleton_self last))
      have hfirst := hread p hp 0 (by rw [hlast]; exact hpos)
      rw [hlast, hoff] at hfirst
      omega
    · -- a turn crashed, and bytes are missing
      obtain ⟨missing, hinit⟩ := hshort
      rw [← hinit, List.map_append, List.sum_append, List.map_map, Function.comp_def, hsumps]
        at hsum
      omega
  · rintro rfl
    simp [Packetised, srtpSenderCallback, rtpChunks_of_ge, sendChunks]

/-- The memory `0, 1, 2, …`. -/
def countingData (i : ℕ) : UInt8 := UInt8.ofNat i

/-- The block `0, 1` of a fresh session is sent as `2, 3`. -/
theorem not_packetised_two :
    ((srtpSenderCallback invertingCrypto countingData 2
        ((castTo 5004 1).context (fun _ => 0) 3)).2.2.map RtpPacket.body) = [[2, 3]] ∧
      ¬ Packetised countingData 2
        (srtpSenderCallback invertingCrypto countingData 2
          ((castTo 5004 1).context (fun _ => 0) 3)).2.2 := by
  have hbody : ((srtpSenderCallback invertingCrypto countingData 2
      ((castTo 5004 1).context (fun _ => 0) 3)).2.2.map RtpPacket.body) = [[2, 3]] := by
    decide +kernel
  refine ⟨hbody, ?_⟩
  rintro ⟨hbytes, -⟩
  rw [hbody] at hbytes
  revert hbytes
  decide

theorem packetised_iff_two :
    Packetised countingData 2
      (srtpSenderCallback invertingCrypto countingData 2
        ((castTo 5004 1).context (fun _ => 0) 3)).2.2 ↔ 2 = 0 :=
  packetised_iff invertingCrypto _ countingData (by decide)

/-! ### The packets of a session -/

/-- A session: blocks given to `srtp_sender_callback` one after another, as long as it returns. -/
def sendBlocks (crypto : SrtpCrypto) : List Block → SrtpSenderContext → List RtpPacket
  | [], _ => []
  | b :: bs, ctx =>
    match srtpSenderCallback crypto b.data b.length ctx with
    | (.returned, ctx, packets) => packets ++ sendBlocks crypto bs ctx
    | (_, _, packets) => packets

theorem srtpSenderCallback_eq (crypto : SrtpCrypto) (data : ℕ → UInt8) (length : ℕ)
    (ctx : SrtpSenderContext) :
    (srtpSenderCallback crypto data length ctx).2 =
      (sendChunks crypto data (rtpChunks length 0).1 ctx).2 := rfl

section Rule

variable {crypto : SrtpCrypto} {I : SrtpSenderContext → ℕ → Prop} {P : RtpPacket → ℕ → Prop}
  (hturn : ∀ data c ctx k, I ctx k →
    I (sendPacket crypto data c ctx).1 (k + 1) ∧ P (sendPacket crypto data c ctx).2 (k + 1))
include hturn

/-- What every turn of the loop keeps holds after a call, and what it gives to its packet holds of
the packets of the call, counted on from the packets before. -/
theorem sendChunks_rule (data : ℕ → UInt8) :
    ∀ (cs : List RtpChunk) (ctx : SrtpSenderContext) (k : ℕ), I ctx k →
      (∀ i p, (sendChunks crypto data cs ctx).2.2[i]? = some p → P p (k + i + 1)) ∧
      I (sendChunks crypto data cs ctx).2.1
        (k + (sendChunks crypto data cs ctx).2.2.length) := by
  intro cs
  induction cs with
  | nil =>
    intro ctx k h
    refine ⟨fun i p hp => ?_, h⟩
    cases hp
  | cons c cs ih =>
    intro ctx k h
    obtain ⟨hnext, hpacket⟩ := hturn data c ctx k h
    rw [sendChunks_cons]
    split
    · -- the call crashes after this packet
      refine ⟨fun i p hp => ?_, hnext⟩
      cases i with
      | zero =>
        cases hp
        exact hpacket
      | succ i => cases hp
    · obtain ⟨hrest, hend⟩ := ih _ (k + 1) hnext
      refine ⟨fun i p hp => ?_, ?_⟩
      · cases i with
        | zero =>
          cases hp
          exact hpacket
        | succ i =>
          have hp' := hrest i p hp
          rwa [show k + 1 + i + 1 = k + (i + 1) + 1 by omega] at hp'
      · rwa [List.length_cons, Nat.add_comm _ 1, ← Nat.add_assoc]

/-- **The rule for the packets of a session**, from the one after packet `k` on. -/
theorem sendBlocks_rule :
    ∀ (blocks : List Block) (ctx : SrtpSenderContext) (k : ℕ), I ctx k →
      ∀ i p, (sendBlocks crypto blocks ctx)[i]? = some p → P p (k + i + 1) := by
  intro blocks
  induction blocks with
  | nil =>
    intro ctx k _ i p hp
    cases hp
  | cons b bs ih =>
    intro ctx k h i p hp
    obtain ⟨hcall, hend⟩ := sendChunks_rule hturn b.data (rtpChunks b.length 0).1 ctx k h
    have heq := srtpSenderCallback_eq crypto b.data b.length ctx
    rw [← heq] at hcall hend
    rw [sendBlocks] at hp
    split at hp
    · next ctx' packets hret =>
      rw [hret] at hcall hend
      rcases Nat.lt_or_ge i packets.length with hin | hout
      · rw [List.getElem?_append_left hin] at hp
        exact hcall i p hp
      · -- a packet of a later call
        rw [List.getElem?_append_right hout] at hp
        have hp' := ih ctx' (k + packets.length) hend (i - packets.length) p hp
        rwa [show k + packets.length + (i - packets.length) + 1 = k + i + 1 by omega] at hp'
    · next ctx' packets hret =>
      rw [hret] at hcall
      exact hcall i p hp

end Rule

/-- The packet carries the number `n` and the SSRC of its session, and `srtp_protect` succeeded on it
under the index `n`. -/
structure RtpPacket.IsNumber (p : RtpPacket) (ssrc : UInt32) (n : ℕ) : Prop where
  seq : p.header.seq = htons (UInt16.ofNat n)
  ssrc : p.header.ssrc = ssrc
  sent : ∃ d : RtpDatagram, d.header = p.header ∧
    p.sent = some { status := .ok, index := some n, datagram := d }

/-- The packets of a session have the numbers from `k + 1` on, as long as the key lasts. -/
theorem sendBlocks_numbered {crypto : SrtpCrypto} (hc : crypto.Succeeds rtpPktBodySize)
    (blocks : List Block) {ctx : SrtpSenderContext} {stream : SrtpStream} {k : ℕ}
    (h : SenderAt ctx stream k) :
    ∀ i p, (sendBlocks crypto blocks ctx)[i]? = some p → k + i + 1 ≤ 2 ^ 48 - 2 →
      p.IsNumber stream.ssrc (k + i + 1) := by
  -- past the bound nothing is said, neither of the sender nor of its packets
  refine sendBlocks_rule (P := fun p n => n ≤ 2 ^ 48 - 2 → p.IsNumber stream.ssrc n)
    (I := fun ctx k => k ≤ 2 ^ 48 - 2 →
      ∃ stream' : SrtpStream, SenderAt ctx stream' k ∧ stream'.ssrc = stream.ssrc)
    ?_ blocks ctx k fun _ => ⟨stream, h, rfl⟩
  intro data c ctx k hk
  rcases Nat.lt_or_ge k (2 ^ 48 - 2) with hlt | hge
  · obtain ⟨stream', hat, hsame⟩ := hk (by omega)
    obtain ⟨stream'', ctx', packet, d, hsend, hat', hssrc', hseq, hssrc, hd, hsent⟩ :=
      sendPacket_next hc hlt hat data c
    rw [hsend]
    exact ⟨fun _ => ⟨stream'', hat', hssrc'.trans hsame⟩,
      fun _ => ⟨hseq, hssrc.trans hsame, d, hd, hsent⟩⟩
  · exact ⟨fun hle => absurd hle (by omega), fun hle => absurd hle (by omega)⟩

/-- **The packets of a session are numbered by their index**: the `k`-th packet carries `k` modulo
`2 ^ 16` in network order and the SSRC of the session, `srtp_protect` succeeds on it, and the index
that selects its keystream is `k`, so that no two packets share one. -/
theorem session_numbered {crypto : SrtpCrypto} (hc : crypto.Succeeds rtpPktBodySize)
    {sys : SenderSystem} {args : CastArgs} {w w' : SenderWorld}
    (h : prepareSrtpSender sys args w = .ok w') (blocks : List Block) :
    (∀ k p, (sendBlocks crypto blocks w'.ctx)[k]? = some p → k + 1 ≤ 2 ^ 48 - 2 →
      (ntohs p.header.seq).toNat = (k + 1) % 2 ^ 16 ∧
      p.IsNumber (htonl args.ssrc.toUInt32) (k + 1)) ∧
    ∀ i j p q, (sendBlocks crypto blocks w'.ctx)[i]? = some p →
      (sendBlocks crypto blocks w'.ctx)[j]? = some q → i + 1 ≤ 2 ^ 48 - 2 → j + 1 ≤ 2 ^ 48 - 2 →
      p.sent.bind RtpSent.index = q.sent.bind RtpSent.index → i = j := by
  have hnum : ∀ k p, (sendBlocks crypto blocks w'.ctx)[k]? = some p → k + 1 ≤ 2 ^ 48 - 2 →
      p.IsNumber (htonl args.ssrc.toUInt32) (k + 1) := by
    intro k p hp hk
    have hp' := sendBlocks_numbered hc blocks (prepareSrtpSender_at h) k p hp (by omega)
    rwa [Nat.zero_add] at hp'
  refine ⟨fun k p hp hk => ⟨?_, hnum k p hp hk⟩, ?_⟩
  · rw [(hnum k p hp hk).seq, ntohs_htons, UInt16.toNat_ofNat']
  · intro i j p q hp hq hi hj hindex
    obtain ⟨-, -, d, -, hps⟩ := hnum i p hp hi
    obtain ⟨-, -, e, -, hqs⟩ := hnum j q hq hj
    rw [hps, hqs] at hindex
    simpa using hindex

theorem session_numbered_castTo :
    ∃ w', prepareSrtpSender ownPorts (castTo 5004 1) (senderStart []) = .ok w' ∧
      ((sendBlocks invertingCrypto [Block.ofList [1], Block.ofList [2]] w'.ctx)[1]?).isSome ∧
      ∀ k p, (sendBlocks invertingCrypto [Block.ofList [1], Block.ofList [2]] w'.ctx)[k]? = some p →
        k + 1 ≤ 2 ^ 48 - 2 → (ntohs p.header.seq).toNat = (k + 1) % 2 ^ 16 := by
  refine ⟨_, prepareSrtpSender_castTo, by decide +kernel, fun k p hp hk => ?_⟩
  exact ((session_numbered (invertingCrypto_succeeds _) prepareSrtpSender_castTo _).1 k p hp hk).1

end CameraDaemon
