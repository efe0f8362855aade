import CameraDaemon.Packets
import CameraDaemon.Session
import CameraDaemon.Srtp.StreamCipher
import Mathlib.Data.List.Nodup

/-!
# The keystream of a session

What the packets of a session are encrypted with.  The sender cuts every block into bodies that are
far shorter than what one vector can encrypt, so the cipher never refuses and a datagram is the body
mixed with the keystream of its packet's number.

A keystream that is used twice gives away the difference of two texts.  The blocks of keystream that
the packets of a session are encrypted with are listed here, over the whole session, and no block
comes twice in the list.

## Main definitions

* `keystreamBlocks` — the blocks of keystream a packet is encrypted with.

## Main results

* `session_encrypted` — **every datagram is its body mixed with the keystream of its number.**
* `session_keystream_nodup` — **no block of keystream is used twice in a session.**
-/

namespace CameraDaemon

open ByteOrder Memory

theorem rtpPktBodySize_le : rtpPktBodySize ≤ 0xffff := by
  rw [rtpPktBodySize_eq]
  decide

/-! ### What is sent -/

/-- The packet has its number, and its datagram is its body encrypted under that number. -/
structure RtpPacket.IsEncrypted (p : RtpPacket) (crypto : SrtpCrypto) (masterKey : List UInt8)
    (ssrc : UInt32) (n : ℕ) : Prop where
  number : p.IsNumber ssrc n
  cc : p.header.cc = 0
  x : p.header.x = 0
  short : p.body.length ≤ rtpPktBodySize
  body : p.sent.map (fun sent => sent.datagram.body) =
    some (crypto.encrypt masterKey ssrc n p.body).2

/-- One turn of the loop sends the body of packet `k + 1` encrypted under that number. -/
theorem sendPacket_encrypted {crypto : SrtpCrypto} (hc : crypto.Succeeds rtpPktBodySize)
    (hin : crypto.InPlace rtpPktBodySize) {ctx : SrtpSenderContext} {stream : SrtpStream} {k : ℕ}
    (hk : k < 2 ^ 48 - 2) (h : SenderAt ctx stream k) (data : ℕ → UInt8) (c : RtpChunk) :
    (∃ stream' : SrtpStream, SenderAt (sendPacket crypto data c ctx).1 stream' (k + 1) ∧
      stream'.ssrc = stream.ssrc ∧ stream'.masterKey = stream.masterKey) ∧
    (sendPacket crypto data c ctx).2.IsEncrypted crypto stream.masterKey stream.ssrc (k + 1) := by
  have hfill := h.fillMessage data c
  have hnum : (ntohs (fillMessage data c ctx).message.header.seq).toNat = (k + 1) % 2 ^ 16 := by
    rw [hfill.seq, ntohs_htons, UInt16.toNat_ofNat']
  have hlen : c.bodyLen + rtpHeaderLen - octetsInRtpHeader = c.bodyLen := Nat.add_sub_cancel _ _
  have hfits : c.bodyLen + rtpHeaderLen - octetsInRtpHeader ≤ rtpPktBodySize := c.bodyLen_le
  have hshort : (slice (fillMessage data c ctx).message.body 0 c.bodyLen).length ≤
      rtpPktBodySize := by
    rw [length_slice]
    exact c.bodyLen_le
  obtain ⟨stream', hat', hs', hkey', hprot⟩ := srtpProtect_next hc hfill.at_k hk
    (show octetsInRtpHeader ≤ c.bodyLen + rtpHeaderLen from Nat.le_add_left _ _) hfits hfill.cc
    hfill.x hfill.ssrc hnum
  have hmsg : protectMessage crypto (c.bodyLen + rtpHeaderLen) (fillMessage data c ctx) =
      some ({ fillMessage data c ctx with
        srtpCtx := some { streamList := [stream'] }
        message := { (fillMessage data c ctx).message with
          body := store (fillMessage data c ctx).message.body 0
            (crypto.encrypt stream.masterKey (fillMessage data c ctx).message.header.ssrc (k + 1)
              (slice (fillMessage data c ctx).message.body 0
                (c.bodyLen + rtpHeaderLen - octetsInRtpHeader))).2 } },
        .ok, c.bodyLen + rtpHeaderLen, some (k + 1)) := by
    simp only [protectMessage, hfill.srtpCtx, hprot]
  rw [hlen] at hmsg
  simp only [sendPacket, hmsg]
  refine ⟨⟨stream', ⟨rfl, hat', ?_, hfill.cc, hfill.x, hfill.seq⟩, hs', hkey'⟩,
    ⟨hfill.seq, hfill.ssrc, _, rfl, rfl⟩, hfill.cc, hfill.x, hshort, ?_⟩
  · rw [hs']
    exact hfill.ssrc
  · -- the datagram is read back from where the ciphertext was stored
    show some (slice (store _ 0 _) 0 (c.bodyLen + rtpHeaderLen - rtpHeaderLen)) = _
    have hout := hin stream.masterKey (fillMessage data c ctx).message.header.ssrc (k + 1) _ hshort
    rw [length_slice] at hout
    rw [Nat.add_sub_cancel, slice_store_take _ _ hout.ge, List.take_of_length_le hout.le, hfill.ssrc]

/-- The packets of a session, from the one after packet `k` on, as long as the key lasts. -/
theorem sendBlocks_encrypted {crypto : SrtpCrypto} (hc : crypto.Succeeds rtpPktBodySize)
    (hin : crypto.InPlace rtpPktBodySize) (blocks : List Block) {ctx : SrtpSenderContext}
    {stream : SrtpStream} {k : ℕ} (h : SenderAt ctx stream k) :
    ∀ i p, (sendBlocks crypto blocks ctx)[i]? = some p → k + i + 1 ≤ 2 ^ 48 - 2 →
      p.IsEncrypted crypto stream.masterKey stream.ssrc (k + i + 1) := by
  refine sendBlocks_rule
    (P := fun p n => n ≤ 2 ^ 48 - 2 → p.IsEncrypted crypto stream.masterKey stream.ssrc n)
    (I := fun ctx k => k ≤ 2 ^ 48 - 2 → ∃ stream' : SrtpStream, SenderAt ctx stream' k ∧
      stream'.ssrc = stream.ssrc ∧ stream'.masterKey = stream.masterKey)
    ?_ blocks ctx k fun _ => ⟨stream, h, rfl, rfl⟩
  intro data c ctx k hk
  rcases Nat.lt_or_ge k (2 ^ 48 - 2) with hlt | hge
  · obtain ⟨stream', hat, hssrc, hkey⟩ := hk (by omega)
    obtain ⟨⟨stream'', hat', hssrc', hkey'⟩, henc⟩ := sendPacket_encrypted hc hin hlt hat data c
    rw [hssrc, hkey] at henc
    exact ⟨fun _ => ⟨stream'', hat', hssrc'.trans hssrc, hkey'.trans hkey⟩, fun _ => henc⟩
  · exact ⟨fun hle => absurd hle (by omega), fun hle => absurd hle (by omega)⟩

/-- A policy without tags. -/
def noTag (_ : List UInt8) (_ : SrtpHdr) (_ : List UInt8) (_ : ℕ) : SrtpErrStatus × List UInt8 :=
  (.ok, [])

section Session

variable (auth : List UInt8 → SrtpHdr → List UInt8 → ℕ → SrtpErrStatus × List UInt8)
  {sys : SenderSystem} {args : CastArgs} {w w' : SenderWorld}
  (h : prepareSrtpSender sys args w = .ok w')
include h

/-- The cipher of the policy never fails on the packets of a session, for the lifetime of the key. -/
theorem session_isEncrypted (blocks : List Block) :
    ∀ k p, (sendBlocks (icmCrypto auth) blocks w'.ctx)[k]? = some p → k + 1 ≤ 2 ^ 48 - 2 →
      p.IsEncrypted (icmCrypto auth) args.policy.key (htonl args.ssrc.toUInt32) (k + 1) := by
  intro k p hp hk
  have henc := sendBlocks_encrypted ((icmCrypto_succeeds auth).mono rtpPktBodySize_le)
    ((icmCrypto_inPlace auth).mono rtpPktBodySize_le) blocks (prepareSrtpSender_at h) k p hp
    (by omega)
  rwa [Nat.zero_add] at henc

/-- **Every datagram of a session is its body mixed with the keystream of its number**, for the first
`2 ^ 48 - 2` packets, which is the lifetime of a key: `srtp_protect` succeeds on packet `k`, and the
keystream is that of AES-128 in counter mode under the derived key, from the counter of the SSRC and
index `k` on. -/
theorem session_encrypted (blocks : List Block) :
    ∀ k p, (sendBlocks (icmCrypto auth) blocks w'.ctx)[k]? = some p → k + 1 ≤ 2 ^ 48 - 2 →
      p.IsNumber (htonl args.ssrc.toUInt32) (k + 1) ∧
      p.sent.map (fun sent => sent.datagram.body) =
        some (icmMix (streamKey args.policy.key).1
          (rtpBase (streamKey args.policy.key).2 (htonl args.ssrc.toUInt32) (k + 1)) 0 p.body) := by
  intro k p hp hk
  have henc := session_isEncrypted auth h blocks k p hp hk
  refine ⟨henc.number, ?_⟩
  rw [henc.body, icmCrypto_encrypt auth _ _ _ (henc.short.trans rtpPktBodySize_le)]

end Session

theorem session_encrypted_castTo :
    ∃ w', prepareSrtpSender ownPorts (castTo 5004 1) (senderStart []) = .ok w' ∧
      ((sendBlocks (icmCrypto noTag) [Block.ofList [1], Block.ofList [2]] w'.ctx)[1]?).isSome ∧
      ∀ p, (sendBlocks (icmCrypto noTag) [Block.ofList [1], Block.ofList [2]] w'.ctx)[1]? = some p →
        p.IsNumber (htonl 1) 2 := by
  refine ⟨_, prepareSrtpSender_castTo, by decide +kernel, fun p hp => ?_⟩
  exact (session_encrypted noTag prepareSrtpSender_castTo _ 1 p hp (by norm_num)).1

/-! ### No block of keystream is used twice -/

/-- The blocks of keystream a packet is encrypted with. -/
def keystreamBlocks (masterKey : List UInt8) (p : RtpPacket) : List V128 :=
  match p.sent.bind RtpSent.index with
  | none => []
  | some n => (List.range ((p.body.length + 15) / 16)).map
      (icmBlock (streamKey masterKey).1 (rtpBase (streamKey masterKey).2 p.header.ssrc n))

/-- Blocks of keystream under one key are equal only if they are the same block. -/
theorem rtpBlock_injective (masterKey : List UInt8) {s t : UInt32} {m n j k : ℕ} (hm : m < 2 ^ 48)
    (hn : n < 2 ^ 48) (hj : j < 0x10000) (hk : k < 0x10000)
    (h : icmBlock (streamKey masterKey).1 (rtpBase (streamKey masterKey).2 s m) j =
      icmBlock (streamKey masterKey).1 (rtpBase (streamKey masterKey).2 t n) k) :
    s = t ∧ m = n ∧ j = k := by
  obtain ⟨c, -, hkey, hzero, hnum⟩ := streamCipher_spec masterKey
  rw [hkey] at h
  exact rtpCounter_injective hzero hm hn hj hk (icmBlock_injective hnum (.inl rfl) h)

/-- **No block of keystream is used twice in a session**, in one packet or in two, as long as there
are no more packets than the key is for. -/
theorem session_keystream_nodup
    (auth : List UInt8 → SrtpHdr → List UInt8 → ℕ → SrtpErrStatus × List UInt8)
    {sys : SenderSystem} {args : CastArgs} {w w' : SenderWorld}
    (h : prepareSrtpSender sys args w = .ok w') {blocks : List Block}
    (hlen : (sendBlocks (icmCrypto auth) blocks w'.ctx).length ≤ 2 ^ 48 - 2) :
    ((sendBlocks (icmCrypto auth) blocks w'.ctx).flatMap
      (keystreamBlocks args.policy.key)).Nodup := by
  have hsize := rtpPktBodySize_eq
  -- the blocks of packet `i` are those of number `i + 1`
  have hblocks : ∀ i p, (sendBlocks (icmCrypto auth) blocks w'.ctx)[i]? = some p →
      i + 1 < 2 ^ 48 ∧ p.body.length ≤ 1366 ∧ keystreamBlocks args.policy.key p =
        (List.range ((p.body.length + 15) / 16)).map (icmBlock (streamKey args.policy.key).1
          (rtpBase (streamKey args.policy.key).2 (htonl args.ssrc.toUInt32) (i + 1))) := by
    intro i p hp
    obtain ⟨hi, -⟩ := List.getElem?_eq_some_iff.mp hp
    have henc := session_isEncrypted auth h blocks i p hp (by omega)
    obtain ⟨-, hssrc, d, -, hsent⟩ := henc.number
    refine ⟨by omega, hsize ▸ henc.short, ?_⟩
    rw [keystreamBlocks, hsent, hssrc]
    rfl
  rw [List.nodup_flatMap]
  refine ⟨fun p hp => ?_, List.pairwise_iff_getElem.mpr fun i j hi hj hij => ?_⟩
  · obtain ⟨i, hi⟩ := List.mem_iff_getElem?.mp hp
    obtain ⟨hnum, hbody, hlist⟩ := hblocks i p hi
    rw [hlist]
    refine List.Nodup.map_on ?_ List.nodup_range
    intro a ha b hb hab
    rw [List.mem_range] at ha hb
    exact (rtpBlock_injective _ hnum hnum (by omega) (by omega) hab).2.2
  · obtain ⟨hnum, hbody, hlist⟩ := hblocks i _ (List.getElem?_eq_getElem hi)
    obtain ⟨hnum', hbody', hlist'⟩ := hblocks j _ (List.getElem?_eq_getElem hj)
    intro x hx hx'
    rw [hlist] at hx
    rw [hlist'] at hx'
    obtain ⟨a, ha, rfl⟩ := List.mem_map.mp hx
    obtain ⟨b, hb, hab⟩ := List.mem_map.mp hx'
    rw [List.mem_range] at ha hb
    have hsame := (rtpBlock_injective _ hnum' hnum (by omega) (by omega) hab).2.1
    omega

theorem session_keystream_nodup_castTo :
    ∃ w', prepareSrtpSender ownPorts (castTo 5004 1) (senderStart []) = .ok w' ∧
      ((sendBlocks (icmCrypto noTag) [Block.ofList [1], Block.ofList [2]] w'.ctx).flatMap
        (keystreamBlocks (castTo 5004 1).policy.key)).Nodup :=
  ⟨_, prepareSrtpSender_castTo,
    session_keystream_nodup noTag prepareSrtpSender_castTo (by decide +kernel)⟩

end CameraDaemon
