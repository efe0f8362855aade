import CameraDaemon.Srtp.Protect
import CameraDaemon.Srtp.SessionKeys

/-!
# The cipher of a stream

`srtp_protect` gives the cipher of a stream a vector made of the SSRC and the packet's index and
then has the payload encrypted.  `SrtpCrypto` describes that by two functions of the master key, the
SSRC and the index.  Here is the cipher the daemon's policy selects, AES in counter mode under the
derived keys, as such a pair of functions.

One cipher context serves all packets of a stream, so the functions are right only if nothing of
one packet is left for the next: a new vector starts a new keystream, whatever has been encrypted
before.

## Main definitions

* `icmIv`, `rtpBase` — the vector of a packet, and the counter it makes with the salt.
* `icmRun` — the one context of a stream, packet after packet.
* `streamCipher`, `icmCrypto` — the cipher of a stream.

## Main results

* `rtpCounter_injective` — the counters of a key's packets are pairwise different.
* `icmRun_eq` — **what a packet becomes does not depend on the packets before it.**
* `icmCrypto_encrypt`, `icmCrypto_succeeds` — **on up to `0xffff` octets the cipher never fails and
  mixes in the keystream of the packet.**
-/

namespace CameraDaemon

open Memory Rijndael Keystream

/-! ### Vectors and counters -/

/-- The vector of a packet: the SSRC as it stands in the header, and the index before two octets of
zeros, in network order. -/
def icmIv (ssrc : UInt32) (est : ℕ) : V128 :=
  Vector.ofFn fun i =>
    if i.val < 4 then 0
    else if i.val < 8 then UInt8.ofNat (ssrc.toNat / 2 ^ (8 * (i.val - 4)))
    else UInt8.ofNat (est * 2 ^ 16 % 2 ^ 64 / 2 ^ (8 * (15 - i.val)))

/-- The counter the keystream of a packet starts from. -/
def rtpBase (salt : V128) (ssrc : UInt32) (est : ℕ) : V128 := v128XorEq salt (icmIv ssrc est)

theorem blockIndex_rtpBase {salt : V128} (h : ZeroEnd salt) (ssrc : UInt32) (est : ℕ) :
    blockIndex (rtpBase salt ssrc est) = 0 := by
  have h₁ : (icmIv ssrc est)[14] = 0 := by
    simp only [icmIv, Vector.getElem_ofFn]
    apply UInt8.toNat_inj.mp
    rw [if_neg (by decide), if_neg (by decide), UInt8.toNat_ofNat']
    show est * 2 ^ 16 % 2 ^ 64 / 2 ^ 8 % 2 ^ 8 = 0
    omega
  have h₂ : (icmIv ssrc est)[15] = 0 := by
    simp only [icmIv, Vector.getElem_ofFn]
    apply UInt8.toNat_inj.mp
    rw [if_neg (by decide), if_neg (by decide), UInt8.toNat_ofNat']
    show est * 2 ^ 16 % 2 ^ 64 / 2 ^ 0 % 2 ^ 8 = 0
    omega
  have e₁ : (rtpBase salt ssrc est)[14] = 0 := by
    rw [rtpBase, getElem_v128XorEq, show salt[14] = 0 from h.1, h₁, UInt8.xor_self]
  have e₂ : (rtpBase salt ssrc est)[15] = 0 := by
    rw [rtpBase, getElem_v128XorEq, show salt[15] = 0 from h.2, h₂, UInt8.xor_self]
  show ((rtpBase salt ssrc est)[14]).toNat * 256 + ((rtpBase salt ssrc est)[15]).toNat = 0
  rw [e₁, e₂]
  rfl

/-- The first fourteen octets of a vector tell the SSRC and the index. -/
theorem icmIv_injective {s t : UInt32} {a b : ℕ} (ha : a < 2 ^ 48) (hb : b < 2 ^ 48)
    (h : ∀ (i : ℕ) (_ : i < 14), (icmIv s a)[i] = (icmIv t b)[i]) : s = t ∧ a = b := by
  have hnat : ∀ (i : ℕ) (_ : i < 14), ((icmIv s a)[i]).toNat = ((icmIv t b)[i]).toNat :=
    fun i hi => congrArg UInt8.toNat (h i hi)
  simp only [icmIv, Vector.getElem_ofFn] at hnat
  have hs := s.toNat_lt
  have ht := t.toNat_lt
  have h₄ := hnat 4 (by decide)
  have h₅ := hnat 5 (by decide)
  have h₆ := hnat 6 (by decide)
  have h₇ := hnat 7 (by decide)
  have h₈ := hnat 8 (by decide)
  have h₉ := hnat 9 (by decide)
  have h₁₀ := hnat 10 (by decide)
  have h₁₁ := hnat 11 (by decide)
  have h₁₂ := hnat 12 (by decide)
  have h₁₃ := hnat 13 (by decide)
  simp only [Nat.reduceLT, Nat.reduceSub, Nat.reduceMul, Nat.reducePow, if_false, if_true,
    UInt8.toNat_ofNat', lt_self_iff_false] at h₄ h₅ h₆ h₇ h₈ h₉ h₁₀ h₁₁ h₁₂ h₁₃
  refine ⟨UInt32.toNat_inj.mp ?_, ?_⟩
  · omega
  · omega

/-- **The counters of a key's packets are pairwise different**, in one packet and across packets. -/
theorem rtpCounter_injective {salt : V128} (h : ZeroEnd salt) {s t : UInt32} {a b j k : ℕ}
    (ha : a < 2 ^ 48) (hb : b < 2 ^ 48) (hj : j < 0x10000) (hk : k < 0x10000)
    (heq : counterAt (rtpBase salt s a) j = counterAt (rtpBase salt t b) k) :
    s = t ∧ a = b ∧ j = k := by
  have hoctets : ∀ (i : ℕ) (_ : i < 14), (icmIv s a)[i] = (icmIv t b)[i] := by
    intro i hi
    have hi' := congrArg (fun x : V128 => x[i]) heq
    simp only [getElem_counterAt, if_neg (show i ≠ 15 by omega), if_neg (show i ≠ 14 by omega),
      rtpBase, getElem_v128XorEq] at hi'
    exact (UInt8.xor_right_inj _).mp hi'
  obtain ⟨rfl, rfl⟩ := icmIv_injective ha hb hoctets
  exact ⟨rfl, rfl, counterAt_injective (by rw [blockIndex_rtpBase h]; omega)
    (by rw [blockIndex_rtpBase h]; omega) heq⟩

/-! ### One context for all packets -/

/-- Packets one after the other with one cipher context: for each the vector is set and the payload
encrypted. -/
def icmRun : SrtpAesIcmCtx → List (V128 × List UInt8) → List (IcmStatus × List UInt8)
  | _, [] => []
  | c, (iv, payload) :: packets =>
    let r := srtpAesIcmEncrypt (srtpAesIcmSetIv c iv) payload
    (r.1, r.2.2) :: icmRun r.2.1 packets

/-- What one packet becomes under a key and a salt. -/
def icmPacket (ek : SrtpAesExpandedKey) (salt iv : V128) (payload : List UInt8) :
    IcmStatus × List UInt8 :=
  if payload.length + blockIndex (v128XorEq salt iv) ≤ 0xffff then
    (.ok, icmMix ek (v128XorEq salt iv) 0 payload)
  else (.terminus, payload)

theorem srtpAesIcmEncrypt_packet (c : SrtpAesIcmCtx) (iv : V128) {payload : List UInt8}
    (hlen : payload.length + 0xffff < 2 ^ 32) :
    ((srtpAesIcmEncrypt (srtpAesIcmSetIv c iv) payload).1,
      (srtpAesIcmEncrypt (srtpAesIcmSetIv c iv) payload).2.2) =
        icmPacket c.expandedKey c.offset iv payload := by
  obtain ⟨hok, hfull⟩ := srtpAesIcmEncrypt_spec (icmAt_setIv c iv) hlen
  rw [icmPacket]
  split
  · next h =>
    obtain ⟨h₁, h₂, -⟩ := hok (by omega)
    rw [h₁, h₂]
  · next h => rw [hfull (by omega)]

/-- **What a packet becomes does not depend on the packets before it**, nor on whether they were
refused: only on the key, the salt, its vector and its payload. -/
theorem icmRun_eq (c : SrtpAesIcmCtx) {packets : List (V128 × List UInt8)}
    (hlen : ∀ p ∈ packets, p.2.length + 0xffff < 2 ^ 32) :
    icmRun c packets = packets.map fun p => icmPacket c.expandedKey c.offset p.1 p.2 := by
  induction packets generalizing c with
  | nil => rfl
  | cons p packets ih =>
    obtain ⟨hoff, hkey⟩ := srtpAesIcmEncrypt_keeps (srtpAesIcmSetIv c p.1) p.2
    rw [icmRun, srtpAesIcmEncrypt_packet c p.1 (hlen p List.mem_cons_self),
      ih _ fun q hq => hlen q (List.mem_cons_of_mem p hq), hoff, hkey]
    rfl

theorem icmRun_eq_two :
    icmRun countingIcmCtx [(icmIv 1 1, [1, 2, 3]), (icmIv 1 2, List.replicate 20 4)] =
      [icmPacket countingIcmCtx.expandedKey countingIcmCtx.offset (icmIv 1 1) [1, 2, 3],
        icmPacket countingIcmCtx.expandedKey countingIcmCtx.offset (icmIv 1 2)
          (List.replicate 20 4)] :=
  icmRun_eq countingIcmCtx (by decide)

/-! ### The cipher of a stream -/

/-- The RTP cipher of a stream under the policy of the daemon: AES-128 in counter mode for both
protocols, with authentication keys of twenty octets. -/
def streamCipher (masterKey : List UInt8) : Option SrtpAesIcmCtx :=
  (srtpStreamInitKeys masterKey 30 30 20 20).map SrtpSessionKeys.rtpCipher

/-- The cipher as `srtp_protect` uses it.  Its failures are all reported as one. -/
def icmCrypto (auth : List UInt8 → SrtpHdr → List UInt8 → ℕ → SrtpErrStatus × List UInt8) :
    SrtpCrypto :=
  { setIv := fun masterKey _ _ => if (streamCipher masterKey).isSome then .ok else .cipherFail
    encrypt := fun masterKey ssrc est bytes =>
      match streamCipher masterKey with
      | none => (.cipherFail, bytes)
      | some c =>
        let r := srtpAesIcmEncrypt (srtpAesIcmSetIv c (icmIv ssrc est)) bytes
        (if r.1 = .ok then .ok else .cipherFail, r.2.2)
    auth := auth }

/-- The key and the salt of a stream's cipher. -/
def streamKey (masterKey : List UInt8) : SrtpAesExpandedKey × V128 :=
  match streamCipher masterKey with
  | none => (zeroExpandedKey, Vector.replicate 16 0)
  | some c => (c.expandedKey, c.offset)

theorem streamCipher_spec (masterKey : List UInt8) :
    ∃ c, streamCipher masterKey = some c ∧ streamKey masterKey = (c.expandedKey, c.offset) ∧
      ZeroEnd c.offset ∧ c.expandedKey.numRounds = 10 := by
  obtain ⟨ks, kdf, hks, -, -, hd⟩ := srtpStreamInitKeys_spec masterKey (.inl rfl) (.inl rfl)
    (show 20 ≤ 0xffff by decide) (show 20 ≤ 0xffff by decide)
  have hcipher : streamCipher masterKey = some ks.rtpCipher := by rw [streamCipher, hks]; rfl
  obtain ⟨-, hnum, -⟩ := srtpAesExpandEncryptionKey_spec
    (derivedOctets kdf .rtpEncryption .rtpSalt 30) (.inl rfl) zeroExpandedKey
  refine ⟨ks.rtpCipher, hcipher, by rw [streamKey, hcipher], ?_, ?_⟩
  · rw [hd.rtpSalt]
    exact zeroEnd_icmSalt _ _
  · rw [hd.rtpKey]
    exact hnum

section Cipher

variable (auth : List UInt8 → SrtpHdr → List UInt8 → ℕ → SrtpErrStatus × List UInt8)

/-- **The cipher mixes in the keystream of the packet**, on up to `0xffff` octets. -/
theorem icmCrypto_encrypt (masterKey : List UInt8) (ssrc : UInt32) (est : ℕ) {bytes : List UInt8}
    (hlen : bytes.length ≤ 0xffff) :
    (icmCrypto auth).encrypt masterKey ssrc est bytes =
      (.ok, icmMix (streamKey masterKey).1 (rtpBase (streamKey masterKey).2 ssrc est) 0 bytes) := by
  obtain ⟨c, hc, hkey, hzero, -⟩ := streamCipher_spec masterKey
  have hbase := blockIndex_rtpBase hzero ssrc est
  rw [rtpBase] at hbase
  obtain ⟨hok, hout⟩ := srtpAesIcmEncrypt_setIv c (show blockIndex (v128XorEq c.offset
    (icmIv ssrc est)) + bytes.length ≤ 0xffff by omega)
  simp only [icmCrypto, hc, hkey, hok, hout, if_true]
  rfl

/-- The cipher never fails on up to `0xffff` octets. -/
theorem icmCrypto_succeeds : (icmCrypto auth).Succeeds 0xffff where
  setIv_ok := by
    intro masterKey ssrc est
    obtain ⟨c, hc, -⟩ := streamCipher_spec masterKey
    simp [icmCrypto, hc]
  encrypt_ok := by
    intro masterKey ssrc est bytes hlen
    rw [icmCrypto_encrypt auth masterKey ssrc est hlen]

/-- The cipher works in place. -/
theorem icmCrypto_inPlace : (icmCrypto auth).InPlace 0xffff := by
  intro masterKey ssrc est bytes hlen
  rw [icmCrypto_encrypt auth masterKey ssrc est hlen]
  exact length_icmMix _ _ _ _

end Cipher

end CameraDaemon
