import CameraDaemon.Srtp.Replay
import CameraDaemon.Srtp.StreamCipher
import Mathlib.Data.List.Perm.Subperm

/-!
# Unprotecting a packet

The other end of a stream.  `srtp_unprotect` looks up the stream, estimates the index from the
sequence number, asks the replay database, checks the tag, charges the key, decrypts and only then
marks the index, so a packet that is refused leaves no trace in the database.

The tag length is a property of the stream's authenticator and not of its services: it is taken off
the packet whether or not the services ask for authentication.  All lengths are unsigned, so a packet
that is shorter than a tag has a very long encrypted portion; a header is longer than the tags in use.

Counter mode decrypts by encrypting again, and `SrtpCrypto.encrypt` stands for both.

## Main definitions

* `SrtpUnprotectStatus` — the statuses of `srtp_unprotect`.
* `srtpUnprotect` — the function a receiver calls.
* `ReceivesFrom` — a stream that has let through what an ideal replay database has let through.

## Main results

* `srtpUnprotectStream_refused` — a refused packet is left as it was, and the database with it.
* `srtpUnprotectStream_uncharged` — how often the key has been used does not matter.
* `srtpUnprotectStream_near` — one packet that is less than half a cycle away.
-/

namespace CameraDaemon

open ByteOrder Memory

/-! ### The code -/

/-- The `srtp_err_status_*` values of `srtp_unprotect`: those of `srtp_protect` and
`srtp_err_status_auth_fail`. -/
inductive SrtpUnprotectStatus
  | status (s : SrtpErrStatus)
  | authFail
  deriving DecidableEq, Repr

/-- What a call of `srtp_unprotect` leaves behind. -/
structure SrtpUnprotectResult where
  status : SrtpUnprotectStatus
  stream : SrtpStream
  msg : RtpMsg
  pktOctetLen : ℕ

/-- `*pkt_octet_len - tag_len`, unsigned. -/
def octetsBeforeTag (pktOctetLen tagLen : ℕ) : ℕ := (pktOctetLen + 2 ^ 32 - tagLen) % 2 ^ 32

/-- The tag at the end of the packet is the tag of what stands before it. -/
def srtpAuthentic (crypto : SrtpCrypto) (tagLen : ℕ) (stream : SrtpStream) (est : ℕ) (msg : RtpMsg)
    (pktOctetLen : ℕ) : Prop :=
  let before := octetsBeforeTag pktOctetLen tagLen - octetsInRtpHeader
  let tag := crypto.auth stream.masterKey msg.header (slice msg.body 0 before) est
  tag.1 = .ok ∧ tag.2.take tagLen = slice msg.body before tagLen

instance (crypto : SrtpCrypto) (tagLen : ℕ) (stream : SrtpStream) (est : ℕ) (msg : RtpMsg)
    (pktOctetLen : ℕ) : Decidable (srtpAuthentic crypto tagLen stream est msg pktOctetLen) :=
  inferInstanceAs (Decidable (_ ∧ _))

/-- The end of `srtp_unprotect`: the direction is settled, and the index is marked; an index that is
far ahead of the database moves the database there. -/
def srtpMarkIndex (stream : SrtpStream) (status : SrtpErrStatus) (est : ℕ) (delta : ℤ) :
    SrtpStream :=
  let stream : SrtpStream :=
    { stream with
      direction := if stream.direction = .unknown then .receiver else stream.direction }
  if status = .pktIdxAdv then
    let rdbx := srtpRdbxSetRocSeq stream.rtpRdbx ((est >>> 16) % 2 ^ 32) (est % 2 ^ 16)
    { stream with rtpRdbx := srtpRdbxAddIndex rdbx 0, pendingRoc := 0 }
  else { stream with rtpRdbx := srtpRdbxAddIndex stream.rtpRdbx delta }

/-- The question to the replay database, unless the index is far ahead of it; a packet without an
estimate is refused for that. -/
def srtpReplayCheck (stream : SrtpStream) (status : SrtpErrStatus) (delta : ℤ) : SrtpErrStatus :=
  if status = .pktIdxAdv then .ok
  else if status ≠ .ok then status
  else srtpRdbxCheck stream.rtpRdbx delta

/-- The cipher on the encrypted portion of a packet of `len` octets, if there is one. -/
def srtpCipherPortion (crypto : SrtpCrypto) (masterKey : List UInt8) (est : ℕ)
    (encStart : Option ℕ) (msg : RtpMsg) (len : ℕ) : SrtpErrStatus × List UInt8 :=
  match encStart with
  | none => (.ok, [])
  | some start =>
    crypto.encrypt masterKey msg.header.ssrc est
      (slice msg.body (start - octetsInRtpHeader) (len - start))

/-- The part of `srtp_unprotect` behind the checks: charge the key, decrypt, mark the index. -/
def srtpAccept (crypto : SrtpCrypto) (tagLen : ℕ) (stream : SrtpStream) (status : SrtpErrStatus)
    (est : ℕ) (delta : ℤ) (encStart : Option ℕ) (msg : RtpMsg) (pktOctetLen : ℕ) :
    SrtpUnprotectResult :=
  let event := (srtpKeyLimitUpdate stream.limit).1
  let stream := { stream with limit := (srtpKeyLimitUpdate stream.limit).2 }
  let failed (status : SrtpErrStatus) : SrtpUnprotectResult :=
    { status := .status status, stream := stream, msg := msg, pktOctetLen := pktOctetLen }
  if event = .hardLimit then failed .keyExpired
  else
    let out := srtpCipherPortion crypto stream.masterKey est encStart msg
      (octetsBeforeTag pktOctetLen tagLen)
    if out.1 ≠ .ok then failed .cipherFail
    else
      let pos := (encStart.getD octetsInRtpHeader) - octetsInRtpHeader
      { status := .status .ok
        stream := srtpMarkIndex stream status est delta
        msg := { msg with body := store msg.body pos out.2 }
        pktOctetLen := pktOctetLen - tagLen }

/-- `srtp_unprotect_mki` from the point where the stream has been found. -/
def srtpUnprotectStream (crypto : SrtpCrypto) (tagLen : ℕ) (stream : SrtpStream) (msg : RtpMsg)
    (pktOctetLen : ℕ) : SrtpUnprotectResult :=
  let failed (status : SrtpUnprotectStatus) : SrtpUnprotectResult :=
    { status := status, stream := stream, msg := msg, pktOctetLen := pktOctetLen }
  let (status, est, delta) := srtpGetEstPktIndex msg.header stream
  let check := srtpReplayCheck stream status delta
  if check ≠ .ok then failed (.status check)
  else if crypto.setIv stream.masterKey msg.header.ssrc est ≠ .ok then failed (.status .cipherFail)
  else
    match srtpEncStart stream.rtpServices msg (octetsBeforeTag pktOctetLen tagLen) with
    | .error status => failed (.status status)
    | .ok encStart =>
      if stream.rtpServices.hasAuth ∧ ¬ srtpAuthentic crypto tagLen stream est msg pktOctetLen then
        failed .authFail
      else srtpAccept crypto tagLen stream status est delta encStart msg pktOctetLen

/-- `srtp_unprotect`: status, context, packet and packet length. -/
def srtpUnprotect (crypto : SrtpCrypto) (tagLen : ℕ) (ctx : SrtpCtx) (msg : RtpMsg)
    (pktOctetLen : ℕ) : SrtpUnprotectStatus × SrtpCtx × RtpMsg × ℕ :=
  let valid := srtpValidateRtpHeader msg pktOctetLen
  if valid ≠ .ok then (.status valid, ctx, msg, pktOctetLen)
  else
    match srtpGetStream ctx msg.header.ssrc with
    | none => (.status .noCtx, ctx, msg, pktOctetLen)
    | some stream =>
      let r := srtpUnprotectStream crypto tagLen stream msg pktOctetLen
      (r.status, ctx.putStream r.stream, r.msg, r.pktOctetLen)

theorem octetsBeforeTag_of_le {pktOctetLen tagLen : ℕ} (h : tagLen ≤ pktOctetLen)
    (hlen : pktOctetLen < 2 ^ 32) : octetsBeforeTag pktOctetLen tagLen = pktOctetLen - tagLen := by
  rw [octetsBeforeTag]
  omega

/-! ### A packet that is refused -/

/-- What a call that does not succeed leaves alone: the packet, its length, and the stream except for
the charge on its key. -/
structure SrtpUnprotectResult.Untouched (r : SrtpUnprotectResult) (stream : SrtpStream)
    (msg : RtpMsg) (pktOctetLen : ℕ) : Prop where
  stream : r.stream = { stream with limit := r.stream.limit }
  msg : r.msg = msg
  pktOctetLen : r.pktOctetLen = pktOctetLen

theorem srtpAccept_refused {crypto : SrtpCrypto} {tagLen : ℕ} {stream : SrtpStream}
    {status : SrtpErrStatus} {est : ℕ} {delta : ℤ} {encStart : Option ℕ} {msg : RtpMsg}
    {pktOctetLen : ℕ}
    (h : (srtpAccept crypto tagLen stream status est delta encStart msg pktOctetLen).status ≠
      .status .ok) :
    (srtpAccept crypto tagLen stream status est delta encStart msg pktOctetLen).Untouched stream msg
      pktOctetLen := by
  simp only [srtpAccept] at h ⊢
  split
  · exact ⟨rfl, rfl, rfl⟩
  · next hlimit =>
    rw [if_neg hlimit] at h
    split
    · exact ⟨rfl, rfl, rfl⟩
    · next hout =>
      rw [if_neg hout] at h
      exact absurd rfl h

/-- A packet that is refused is left as it was, and so is the stream, except that its key may have been
charged. -/
theorem srtpUnprotectStream_refused {crypto : SrtpCrypto} {tagLen : ℕ} {stream : SrtpStream}
    {msg : RtpMsg} {pktOctetLen : ℕ}
    (h : (srtpUnprotectStream crypto tagLen stream msg pktOctetLen).status ≠ .status .ok) :
    (srtpUnprotectStream crypto tagLen stream msg pktOctetLen).Untouched stream msg
      pktOctetLen := by
  generalize hr : srtpUnprotectStream crypto tagLen stream msg pktOctetLen = r at h ⊢
  simp only [srtpUnprotectStream] at hr
  split at hr
  · subst hr
    exact ⟨rfl, rfl, rfl⟩
  split at hr
  · subst hr
    exact ⟨rfl, rfl, rfl⟩
  split at hr
  · subst hr
    exact ⟨rfl, rfl, rfl⟩
  split at hr
  · subst hr
    exact ⟨rfl, rfl, rfl⟩
  · subst hr
    exact srtpAccept_refused h

/-! ### The charge on the key -/

/-- The stream with a key that has not been used. -/
def SrtpStream.uncharged (stream : SrtpStream) : SrtpStream :=
  { stream with limit := srtpKeyLimitInit }

/-- What a call leaves behind, with a key that has not been used. -/
def SrtpUnprotectResult.uncharged (r : SrtpUnprotectResult) : SrtpUnprotectResult :=
  { r with stream := r.stream.uncharged }

/-- The index is marked in the same way, however often the key has been used. -/
theorem uncharged_srtpMarkIndex {stream stream' : SrtpStream}
    (h : stream.uncharged = stream'.uncharged) (status : SrtpErrStatus) (est : ℕ) (delta : ℤ) :
    (srtpMarkIndex stream status est delta).uncharged =
      (srtpMarkIndex stream' status est delta).uncharged := by
  simp only [SrtpStream.uncharged, SrtpStream.mk.injEq, true_and] at h
  simp only [srtpMarkIndex, SrtpStream.uncharged, h]
  split
  · rfl
  · rfl

section Charge

variable (crypto : SrtpCrypto) (tagLen : ℕ) {stream : SrtpStream} (msg : RtpMsg) (pktOctetLen : ℕ)

theorem srtpAccept_uncharged (h : 2 ≤ stream.limit.numLeft) (status : SrtpErrStatus) (est : ℕ)
    (delta : ℤ) (encStart : Option ℕ) :
    (srtpAccept crypto tagLen stream.uncharged status est delta encStart msg pktOctetLen).uncharged =
      (srtpAccept crypto tagLen stream status est delta encStart msg pktOctetLen).uncharged := by
  have hevent := (srtpKeyLimitUpdate_of_two_le h).1
  have hevent' : (srtpKeyLimitUpdate stream.uncharged.limit).1 ≠ .hardLimit :=
    (srtpKeyLimitUpdate_of_two_le (show 2 ≤ srtpKeyLimitInit.numLeft by decide)).1
  have hkey : stream.uncharged.masterKey = stream.masterKey := rfl
  simp only [srtpAccept, if_neg hevent, if_neg hevent', hkey]
  split
  · rfl
  · simp only [SrtpUnprotectResult.uncharged]
    rw [uncharged_srtpMarkIndex]
    rfl

/-- **How often the key has been used does not matter**, as long as it lasts. -/
theorem srtpUnprotectStream_uncharged (h : 2 ≤ stream.limit.numLeft) :
    (srtpUnprotectStream crypto tagLen stream.uncharged msg pktOctetLen).uncharged =
      (srtpUnprotectStream crypto tagLen stream msg pktOctetLen).uncharged := by
  have hest : srtpGetEstPktIndex msg.header stream.uncharged =
      srtpGetEstPktIndex msg.header stream := rfl
  have hreplay : ∀ status delta, srtpReplayCheck stream.uncharged status delta =
      srtpReplayCheck stream status delta := fun _ _ => rfl
  have hauth : ∀ est, srtpAuthentic crypto tagLen stream.uncharged est msg pktOctetLen ↔
      srtpAuthentic crypto tagLen stream est msg pktOctetLen := fun _ => Iff.rfl
  have hkey : stream.uncharged.masterKey = stream.masterKey := rfl
  have hserv : stream.uncharged.rtpServices = stream.rtpServices := rfl
  simp only [srtpUnprotectStream, hest, hreplay, hauth, hkey, hserv]
  split
  · rfl
  split
  · rfl
  split
  · rfl
  split
  · rfl
  · exact srtpAccept_uncharged crypto tagLen msg pktOctetLen h _ _ _ _

/-- A call charges the key at most once, and leaves the stream where it is. -/
theorem srtpUnprotectStream_charge (h : 2 ≤ stream.limit.numLeft) :
    (srtpUnprotectStream crypto tagLen stream msg pktOctetLen).stream.ssrc = stream.ssrc ∧
      stream.limit.numLeft ≤
        (srtpUnprotectStream crypto tagLen stream msg pktOctetLen).stream.limit.numLeft + 1 := by
  have hleft := (srtpKeyLimitUpdate_of_two_le h).2
  have hafter : stream.limit.numLeft ≤ (srtpKeyLimitUpdate stream.limit).2.numLeft + 1 := by omega
  simp only [srtpUnprotectStream]
  split
  · exact ⟨rfl, Nat.le_succ _⟩
  split
  · exact ⟨rfl, Nat.le_succ _⟩
  split
  · exact ⟨rfl, Nat.le_succ _⟩
  split
  · exact ⟨rfl, Nat.le_succ _⟩
  simp only [srtpAccept]
  split
  · exact ⟨rfl, hafter⟩
  split
  · exact ⟨rfl, hafter⟩
  simp only [srtpMarkIndex]
  split
  · exact ⟨rfl, hafter⟩
  · exact ⟨rfl, hafter⟩

end Charge

/-! ### A packet that is accepted -/

section Accepted

variable {crypto : SrtpCrypto} {tagLen : ℕ} {stream : SrtpStream} {est : ℕ} {delta : ℤ}
  {encStart : Option ℕ} {msg : RtpMsg} {pktOctetLen : ℕ}

/-- A packet whose index is estimated and new gets as far as its length and its tag let it. -/
theorem srtpUnprotectStream_of_new
    (hest : srtpGetEstPktIndex msg.header stream = (.ok, est, delta))
    (hcheck : srtpRdbxCheck stream.rtpRdbx delta = .ok)
    (hiv : crypto.setIv stream.masterKey msg.header.ssrc est = .ok)
    (hstart : srtpEncStart stream.rtpServices msg (octetsBeforeTag pktOctetLen tagLen) =
      .ok encStart)
    (hauth : stream.rtpServices.hasAuth = true →
      srtpAuthentic crypto tagLen stream est msg pktOctetLen) :
    srtpUnprotectStream crypto tagLen stream msg pktOctetLen =
      srtpAccept crypto tagLen stream .ok est delta encStart msg pktOctetLen := by
  have hreplay : srtpReplayCheck stream .ok delta = .ok := by
    rw [srtpReplayCheck, if_neg (by decide), if_neg (by decide), hcheck]
  have htag : ¬ (stream.rtpServices.hasAuth = true ∧
      ¬ srtpAuthentic crypto tagLen stream est msg pktOctetLen) := fun h => h.2 (hauth h.1)
  simp only [srtpUnprotectStream, hest, hreplay, hiv, hstart, ne_eq, not_true_eq_false, if_false,
    if_neg htag]

/-- The stream a packet is accepted with: the key is charged and the index marked. -/
def SrtpStream.accepted (stream : SrtpStream) (delta : ℤ) : SrtpStream :=
  { stream with
    limit := (srtpKeyLimitUpdate stream.limit).2
    direction := if stream.direction = .unknown then .receiver else stream.direction
    rtpRdbx := srtpRdbxAddIndex stream.rtpRdbx delta }

theorem srtpAccept_of_ok (hleft : 2 ≤ stream.limit.numLeft) {out : List UInt8}
    (hout : srtpCipherPortion crypto stream.masterKey est encStart msg
      (octetsBeforeTag pktOctetLen tagLen) = (.ok, out)) :
    srtpAccept crypto tagLen stream .ok est delta encStart msg pktOctetLen =
      { status := .status .ok
        stream := stream.accepted delta
        msg := { msg with
          body := store msg.body ((encStart.getD octetsInRtpHeader) - octetsInRtpHeader) out }
        pktOctetLen := pktOctetLen - tagLen } := by
  have hevent := (srtpKeyLimitUpdate_of_two_le hleft).1
  simp only [srtpAccept, SrtpStream.accepted, if_neg hevent, hout, ne_eq, not_true_eq_false,
    if_false, srtpMarkIndex, reduceCtorEq]

end Accepted

/-! ### A receiver and an ideal database -/

/-- The stream of a receiver has let through exactly what the ideal database has let through, and its
key has been charged for each of those packets. -/
structure ReceivesFrom (stream : SrtpStream) (d : IdealRdbx) : Prop where
  services : stream.rtpServices = .conf
  pendingRoc : stream.pendingRoc = 0
  remembers : Remembers stream.rtpRdbx d
  numLeft : stream.limit.numLeft + d.got.length = 2 ^ 48 - 1
  nodup : d.got.Nodup
  got_lt : ∀ n ∈ d.got, n < 2 ^ 48 - 2 ^ 16
  highest_lt : d.highest < 2 ^ 48 - 2 ^ 16

section Near

variable {stream : SrtpStream} {d : IdealRdbx} {n : ℕ}

/-- The key of a receiver lasts: a packet is accepted once, and there are not so many numbers. -/
theorem ReceivesFrom.two_le_numLeft (h : ReceivesFrom stream d) : 2 ≤ stream.limit.numLeft := by
  have hsub : d.got ⊆ List.range (2 ^ 48 - 2 ^ 16) := fun n hn =>
    List.mem_range.mpr (h.got_lt n hn)
  have hlen := (List.Nodup.subperm h.nodup hsub).length_le
  have hleft := h.numLeft
  rw [List.length_range] at hlen
  omega

/-- The estimate of a number that is less than half a cycle away from the highest one. -/
theorem ReceivesFrom.estimate (h : ReceivesFrom stream d) (hbelow : d.highest < n + 2 ^ 15)
    (habove : n < d.highest + 2 ^ 15) {hdr : SrtpHdr} (hseq : (ntohs hdr.seq).toNat = n % 2 ^ 16) :
    srtpGetEstPktIndex hdr stream = (.ok, n, (n : ℤ) - stream.rtpRdbx.index) := by
  have hhigh := h.remembers.highest
  have hlt := h.highest_lt
  have hnear := srtpRdbxEstimateIndex_near (r := stream.rtpRdbx) (n := n) (by omega) (by omega)
    (by omega)
  rw [srtpGetEstPktIndex, if_neg (by simp [h.pendingRoc]), hseq, hnear]

theorem ReceivesFrom.accepted (h : ReceivesFrom stream d) (hn : n < 2 ^ 48 - 2 ^ 16)
    (habove : n < d.highest + 2 ^ 15) (hok : d.verdict n = .ok) :
    ReceivesFrom (stream.accepted ((n : ℤ) - stream.rtpRdbx.index)) (d.packet n) := by
  have hhigh := h.remembers.highest
  have hlt := h.highest_lt
  have hleft := h.numLeft
  have htwo := h.two_le_numLeft
  have hsum : (n : ℤ) = stream.rtpRdbx.index + ((n : ℤ) - stream.rtpRdbx.index) := by omega
  have hmem := h.remembers.addIndex hsum (by omega) (by omega) hok
  have hpacket : d.packet n = { d with highest := max d.highest n, got := n :: d.got } := by
    rw [IdealRdbx.packet, if_pos hok]
  refine ⟨h.services, h.pendingRoc, hmem, ?_, ?_, ?_, ?_⟩
  · show (srtpKeyLimitUpdate stream.limit).2.numLeft + (d.packet n).got.length = 2 ^ 48 - 1
    rw [(srtpKeyLimitUpdate_of_two_le htwo).2, hpacket, List.length_cons]
    omega
  · rw [hpacket]
    exact List.nodup_cons.mpr ⟨(IdealRdbx.verdict_eq_ok_iff.mp hok).2, h.nodup⟩
  · rw [hpacket]
    exact List.forall_mem_cons.mpr ⟨hn, h.got_lt⟩
  · rw [hpacket]
    show max d.highest n < 2 ^ 48 - 2 ^ 16
    omega

/-- **One packet at the receiver**: the number is accepted if the ideal database says so and the
packet is not shorter than header and tag; its body up to the tag is then decrypted under the number.
Otherwise nothing has happened. -/
theorem srtpUnprotectStream_near {crypto : SrtpCrypto} (hc : crypto.Succeeds 0xffff) {tagLen : ℕ}
    (htag : tagLen ≤ octetsInRtpHeader) (h : ReceivesFrom stream d) (hbelow : d.highest < n + 2 ^ 15)
    (habove : n < d.highest + 2 ^ 15) {msg : RtpMsg} {pktOctetLen : ℕ}
    (hlen : octetsInRtpHeader ≤ pktOctetLen) (hmax : pktOctetLen ≤ 0xffff)
    (hcc : msg.header.cc = 0) (hx : msg.header.x = 0)
    (hseq : (ntohs msg.header.seq).toNat = n % 2 ^ 16) :
    (d.verdict n = .ok ∧ octetsInRtpHeader + tagLen ≤ pktOctetLen →
      srtpUnprotectStream crypto tagLen stream msg pktOctetLen =
        { status := .status .ok
          stream := stream.accepted ((n : ℤ) - stream.rtpRdbx.index)
          msg := { msg with
            body := store msg.body 0 (crypto.encrypt stream.masterKey msg.header.ssrc n
              (slice msg.body 0 (pktOctetLen - tagLen - octetsInRtpHeader))).2 }
          pktOctetLen := pktOctetLen - tagLen }) ∧
    (¬ (d.verdict n = .ok ∧ octetsInRtpHeader + tagLen ≤ pktOctetLen) →
      (srtpUnprotectStream crypto tagLen stream msg pktOctetLen).status ≠ .status .ok ∧
        (srtpUnprotectStream crypto tagLen stream msg pktOctetLen).stream = stream) := by
  have hest := h.estimate hbelow habove hseq
  have hhigh := h.remembers.highest
  have hcheck : srtpRdbxCheck stream.rtpRdbx ((n : ℤ) - stream.rtpRdbx.index) = d.verdict n :=
    srtpRdbxCheck_spec h.remembers (by omega)
  have hbefore : octetsBeforeTag pktOctetLen tagLen = pktOctetLen - tagLen :=
    octetsBeforeTag_of_le (by omega) (by omega)
  have hstart : srtpEncStart stream.rtpServices msg (octetsBeforeTag pktOctetLen tagLen) =
      if octetsInRtpHeader ≤ pktOctetLen - tagLen then .ok (some octetsInRtpHeader)
      else .error .parseErr := by
    simp [srtpEncStart, h.services, SrtpSecServ.hasConf, hcc, hx, hbefore]
  constructor
  · rintro ⟨hok, hroom⟩
    rw [if_pos (by omega)] at hstart
    have hdec : srtpCipherPortion crypto stream.masterKey n (some octetsInRtpHeader) msg
        (octetsBeforeTag pktOctetLen tagLen) =
          (.ok, (crypto.encrypt stream.masterKey msg.header.ssrc n
            (slice msg.body 0 (pktOctetLen - tagLen - octetsInRtpHeader))).2) := by
      rw [srtpCipherPortion, hbefore]
      exact Prod.ext (hc.encrypt_ok _ _ _ _ (by rw [length_slice]; omega)) rfl
    rw [srtpUnprotectStream_of_new hest (hcheck.trans hok) (hc.setIv_ok _ _ _) hstart
      (by simp [h.services, SrtpSecServ.hasAuth]), srtpAccept_of_ok h.two_le_numLeft hdec]
    rfl
  · intro hnot
    by_cases hok : d.verdict n = .ok
    · -- too short
      rw [if_neg fun hroom => hnot ⟨hok, by omega⟩] at hstart
      have hreplay : srtpReplayCheck stream .ok ((n : ℤ) - stream.rtpRdbx.index) = .ok := by
        rw [srtpReplayCheck, if_neg (by decide), if_neg (by decide), hcheck, hok]
      simp only [srtpUnprotectStream, hest, hreplay, hc.setIv_ok, hstart, ne_eq, not_true_eq_false,
        if_false]
      exact ⟨by simp, trivial⟩
    · have hreplay : srtpReplayCheck stream .ok ((n : ℤ) - stream.rtpRdbx.index) =
          d.verdict n := by
        rw [srtpReplayCheck, if_neg (by decide), if_neg (by decide), hcheck]
      simp only [srtpUnprotectStream, hest, hreplay, ne_eq, hok, not_false_eq_true, if_true]
      exact ⟨by simp [hok], trivial⟩

end Near

end CameraDaemon
