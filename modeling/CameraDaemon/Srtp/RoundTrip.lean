import CameraDaemon.Packets
import CameraDaemon.Srtp.Unprotect

/-!
# Protecting and unprotecting

`srtp_protect` works on a packet in place: the encrypted portion starts behind the contributing
sources and the extension, a tag is written behind the packet, and the length grows by it.
`srtp_unprotect` finds the portion again in what came out, because everything it needs to find it is
left as it was.  So a receiver that has the key, takes the packet for the index it was protected
under and has not let that index through gets the packet back.

The two ends do not agree on the tag.  `srtp_protect` writes one only if the services ask for
authentication, `srtp_unprotect` takes the octets of one off every packet.  Without authentication
the packet therefore comes back without its last octets, or is refused if too few are left, as under
the policy of the daemon, which has confidentiality only and tags of ten octets.

## Main definitions

* `SrtpCrypto.RoundTrips`, `SrtpCrypto.TagsOf` — stream ciphers, and tags of one length.
* `octetsKept` — what the receiver leaves of a packet.
* `SrtpProtectResult.Protected` — what a call of `srtp_protect` that succeeds has done.

## Main results

* `icmCrypto_roundTrips` — AES in counter mode undoes itself.
* `srtpProtectStream_protected` — every call that succeeds has done that.
* `srtpUnprotect_protect` — **what was protected is unprotected, up to a tag.**
-/

namespace CameraDaemon

open ByteOrder Memory

/-! ### What was protected is unprotected -/

/-- The ciphers are stream ciphers on up to `n` octets: they work in place, and what they have made of
a text they undo on every front part of it. -/
structure SrtpCrypto.RoundTrips (crypto : SrtpCrypto) (n : ℕ) : Prop where
  inPlace : crypto.InPlace n
  undo : ∀ key ssrc est bytes m, bytes.length ≤ n →
    crypto.encrypt key ssrc est ((crypto.encrypt key ssrc est bytes).2.take m) =
      (.ok, bytes.take m)

theorem icmCrypto_roundTrips
    (auth : List UInt8 → SrtpHdr → List UInt8 → ℕ → SrtpErrStatus × List UInt8) :
    (icmCrypto auth).RoundTrips 0xffff := by
  refine ⟨icmCrypto_inPlace auth, fun key ssrc est bytes m hlen => ?_⟩
  rw [icmCrypto_encrypt auth key ssrc est hlen, icmCrypto_encrypt auth key ssrc est (by
    rw [List.length_take, length_icmMix]
    omega), icmMix_take_icmMix]

/-- The authenticator makes tags of `tagLen` octets. -/
def SrtpCrypto.TagsOf (crypto : SrtpCrypto) (tagLen : ℕ) : Prop :=
  ∀ key hdr bytes est, (crypto.auth key hdr bytes est).2.length = tagLen

/-- What the receiver leaves of a packet of `len` octets: it takes a tag off whatever was sent. -/
def octetsKept (services : SrtpSecServ) (tagLen len : ℕ) : ℕ :=
  if services.hasAuth then len else len - tagLen

theorem octetsKept_le (services : SrtpSecServ) (tagLen len : ℕ) :
    octetsKept services tagLen len ≤ len := by
  rw [octetsKept]
  split
  · exact le_rfl
  · exact Nat.sub_le _ _

/-- Where the payload starts, in octets from the start of the packet. -/
def payloadStart (msg : RtpMsg) : ℕ :=
  octetsInRtpHeader + 4 * msg.header.cc.toNat
    + (if msg.header.x = 1 then 4 * (msg.xtnLength + 1) else 0)

theorem srtpEncStart_eq (services : SrtpSecServ) (msg : RtpMsg) (len : ℕ) :
    srtpEncStart services msg len =
      if services.hasConf then
        if payloadStart msg ≤ len then .ok (some (payloadStart msg)) else .error .parseErr
      else .ok none := rfl

theorem srtpReserveIndex_masterKey (hdr : SrtpHdr) (stream : SrtpStream) :
    (srtpReserveIndex hdr stream).2.1.masterKey = stream.masterKey := by
  rw [srtpReserveIndex]
  split
  · dsimp only
    split
    · rfl
    · rfl
  · rfl
  · rfl

/-- The tag of a packet with the given body, if the services ask for one. -/
def srtpTag (crypto : SrtpCrypto) (services : SrtpSecServ) (masterKey : List UInt8) (est : ℕ)
    (hdr : SrtpHdr) (body : ℕ → UInt8) (pktOctetLen : ℕ) : SrtpErrStatus × List UInt8 :=
  if services.hasAuth then
    crypto.auth masterKey hdr (slice body 0 (pktOctetLen - octetsInRtpHeader)) est
  else (.ok, [])

/-- Where the encrypted portion starts in the body, or the start of the body if there is none. -/
def bodyStart (start : Option ℕ) : ℕ := (start.getD octetsInRtpHeader) - octetsInRtpHeader

/-- What a call of `srtp_protect` that succeeds has done: the encrypted portion starts at `start` and
becomes `out`, and `tag` stands behind it. -/
structure SrtpProtectResult.Protected (r : SrtpProtectResult) (crypto : SrtpCrypto)
    (stream : SrtpStream) (msg : RtpMsg) (pktOctetLen est : ℕ) (start : Option ℕ)
    (out tag : List UInt8) : Prop where
  encStart : srtpEncStart stream.rtpServices msg pktOctetLen = .ok start
  setIv : crypto.setIv stream.masterKey msg.header.ssrc est = .ok
  encrypt : srtpCipherPortion crypto stream.masterKey est start msg pktOctetLen = (.ok, out)
  auth : srtpTag crypto stream.rtpServices stream.masterKey est msg.header
    (store msg.body (bodyStart start) out) pktOctetLen = (.ok, tag)
  msg : r.msg = { msg with
    body := store (store msg.body (bodyStart start) out) (pktOctetLen - octetsInRtpHeader) tag }
  pktOctetLen : r.pktOctetLen = pktOctetLen + tag.length
  index : r.index = some est

section Protected

variable {crypto : SrtpCrypto} {stream : SrtpStream} {msg : RtpMsg} {pktOctetLen : ℕ}

/-- The end of `srtp_protect`, once the cipher has succeeded: the tag, if one is asked for. -/
theorem srtpRunCiphers_of_encrypt {est : ℕ} {start : Option ℕ} {out : List UInt8}
    {body : ℕ → UInt8} {tag : SrtpErrStatus × List UInt8}
    (hiv : crypto.setIv stream.masterKey msg.header.ssrc est = .ok)
    (hout : srtpCipherPortion crypto stream.masterKey est start msg pktOctetLen = (.ok, out))
    (hbody : store msg.body (bodyStart start) out = body)
    (htag : srtpTag crypto stream.rtpServices stream.masterKey est msg.header body pktOctetLen =
      tag) :
    srtpRunCiphers crypto stream est start msg pktOctetLen =
      if tag.1 = .ok then
        { status := .ok, stream := stream, index := some est
          msg := { msg with body := store body (pktOctetLen - octetsInRtpHeader) tag.2 }
          pktOctetLen := pktOctetLen + tag.2.length }
      else
        { status := tag.1, stream := stream, index := some est, msg := { msg with body := body }
          pktOctetLen := pktOctetLen } := by
  subst hbody htag
  cases start with
  | none =>
    cases hout
    cases hauth : stream.rtpServices.hasAuth <;> simp [srtpRunCiphers, srtpTag, hiv, hauth]
  | some start =>
    rw [srtpCipherPortion] at hout
    cases hauth : stream.rtpServices.hasAuth <;>
      simp [srtpRunCiphers, srtpTag, bodyStart, hiv, hauth, hout]

theorem srtpRunCiphers_encrypt {est : ℕ} {start : Option ℕ}
    (h : (srtpRunCiphers crypto stream est start msg pktOctetLen).status = .ok) :
    crypto.setIv stream.masterKey msg.header.ssrc est = .ok ∧
      (srtpCipherPortion crypto stream.masterKey est start msg pktOctetLen).1 = .ok := by
  have hiv : crypto.setIv stream.masterKey msg.header.ssrc est = .ok := by
    by_contra hne
    simp [srtpRunCiphers, hne] at h
  refine ⟨hiv, ?_⟩
  cases start with
  | none => rfl
  | some start =>
    by_contra hne
    rw [srtpCipherPortion] at hne
    simp [srtpRunCiphers, hiv, hne] at h

theorem srtpRunCiphers_protected {est : ℕ} {start : Option ℕ}
    (hstart : srtpEncStart stream.rtpServices msg pktOctetLen = .ok start)
    (h : (srtpRunCiphers crypto stream est start msg pktOctetLen).status = .ok) :
    ∃ out tag, (srtpRunCiphers crypto stream est start msg pktOctetLen).Protected crypto stream msg
      pktOctetLen est start out tag := by
  obtain ⟨hiv, hok⟩ := srtpRunCiphers_encrypt h
  rcases hout : srtpCipherPortion crypto stream.masterKey est start msg pktOctetLen with
    ⟨status, out⟩
  obtain rfl : status = .ok := by rwa [hout] at hok
  rcases htag : srtpTag crypto stream.rtpServices stream.masterKey est msg.header
    (store msg.body (bodyStart start) out) pktOctetLen with
    ⟨status, tag⟩
  rw [srtpRunCiphers_of_encrypt hiv hout rfl htag] at h ⊢
  split at h
  · next hstatus =>
    obtain rfl : status = .ok := hstatus
    exact ⟨_, _, hstart, hiv, hout, htag, rfl, rfl, rfl⟩
  · next hstatus => exact absurd h hstatus

/-- A length that is refused is refused with an error. -/
theorem srtpEncStart_ne_error_ok (services : SrtpSecServ) (msg : RtpMsg) (pktOctetLen : ℕ) :
    srtpEncStart services msg pktOctetLen ≠ .error .ok := by
  intro h
  simp only [srtpEncStart] at h
  split_ifs at h <;> cases h

theorem srtpProtectStream_protected
    (h : (srtpProtectStream crypto stream msg pktOctetLen).status = .ok) :
    ∃ est start out tag, (srtpProtectStream crypto stream msg pktOctetLen).Protected crypto stream msg
      pktOctetLen est start out tag := by
  generalize hr : srtpProtectStream crypto stream msg pktOctetLen = r at h ⊢
  simp only [srtpProtectStream] at hr
  split at hr
  · subst hr
    cases h
  split at hr
  · next status herr =>
    subst hr
    obtain rfl : status = .ok := h
    exact absurd herr (srtpEncStart_ne_error_ok _ _ _)
  · next start hstart =>
    split at hr
    · next reserved est hres =>
      have hkey := srtpReserveIndex_masterKey msg.header (srtpCharge stream)
      have hserv := srtpReserveIndex_services msg.header (srtpCharge stream)
      rw [hres, srtpCharge_services] at hserv
      rw [hres, srtpCharge_masterKey] at hkey
      subst hr
      rw [srtpCharge_services, ← hserv] at hstart
      obtain ⟨out, tag, h₁, h₂, h₃, h₄, h₅, h₆, h₇⟩ := srtpRunCiphers_protected hstart h
      rw [hserv] at h₁ h₄
      rw [hkey] at h₂ h₃ h₄
      exact ⟨est, start, out, tag, h₁, h₂, h₃, h₄, h₅, h₆, h₇⟩
    · next hne hres =>
      subst hr
      exact absurd h hne

end Protected

/-- A header is valid only on a packet that is long enough for it. -/
theorem octetsInRtpHeader_le_of_valid {msg : RtpMsg} {pktOctetLen : ℕ}
    (h : srtpValidateRtpHeader msg pktOctetLen = .ok) : octetsInRtpHeader ≤ pktOctetLen := by
  by_contra hshort
  rw [srtpValidateRtpHeader, if_pos (by omega)] at h
  cases h

section RoundTrip

variable {crypto : SrtpCrypto} {sender receiver : SrtpStream} {msg : RtpMsg}
  {pktOctetLen est : ℕ} {start : Option ℕ} {out tag : List UInt8} {r : SrtpProtectResult}

/-- The encrypted portion is in the packet. -/
theorem SrtpProtectResult.Protected.bounds
    (h : r.Protected crypto sender msg pktOctetLen est start out tag) {s : ℕ} (hs : start = some s) :
    octetsInRtpHeader ≤ s ∧ s ≤ pktOctetLen := by
  subst hs
  exact srtpEncStart_bounds h.encStart

/-- The cipher has written as much as it has read. -/
theorem SrtpProtectResult.Protected.length_out {n : ℕ} (hc : crypto.RoundTrips n)
    (hmax : pktOctetLen ≤ n) (h : r.Protected crypto sender msg pktOctetLen est start out tag) {s : ℕ}
    (hs : start = some s) : out.length = pktOctetLen - s := by
  have henc := h.encrypt
  subst hs
  rw [srtpCipherPortion] at henc
  have hlen := hc.inPlace sender.masterKey msg.header.ssrc est
    (slice msg.body (s - octetsInRtpHeader) (pktOctetLen - s)) (by rw [length_slice]; omega)
  rwa [henc, length_slice] at hlen

/-- What stands before the encrypted portion is left alone. -/
theorem SrtpProtectResult.Protected.body_of_lt
    (h : r.Protected crypto sender msg pktOctetLen est start out tag) {i : ℕ}
    (hi : ∀ s, start = some s → i < s - octetsInRtpHeader)
    (hin : i < pktOctetLen - octetsInRtpHeader) : r.msg.body i = msg.body i := by
  rw [h.msg]
  show store (store msg.body _ out) _ tag i = msg.body i
  rw [store, if_pos hin]
  cases start with
  | none =>
    obtain rfl : [] = out := congrArg Prod.snd h.encrypt
    rw [store_nil]
  | some s => exact if_pos (hi s rfl)

/-- The length of the extension stands before the encrypted portion. -/
theorem SrtpProtectResult.Protected.xtnLength
    (h : r.Protected crypto sender msg pktOctetLen est start out tag)
    (hvalid : srtpValidateRtpHeader msg pktOctetLen = .ok) (hx : msg.header.x = 1) :
    r.msg.xtnLength = msg.xtnLength := by
  have hheader : octetsInRtpHeader = 12 := rfl
  have hextn : octetsInRtpExtnHdr = 4 := rfl
  have hhdr : r.msg.header = msg.header := by rw [h.msg]
  have hroom : octetsInRtpHeader + 4 * msg.header.cc.toNat + 4 ≤ pktOctetLen := by
    by_contra hshort
    have hbad : srtpValidateRtpHeader msg pktOctetLen = .badParam := by
      simp only [srtpValidateRtpHeader, hx, if_true]
      split
      · rfl
      · rw [if_pos (by omega)]
    rw [hbad] at hvalid
    cases hvalid
  have hbehind : ∀ s, start = some s →
      4 * msg.header.cc.toNat + 4 ≤ s - octetsInRtpHeader := by
    rintro s rfl
    have hstart := h.encStart
    simp only [srtpEncStart, hx, if_true] at hstart
    split at hstart
    · split at hstart
      · cases hstart
        omega
      · cases hstart
    · cases hstart
  have hbody : ∀ i, i < 4 * msg.header.cc.toNat + 4 → r.msg.body i = msg.body i := fun i hi =>
    h.body_of_lt (fun s hs => Nat.lt_of_lt_of_le hi (hbehind s hs)) (by omega)
  rw [RtpMsg.xtnLength, hhdr, hbody _ (by omega), hbody _ (by omega), RtpMsg.xtnLength]

/-- The encrypted portion starts in what was sent where it started in the packet. -/
theorem SrtpProtectResult.Protected.encStart_sent
    (h : r.Protected crypto sender msg pktOctetLen est start out tag)
    (hvalid : srtpValidateRtpHeader msg pktOctetLen = .ok) (len : ℕ) :
    srtpEncStart sender.rtpServices r.msg len = srtpEncStart sender.rtpServices msg len := by
  have hhdr : r.msg.header = msg.header := by rw [h.msg]
  rw [srtpEncStart, srtpEncStart, hhdr]
  by_cases hx : msg.header.x = 1
  · rw [h.xtnLength hvalid hx]
  · rw [if_neg hx, if_neg hx]

/-- A front part of the packet that the payload starts in has the start of its portion. -/
theorem SrtpProtectResult.Protected.encStart_of_le
    (h : r.Protected crypto sender msg pktOctetLen est start out tag) {len : ℕ}
    (hlen : sender.rtpServices.hasConf = true → payloadStart msg ≤ len) :
    srtpEncStart sender.rtpServices msg len = .ok start := by
  have hstart := h.encStart
  rw [srtpEncStart_eq] at hstart ⊢
  cases hconf : sender.rtpServices.hasConf with
  | false => simpa [hconf] using hstart
  | true =>
    rw [hconf, if_pos rfl] at hstart
    rw [if_pos rfl, if_pos (hlen hconf)]
    split at hstart
    · exact hstart
    · cases hstart

/-- The tag that was sent, if one was. -/
theorem SrtpProtectResult.Protected.length_tag {tagLen : ℕ} (htags : crypto.TagsOf tagLen)
    (h : r.Protected crypto sender msg pktOctetLen est start out tag) :
    tag.length = if sender.rtpServices.hasAuth then tagLen else 0 := by
  have htag := h.auth
  rw [srtpTag] at htag
  split at htag
  · next hauth =>
    have hlen := htags sender.masterKey msg.header (slice (store msg.body (bodyStart start) out) 0
      (pktOctetLen - octetsInRtpHeader)) est
    rw [htag] at hlen
    rw [if_pos hauth, hlen]
  · next hauth =>
    rw [if_neg hauth, ← (Prod.mk.inj htag).2, List.length_nil]

/-- What is left of what was sent, once the receiver has taken a tag off it. -/
theorem SrtpProtectResult.Protected.octetsKept_eq {tagLen : ℕ} (htags : crypto.TagsOf tagLen)
    (h : r.Protected crypto sender msg pktOctetLen est start out tag) :
    r.pktOctetLen - tagLen = octetsKept sender.rtpServices tagLen pktOctetLen := by
  have hlen := h.pktOctetLen
  have htag := h.length_tag htags
  rw [octetsKept]
  split at htag
  · next hauth =>
    rw [if_pos hauth]
    omega
  · next hauth =>
    rw [if_neg hauth]
    omega

/-- What was sent has a valid header. -/
theorem SrtpProtectResult.Protected.valid_sent
    (h : r.Protected crypto sender msg pktOctetLen est start out tag)
    (hvalid : srtpValidateRtpHeader msg pktOctetLen = .ok) :
    srtpValidateRtpHeader r.msg r.pktOctetLen = .ok := by
  have hhdr : r.msg.header = msg.header := by rw [h.msg]
  have hlen := h.pktOctetLen
  have hxtn := h.xtnLength hvalid
  simp only [srtpValidateRtpHeader] at hvalid
  simp only [srtpValidateRtpHeader, hhdr]
  split at hvalid
  · cases hvalid
  rw [if_neg (by omega)]
  split at hvalid
  · next hx =>
    split at hvalid
    · cases hvalid
    split at hvalid
    · cases hvalid
    rw [if_pos hx, if_neg (by omega), if_neg (by rw [hxtn hx]; omega)]
  · next hx =>
    split at hvalid
    · cases hvalid
    rw [if_neg hx, if_neg (by omega)]

/-- The tag that was sent is the tag of what was sent before it. -/
theorem SrtpProtectResult.Protected.authentic {tagLen : ℕ} (htags : crypto.TagsOf tagLen)
    (h : r.Protected crypto sender msg pktOctetLen est start out tag)
    (hlen : octetsInRtpHeader ≤ pktOctetLen) (hmax : r.pktOctetLen < 2 ^ 32)
    (hauth : sender.rtpServices.hasAuth = true) :
    srtpAuthentic crypto tagLen sender est r.msg r.pktOctetLen := by
  have htag := h.auth
  have htaglen := h.length_tag htags
  rw [if_pos hauth] at htaglen
  subst htaglen
  rw [srtpTag, if_pos hauth] at htag
  rw [h.pktOctetLen] at hmax
  rw [srtpAuthentic, h.pktOctetLen, octetsBeforeTag_of_le (by omega) hmax, Nat.add_sub_cancel, h.msg]
  rw [slice_store_of_le _ (by omega), htag, List.take_length, slice_store]
  exact ⟨rfl, rfl⟩

/-- The cipher undoes what it did to the encrypted portion, on a front part of the packet. -/
theorem SrtpProtectResult.Protected.decrypt {n : ℕ} (hc : crypto.RoundTrips n)
    (hmax : pktOctetLen ≤ n) (h : r.Protected crypto sender msg pktOctetLen est start out tag)
    {len : ℕ} (hlen : len ≤ pktOctetLen) :
    srtpCipherPortion crypto sender.masterKey est start r.msg len =
      (.ok, start.elim [] fun s => slice msg.body (s - octetsInRtpHeader) (len - s)) := by
  cases start with
  | none => rfl
  | some s =>
    obtain ⟨hheader, hpkt⟩ := h.bounds rfl
    have hout := h.length_out hc hmax rfl
    have henc := h.encrypt
    have hread : slice r.msg.body (s - octetsInRtpHeader) (len - s) = out.take (len - s) := by
      rw [h.msg, slice_store_of_le _ (by omega)]
      exact slice_store_take _ _ (by omega)
    have hundo := hc.undo sender.masterKey msg.header.ssrc est
      (slice msg.body (s - octetsInRtpHeader) (pktOctetLen - s)) (len - s)
      (by rw [length_slice]; omega)
    rw [srtpCipherPortion] at henc
    rw [henc, take_slice _ _ (by omega)] at hundo
    rw [srtpCipherPortion, hread, h.msg]
    exact hundo

/-- The packet with the decrypted portion in its place is the front part of the packet that was
protected. -/
theorem SrtpProtectResult.Protected.body_decrypted
    (h : r.Protected crypto sender msg pktOctetLen est start out tag) {len : ℕ}
    (hlen : len ≤ pktOctetLen) (hstart : ∀ s, start = some s → s ≤ len) :
    slice (store r.msg.body (bodyStart start)
      (start.elim [] fun s => slice msg.body (s - octetsInRtpHeader) (len - s))) 0
        (len - octetsInRtpHeader) =
      slice msg.body 0 (len - octetsInRtpHeader) := by
  cases start with
  | none =>
    obtain rfl : [] = out := congrArg Prod.snd h.encrypt
    rw [Option.elim_none, store_nil, h.msg, slice_store_of_le _ (by omega), store_nil]
  | some s =>
    obtain ⟨hheader, hpkt⟩ := h.bounds rfl
    have hfits := hstart s rfl
    have hsplit : len - octetsInRtpHeader = (s - octetsInRtpHeader) + (len - s) := by omega
    have hwrite := slice_zero_store r.msg.body (s - octetsInRtpHeader)
      (slice msg.body (s - octetsInRtpHeader) (len - s))
    rw [length_slice] at hwrite
    rw [hsplit]
    refine hwrite.trans ?_
    rw [slice_add msg.body, Nat.zero_add, h.msg, slice_store_of_le _ (by omega)]
    congr 1
    exact slice_store_of_le _ (by show 0 + (s - octetsInRtpHeader) ≤ s - octetsInRtpHeader; omega) _

section Receiver

variable {tagLen : ℕ} (htags : crypto.TagsOf tagLen)
  (h : r.Protected crypto sender msg pktOctetLen est start out tag)
  (htag : tagLen ≤ r.pktOctetLen) (hmax' : r.pktOctetLen < 2 ^ 32)
  (hvalid : srtpValidateRtpHeader msg pktOctetLen = .ok)
  (hkey : receiver.masterKey = sender.masterKey)
  (hserv : receiver.rtpServices = sender.rtpServices) {delta : ℤ}
  (hest : srtpGetEstPktIndex msg.header receiver = (.ok, est, delta))
  (hnew : srtpRdbxCheck receiver.rtpRdbx delta = .ok)
include htags h htag hmax' hvalid hkey hserv hest hnew

/-- The receiver's call on what was sent, if enough of it is left. -/
theorem SrtpProtectResult.Protected.unprotect {n : ℕ} (hc : crypto.RoundTrips n)
    (hmax : pktOctetLen ≤ n)
    (hroom : sender.rtpServices.hasConf = true →
      payloadStart msg ≤ octetsKept sender.rtpServices tagLen pktOctetLen)
    (hleft : 2 ≤ receiver.limit.numLeft) :
    srtpUnprotectStream crypto tagLen receiver r.msg r.pktOctetLen =
      { status := .status .ok
        stream := receiver.accepted delta
        msg :=
          { header := msg.header
            body := store r.msg.body (bodyStart start)
              (start.elim [] fun s => slice msg.body (s - octetsInRtpHeader)
                (octetsKept sender.rtpServices tagLen pktOctetLen - s)) }
        pktOctetLen := octetsKept sender.rtpServices tagLen pktOctetLen } := by
  have hhdr : r.msg.header = msg.header := by rw [h.msg]
  have hkept := h.octetsKept_eq htags
  have hle := octetsKept_le sender.rtpServices tagLen pktOctetLen
  have hbefore : octetsBeforeTag r.pktOctetLen tagLen =
      octetsKept sender.rtpServices tagLen pktOctetLen := by
    rw [octetsBeforeTag_of_le htag hmax', hkept]
  have hauth : receiver.rtpServices.hasAuth = true →
      srtpAuthentic crypto tagLen receiver est r.msg r.pktOctetLen := by
    intro hyes
    have htag := h.authentic htags (octetsInRtpHeader_le_of_valid hvalid) hmax' (hserv ▸ hyes)
    rwa [srtpAuthentic, ← hkey] at htag
  rw [srtpUnprotectStream_of_new (hhdr ▸ hest) hnew (by rw [hkey, hhdr, h.setIv])
    (by rw [hserv, hbefore, h.encStart_sent hvalid, h.encStart_of_le hroom]) hauth,
    srtpAccept_of_ok hleft (by rw [hkey, hbefore, h.decrypt hc hmax hle]), hhdr, hkept]
  rfl

/-- The receiver's call on what was sent, if too little of it is left. -/
theorem SrtpProtectResult.Protected.unprotect_short
    (hconf : sender.rtpServices.hasConf = true)
    (hshort : octetsKept sender.rtpServices tagLen pktOctetLen < payloadStart msg) :
    (srtpUnprotectStream crypto tagLen receiver r.msg r.pktOctetLen).status =
      .status .parseErr := by
  have hhdr : r.msg.header = msg.header := by rw [h.msg]
  have hreplay : srtpReplayCheck receiver .ok delta = .ok := by
    rw [srtpReplayCheck, if_neg (by decide), if_neg (by decide), hnew]
  have hbefore : octetsBeforeTag r.pktOctetLen tagLen =
      octetsKept sender.rtpServices tagLen pktOctetLen := by
    rw [octetsBeforeTag_of_le htag hmax', h.octetsKept_eq htags]
  have hstart : srtpEncStart receiver.rtpServices r.msg (octetsBeforeTag r.pktOctetLen tagLen) =
      .error .parseErr := by
    rw [hserv, hbefore, h.encStart_sent hvalid, srtpEncStart_eq, if_pos hconf,
      if_neg (Nat.not_le.mpr hshort)]
  simp only [srtpUnprotectStream, hhdr, hest, hreplay, hkey, h.setIv, hstart, ne_eq,
    not_true_eq_false, if_false]

end Receiver

end RoundTrip

/-- **What was protected is unprotected, up to a tag**: whatever contributing sources, extension and
services a packet has, a receiver with the key and the tag length of the policy that takes what was
sent for the index it was protected under, and has not let that index through, gets back the packet:
whole with authentication, and without its last `tagLen` octets otherwise.  If the payload would start
behind what is left, the packet is refused. -/
theorem srtpUnprotect_protect {crypto : SrtpCrypto} {n tagLen : ℕ} (hc : crypto.RoundTrips n)
    (htags : crypto.TagsOf tagLen) {ctx ctx' rctx : SrtpCtx} {msg msg' : RtpMsg} {len len' est : ℕ}
    {sender receiver : SrtpStream} {delta : ℤ}
    (hsender : srtpGetStream ctx msg.header.ssrc = some sender)
    (hreceiver : srtpGetStream rctx msg.header.ssrc = some receiver)
    (hsent : srtpProtect crypto ctx msg len = (.ok, ctx', msg', len', some est))
    (hmax : len ≤ n) (htag : tagLen ≤ len') (hmax' : len' < 2 ^ 32)
    (hkey : receiver.masterKey = sender.masterKey)
    (hserv : receiver.rtpServices = sender.rtpServices)
    (hest : srtpGetEstPktIndex msg.header receiver = (.ok, est, delta))
    (hnew : srtpRdbxCheck receiver.rtpRdbx delta = .ok) (hleft : 2 ≤ receiver.limit.numLeft) :
    if sender.rtpServices.hasConf = true ∧
        octetsKept sender.rtpServices tagLen len < payloadStart msg then
      (srtpUnprotect crypto tagLen rctx msg' len').1 = .status .parseErr
    else
      ∃ msg'' : RtpMsg,
        srtpUnprotect crypto tagLen rctx msg' len' =
          (.status .ok, rctx.putStream (receiver.accepted delta), msg'',
            octetsKept sender.rtpServices tagLen len) ∧
        msg''.header = msg.header ∧
        slice msg''.body 0 (octetsKept sender.rtpServices tagLen len - octetsInRtpHeader) =
          slice msg.body 0 (octetsKept sender.rtpServices tagLen len - octetsInRtpHeader) := by
  have hvalid : srtpValidateRtpHeader msg len = .ok := by
    by_contra hbad
    rw [srtpProtect, if_pos hbad] at hsent
    exact hbad (congrArg Prod.fst hsent)
  simp only [srtpProtect, hvalid, hsender, ne_eq, not_true_eq_false, if_false, Prod.mk.injEq] at hsent
  obtain ⟨hstatus, -, rfl, rfl, hindex⟩ := hsent
  obtain ⟨est', start, out, tag, h⟩ := srtpProtectStream_protected hstatus
  obtain rfl : est' = est := by
    rw [h.index] at hindex
    exact Option.some.inj hindex
  have hhdr : (srtpProtectStream crypto sender msg len).msg.header = msg.header := by rw [h.msg]
  split
  · next hshort =>
    have hrun := h.unprotect_short htags htag hmax' hvalid hkey hserv hest hnew hshort.1 hshort.2
    simp only [srtpUnprotect, h.valid_sent hvalid, hhdr, hreceiver, ne_eq, not_true_eq_false,
      if_false, hrun]
  · next hroom =>
    have hroom' : sender.rtpServices.hasConf = true →
        payloadStart msg ≤ octetsKept sender.rtpServices tagLen len :=
      fun hconf => Nat.not_lt.mp fun hlt => hroom ⟨hconf, hlt⟩
    have hrun := h.unprotect htags htag hmax' hvalid hkey hserv hest hnew hc hmax hroom' hleft
    refine ⟨(srtpUnprotectStream crypto tagLen receiver _ _).msg, ?_, by rw [hrun], ?_⟩
    · simp only [srtpUnprotect, h.valid_sent hvalid, hhdr, hreceiver, ne_eq, not_true_eq_false,
        if_false, hrun]
    · rw [hrun]
      refine h.body_decrypted (octetsKept_le _ _ _) fun s hs => ?_
      have hstart := h.encStart_of_le hroom'
      rw [hs] at hstart
      exact (srtpEncStart_bounds hstart).2

/-- The cipher that inverts every bit, with the first ten octets of the body as a tag. -/
def taggingCrypto : SrtpCrypto :=
  { invertingCrypto with auth := fun _ _ bytes _ => (.ok, (List.range 10).map (bytes.getD · 0)) }

theorem taggingCrypto_roundTrips (n : ℕ) : taggingCrypto.RoundTrips n where
  inPlace := fun _ _ _ _ _ => List.length_map _
  undo := by
    intro key ssrc est bytes m _
    have hflip : (fun b : UInt8 => b ^^^ 0xff) ∘ (fun b => b ^^^ 0xff) = id := by
      funext b
      show b ^^^ 0xff ^^^ 0xff = b
      rw [UInt8.xor_assoc, UInt8.xor_self, UInt8.xor_zero]
    show (SrtpErrStatus.ok, ((bytes.map fun b => b ^^^ 0xff).take m).map fun b => b ^^^ 0xff) = _
    rw [← List.map_take, List.map_map, hflip, List.map_id]

theorem taggingCrypto_tagsOf : taggingCrypto.TagsOf 10 := by
  intro key hdr bytes est
  simp [taggingCrypto]

/-- A stream with the given services. -/
def servedStream (services : SrtpSecServ) : SrtpStream :=
  { (castTo 5004 1).stream with rtpServices := services }

/-- Packet `1` of the stream, with one contributing source and an extension of one word. -/
def extendedMsg : RtpMsg :=
  { header := { (castTo 5004 1).header with cc := 1, x := 1, seq := htons 1 }
    body := fun i => if i = 6 then 0 else UInt8.ofNat i % 8 - 6 }

/-- What `srtp_protect` makes of 40 octets of the packet. -/
def extendedSent (services : SrtpSecServ) :
    SrtpErrStatus × SrtpCtx × RtpMsg × ℕ × Option ℕ :=
  srtpProtect taggingCrypto { streamList := [servedStream services] } extendedMsg 40

theorem srtpUnprotect_protect_extended :
    ((extendedSent .conf).2.2.2.1 = 40 ∧
      ∃ msg'' : RtpMsg,
        srtpUnprotect taggingCrypto 10 { streamList := [servedStream .conf] }
            (extendedSent .conf).2.2.1 40 =
          (.status .ok, ({ streamList := [servedStream .conf] } : SrtpCtx).putStream
            ((servedStream .conf).accepted 1), msg'', 30) ∧
        msg''.header = extendedMsg.header ∧ slice msg''.body 0 18 = slice extendedMsg.body 0 18) ∧
    (extendedSent .confAndAuth).2.2.2.1 = 50 ∧
      ∃ msg'' : RtpMsg,
        srtpUnprotect taggingCrypto 10 { streamList := [servedStream .confAndAuth] }
            (extendedSent .confAndAuth).2.2.1 50 =
          (.status .ok, ({ streamList := [servedStream .confAndAuth] } : SrtpCtx).putStream
            ((servedStream .confAndAuth).accepted 1), msg'', 40) ∧
        msg''.header = extendedMsg.header ∧
        slice msg''.body 0 28 = slice extendedMsg.body 0 28 := by
  have hconf : (extendedSent .conf).1 = .ok ∧ (extendedSent .conf).2.2.2 = (40, some 1) := by
    decide
  have hboth : (extendedSent .confAndAuth).1 = .ok ∧
      (extendedSent .confAndAuth).2.2.2 = (50, some 1) := by
    decide
  refine ⟨⟨congrArg Prod.fst hconf.2, ?_⟩, congrArg Prod.fst hboth.2, ?_⟩
  · have hrun := @srtpUnprotect_protect _ 40 10 (taggingCrypto_roundTrips 40) taggingCrypto_tagsOf
      { streamList := [servedStream .conf] } _ { streamList := [servedStream .conf] } extendedMsg _ 40
      40 1 (servedStream .conf) (servedStream .conf) 1 rfl rfl
      (Prod.ext hconf.1 (Prod.ext rfl (Prod.ext rfl hconf.2))) le_rfl (by decide) (by decide) rfl rfl
      (by decide +kernel) (by decide +kernel) (by decide +kernel)
    rw [if_neg (by decide)] at hrun
    exact hrun
  · have hrun := @srtpUnprotect_protect _ 40 10 (taggingCrypto_roundTrips 40) taggingCrypto_tagsOf
      { streamList := [servedStream .confAndAuth] } _ { streamList := [servedStream .confAndAuth] }
      extendedMsg _ 40 50 1 (servedStream .confAndAuth) (servedStream .confAndAuth) 1 rfl rfl
      (Prod.ext hboth.1 (Prod.ext rfl (Prod.ext rfl hboth.2))) le_rfl (by decide) (by decide) rfl rfl
      (by decide +kernel) (by decide +kernel) (by decide +kernel)
    rw [if_neg (by decide)] at hrun
    exact hrun

end CameraDaemon
