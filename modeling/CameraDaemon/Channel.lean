import CameraDaemon.SessionCipher
import CameraDaemon.Srtp.Unprotect
import Mathlib.Data.List.ReduceOption

/-!
# A session and its receiver

Datagrams get lost, come twice and come in another order.  A receiver that has created its context
with the policy of the session and calls `srtp_unprotect` on what arrives is compared here with an
ideal one, which knows the number of each packet and everything it has accepted before: as long as no
packet is half a cycle of sequence numbers away from the highest one accepted, the two accept the same
packets.  So each packet is accepted at most once and with the body that was sent, except that the
receiver takes the octets of a tag off every packet, also under the policy of the daemon, which sends
none.  A datagram that is refused, whatever is in it, is charged to the key and changes nothing else.

## Main definitions

* `receive` — a receiver, datagram after datagram.
* `SrtpCtx.Lasts` — the keys of a context last for so many more packets.
* `idealAccepts` — the ideal receiver.
* `InReach` — no packet is too far away from the highest one accepted.
* `wire` — the datagram of a packet by number.

## Main results

* `receive_eraseIdx` — **a datagram that is refused might as well not have been sent.**
* `session_received` — **the receiver accepts what the ideal one accepts, with the bodies that were
  sent, and no packet twice.**
* `session_received_in_order` — **without losses everything arrives.**
-/

namespace CameraDaemon

open ByteOrder Memory

/-! ### The receiver -/

/-- A datagram arrives in a buffer and is unprotected; the body up to the length that comes back is
what was received. -/
def receivePacket (crypto : SrtpCrypto) (tagLen : ℕ) (stale : ℕ → UInt8) (ctx : SrtpCtx)
    (d : RtpDatagram) : Option (List UInt8) × SrtpCtx :=
  let (status, ctx, msg, len) :=
    srtpUnprotect crypto tagLen ctx { header := d.header, body := store stale 0 d.body } d.size
  (if status = .status .ok then some (slice msg.body 0 (len - octetsInRtpHeader)) else none, ctx)

/-- A receiver, datagram after datagram: the body of each, or `none` if it was refused. -/
def receive (crypto : SrtpCrypto) (tagLen : ℕ) (stale : ℕ → UInt8) :
    SrtpCtx → List RtpDatagram → List (Option (List UInt8))
  | _, [] => []
  | ctx, d :: ds =>
    let (body, ctx) := receivePacket crypto tagLen stale ctx d
    body :: receive crypto tagLen stale ctx ds

@[simp] theorem receive_cons (crypto : SrtpCrypto) (tagLen : ℕ) (stale : ℕ → UInt8) (ctx : SrtpCtx)
    (d : RtpDatagram) (ds : List RtpDatagram) :
    receive crypto tagLen stale ctx (d :: ds) =
      (receivePacket crypto tagLen stale ctx d).1 ::
        receive crypto tagLen stale (receivePacket crypto tagLen stale ctx d).2 ds := rfl

/-! ### Datagrams that are refused -/

/-- The context with keys that have not been used. -/
def SrtpCtx.uncharged (ctx : SrtpCtx) : SrtpCtx :=
  { streamList := ctx.streamList.map SrtpStream.uncharged }

/-- Every key of the context lasts for so many more packets. -/
def SrtpCtx.Lasts (ctx : SrtpCtx) (packets : ℕ) : Prop :=
  ∀ stream ∈ ctx.streamList, packets + 1 ≤ stream.limit.numLeft

instance (ctx : SrtpCtx) (packets : ℕ) : Decidable (ctx.Lasts packets) :=
  inferInstanceAs (Decidable (∀ _ ∈ _, _))

theorem SrtpCtx.Lasts.mono {ctx : SrtpCtx} {m n : ℕ} (h : ctx.Lasts n) (hle : m ≤ n) :
    ctx.Lasts m := by
  intro stream hstream
  have := h stream hstream
  omega

theorem srtpGetStream_uncharged (ctx : SrtpCtx) (ssrc : UInt32) :
    srtpGetStream ctx.uncharged ssrc = (srtpGetStream ctx ssrc).map SrtpStream.uncharged := by
  rw [srtpGetStream, SrtpCtx.uncharged, List.find?_map]
  rfl

theorem uncharged_putStream (ctx : SrtpCtx) (stream : SrtpStream) :
    (ctx.putStream stream).uncharged = ctx.uncharged.putStream stream.uncharged := by
  simp only [SrtpCtx.uncharged, SrtpCtx.putStream, SrtpCtx.mk.injEq]
  induction ctx.streamList with
  | nil => rfl
  | cons old streams ih =>
    have hssrc : (old.uncharged.ssrc = stream.uncharged.ssrc) = (old.ssrc = stream.ssrc) := rfl
    rw [List.map_cons, putFirst, putFirst]
    simp only [hssrc]
    split
    · rfl
    · rw [List.map_cons, ih]

/-- Writing back a stream that was only charged changes nothing but the charge. -/
theorem uncharged_putStream_of_charged {ctx : SrtpCtx} {ssrc : UInt32} {stream stream' : SrtpStream}
    (hget : srtpGetStream ctx ssrc = some stream) (h : stream'.uncharged = stream.uncharged) :
    (ctx.putStream stream').uncharged = ctx.uncharged := by
  rw [uncharged_putStream, h, ← uncharged_putStream, SrtpCtx.putStream, putFirst_of_find hget]

section Refused

variable (crypto : SrtpCrypto) (tagLen : ℕ) (stale : ℕ → UInt8) {ctx : SrtpCtx} (d : RtpDatagram)

/-- How often the keys have been used does not matter, as long as they last. -/
theorem receivePacket_uncharged (h : ctx.Lasts 1) :
    (receivePacket crypto tagLen stale ctx.uncharged d).1 =
        (receivePacket crypto tagLen stale ctx d).1 ∧
      (receivePacket crypto tagLen stale ctx.uncharged d).2.uncharged =
        (receivePacket crypto tagLen stale ctx d).2.uncharged := by
  have hctx : ctx.uncharged.uncharged = ctx.uncharged := by
    simp [SrtpCtx.uncharged, SrtpStream.uncharged, Function.comp_def]
  simp only [receivePacket, srtpUnprotect, srtpGetStream_uncharged]
  split
  · exact ⟨rfl, hctx⟩
  cases hget : srtpGetStream ctx d.header.ssrc with
  | none => exact ⟨rfl, hctx⟩
  | some stream =>
    have hleft := h stream (List.mem_of_find?_eq_some hget)
    have hsame := srtpUnprotectStream_uncharged crypto tagLen
      { header := d.header, body := store stale 0 d.body } d.size hleft
    simp only [SrtpUnprotectResult.uncharged, SrtpUnprotectResult.mk.injEq] at hsame
    obtain ⟨hstatus, hstream, hmsg, hlen⟩ := hsame
    simp only [Option.map_some, hstatus, hmsg, hlen, uncharged_putStream, hstream, hctx, and_self]

/-- A datagram uses up one packet of the keys at most. -/
theorem receivePacket_lasts {n : ℕ} (h : ctx.Lasts (n + 1)) :
    (receivePacket crypto tagLen stale ctx d).2.Lasts n := by
  simp only [receivePacket, srtpUnprotect]
  split
  · exact h.mono (Nat.le_succ n)
  split
  · exact h.mono (Nat.le_succ n)
  · next stream hget =>
    have hleft := h stream (List.mem_of_find?_eq_some hget)
    obtain ⟨-, hcharge⟩ := srtpUnprotectStream_charge crypto tagLen
      { header := d.header, body := store stale 0 d.body } d.size
      (show 2 ≤ stream.limit.numLeft by omega)
    intro s hs
    rcases mem_putFirst hs with rfl | hold
    · omega
    · exact h.mono (Nat.le_succ n) s hold

variable {crypto tagLen stale d}

/-- A datagram that is refused leaves nothing behind but a charge. -/
theorem receivePacket_refused (h : (receivePacket crypto tagLen stale ctx d).1 = none) :
    (receivePacket crypto tagLen stale ctx d).2.uncharged = ctx.uncharged := by
  simp only [receivePacket, srtpUnprotect] at h ⊢
  split at h
  · next hbad => rw [if_pos hbad]
  · next hvalid =>
    rw [if_neg hvalid]
    cases hget : srtpGetStream ctx d.header.ssrc with
    | none => rfl
    | some stream =>
      simp only [hget] at h
      have hrefused : (srtpUnprotectStream crypto tagLen stream
          { header := d.header, body := store stale 0 d.body } d.size).status ≠ .status .ok := by
        intro hok
        rw [if_pos hok] at h
        cases h
      refine uncharged_putStream_of_charged hget ?_
      rw [(srtpUnprotectStream_refused hrefused).stream]
      rfl

/-- Receivers that differ in the charges on their keys receive the same. -/
theorem receive_congr {ctx' : SrtpCtx} {ds : List RtpDatagram}
    (hsame : ctx.uncharged = ctx'.uncharged) (h : ctx.Lasts ds.length) (h' : ctx'.Lasts ds.length) :
    receive crypto tagLen stale ctx ds = receive crypto tagLen stale ctx' ds := by
  induction ds generalizing ctx ctx' with
  | nil => rw [receive, receive]
  | cons d ds ih =>
    rw [List.length_cons] at h h'
    obtain ⟨hbody, hnext⟩ :=
      receivePacket_uncharged crypto tagLen stale d (h.mono (Nat.le_add_left 1 _))
    obtain ⟨hbody', hnext'⟩ :=
      receivePacket_uncharged crypto tagLen stale d (h'.mono (Nat.le_add_left 1 _))
    rw [hsame] at hbody hnext
    rw [receive_cons, receive_cons, ← hbody, ← hbody', ih (hnext.symm.trans hnext')
      (receivePacket_lasts crypto tagLen stale d h) (receivePacket_lasts crypto tagLen stale d h')]

/-- **A datagram that is refused might as well not have been sent**: without it, the receiver makes
the same of every other datagram, as long as its keys last. -/
theorem receive_eraseIdx {ds : List RtpDatagram} {i : ℕ}
    (hrefused : (receive crypto tagLen stale ctx ds)[i]? = some none) (h : ctx.Lasts ds.length) :
    receive crypto tagLen stale ctx (ds.eraseIdx i) =
      (receive crypto tagLen stale ctx ds).eraseIdx i := by
  induction ds generalizing ctx i with
  | nil => rfl
  | cons d ds ih =>
    rw [List.length_cons] at h
    rw [receive_cons] at hrefused ⊢
    cases i with
    | zero =>
      have hnone := Option.some.inj hrefused
      exact receive_congr (receivePacket_refused hnone).symm (h.mono (Nat.le_succ _))
        (receivePacket_lasts crypto tagLen stale d h)
    | succ i =>
      rw [List.eraseIdx_cons_succ, List.eraseIdx_cons_succ, receive_cons,
        ih hrefused (receivePacket_lasts crypto tagLen stale d h)]

end Refused

/-- A datagram with the sequence number `seq` and a body of zeros. -/
def zeroDatagram (seq : UInt16) : RtpDatagram :=
  { sock := 3, header := { (castTo 5004 1).header with seq := htons seq }
    body := List.replicate 12 0
    dest := { sinFamily := pfInet, sinPort := 0, sinAddr := 0 } }

theorem receive_eraseIdx_replayed :
    (receive invertingCrypto 10 (fun _ => 0) { streamList := [(castTo 5004 1).stream] }
        [zeroDatagram 1, zeroDatagram 1, zeroDatagram 2])[1]? = some none ∧
      receive invertingCrypto 10 (fun _ => 0) { streamList := [(castTo 5004 1).stream] }
          [zeroDatagram 1, zeroDatagram 2] =
        (receive invertingCrypto 10 (fun _ => 0) { streamList := [(castTo 5004 1).stream] }
          [zeroDatagram 1, zeroDatagram 1, zeroDatagram 2]).eraseIdx 1 := by
  have hrefused : (receive invertingCrypto 10 (fun _ => 0)
      { streamList := [(castTo 5004 1).stream] }
      [zeroDatagram 1, zeroDatagram 1, zeroDatagram 2])[1]? = some none := by
    decide +kernel
  exact ⟨hrefused, receive_eraseIdx hrefused (by decide +kernel)⟩

/-! ### The ideal receiver -/

/-- The ideal receiver accepts a number that its database lets through, of a packet that is not
shorter than a tag. -/
def IdealRdbx.Accepts (d : IdealRdbx) (tagLen : ℕ) (body : List UInt8) (n : ℕ) : Prop :=
  d.verdict n = .ok ∧ tagLen ≤ body.length

instance (d : IdealRdbx) (tagLen : ℕ) (body : List UInt8) (n : ℕ) :
    Decidable (d.Accepts tagLen body n) := inferInstanceAs (Decidable (_ ∧ _))

/-- The database of the ideal receiver, after a packet. -/
def IdealRdbx.after (d : IdealRdbx) (tagLen : ℕ) (body : List UInt8) (n : ℕ) : IdealRdbx :=
  if d.Accepts tagLen body n then d.packet n else d

/-- The ideal receiver, number after number: each one it accepts. -/
def idealAccepts (tagLen : ℕ) (bodyOf : ℕ → List UInt8) : IdealRdbx → List ℕ → List (Option ℕ)
  | _, [] => []
  | d, n :: ns =>
    (if d.Accepts tagLen (bodyOf n) n then some n else none) ::
      idealAccepts tagLen bodyOf (d.after tagLen (bodyOf n) n) ns

/-- Every number is less than half a cycle away from the highest one accepted so far. -/
def InReach (tagLen : ℕ) (bodyOf : ℕ → List UInt8) : IdealRdbx → List ℕ → Prop
  | _, [] => True
  | d, n :: ns =>
    (d.highest < n + 2 ^ 15 ∧ n < d.highest + 2 ^ 15) ∧
      InReach tagLen bodyOf (d.after tagLen (bodyOf n) n) ns

instance decidableInReach (tagLen : ℕ) (bodyOf : ℕ → List UInt8) :
    ∀ (d : IdealRdbx) (ns : List ℕ), Decidable (InReach tagLen bodyOf d ns)
  | _, [] => isTrue trivial
  | d, n :: ns =>
    have := decidableInReach tagLen bodyOf (d.after tagLen (bodyOf n) n) ns
    inferInstanceAs (Decidable ((_ ∧ _) ∧ _))

/-- The database of a receiver that has not received anything. -/
def freshIdeal : IdealRdbx := { window := 128, highest := 0, got := [] }

/-- The ideal receiver accepts nothing that it has accepted before. -/
theorem nodup_idealAccepts (tagLen : ℕ) (bodyOf : ℕ → List UInt8) : ∀ (ns : List ℕ) (d : IdealRdbx),
    (idealAccepts tagLen bodyOf d ns).reduceOption.Nodup ∧
      ∀ n ∈ (idealAccepts tagLen bodyOf d ns).reduceOption, n ∉ d.got := by
  intro ns
  induction ns with
  | nil =>
    intro d
    exact ⟨List.nodup_nil, fun _ h => absurd h List.not_mem_nil⟩
  | cons n ns ih =>
    intro d
    obtain ⟨hnodup, hfresh⟩ := ih (d.after tagLen (bodyOf n) n)
    rw [idealAccepts]
    by_cases hacc : d.Accepts tagLen (bodyOf n) n
    · rw [IdealRdbx.after, if_pos hacc] at hnodup hfresh ⊢
      rw [if_pos hacc, List.reduceOption_cons_of_some]
      exact IdealRdbx.nodup_cons hacc.1 hnodup hfresh
    · rw [IdealRdbx.after, if_neg hacc] at hnodup hfresh ⊢
      rw [if_neg hacc, List.reduceOption_cons_of_none]
      exact ⟨hnodup, hfresh⟩

/-- Numbers that come one after the other are accepted one after the other. -/
theorem idealAccepts_range' {tagLen : ℕ} {bodyOf : ℕ → List UInt8} : ∀ (m : ℕ) (d : IdealRdbx),
    0 < d.window → (∀ g ∈ d.got, g ≤ d.highest) →
    (∀ n ∈ List.range' (d.highest + 1) m, tagLen ≤ (bodyOf n).length) →
    idealAccepts tagLen bodyOf d (List.range' (d.highest + 1) m) =
        (List.range' (d.highest + 1) m).map some ∧
      InReach tagLen bodyOf d (List.range' (d.highest + 1) m) := by
  intro m
  induction m with
  | zero =>
    intro d _ _ _
    exact ⟨rfl, trivial⟩
  | succ m ih =>
    intro d hwin hgot hlong
    rw [List.range'_succ] at hlong ⊢
    have hok : d.verdict (d.highest + 1) = .ok :=
      IdealRdbx.verdict_eq_ok_iff.mpr ⟨by omega, fun hmem => absurd (hgot _ hmem) (by omega)⟩
    have hacc : d.Accepts tagLen (bodyOf (d.highest + 1)) (d.highest + 1) :=
      ⟨hok, hlong _ List.mem_cons_self⟩
    have hafter : d.after tagLen (bodyOf (d.highest + 1)) (d.highest + 1) =
        { d with highest := d.highest + 1, got := (d.highest + 1) :: d.got } := by
      rw [IdealRdbx.after, if_pos hacc, IdealRdbx.packet, if_pos hok, Nat.max_eq_right (by omega)]
    obtain ⟨haccepts, hreach⟩ := ih
      { d with highest := d.highest + 1, got := (d.highest + 1) :: d.got } hwin
      (List.forall_mem_cons.mpr ⟨le_rfl, fun g hg => Nat.le_succ_of_le (hgot g hg)⟩)
      fun n hn => hlong n (List.mem_cons_of_mem _ hn)
    rw [idealAccepts, InReach, hafter, if_pos hacc, haccepts, List.map_cons]
    exact ⟨rfl, ⟨by omega, by omega⟩, hreach⟩

/-! ### The receiver and the ideal one -/

/-- The datagram a packet was sent as. -/
structure Carries (d : RtpDatagram) (masterKey : List UInt8) (ssrc : UInt32) (n : ℕ)
    (body : List UInt8) : Prop where
  seq : (ntohs d.header.seq).toNat = n % 2 ^ 16
  ssrc_eq : d.header.ssrc = ssrc
  cc : d.header.cc = 0
  x : d.header.x = 0
  encrypted :
    d.body = icmMix (streamKey masterKey).1 (rtpBase (streamKey masterKey).2 ssrc n) 0 body
  short : d.size ≤ 0xffff

section Step

variable {auth : List UInt8 → SrtpHdr → List UInt8 → ℕ → SrtpErrStatus × List UInt8} {tagLen : ℕ}
  (htag : tagLen ≤ octetsInRtpHeader) {stream : SrtpStream} {ideal : IdealRdbx} {n : ℕ}
  {d : RtpDatagram} {body : List UInt8}
include htag

/-- **One datagram**: it is received as the ideal receiver receives it. -/
theorem receivePacket_carries (stale : ℕ → UInt8) (h : ReceivesFrom stream ideal)
    (hn : n < 2 ^ 48 - 2 ^ 16) (hbelow : ideal.highest < n + 2 ^ 15)
    (habove : n < ideal.highest + 2 ^ 15) (hd : Carries d stream.masterKey stream.ssrc n body) :
    ∃ stream' : SrtpStream, ReceivesFrom stream' (ideal.after tagLen body n) ∧
      stream'.masterKey = stream.masterKey ∧ stream'.ssrc = stream.ssrc ∧
      receivePacket (icmCrypto auth) tagLen stale { streamList := [stream] } d =
        (if ideal.Accepts tagLen body n then some (body.take (body.length - tagLen)) else none,
          { streamList := [stream'] }) := by
  have hheader : rtpHeaderLen = octetsInRtpHeader := rfl
  have hlength : d.body.length = body.length := by rw [hd.encrypted, length_icmMix]
  have hsize : d.size = octetsInRtpHeader + body.length := by rw [RtpDatagram.size, hlength, hheader]
  have hshort := hd.short
  obtain ⟨hyes, hno⟩ := @srtpUnprotectStream_near stream ideal n _ (icmCrypto_succeeds auth)
    tagLen htag h hbelow habove { header := d.header, body := store stale 0 d.body } d.size (by omega)
    hshort hd.cc hd.x hd.seq
  have hvalid := @srtpValidateRtpHeader_plain { header := d.header, body := store stale 0 d.body }
    d.size (by omega) hd.cc hd.x
  have hstream : srtpGetStream { streamList := [stream] } d.header.ssrc = some stream := by
    simp [srtpGetStream, hd.ssrc_eq]
  have hroom : octetsInRtpHeader + tagLen ≤ d.size ↔ tagLen ≤ body.length := by omega
  by_cases hacc : ideal.Accepts tagLen body n
  · have hrun := hyes ⟨hacc.1, hroom.mpr hacc.2⟩
    refine ⟨stream.accepted ((n : ℤ) - stream.rtpRdbx.index), ?_, rfl, rfl, ?_⟩
    · rw [IdealRdbx.after, if_pos hacc]
      exact h.accepted hn habove hacc.1
    · have htaken : d.size - tagLen - octetsInRtpHeader = body.length - tagLen := by omega
      simp only [receivePacket, srtpUnprotect, hvalid, hstream, hrun, ne_eq, not_true_eq_false,
        if_false, if_true, if_pos hacc, htaken]
      refine Prod.ext ?_ ?_
      · -- a part of the keystream undoes a part of what it did
        show some (slice (store _ 0 ((icmCrypto auth).encrypt _ _ _
          (slice (store stale 0 d.body) 0 _)).2) 0 _) = some _
        rw [icmCrypto_encrypt auth _ _ _ (by rw [length_slice]; omega), slice_store_take stale 0
          (by omega), hd.encrypted, hd.ssrc_eq, icmMix_take_icmMix,
          slice_store_take _ _ (by rw [List.length_take]; omega), List.take_take, Nat.min_self]
      · simp [SrtpCtx.putStream, putFirst, SrtpStream.accepted]
  · obtain ⟨hstatus, hsame⟩ := hno fun hall => hacc ⟨hall.1, hroom.mp hall.2⟩
    refine ⟨stream, ?_, rfl, rfl, ?_⟩
    · rw [IdealRdbx.after, if_neg hacc]
      exact h
    · simp [receivePacket, srtpUnprotect, hvalid, hstream, hstatus, hsame, hacc, SrtpCtx.putStream,
        putFirst]

/-- Datagram after datagram, the ideal receiver and the receiver agree. -/
theorem receive_carries (stale : ℕ → UInt8) {masterKey : List UInt8} {ssrc : UInt32}
    {bodyOf : ℕ → List UInt8} {ns : List ℕ} {ds : List RtpDatagram}
    (hds : List.Forall₂
      (fun n d => n < 2 ^ 48 - 2 ^ 16 ∧ Carries d masterKey ssrc n (bodyOf n)) ns ds) :
    ∀ {stream : SrtpStream} {ideal : IdealRdbx}, ReceivesFrom stream ideal →
      stream.masterKey = masterKey → stream.ssrc = ssrc → InReach tagLen bodyOf ideal ns →
      receive (icmCrypto auth) tagLen stale { streamList := [stream] } ds =
        (idealAccepts tagLen bodyOf ideal ns).map
          (Option.map fun n => (bodyOf n).take ((bodyOf n).length - tagLen)) := by
  induction hds with
  | nil =>
    intro stream ideal _ _ _ _
    rfl
  | @cons n d ns ds hd hds ih =>
    intro stream ideal h hkey hssrc hreach
    obtain ⟨⟨hbelow, habove⟩, hrest⟩ := hreach
    have hcarries : Carries d stream.masterKey stream.ssrc n (bodyOf n) := by
      rw [hkey, hssrc]
      exact hd.2
    obtain ⟨stream', h', hkey', hssrc', hrun⟩ :=
      @receivePacket_carries auth tagLen htag stream ideal n d (bodyOf n) stale h hd.1 hbelow habove
        hcarries
    rw [receive_cons, hrun, ih h' (hkey'.trans hkey) (hssrc'.trans hssrc) hrest, idealAccepts,
      List.map_cons]
    split <;> rfl

end Step

/-! ### Sessions -/

/-- The datagram of a packet, by number. -/
def wire (packets : List RtpPacket) (n : ℕ) : Option RtpDatagram :=
  (packets[n - 1]?.bind RtpPacket.sent).map RtpSent.datagram

/-- The body of a packet, by number. -/
def sentBody (packets : List RtpPacket) (n : ℕ) : List UInt8 :=
  (packets[n - 1]?.map RtpPacket.body).getD []

/-- A receiver that has received nothing. -/
theorem receivesFrom_fresh (args : CastArgs) : ReceivesFrom args.stream freshIdeal where
  services := rfl
  pendingRoc := rfl
  remembers := remembers_init (Nat.succ_pos 127)
  numLeft := rfl
  nodup := List.nodup_nil
  got_lt := fun _ h => absurd h List.not_mem_nil
  highest_lt := by
    show 0 < 2 ^ 48 - 2 ^ 16
    omega

/-- What is on the wire for a number of the session. -/
theorem wire_carries (auth : List UInt8 → SrtpHdr → List UInt8 → ℕ → SrtpErrStatus × List UInt8)
    {sys : SenderSystem} {args : CastArgs} {w w' : SenderWorld}
    (h : prepareSrtpSender sys args w = .ok w')
    (blocks : List Block) {n : ℕ} (hpos : 1 ≤ n)
    (hle : n ≤ (sendBlocks (icmCrypto auth) blocks w'.ctx).length) (hn : n < 2 ^ 48 - 2 ^ 16) :
    ∃ d, wire (sendBlocks (icmCrypto auth) blocks w'.ctx) n = some d ∧
      Carries d args.policy.key (htonl args.ssrc.toUInt32) n
        (sentBody (sendBlocks (icmCrypto auth) blocks w'.ctx) n) := by
  obtain ⟨p, hp⟩ : ∃ p, (sendBlocks (icmCrypto auth) blocks w'.ctx)[n - 1]? = some p :=
    ⟨_, List.getElem?_eq_getElem (by omega)⟩
  have hsent : sentBody (sendBlocks (icmCrypto auth) blocks w'.ctx) n = p.body := by
    rw [sentBody, hp]
    rfl
  have henc := session_isEncrypted auth h blocks (n - 1) p hp (by omega)
  rw [show n - 1 + 1 = n by omega] at henc
  have hshort := henc.short.trans rtpPktBodySize_eq.le
  obtain ⟨hseq, hssrc, d, hhdr, hd⟩ := henc.number
  have hwire : some d.body = some (icmMix (streamKey args.policy.key).1
      (rtpBase (streamKey args.policy.key).2 (htonl args.ssrc.toUInt32) n) 0 p.body) := by
    have hmap := henc.body
    rw [hd, icmCrypto_encrypt auth _ _ _ (by omega)] at hmap
    exact hmap
  rw [Option.some.injEq] at hwire
  refine ⟨d, ?_, ?_, ?_, ?_, ?_, ?_, ?_⟩
  · rw [wire, hp, Option.bind_some, hd]
    rfl
  · rw [hhdr, hseq, ntohs_htons, UInt16.toNat_ofNat']
  · rw [hhdr, hssrc]
  · rw [hhdr, henc.cc]
  · rw [hhdr, henc.x]
  · rw [hsent]
    exact hwire
  · have hlength : d.body.length = p.body.length := by rw [hwire, length_icmMix]
    rw [RtpDatagram.size, hlength, rtpHeaderLen]
    omega

section Session

variable (auth : List UInt8 → SrtpHdr → List UInt8 → ℕ → SrtpErrStatus × List UInt8)
  {sys : SenderSystem} {args : CastArgs} {w w' : SenderWorld}
  (h : prepareSrtpSender sys args w = .ok w') (blocks : List Block)
  {packets : List RtpPacket} (hpackets : sendBlocks (icmCrypto auth) blocks w'.ctx = packets)
include h hpackets

/-- What arrives, if these are the numbers that arrive. -/
theorem forall₂_wire : ∀ {ns : List ℕ},
    (∀ n ∈ ns, 1 ≤ n ∧ n ≤ packets.length ∧ n < 2 ^ 48 - 2 ^ 16) →
    List.Forall₂ (fun n d => n < 2 ^ 48 - 2 ^ 16 ∧
      Carries d args.policy.key (htonl args.ssrc.toUInt32) n (sentBody packets n)) ns
      (ns.filterMap (wire packets)) := by
  intro ns hns
  induction ns with
  | nil => exact .nil
  | cons n ns ih =>
    obtain ⟨⟨hpos, hle, hn⟩, hrest⟩ := List.forall_mem_cons.mp hns
    obtain ⟨d, hwire, hcarries⟩ := wire_carries auth h blocks hpos (hpackets.symm ▸ hle) hn
    rw [hpackets] at hwire hcarries
    rw [List.filterMap_cons_some hwire]
    exact .cons ⟨hn, hcarries⟩ (ih hrest)

theorem receive_session {ctx : SrtpCtx} (hctx : srtpCreate args.policy = .ok ctx) {tagLen : ℕ}
    (htag : tagLen ≤ octetsInRtpHeader) (stale : ℕ → UInt8) {ns : List ℕ}
    (hns : ∀ n ∈ ns, 1 ≤ n ∧ n ≤ packets.length ∧ n < 2 ^ 48 - 2 ^ 16)
    (hreach : InReach tagLen (sentBody packets) freshIdeal ns) :
    receive (icmCrypto auth) tagLen stale ctx (ns.filterMap (wire packets)) =
      (idealAccepts tagLen (sentBody packets) freshIdeal ns).map (Option.map fun n =>
        (sentBody packets n).take ((sentBody packets n).length - tagLen)) := by
  have hds := forall₂_wire auth h blocks hpackets hns
  have hfresh : ctx = { streamList := [args.stream] } := by
    rw [srtpCreate, srtpAddStream_policy] at hctx
    exact (Except.ok.inj hctx).symm
  rw [hfresh]
  exact receive_carries htag stale hds (receivesFrom_fresh args) rfl rfl hreach

/-- **The receiver of a session accepts what the ideal receiver accepts**, whatever of the session's
first `2 ^ 48 - 2 ^ 16 - 1` datagrams arrives, in whatever order and however often, as long as none
is half a cycle away from the highest number accepted: with the bodies that were sent, up to the
length of a tag, and no packet twice. -/
theorem session_received {ctx : SrtpCtx} (hctx : srtpCreate args.policy = .ok ctx) {tagLen : ℕ}
    (htag : tagLen ≤ octetsInRtpHeader) (stale : ℕ → UInt8) {ns : List ℕ}
    (hns : ∀ n ∈ ns, 1 ≤ n ∧ n ≤ packets.length ∧ n < 2 ^ 48 - 2 ^ 16)
    (hreach : InReach tagLen (sentBody packets) freshIdeal ns) :
    receive (icmCrypto auth) tagLen stale ctx (ns.filterMap (wire packets)) =
        (idealAccepts tagLen (sentBody packets) freshIdeal ns).map (Option.map fun n =>
          (sentBody packets n).take ((sentBody packets n).length - tagLen)) ∧
      (idealAccepts tagLen (sentBody packets) freshIdeal ns).reduceOption.Nodup :=
  ⟨receive_session auth h blocks hpackets hctx htag stale hns hreach,
    (nodup_idealAccepts tagLen (sentBody packets) ns freshIdeal).1⟩

end Session

/-- Two blocks of a packet each. -/
def twoBlocks : List Block :=
  [Block.ofList (List.replicate 12 1), Block.ofList (List.replicate 20 2)]

theorem session_received_castTo :
    ∃ w' packets, prepareSrtpSender ownPorts (castTo 5004 1) (senderStart []) = .ok w' ∧
      sendBlocks (icmCrypto noTag) twoBlocks w'.ctx = packets ∧
      receive (icmCrypto noTag) 10 (fun _ => 0) { streamList := [(castTo 5004 1).stream] }
          ([2, 1, 2].filterMap (wire packets)) =
        (idealAccepts 10 (sentBody packets) freshIdeal [2, 1, 2]).map (Option.map fun n =>
          (sentBody packets n).take ((sentBody packets n).length - 10)) ∧
      idealAccepts 10 (sentBody packets) freshIdeal [2, 1, 2] = [some 2, some 1, none] := by
  refine ⟨_, _, prepareSrtpSender_castTo, rfl, ?_, by decide +kernel⟩
  exact (session_received noTag prepareSrtpSender_castTo twoBlocks rfl
    (srtpAddStream_policy (castTo 5004 1)) (by decide) _ (by decide +kernel) (by decide +kernel)).1

section InOrder

variable (auth : List UInt8 → SrtpHdr → List UInt8 → ℕ → SrtpErrStatus × List UInt8)
  {sys : SenderSystem} {args : CastArgs} {w w' : SenderWorld}
  (h : prepareSrtpSender sys args w = .ok w') (blocks : List Block)
  {packets : List RtpPacket} (hpackets : sendBlocks (icmCrypto auth) blocks w'.ctx = packets)
include h hpackets

/-- **Without losses everything arrives**: the receiver gets the bodies of a session of less than
`2 ^ 48 - 2 ^ 16` packets one after the other, up to the length of a tag, if none of them is shorter
than a tag. -/
theorem session_received_in_order (hmany : packets.length < 2 ^ 48 - 2 ^ 16) {ctx : SrtpCtx}
    (hctx : srtpCreate args.policy = .ok ctx) {tagLen : ℕ} (htag : tagLen ≤ octetsInRtpHeader)
    (hlong : ∀ p ∈ packets, tagLen ≤ p.body.length) (stale : ℕ → UInt8) :
    receive (icmCrypto auth) tagLen stale ctx
        (packets.filterMap fun p => p.sent.map RtpSent.datagram) =
      packets.map fun p => some (p.body.take (p.body.length - tagLen)) := by
  -- the numbers of the packets, in order
  have hnumber : ∀ n ∈ List.range' 1 packets.length,
      1 ≤ n ∧ n ≤ packets.length ∧ n < 2 ^ 48 - 2 ^ 16 := by
    intro n hn
    rw [List.mem_range'_1] at hn
    omega
  have hget : (List.range' 1 packets.length).map (fun n => packets[n - 1]?) = packets.map some := by
    refine List.ext_getElem (by simp) fun i hi _ => ?_
    rw [List.getElem_map, List.getElem_range', List.getElem_map]
    rw [List.length_map, List.length_range'] at hi
    rw [show 1 + 1 * i - 1 = i by omega, List.getElem?_eq_getElem hi]
  have hwire : (List.range' 1 packets.length).filterMap (wire packets) =
      packets.filterMap fun p => p.sent.map RtpSent.datagram := by
    have hmap := congrArg (List.filterMap fun o : Option RtpPacket =>
      (o.bind RtpPacket.sent).map RtpSent.datagram) hget
    rwa [List.filterMap_map, List.filterMap_map] at hmap
  have hbodies : (List.range' 1 packets.length).map (sentBody packets) =
      packets.map RtpPacket.body := by
    have hmap := congrArg (List.map fun o : Option RtpPacket => (o.map RtpPacket.body).getD []) hget
    rwa [List.map_map, List.map_map] at hmap
  have hbody : ∀ n ∈ List.range' 1 packets.length, tagLen ≤ (sentBody packets n).length := by
    intro n hn
    have hmem := List.mem_map_of_mem (f := sentBody packets) hn
    rw [hbodies] at hmem
    obtain ⟨p, hp, hsent⟩ := List.mem_map.mp hmem
    rw [← hsent]
    exact hlong p hp
  obtain ⟨haccepts, hreach⟩ := @idealAccepts_range' tagLen (sentBody packets) packets.length freshIdeal
    (by decide) (fun _ hg => absurd hg List.not_mem_nil) hbody
  rw [← hwire, receive_session auth h blocks hpackets hctx htag stale hnumber hreach]
  rw [show freshIdeal.highest + 1 = 1 from rfl] at haccepts
  have htaken := congrArg (List.map fun body => some (body.take (body.length - tagLen))) hbodies
  rw [List.map_map, List.map_map] at htaken
  rw [haccepts, List.map_map]
  exact htaken

end InOrder

theorem session_received_in_order_castTo :
    ∃ w' packets, prepareSrtpSender ownPorts (castTo 5004 1) (senderStart []) = .ok w' ∧
      sendBlocks (icmCrypto noTag) twoBlocks w'.ctx = packets ∧
      packets.length = 2 ∧
      receive (icmCrypto noTag) 10 (fun _ => 0) { streamList := [(castTo 5004 1).stream] }
          (packets.filterMap fun p => p.sent.map RtpSent.datagram) =
        packets.map fun p => some (p.body.take (p.body.length - 10)) := by
  refine ⟨_, _, prepareSrtpSender_castTo, rfl, by decide +kernel, ?_⟩
  exact session_received_in_order noTag prepareSrtpSender_castTo twoBlocks rfl (by decide +kernel)
    (srtpAddStream_policy (castTo 5004 1)) (by decide) (by decide +kernel) _

end CameraDaemon
