import CameraDaemon.RtpWorker

/-!
# The key of a session

`prepare_srtp_sender` reads the key and the salt out of forty characters of base64.  It rejects a
text with a character outside the alphabet, and one of more than sixty characters.  The terminator
is found in the alphabet, and a text of 41 to 60 characters is not too long: a shorter text is read
on behind its terminator, a longer one is cut off.

The encoding of RFC 4648 is inverted by the decoder on whole groups of octets.

## Main definitions

* `CompleteKey` — forty characters of the alphabet, and nothing behind them is used.

## Main results

* `keyError_eq_none_iff` — when a key passes the checks.
* `accepts_only_complete_iff` — **only complete keys are accepted exactly when** the text has forty
  characters, or too many, or one of the forty bytes is neither of the alphabet nor a terminator.
* `base64_roundTrip` — **decoding undoes encoding, and encoding undoes decoding.**
-/

namespace CameraDaemon

open CString Memory Rfc4648

/-! ### The checks -/

/-- **A key passes the checks** when none of the forty bytes read counts as padding and `strlen` is
within the limit. -/
theorem keyError_eq_none_iff (args : CastArgs) :
    args.keyError = none ↔
      (∀ n < expectedLen, IsB64 (args.inputKey.mem n)) ∧ intOfSize args.inputKey.strlen ≤ 60 := by
  obtain ⟨hpad, hread⟩ := base64StringToOctetString_pad args.stale args.inputKey.mem
    (show expectedLen % 4 = 0 from rfl)
  rw [← hpad, CastArgs.keyError, CastArgs.decoded]
  generalize base64StringToOctetString args.stale args.inputKey.mem expectedLen = decoded
    at hread ⊢
  by_cases hzero : decoded.2.1 = some 0
  · -- then the forty bytes have been read, so there are not too few digits
    have hshort : ¬ decoded.1 < expectedLen := by
      rw [hread hzero]
      exact Nat.lt_irrefl _
    rw [if_neg (not_not.mpr hzero), if_neg hshort]
    have hlimit : Int.ofNat (cipherKeyLen * 2) = 60 := rfl
    rw [hlimit]
    by_cases hlong : intOfSize args.inputKey.strlen > 60
    · rw [if_pos hlong]
      refine iff_of_false (fun h => by cases h) fun h => ?_
      exact absurd h.2 (by omega)
    · rw [if_neg hlong]
      exact iff_of_true rfl ⟨hzero, by omega⟩
  · rw [if_pos hzero]
    exact iff_of_false (fun h => by cases h) fun h => hzero h.1

/-- A key of forty characters of the alphabet passes the checks. -/
theorem keyError_of_chars {args : CastArgs} (hlen : args.inputKey.strlen = 40)
    (hchars : ∀ c ∈ args.inputKey.chars, c ∈ b64chars) : args.keyError = none := by
  refine (keyError_eq_none_iff args).mpr ⟨fun n hn => ?_, ?_⟩
  · have hbelow : n < args.inputKey.strlen := by
      rw [hlen]
      exact hn
    exact Or.inl (hchars _ (args.inputKey.mem_mem_chars hbelow))
  · rw [hlen]
    decide

/-! ### Complete keys -/

/-- The same arguments, with other memory behind the terminator of the key. -/
def CastArgs.withBehind (args : CastArgs) (behind : ℕ → UInt8) : CastArgs :=
  { args with inputKey := { args.inputKey with behind := behind } }

/-- The key has forty characters, all of the alphabet, and the master key does not depend on what
stands behind its terminator. -/
structure CompleteKey (args : CastArgs) : Prop where
  length : args.inputKey.strlen = 40
  chars : ∀ c ∈ args.inputKey.chars, c ∈ b64chars
  behind : ∀ behind, (args.withBehind behind).policy.key = args.policy.key

/-- Below the terminator the memory behind it does not show. -/
theorem mem_withBehind (args : CastArgs) (behind : ℕ → UInt8) {n : ℕ}
    (hn : n < args.inputKey.strlen) :
    (args.withBehind behind).inputKey.mem n = args.inputKey.mem n := by
  have hn' : n < args.inputKey.chars.length := hn
  have hbehind : n < (args.withBehind behind).inputKey.chars.length := hn
  rw [CStr.mem, CStr.mem, if_pos hn', if_pos hbehind]
  rfl

/-- A key of forty characters that passes the checks is complete. -/
theorem completeKey_of_length {args : CastArgs} (hlen : args.inputKey.strlen = 40)
    (hkey : args.keyError = none) : CompleteKey args := by
  have hfound := ((keyError_eq_none_iff args).mp hkey).1
  refine ⟨hlen, fun c hc => ?_, fun behind => ?_⟩
  · obtain ⟨n, hn, hmem⟩ : ∃ n < args.inputKey.strlen, args.inputKey.mem n = c := by
      rw [← args.inputKey.slice_mem] at hc
      obtain ⟨n, hn, rfl⟩ := List.mem_map.mp hc
      refine ⟨n, List.mem_range.mp hn, ?_⟩
      rw [Nat.zero_add]
    have hexpected : n < expectedLen := by
      rw [hlen] at hn
      exact hn
    rcases hfound n hexpected with hb64 | hzero
    · rw [← hmem]
      exact hb64
    · -- a terminator does not stand among the characters
      exact absurd hzero (args.inputKey.mem_ne_zero hn)
  · have hread : ∀ n < expectedLen,
        (args.withBehind behind).inputKey.mem n = args.inputKey.mem n := by
      intro n hn
      apply mem_withBehind
      rw [hlen]
      exact hn
    have hdecoded : (args.withBehind behind).decoded = args.decoded :=
      base64StringToOctetString_congr args.stale hread
    simp only [CastArgs.policy, hdecoded]

/-- **Only complete keys are accepted exactly when** the text has forty characters, or more than the
limit, or one of the forty bytes that are read is neither a character of the alphabet nor zero. -/
theorem accepts_only_complete_iff (args : CastArgs) :
    (args.keyError = none → CompleteKey args) ↔
      args.inputKey.strlen = 40 ∨ 60 < intOfSize args.inputKey.strlen ∨
        ∃ n < 40, args.inputKey.mem n ∉ b64chars ∧ args.inputKey.mem n ≠ 0 := by
  constructor
  · intro hcomplete
    by_contra hnone
    obtain ⟨hlen, hrest⟩ := not_or.mp hnone
    obtain ⟨hlimit, hfound⟩ := not_or.mp hrest
    -- nothing stands in the way of the checks, and yet the length is wrong
    have hkey : args.keyError = none := by
      refine (keyError_eq_none_iff args).mpr ⟨fun n hn => ?_, by omega⟩
      by_contra hb64
      exact hfound ⟨n, hn, not_or.mp hb64⟩
    exact hlen (hcomplete hkey).length
  · intro hcond hkey
    obtain ⟨hfound, hlimit⟩ := (keyError_eq_none_iff args).mp hkey
    rcases hcond with hlen | hlong | ⟨n, hn, hb64, hzero⟩
    · exact completeKey_of_length hlen hkey
    · omega
    · rcases hfound n hn with h | h
      · exact absurd h hb64
      · exact absurd h hzero

/-- A cast whose key is `n` times the letter `A`, with zeros behind it. -/
def castWithKey (n : ℕ) : CastArgs :=
  { castTo 5004 1 with
    inputKey :=
      { chars := List.replicate n 65
        nonzero := fun c hc => by
          rw [List.eq_of_mem_replicate hc]
          decide
        behind := fun _ => 0 } }

/-- **The empty key passes the checks, and so does one of 41 characters.** -/
theorem incomplete_keys_accepted :
    ((castWithKey 0).keyError = none ∧ ¬ CompleteKey (castWithKey 0)) ∧
      (castWithKey 41).keyError = none ∧ ¬ CompleteKey (castWithKey 41) := by
  refine ⟨⟨by decide +kernel, fun h => ?_⟩, by decide +kernel, fun h => ?_⟩
  · exact absurd h.length (by decide)
  · exact absurd h.length (by decide)

/-! ### Encoding and decoding -/

section RoundTrip

variable {octets : List UInt8}

/-- The encoding of octets is decoded to these octets. -/
theorem base64StringToOctetString_encode (out : ℕ → UInt8) {inp : ℕ → UInt8}
    (h : 3 ∣ octets.length)
    (hinp : slice inp 0 (encode octets).length = encode octets) :
    base64StringToOctetString out inp (encode octets).length =
      ((encode octets).length, some 0, store out 0 octets) := by
  have hlen : (encode octets).length = (digits octets).length := List.length_map _
  have hfour : 4 ∣ (digits octets).length := by
    rw [length_digits h]
    exact Nat.dvd_mul_right _ _
  have hdecode := base64StringToOctetString_letters out hfour (digits_lt octets)
    (by rw [← hlen]; exact hinp)
  rw [decode_digits h] at hdecode
  rw [hlen]
  exact hdecode

/-- Text of the alphabet is the letters of digits. -/
theorem exists_digits : ∀ {text : List UInt8}, (∀ c ∈ text, c ∈ b64chars) →
    ∃ ds : List ℕ, (∀ d ∈ ds, d < 64) ∧ ds.map letter = text := by
  intro text
  induction text with
  | nil =>
    intro _
    refine ⟨[], fun d hd => ?_, rfl⟩
    cases hd
  | cons c text ih =>
    intro h
    obtain ⟨d, hd, hletter⟩ := mem_b64chars.mp (h c List.mem_cons_self)
    obtain ⟨ds, hds, htext⟩ := ih fun c' hc' => h c' (List.mem_cons_of_mem c hc')
    refine ⟨d :: ds, List.forall_mem_cons.mpr ⟨hd, hds⟩, ?_⟩
    rw [List.map_cons, hletter, htext]

/-- The octets written for text of the alphabet encode to the text. -/
theorem encode_base64StringToOctetString (out inp : ℕ → UInt8) {len : ℕ} (h : 4 ∣ len)
    (hchars : ∀ n < len, inp n ∈ b64chars) :
    encode (slice (base64StringToOctetString out inp len).2.2 0 (len / 4 * 3)) =
      slice inp 0 len := by
  have hmem : ∀ c ∈ slice inp 0 len, c ∈ b64chars := by
    intro c hc
    obtain ⟨n, hn, rfl⟩ := List.mem_map.mp hc
    rw [Nat.zero_add]
    exact hchars n (List.mem_range.mp hn)
  obtain ⟨ds, hlt, htext⟩ := exists_digits hmem
  have hlen : ds.length = len := by
    have hlength := congrArg List.length htext
    rwa [List.length_map, length_slice] at hlength
  subst hlen
  have hdecode := base64StringToOctetString_letters out h hlt htext.symm
  have hslice := slice_store out 0 (decode ds)
  rw [length_decode h] at hslice
  rw [hdecode, hslice, encode_decode h hlt, htext]

end RoundTrip

/-- The encoding of a key of thirty octets passes the checks, and the octets are the master key. -/
theorem keyError_encode {key : List UInt8} {args : CastArgs} (hlen : key.length = 30)
    (hkey : args.inputKey.chars = encode key) :
    args.keyError = none ∧ slice args.decoded.2.2 0 30 = key := by
  have hthree : 3 ∣ key.length := ⟨10, hlen⟩
  have hforty : (encode key).length = 40 := by
    rw [encode, List.length_map, length_digits hthree, hlen]
  have hstrlen : args.inputKey.strlen = 40 := by
    rw [CStr.strlen, hkey, hforty]
  constructor
  · refine keyError_of_chars hstrlen fun c hc => ?_
    rw [hkey] at hc
    obtain ⟨d, hd, rfl⟩ := List.mem_map.mp hc
    exact mem_b64chars.mpr ⟨d, digits_lt key d hd, rfl⟩
  · have htext :
        slice args.inputKey.mem 0 (encode key).length = encode key := by
      rw [← hkey]
      exact args.inputKey.slice_mem
    have hdecode := base64StringToOctetString_encode args.stale hthree htext
    rw [hforty] at hdecode
    have hslice := slice_store args.stale 0 key
    rw [hlen] at hslice
    rw [CastArgs.decoded, show expectedLen = 40 from rfl, hdecode, hslice]

/-- **Decoding undoes encoding, and encoding undoes decoding**, on whole groups of octets; the
encoding of thirty octets is accepted as a key, and gives them back. -/
theorem base64_roundTrip :
    (∀ (octets : List UInt8) (out inp : ℕ → UInt8), 3 ∣ octets.length →
      slice inp 0 (encode octets).length = encode octets →
      base64StringToOctetString out inp (encode octets).length =
        ((encode octets).length, some 0, store out 0 octets)) ∧
    (∀ (out inp : ℕ → UInt8) (len : ℕ), 4 ∣ len → (∀ n < len, inp n ∈ b64chars) →
      encode (slice (base64StringToOctetString out inp len).2.2 0 (len / 4 * 3)) =
        slice inp 0 len) ∧
    ∀ (key : List UInt8) (args : CastArgs), key.length = 30 →
      args.inputKey.chars = encode key →
      args.keyError = none ∧ slice args.decoded.2.2 0 30 = key := by
  refine ⟨fun octets out inp h hinp => ?_, fun out inp len h hchars => ?_,
    fun key args hlen hkey => ?_⟩
  · exact base64StringToOctetString_encode out h hinp
  · exact encode_base64StringToOctetString out inp h hchars
  · exact keyError_encode hlen hkey

/-- Thirty zeros are encoded as forty times the letter `A`. -/
theorem base64_roundTrip_zeros :
    (castWithKey 40).inputKey.chars = encode (List.replicate 30 0) ∧
      (castWithKey 40).keyError = none ∧
      slice (castWithKey 40).decoded.2.2 0 30 = List.replicate 30 0 := by
  have hchars : (castWithKey 40).inputKey.chars = encode (List.replicate 30 0) := by
    decide +kernel
  have hkey := base64_roundTrip.2.2 (List.replicate 30 0) (castWithKey 40) rfl hchars
  exact ⟨hchars, hkey⟩

end CameraDaemon
