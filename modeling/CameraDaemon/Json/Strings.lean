import CameraDaemon.Json.Parse
import Mathlib.Tactic.IntervalCases

/-!
# Quoted strings

`parse_string` looks for the closing quote, allocates a block and copies.  The first pass takes the
characters behind a backslash two by two; the second one takes six or twelve of them for a code.
When the four characters behind `\u` are no digits they are passed over all the same, and the two
passes are out of step from there on: the second one may take a backslash, which the first one has
passed over as escaped, for the beginning of an escape.

The number of escapes that the first pass has counted is kept along with the state in which it was
at each character (`skips`, `inEscape`).  What is copied never takes more room than is left for it.

## Main definitions

* `Paired` — a body in which the first pass finds no quote.
* `Copied`, `Lenient` — the characters that are copied together, and the bodies that can be copied.
* `AcceptedBody` — both.

## Main results

* `parseString_sound` — **no body makes `parse_string` read or write where it must not**, and what
  it accepts is a quoted body that can be copied.
* `parseString_accepted`, `accepted_of_concat` — such a body is copied, and the strings of the
  standard are among them.
-/

namespace CameraDaemon

open Json Strtod

/-! ### Codes -/

theorem hexValue_lt {c : UInt8} {d : ℕ} (h : hexValue c = some d) : d < 16 := by
  have hdigit : ∀ c : UInt8, ∀ d ∈ hexValue c, d < 16 := by
    intro c d hd
    simp only [hexValue, UInt8.le_iff_toNat_le] at hd
    split at hd
    · next hc => cases hd; simp only [UInt8.reduceToNat] at hc; omega
    split at hd
    · next hc => cases hd; simp only [UInt8.reduceToNat] at hc; omega
    split at hd
    · next hc => cases hd; simp only [UInt8.reduceToNat] at hc; omega
    · cases hd
  exact hdigit c d h

theorem hex4_lt {code : ℕ} {ds : List UInt8} (h : Hex4 code ds) : code < 0x10000 := by
  obtain ⟨ha, hb, hc, hd⟩ := h
  have := hexValue_lt ha
  have := hexValue_lt hb
  have := hexValue_lt hc
  have := hexValue_lt hd
  omega

theorem hex4_length {code : ℕ} {ds : List UInt8} (h : Hex4 code ds) : ds.length = 4 := by
  cases h
  rfl

theorem parseHex4_append {code : ℕ} {ds : List UInt8} (h : Hex4 code ds) (u : List UInt8) :
    parseHex4 (ds ++ u) = some code := by
  obtain ⟨ha, hb, hc, hd⟩ := h
  simp [parseHex4, parseHex4Loop, ha, hb, hc, hd]

/-- Four characters that are not all digits are read as zero. -/
theorem parseHex4_invalid {ds : List UInt8} (hds : ds.length = 4) (h : ∀ code, ¬ Hex4 code ds)
    (u : List UInt8) : parseHex4 (ds ++ u) = some 0 := by
  obtain ⟨a, b, c, d, rfl⟩ := List.length_eq_four.mp hds
  simp only [parseHex4, List.cons_append, List.nil_append, parseHex4Loop]
  cases ha : hexValue a with
  | none => rfl
  | some w =>
    cases hb : hexValue b with
    | none => rfl
    | some x =>
      cases hc : hexValue c with
      | none => rfl
      | some y =>
        cases hd : hexValue d with
        | none => rfl
        | some z => exact absurd (.mk ha hb hc hd) (h _)

/-- A continuation byte holds six bits. -/
theorem or_and_tail (n : ℕ) : (n ||| 0x80) &&& 0xBF = n % 64 + 128 := by
  have hbyte : ∀ m < 256, (m ||| 0x80) &&& 0xBF = m % 64 + 128 := by decide +kernel
  have hmask : (0xBF : ℕ) = (2 ^ 8 - 1) &&& 0xBF := by decide
  calc (n ||| 0x80) &&& 0xBF = ((n ||| 0x80) % 2 ^ 8) &&& 0xBF := by
        rw [hmask, ← Nat.and_assoc, Nat.and_two_pow_sub_one_eq_mod, ← hmask]
    _ = (n % 256 ||| 0x80) &&& 0xBF := by rw [Nat.or_mod_two_pow]
    _ = n % 256 % 64 + 128 := hbyte _ (Nat.mod_lt _ (by decide))
    _ = n % 64 + 128 := by rw [Nat.mod_mod_of_dvd n (by decide : 64 ∣ 256)]

theorem utf8_eq {code : ℕ} (h : code.isValidChar) :
    utf8 code =
      if code ≤ 127 then [UInt8.ofNat code]
      else if code ≤ 2047 then
        [UInt8.ofNat (code / 64 % 32 + 192), UInt8.ofNat (code % 64 + 128)]
      else if code ≤ 65535 then
        [UInt8.ofNat (code / 4096 % 16 + 224), UInt8.ofNat (code / 64 % 64 + 128),
          UInt8.ofNat (code % 64 + 128)]
      else
        [UInt8.ofNat (code / 262144 % 8 + 240), UInt8.ofNat (code / 4096 % 64 + 128),
          UInt8.ofNat (code / 64 % 64 + 128), UInt8.ofNat (code % 64 + 128)] := by
  have hval : (Char.ofNat code).val.toNat = code := by
    rw [Char.ofNat, dif_pos h]
    rfl
  simp only [utf8, String.utf8EncodeChar, hval]

/-- The encoder of the source is the one of the standard. -/
theorem utf8Encode_eq {code : ℕ} (h : code.isValidChar) (sequenceLength : ℕ) :
    utf8Encode code sequenceLength = (utf8 code, sequenceLength) := by
  have hlt : code ≤ 0x10FFFF := by
    rcases h with h | h
    · omega
    · omega
  have hfirst2 : ∀ m < 32, (m ||| 0xC0) &&& 0xFF = m % 32 + 192 := by decide
  have hfirst3 : ∀ m < 16, (m ||| 0xE0) &&& 0xFF = m % 16 + 224 := by decide
  have hfirst4 : ∀ m < 8, (m ||| 0xF0) &&& 0xFF = m % 8 + 240 := by decide
  have hfirst1 : ∀ m < 128, m &&& 0x7F = m := by decide
  rw [utf8_eq h, utf8Encode, utf8Length]
  split_ifs <;> first | omega | skip
  · simp only [utf8Write, utf8Tail, Nat.sub_self, lt_self_iff_false, if_false]
    rw [hfirst1 code (by omega)]
  · simp only [utf8Write, utf8Tail, Nat.reduceSub, Nat.reduceLT, if_true, or_and_tail,
      Nat.shiftRight_eq_div_pow, Nat.reducePow]
    rw [hfirst2 (code / 64) (by omega)]
  · simp only [utf8Write, utf8Tail, Nat.reduceSub, Nat.reduceLT, if_true, or_and_tail,
      Nat.shiftRight_eq_div_pow, Nat.reducePow, Nat.div_div_eq_div_mul, Nat.reduceMul]
    rw [hfirst3 (code / 4096) (by omega)]
  · simp only [utf8Write, utf8Tail, Nat.reduceSub, Nat.reduceLT, if_true, or_and_tail,
      Nat.shiftRight_eq_div_pow, Nat.reducePow, Nat.div_div_eq_div_mul, Nat.reduceMul]
    rw [hfirst4 (code / 262144) (by omega)]

/-- The code point of a pair, as the source puts it together. -/
theorem pairCode_eq {high low : ℕ} (hhigh : 0xD800 ≤ high ∧ high ≤ 0xDBFF)
    (hlow : 0xDC00 ≤ low ∧ low ≤ 0xDFFF) :
    0x10000 + ((high &&& 0x3FF) <<< 10 ||| low &&& 0x3FF) = pairCode high low := by
  have hmod : ∀ n : ℕ, n &&& 0x3FF = n % 1024 := by
    intro n
    simpa using Nat.and_two_pow_sub_one_eq_mod n 10
  have hlt : low % 1024 < 2 ^ 10 := by omega
  have hor := Nat.shiftLeft_add_eq_or_of_lt hlt (high % 1024)
  have hpair : pairCode high low = 0x10000 + (high % 1024 * 1024 + low % 1024) := by
    unfold pairCode
    omega
  rw [hpair, hmod, hmod, ← hor, Nat.shiftLeft_eq]

theorem isValidChar_unicode {code : ℕ} {ds : List UInt8} (hds : Hex4 code ds)
    (hcode : code < 0xD800 ∨ 0xDFFF < code) : code.isValidChar := by
  have hlt := hex4_lt hds
  rcases hcode with h | h
  · exact .inl h
  · exact .inr ⟨h, by omega⟩

theorem isValidChar_pair {high low : ℕ} (hhigh : 0xD800 ≤ high ∧ high ≤ 0xDBFF)
    (hlow : 0xDC00 ≤ low ∧ low ≤ 0xDFFF) : (pairCode high low).isValidChar := by
  refine .inr ?_
  unfold pairCode
  omega

theorem length_utf8_le {code : ℕ} (h : code.isValidChar) :
    (utf8 code).length ≤ 4 ∧ (code < 0x10000 → (utf8 code).length ≤ 3) := by
  rw [utf8_eq h]
  split_ifs
  · exact ⟨by simp, fun _ => by simp⟩
  · exact ⟨by simp, fun _ => by simp⟩
  · exact ⟨by simp, fun _ => by simp⟩
  · exact ⟨by simp, fun hlt => by omega⟩

/-! ### The first pass -/

/-- The escapes that the first pass counts, from the middle of an escape or not. -/
def skips : Bool → List UInt8 → ℕ
  | _, [] => 0
  | true, _ :: t => skips false t
  | false, c :: t => if c = 92 then skips true t + 1 else skips false t

/-- Is the first pass in the middle of an escape, behind these characters? -/
def inEscape : Bool → List UInt8 → Bool
  | escaped, [] => escaped
  | true, _ :: t => inEscape false t
  | false, c :: t => inEscape (c = 92) t

theorem skips_append (escaped : Bool) (t u : List UInt8) :
    skips escaped (t ++ u) = skips escaped t + skips (inEscape escaped t) u := by
  induction t generalizing escaped with
  | nil => cases escaped <;> simp [skips, inEscape]
  | cons c t ih =>
    cases escaped with
    | true => simp only [List.cons_append, skips, inEscape, ih]
    | false =>
      by_cases hc : c = 92
      · simp only [List.cons_append, skips, inEscape, hc, if_true, decide_true, ih]
        omega
      · simp only [List.cons_append, skips, inEscape, hc, if_false, decide_false, ih]

theorem inEscape_append (escaped : Bool) (t u : List UInt8) :
    inEscape escaped (t ++ u) = inEscape (inEscape escaped t) u := by
  induction t generalizing escaped with
  | nil => rfl
  | cons c t ih => cases escaped <;> simp only [List.cons_append, inEscape, ih]

/-- An escape takes two characters. -/
theorem two_mul_skips_le (t : List UInt8) :
    2 * skips false t ≤ t.length + 1 ∧ 2 * skips true t ≤ t.length := by
  induction t with
  | nil => exact ⟨Nat.zero_le _, Nat.zero_le _⟩
  | cons c t ih =>
    obtain ⟨hfalse, htrue⟩ := ih
    simp only [skips, List.length_cons]
    split <;> omega

/-- A body in which the first pass finds no quote, and which it leaves between two escapes. -/
inductive Paired : List UInt8 → Prop
  | nil : Paired []
  | char {c : UInt8} {t : List UInt8} (hq : c ≠ 34) (hb : c ≠ 92) (h : Paired t) : Paired (c :: t)
  | escape {c : UInt8} {t : List UInt8} (h : Paired t) : Paired (92 :: c :: t)

theorem Paired.inEscape_eq {t : List UInt8} (h : Paired t) : inEscape false t = false := by
  induction h with
  | nil => rfl
  | char hq hb h ih => simpa [inEscape, hb] using ih
  | escape h ih => simpa [inEscape] using ih

theorem scanString_paired {body : List UInt8} (h : Paired body) (rest : List UInt8) :
    scanString false (body ++ 34 :: rest) = some (body.length, skips false body) := by
  induction h with
  | nil => rfl
  | char hq hb h ih => simp [scanString, hq, hb, ih, skips]
  | escape h ih => simp [scanString, ih, skips]

/-- What the first pass stops at; from behind a backslash it passes over one character first. -/
theorem scanString_eq_some {input : List UInt8} {r : ℕ × ℕ} :
    (scanString false input = some r → ∃ body rest, input = body ++ 34 :: rest ∧ Paired body ∧
      r = (body.length, skips false body)) ∧
    (scanString true input = some r → ∃ c body rest, input = c :: (body ++ 34 :: rest) ∧
      Paired body ∧ r = (body.length + 1, skips false body)) := by
  induction input generalizing r with
  | nil =>
    constructor
    · intro h
      cases h
    · intro h
      cases h
  | cons c input ih =>
    constructor
    · intro h
      rw [scanString] at h
      split at h
      · next hq =>
        cases h
        exact ⟨[], input, by rw [hq]; rfl, .nil, rfl⟩
      split at h
      · next hq hb =>
        obtain ⟨r', hr', rfl⟩ := Option.map_eq_some_iff.mp h
        obtain ⟨e, body, rest, rfl, hbody, rfl⟩ := ih.2 hr'
        exact ⟨92 :: e :: body, rest, by rw [hb]; rfl, .escape hbody, by simp [skips]⟩
      · next hq hb =>
        obtain ⟨r', hr', rfl⟩ := Option.map_eq_some_iff.mp h
        obtain ⟨body, rest, rfl, hbody, rfl⟩ := ih.1 hr'
        exact ⟨c :: body, rest, rfl, .char hq hb hbody, by simp [skips, hb]⟩
    · intro h
      obtain ⟨r', hr', rfl⟩ := Option.map_eq_some_iff.mp h
      obtain ⟨body, rest, rfl, hbody, rfl⟩ := ih.1 hr'
      exact ⟨c, body, rest, rfl, hbody, rfl⟩

/-! ### The second pass -/

/-- What the second pass copies at once: a character as the standard has it, or a zero for a code
whose digits are none. -/
inductive Copied : List UInt8 → List UInt8 → Prop
  | char {bytes t : List UInt8} (h : CharText (· ≠ 92) bytes t) : Copied bytes t
  | invalid {ds : List UInt8} (hds : ds.length = 4) (h : ∀ code, ¬ Hex4 code ds) :
    Copied [0] (92 :: 117 :: ds)

theorem Copied.ne_nil {bytes t : List UInt8} (h : Copied bytes t) : t ≠ [] := by
  obtain h | ⟨hds, h⟩ := h
  · cases h <;> exact List.cons_ne_nil _ _
  · exact List.cons_ne_nil _ _

/-- **What is copied at once takes no more room than the first pass has counted for it.** -/
theorem Copied.room {bytes t : List UInt8} (h : Copied bytes t) (escaped : Bool) :
    bytes.length + skips escaped t ≤ t.length := by
  have hskips : 2 * skips escaped t ≤ t.length + 1 := by
    have := two_mul_skips_le t
    cases escaped <;> omega
  obtain h | ⟨hds, h⟩ := h
  · obtain h | h | ⟨hds, hcode⟩ | ⟨hds, hds', hhigh, hlow⟩ := h
    · cases escaped <;> simp [skips, h]
    · simp only [List.length_cons, List.length_nil] at hskips ⊢
      omega
    · have hlen := (length_utf8_le (isValidChar_unicode hds hcode)).2 (hex4_lt hds)
      have := hex4_length hds
      simp only [List.length_cons] at hskips ⊢
      omega
    · have hlen := (length_utf8_le (isValidChar_pair hhigh hlow)).1
      have := hex4_length hds
      have := hex4_length hds'
      simp only [List.length_cons, List.length_append] at hskips ⊢
      omega
  · simp only [List.length_cons, List.length_nil] at hskips ⊢
    omega

theorem lookup_escapes {e c : UInt8} : escapes.lookup e = some c ↔ (e, c) ∈ escapes := by
  constructor
  · intro h
    obtain ⟨before, behind, hsplit, -⟩ := List.lookup_eq_some_iff.mp h
    rw [hsplit]
    exact List.mem_append_right _ List.mem_cons_self
  · intro h
    simp only [escapes, List.mem_cons, Prod.mk.injEq, List.not_mem_nil, or_false] at h
    rcases h with h | h | h | h | h | h | h | h
    all_goals
      obtain ⟨rfl, rfl⟩ := h
      decide

theorem unescapeChar_unicode (left : ℕ) (input : List UInt8) :
    unescapeChar left (92 :: 117 :: input) = utf16LiteralToUtf8 (92 :: 117 :: input) left := by
  have hu : escapes.lookup (117 : UInt8) = none := by decide
  simp [unescapeChar, hu]

/-- A code that is no surrogate. -/
theorem utf16LiteralToUtf8_code {code left : ℕ} {ds u : List UInt8}
    (hparse : parseHex4 (ds ++ u) = some code) (hvalid : code.isValidChar) (hleft : 6 ≤ left) :
    utf16LiteralToUtf8 (92 :: 117 :: (ds ++ u)) left = some (utf8 code, 6) := by
  have hcode : code < 0xD800 ∨ 0xDFFF < code := hvalid.imp id And.left
  rw [utf16LiteralToUtf8, if_neg (by omega)]
  simp only [List.drop_succ_cons, List.drop_zero, hparse]
  rw [if_neg (by omega), if_neg (by omega), utf8Encode_eq hvalid]

/-- A high surrogate is read together with what follows it. -/
theorem utf16LiteralToUtf8_high {high left : ℕ} {ds : List UInt8} (hds : Hex4 high ds)
    (hhigh : 0xD800 ≤ high ∧ high ≤ 0xDBFF) (hleft : 12 ≤ left) (second : List UInt8) :
    utf16LiteralToUtf8 (92 :: 117 :: (ds ++ second)) left = utf16Pair high second := by
  have hdrop : (ds ++ second).drop 4 = second := List.drop_left' (hex4_length hds)
  rw [utf16LiteralToUtf8, if_neg (by omega)]
  simp only [List.drop_succ_cons, List.drop_zero, parseHex4_append hds, hdrop]
  rw [if_neg (by omega), if_pos hhigh, if_neg (by omega)]

theorem utf16Pair_low {high low : ℕ} {ds' : List UInt8} (hhigh : 0xD800 ≤ high ∧ high ≤ 0xDBFF)
    (hds' : Hex4 low ds') (hlow : 0xDC00 ≤ low ∧ low ≤ 0xDFFF) (u : List UInt8) :
    utf16Pair high (92 :: 117 :: (ds' ++ u)) = some (utf8 (pairCode high low), 12) := by
  rw [utf16Pair, if_neg (by simp)]
  simp only [parseHex4_append hds']
  rw [if_neg (by omega), pairCode_eq hhigh hlow, utf8Encode_eq (isValidChar_pair hhigh hlow)]

/-- Whatever follows a high surrogate, it is a low one or the copy fails. -/
theorem utf16Pair_cases (high : ℕ) {second : List UInt8} (hlen : 6 ≤ second.length)
    (rest : List UInt8) :
    utf16Pair high (second ++ rest) = some ([], 0) ∨
    ∃ low ds' u, second = 92 :: 117 :: (ds' ++ u) ∧ Hex4 low ds' ∧ 0xDC00 ≤ low ∧ low ≤ 0xDFFF := by
  obtain ⟨c, e, ds', u, rfl, hds'⟩ :
      ∃ c e ds' u, second = c :: e :: (ds' ++ u) ∧ ds'.length = 4 := by
    rcases second with _ | ⟨c, _ | ⟨e, second⟩⟩
    · simp at hlen
    · simp at hlen
    · simp only [List.length_cons] at hlen
      exact ⟨c, e, second.take 4, second.drop 4, by rw [List.take_append_drop], by simp; omega⟩
  by_cases hesc : c ≠ 92 ∨ e ≠ 117
  · exact .inl (by simp only [List.cons_append, utf16Pair, if_pos hesc])
  obtain ⟨rfl, rfl⟩ : c = 92 ∧ e = 117 := by simpa using hesc
  simp only [List.cons_append, List.append_assoc, utf16Pair, if_neg hesc]
  by_cases hhex : ∃ low, Hex4 low ds'
  · obtain ⟨low, hlow⟩ := hhex
    by_cases hrange : low < 0xDC00 ∨ 0xDFFF < low
    · exact .inl (by simp only [parseHex4_append hlow, if_pos hrange])
    · exact .inr ⟨low, ds', u, rfl, hlow, by omega⟩
  · refine .inl ?_
    simp only [parseHex4_invalid hds' fun low h => hhex ⟨low, h⟩]
    rfl

/-- What is copied at once is read and written so. -/
theorem unescapeChar_copied {bytes t : List UInt8} (h : Copied bytes t) {left : ℕ}
    (hleft : t.length ≤ left) (u : List UInt8) :
    unescapeChar left (t ++ u) = some (bytes, t.length) := by
  obtain h | ⟨hds, h⟩ := h
  · obtain h | h | ⟨hds, hcode⟩ | ⟨hds, hds', hhigh, hlow⟩ := h
    · simp [unescapeChar, h]
    · simp [unescapeChar, lookup_escapes.mpr h]
    · simp only [List.length_cons, hex4_length hds] at hleft ⊢
      rw [List.cons_append, List.cons_append, unescapeChar_unicode,
        utf16LiteralToUtf8_code (parseHex4_append hds u) (isValidChar_unicode hds hcode) hleft]
    · simp only [List.length_cons, List.length_append, hex4_length hds, hex4_length hds']
        at hleft ⊢
      simp only [List.cons_append, List.append_assoc]
      rw [unescapeChar_unicode, utf16LiteralToUtf8_high hds hhigh (by omega),
        utf16Pair_low hhigh hds' hlow]
  · simp only [List.length_cons, hds] at hleft ⊢
    rw [List.cons_append, List.cons_append, unescapeChar_unicode,
      utf16LiteralToUtf8_code (parseHex4_invalid hds h u) (.inl (by decide)) hleft]
    rfl

/-- The second pass at any place of a body: it fails, it copies, or it is at a backslash which the
first pass has passed over as escaped, and which it takes together with the closing quote. -/
theorem unescapeChar_cases {s : List UInt8} (hs : s ≠ []) (rest : List UInt8) :
    unescapeChar s.length (s ++ 34 :: rest) = some ([], 0) ∨
    (∃ bytes t u, s = t ++ u ∧ Copied bytes t) ∨ s = [92] := by
  obtain ⟨c, s, rfl⟩ := List.exists_cons_of_ne_nil hs
  by_cases hc : c = 92
  swap
  · exact .inr (.inl ⟨[c], [c], s, rfl, .char (.plain hc)⟩)
  subst hc
  rcases s with _ | ⟨e, s⟩
  · exact .inr (.inr rfl)
  cases hlookup : escapes.lookup e with
  | some byte =>
    exact .inr (.inl ⟨[byte], [92, e], s, rfl,
      .char (.escape (lookup_escapes.mp hlookup))⟩)
  | none =>
    by_cases he : e = 117
    swap
    · exact .inl (by simp [unescapeChar, hlookup, he])
    subst he
    rw [List.cons_append, List.cons_append, unescapeChar_unicode]
    by_cases hlen : s.length < 4
    · refine .inl ?_
      rw [utf16LiteralToUtf8, if_pos (by simp only [List.length_cons]; omega)]
    -- four characters stand behind `\u`
    obtain ⟨ds, u, rfl, hds⟩ : ∃ ds u, s = ds ++ u ∧ ds.length = 4 :=
      ⟨s.take 4, s.drop 4, (List.take_append_drop 4 s).symm, by simp; omega⟩
    by_cases hhex : ∃ code, Hex4 code ds
    swap
    · exact .inr (.inl ⟨[0], 92 :: 117 :: ds, u, rfl,
        .invalid hds fun code h => hhex ⟨code, h⟩⟩)
    obtain ⟨code, hcode⟩ := hhex
    by_cases hsurrogate : code < 0xD800 ∨ 0xDFFF < code
    · exact .inr (.inl ⟨utf8 code, 92 :: 117 :: ds, u, rfl,
        .char (.unicode hcode hsurrogate)⟩)
    rw [List.append_assoc]
    by_cases hhigh : 0xD800 ≤ code ∧ code ≤ 0xDBFF
    swap
    · refine .inl ?_
      rw [utf16LiteralToUtf8, if_neg (by simp only [List.length_cons, List.length_append]; omega)]
      simp only [List.drop_succ_cons, List.drop_zero, parseHex4_append hcode]
      rw [if_pos (by omega)]
    by_cases hlen' : u.length < 6
    · refine .inl ?_
      rw [utf16LiteralToUtf8, if_neg (by simp only [List.length_cons, List.length_append]; omega)]
      simp only [List.drop_succ_cons, List.drop_zero, parseHex4_append hcode]
      rw [if_neg (by omega), if_pos hhigh,
        if_pos (by simp only [List.length_cons, List.length_append]; omega)]
    rw [utf16LiteralToUtf8_high hcode hhigh
      (by simp only [List.length_cons, List.length_append]; omega)]
    obtain hfail | ⟨low, ds', v, rfl, hlow, hrange⟩ :=
      utf16Pair_cases code (not_lt.mp hlen') (34 :: rest)
    · exact .inl hfail
    · exact .inr (.inl ⟨_, 92 :: 117 :: (ds ++ 92 :: 117 :: ds'), v, by simp,
        .char (.pair hcode hlow hhigh hrange)⟩)

/-- The bodies that can be copied: characters one after another, and perhaps a backslash at the end.
-/
inductive Lenient : List UInt8 → List UInt8 → Prop
  | nil : Lenient [] []
  | cons {bytes t s u : List UInt8} (h : Copied bytes t) (hrest : Lenient s u) :
    Lenient (bytes ++ s) (t ++ u)
  | quote : Lenient [34] [92]

/-- A round of the second pass.  The room for what is left is counted by the first pass. -/
theorem unescape_copied {size room fuel : ℕ} (hroom : room < size) {bytes t : List UInt8}
    (h : Copied bytes t) {u output : List UInt8} (rest : List UInt8) {escaped : Bool}
    (hlen : output.length + (t ++ u).length ≤ room + skips escaped (t ++ u)) :
    unescape size (fuel + 1) (t ++ u).length (t ++ u ++ 34 :: rest) output =
      unescape size fuel u.length (u ++ 34 :: rest) (output ++ bytes) ∧
    (output ++ bytes).length + u.length ≤ room + skips (inEscape escaped t) u := by
  have hneeds := h.room escaped
  have hleft := (two_mul_skips_le u)
  rw [skips_append, List.length_append] at hlen
  have hfits : (output ++ bytes).length + u.length ≤ room + skips (inEscape escaped t) u := by
    rw [List.length_append]
    omega
  refine ⟨?_, hfits⟩
  have hwrite : ¬ size < output.length + bytes.length := by
    have : skips (inEscape escaped t) u ≤ u.length := by
      cases inEscape escaped t <;> omega
    rw [List.length_append] at hfits
    omega
  have hchar := unescapeChar_copied h (show t.length ≤ (t ++ u).length by simp) (u ++ 34 :: rest)
  obtain ⟨c, t, rfl⟩ := List.exists_cons_of_ne_nil h.ne_nil
  simp only [List.cons_append, List.length_cons, List.append_assoc] at hchar ⊢
  rw [unescape, hchar]
  simp only [Nat.succ_ne_zero, if_false, if_neg hwrite, List.drop_succ_cons, List.drop_left]
  congr 1
  rw [List.length_append]
  omega

@[simp] theorem unescape_zero (size fuel : ℕ) (input output : List UInt8) :
    unescape size fuel 0 input output = some (.done output) := by
  cases fuel <;> rfl

/-- At a backslash that the first pass has passed over, the closing quote is copied. -/
theorem unescape_quote {size room fuel : ℕ} (hroom : room < size) (rest : List UInt8)
    {output : List UInt8} (hlen : output.length + 1 ≤ room) :
    unescape size (fuel + 1) 1 (92 :: 34 :: rest) output = some (.done (output ++ [34])) := by
  have hchar : unescapeChar 1 (92 :: 34 :: rest) = some ([34], 2) := rfl
  rw [unescape, hchar]
  simp only [OfNat.ofNat_ne_zero, if_false, List.length_singleton,
    if_neg (show ¬ size < output.length + 1 by omega)]
  exact unescape_zero _ _ _ _

theorem skips_nil (escaped : Bool) : skips escaped [] = 0 := by cases escaped <;> rfl

/-- The second pass over a body that can be copied. -/
theorem unescape_lenient {size room : ℕ} (hroom : room < size) {bytes s : List UInt8}
    (h : Lenient bytes s) (rest : List UInt8) {fuel : ℕ} (hfuel : s.length ≤ fuel)
    {output : List UInt8} {escaped : Bool} (hescaped : inEscape escaped s = false)
    (hlen : output.length + s.length ≤ room + skips escaped s) :
    unescape size fuel s.length (s ++ 34 :: rest) output = some (.done (output ++ bytes)) ∧
      (output ++ bytes).length ≤ room := by
  induction h generalizing fuel output escaped with
  | nil =>
    rw [skips_nil] at hlen
    simp only [List.length_nil, unescape_zero, List.append_nil, true_and]
    exact hlen
  | @cons bytes t s u h hrest ih =>
    have hpos := List.length_pos_iff.mpr h.ne_nil
    rw [List.length_append] at hfuel
    obtain ⟨fuel, rfl⟩ : ∃ k, fuel = k + 1 := ⟨fuel - 1, by omega⟩
    obtain ⟨hround, hlen'⟩ := unescape_copied hroom h rest hlen
    rw [inEscape_append] at hescaped
    rw [hround, ← List.append_assoc]
    exact ih (by omega) hescaped hlen'
  | quote =>
    obtain ⟨fuel, rfl⟩ : ∃ k, fuel = k + 1 := ⟨fuel - 1, by simp at hfuel; omega⟩
    cases escaped with
    | false => cases hescaped
    | true =>
      have hlen' : output.length + 1 ≤ room := hlen
      exact ⟨unescape_quote hroom rest hlen', by rw [List.length_append]; exact hlen'⟩

/-- The second pass over any body ends, and what it has copied is what the body stands for. -/
theorem unescape_cases {size room : ℕ} (hroom : room < size) (rest : List UInt8) (fuel : ℕ)
    {s : List UInt8} (hfuel : s.length ≤ fuel) {output : List UInt8} {escaped : Bool}
    (hescaped : inEscape escaped s = false)
    (hlen : output.length + s.length ≤ room + skips escaped s) :
    (∃ left, unescape size fuel s.length (s ++ 34 :: rest) output = some (.fail left)) ∨
      ∃ bytes, Lenient bytes s := by
  induction fuel generalizing s output escaped with
  | zero =>
    cases List.length_eq_zero_iff.mp (Nat.le_zero.mp hfuel)
    exact .inr ⟨[], .nil⟩
  | succ fuel ih =>
    rcases eq_or_ne s [] with rfl | hs
    · exact .inr ⟨[], .nil⟩
    obtain hfail | ⟨bytes, t, u, rfl, h⟩ | rfl := unescapeChar_cases hs rest
    · obtain ⟨c, s, rfl⟩ := List.exists_cons_of_ne_nil hs
      refine .inl ⟨s.length + 1, ?_⟩
      simp only [List.length_cons] at hfail ⊢
      rw [unescape, hfail]
      rfl
    · have hpos := List.length_pos_iff.mpr h.ne_nil
      rw [List.length_append] at hfuel
      obtain ⟨hround, hlen'⟩ := @unescape_copied _ _ fuel hroom _ _ h _ _ rest _ hlen
      rw [inEscape_append] at hescaped
      obtain ⟨left, hleft⟩ | ⟨bytes', h'⟩ := ih (by omega) hescaped hlen'
      · exact .inl ⟨left, by rw [hround, hleft]⟩
      · exact .inr ⟨bytes ++ bytes', .cons h h'⟩
    · exact .inr ⟨[34], .quote⟩

/-! ### `parse_string` -/

/-- A body as `parse_string` accepts it. -/
def AcceptedBody (bytes body : List UInt8) : Prop := Paired body ∧ Lenient bytes body

/-- A body that can be copied is copied. -/
theorem parseString_accepted {b : ParseBuffer} {bytes body rest : List UInt8}
    (h : AcceptedBody bytes body) (hrest : b.rest = 34 :: (body ++ 34 :: rest)) :
    parseString b = .ok bytes (b.advance (body.length + 2)) := by
  obtain ⟨hpaired, hlenient⟩ := h
  have hskips := (two_mul_skips_le body).1
  have hle : skips false body ≤ body.length := by
    rcases body with _ | ⟨c, body⟩
    · exact Nat.le_refl 0
    · simp only [List.length_cons] at hskips ⊢
      omega
  have hroom : body.length - skips false body < body.length + 1 - skips false body + 1 := by omega
  have hlen : ([] : List UInt8).length + body.length ≤
      body.length - skips false body + skips false body := by
    rw [List.length_nil]
    omega
  obtain ⟨hcopy, hfits⟩ := unescape_lenient hroom hlenient rest (Nat.le_refl _)
    hpaired.inEscape_eq hlen
  rw [List.nil_append] at hcopy hfits
  simp only [parseString, hrest, ne_eq, not_true_eq_false, if_false, scanString_paired hpaired,
    hcopy]
  rw [if_neg (by omega)]

/-- **`parse_string` reads and writes within the memory on any text**, and what it accepts is a
quoted body that can be copied. -/
theorem parseString_sound {b : ParseBuffer} {c : UInt8} {input : List UInt8}
    (hrest : b.rest = c :: input) :
    (∃ b', parseString b = .fail b') ∨
      ∃ bytes body rest, c = 34 ∧ input = body ++ 34 :: rest ∧ AcceptedBody bytes body ∧
        parseString b = .ok bytes (b.advance (body.length + 2)) := by
  by_cases hquote : c = 34
  swap
  · exact .inl ⟨b.advance 1, by simp only [parseString, hrest, ne_eq, hquote, not_false_eq_true,
      if_true]⟩
  subst hquote
  cases hscan : scanString false input with
  | none =>
    exact .inl ⟨b.advance 1, by simp only [parseString, hrest, ne_eq, not_true_eq_false, if_false,
      hscan]⟩
  | some r =>
    obtain ⟨body, rest, rfl, hpaired, rfl⟩ := scanString_eq_some.1 hscan
    have hskips := (two_mul_skips_le body).1
    have hroom : body.length - skips false body < body.length + 1 - skips false body + 1 := by omega
    have hlen : ([] : List UInt8).length + body.length ≤
        body.length - skips false body + skips false body := by
      rw [List.length_nil]
      omega
    obtain ⟨left, hleft⟩ | ⟨bytes, hlenient⟩ := unescape_cases hroom rest body.length
      (Nat.le_refl _) hpaired.inEscape_eq hlen
    · exact .inl ⟨b.advance (1 + body.length - left), by simp only [parseString, hrest, ne_eq,
        not_true_eq_false, if_false, hscan, hleft]⟩
    · have haccepted : AcceptedBody bytes body := ⟨hpaired, hlenient⟩
      exact .inr ⟨bytes, body, rest, rfl, rfl, haccepted, parseString_accepted haccepted hrest⟩

/-! ### Strings of the standard -/

theorem charText_copied {bytes t : List UInt8} (h : CharText isPlain bytes t) : Copied bytes t := by
  refine .char ?_
  cases h with
  | plain h => exact .plain h.2.2
  | escape h => exact .escape h
  | unicode hds hcode => exact .unicode hds hcode
  | pair hds hds' hhigh hlow => exact .pair hds hds' hhigh hlow

theorem lenient_of_concat {bytes body : List UInt8} (h : Concat (CharText isPlain) bytes body) :
    Lenient bytes body := by
  induction h with
  | nil => exact .nil
  | cons h hrest ih => exact .cons (charText_copied h) ih

theorem hexValue_ne {c : UInt8} {d : ℕ} (h : hexValue c = some d) : c ≠ 34 ∧ c ≠ 92 := by
  constructor
  · rintro rfl
    cases h
  · rintro rfl
    cases h

theorem paired_hex4 {code : ℕ} {ds t : List UInt8} (hds : Hex4 code ds) (h : Paired t) :
    Paired (ds ++ t) := by
  obtain ⟨ha, hb, hc, hd⟩ := hds
  have ha := hexValue_ne ha
  have hb := hexValue_ne hb
  have hc := hexValue_ne hc
  have hd := hexValue_ne hd
  exact .char ha.1 ha.2 (.char hb.1 hb.2 (.char hc.1 hc.2 (.char hd.1 hd.2 h)))

theorem paired_charText {bytes t u : List UInt8} (h : CharText isPlain bytes t) (hu : Paired u) :
    Paired (t ++ u) := by
  cases h with
  | plain h => exact .char h.2.1 h.2.2 hu
  | escape h => exact .escape hu
  | unicode hds hcode => exact .escape (paired_hex4 hds hu)
  | pair hds hds' hhigh hlow =>
    simp only [List.cons_append, List.append_assoc]
    exact .escape (paired_hex4 hds (.escape (paired_hex4 hds' hu)))

/-- A string as the standard writes it is copied as the bytes it stands for. -/
theorem accepted_of_concat {bytes body : List UInt8} (h : Concat (CharText isPlain) bytes body) :
    AcceptedBody bytes body := by
  refine ⟨?_, lenient_of_concat h⟩
  induction h with
  | nil => exact .nil
  | cons h hrest ih => exact paired_charText h ih

end CameraDaemon
