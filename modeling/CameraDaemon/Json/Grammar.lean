import CameraDaemon.Json.Strings

/-!
# What `cJSON_Parse` accepts

The parser is compared with the grammar of JSON texts.  What it accepts is a text of the grammar
with lexical parts of its own: white space is any byte up to 32, a numeral may lack the digits on
one side of its point, and the bodies of strings are those that can be copied.  What follows the
text is not looked at.

The proof follows the structure of the grammar: a function of the parser is sound for a relation
between values and texts, and the loop over the parts of an array or an object is so when the
function for the parts is.

## Main definitions

* `ParseBuffer.Before` — the text between the offset and the terminator.
* `cJSONLexicon` — the lexical parts of what is accepted.
* `Sound` — a function of the parser fails, or it has read a text of a relation.
* `Begins` — a string begins with a text of a value.

## Main results

* `cJSONParseWithOpts_isSome` — **no text makes the parser read or write where it must not, or run
  forever.**
* `begins_of_cJSONParse` — what is accepted begins with a text of the grammar, and the item is its
  value.
-/

namespace CameraDaemon

open CString Json Strtod

/-! ### The buffer -/

namespace ParseBuffer

@[simp] theorem advance_zero (b : ParseBuffer) : b.advance 0 = b := rfl

@[simp] theorem advance_advance (b : ParseBuffer) (m n : ℕ) :
    (b.advance m).advance n = b.advance (m + n) := by
  simp [advance, Nat.add_assoc]

/-- What is left behind a text that has been read. -/
theorem rest_advance {b : ParseBuffer} {t u : List UInt8} (h : b.rest = t ++ u) :
    (b.advance t.length).rest = u := by
  have hdrop : (b.advance t.length).rest = b.rest.drop t.length := by
    simp [rest, advance, List.drop_drop]
  rw [hdrop, h, List.drop_left]

theorem length_rest (b : ParseBuffer) : b.rest.length = b.content.length - b.offset :=
  List.length_drop

/-- The text `s` stands between the offset and the terminator. -/
structure Before (b : ParseBuffer) (s : List UInt8) : Prop where
  rest : b.rest = s ++ [0]
  nonzero : ∀ c ∈ s, c ≠ 0

theorem Before.advance {b : ParseBuffer} {t s : List UInt8} (h : b.Before (t ++ s)) :
    (b.advance t.length).Before s where
  rest := rest_advance (by rw [h.rest, List.append_assoc])
  nonzero := fun c hc => h.nonzero c (List.mem_append_right t hc)

theorem Before.length_eq {b : ParseBuffer} {s : List UInt8} (h : b.Before s) :
    b.offset + s.length + 1 = b.content.length := by
  have hlen := b.length_rest
  rw [h.rest, List.length_append, List.length_singleton] at hlen
  omega

theorem at0_iff {b : ParseBuffer} {s : List UInt8} (h : b.Before s) {c : UInt8} (hc : c ≠ 0) :
    b.at0 c = true ↔ ∃ u, s = c :: u := by
  rw [at0, h.rest, decide_eq_true_eq]
  cases s with
  | nil =>
    constructor
    · intro hhead
      exact absurd (Option.some.inj hhead).symm hc
    · rintro ⟨u, hu⟩
      cases hu
  | cons d s => simp

theorem at0_of_rest {b : ParseBuffer} {c d : UInt8} {u : List UInt8} (h : b.rest = d :: u) :
    b.at0 c = decide (d = c) := by
  simp [at0, h]

end ParseBuffer

open ParseBuffer

/-- Jumping over white space leaves the text behind it. -/
theorem bufferSkipWhitespace_before {b : ParseBuffer} {s : List UInt8} (h : b.Before s) :
    ∃ w u, s = w ++ u ∧ (∀ c ∈ w, isWhitespace c) ∧
      bufferSkipWhitespace b = b.advance w.length ∧ (b.advance w.length).Before u := by
  have hlen := h.length_eq
  have hsplit : s = s.takeWhile isWhitespace ++ s.dropWhile isWhitespace :=
    List.takeWhile_append_dropWhile.symm
  have hbefore :
      (b.advance (s.takeWhile isWhitespace).length).Before (s.dropWhile isWhitespace) := by
    apply Before.advance
    rwa [← hsplit]
  refine ⟨_, _, hsplit, fun c hc => List.mem_takeWhile_imp hc, ?_, hbefore⟩
  rw [bufferSkipWhitespace, h.rest, List.takeWhile_append]
  split
  · next hall =>
    -- the terminator is jumped over too, and the offset steps back
    have hzero : [(0 : UInt8)].takeWhile isWhitespace = [0] := by decide
    simp only [hzero, List.length_append, List.length_singleton, ParseBuffer.advance]
    rw [if_pos (by omega), hall]
    rfl
  · next hall =>
    have hle : (s.takeWhile isWhitespace).length ≤ s.length := (List.takeWhile_sublist _).length_le
    exact if_neg (show ¬ b.offset + _ = b.content.length by omega)

/-- White space in front of something else is jumped over. -/
theorem bufferSkipWhitespace_append {b : ParseBuffer} {w u : List UInt8} {c : UInt8}
    (hw : ∀ c ∈ w, isWhitespace c) (hc : isWhitespace c = false) (h : b.rest = w ++ c :: u) :
    bufferSkipWhitespace b = b.advance w.length := by
  have hlen := b.length_rest
  rw [h, List.length_append, List.length_cons] at hlen
  rw [bufferSkipWhitespace, h, List.takeWhile_append_of_pos hw,
    List.takeWhile_cons_of_neg (by simp [hc]), List.append_nil]
  exact if_neg (show ¬ b.offset + w.length = b.content.length by omega)

/-- A text without a terminator at its end is read before the terminator. -/
theorem before_of_append {s t u : List UInt8} (h : s ++ [0] = t ++ u) (ht : t.getLast? ≠ some 0) :
    ∃ v, s = t ++ v ∧ u = v ++ [0] := by
  rcases List.append_eq_append_iff.mp h with ⟨a, rfl, ha⟩ | ⟨a, rfl, ha⟩
  · rcases a with _ | ⟨c, a⟩
    · exact ⟨[], by simp, by simpa using ha.symm⟩
    · obtain ⟨rfl, hnil⟩ := List.cons.inj ha
      obtain ⟨rfl, rfl⟩ := List.append_eq_nil_iff.mp hnil.symm
      simp at ht
  · exact ⟨a, rfl, ha⟩

/-! ### Words -/

/-- `strncmp` over the length of both finds them equal. -/
theorem eq_of_strncmpEq {as bs : List UInt8} (hlen : as.length = bs.length) (hbs : ∀ c ∈ bs, c ≠ 0)
    (h : strncmpEq as bs = true) : as = bs := by
  induction as generalizing bs with
  | nil => exact (List.length_eq_zero_iff.mp hlen.symm).symm
  | cons a as ih =>
    cases bs with
    | nil => cases hlen
    | cons b bs =>
      rw [strncmpEq] at h
      split at h
      · cases h
      · next hab =>
        have hab : a = b := not_not.mp hab
        rw [if_neg (hab ▸ hbs b List.mem_cons_self)] at h
        rw [hab, ih (Nat.succ.inj hlen) (fun c hc => hbs c (List.mem_cons_of_mem b hc)) h]

theorem reads_of_rest {b : ParseBuffer} {word : String} {u : List UInt8}
    (hne : ascii word ≠ []) (hword : ∀ c ∈ ascii word, c ≠ 0) (h : b.rest = ascii word ++ u) :
    b.reads word = true := by
  have hlen := b.length_rest
  have hpos := List.length_pos_iff.mpr hne
  rw [h, List.length_append] at hlen
  have heq : strncmpEq ((ascii word ++ u).take (ascii word).length) (ascii word) = true := by
    rw [List.take_left]
    exact (strncmpEq_iff hword _).mpr (List.prefix_refl _)
  simp only [reads, h, heq, decide_eq_true_eq, and_true]
  omega

/-- What a comparison has found stands before the terminator. -/
theorem before_of_strncmpEq {b : ParseBuffer} {s : List UInt8} (h : b.Before s) {word : List UInt8}
    (hword : ∀ c ∈ word, c ≠ 0) (hcan : b.offset + word.length ≤ b.content.length)
    (hcmp : strncmpEq (b.rest.take word.length) word = true) : ∃ u, s = word ++ u := by
  have htake : (b.rest.take word.length).length = word.length := by
    rw [List.length_take, length_rest]
    omega
  have heq := eq_of_strncmpEq htake hword hcmp
  have hsplit : s ++ [0] = word ++ b.rest.drop word.length := by
    rw [← h.rest]
    conv_lhs => rw [← List.take_append_drop word.length b.rest, heq]
  have hlast : word.getLast? ≠ some 0 := fun hlast => hword 0 (List.mem_of_getLast? hlast) rfl
  obtain ⟨u, hu, -⟩ := before_of_append hsplit hlast
  exact ⟨u, hu⟩

theorem rest_of_reads {b : ParseBuffer} {s : List UInt8} (h : b.Before s) {word : String}
    (hword : ∀ c ∈ ascii word, c ≠ 0) (hreads : b.reads word = true) :
    ∃ u, s = ascii word ++ u := by
  simp only [reads, decide_eq_true_eq] at hreads
  exact before_of_strncmpEq h hword hreads.1 hreads.2

/-! ### Soundness -/

/-- The lexical parts of what is accepted. -/
def cJSONLexicon : Lexicon CJsonNumber where
  space c := isWhitespace c
  str := AcceptedBody
  num v t := ∃ n : Numeral, n.sign ≠ some false ∧ (n.sign = some true ∨ n.integer ≠ []) ∧
    n.text.length ≤ numberWidth ∧ v = .ofDouble (toDouble n.value) ∧ t = n.text

/-- An outcome that is a failure, or that has read a text of the relation. -/
def Parsed.SoundAt {α : Type} (r : Parsed α) (b : ParseBuffer) (s : List UInt8)
    (R : α → List UInt8 → Prop) : Prop :=
  (∃ b', r = .fail b') ∨
    ∃ v t u, s = t ++ u ∧ t ≠ [] ∧ R v t ∧ r = .ok v (b.advance t.length)

/-- A function that does so on every text. -/
def Sound {α : Type} (parse : ParseBuffer → Parsed α) (R : α → List UInt8 → Prop) : Prop :=
  ∀ b s, b.Before s → (parse b).SoundAt b s R

theorem Parsed.SoundAt.map {α β : Type} {r : Parsed α} {b : ParseBuffer} {s : List UInt8}
    {R : α → List UInt8 → Prop} {S : β → List UInt8 → Prop} (f : α → β)
    (h : r.SoundAt b s R) (hRS : ∀ v t, R v t → S (f v) t) : (r.map f).SoundAt b s S := by
  obtain ⟨b', rfl⟩ | ⟨v, t, u, hs, ht, hR, rfl⟩ := h
  · exact .inl ⟨b', rfl⟩
  · exact .inr ⟨f v, t, u, hs, ht, hRS v t hR, rfl⟩

theorem sound_parseString : Sound parseString cJSONLexicon.Quoted := by
  intro b s h
  obtain ⟨c, input, hcons⟩ : ∃ c input, s ++ [0] = c :: input :=
    List.exists_cons_of_ne_nil (List.concat_ne_nil _ _)
  obtain ⟨b', hfail⟩ | ⟨bytes, body, rest, rfl, rfl, hbody, hok⟩ :=
    parseString_sound (h.rest.trans hcons)
  · exact .inl ⟨b', hfail⟩
  · have hsplit : s ++ [0] = (34 :: (body ++ [34])) ++ rest := by rw [hcons]; simp
    obtain ⟨u, hu, -⟩ := before_of_append hsplit
      (by rw [← List.cons_append, List.getLast?_concat]; decide)
    refine .inr ⟨bytes, _, u, hu, List.cons_ne_nil _ _, ⟨body, hbody, rfl⟩, ?_⟩
    rw [hok]
    simp

theorem isNumberChar_ne_zero {c : UInt8} (h : isNumberChar c = true) : c ≠ 0 := by
  rintro rfl
  exact absurd h (by decide)

theorem numeral_text_ne_nil (n : Numeral) : n.text ≠ [] := by
  intro hnil
  simp only [Numeral.text, List.append_eq_nil_iff] at hnil
  obtain ⟨-, hinteger, hfraction, -⟩ := hnil
  rcases n.has_digit with h | h
  · exact h hinteger
  · cases hf : n.fraction with
    | none => rw [hf] at h; exact h rfl
    | some ds => rw [hf] at hfraction; cases hfraction

/-- A numeral that begins with a minus or a digit. -/
theorem numeral_head {n : Numeral} {c : UInt8} {t : List UInt8} (hc : c = 45 ∨ isDigit c = true)
    (h : n.text = c :: t) : n.sign ≠ some false ∧ (n.sign = some true ∨ n.integer ≠ []) := by
  have hplus : c ≠ 43 := by
    rintro rfl
    exact absurd hc (by decide)
  have hpoint : c ≠ 46 := by
    rintro rfl
    exact absurd hc (by decide)
  constructor
  · intro hsign
    rw [Numeral.text, hsign] at h
    exact hplus (List.cons.inj h).1.symm
  · by_contra hnone
    obtain ⟨hsign, hinteger⟩ := not_or.mp hnone
    have hinteger : n.integer = [] := not_not.mp hinteger
    cases hfraction : n.fraction with
    | none =>
      have hdigit := n.has_digit
      simp [hinteger, hfraction] at hdigit
    | some ds =>
      rw [Numeral.text, hinteger, hfraction] at h
      cases hs : n.sign with
      | none =>
        rw [hs] at h
        exact hpoint (List.cons.inj h).1.symm
      | some minus =>
        cases minus with
        | true => exact hsign hs
        | false =>
          rw [hs] at h
          exact hplus (List.cons.inj h).1.symm

theorem soundAt_parseNumber {b : ParseBuffer} {c : UInt8} {s : List UInt8} (h : b.Before (c :: s))
    (hc : c = 45 ∨ isDigit c = true) : (parseNumber b).SoundAt b (c :: s) cJSONLexicon.num := by
  rw [parseNumber]
  cases hread : strtod ((b.rest.take numberWidth).takeWhile isNumberChar) with
  | none => exact .inl ⟨b, rfl⟩
  | some r =>
    obtain ⟨number, afterEnd⟩ := r
    obtain ⟨n, htext, rfl⟩ := strtod_eq_some hread
    -- the numeral is a part of what was copied
    have hcopied : ((b.rest.take numberWidth).takeWhile isNumberChar) <+: b.rest :=
      (List.takeWhile_prefix _).trans (List.take_prefix _ _)
    have hwidth : ((b.rest.take numberWidth).takeWhile isNumberChar).length ≤ numberWidth :=
      (List.takeWhile_sublist _).length_le.trans (List.length_take_le _ _)
    obtain ⟨behind, hbehind⟩ := hcopied
    have hsplit : c :: s ++ [0] = n.text ++ (afterEnd ++ behind) := by
      rw [← h.rest, ← hbehind, htext, List.append_assoc]
    have hlast : n.text.getLast? ≠ some 0 := by
      intro hlast
      have hmem : (0 : UInt8) ∈ (b.rest.take numberWidth).takeWhile isNumberChar := by
        rw [htext]
        exact List.mem_append_left _ (List.mem_of_getLast? hlast)
      exact isNumberChar_ne_zero (List.mem_takeWhile_imp hmem) rfl
    obtain ⟨u, hu, -⟩ := before_of_append hsplit hlast
    obtain ⟨d, t, ht⟩ := List.exists_cons_of_ne_nil (numeral_text_ne_nil n)
    have hdc : d = c := by
      rw [ht] at hu
      exact (List.cons.inj hu).1.symm
    obtain ⟨hsign, hinteger⟩ := numeral_head (hdc ▸ hc) ht
    have hlen := congrArg List.length htext
    rw [List.length_append] at hlen
    refine .inr ⟨_, n.text, u, hu, numeral_text_ne_nil n,
      ⟨n, hsign, hinteger, by omega, rfl, rfl⟩, ?_⟩
    simp only [hlen, Nat.add_sub_cancel]

/-- White space in front of the first part. -/
theorem separated_spaces {ν α : Type} {L : Lexicon ν} {P : α → List UInt8 → Prop} {vs : List α}
    {w t : List UInt8} (hw : L.Spaces w) (h : L.Separated P vs t) : L.Separated P vs (w ++ t) := by
  have happend : ∀ {w' : List UInt8}, L.Spaces w' → L.Spaces (w ++ w') := by
    intro w' hw' c hc
    exact (List.mem_append.mp hc).elim (hw c) (hw' c)
  cases h with
  | last hw₁ h hw' =>
    rw [← List.append_assoc]
    exact .last (happend hw₁) h hw'
  | cons hw₁ h hw' hrest =>
    rw [← List.append_assoc]
    exact .cons (happend hw₁) h hw' hrest

/-- The last character of a text that is not empty. -/
theorem exists_concat_of_cons (c : UInt8) (w : List UInt8) :
    ∃ pre d, c :: w = pre ++ [d] ∧ pre.length = w.length := by
  refine ⟨_, _, (List.dropLast_append_getLast (List.cons_ne_nil c w)).symm, ?_⟩
  rw [List.length_dropLast, List.length_cons]
  omega

/-- `input_buffer->offset--`, to the character in front of the first part. -/
theorem stepBack_eq (b : ParseBuffer) (n : ℕ) :
    ({ (b.advance 1).advance n with
        offset := ((b.advance 1).advance n).offset - 1 } : ParseBuffer) = b.advance n := by
  simp only [ParseBuffer.advance, ParseBuffer.mk.injEq, true_and]
  omega

section Parts

variable {α : Type} {part : ParseBuffer → Parsed α} {R : α → List UInt8 → Prop} {close : UInt8}

/-- The loop over the parts, from the character `c` in front of a part. -/
theorem parseParts_sound (hpart : Sound part R) (hclose : close ≠ 0) (fuel : ℕ) {b : ParseBuffer}
    {c : UInt8} {s : List UInt8} (h : b.Before (c :: s)) (hfuel : s.length < fuel) :
    (∃ b', parseParts part close fuel b = .fail b') ∨
      ∃ vs t u, s = t ++ close :: u ∧ cJSONLexicon.Separated R vs t ∧
        parseParts part close fuel b = .ok vs (b.advance (t.length + 2)) := by
  induction fuel generalizing b c s with
  | zero => omega
  | succ fuel ih =>
    rw [parseParts]
    have h₁ : (b.advance 1).Before s := h.advance (t := [c])
    obtain ⟨w, s₁, rfl, hw, hskip, h₂⟩ := bufferSkipWhitespace_before h₁
    rw [hskip]
    obtain ⟨b', hfail⟩ | ⟨v, t, s₂, rfl, ht, hR, hok⟩ := hpart _ _ h₂
    · exact .inl ⟨b', by rw [hfail]; rfl⟩
    obtain ⟨w', s₃, rfl, hw', hskip', h₃⟩ := bufferSkipWhitespace_before h₂.advance
    simp only [hok, Parsed.andThen, hskip']
    split
    · next hcomma =>
      obtain ⟨s₄, rfl⟩ := (at0_iff h₃ (by decide)).mp hcomma
      simp only [List.length_append, List.length_cons] at hfuel
      obtain ⟨b', hfail⟩ | ⟨vs, t', u, rfl, hsep, hok'⟩ := ih h₃ (by omega)
      · exact .inl ⟨b', by rw [hfail]; rfl⟩
      · refine .inr ⟨v :: vs, w ++ (t ++ (w' ++ 44 :: t')), u, by simp, .cons hw hR hw' hsep, ?_⟩
        rw [hok']
        simp only [Parsed.map, advance_advance, List.length_append, List.length_cons]
        congr 2
        omega
    split
    · next hend =>
      obtain ⟨u, rfl⟩ := (at0_iff h₃ hclose).mp hend
      refine .inr ⟨[v], w ++ (t ++ w'), u, by simp, .last hw hR hw', ?_⟩
      simp only [advance_advance, List.length_append]
      congr 2
      omega
    · exact .inl ⟨_, rfl⟩

/-- What an array and an object have in common, from their first character on. -/
theorem parseCompound_sound (hpart : Sound part R) (hclose : close ≠ 0) {b : ParseBuffer}
    {c : UInt8} {s : List UInt8} (h : b.Before (c :: s)) :
    (∃ b', parseCompound part close b = .fail b') ∨
      ∃ vs t u, s = t ++ close :: u ∧
        (vs = [] ∧ cJSONLexicon.Spaces t ∨ cJSONLexicon.Separated R vs t) ∧
        parseCompound part close b = .ok vs (b.advance (t.length + 2)) := by
  have h₁ : (b.advance 1).Before s := h.advance (t := [c])
  obtain ⟨w, s₁, rfl, hw, hskip, h₂⟩ := bufferSkipWhitespace_before h₁
  have hlen := h₂.length_eq
  simp only [parseCompound, hskip]
  split
  · next hend =>
    obtain ⟨u, rfl⟩ := (at0_iff h₂ hclose).mp hend
    refine .inr ⟨[], w, u, rfl, .inl ⟨rfl, hw⟩, ?_⟩
    simp only [advance_advance]
    congr 2
    omega
  rw [if_neg (by omega)]
  rw [stepBack_eq]
  obtain ⟨pre, d, hpre, hprelen⟩ := exists_concat_of_cons c w
  have h₃ : (b.advance w.length).Before (d :: s₁) := by
    rw [← hprelen]
    apply Before.advance
    have hsplit : c :: (w ++ s₁) = pre ++ d :: s₁ := by
      rw [← List.cons_append, hpre]
      simp
    rwa [← hsplit]
  obtain ⟨b', hfail⟩ | ⟨vs, t, u, rfl, hsep, hok⟩ := parseParts_sound hpart hclose
    ((b.advance 1).advance w.length).content.length h₃ (by omega)
  · exact .inl ⟨b', hfail⟩
  · refine .inr ⟨vs, w ++ t, u, by simp, .inr (separated_spaces hw hsep), ?_⟩
    rw [hok]
    simp only [advance_advance, List.length_append]
    congr 2

end Parts

section Values

variable {value : ParseBuffer → Parsed CJsonItem} {R : CJsonItem → List UInt8 → Prop}

theorem soundAt_parseArray (hvalue : Sound value R) {b : ParseBuffer} {s : List UInt8}
    (h : b.Before (91 :: s)) :
    (parseArray value b).SoundAt b (91 :: s) (cJSONLexicon.Compound R) := by
  have hrest : b.rest = 91 :: (s ++ [0]) := h.rest
  simp only [parseArray, hrest, ne_eq, not_true_eq_false, if_false]
  obtain ⟨b', hfail⟩ | ⟨vs, t, u, rfl, hparts, hok⟩ :=
    parseCompound_sound hvalue (show (93 : UInt8) ≠ 0 by decide) h
  · exact .inl ⟨b', by rw [hfail]; rfl⟩
  · refine .inr ⟨.array vs, 91 :: (t ++ [93]), u, by simp, List.cons_ne_nil _ _, ?_, ?_⟩
    · obtain ⟨rfl, hw⟩ | hsep := hparts
      · exact .emptyArray hw
      · exact .array hsep
    · rw [hok]
      simp [Parsed.map]

theorem sound_parseMember (hvalue : Sound value R) :
    Sound (parseMember value) (cJSONLexicon.Member R) := by
  intro b s h
  rw [parseMember]
  obtain ⟨b', hfail⟩ | ⟨name, t, s₁, rfl, ht, hname, hok⟩ := sound_parseString b s h
  · exact .inl ⟨b', by rw [hfail]; rfl⟩
  obtain ⟨w, s₂, rfl, hw, hskip, h₂⟩ := bufferSkipWhitespace_before h.advance
  simp only [hok, Parsed.andThen, hskip]
  split
  swap
  · exact .inl ⟨_, rfl⟩
  next hcolon =>
  obtain ⟨s₃, rfl⟩ := (at0_iff h₂ (by decide)).mp hcolon
  have h₃ : ((b.advance t.length).advance w.length |>.advance 1).Before s₃ :=
    h₂.advance (t := [58])
  obtain ⟨w', s₄, rfl, hw', hskip', h₄⟩ := bufferSkipWhitespace_before h₃
  rw [hskip']
  obtain ⟨b', hfail⟩ | ⟨v, t', s₅, rfl, ht', hR, hok'⟩ := hvalue _ _ h₄
  · exact .inl ⟨b', by rw [hfail]; rfl⟩
  · refine .inr ⟨(name, v), t ++ (w ++ 58 :: (w' ++ t')), s₅, by simp, by simp [ht],
      ⟨t, w, w', t', hname, hw, hw', hR, rfl⟩, ?_⟩
    rw [hok']
    simp only [Parsed.map, advance_advance, List.length_append, List.length_cons]
    congr 2
    omega

theorem soundAt_parseObject (hvalue : Sound value R) {b : ParseBuffer} {s : List UInt8}
    (h : b.Before (123 :: s)) :
    (parseObject value b).SoundAt b (123 :: s) (cJSONLexicon.Compound R) := by
  have hopen : b.at0 123 = true := (at0_iff h (by decide)).mpr ⟨s, rfl⟩
  simp only [parseObject, hopen, not_true_eq_false, if_false]
  obtain ⟨b', hfail⟩ | ⟨vs, t, u, rfl, hparts, hok⟩ :=
    parseCompound_sound (sound_parseMember hvalue) (show (125 : UInt8) ≠ 0 by decide) h
  · exact .inl ⟨b', by rw [hfail]; rfl⟩
  · refine .inr ⟨.object vs, 123 :: (t ++ [125]), u, by simp, List.cons_ne_nil _ _, ?_, ?_⟩
    · obtain ⟨rfl, hw⟩ | hsep := hparts
      · exact .emptyObject hw
      · exact .object hsep
    · rw [hok]
      simp [Parsed.map]

/-- A word that is read is a text of its value. -/
theorem soundAt_word {b : ParseBuffer} {s : List UInt8} (h : b.Before s) {word : String}
    (hne : ascii word ≠ []) (hword : ∀ c ∈ ascii word, c ≠ 0) (hreads : b.reads word = true)
    {v : CJsonItem} (hv : R v (ascii word)) {n : ℕ} (hn : n = (ascii word).length) :
    (Parsed.ok v (b.advance n)).SoundAt b s R := by
  obtain ⟨u, hu⟩ := rest_of_reads h hword hreads
  exact .inr ⟨v, ascii word, u, hu, hne, hv, by rw [hn]⟩

theorem sound_parseValueWith {array object : ParseBuffer → Parsed CJsonItem}
    (hscalar : ∀ v t, cJSONLexicon.Scalar v t → R v t)
    (harray : ∀ b s, b.Before (91 :: s) → (array b).SoundAt b (91 :: s) R)
    (hobject : ∀ b s, b.Before (123 :: s) → (object b).SoundAt b (123 :: s) R) :
    Sound (parseValueWith array object) R := by
  intro b s h
  rw [parseValueWith]
  split
  · next hreads =>
    exact soundAt_word h (by decide) (ne_zero_of_all (by decide)) hreads (hscalar _ _ .null) rfl
  split
  · next hreads =>
    exact soundAt_word h (by decide) (ne_zero_of_all (by decide)) hreads (hscalar _ _ .false) rfl
  split
  · next hreads =>
    exact soundAt_word h (by decide) (ne_zero_of_all (by decide)) hreads (hscalar _ _ .true) rfl
  split
  · exact (sound_parseString b s h).map _ fun v t ht => hscalar _ _ (.string ht)
  split
  · next hnumber =>
    obtain ⟨c, u, rfl, hc⟩ : ∃ c u, s = c :: u ∧ (c = 45 ∨ isDigit c = true) := by
      rcases hnumber with hminus | hdigit
      · obtain ⟨u, rfl⟩ := (at0_iff h (by decide)).mp hminus
        exact ⟨45, u, rfl, .inl rfl⟩
      · rw [h.rest] at hdigit
        cases s with
        | nil => exact absurd hdigit (by decide)
        | cons c u => exact ⟨c, u, rfl, .inr (by simpa using hdigit)⟩
    exact (soundAt_parseNumber h hc).map _ fun v t ht => hscalar _ _ (.number ht)
  split
  · next hopen =>
    obtain ⟨u, rfl⟩ := (at0_iff h (by decide)).mp hopen
    exact harray b u h
  split
  · next hopen =>
    obtain ⟨u, rfl⟩ := (at0_iff h (by decide)).mp hopen
    exact hobject b u h
  · exact .inl ⟨b, rfl⟩

end Values

/-- `parse_value` is sound, however many levels are left. -/
theorem sound_parseValue (levels : ℕ) : Sound (parseValue levels) (cJSONLexicon.Text levels) := by
  induction levels with
  | zero =>
    exact sound_parseValueWith (fun v t h => h) (fun b _ _ => .inl ⟨b, rfl⟩)
      fun b _ _ => .inl ⟨b, rfl⟩
  | succ levels ih =>
    refine sound_parseValueWith (fun v t h => .inl h) ?_ ?_
    · intro b s h
      obtain hfail | ⟨v, t, u, hs, ht, hR, hok⟩ := soundAt_parseArray ih h
      · exact .inl hfail
      · exact .inr ⟨v, t, u, hs, ht, .inr hR, hok⟩
    · intro b s h
      obtain hfail | ⟨v, t, u, hs, ht, hR, hok⟩ := soundAt_parseObject ih h
      · exact .inl hfail
      · exact .inr ⟨v, t, u, hs, ht, .inr hR, hok⟩

/-- The byte order mark in UTF-8. -/
def byteOrderMark : List UInt8 := [0xEF, 0xBB, 0xBF]

theorem skipUtf8Bom_before {b : ParseBuffer} {s : List UInt8} (h : b.Before s) :
    ∃ bom u, s = bom ++ u ∧ (bom = [] ∨ bom = byteOrderMark) ∧
      skipUtf8Bom b = b.advance bom.length ∧ (b.advance bom.length).Before u := by
  rw [skipUtf8Bom]
  split
  · next hbom =>
    have hcan : b.offset + byteOrderMark.length ≤ b.content.length := by
      have := hbom.1
      simp only [byteOrderMark, List.length_cons, List.length_nil]
      omega
    obtain ⟨u, rfl⟩ := before_of_strncmpEq h (ne_zero_of_all (by decide)) hcan hbom.2
    exact ⟨byteOrderMark, u, rfl, .inr rfl, rfl, h.advance⟩
  · exact ⟨[], s, rfl, .inl rfl, rfl, h⟩

/-- The buffer of `cJSON_ParseWithOpts`. -/
theorem before_start (value : List UInt8) :
    ({ content := cString value ++ [0], offset := 0 } : ParseBuffer).Before (cString value) where
  rest := rfl
  nonzero := fun c hc => by simpa using List.mem_takeWhile_imp hc

/-- The string begins with a text of the value, behind white space and perhaps a byte order mark;
`u` follows. -/
def Begins (L : Lexicon CJsonNumber) (value : List UInt8) (v : CJsonItem) (u : List UInt8) : Prop :=
  ∃ bom w t, cString value = bom ++ (w ++ (t ++ u)) ∧ (bom = [] ∨ bom = byteOrderMark) ∧
    L.Spaces w ∧ L.Text cJSONNestingLimit v t

/-- The parser on a whole text. -/
theorem parseValue_start (value : List UInt8) :
    (∃ b', parseValue cJSONNestingLimit (bufferSkipWhitespace
        (skipUtf8Bom { content := cString value ++ [0], offset := 0 })) = .fail b') ∨
      ∃ v u b', Begins cJSONLexicon value v u ∧
        parseValue cJSONNestingLimit (bufferSkipWhitespace
          (skipUtf8Bom { content := cString value ++ [0], offset := 0 })) = .ok v b' := by
  obtain ⟨bom, s₁, hs₁, hbom, hskip, h₁⟩ := skipUtf8Bom_before (before_start value)
  obtain ⟨w, s₂, rfl, hw, hskip', h₂⟩ := bufferSkipWhitespace_before h₁
  rw [hskip, hskip']
  obtain hfail | ⟨v, t, u, rfl, -, htext, hok⟩ := sound_parseValue cJSONNestingLimit _ _ h₂
  · exact .inl hfail
  · exact .inr ⟨v, u, _, ⟨bom, w, t, hs₁, hbom, hw, htext⟩, hok⟩

/-- What is accepted begins with a text of the value. -/
theorem begins_of_cJSONParse {value : List UInt8} {v : CJsonItem} (h : cJSONParse value = some v) :
    ∃ u, Begins cJSONLexicon value v u := by
  obtain ⟨b', hfail⟩ | ⟨v', u, b', hbegins, hok⟩ := parseValue_start value
  · simp [cJSONParse, cJSONParseWithOpts, hfail] at h
  · have hv : v' = v := by simpa [cJSONParse, cJSONParseWithOpts, hok] using h
    exact ⟨u, hv ▸ hbegins⟩

/-- **No text makes the parser read or write where it must not, or run forever.** -/
theorem cJSONParseWithOpts_isSome (value : List UInt8) (requireNullTerminated : Bool) :
    (cJSONParseWithOpts value requireNullTerminated).isSome = true := by
  obtain ⟨b', hfail⟩ | ⟨v, u, b', -, hok⟩ := parseValue_start value
  · simp only [cJSONParseWithOpts, hfail, Option.isSome_some]
  · simp only [cJSONParseWithOpts, hok]
    split
    · split
      · rfl
      · rfl
    · rfl

end CameraDaemon
