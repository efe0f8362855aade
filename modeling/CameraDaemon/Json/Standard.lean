import CameraDaemon.Json.Grammar

/-!
# Every JSON text is accepted

A text of the standard that nests at most a thousand levels deep, and whose numbers have at most 63
characters, is accepted by `cJSON_Parse` as the value it stands for: with any white space, with any
choice of escapes in its strings (but none for half of a surrogate pair), with or without a byte
order mark in front of it, and whatever follows it, unless that would continue a number.

## Main definitions

* `jsonLexicon` — the lexical parts of the standard, with numbers as an item keeps them.
* `Follows` — what may stand behind a text of a value.
* `Complete` — a function of the parser reads every text of a relation.

## Main results

* `parseValue_text` — `parse_value` reads the texts that nest as deep as levels are left.
* `cJSONParse_of_begins` — every JSON text is accepted, as its value.
* `cJSONParse_between` — **the parser lies between two grammars.**
-/

namespace CameraDaemon

open CString Json ParseBuffer Strtod

/-- The lexical parts of the standard, with numbers as an item keeps them. -/
def jsonLexicon : Lexicon CJsonNumber :=
  standard (fun q => CJsonNumber.ofDouble (toDouble q)) numberWidth

/-- What stands here does not continue a number. -/
def EndsNumber (u : List UInt8) : Prop := ∀ c ∈ u.head?, isNumberChar c = false

/-- What may stand behind a text of the value: anything, unless the value is a number. -/
def Follows (v : CJsonItem) (u : List UInt8) : Prop := ∀ n, v = .number n → EndsNumber u

/-- A function of the parser that reads every text of a relation, where a number ends. -/
def Complete {α : Type} (parse : ParseBuffer → Parsed α) (R : α → List UInt8 → Prop) : Prop :=
  ∀ b v t u, R v t → EndsNumber u → b.rest = t ++ u → parse b = .ok v (b.advance t.length)

/-! ### Plain texts -/

/-- Plain characters stand in quotes as they are. -/
theorem quoted_plain {s : List UInt8}
    (h : (s.all fun c => 32 ≤ c && c != 34 && c != 92) = true) :
    jsonLexicon.Quoted s (34 :: (s ++ [34])) := by
  refine ⟨s, ?_, rfl⟩
  induction s with
  | nil => exact .nil
  | cons c s ih =>
    rw [List.all_cons, Bool.and_eq_true] at h
    have hc : isPlain c := by simpa [isPlain, and_assoc] using h.1
    exact .cons (.plain hc) (ih h.2)

theorem member_plain {P : CJsonItem → List UInt8 → Prop} {name t : List UInt8} {v : CJsonItem}
    (hname : (name.all fun c => 32 ≤ c && c != 34 && c != 92) = true) (ht : P v t) :
    jsonLexicon.Member P (name, v) (34 :: (name ++ [34]) ++ 58 :: 32 :: t) := by
  have hspace : jsonLexicon.Spaces [32] := fun c hc => .inl (List.mem_singleton.mp hc)
  have hempty : jsonLexicon.Spaces [] := fun c hc => absurd hc List.not_mem_nil
  exact ⟨_, [], [32], t, quoted_plain hname, hempty, hspace, ht, rfl⟩

/-- What an item keeps of an integer. -/
def CJsonNumber.ofInt (n : ℤ) : CJsonNumber := .ofDouble (toDouble n)

/-- Digits alone are the number that they stand for. -/
theorem num_digits {ds : List UInt8} {m : ℕ} (hne : ds ≠ []) (hds : ds.all isDigit = true)
    (hlen : ds.length ≤ numberWidth) (hm : digitsValue ds = m) :
    jsonLexicon.num (.ofInt m) ds := by
  let n : Numeral :=
    { sign := none
      integer := ds
      fraction := none
      exponent := none
      integer_isDigit := List.all_eq_true.mp hds
      fraction_isDigit := fun _ h => by cases h
      has_digit := .inl hne }
  have htext : n.text = ds := by simp [n, Numeral.text, signText, fractionText, exponentText]
  have hvalue : n.value = (m : ℤ) := by simp [n, Numeral.value, decimal, exponentValue, hm]
  refine ⟨n, ⟨?_, hne, ?_⟩, by rw [htext]; exact hlen, by rw [hvalue, CJsonNumber.ofInt],
    htext.symm⟩
  · simp [n]
  · simp [n]

/-! ### Characters -/

/-- The first characters of the values. -/
def startsValue (c : UInt8) : Bool := isDigit c ∨ c ∈ ascii "ntf-\"[\x7b"

theorem isDigit_bounds {c : UInt8} (h : isDigit c = true) : 48 ≤ c.toNat ∧ c.toNat ≤ 57 := by
  simpa [isDigit, UInt8.le_iff_toNat_le] using h

/-- No value begins with white space, a closing bracket or brace, or a byte order mark. -/
theorem startsValue_spec {c : UInt8} (h : startsValue c = true) :
    isWhitespace c = false ∧ c ≠ 93 ∧ c ≠ 125 ∧ c ≠ 0xEF := by
  rcases decide_eq_true_eq.mp h with hdigit | hmem
  · have hbounds := isDigit_bounds hdigit
    refine ⟨?_, ?_, ?_, ?_⟩
    · simp only [isWhitespace, UInt8.le_iff_toNat_le, UInt8.reduceToNat, decide_eq_false_iff_not]
      omega
    all_goals
      rintro rfl
      exact absurd hbounds (by decide)
  · have hall : ((ascii "ntf-\"[\x7b").all fun d =>
        !isWhitespace d && d != 93 && d != 125 && d != 0xEF) = true := by decide
    simpa [and_assoc] using List.all_eq_true.mp hall c hmem

theorem spaces_isWhitespace {w : List UInt8} (hw : jsonLexicon.Spaces w) :
    ∀ c ∈ w, isWhitespace c = true := by
  intro c hc
  rcases hw c hc with rfl | rfl | rfl | rfl <;> decide

/-- White space ends a number. -/
theorem isNumberChar_of_isWhitespace {c : UInt8} (h : isWhitespace c = true) :
    isNumberChar c = false := by
  have hall : ((ascii "+-eE.").all fun d => !isWhitespace d) = true := by decide
  have hle : c.toNat ≤ 32 := by simpa [isWhitespace, UInt8.le_iff_toNat_le] using h
  rw [isNumberChar, decide_eq_false_iff_not]
  rintro (hdigit | hmem)
  · have := isDigit_bounds hdigit
    omega
  · simpa [h] using List.all_eq_true.mp hall c hmem

/-- What stands behind a value inside of an array or an object. -/
theorem endsNumber_spaces {w u : List UInt8} (hw : ∀ c ∈ w, isWhitespace c = true) {c : UInt8}
    (hc : isNumberChar c = false) : EndsNumber (w ++ c :: u) := by
  intro d hd
  cases w with
  | nil =>
    cases Option.some.inj hd
    exact hc
  | cons e w =>
    cases Option.some.inj hd
    exact isNumberChar_of_isWhitespace (hw _ List.mem_cons_self)

/-! ### Strings and numbers -/

/-- A string is read whatever stands behind it. -/
theorem parseString_quoted {b : ParseBuffer} {bytes t u : List UInt8}
    (h : jsonLexicon.Quoted bytes t) (hrest : b.rest = t ++ u) :
    parseString b = .ok bytes (b.advance t.length) := by
  obtain ⟨body, hbody, rfl⟩ := h
  have hrest' : b.rest = 34 :: (body ++ 34 :: u) := by rw [hrest]; simp
  rw [parseString_accepted (accepted_of_concat hbody) hrest']
  simp

theorem isNumberChar_of_isDigit {c : UInt8} (h : isDigit c = true) : isNumberChar c = true := by
  simp [isNumberChar, h]

theorem isNumberChar_signText {sign : Option Bool} {c : UInt8} (h : c ∈ signText sign) :
    isNumberChar c = true := by
  rcases sign with _ | _ | _
  · cases h
  · cases List.mem_singleton.mp h
    decide
  · cases List.mem_singleton.mp h
    decide

/-- A numeral is copied whole. -/
theorem isNumberChar_text (n : Numeral) : ∀ c ∈ n.text, isNumberChar c = true := by
  intro c hc
  simp only [Numeral.text, List.mem_append] at hc
  rcases hc with hc | hc | hc | hc
  · exact isNumberChar_signText hc
  · exact isNumberChar_of_isDigit (n.integer_isDigit c hc)
  · cases hf : n.fraction with
    | none => rw [hf] at hc; cases hc
    | some ds =>
      rw [hf] at hc
      rcases List.mem_cons.mp hc with rfl | hc
      · decide
      · exact isNumberChar_of_isDigit (n.fraction_isDigit ds hf c hc)
  · cases he : n.exponent with
    | none => rw [he] at hc; cases hc
    | some e =>
      rw [he] at hc
      rcases List.mem_cons.mp hc with rfl | hc
      · cases e.capital <;> decide
      · rcases List.mem_append.mp hc with hc | hc
        · exact isNumberChar_signText hc
        · exact isNumberChar_of_isDigit (e.isDigit c hc)

theorem complete_parseNumber : Complete parseNumber jsonLexicon.num := by
  rintro b v t u ⟨n, -, hwidth, rfl, rfl⟩ hends hrest
  have hstop : (u.take (numberWidth - n.text.length)).takeWhile isNumberChar = [] := by
    rcases u with _ | ⟨c, u⟩
    · simp
    · have hc : isNumberChar c = false := hends c rfl
      cases numberWidth - n.text.length <;> simp [hc]
  have hcopied : (b.rest.take numberWidth).takeWhile isNumberChar = n.text := by
    rw [hrest, List.take_append, List.take_of_length_le hwidth,
      List.takeWhile_append_of_pos (isNumberChar_text n), hstop, List.append_nil]
  simp only [parseNumber, hcopied, strtod_text, List.length_nil, Nat.sub_zero]

/-! ### Parts -/

section Parts

variable {α : Type} {part : ParseBuffer → Parsed α} {R : α → List UInt8 → Prop} {close : UInt8}

/-- One part in white space, and the character `d` behind it. -/
theorem part_round (hpart : Complete part R)
    (hhead : ∀ v t, R v t → ∃ c r, t = c :: r ∧ isWhitespace c = false) {v : α}
    {w t w' u : List UInt8} (hw : jsonLexicon.Spaces w) (hv : R v t) (hw' : jsonLexicon.Spaces w')
    {d : UInt8} (hd : isWhitespace d = false) (hd' : isNumberChar d = false) {b : ParseBuffer}
    {c : UInt8} (hrest : b.rest = c :: (w ++ (t ++ (w' ++ d :: u)))) :
    part (bufferSkipWhitespace (b.advance 1)) = .ok v (b.advance (1 + w.length + t.length)) ∧
    bufferSkipWhitespace (b.advance (1 + w.length + t.length)) =
      b.advance (1 + w.length + t.length + w'.length) ∧
    (b.advance (1 + w.length + t.length + w'.length)).rest = d :: u := by
  have h₁ : (b.advance 1).rest = w ++ (t ++ (w' ++ d :: u)) := rest_advance (t := [c]) hrest
  have h₂ : (b.advance (1 + w.length)).rest = t ++ (w' ++ d :: u) := by
    rw [← advance_advance]
    exact rest_advance h₁
  have h₃ : (b.advance (1 + w.length + t.length)).rest = w' ++ d :: u := by
    rw [← advance_advance]
    exact rest_advance h₂
  have h₄ : (b.advance (1 + w.length + t.length + w'.length)).rest = d :: u := by
    rw [← advance_advance]
    exact rest_advance h₃
  obtain ⟨e, r, rfl, he⟩ := hhead v t hv
  have hspaces' := spaces_isWhitespace hw'
  have hskip := bufferSkipWhitespace_append (spaces_isWhitespace hw) he h₁
  have hskip' := bufferSkipWhitespace_append hspaces' hd h₃
  refine ⟨?_, ?_, h₄⟩
  · rw [hskip, advance_advance, hpart _ v _ _ hv (endsNumber_spaces hspaces' hd') h₂, advance_advance]
  · rw [hskip', advance_advance]

/-- The loop over the parts reads texts with commas between them. -/
theorem parseParts_complete (hpart : Complete part R)
    (hhead : ∀ v t, R v t → ∃ c r, t = c :: r ∧ isWhitespace c = false)
    (hclose : isWhitespace close = false ∧ isNumberChar close = false ∧ close ≠ 44)
    {vs : List α} {t : List UInt8} (h : jsonLexicon.Separated R vs t) {fuel : ℕ}
    (hfuel : t.length < fuel) {b : ParseBuffer} {c : UInt8} {u : List UInt8}
    (hrest : b.rest = c :: (t ++ close :: u)) :
    parseParts part close fuel b = .ok vs (b.advance (t.length + 2)) := by
  obtain ⟨hspace, hnumber, hcomma⟩ := hclose
  induction h generalizing fuel b c with
  | @last v w t w' hw hv hw' =>
    obtain ⟨fuel, rfl⟩ : ∃ k, fuel = k + 1 := ⟨fuel - 1, by omega⟩
    obtain ⟨hok, hskip, hend⟩ := part_round (u := u) (c := c) hpart hhead hw hv hw' hspace hnumber
      (hrest.trans (by simp))
    rw [parseParts, hok]
    simp only [Parsed.andThen, hskip, at0_of_rest hend, decide_eq_true_eq, if_neg hcomma, if_true,
      advance_advance, List.length_append]
    congr 2
    omega
  | @cons v vs w t w' rest hw hv hw' hsep ih =>
    obtain ⟨fuel, rfl⟩ : ∃ k, fuel = k + 1 := ⟨fuel - 1, by omega⟩
    simp only [List.length_append, List.length_cons] at hfuel
    obtain ⟨hok, hskip, hnext⟩ :=
      part_round (d := 44) (u := rest ++ close :: u) (c := c) hpart hhead hw hv hw' (by decide)
        (by decide) (hrest.trans (by simp))
    rw [parseParts, hok]
    simp only [Parsed.andThen, hskip, at0_of_rest hnext, decide_true, if_true]
    rw [ih (by omega) hnext]
    simp only [Parsed.map, advance_advance, List.length_append, List.length_cons]
    congr 2
    omega

/-- White space, then the first part. -/
theorem separated_head
    (hhead : ∀ v t, R v t → ∃ c r, t = c :: r ∧ isWhitespace c = false ∧ c ≠ close)
    {vs : List α} {t : List UInt8} (h : jsonLexicon.Separated R vs t) :
    ∃ w c r, t = w ++ c :: r ∧ jsonLexicon.Spaces w ∧ jsonLexicon.Separated R vs (c :: r) ∧
      isWhitespace c = false ∧ c ≠ close := by
  have hnil : jsonLexicon.Spaces [] := by
    intro c hc
    cases hc
  cases h with
  | @last v w t w' hw hv hw' =>
    obtain ⟨c, r, rfl, hc⟩ := hhead v t hv
    exact ⟨w, c, r ++ w', rfl, hw, .last hnil hv hw', hc⟩
  | @cons v vs w t w' rest hw hv hw' hsep =>
    obtain ⟨c, r, rfl, hc⟩ := hhead v t hv
    exact ⟨w, c, r ++ (w' ++ 44 :: rest), rfl, hw, .cons hnil hv hw' hsep, hc⟩

/-- An empty array or object. -/
theorem parseCompound_empty (hclose : isWhitespace close = false) {w u : List UInt8}
    (hw : jsonLexicon.Spaces w) {b : ParseBuffer} {c : UInt8}
    (hrest : b.rest = c :: (w ++ close :: u)) :
    parseCompound part close b = .ok [] (b.advance (w.length + 2)) := by
  have h₁ : (b.advance 1).rest = w ++ close :: u := rest_advance (t := [c]) hrest
  have hskip := bufferSkipWhitespace_append (spaces_isWhitespace hw) hclose h₁
  have hend : ((b.advance 1).advance w.length).at0 close = true := by
    rw [at0_of_rest (rest_advance h₁)]
    exact decide_eq_true rfl
  simp only [parseCompound, hskip, hend, if_true]
  rw [advance_advance, advance_advance]
  congr 2
  omega

/-- An array or an object with parts. -/
theorem parseCompound_complete (hpart : Complete part R)
    (hhead : ∀ v t, R v t → ∃ c r, t = c :: r ∧ isWhitespace c = false ∧ c ≠ close)
    (hclose : isWhitespace close = false ∧ isNumberChar close = false ∧ close ≠ 44)
    {vs : List α} {t : List UInt8} (h : jsonLexicon.Separated R vs t) {b : ParseBuffer} {c : UInt8}
    {u : List UInt8} (hrest : b.rest = c :: (t ++ close :: u)) :
    parseCompound part close b = .ok vs (b.advance (t.length + 2)) := by
  obtain ⟨w, d, r, rfl, hw, hsep, hd, hdclose⟩ := separated_head hhead h
  have h₁ : (b.advance 1).rest = w ++ d :: (r ++ close :: u) :=
    rest_advance (t := [c]) (hrest.trans (by simp))
  have hskip := bufferSkipWhitespace_append (spaces_isWhitespace hw) hd h₁
  have h₂ := rest_advance h₁
  have hlen := length_rest ((b.advance 1).advance w.length)
  rw [h₂, List.length_cons, List.length_append, List.length_cons] at hlen
  simp only [parseCompound, hskip, at0_of_rest h₂, decide_eq_true_eq, if_neg hdclose]
  rw [if_neg (by omega), stepBack_eq]
  obtain ⟨pre, e, hpre, hprelen⟩ := exists_concat_of_cons c w
  have hback : (b.advance w.length).rest = e :: ((d :: r) ++ close :: u) := by
    rw [← hprelen]
    apply rest_advance
    rw [hrest, List.append_assoc, ← List.cons_append, hpre, List.append_assoc]
    rfl
  rw [parseParts_complete hpart (fun v t hv => (hhead v t hv).imp fun c hc => hc.imp
    fun r hr => ⟨hr.1, hr.2.1⟩) hclose hsep (by simp only [List.length_cons]; omega) hback]
  simp only [advance_advance, List.length_append]
  congr 2

end Parts

/-! ### Values -/

/-- A word is not read where another character stands. -/
theorem reads_of_ne {b : ParseBuffer} {c : UInt8} {u : List UInt8} (h : b.rest = c :: u)
    {word : String} {d : UInt8} {ds : List UInt8} (hword : ascii word = d :: ds) (hc : c ≠ d) :
    b.reads word = false := by
  simp [reads, h, hword, strncmpEq, hc]

/-- The first character of a number. -/
theorem numeral_starts {n : Numeral} (h : IsNumber n) :
    ∃ c r, n.text = c :: r ∧ (c = 45 ∨ isDigit c = true) := by
  cases hsign : n.sign with
  | some minus =>
    cases minus with
    | true => exact ⟨45, _, by rw [Numeral.text, hsign]; rfl, .inl rfl⟩
    | false => exact absurd hsign h.sign
  | none =>
    obtain ⟨c, r, hinteger⟩ := List.exists_cons_of_ne_nil h.integer
    refine ⟨c, r ++ (fractionText n.fraction ++ exponentText n.exponent), ?_, .inr ?_⟩
    · rw [Numeral.text, hsign, hinteger]
      rfl
    · exact n.integer_isDigit c (hinteger ▸ List.mem_cons_self)

/-- The functions for arrays and objects read what begins with a bracket or a brace. -/
theorem parseValueWith_complete {array object : ParseBuffer → Parsed CJsonItem}
    {C : CJsonItem → List UInt8 → Prop}
    (hcompound : ∀ b v t u, C v t → b.rest = t ++ u →
      (∃ r, t = 91 :: r) ∧ array b = .ok v (b.advance t.length) ∨
      (∃ r, t = 123 :: r) ∧ object b = .ok v (b.advance t.length))
    {b : ParseBuffer} {v : CJsonItem} {t u : List UInt8} (h : jsonLexicon.Scalar v t ∨ C v t)
    (hfollows : Follows v u) (hrest : b.rest = t ++ u) :
    parseValueWith array object b = .ok v (b.advance t.length) := by
  -- the words are looked for first
  have hwords : ∀ {b : ParseBuffer} {c : UInt8} {u : List UInt8}, b.rest = c :: u →
      c ≠ 110 → c ≠ 102 → c ≠ 116 → b.reads "null" = false ∧ b.reads "false" = false ∧
        b.reads "true" = false := fun h hn hf ht =>
    ⟨reads_of_ne h rfl hn, reads_of_ne h rfl hf, reads_of_ne h rfl ht⟩
  rcases h with hscalar | hC
  · cases hscalar with
    | null =>
      have hreads := reads_of_rest (by decide) (ne_zero_of_all (by decide)) hrest
      rw [parseValueWith, if_pos hreads]
      rfl
    | false =>
      have hnull : b.reads "null" = false := reads_of_ne hrest rfl (by decide)
      have hreads := reads_of_rest (by decide) (ne_zero_of_all (by decide)) hrest
      simp only [parseValueWith, hnull, Bool.false_eq_true, if_false, hreads, if_true]
      rfl
    | true =>
      have hnull : b.reads "null" = false := reads_of_ne hrest rfl (by decide)
      have hfalse : b.reads "false" = false := reads_of_ne hrest rfl (by decide)
      have hreads := reads_of_rest (by decide) (ne_zero_of_all (by decide)) hrest
      simp only [parseValueWith, hnull, hfalse, Bool.false_eq_true, if_false, hreads, if_true]
      rfl
    | @string s t hquoted =>
      have hok := parseString_quoted hquoted hrest
      obtain ⟨body, -, rfl⟩ := hquoted
      obtain ⟨hnull, hfalse, htrue⟩ := hwords hrest (by decide) (by decide) (by decide)
      have hat : b.at0 34 = true := at0_of_rest hrest
      simp only [parseValueWith, hnull, hfalse, htrue, hat, Bool.false_eq_true, if_false, if_true,
        hok, Parsed.map]
    | @number n t hnum =>
      have hok := complete_parseNumber b n t u hnum (hfollows n rfl) hrest
      obtain ⟨m, hm, -, -, rfl⟩ := hnum
      obtain ⟨c, r, htext, hc⟩ := numeral_starts hm
      have hrest' : b.rest = c :: (r ++ u) := by rw [hrest, htext]; rfl
      have hne : ∀ d, d ≠ 45 → isDigit d = false → c ≠ d := by
        rintro d hd hdigit rfl
        rcases hc with rfl | hc
        · exact hd rfl
        · rw [hdigit] at hc
          cases hc
      obtain ⟨hnull, hfalse, htrue⟩ := hwords hrest' (hne _ (by decide) (by decide))
        (hne _ (by decide) (by decide)) (hne _ (by decide) (by decide))
      have hquote : b.at0 34 = false := by
        rw [at0_of_rest hrest']
        exact decide_eq_false (hne _ (by decide) (by decide))
      have hstart : b.at0 45 = true ∨ b.rest.head?.any isDigit = true := by
        rw [at0_of_rest hrest', hrest']
        rcases hc with rfl | hc
        · exact .inl rfl
        · exact .inr hc
      simp only [parseValueWith, hnull, hfalse, htrue, hquote, Bool.false_eq_true, if_false,
        if_pos hstart, hok, Parsed.map]
  · rcases hcompound b v t u hC hrest with ⟨⟨r, rfl⟩, hok⟩ | ⟨⟨r, rfl⟩, hok⟩
    · obtain ⟨hnull, hfalse, htrue⟩ := hwords hrest (by decide) (by decide) (by decide)
      have hquote : b.at0 34 = false := at0_of_rest hrest
      have hminus : b.at0 45 = false := at0_of_rest hrest
      have hopen : b.at0 91 = true := at0_of_rest hrest
      have hdigit : b.rest.head?.any isDigit = false := by rw [hrest]; rfl
      simp only [parseValueWith, hnull, hfalse, htrue, hquote, hminus, hdigit, hopen,
        Bool.false_eq_true, or_self, if_false, if_true, hok]
    · obtain ⟨hnull, hfalse, htrue⟩ := hwords hrest (by decide) (by decide) (by decide)
      have hquote : b.at0 34 = false := at0_of_rest hrest
      have hminus : b.at0 45 = false := at0_of_rest hrest
      have hbracket : b.at0 91 = false := at0_of_rest hrest
      have hopen : b.at0 123 = true := at0_of_rest hrest
      have hdigit : b.rest.head?.any isDigit = false := by rw [hrest]; rfl
      simp only [parseValueWith, hnull, hfalse, htrue, hquote, hminus, hdigit, hbracket, hopen,
        Bool.false_eq_true, or_self, if_false, if_true, hok]

section Compounds

variable {value : ParseBuffer → Parsed CJsonItem} {R : CJsonItem → List UInt8 → Prop}

theorem complete_parseMember (hvalue : Complete value R)
    (hhead : ∀ v t, R v t → ∃ c r, t = c :: r ∧ startsValue c = true) :
    Complete (parseMember value) (jsonLexicon.Member R) := by
  rintro b ⟨name, v⟩ t u ⟨quoted, w, w', text, hname, hw, hw', hv, rfl⟩ hends hrest
  obtain ⟨c, r, rfl, hc⟩ := hhead v text hv
  have h₀ : b.rest = quoted ++ (w ++ 58 :: (w' ++ (c :: r ++ u))) := by rw [hrest]; simp
  have h₁ := rest_advance h₀
  have hskip := bufferSkipWhitespace_append (spaces_isWhitespace hw) (by decide) h₁
  have h₂ := rest_advance h₁
  have h₃ : (((b.advance quoted.length).advance w.length).advance 1).rest = w' ++ (c :: (r ++ u)) :=
    rest_advance (t := [58]) h₂
  have hskip' :=
    bufferSkipWhitespace_append (spaces_isWhitespace hw') (startsValue_spec hc).1 h₃
  have hat : ((b.advance quoted.length).advance w.length).at0 58 = true := at0_of_rest h₂
  rw [parseMember, parseString_quoted hname h₀]
  simp only [Parsed.andThen, hskip, hat, if_true, hskip']
  rw [hvalue _ v (c :: r) u hv hends (rest_advance h₃)]
  simp only [Parsed.map, advance_advance, List.length_append, List.length_cons]
  congr 2
  omega

/-- Arrays and objects over a function that reads their parts. -/
theorem compound_complete (hvalue : Complete value R)
    (hhead : ∀ v t, R v t → ∃ c r, t = c :: r ∧ startsValue c = true) (b : ParseBuffer)
    (v : CJsonItem) (t u : List UInt8) (h : jsonLexicon.Compound R v t) (hrest : b.rest = t ++ u) :
    (∃ r, t = 91 :: r) ∧ parseArray value b = .ok v (b.advance t.length) ∨
      (∃ r, t = 123 :: r) ∧ parseObject value b = .ok v (b.advance t.length) := by
  have hbracket : isWhitespace 93 = false ∧ isNumberChar 93 = false ∧ (93 : UInt8) ≠ 44 := by decide
  have hbrace : isWhitespace 125 = false ∧ isNumberChar 125 = false ∧ (125 : UInt8) ≠ 44 := by
    decide
  have hhead' : ∀ v t, R v t → ∃ c r, t = c :: r ∧ isWhitespace c = false ∧ c ≠ 93 := by
    intro v t hv
    obtain ⟨c, r, rfl, hc⟩ := hhead v t hv
    exact ⟨c, r, rfl, (startsValue_spec hc).1, (startsValue_spec hc).2.1⟩
  have hmember : ∀ m t, jsonLexicon.Member R m t →
      ∃ c r, t = c :: r ∧ isWhitespace c = false ∧ c ≠ 125 := by
    rintro m t ⟨quoted, w, w', text, ⟨body, -, rfl⟩, -, -, -, rfl⟩
    exact ⟨34, _, rfl, by decide, by decide⟩
  cases h with
  | @emptyArray w hw =>
    have hrest' : b.rest = 91 :: (w ++ 93 :: u) := by rw [hrest]; simp
    refine .inl ⟨⟨_, rfl⟩, ?_⟩
    simp only [parseArray, hrest', ne_eq, not_true_eq_false, if_false]
    rw [parseCompound_empty hbracket.1 hw hrest']
    simp [Parsed.map]
  | @array items t hsep =>
    have hrest' : b.rest = 91 :: (t ++ 93 :: u) := by rw [hrest]; simp
    refine .inl ⟨⟨_, rfl⟩, ?_⟩
    simp only [parseArray, hrest', ne_eq, not_true_eq_false, if_false]
    rw [parseCompound_complete hvalue hhead' hbracket hsep hrest']
    simp [Parsed.map]
  | @emptyObject w hw =>
    have hrest' : b.rest = 123 :: (w ++ 125 :: u) := by rw [hrest]; simp
    have hopen : b.at0 123 = true := at0_of_rest hrest'
    refine .inr ⟨⟨_, rfl⟩, ?_⟩
    simp only [parseObject, hopen, not_true_eq_false, if_false]
    rw [parseCompound_empty hbrace.1 hw hrest']
    simp [Parsed.map]
  | @object members t hsep =>
    have hrest' : b.rest = 123 :: (t ++ 125 :: u) := by rw [hrest]; simp
    have hopen : b.at0 123 = true := at0_of_rest hrest'
    refine .inr ⟨⟨_, rfl⟩, ?_⟩
    simp only [parseObject, hopen, not_true_eq_false, if_false]
    rw [parseCompound_complete (complete_parseMember hvalue hhead) hmember hbrace hsep hrest']
    simp [Parsed.map]

end Compounds

/-- The first character of a text. -/
theorem text_starts (levels : ℕ) (v : CJsonItem) (t : List UInt8)
    (h : jsonLexicon.Text levels v t) :
    ∃ c r, t = c :: r ∧ startsValue c = true := by
  have hscalar : ∀ v t, jsonLexicon.Scalar v t → ∃ c r, t = c :: r ∧ startsValue c = true := by
    intro v t h
    cases h with
    | null => exact ⟨110, _, rfl, by decide⟩
    | false => exact ⟨102, _, rfl, by decide⟩
    | true => exact ⟨116, _, rfl, by decide⟩
    | string h =>
      obtain ⟨body, -, rfl⟩ := h
      exact ⟨34, _, rfl, by decide⟩
    | number h =>
      obtain ⟨n, hn, -, -, rfl⟩ := h
      obtain ⟨c, r, htext, hc⟩ := numeral_starts hn
      refine ⟨c, r, htext, ?_⟩
      rcases hc with rfl | hc
      · decide
      · simp [startsValue, hc]
  cases levels with
  | zero => exact hscalar v t h
  | succ levels =>
    rcases h with h | h
    · exact hscalar v t h
    · cases h with
      | emptyArray hw => exact ⟨91, _, rfl, by decide⟩
      | array h => exact ⟨91, _, rfl, by decide⟩
      | emptyObject hw => exact ⟨123, _, rfl, by decide⟩
      | object h => exact ⟨123, _, rfl, by decide⟩

/-- `parse_value` reads the texts that nest as deep as levels are left. -/
theorem parseValue_text (levels : ℕ) {b : ParseBuffer} {v : CJsonItem} {t u : List UInt8}
    (h : jsonLexicon.Text levels v t) (hfollows : Follows v u) (hrest : b.rest = t ++ u) :
    parseValue levels b = .ok v (b.advance t.length) := by
  induction levels generalizing b v t u with
  | zero =>
    exact parseValueWith_complete (C := fun _ _ => False) (fun _ _ _ _ h => h.elim) (.inl h)
      hfollows hrest
  | succ levels ih =>
    -- the parts of an array or an object stand where a number ends
    have hparts : Complete (parseValue levels) (jsonLexicon.Text levels) :=
      fun _ _ _ _ h hends hrest => ih h (fun _ _ => hends) hrest
    exact parseValueWith_complete (compound_complete hparts (text_starts levels)) h hfollows hrest

/-! ### Whole texts -/

/-- A byte order mark is jumped over, and nothing else is. -/
theorem skipUtf8Bom_append {b : ParseBuffer} {bom u : List UInt8} {c d : UInt8} (hc : c ≠ 0xEF)
    (hbom : bom = [] ∨ bom = byteOrderMark) (h : b.rest = bom ++ c :: d :: u) :
    skipUtf8Bom b = b.advance bom.length := by
  have hlen := b.length_rest
  rw [h, List.length_append, List.length_cons, List.length_cons] at hlen
  rw [skipUtf8Bom]
  rcases hbom with rfl | rfl
  · rw [if_neg]
    · rfl
    · rintro ⟨-, hcmp⟩
      simp [h, strncmpEq, hc] at hcmp
  · rw [if_pos]
    · rfl
    · simp only [byteOrderMark, List.length_cons, List.length_nil] at hlen
      refine ⟨by omega, ?_⟩
      rw [h]
      rfl

/-- `parse_value` on a whole text. -/
theorem parseValue_json {value u : List UInt8} {v : CJsonItem} (h : Begins jsonLexicon value v u)
    (hu : Follows v u) :
    ∃ b', parseValue cJSONNestingLimit (bufferSkipWhitespace
      (skipUtf8Bom { content := cString value ++ [0], offset := 0 })) = .ok v b' := by
  obtain ⟨bom, w, t, hvalue, hbom, hw, ht⟩ := h
  have hfollows : Follows v (u ++ [0]) := by
    intro n hn
    cases u with
    | nil =>
      intro c hc
      cases Option.some.inj hc
      decide
    | cons d u => exact hu n hn
  obtain ⟨c, r, rfl, hc⟩ := text_starts _ v t ht
  have h₀ : ({ content := cString value ++ [0], offset := 0 } : ParseBuffer).rest =
      bom ++ (w ++ (c :: r ++ (u ++ [0]))) := by
    rw [(before_start value).rest, hvalue]
    simp
  -- two characters stand behind the place of a byte order mark, the terminator counted
  obtain ⟨d, e, behind, hd, hbehind⟩ : ∃ d e behind, d ≠ 0xEF ∧
      w ++ (c :: r ++ (u ++ [0])) = d :: e :: behind := by
    rcases w with _ | ⟨d, w⟩
    · obtain ⟨e, behind, hcons⟩ :=
        List.exists_cons_of_ne_nil (show r ++ (u ++ [0]) ≠ [] by simp)
      exact ⟨c, e, behind, (startsValue_spec hc).2.2.2, by simp [hcons]⟩
    · obtain ⟨e, behind, hcons⟩ :=
        List.exists_cons_of_ne_nil (show w ++ (c :: r ++ (u ++ [0])) ≠ [] by simp)
      refine ⟨d, e, behind, ?_, by simp [← hcons]⟩
      rintro rfl
      exact absurd (spaces_isWhitespace hw _ List.mem_cons_self) (by decide)
  have hskip := skipUtf8Bom_append hd hbom (h₀.trans (by rw [hbehind]))
  have h₁ := rest_advance h₀
  have hskip' := bufferSkipWhitespace_append (spaces_isWhitespace hw) (startsValue_spec hc).1 h₁
  have hok := parseValue_text cJSONNestingLimit ht hfollows (rest_advance h₁)
  exact ⟨_, by rw [hskip, hskip', hok]⟩

/-- Every JSON text is accepted, as its value. -/
theorem cJSONParse_of_begins {value u : List UInt8} {v : CJsonItem}
    (h : Begins jsonLexicon value v u) (hu : Follows v u) : cJSONParse value = some v := by
  obtain ⟨b', hok⟩ := parseValue_json h hu
  simp only [cJSONParse, cJSONParseWithOpts, hok, Bool.false_eq_true, if_false]

/-- **The parser lies between two grammars**: it accepts every text of the standard as its value,
and what it accepts is a text of the value in a grammar with more strings, numerals and spaces. -/
theorem cJSONParse_between (value : List UInt8) (v : CJsonItem) :
    (∀ u, Begins jsonLexicon value v u → Follows v u → cJSONParse value = some v) ∧
      (cJSONParse value = some v → ∃ u, Begins cJSONLexicon value v u) :=
  ⟨fun _ h hu => cJSONParse_of_begins h hu, begins_of_cJSONParse⟩

end CameraDaemon
