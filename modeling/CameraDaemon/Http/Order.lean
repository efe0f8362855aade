import CameraDaemon.Http.Parser

/-!
# The order of the parser's callbacks

The daemon judges a body by the URL it stored last, so it matters that a body is never reported
before a URL.  The states of the parser fall into the early ones, before the URL and inside it, and
those behind it: an early state reports nothing but the URL, and no step leads from behind the URL
back into it without a new message.

## Main definitions

* `HttpParser.Ordered` — the first callback is `on_url`, and nothing behind the URL is reached
  before it.
* `HttpParser.Later` — more callbacks, and not inside a URL.
* `HttpParser.Quiet` — no callback, nothing noted, and not inside the request line.
* `HttpParser.Inside` — nothing but bodies of the same message.

## Main results

* `quiet_step` — behind the URL a step outside a body is quiet.
* `inside_step` — behind the URL a step reports nothing but bodies.
* `later_step` — behind the URL no step goes back into one.
* `ordered_step` — every byte keeps the order.
* `httpParserExecute_head` — **what a fresh parser reports starts with a URL.**
* `httpParserExecute_singleton` — a fresh parser reports nothing of a single byte.
-/

namespace CameraDaemon

/-! ### Early and late states -/

/-- The states inside a URL. -/
def ParserState.inUrl : ParserState → Bool
  | .reqSchema | .reqSchemaSlash | .reqSchemaSlashSlash | .reqServerStart | .reqServer
  | .reqServerWithAt | .reqPath | .reqQueryStringStart | .reqQueryString | .reqFragmentStart
  | .reqFragment => true
  | _ => false

/-- The states before a URL and inside it. -/
def ParserState.early : ParserState → Bool
  | .startReq | .reqMethod | .reqSpacesBeforeUrl => true
  | s => s.inUrl

def ParserEvent.isUrl : ParserEvent → Bool
  | .url _ _ => true
  | .body _ _ => false

/-- The first callback is `on_url`; a state behind the URL, or a body, is reached only after it. -/
structure HttpParser.Ordered (p : HttpParser) : Prop where
  head : ∀ e, p.events.head? = some e → e.isUrl = true
  late : p.state.early = false ∨ p.bodyMark.isSome = true → p.events ≠ []
  mark : p.state.inUrl = true → p.urlMark.isSome = true

theorem ordered_init : httpParserInit.Ordered := ⟨nofun, nofun, nofun⟩

/-- The parser `q` has made the callbacks of `p`, perhaps some more, and is not inside a URL. -/
def HttpParser.Later (p q : HttpParser) : Prop :=
  (∃ more, q.events = p.events ++ more) ∧ q.state.inUrl = false

/-- Once a callback has been made, the order is settled. -/
theorem HttpParser.Ordered.later {p q : HttpParser} (h : p.Ordered) (hne : p.events ≠ [])
    (hl : p.Later q) : q.Ordered := by
  obtain ⟨⟨more, he⟩, hs⟩ := hl
  refine ⟨fun e hhead => h.head e ?_, fun _ hnil => ?_, fun hin => ?_⟩
  · rw [he, List.head?_append_of_ne_nil _ hne] at hhead
    exact hhead
  · rw [he] at hnil
    exact hne (List.append_eq_nil_iff.mp hnil).1
  · rw [hs] at hin
    cases hin

/-! ### Steps that report nothing -/

/-- The states of a message whose URL has not been reported. -/
def ParserState.inLine : ParserState → Bool
  | .reqMethod | .reqSpacesBeforeUrl => true
  | s => s.inUrl

/-- The states in which bytes of a body are collected, or about to be reported. -/
def ParserState.inBody : ParserState → Bool
  | .bodyIdentity | .chunkData | .chunkDataAlmostDone => true
  | _ => false

theorem inLine_of_early {s : ParserState} (h : s.early = false) : s.inLine = false := by
  cases s <;> first | rfl | cases h

theorem inUrl_of_inLine {s : ParserState} (h : s.inLine = false) : s.inUrl = false := by
  cases s <;> first | rfl | cases h

/-- What the parser has reported and has still to report. -/
def HttpParser.report (p : HttpParser) :
    HttpMethod × Option (List UInt8) × Option (List UInt8) × List ParserEvent :=
  (p.method, p.urlMark, p.bodyMark, p.events)

/-- The parser `q` has the same to report as `p`, and is outside a request line. -/
structure HttpParser.Quiet (p q : HttpParser) : Prop where
  report : q.report = p.report
  state : q.state.inLine = false

theorem HttpParser.Quiet.trans {p q r : HttpParser} (h : p.Quiet q) (h' : q.Quiet r) : p.Quiet r :=
  ⟨h'.report.trans h.report, h'.state⟩

theorem HttpParser.Quiet.of_report {p p' q : HttpParser} (h : p'.Quiet q)
    (heq : p'.report = p.report) : p.Quiet q :=
  ⟨h.report.trans heq, h.state⟩

theorem HttpParser.Quiet.fields {p q : HttpParser} (h : p.Quiet q) :
    q.method = p.method ∧ q.urlMark = p.urlMark ∧ q.bodyMark = p.bodyMark ∧
      q.events = p.events := by
  have hreport := h.report
  simpa only [HttpParser.report, Prod.mk.injEq] using hreport

section Quiet

variable {p : HttpParser}

theorem quiet_goIf (b : Bool) {s : ParserState} (hp : p.state.inLine = false)
    (hs : s.inLine = false) : p.Quiet (p.goIf b s).parser := by
  rw [HttpParser.goIf]
  split
  · exact ⟨rfl, hs⟩
  · exact ⟨rfl, hp⟩

theorem quiet_reqHttpStart (hp : p.state.inLine = false) (ch : UInt8) :
    p.Quiet (p.reqHttpStart ch).parser := by
  rw [HttpParser.reqHttpStart]
  split
  · exact ⟨rfl, hp⟩
  split
  · exact ⟨rfl, rfl⟩
  split
  · exact ⟨rfl, rfl⟩
  · exact ⟨rfl, hp⟩

theorem quiet_reqHttpEnd (hp : p.state.inLine = false) (ch : UInt8) :
    p.Quiet (p.reqHttpEnd ch).parser := by
  rw [HttpParser.reqHttpEnd]
  split
  · exact ⟨rfl, rfl⟩
  · exact quiet_goIf _ hp rfl

theorem quiet_messageDone : p.Quiet p.messageDone.parser := by
  rw [HttpParser.messageDone]
  split
  · exact ⟨rfl, rfl⟩
  · exact ⟨rfl, rfl⟩

theorem quiet_headersDone : p.Quiet p.headersDone.parser := by
  simp only [HttpParser.headersDone]
  split
  · exact ⟨rfl, rfl⟩
  split
  · exact ⟨rfl, rfl⟩
  split
  · exact ⟨rfl, rfl⟩
  split
  · exact ⟨rfl, rfl⟩
  · exact ⟨rfl, rfl⟩

theorem quiet_headersAlmostDone (hp : p.state.inLine = false) :
    p.Quiet p.headersAlmostDone.parser := by
  rw [HttpParser.headersAlmostDone]
  split
  · exact quiet_messageDone
  split
  · exact ⟨rfl, hp⟩
  · exact quiet_headersDone.of_report rfl

theorem quiet_headerFieldStart (hp : p.state.inLine = false) (ch : UInt8) :
    p.Quiet (p.headerFieldStart ch).parser := by
  rw [HttpParser.headerFieldStart]
  split
  · exact ⟨rfl, rfl⟩
  split
  · exact quiet_headersAlmostDone hp
  split
  · exact ⟨rfl, hp⟩
  · exact ⟨rfl, rfl⟩

theorem quiet_matchWord (hp : p.state.inLine = false) (word : String) (found other : HeaderState)
    (c : UInt8) : p.Quiet (p.matchWord word found other c) := by
  simp only [HttpParser.matchWord]
  split
  · exact ⟨rfl, hp⟩
  split
  · exact ⟨rfl, hp⟩
  · exact ⟨rfl, hp⟩

theorem quiet_headerFieldChar (hp : p.state.inLine = false) (ch c : UInt8) :
    p.Quiet (p.headerFieldChar ch c) := by
  rw [HttpParser.headerFieldChar]
  split
  case h_9 | h_10 | h_11 | h_12 =>
    split
    · exact ⟨rfl, hp⟩
    · exact ⟨rfl, hp⟩
  all_goals first | exact ⟨rfl, hp⟩ | exact quiet_matchWord hp _ _ _ c

theorem quiet_headerField (hp : p.state.inLine = false) (ch : UInt8) :
    p.Quiet (p.headerField ch).parser := by
  rw [HttpParser.headerField]
  split
  · exact quiet_headerFieldChar hp ch _
  · exact quiet_goIf _ hp rfl

theorem quiet_headerValueStart (ch : UInt8) : p.Quiet (p.headerValueStart ch).parser := by
  simp only [HttpParser.headerValueStart]
  split
  case h_3 =>
    split
    · exact ⟨rfl, rfl⟩
    · exact ⟨rfl, rfl⟩
  all_goals exact ⟨rfl, rfl⟩

theorem quiet_headerValueDiscardWs (hp : p.state.inLine = false) (ch : UInt8) :
    p.Quiet (p.headerValueDiscardWs ch).parser := by
  rw [HttpParser.headerValueDiscardWs]
  split
  · exact ⟨rfl, hp⟩
  split
  · exact ⟨rfl, rfl⟩
  split
  · exact ⟨rfl, rfl⟩
  · exact quiet_headerValueStart ch

theorem quiet_contentLengthDigit (hp : p.state.inLine = false) (ch : UInt8) :
    p.Quiet (p.contentLengthDigit ch).parser := by
  rw [HttpParser.contentLengthDigit]
  split
  · exact ⟨rfl, hp⟩
  split
  · exact ⟨rfl, hp⟩
  · exact ⟨rfl, hp⟩

theorem quiet_headerValueChar (hp : p.state.inLine = false) (ch : UInt8) :
    p.Quiet (p.headerValueChar ch).parser := by
  simp only [HttpParser.headerValueChar]
  split
  all_goals
    repeat' split
    all_goals first
      | exact ⟨rfl, hp⟩
      | exact quiet_matchWord hp _ _ _ _
      | exact quiet_contentLengthDigit hp ch

theorem quiet_headerValue (hp : p.state.inLine = false) (ch : UInt8) :
    p.Quiet (p.headerValue ch).parser := by
  rw [HttpParser.headerValue]
  split
  · exact ⟨rfl, rfl⟩
  split
  · exact ⟨rfl, rfl⟩
  split
  · exact ⟨rfl, hp⟩
  · exact quiet_headerValueChar hp ch

theorem quiet_endHeader (hp : p.state.inLine = false) : p.Quiet p.endHeader := by
  rw [HttpParser.endHeader]
  split
  · exact ⟨rfl, hp⟩
  · exact ⟨rfl, hp⟩
  · exact ⟨rfl, hp⟩

/-- The end of a header is followed by the start of the next. -/
theorem quiet_endHeader_start (hp : p.state.inLine = false) (ch : UInt8) :
    p.Quiet (p.endHeader.headerFieldStart ch).parser :=
  (quiet_endHeader hp).trans (quiet_headerFieldStart (quiet_endHeader hp).state ch)

theorem quiet_headerValueLws (hp : p.state.inLine = false) (ch : UInt8) :
    p.Quiet (p.headerValueLws ch).parser := by
  rw [HttpParser.headerValueLws]
  split
  · exact (quiet_headerValueStart ch).of_report rfl
  · exact quiet_endHeader_start hp ch

theorem quiet_headerValueDiscardLws (hp : p.state.inLine = false) (ch : UInt8) :
    p.Quiet (p.headerValueDiscardLws ch).parser := by
  rw [HttpParser.headerValueDiscardLws]
  split
  · exact ⟨rfl, rfl⟩
  split
  · exact ⟨rfl, hp⟩
  · exact quiet_endHeader_start hp ch

theorem quiet_chunkSizeStart (hp : p.state.inLine = false) (ch : UInt8) :
    p.Quiet (p.chunkSizeStart ch).parser := by
  rw [HttpParser.chunkSizeStart]
  split
  · exact ⟨rfl, hp⟩
  · exact ⟨rfl, rfl⟩

theorem quiet_chunkSize (hp : p.state.inLine = false) (ch : UInt8) :
    p.Quiet (p.chunkSize ch).parser := by
  rw [HttpParser.chunkSize]
  split
  · exact ⟨rfl, rfl⟩
  split
  · exact quiet_goIf _ hp rfl
  split
  · exact ⟨rfl, hp⟩
  · exact ⟨rfl, hp⟩

theorem quiet_chunkSizeAlmostDone : p.Quiet p.chunkSizeAlmostDone.parser := by
  rw [HttpParser.chunkSizeAlmostDone]
  split
  · exact ⟨rfl, rfl⟩
  · exact ⟨rfl, rfl⟩

/-- A step that is neither in the request line nor in a body reports nothing. -/
theorem quiet_step (hlate : p.state.early = false) (hbody : p.state.inBody = false) (ch : UInt8) :
    p.Quiet (p.step ch).parser := by
  have hp := inLine_of_early hlate
  unfold HttpParser.step
  cases hs : p.state with
  | startReq | reqMethod | reqSpacesBeforeUrl | reqSchema | reqSchemaSlash | reqSchemaSlashSlash
  | reqServerStart | reqServer | reqServerWithAt | reqPath | reqQueryStringStart | reqQueryString
  | reqFragmentStart | reqFragment =>
    rw [hs] at hlate
    cases hlate
  | chunkData | chunkDataAlmostDone | bodyIdentity =>
    rw [hs] at hbody
    cases hbody
  | reqHttpH | reqHttpHT | reqHttpHTT | reqHttpI | reqHttpIC | reqHttpHTTP
  | headerValueDiscardWsAlmostDone | chunkDataDone => exact ⟨rfl, rfl⟩
  | reqHttpMajor | reqHttpDot | reqHttpMinor | reqLineAlmostDone | headerAlmostDone =>
    exact quiet_goIf _ hp rfl
  | reqHttpStart => exact quiet_reqHttpStart hp ch
  | reqHttpEnd => exact quiet_reqHttpEnd hp ch
  | headerFieldStart => exact quiet_headerFieldStart hp ch
  | headerField => exact quiet_headerField hp ch
  | headerValueDiscardWs => exact quiet_headerValueDiscardWs hp ch
  | headerValueDiscardLws => exact quiet_headerValueDiscardLws hp ch
  | headerValue => exact quiet_headerValue hp ch
  | headerValueLws => exact quiet_headerValueLws hp ch
  | headersAlmostDone => exact quiet_headersAlmostDone hp
  | chunkSizeStart => exact quiet_chunkSizeStart hp ch
  | chunkSize => exact quiet_chunkSize hp ch
  | chunkParameters =>
    show p.Quiet (ParseStep.parser (if ch = cr then _ else _))
    split
    · exact ⟨rfl, rfl⟩
    · exact ⟨rfl, hp⟩
  | chunkSizeAlmostDone => exact quiet_chunkSizeAlmostDone

end Quiet

/-! ### Steps behind the URL -/

/-- Bytes of a body are collected in the states of a body only. -/
def HttpParser.BodyMarked (p : HttpParser) : Prop :=
  p.bodyMark.isSome = true → p.state.inBody = true

/-- The parser `q` is outside a request line and has reported bodies of the message of `p`, if
anything. -/
structure HttpParser.Inside (p q : HttpParser) : Prop where
  method : q.method = p.method
  urlMark : q.urlMark = p.urlMark
  events : ∃ bodies : List (List UInt8), q.events = p.events ++ bodies.map (.body p.method)
  state : q.state.inLine = false
  marked : p.BodyMarked → q.BodyMarked

section Late

variable {p : HttpParser}

/-- A step that reports nothing leaves no bytes of a body, since there were none. -/
theorem HttpParser.Quiet.inside {q : HttpParser} (h : p.Quiet q) (hbody : p.state.inBody = false) :
    p.Inside q := by
  obtain ⟨hmethod, hurl, hmark, hevents⟩ := h.fields
  refine ⟨hmethod, hurl, ⟨[], by rw [hevents, List.map_nil, List.append_nil]⟩, h.state, ?_⟩
  intro hmarked hsome
  rw [hmark] at hsome
  have hin := hmarked hsome
  rw [hbody] at hin
  cases hin

/-- The bytes that were collected are reported. -/
theorem callbackBody_spec (p : HttpParser) :
    p.callbackBody.bodyMark = none ∧ p.callbackBody.method = p.method ∧
      p.callbackBody.urlMark = p.urlMark ∧
      ∃ bodies : List (List UInt8),
        p.callbackBody.events = p.events ++ bodies.map (.body p.method) := by
  rw [HttpParser.callbackBody]
  split
  · next hnone => exact ⟨hnone, rfl, rfl, [], (List.append_nil _).symm⟩
  · next bytes _ => exact ⟨rfl, rfl, rfl, [bytes], rfl⟩

theorem inside_bodyIdentity (hs : p.state = .bodyIdentity) (ch : UInt8) :
    p.Inside (p.bodyIdentity ch).parser := by
  have hpush : p.Inside { p.pushBody ch with contentLength := p.contentLength - 1 } := by
    refine ⟨rfl, rfl, ⟨[], (List.append_nil _).symm⟩, ?_, fun _ _ => ?_⟩
    · show p.state.inLine = false
      rw [hs]
      rfl
    · show p.state.inBody = true
      rw [hs]
      rfl
  rw [HttpParser.bodyIdentity]
  split
  · -- the body is complete, and the message with it
    obtain ⟨hmark, hmethod, hurl, hevents⟩ :=
      callbackBody_spec { p.pushBody ch with contentLength := p.contentLength - 1 }
    have hdone := quiet_messageDone (p :=
      ({ p.pushBody ch with contentLength := p.contentLength - 1 } : HttpParser).callbackBody)
    obtain ⟨hmethod', hurl', hmark', hevents'⟩ := hdone.fields
    refine ⟨hmethod'.trans hmethod, hurl'.trans hurl, ?_, hdone.state, fun _ hsome => ?_⟩
    · rw [hevents']
      exact hevents
    · rw [hmark', hmark] at hsome
      cases hsome
  · exact hpush

theorem inside_chunkData (hs : p.state = .chunkData) (ch : UInt8) :
    p.Inside (p.chunkData ch).parser := by
  simp only [HttpParser.chunkData]
  split
  · exact ⟨rfl, rfl, ⟨[], (List.append_nil _).symm⟩, rfl, fun _ _ => rfl⟩
  · refine ⟨rfl, rfl, ⟨[], (List.append_nil _).symm⟩, ?_, fun _ _ => ?_⟩
    · show p.state.inLine = false
      rw [hs]
      rfl
    · show p.state.inBody = true
      rw [hs]
      rfl

/-- **Behind the URL a step reports nothing but bodies of the message.** -/
theorem inside_step (hlate : p.state.early = false) (ch : UInt8) :
    p.Inside (p.step ch).parser := by
  cases hbody : p.state.inBody with
  | false => exact (quiet_step hlate hbody ch).inside hbody
  | true =>
    unfold HttpParser.step
    cases hs : p.state with
    | chunkData => exact inside_chunkData hs ch
    | bodyIdentity => exact inside_bodyIdentity hs ch
    | chunkDataAlmostDone =>
      obtain ⟨hmark, hmethod, hurl, hevents⟩ := callbackBody_spec p
      refine ⟨hmethod, hurl, hevents, rfl, fun _ hsome => ?_⟩
      have hsome' : p.callbackBody.bodyMark.isSome = true := hsome
      rw [hmark] at hsome'
      cases hsome'
    | _ =>
      rw [hs] at hbody
      cases hbody

/-- **Behind the URL no step goes back into one.** -/
theorem later_step (hlate : p.state.early = false) (ch : UInt8) : p.Later (p.step ch).parser := by
  have hinside := inside_step hlate ch
  obtain ⟨bodies, hevents⟩ := hinside.events
  exact ⟨⟨_, hevents⟩, inUrl_of_inLine hinside.state⟩

end Late

/-! Before the URL has ended, the only callback is its own. -/

section Early

variable {p : HttpParser}

/-- Nothing is reported and the URL is not left. -/
theorem HttpParser.Ordered.early {q : HttpParser} (h : p.Ordered) (he : q.events = p.events)
    (hb : q.bodyMark = p.bodyMark) (hs : q.state.early = true)
    (hm : q.state.inUrl = true → q.urlMark.isSome = true) : q.Ordered := by
  refine ⟨fun e => ?_, fun hl => ?_, hm⟩
  · rw [he]
    exact h.head e
  · rw [he]
    refine h.late (Or.inr ?_)
    rw [← hb]
    exact hl.resolve_left (by simp [hs])

/-- The URL automaton stays inside the URL. -/
theorem inUrl_of_parseUrlChar {s s' : ParserState} {ch : UInt8}
    (h : parseUrlChar s ch = some s') : s'.inUrl = true := by
  unfold parseUrlChar at h
  split at h
  · cases h
  split at h
  all_goals
    repeat' split at h
    all_goals
      cases h
      try rfl

theorem early_of_inUrl {s : ParserState} (h : s.inUrl = true) : s.early = true := by
  cases s <;> first | rfl | cases h

theorem ordered_urlChar (h : p.Ordered) (s : ParserState) (ch : UInt8) :
    (p.urlChar s ch).parser.Ordered := by
  rw [HttpParser.urlChar]
  split
  · exact h
  · next s' hs' =>
    have hin := inUrl_of_parseUrlChar hs'
    exact h.early rfl rfl (early_of_inUrl hin) fun _ => rfl

theorem ordered_startReq (h : p.Ordered) (ch : UInt8) :
    (p.startReq ch).parser.Ordered := by
  rw [HttpParser.startReq]
  split
  · exact h
  split
  · exact h
  · exact h.early rfl rfl rfl nofun

theorem ordered_reqMethod (h : p.Ordered) (hs : p.state = .reqMethod) (ch : UInt8) :
    (p.reqMethod ch).parser.Ordered := by
  have hin : p.state.inUrl = true → p.urlMark.isSome = true := h.mark
  have hearly : p.state.early = true := by rw [hs]; rfl
  rw [HttpParser.reqMethod]
  split
  · exact h
  split
  · exact h.early rfl rfl rfl nofun
  split
  · exact h.early rfl rfl hearly hin
  split
  · split
    · exact h
    · exact h.early rfl rfl hearly hin
  · exact h

theorem ordered_reqSpacesBeforeUrl (h : p.Ordered) (ch : UInt8) :
    (p.reqSpacesBeforeUrl ch).parser.Ordered := by
  rw [HttpParser.reqSpacesBeforeUrl]
  split
  · exact h
  split
  · exact ordered_urlChar h _ ch
  · exact ordered_urlChar h _ ch

/-- A reported URL keeps the first callback, or is it. -/
theorem isUrl_of_head_append {events : List ParserEvent} {m : HttpMethod} {bytes : List UInt8}
    {e : ParserEvent} (h : ∀ e, events.head? = some e → e.isUrl = true)
    (he : (events ++ [ParserEvent.url m bytes]).head? = some e) : e.isUrl = true := by
  rw [List.head?_append] at he
  cases hhead : events.head? with
  | none =>
    rw [hhead] at he
    cases he
    rfl
  | some e' =>
    rw [hhead] at he
    cases he
    exact h e hhead

/-- The end of the URL reports it. -/
theorem ordered_callbackUrl (h : p.Ordered) (hin : p.state.inUrl = true) {s : ParserState}
    (hs : s.inUrl = false) : ({ p.callbackUrl with state := s } : HttpParser).Ordered := by
  obtain ⟨bytes, hmark⟩ := Option.isSome_iff_exists.mp (h.mark hin)
  have hevents : p.callbackUrl.events = p.events ++ [.url p.method bytes] := by
    rw [HttpParser.callbackUrl, hmark]
  refine ⟨fun e he => ?_, fun _ => ?_, fun hs' => ?_⟩
  · have he' : p.callbackUrl.events.head? = some e := he
    rw [hevents] at he'
    exact isUrl_of_head_append h.head he'
  · show p.callbackUrl.events ≠ []
    rw [hevents]
    simp
  · rw [hs] at hs'
    cases hs'

theorem ordered_urlOrEnd (h : p.Ordered) (hin : p.state.inUrl = true) (ch : UInt8) :
    (p.urlOrEnd ch).parser.Ordered := by
  rw [HttpParser.urlOrEnd]
  split
  · exact ordered_callbackUrl h hin rfl
  split
  · exact ordered_callbackUrl h hin rfl
  split
  · exact ordered_callbackUrl h hin rfl
  · exact ordered_urlChar h _ ch

end Early

/-- **Every byte keeps the order.** -/
theorem ordered_step {p : HttpParser} (h : p.Ordered) (ch : UInt8) : (p.step ch).parser.Ordered := by
  cases hearly : p.state.early with
  | false => exact h.later (h.late (Or.inl hearly)) (later_step hearly ch)
  | true =>
    unfold HttpParser.step
    cases hs : p.state with
    | startReq => exact ordered_startReq h ch
    | reqMethod => exact ordered_reqMethod h hs ch
    | reqSpacesBeforeUrl => exact ordered_reqSpacesBeforeUrl h ch
    | reqSchema | reqSchemaSlash | reqSchemaSlashSlash | reqServerStart =>
      exact ordered_urlChar h _ ch
    | reqServer | reqServerWithAt | reqPath | reqQueryStringStart | reqQueryString
    | reqFragmentStart | reqFragment => exact ordered_urlOrEnd h (by rw [hs]; rfl) ch
    | _ =>
      rw [hs] at hearly
      cases hearly

/-- Flushing what is left keeps the order. -/
theorem ordered_flush {p : HttpParser} (h : p.Ordered) :
    ∀ e, p.callbackUrl.callbackBody.events.head? = some e → e.isUrl = true := by
  intro e he
  have hlate : ∀ body, p.bodyMark = some body → p.events ≠ [] := fun body hbody =>
    h.late (Or.inr (by rw [hbody]; rfl))
  cases hurl : p.urlMark with
  | none =>
    simp only [HttpParser.callbackUrl, hurl] at he
    cases hbody : p.bodyMark with
    | none =>
      simp only [HttpParser.callbackBody, hbody] at he
      exact h.head e he
    | some body =>
      simp only [HttpParser.callbackBody, hbody] at he
      rw [List.head?_append_of_ne_nil _ (hlate body hbody)] at he
      exact h.head e he
  | some url =>
    simp only [HttpParser.callbackUrl, hurl] at he
    cases hbody : p.bodyMark with
    | none =>
      simp only [HttpParser.callbackBody, hbody] at he
      exact isUrl_of_head_append h.head he
    | some body =>
      simp only [HttpParser.callbackBody, hbody] at he
      rw [List.append_assoc, List.head?_append_of_ne_nil _ (hlate body hbody)] at he
      exact h.head e he

theorem ordered_feed : ∀ (data : List UInt8) (p : HttpParser), p.Ordered →
    ∀ e, (p.feed data).events.head? = some e → e.isUrl = true := by
  intro data
  induction data with
  | nil => exact fun p h => ordered_flush h
  | cons ch rest ih =>
    intro p h
    have hstep := ordered_step h ch
    rw [HttpParser.feed]
    split
    · next q hq =>
      rw [hq] at hstep
      exact ih q hstep
    · next q hq =>
      rw [hq] at hstep
      exact hstep.head
    · next q hq =>
      rw [hq] at hstep
      exact hstep.head

/-- **What a fresh parser reports starts with a URL.** -/
theorem httpParserExecute_head (data : List UInt8) :
    ∀ e, (httpParserExecute data).head? = some e → e.isUrl = true :=
  ordered_feed data httpParserInit ordered_init

/-- A fresh parser reports nothing of a single byte. -/
theorem httpParserExecute_singleton (ch : UInt8) : httpParserExecute [ch] = [] := by
  have hstep : httpParserInit.step ch = httpParserInit.startReq ch := rfl
  rw [httpParserExecute, HttpParser.feed, hstep, HttpParser.startReq]
  by_cases hline : ch = cr ∨ ch = lf
  · -- a line end before the request is skipped
    rw [if_pos hline]
    rfl
  · rw [if_neg hline]
    cases firstMethod ch with
    | none => rfl
    | some m => rfl

end CameraDaemon
