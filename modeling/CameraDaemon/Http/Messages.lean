import CameraDaemon.Http.Order
import Mathlib.Data.List.Nodup

/-!
# The messages of a parser

A call of `http_parser_execute` may go through several messages.  A message begins where the source
notifies `on_message_begin`, at the first letter of its method; counting these places gives every
callback the number of the message that it belongs to.

The callbacks of a call are then messages, one after another: each of them its URL, once, and behind
it its bodies.  Nothing is assumed of the input.

## Main definitions

* `HttpParser.numbered`, `httpParserMessages` — the callbacks, with the numbers of their messages.
* `HttpMessage`, `HttpMessage.events` — a message and its callbacks.
* `HttpParser.Told` — what a parser has reported are messages, and what it holds belongs to the last.

## Main results

* `tells_step` — every byte keeps it so.
* `map_snd_httpParserMessages` — the numbers are only added.
* `httpParserMessages_eq` — **the callbacks of a call are messages, one after another.**
* `httpParserMessages_body` — a body stands behind the URL of its message, and no URL between them.
-/

namespace CameraDaemon

/-! ### Numbers -/

/-- The callbacks that `q` has made and `p` had not. -/
def HttpParser.newEvents (p q : HttpParser) : List ParserEvent := q.events.drop p.events.length

/-- The number of the message, counted up where the source notifies `on_message_begin`. -/
def HttpParser.number (p q : HttpParser) (n : ℕ) : ℕ :=
  if p.state = .startReq ∧ q.state = .reqMethod then n + 1 else n

/-- The callbacks of `HttpParser.feed` with the numbers of their messages, from message `n` on. -/
def HttpParser.numbered (p : HttpParser) (n : ℕ) : List UInt8 → List (ℕ × ParserEvent)
  | [] => (p.newEvents p.callbackUrl.callbackBody).map (Prod.mk n)
  | ch :: rest =>
    let q := (p.step ch).parser
    (p.newEvents q).map (Prod.mk (p.number q n)) ++
      match p.step ch with
      | .next q => q.numbered (p.number q n) rest
      | .stop _ => []
      | .error _ => []

/-- The callbacks of a call on a fresh parser, with the numbers of their messages. -/
def httpParserMessages (data : List UInt8) : List (ℕ × ParserEvent) :=
  httpParserInit.numbered 0 data

/-- A message, as far as it is reported. -/
structure HttpMessage where
  number : ℕ
  method : HttpMethod
  url : List UInt8
  bodies : List (List UInt8)
  deriving DecidableEq, Repr

/-- The callbacks of a message: its URL, then its bodies. -/
def HttpMessage.events (m : HttpMessage) : List (ℕ × ParserEvent) :=
  (m.number, .url m.method m.url) :: m.bodies.map fun body => (m.number, .body m.method body)

/-- The messages have rising numbers up to `n`, and no URL holds a zero. -/
structure Numbered (n : ℕ) (msgs : List HttpMessage) : Prop where
  increasing : msgs.Pairwise fun m m' => m.number < m'.number
  nonzero : ∀ m ∈ msgs, ∀ c ∈ m.url, c ≠ 0
  le : ∀ m ∈ msgs, m.number ≤ n

section Numbered

variable {n : ℕ} {msgs init : List HttpMessage}

theorem Numbered.mono (h : Numbered n msgs) {n' : ℕ} (hle : n ≤ n') : Numbered n' msgs :=
  ⟨h.increasing, h.nonzero, fun m hm => Nat.le_trans (h.le m hm) hle⟩

/-- A new message. -/
theorem Numbered.concat (h : Numbered n msgs) (hlt : ∀ m ∈ msgs, m.number < n) {m : HttpMessage}
    (hm : m.number = n) (hurl : ∀ c ∈ m.url, c ≠ 0) : Numbered n (msgs ++ [m]) := by
  refine ⟨?_, ?_, ?_⟩
  · refine List.pairwise_append.mpr ⟨h.increasing, List.pairwise_singleton _ _, ?_⟩
    intro a ha b hb
    rw [List.mem_singleton.mp hb, hm]
    exact hlt a ha
  · intro a ha
    rcases List.mem_append.mp ha with hold | hnew
    · exact h.nonzero a hold
    · rw [List.mem_singleton.mp hnew]
      exact hurl
  · intro a ha
    rcases List.mem_append.mp ha with hold | hnew
    · exact h.le a hold
    · rw [List.mem_singleton.mp hnew, hm]

/-- More bodies of the last message. -/
theorem Numbered.addBodies {m : HttpMessage} (h : Numbered n (init ++ [m]))
    (bodies : List (List UInt8)) :
    Numbered n (init ++ [{ m with bodies := m.bodies ++ bodies }]) := by
  have hmem : m ∈ init ++ [m] := List.mem_append_right _ (List.mem_singleton_self m)
  have hpair := List.pairwise_append.mp h.increasing
  refine ⟨?_, ?_, ?_⟩
  · refine List.pairwise_append.mpr ⟨hpair.1, List.pairwise_singleton _ _, ?_⟩
    intro a ha b hb
    rw [List.mem_singleton.mp hb]
    exact hpair.2.2 a ha m (List.mem_singleton_self m)
  · intro a ha
    rcases List.mem_append.mp ha with hold | hnew
    · exact h.nonzero a (List.mem_append_left _ hold)
    · rw [List.mem_singleton.mp hnew]
      exact h.nonzero m hmem
  · intro a ha
    rcases List.mem_append.mp ha with hold | hnew
    · exact h.le a (List.mem_append_left _ hold)
    · rw [List.mem_singleton.mp hnew]
      exact h.le m hmem

/-- The callbacks of the last message grow by those of its bodies. -/
theorem flatMap_addBodies (init : List HttpMessage) (m : HttpMessage)
    (bodies : List (List UInt8)) :
    (init ++ [{ m with bodies := m.bodies ++ bodies }]).flatMap HttpMessage.events =
      (init ++ [m]).flatMap HttpMessage.events ++
        (bodies.map (ParserEvent.body m.method)).map (Prod.mk m.number) := by
  simp [HttpMessage.events, Function.comp_def]

end Numbered

/-! ### What a parser has told -/

/-- What the parser has reported are messages up to number `n`.  In a request line none of them has
that number; behind it the last one has, and what the parser still holds belongs to it. -/
structure HttpParser.Told (p : HttpParser) (n : ℕ) (msgs : List HttpMessage) : Prop where
  numbered : Numbered n msgs
  urlMark : ∀ bytes, p.urlMark = some bytes → p.state.inUrl = true ∧ ∀ c ∈ bytes, c ≠ 0
  inUrl : p.state.inUrl = true → p.urlMark.isSome = true
  bodyMark : p.BodyMarked
  line : p.state.inLine = true → ∀ m ∈ msgs, m.number < n
  last : p.state.early = false →
    ∃ init m, msgs = init ++ [m] ∧ m.number = n ∧ m.method = p.method

theorem told_init : httpParserInit.Told 0 [] where
  numbered := ⟨List.Pairwise.nil, nofun, nofun⟩
  urlMark := nofun
  inUrl := nofun
  bodyMark := nofun
  line := nofun
  last := nofun

/-- The parser `q`, which follows `p`, has told the messages of `p` and what is new. -/
structure HttpParser.Tells (p q : HttpParser) (n : ℕ) (msgs : List HttpMessage) : Prop where
  grows : p.events <+: q.events
  told : ∃ msgs', q.Told (p.number q n) msgs' ∧
    msgs'.flatMap HttpMessage.events =
      msgs.flatMap HttpMessage.events ++ (p.newEvents q).map (Prod.mk (p.number q n))

section Tells

variable {p q : HttpParser} {n : ℕ} {msgs : List HttpMessage}

theorem newEvents_of_append {events : List ParserEvent} (h : q.events = p.events ++ events) :
    p.newEvents q = events := by
  rw [HttpParser.newEvents, h, List.drop_left]

/-- A step that makes no callback. -/
theorem HttpParser.Told.silent (h : q.Told (p.number q n) msgs) (hevents : q.events = p.events) :
    p.Tells q n msgs := by
  have hnew : p.newEvents q = [] := newEvents_of_append (by rw [hevents, List.append_nil])
  refine ⟨hevents ▸ List.prefix_rfl, msgs, h, ?_⟩
  rw [hnew, List.map_nil, List.append_nil]

/-- Only the first letter of a method counts. -/
theorem number_of_ne (hs : p.state ≠ .startReq) (q : HttpParser) (n : ℕ) : p.number q n = n :=
  if_neg fun h => hs h.1

theorem ne_startReq_of_early (h : p.state.early = false) : p.state ≠ .startReq := by
  intro hs
  rw [hs] at h
  cases h

theorem ne_startReq_of_inLine (h : p.state.inLine = true) : p.state ≠ .startReq := by
  intro hs
  rw [hs] at h
  cases h

theorem early_of_inLine {s : ParserState} (h : s.inLine = true) : s.early = true := by
  cases s <;> first | rfl | cases h

theorem inLine_of_inUrl {s : ParserState} (h : s.inUrl = true) : s.inLine = true := by
  cases s <;> first | rfl | cases h

theorem inBody_of_early {s : ParserState} (h : s.early = true) : s.inBody = false := by
  cases s <;> first | rfl | cases h

theorem early_of_inBody {s : ParserState} (h : s.inBody = true) : s.early = false := by
  cases s <;> first | rfl | cases h

/-- Outside a URL no bytes of one are held. -/
theorem HttpParser.Told.urlMark_ne (h : p.Told n msgs) (hout : p.state.inUrl = false)
    (bytes : List UInt8) : p.urlMark ≠ some bytes := by
  intro hmark
  have hin := (h.urlMark bytes hmark).1
  rw [hout] at hin
  cases hin

/-- Behind the URL there are only bodies. -/
theorem tells_late (h : p.Told n msgs) (hlate : p.state.early = false) (ch : UInt8) :
    p.Tells (p.step ch).parser n msgs := by
  have hinside := inside_step hlate ch
  obtain ⟨bodies, hevents⟩ := hinside.events
  obtain ⟨init, m, rfl, hnumber, hmethod⟩ := h.last hlate
  refine ⟨by rw [hevents]; exact List.prefix_append _ _,
    init ++ [{ m with bodies := m.bodies ++ bodies }], ?_, ?_⟩
  · rw [number_of_ne (ne_startReq_of_early hlate)]
    refine ⟨h.numbered.addBodies bodies, ?_, ?_, hinside.marked h.bodyMark, ?_, ?_⟩
    · intro bytes hbytes
      rw [hinside.urlMark] at hbytes
      exact absurd hbytes (h.urlMark_ne (inUrl_of_inLine (inLine_of_early hlate)) bytes)
    · intro hin
      rw [inUrl_of_inLine hinside.state] at hin
      cases hin
    · intro hin
      rw [hinside.state] at hin
      cases hin
    · intro _
      exact ⟨init, _, rfl, hnumber, hmethod.trans hinside.method.symm⟩
  · rw [number_of_ne (ne_startReq_of_early hlate), newEvents_of_append hevents,
      flatMap_addBodies, hnumber, hmethod]

/-- In the request line, without a callback: the method may still change. -/
theorem HttpParser.Told.line_of (h : p.Told n msgs) (hp : p.state.inLine = true)
    (hq : q.state.inLine = true) (hbody : q.bodyMark = p.bodyMark)
    (hurl : ∀ bytes, q.urlMark = some bytes → q.state.inUrl = true ∧ ∀ c ∈ bytes, c ≠ 0)
    (hin : q.state.inUrl = true → q.urlMark.isSome = true) : q.Told n msgs := by
  have hnone : p.bodyMark.isSome ≠ true := by
    intro hsome
    have hmarked := h.bodyMark hsome
    rw [inBody_of_early (early_of_inLine hp)] at hmarked
    cases hmarked
  refine ⟨h.numbered, hurl, hin, ?_, fun _ => h.line hp, ?_⟩
  · intro hsome
    rw [hbody] at hsome
    exact absurd hsome hnone
  · intro hlate
    rw [early_of_inLine hq] at hlate
    cases hlate

/-- Between two messages. -/
theorem tells_startReq (h : p.Told n msgs) (hs : p.state = .startReq) (ch : UInt8) :
    p.Tells (p.startReq ch).parser n msgs := by
  have hsame : p.number p n = n := if_neg fun h => absurd (hs.symm.trans h.2) (by decide)
  have hstay : p.Tells p n msgs := HttpParser.Told.silent (by rw [hsame]; exact h) rfl
  rw [HttpParser.startReq]
  split
  · exact hstay
  split
  · exact hstay
  · next m hm =>
    -- a message begins
    refine HttpParser.Told.silent ?_ rfl
    rw [HttpParser.number, if_pos ⟨hs, rfl⟩]
    refine ⟨h.numbered.mono (Nat.le_succ n), ?_, ?_, ?_, ?_, ?_⟩
    · intro bytes hbytes
      exact absurd hbytes (h.urlMark_ne (by rw [hs]; rfl) bytes)
    · intro hin
      cases hin
    · intro hsome
      have hin := h.bodyMark hsome
      rw [hs] at hin
      cases hin
    · exact fun _ a ha => Nat.lt_succ_of_le (h.numbered.le a ha)
    · intro hlate
      cases hlate

theorem tells_reqMethod (h : p.Told n msgs) (hs : p.state = .reqMethod) (ch : UInt8) :
    p.Tells (p.reqMethod ch).parser n msgs := by
  have hp : p.state.inLine = true := by rw [hs]; rfl
  have hnum : ∀ q, p.number q n = n := fun q => number_of_ne (ne_startReq_of_inLine hp) q n
  have hout : p.state.inUrl = false := by rw [hs]; rfl
  have hstay : ∀ q : HttpParser, q.events = p.events → q.state.inUrl = false →
      q.state.inLine = true → q.urlMark = p.urlMark → q.bodyMark = p.bodyMark →
      p.Tells q n msgs := by
    intro q hevents hout' hq hmark hbody
    refine HttpParser.Told.silent ?_ hevents
    rw [hnum]
    refine h.line_of hp hq hbody ?_ ?_
    · intro bytes hbytes
      exact absurd (hmark.symm.trans hbytes) (h.urlMark_ne hout bytes)
    · intro hin
      rw [hout'] at hin
      cases hin
  rw [HttpParser.reqMethod]
  split
  · exact hstay p rfl hout hp rfl rfl
  split
  · exact hstay _ rfl rfl rfl rfl rfl
  split
  · exact hstay _ rfl hout hp rfl rfl
  split
  · split
    · exact hstay p rfl hout hp rfl rfl
    · exact hstay _ rfl hout hp rfl rfl
  · exact hstay p rfl hout hp rfl rfl

/-- The URL automaton accepts no zero. -/
theorem ne_zero_of_parseUrlChar {s s' : ParserState} {ch : UInt8}
    (h : parseUrlChar s ch = some s') : ch ≠ 0 := by
  rintro rfl
  revert h
  cases s <;> decide +revert

/-- A character of the URL. -/
theorem tells_urlChar (h : p.Told n msgs) (hp : p.state.inLine = true) (s : ParserState)
    (ch : UInt8) : p.Tells (p.urlChar s ch).parser n msgs := by
  have hnum : ∀ q, p.number q n = n := fun q => number_of_ne (ne_startReq_of_inLine hp) q n
  rw [HttpParser.urlChar]
  split
  · refine HttpParser.Told.silent ?_ rfl
    rw [hnum]
    exact h
  · next s' hs' =>
    have hin := inUrl_of_parseUrlChar hs'
    refine HttpParser.Told.silent ?_ rfl
    rw [hnum]
    refine h.line_of hp (inLine_of_inUrl hin) rfl ?_ fun _ => rfl
    rintro _ ⟨⟩
    refine ⟨hin, fun c hc => ?_⟩
    rcases List.mem_append.mp hc with hold | hnew
    · cases hmark : p.urlMark with
      | none =>
        rw [hmark] at hold
        cases hold
      | some bytes =>
        rw [hmark] at hold
        exact (h.urlMark bytes hmark).2 c hold
    · rw [List.mem_singleton.mp hnew]
      exact ne_zero_of_parseUrlChar hs'

theorem tells_reqSpacesBeforeUrl (h : p.Told n msgs) (hs : p.state = .reqSpacesBeforeUrl)
    (ch : UInt8) : p.Tells (p.reqSpacesBeforeUrl ch).parser n msgs := by
  have hp : p.state.inLine = true := by rw [hs]; rfl
  rw [HttpParser.reqSpacesBeforeUrl]
  split
  · refine HttpParser.Told.silent ?_ rfl
    rw [number_of_ne (ne_startReq_of_inLine hp)]
    exact h
  split
  · exact tells_urlChar h hp _ ch
  · exact tells_urlChar h hp _ ch

/-- The message whose URL has been collected. -/
def HttpParser.newMessage (p : HttpParser) (n : ℕ) (url : List UInt8) : HttpMessage :=
  { number := n, method := p.method, url := url, bodies := [] }

theorem flatMap_newMessage (p : HttpParser) (n : ℕ) (url : List UInt8) (msgs : List HttpMessage) :
    (msgs ++ [p.newMessage n url]).flatMap HttpMessage.events =
      msgs.flatMap HttpMessage.events ++ [ParserEvent.url p.method url].map (Prod.mk n) := by
  simp [HttpMessage.events, HttpParser.newMessage]

/-- Inside a URL no bytes of a body are held. -/
theorem HttpParser.Told.bodyMark_eq_none (h : p.Told n msgs) (hearly : p.state.early = true) :
    p.bodyMark = none := by
  cases hmark : p.bodyMark with
  | none => rfl
  | some bytes =>
    have hin := h.bodyMark (by rw [hmark]; rfl)
    rw [inBody_of_early hearly] at hin
    cases hin

theorem callbackUrl_spec {url : List UInt8} (h : p.urlMark = some url) :
    p.callbackUrl.urlMark = none ∧ p.callbackUrl.method = p.method ∧
      p.callbackUrl.bodyMark = p.bodyMark ∧
      p.callbackUrl.events = p.events ++ [.url p.method url] := by
  rw [HttpParser.callbackUrl, h]
  exact ⟨rfl, rfl, rfl, rfl⟩

/-- The end of the URL: it is reported, and a message has been told. -/
theorem tells_callbackUrl (h : p.Told n msgs) (hin : p.state.inUrl = true) {s : ParserState}
    (hlate : s.early = false) : p.Tells { p.callbackUrl with state := s } n msgs := by
  obtain ⟨url, hurl⟩ := Option.isSome_iff_exists.mp (h.inUrl hin)
  obtain ⟨hmark, hmethod, hbody, hevents⟩ := callbackUrl_spec hurl
  have hp := inLine_of_inUrl hin
  rw [h.bodyMark_eq_none (early_of_inLine hp)] at hbody
  refine ⟨hevents ▸ List.prefix_append _ _, msgs ++ [p.newMessage n url], ?_, ?_⟩
  · rw [number_of_ne (ne_startReq_of_inLine hp)]
    refine ⟨h.numbered.concat (h.line hp) rfl (h.urlMark url hurl).2, ?_, ?_, ?_, ?_, ?_⟩
    · intro bytes hbytes
      cases hmark.symm.trans hbytes
    · intro hin'
      rw [inUrl_of_inLine (inLine_of_early hlate)] at hin'
      cases hin'
    · intro hsome
      have hsome' : p.callbackUrl.bodyMark.isSome = true := hsome
      rw [hbody] at hsome'
      cases hsome'
    · intro hline
      rw [inLine_of_early hlate] at hline
      cases hline
    · exact fun _ => ⟨msgs, _, rfl, rfl, hmethod.symm⟩
  · rw [number_of_ne (ne_startReq_of_inLine hp), flatMap_newMessage,
      ← newEvents_of_append (q := { p.callbackUrl with state := s }) hevents]

theorem tells_urlOrEnd (h : p.Told n msgs) (hin : p.state.inUrl = true) (ch : UInt8) :
    p.Tells (p.urlOrEnd ch).parser n msgs := by
  rw [HttpParser.urlOrEnd]
  split
  · exact tells_callbackUrl h hin rfl
  split
  · exact tells_callbackUrl h hin rfl
  split
  · exact tells_callbackUrl h hin rfl
  · exact tells_urlChar h (inLine_of_inUrl hin) _ ch

/-- **Every byte leaves a parser that has told messages.** -/
theorem tells_step (h : p.Told n msgs) (ch : UInt8) : p.Tells (p.step ch).parser n msgs := by
  cases hearly : p.state.early with
  | false => exact tells_late h hearly ch
  | true =>
    unfold HttpParser.step
    cases hs : p.state with
    | startReq => exact tells_startReq h hs ch
    | reqMethod => exact tells_reqMethod h hs ch
    | reqSpacesBeforeUrl => exact tells_reqSpacesBeforeUrl h hs ch
    | reqSchema | reqSchemaSlash | reqSchemaSlashSlash | reqServerStart =>
      exact tells_urlChar h (by rw [hs]; rfl) _ ch
    | reqServer | reqServerWithAt | reqPath | reqQueryStringStart | reqQueryString
    | reqFragmentStart | reqFragment => exact tells_urlOrEnd h (by rw [hs]; rfl) ch
    | _ =>
      rw [hs] at hearly
      cases hearly

/-- The end of the input: what is held is reported. -/
theorem told_flush (h : p.Told n msgs) :
    p.events <+: p.callbackUrl.callbackBody.events ∧
      ∃ msgs', Numbered n msgs' ∧ msgs'.flatMap HttpMessage.events =
        msgs.flatMap HttpMessage.events ++
          (p.newEvents p.callbackUrl.callbackBody).map (Prod.mk n) := by
  cases hurl : p.urlMark with
  | some url =>
    -- the input ends inside a URL
    obtain ⟨hin, hnonzero⟩ := h.urlMark url hurl
    obtain ⟨-, -, hbody, hevents⟩ := callbackUrl_spec hurl
    have hp := inLine_of_inUrl hin
    have hflush : p.callbackUrl.callbackBody = p.callbackUrl := by
      rw [HttpParser.callbackBody, hbody, h.bodyMark_eq_none (early_of_inLine hp)]
    rw [hflush]
    refine ⟨hevents ▸ List.prefix_append _ _, msgs ++ [p.newMessage n url],
      h.numbered.concat (h.line hp) rfl hnonzero, ?_⟩
    rw [newEvents_of_append hevents, flatMap_newMessage]
  | none =>
    have hflush : p.callbackUrl = p := by rw [HttpParser.callbackUrl, hurl]
    rw [hflush]
    cases hbody : p.bodyMark with
    | none =>
      have hnone : p.callbackBody = p := by rw [HttpParser.callbackBody, hbody]
      rw [hnone, newEvents_of_append (List.append_nil _).symm]
      exact ⟨List.prefix_rfl, msgs, h.numbered, (List.append_nil _).symm⟩
    | some body =>
      -- the input ends inside a body
      have hlate := early_of_inBody (h.bodyMark (by rw [hbody]; rfl))
      obtain ⟨init, m, rfl, hnumber, hmethod⟩ := h.last hlate
      obtain ⟨-, -, -, bodies, hevents⟩ := callbackBody_spec p
      refine ⟨hevents ▸ List.prefix_append _ _, _, h.numbered.addBodies bodies, ?_⟩
      rw [newEvents_of_append hevents, flatMap_addBodies, hnumber, hmethod]

end Tells

/-! ### A call of the parser -/

/-- The numbered callbacks are messages, and without the numbers they are the callbacks. -/
theorem told_feed : ∀ (data : List UInt8) (p : HttpParser) (n : ℕ) (msgs : List HttpMessage),
    p.Told n msgs →
      (p.feed data).events = p.events ++ (p.numbered n data).map Prod.snd ∧
      ∃ n' msgs', Numbered n' msgs' ∧ msgs'.flatMap HttpMessage.events =
        msgs.flatMap HttpMessage.events ++ p.numbered n data := by
  have hsnd : ∀ (k : ℕ) (events : List ParserEvent),
      (events.map (Prod.mk k)).map Prod.snd = events := by
    intro k events
    rw [List.map_map]
    exact List.map_id events
  intro data
  induction data with
  | nil =>
    intro p n msgs h
    obtain ⟨hgrows, msgs', hnum, hflat⟩ := told_flush h
    refine ⟨?_, n, msgs', hnum, hflat⟩
    rw [HttpParser.feed, HttpParser.numbered, hsnd]
    exact (List.prefix_iff_eq_append.mp hgrows).symm
  | cons ch rest ih =>
    intro p n msgs h
    obtain ⟨hgrows, msgs', htold, hflat⟩ := tells_step h ch
    have hevents := (List.prefix_iff_eq_append.mp hgrows).symm
    simp only [HttpParser.feed, HttpParser.numbered]
    cases hstep : p.step ch with
    | next q =>
      rw [hstep] at htold hflat hevents
      obtain ⟨hrest, n'', msgs'', hnum, hflat'⟩ := ih q _ msgs' htold
      refine ⟨?_, n'', msgs'', hnum, ?_⟩
      · rw [List.map_append, hsnd, ← List.append_assoc]
        exact hrest.trans (congrArg (· ++ _) hevents)
      · rw [hflat', hflat, List.append_assoc]
        rfl
    | stop q | error q =>
      rw [hstep] at htold hflat hevents
      refine ⟨?_, _, msgs', htold.numbered, ?_⟩
      · rw [List.append_nil, hsnd]
        exact hevents
      · rw [List.append_nil]
        exact hflat

/-- **The numbers are only added.** -/
theorem map_snd_httpParserMessages (data : List UInt8) :
    (httpParserMessages data).map Prod.snd = httpParserExecute data :=
  ((told_feed data httpParserInit 0 [] told_init).1).symm

/-- **The callbacks of a call are messages, one after another.** -/
theorem httpParserMessages_eq (data : List UInt8) :
    ∃ n msgs, Numbered n msgs ∧ httpParserMessages data = msgs.flatMap HttpMessage.events := by
  obtain ⟨-, n, msgs, hnum, hflat⟩ := told_feed data httpParserInit 0 [] told_init
  exact ⟨n, msgs, hnum, hflat.symm⟩

example : httpParserMessages (CString.ascii
      "POST /a HTTP/1.1\r\nContent-Length: 1\r\n\r\nxPUT /b HTTP/1.1\r\n\r\nGET /c") =
    [(1, .url .post (CString.ascii "/a")), (1, .body .post (CString.ascii "x")),
      (2, .url .put (CString.ascii "/b")), (3, .url .get (CString.ascii "/c"))] := by
  decide +kernel

/-- A callback of a message is its URL or one of its bodies. -/
theorem mem_events {m : HttpMessage} {e : ℕ × ParserEvent} (h : e ∈ m.events) :
    e = (m.number, .url m.method m.url) ∨ ∃ body, e = (m.number, .body m.method body) := by
  rcases List.mem_cons.mp h with rfl | hbody
  · exact Or.inl rfl
  · obtain ⟨body, -, rfl⟩ := List.mem_map.mp hbody
    exact Or.inr ⟨body, rfl⟩

/-- Where a body stands: behind the URL of its message, and bodies of the same message between. -/
theorem flatMap_events_body : ∀ (msgs : List HttpMessage) {pre post : List (ℕ × ParserEvent)}
    {n : ℕ} {method : HttpMethod} {body : List UInt8},
    msgs.flatMap HttpMessage.events = pre ++ (n, .body method body) :: post →
      ∃ m ∈ msgs, m.number = n ∧ m.method = method ∧
        ∃ before between, pre = before ++ (n, .url method m.url) :: between ∧
          ∀ e ∈ between, e.2.isUrl = false := by
  intro msgs
  induction msgs with
  | nil =>
    intro pre post n method body h
    cases pre with
    | nil => cases h
    | cons e pre => cases h
  | cons m msgs ih =>
    intro pre post n method body h
    rw [List.flatMap_cons] at h
    rcases List.append_eq_append_iff.mp h with ⟨rest, hpre, hrest⟩ | ⟨rest, hm, hrest⟩
    · -- the body belongs to a later message
      obtain ⟨m', hm', hnumber, hmethod, before, between, rfl, hbetween⟩ := ih hrest
      refine ⟨m', List.mem_cons_of_mem _ hm', hnumber, hmethod, m.events ++ before, between, ?_,
        hbetween⟩
      rw [hpre, List.append_assoc]
    · cases rest with
      | nil =>
        -- the first callback of a message is no body
        have hfirst : msgs.flatMap HttpMessage.events = [] ++ (n, .body method body) :: post :=
          hrest.symm
        obtain ⟨_, _, _, _, before, between, hnil, -⟩ := ih hfirst
        cases before with
        | nil => cases hnil
        | cons e before => cases hnil
      | cons e rest =>
        obtain ⟨rfl, -⟩ := List.cons.inj hrest
        cases pre with
        | nil => cases hm
        | cons e pre =>
          obtain ⟨hurl, hbodies⟩ := List.cons.inj hm
          have hbody : (n, ParserEvent.body method body) ∈
              m.bodies.map fun body => (m.number, ParserEvent.body m.method body) := by
            rw [hbodies]
            exact List.mem_append_right _ List.mem_cons_self
          obtain ⟨bytes, -, heq⟩ := List.mem_map.mp hbody
          cases heq
          refine ⟨m, List.mem_cons_self, rfl, rfl, [], pre, by rw [← hurl]; rfl, ?_⟩
          intro e' he'
          have hmem : e' ∈ m.bodies.map fun body => (m.number, ParserEvent.body m.method body) := by
            rw [hbodies]
            exact List.mem_append_left _ he'
          obtain ⟨bytes', -, rfl⟩ := List.mem_map.mp hmem
          rfl

/-- One message has one URL. -/
theorem url_unique {n k : ℕ} {msgs : List HttpMessage} (h : Numbered n msgs)
    {method method' : HttpMethod} {url url' : List UInt8}
    (hm : (k, ParserEvent.url method url) ∈ msgs.flatMap HttpMessage.events)
    (hm' : (k, ParserEvent.url method' url') ∈ msgs.flatMap HttpMessage.events) : url' = url := by
  have hfind : ∀ {method : HttpMethod} {url : List UInt8},
      (k, ParserEvent.url method url) ∈ msgs.flatMap HttpMessage.events →
      ∃ m ∈ msgs, m.number = k ∧ m.url = url := by
    intro method url hmem
    obtain ⟨m, hmsg, hevent⟩ := List.mem_flatMap.mp hmem
    rcases mem_events hevent with heq | ⟨body, heq⟩
    · cases heq
      exact ⟨m, hmsg, rfl, rfl⟩
    · cases heq
  obtain ⟨a, ha, hanum, rfl⟩ := hfind hm
  obtain ⟨b, hb, hbnum, rfl⟩ := hfind hm'
  -- two messages of one number are one
  have hnodup : (msgs.map HttpMessage.number).Nodup :=
    List.pairwise_map.mpr (h.increasing.imp Nat.ne_of_lt)
  rw [List.inj_on_of_nodup_map hnodup ha hb (hanum.trans hbnum.symm)]

/-- **A body stands behind the URL of its message**, the only one that the message has, and between
the two there is no other URL. -/
theorem httpParserMessages_body {data : List UInt8} {pre post : List (ℕ × ParserEvent)} {n : ℕ}
    {method : HttpMethod} {body : List UInt8}
    (h : httpParserMessages data = pre ++ (n, .body method body) :: post) :
    ∃ url before between, pre = before ++ (n, .url method url) :: between ∧
      (∀ e ∈ between, e.2.isUrl = false) ∧ (∀ c ∈ url, c ≠ 0) ∧
      ∀ method' url', (n, ParserEvent.url method' url') ∈ httpParserMessages data →
        url' = url := by
  obtain ⟨n', msgs, hnum, hflat⟩ := httpParserMessages_eq data
  obtain ⟨m, hm, rfl, rfl, before, between, rfl, hbetween⟩ := flatMap_events_body msgs (hflat ▸ h)
  refine ⟨m.url, before, between, rfl, hbetween, hnum.nonzero m hm, fun method' url' hmem => ?_⟩
  have hown : (m.number, ParserEvent.url m.method m.url) ∈ msgs.flatMap HttpMessage.events :=
    List.mem_flatMap.mpr ⟨m, hm, List.mem_cons_self⟩
  rw [hflat] at hmem
  exact url_unique hnum hown hmem

end CameraDaemon
