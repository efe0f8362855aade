import CameraDaemon.Lib.CString

/-!
# The request parser

`http_parser_execute` for requests, as the daemon builds it (`HTTP_PARSER_STRICT=0`) and uses it:
only `on_url` and `on_body` are set.  The parser reads one byte after another; where the source scans
ahead inside a header or a body, the scan is taken byte by byte.  Bytes of a URL or a body are
collected from where the source sets its mark, and are handed out when it runs the callback: at the
byte that ends them, or at the end of the input.

The states that the source only passes through on its way to `goto reexecute` (`s_headers_done`,
`s_message_done`, `s_header_value_start`) are functions here.  The HTTP version and the flags for
`Connection: keep-alive` and `Connection: close` are never read in this build, and the limit of
`HTTP_MAX_HEADER_SIZE` octets is out of reach of an input of at most 512.

## Main definitions

* `HttpMethod`, `ParserState`, `HeaderState`, `HttpParser` — the parser's data.
* `parseUrlChar` — the URL automaton.
* `HttpParser.step` — one byte.
* `httpParserExecute` — a whole input.
-/

namespace CameraDaemon

open CString

/-! ### Characters -/

/-- The byte of a character. -/
def chr (c : Char) : UInt8 := UInt8.ofNat c.toNat

/-- `CR`. -/
def cr : UInt8 := 13

/-- `LF`. -/
def lf : UInt8 := 10

/-- `LOWER`. -/
def lower (c : UInt8) : UInt8 := c ||| 0x20

/-- `IS_ALPHA`. -/
def isAlpha (c : UInt8) : Bool := chr 'a' ≤ lower c ∧ lower c ≤ chr 'z'

/-- `IS_NUM`. -/
def isNum (c : UInt8) : Bool := chr '0' ≤ c ∧ c ≤ chr '9'

/-- `IS_MARK`; 39 is the quote. -/
def isMark (c : UInt8) : Bool := c ∈ ascii "-_.!~*()" ∨ c = 39

/-- `IS_USERINFO_CHAR`. -/
def isUserinfoChar (c : UInt8) : Bool := isAlpha c ∨ isNum c ∨ isMark c ∨ c ∈ ascii "%;:&=+$,"

/-- `IS_URL_CHAR`: the table `normal_url_char`, and every byte above 127. -/
def isUrlChar (c : UInt8) : Bool :=
  c = 9 ∨ c = 12 ∨ (33 ≤ c ∧ c ≤ 126 ∧ c ≠ chr '#' ∧ c ≠ chr '?') ∨ 128 ≤ c

/-- `IS_HEADER_CHAR`. -/
def isHeaderChar (c : UInt8) : Bool := c = cr ∨ c = lf ∨ c = 9 ∨ (31 < c ∧ c ≠ 127)

/-- The table `tokens`: a letter is lowered, and zero stands for no token; 39 is the quote and 96 the
backquote. -/
def tokens (c : UInt8) : UInt8 :=
  if chr 'A' ≤ c ∧ c ≤ chr 'Z' then c + 32
  else if (chr 'a' ≤ c ∧ c ≤ chr 'z') ∨ isNum c ∨ c ∈ ascii " !#$%&*+-.^_|~" ∨ c = 39 ∨ c = 96 then c
  else 0

/-- `STRICT_TOKEN`. -/
def strictToken (c : UInt8) : UInt8 := if c = chr ' ' then 0 else tokens c

/-- The table `unhex`.  Its 256 entries have 128 initialisers, so the upper half is zero: a byte
above 127 is the digit 0. -/
def unhex (c : UInt8) : Option ℕ :=
  if isNum c then some (c - chr '0').toNat
  else if chr 'a' ≤ lower c ∧ lower c ≤ chr 'f' then some ((lower c - chr 'a').toNat + 10)
  else if 128 ≤ c then some 0
  else none

/-! ### The parser's data -/

/-- `enum http_method`. -/
inductive HttpMethod
  | delete | get | head | post | put | connect | options | trace | copy | lock | mkcol | move
  | propfind | proppatch | search | unlock | bind | rebind | unbind | acl | report | mkactivity
  | checkout | merge | msearch | notify | subscribe | unsubscribe | patch | purge | mkcalendar
  | link | unlink | source
  deriving DecidableEq, Repr

/-- `method_strings`. -/
def HttpMethod.string : HttpMethod → String
  | .delete => "DELETE" | .get => "GET" | .head => "HEAD" | .post => "POST" | .put => "PUT"
  | .connect => "CONNECT" | .options => "OPTIONS" | .trace => "TRACE" | .copy => "COPY"
  | .lock => "LOCK" | .mkcol => "MKCOL" | .move => "MOVE" | .propfind => "PROPFIND"
  | .proppatch => "PROPPATCH" | .search => "SEARCH" | .unlock => "UNLOCK" | .bind => "BIND"
  | .rebind => "REBIND" | .unbind => "UNBIND" | .acl => "ACL" | .report => "REPORT"
  | .mkactivity => "MKACTIVITY" | .checkout => "CHECKOUT" | .merge => "MERGE"
  | .msearch => "M-SEARCH" | .notify => "NOTIFY" | .subscribe => "SUBSCRIBE"
  | .unsubscribe => "UNSUBSCRIBE" | .patch => "PATCH" | .purge => "PURGE"
  | .mkcalendar => "MKCALENDAR" | .link => "LINK" | .unlink => "UNLINK" | .source => "SOURCE"

/-- `matcher[index]`, the terminator included. -/
def HttpMethod.matcher (m : HttpMethod) (index : ℕ) : UInt8 := (ascii m.string).getD index 0

/-- The method a request may have, by its first character. -/
def firstMethod (ch : UInt8) : Option HttpMethod :=
  [(chr 'A', HttpMethod.acl), (chr 'B', .bind), (chr 'C', .connect), (chr 'D', .delete),
    (chr 'G', .get), (chr 'H', .head), (chr 'L', .lock), (chr 'M', .mkcol), (chr 'N', .notify),
    (chr 'O', .options), (chr 'P', .post), (chr 'R', .report), (chr 'S', .subscribe),
    (chr 'T', .trace), (chr 'U', .unlock)].lookup ch

/-- The other methods that begin like the present one. -/
def switchMethod (m : HttpMethod) (index : ℕ) (ch : UInt8) : Option HttpMethod :=
  [((HttpMethod.post, 1, chr 'U'), HttpMethod.put), ((.post, 1, chr 'A'), .patch),
    ((.post, 1, chr 'R'), .propfind), ((.put, 2, chr 'R'), .purge),
    ((.connect, 1, chr 'H'), .checkout), ((.connect, 2, chr 'P'), .copy),
    ((.mkcol, 1, chr 'O'), .move), ((.mkcol, 1, chr 'E'), .merge),
    ((.mkcol, 1, chr '-'), .msearch), ((.mkcol, 2, chr 'A'), .mkactivity),
    ((.mkcol, 3, chr 'A'), .mkcalendar), ((.subscribe, 1, chr 'E'), .search),
    ((.subscribe, 1, chr 'O'), .source), ((.report, 2, chr 'B'), .rebind),
    ((.propfind, 4, chr 'P'), .proppatch), ((.lock, 1, chr 'I'), .link),
    ((.unlock, 2, chr 'S'), .unsubscribe), ((.unlock, 2, chr 'B'), .unbind),
    ((.unlock, 3, chr 'I'), .unlink)].lookup (m, index, ch)

/-- `enum state`, the states a request parser rests in. -/
inductive ParserState
  | startReq | reqMethod | reqSpacesBeforeUrl
  | reqSchema | reqSchemaSlash | reqSchemaSlashSlash | reqServerStart | reqServer
  | reqServerWithAt | reqPath | reqQueryStringStart | reqQueryString | reqFragmentStart
  | reqFragment
  | reqHttpStart | reqHttpH | reqHttpHT | reqHttpHTT | reqHttpHTTP | reqHttpI | reqHttpIC
  | reqHttpMajor | reqHttpDot | reqHttpMinor | reqHttpEnd | reqLineAlmostDone
  | headerFieldStart | headerField | headerValueDiscardWs | headerValueDiscardWsAlmostDone
  | headerValueDiscardLws | headerValue | headerValueLws | headerAlmostDone
  | chunkSizeStart | chunkSize | chunkParameters | chunkSizeAlmostDone | headersAlmostDone
  | chunkData | chunkDataAlmostDone | chunkDataDone | bodyIdentity
  deriving DecidableEq, Repr

/-- `enum header_states`. -/
inductive HeaderState
  | general | c | co | con
  | matchingConnection | matchingProxyConnection | matchingContentLength
  | matchingTransferEncoding | matchingUpgrade
  | connection | contentLength | contentLengthNum | contentLengthWs | transferEncoding | upgrade
  | matchingTransferEncodingChunked | matchingConnectionTokenStart | matchingConnectionKeepAlive
  | matchingConnectionClose | matchingConnectionUpgrade | matchingConnectionToken
  | transferEncodingChunked | connectionKeepAlive | connectionClose | connectionUpgrade
  deriving DecidableEq, Repr

/-- A callback of the parser, with the method it had then. -/
inductive ParserEvent
  | url (method : HttpMethod) (data : List UInt8)
  | body (method : HttpMethod) (data : List UInt8)
  deriving DecidableEq, Repr

/-- `struct http_parser`, with the marks of `http_parser_execute` and the callbacks made so far. -/
structure HttpParser where
  state : ParserState
  headerState : HeaderState
  index : ℕ
  /-- `F_CHUNKED`. -/
  chunked : Bool
  /-- `F_CONNECTION_UPGRADE`. -/
  connectionUpgrade : Bool
  /-- `F_TRAILING`. -/
  trailing : Bool
  /-- `F_UPGRADE`. -/
  upgradeHeader : Bool
  /-- `F_CONTENTLENGTH`. -/
  hasContentLength : Bool
  contentLength : ℕ
  method : HttpMethod
  upgrade : Bool
  /-- The bytes from `url_mark` on. -/
  urlMark : Option (List UInt8)
  /-- The bytes from `body_mark` on. -/
  bodyMark : Option (List UInt8)
  events : List ParserEvent
  deriving DecidableEq, Repr

/-- `http_parser_init(&parser, HTTP_REQUEST)`. -/
def httpParserInit : HttpParser :=
  { state := .startReq, headerState := .general, index := 0, chunked := false
    connectionUpgrade := false, trailing := false, upgradeHeader := false
    hasContentLength := false, contentLength := 0, method := .delete, upgrade := false
    urlMark := none, bodyMark := none, events := [] }

/-- What a byte comes to. -/
inductive ParseStep
  | next (p : HttpParser)
  /-- The rest of the input is in another protocol. -/
  | stop (p : HttpParser)
  | error (p : HttpParser)

/-- The parser after a byte. -/
def ParseStep.parser : ParseStep → HttpParser
  | .next p | .stop p | .error p => p

/-! ### Callbacks -/

/-- `CALLBACK_DATA(url)`. -/
def HttpParser.callbackUrl (p : HttpParser) : HttpParser :=
  match p.urlMark with
  | none => p
  | some bytes => { p with urlMark := none, events := p.events ++ [.url p.method bytes] }

/-- `CALLBACK_DATA(body)`. -/
def HttpParser.callbackBody (p : HttpParser) : HttpParser :=
  match p.bodyMark with
  | none => p
  | some bytes => { p with bodyMark := none, events := p.events ++ [.body p.method bytes] }

/-- A byte of the URL. -/
def HttpParser.pushUrl (p : HttpParser) (ch : UInt8) : HttpParser :=
  { p with urlMark := some (p.urlMark.getD [] ++ [ch]) }

/-- A byte of the body. -/
def HttpParser.pushBody (p : HttpParser) (ch : UInt8) : HttpParser :=
  { p with bodyMark := some (p.bodyMark.getD [] ++ [ch]) }

/-! ### The request line -/

/-- `parse_url_char`; `none` for `s_dead`. -/
def parseUrlChar (s : ParserState) (ch : UInt8) : Option ParserState :=
  if ch = chr ' ' ∨ ch = cr ∨ ch = lf then none
  else
    match s with
    | .reqSpacesBeforeUrl =>
      if ch = chr '/' ∨ ch = chr '*' then some .reqPath
      else if isAlpha ch then some .reqSchema
      else none
    | .reqSchema =>
      if isAlpha ch then some .reqSchema
      else if ch = chr ':' then some .reqSchemaSlash
      else none
    | .reqSchemaSlash => if ch = chr '/' then some .reqSchemaSlashSlash else none
    | .reqSchemaSlashSlash => if ch = chr '/' then some .reqServerStart else none
    | .reqServerWithAt =>
      if ch = chr '@' then none
      else if ch = chr '/' then some .reqPath
      else if ch = chr '?' then some .reqQueryStringStart
      else if isUserinfoChar ch ∨ ch = chr '[' ∨ ch = chr ']' then some .reqServer
      else none
    | .reqServerStart | .reqServer =>
      if ch = chr '/' then some .reqPath
      else if ch = chr '?' then some .reqQueryStringStart
      else if ch = chr '@' then some .reqServerWithAt
      else if isUserinfoChar ch ∨ ch = chr '[' ∨ ch = chr ']' then some .reqServer
      else none
    | .reqPath =>
      if isUrlChar ch then some .reqPath
      else if ch = chr '?' then some .reqQueryStringStart
      else if ch = chr '#' then some .reqFragmentStart
      else none
    | .reqQueryStringStart | .reqQueryString =>
      if isUrlChar ch ∨ ch = chr '?' then some .reqQueryString
      else if ch = chr '#' then some .reqFragmentStart
      else none
    | .reqFragmentStart =>
      if isUrlChar ch ∨ ch = chr '?' then some .reqFragment
      else if ch = chr '#' then some .reqFragmentStart
      else none
    | .reqFragment =>
      if isUrlChar ch ∨ ch = chr '?' ∨ ch = chr '#' then some .reqFragment else none
    | _ => none

/-- `ULLONG_MAX`, the content length of a message that has none. -/
def ullongMax : ℕ := 18446744073709551615

/-- `s_start_req`. -/
def HttpParser.startReq (p : HttpParser) (ch : UInt8) : ParseStep :=
  if ch = cr ∨ ch = lf then .next p
  else
    match firstMethod ch with
    | none => .error p
    | some m =>
      .next { p with
        chunked := false, connectionUpgrade := false, trailing := false, upgradeHeader := false
        hasContentLength := false, contentLength := ullongMax
        method := m, index := 1, state := .reqMethod }

/-- `s_req_method`. -/
def HttpParser.reqMethod (p : HttpParser) (ch : UInt8) : ParseStep :=
  if ch = 0 then .error p
  else if ch = chr ' ' ∧ p.method.matcher p.index = 0 then
    .next { p with state := .reqSpacesBeforeUrl, index := p.index + 1 }
  else if ch = p.method.matcher p.index then .next { p with index := p.index + 1 }
  else if (chr 'A' ≤ ch ∧ ch ≤ chr 'Z') ∨ ch = chr '-' then
    match switchMethod p.method p.index ch with
    | none => .error p
    | some m => .next { p with method := m, index := p.index + 1 }
  else .error p

/-- A character that continues the URL, or an error. -/
def HttpParser.urlChar (p : HttpParser) (s : ParserState) (ch : UInt8) : ParseStep :=
  match parseUrlChar s ch with
  | none => .error p
  | some s' => .next { p.pushUrl ch with state := s' }

/-- `s_req_spaces_before_url`. -/
def HttpParser.reqSpacesBeforeUrl (p : HttpParser) (ch : UInt8) : ParseStep :=
  if ch = chr ' ' then .next p
  else if p.method = .connect then p.urlChar .reqServerStart ch
  else p.urlChar .reqSpacesBeforeUrl ch

/-- The states of a URL that may end here. -/
def HttpParser.urlOrEnd (p : HttpParser) (ch : UInt8) : ParseStep :=
  if ch = chr ' ' then .next { p.callbackUrl with state := .reqHttpStart }
  else if ch = cr then .next { p.callbackUrl with state := .reqLineAlmostDone }
  else if ch = lf then .next { p.callbackUrl with state := .headerFieldStart }
  else p.urlChar p.state ch

/-- `s_req_http_start`. -/
def HttpParser.reqHttpStart (p : HttpParser) (ch : UInt8) : ParseStep :=
  if ch = chr ' ' then .next p
  else if ch = chr 'H' then .next { p with state := .reqHttpH }
  else if ch = chr 'I' ∧ p.method = .source then .next { p with state := .reqHttpI }
  else .error p

/-- Go to a state if the character is as expected. -/
def HttpParser.goIf (p : HttpParser) (b : Bool) (s : ParserState) : ParseStep :=
  if b then .next { p with state := s } else .error p

/-- `s_req_http_end`. -/
def HttpParser.reqHttpEnd (p : HttpParser) (ch : UInt8) : ParseStep :=
  if ch = cr then .next { p with state := .reqLineAlmostDone }
  else p.goIf (ch = lf) .headerFieldStart

/-! ### The end of a message and of its headers -/

/-- `s_message_done`. -/
def HttpParser.messageDone (p : HttpParser) : ParseStep :=
  if p.upgrade then .stop { p with state := .startReq } else .next { p with state := .startReq }

/-- `s_headers_done`; a request without a length has no body. -/
def HttpParser.headersDone (p : HttpParser) : ParseStep :=
  let hasBody := p.chunked ∨ (0 < p.contentLength ∧ p.contentLength ≠ ullongMax)
  if p.upgrade ∧ (p.method = .connect ∨ ¬ hasBody) then .stop { p with state := .startReq }
  else if p.chunked then .next { p with state := .chunkSizeStart }
  else if p.contentLength = 0 then .next { p with state := .startReq }
  else if p.contentLength ≠ ullongMax then .next { p with state := .bodyIdentity }
  else .next { p with state := .startReq }

/-- `s_headers_almost_done`. -/
def HttpParser.headersAlmostDone (p : HttpParser) : ParseStep :=
  if p.trailing then p.messageDone
  else if p.chunked ∧ p.hasContentLength then .error p
  else
    HttpParser.headersDone
      { p with upgrade := (p.upgradeHeader && p.connectionUpgrade) || p.method = .connect }

/-! ### Headers -/

/-- `s_header_field_start`. -/
def HttpParser.headerFieldStart (p : HttpParser) (ch : UInt8) : ParseStep :=
  if ch = cr then .next { p with state := .headersAlmostDone }
  else if ch = lf then p.headersAlmostDone
  else if tokens ch = 0 then .error p
  else
    .next { p with
      index := 0
      state := .headerField
      headerState :=
        if tokens ch = chr 'c' then .c
        else if tokens ch = chr 'p' then .matchingProxyConnection
        else if tokens ch = chr 't' then .matchingTransferEncoding
        else if tokens ch = chr 'u' then .matchingUpgrade
        else .general }

/-- One more character of a word that is looked for: `found` at its last character, `other` at a
difference. -/
def HttpParser.matchWord (p : HttpParser) (word : String) (found other : HeaderState)
    (c : UInt8) : HttpParser :=
  let index := p.index + 1
  let w := ascii word
  if w.length < index ∨ c ≠ w.getD index 0 then { p with index := index, headerState := other }
  else if index = w.length - 1 then { p with index := index, headerState := found }
  else { p with index := index }

/-- A token character of a header field. -/
def HttpParser.headerFieldChar (p : HttpParser) (ch c : UInt8) : HttpParser :=
  let advance (h : HeaderState) : HttpParser := { p with index := p.index + 1, headerState := h }
  match p.headerState with
  | .c => advance (if c = chr 'o' then .co else .general)
  | .co => advance (if c = chr 'n' then .con else .general)
  | .con =>
    advance (if c = chr 'n' then .matchingConnection
      else if c = chr 't' then .matchingContentLength else .general)
  | .matchingConnection => p.matchWord "connection" .connection .general c
  | .matchingProxyConnection => p.matchWord "proxy-connection" .connection .general c
  | .matchingContentLength => p.matchWord "content-length" .contentLength .general c
  | .matchingTransferEncoding => p.matchWord "transfer-encoding" .transferEncoding .general c
  | .matchingUpgrade => p.matchWord "upgrade" .upgrade .general c
  | .connection | .contentLength | .transferEncoding | .upgrade =>
    if ch ≠ chr ' ' then { p with headerState := .general } else p
  | _ => p

/-- `s_header_field`. -/
def HttpParser.headerField (p : HttpParser) (ch : UInt8) : ParseStep :=
  if tokens ch ≠ 0 then .next (p.headerFieldChar ch (tokens ch))
  else p.goIf (ch = chr ':') .headerValueDiscardWs

/-- `s_header_value_start`. -/
def HttpParser.headerValueStart (p : HttpParser) (ch : UInt8) : ParseStep :=
  let p := { p with state := .headerValue, index := 0 }
  let c := lower ch
  match p.headerState with
  | .upgrade => .next { p with upgradeHeader := true, headerState := .general }
  | .transferEncoding =>
    .next { p with
      headerState := if c = chr 'c' then .matchingTransferEncodingChunked else .general }
  | .contentLength =>
    if ¬ isNum ch ∨ p.hasContentLength then .error p
    else
      .next { p with
        hasContentLength := true
        contentLength := (ch - chr '0').toNat
        headerState := .contentLengthNum }
  | .contentLengthWs => .next p
  | .connection =>
    .next { p with
      headerState :=
        if c = chr 'k' then .matchingConnectionKeepAlive
        else if c = chr 'c' then .matchingConnectionClose
        else if c = chr 'u' then .matchingConnectionUpgrade
        else .matchingConnectionToken }
  | .matchingConnectionTokenStart => .next p
  | _ => .next { p with headerState := .general }

/-- `s_header_value_discard_ws`. -/
def HttpParser.headerValueDiscardWs (p : HttpParser) (ch : UInt8) : ParseStep :=
  if ch = chr ' ' ∨ ch = 9 then .next p
  else if ch = cr then .next { p with state := .headerValueDiscardWsAlmostDone }
  else if ch = lf then .next { p with state := .headerValueDiscardLws }
  else p.headerValueStart ch

/-- A digit of the content length. -/
def HttpParser.contentLengthDigit (p : HttpParser) (ch : UInt8) : ParseStep :=
  if ch = chr ' ' then .next { p with headerState := .contentLengthWs }
  else if ¬ isNum ch ∨ (ullongMax - 10) / 10 < p.contentLength then
    .error { p with headerState := .contentLengthNum }
  else
    .next { p with
      headerState := .contentLengthNum
      contentLength := p.contentLength * 10 + (ch - chr '0').toNat }

/-- A character of a header value that is no line end. -/
def HttpParser.headerValueChar (p : HttpParser) (ch : UInt8) : ParseStep :=
  let c := lower ch
  match p.headerState with
  | .contentLength => if ch = chr ' ' then .next p else p.contentLengthDigit ch
  | .contentLengthNum => p.contentLengthDigit ch
  | .contentLengthWs => if ch = chr ' ' then .next p else .error p
  | .matchingTransferEncodingChunked =>
    .next (p.matchWord "chunked" .transferEncodingChunked .general c)
  | .matchingConnectionTokenStart =>
    .next { p with
      headerState :=
        if c = chr 'k' then .matchingConnectionKeepAlive
        else if c = chr 'c' then .matchingConnectionClose
        else if c = chr 'u' then .matchingConnectionUpgrade
        else if strictToken c ≠ 0 then .matchingConnectionToken
        else if c = chr ' ' ∨ c = 9 then .matchingConnectionTokenStart
        else .general }
  | .matchingConnectionKeepAlive =>
    .next (p.matchWord "keep-alive" .connectionKeepAlive .matchingConnectionToken c)
  | .matchingConnectionClose =>
    .next (p.matchWord "close" .connectionClose .matchingConnectionToken c)
  | .matchingConnectionUpgrade =>
    .next (p.matchWord "upgrade" .connectionUpgrade .matchingConnectionToken c)
  | .matchingConnectionToken =>
    if ch = chr ',' then
      .next { p with headerState := .matchingConnectionTokenStart, index := 0 }
    else .next p
  | .transferEncodingChunked =>
    if ch ≠ chr ' ' then .next { p with headerState := .general } else .next p
  | .connectionKeepAlive | .connectionClose | .connectionUpgrade =>
    if ch = chr ',' then
      .next { p with
        connectionUpgrade := p.connectionUpgrade || p.headerState = .connectionUpgrade
        headerState := .matchingConnectionTokenStart, index := 0 }
    else if ch ≠ chr ' ' then .next { p with headerState := .matchingConnectionToken }
    else .next p
  | _ => .next { p with headerState := .general }

/-- `s_header_value`. -/
def HttpParser.headerValue (p : HttpParser) (ch : UInt8) : ParseStep :=
  if ch = cr then .next { p with state := .headerAlmostDone }
  else if ch = lf then .next { p with state := .headerValueLws }
  else if ¬ isHeaderChar ch then .error p
  else p.headerValueChar ch

/-- What the end of a header sets. -/
def HttpParser.endHeader (p : HttpParser) : HttpParser :=
  match p.headerState with
  | .transferEncodingChunked => { p with chunked := true }
  | .connectionUpgrade => { p with connectionUpgrade := true }
  | _ => p

/-- `s_header_value_lws`. -/
def HttpParser.headerValueLws (p : HttpParser) (ch : UInt8) : ParseStep :=
  if ch = chr ' ' ∨ ch = 9 then
    HttpParser.headerValueStart
      { p with
        headerState :=
          if p.headerState = .contentLengthNum then .contentLengthWs else p.headerState } ch
  else p.endHeader.headerFieldStart ch

/-- `s_header_value_discard_lws`; an empty content length is an error. -/
def HttpParser.headerValueDiscardLws (p : HttpParser) (ch : UInt8) : ParseStep :=
  if ch = chr ' ' ∨ ch = 9 then .next { p with state := .headerValueDiscardWs }
  else if p.headerState = .contentLength then .error p
  else p.endHeader.headerFieldStart ch

/-! ### Bodies -/

/-- `s_body_identity`. -/
def HttpParser.bodyIdentity (p : HttpParser) (ch : UInt8) : ParseStep :=
  let p := { p.pushBody ch with contentLength := p.contentLength - 1 }
  if p.contentLength = 0 then p.callbackBody.messageDone else .next p

/-- `s_chunk_size_start`. -/
def HttpParser.chunkSizeStart (p : HttpParser) (ch : UInt8) : ParseStep :=
  match unhex ch with
  | none => .error p
  | some n => .next { p with contentLength := n, state := .chunkSize }

/-- `s_chunk_size`. -/
def HttpParser.chunkSize (p : HttpParser) (ch : UInt8) : ParseStep :=
  if ch = cr then .next { p with state := .chunkSizeAlmostDone }
  else
    match unhex ch with
    | none => p.goIf (ch = chr ';' ∨ ch = chr ' ') .chunkParameters
    | some n =>
      if (ullongMax - 16) / 16 < p.contentLength then .error p
      else .next { p with contentLength := p.contentLength * 16 + n }

/-- `s_chunk_size_almost_done`. -/
def HttpParser.chunkSizeAlmostDone (p : HttpParser) : ParseStep :=
  if p.contentLength = 0 then .next { p with trailing := true, state := .headerFieldStart }
  else .next { p with state := .chunkData }

/-- `s_chunk_data`. -/
def HttpParser.chunkData (p : HttpParser) (ch : UInt8) : ParseStep :=
  let p := { p.pushBody ch with contentLength := p.contentLength - 1 }
  if p.contentLength = 0 then .next { p with state := .chunkDataAlmostDone } else .next p

/-! ### The parser -/

/-- One byte. -/
def HttpParser.step (p : HttpParser) (ch : UInt8) : ParseStep :=
  match p.state with
  | .startReq => p.startReq ch
  | .reqMethod => p.reqMethod ch
  | .reqSpacesBeforeUrl => p.reqSpacesBeforeUrl ch
  | .reqSchema | .reqSchemaSlash | .reqSchemaSlashSlash | .reqServerStart => p.urlChar p.state ch
  | .reqServer | .reqServerWithAt | .reqPath | .reqQueryStringStart | .reqQueryString
  | .reqFragmentStart | .reqFragment => p.urlOrEnd ch
  | .reqHttpStart => p.reqHttpStart ch
  | .reqHttpH => .next { p with state := .reqHttpHT }
  | .reqHttpHT => .next { p with state := .reqHttpHTT }
  | .reqHttpHTT => .next { p with state := .reqHttpHTTP }
  | .reqHttpI => .next { p with state := .reqHttpIC }
  | .reqHttpIC => .next { p with state := .reqHttpHTTP }
  | .reqHttpHTTP => .next { p with state := .reqHttpMajor }
  | .reqHttpMajor => p.goIf (isNum ch) .reqHttpDot
  | .reqHttpDot => p.goIf (ch = chr '.') .reqHttpMinor
  | .reqHttpMinor => p.goIf (isNum ch) .reqHttpEnd
  | .reqHttpEnd => p.reqHttpEnd ch
  | .reqLineAlmostDone => p.goIf (ch = lf) .headerFieldStart
  | .headerFieldStart => p.headerFieldStart ch
  | .headerField => p.headerField ch
  | .headerValueDiscardWs => p.headerValueDiscardWs ch
  | .headerValueDiscardWsAlmostDone => .next { p with state := .headerValueDiscardLws }
  | .headerValueDiscardLws => p.headerValueDiscardLws ch
  | .headerValue => p.headerValue ch
  | .headerValueLws => p.headerValueLws ch
  | .headerAlmostDone => p.goIf (ch = lf) .headerValueLws
  | .headersAlmostDone => p.headersAlmostDone
  | .chunkSizeStart => p.chunkSizeStart ch
  | .chunkSize => p.chunkSize ch
  | .chunkParameters =>
    if ch = cr then .next { p with state := .chunkSizeAlmostDone } else .next p
  | .chunkSizeAlmostDone => p.chunkSizeAlmostDone
  | .chunkData => p.chunkData ch
  | .chunkDataAlmostDone => .next { p.callbackBody with state := .chunkDataDone }
  | .chunkDataDone => .next { p with state := .chunkSizeStart }
  | .bodyIdentity => p.bodyIdentity ch

/-- The loop over the input; the marks left at its end are flushed, unless it ended early. -/
def HttpParser.feed (p : HttpParser) : List UInt8 → HttpParser
  | [] => p.callbackUrl.callbackBody
  | ch :: rest =>
    match p.step ch with
    | .next p => p.feed rest
    | .stop p => p
    | .error p => p

/-- `http_parser_execute` on a fresh parser: the callbacks, in order. -/
def httpParserExecute (data : List UInt8) : List ParserEvent := (httpParserInit.feed data).events

example : httpParserExecute (ascii "GET /live HTTP/1.1\r\nHost: a\r\n\r\n") =
    [.url .get (ascii "/live")] := by decide +kernel

example : httpParserExecute (ascii "POST /a HTTP/1.1\r\nTransfer-Encoding: chunked\r\n\r\n"
      ++ ascii "2\r\nxy\r\n1\r\nz\r\n0\r\n\r\n") =
    [.url .post (ascii "/a"), .body .post (ascii "xy"), .body .post (ascii "z")] := by
  decide +kernel

end CameraDaemon
