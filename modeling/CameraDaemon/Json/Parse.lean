import CameraDaemon.Http.Handlers
import CameraDaemon.Lib.Json

/-!
# `cJSON_Parse`

The parser of the bodies.  It walks over a terminated text by an offset, and never looks further
than the terminator: a jump over white space that has passed the terminator steps back to it.  A
quoted string is read twice, once for its closing quote and for the size of the block that is
allocated for it, once to copy it; the second pass does not cut the text into the same escapes as
the first one, since four characters behind `\u` are passed over whatever they are.

Every read and every write of the source is a check here: a read behind the terminator, a write
behind a block, or a loop that does not end, is `stuck`.  The depth of a value is counted by the
levels that are left for it.  Allocation succeeds.

## Main definitions

* `ParseBuffer`, `Parsed` — the text with the offset, and the outcome of a function of the parser.
* `parseString`, `parseNumber`, `parseArray`, `parseObject`, `parseValue` — the functions.
* `cJSONParseWithOpts`, `cJSONParse` — the parser.
-/

namespace CameraDaemon

open CString Json Strtod

/-! ### The buffer -/

/-- `parse_buffer`: `content` has `length` bytes, the terminator is the last one. -/
structure ParseBuffer where
  content : List UInt8
  offset : ℕ

namespace ParseBuffer

/-- The bytes from `buffer_at_offset` on. -/
def rest (b : ParseBuffer) : List UInt8 := b.content.drop b.offset

/-- `offset += n`. -/
def advance (b : ParseBuffer) (n : ℕ) : ParseBuffer := { b with offset := b.offset + n }

/-- `buffer_at_offset(b)[0] == c`, guarded by `can_access_at_index(b, 0)`. -/
def at0 (b : ParseBuffer) (c : UInt8) : Bool := b.rest.head? = some c

/-- `strncmp(buffer_at_offset(b), word, n) == 0`, guarded by `can_read(b, n)`. -/
def reads (b : ParseBuffer) (word : String) : Bool :=
  let n := (ascii word).length
  b.offset + n ≤ b.content.length ∧ strncmpEq (b.rest.take n) (ascii word)

end ParseBuffer

/-- The outcome of a function of the parser. -/
inductive Parsed (α : Type)
  | ok (value : α) (b : ParseBuffer)
  | fail (b : ParseBuffer)
  /-- A read or a write outside of the memory, or a loop without an end. -/
  | stuck

/-- Keep something else of a result. -/
def Parsed.map {α β : Type} (f : α → β) : Parsed α → Parsed β
  | .ok value b => .ok (f value) b
  | .fail b => .fail b
  | .stuck => .stuck

/-- Go on after a success. -/
def Parsed.andThen {α β : Type} (r : Parsed α) (f : α → ParseBuffer → Parsed β) : Parsed β :=
  match r with
  | .ok value b => f value b
  | .fail b => .fail b
  | .stuck => .stuck

/-- What `buffer_skip_whitespace` jumps over; the terminator is among it. -/
def isWhitespace (c : UInt8) : Bool := c ≤ 32

/-- `buffer_skip_whitespace`. -/
def bufferSkipWhitespace (b : ParseBuffer) : ParseBuffer :=
  let b := b.advance (b.rest.takeWhile isWhitespace).length
  if b.offset = b.content.length then { b with offset := b.offset - 1 } else b

/-- `skip_utf8_bom`, on a buffer that is at its start. -/
def skipUtf8Bom (b : ParseBuffer) : ParseBuffer :=
  if b.offset + 4 < b.content.length ∧ strncmpEq (b.rest.take 3) [0xEF, 0xBB, 0xBF] then b.advance 3
  else b

/-! ### Numbers -/

/-- What an item keeps of a number. -/
structure CJsonNumber where
  valuedouble : Double
  valueint : Int32

/-- The conversion of a `double` to an integer type, towards zero. -/
def truncate (q : ℚ) : ℤ := if q < 0 then ⌈q⌉ else ⌊q⌋

/-- The number of a `double`; `valueint` is saturated. -/
def CJsonNumber.ofDouble (number : Double) : CJsonNumber where
  valuedouble := number
  valueint :=
    match number with
    | .infinite false => Int32.ofInt (2 ^ 31 - 1)
    | .infinite true => Int32.ofInt (-2 ^ 31)
    | .finite q =>
      if q ≥ 2 ^ 31 - 1 then Int32.ofInt (2 ^ 31 - 1)
      else if q ≤ -2 ^ 31 then Int32.ofInt (-2 ^ 31)
      else Int32.ofInt (truncate q)

/-- The characters that are copied for `strtod`. -/
def isNumberChar (c : UInt8) : Bool := isDigit c ∨ c ∈ ascii "+-eE."

/-- `sizeof(number_c_string) - 1`. -/
def numberWidth : ℕ := 63

/-- `parse_number`. -/
def parseNumber (b : ParseBuffer) : Parsed CJsonNumber :=
  let numberCString := (b.rest.take numberWidth).takeWhile isNumberChar
  match strtod numberCString with
  | none => .fail b
  | some (number, afterEnd) =>
    .ok (.ofDouble number) (b.advance (numberCString.length - afterEnd.length))

/-! ### Strings -/

/-- The loop of `parse_hex4` over the `n` digits that are left; `none` for a read behind the text.
-/
def parseHex4Loop : ℕ → ℕ → List UInt8 → Option ℕ
  | 0, h, _ => some h
  | _ + 1, _, [] => none
  | n + 1, h, c :: input =>
    match hexValue c with
    | none => some 0
    | some d => parseHex4Loop n (if n = 0 then h + d else (h + d) * 16) input

/-- `parse_hex4`: zero if a digit is not valid. -/
def parseHex4 (input : List UInt8) : Option ℕ := parseHex4Loop 4 0 input

/-- `utf8_length` and `first_byte_mark`. -/
def utf8Length (codepoint : ℕ) : Option (ℕ × ℕ) :=
  if codepoint < 0x80 then some (1, 0)
  else if codepoint < 0x800 then some (2, 0xC0)
  else if codepoint < 0x10000 then some (3, 0xE0)
  else if codepoint ≤ 0x10FFFF then some (4, 0xF0)
  else none

/-- The bytes behind the first one, from the last one on, and what is left of the code point. -/
def utf8Tail : ℕ → ℕ → List UInt8 → ℕ × List UInt8
  | 0, codepoint, tail => (codepoint, tail)
  | n + 1, codepoint, tail =>
    utf8Tail n (codepoint >>> 6) (UInt8.ofNat ((codepoint ||| 0x80) &&& 0xBF) :: tail)

/-- The bytes that are written for a code point. -/
def utf8Write (codepoint utf8Length firstByteMark : ℕ) : List UInt8 :=
  let (codepoint, tail) := utf8Tail (utf8Length - 1) codepoint []
  if 1 < utf8Length then UInt8.ofNat ((codepoint ||| firstByteMark) &&& 0xFF) :: tail
  else UInt8.ofNat (codepoint &&& 0x7F) :: tail

/-- The bytes for a code point, and the characters it has been read from; no character is failure.
-/
def utf8Encode (codepoint sequenceLength : ℕ) : List UInt8 × ℕ :=
  match utf8Length codepoint with
  | none => ([], 0)
  | some (length, mark) => (utf8Write codepoint length mark, sequenceLength)

/-- The second sequence of a surrogate pair, with the code of the first one. -/
def utf16Pair (firstCode : ℕ) : List UInt8 → Option (List UInt8 × ℕ)
  | c :: u :: second =>
    if c ≠ 92 ∨ u ≠ 117 then some ([], 0)
    else
      match parseHex4 second with
      | none => none
      | some secondCode =>
        if secondCode < 0xDC00 ∨ 0xDFFF < secondCode then some ([], 0)
        else
          some (utf8Encode (0x10000 + ((firstCode &&& 0x3FF) <<< 10 ||| secondCode &&& 0x3FF)) 12)
  | _ => none

/-- `utf16_literal_to_utf8` with `left = input_end - input_pointer`: what is written, and
`sequence_length`; `none` for a read behind the text. -/
def utf16LiteralToUtf8 (input : List UInt8) (left : ℕ) : Option (List UInt8 × ℕ) :=
  if left < 6 then some ([], 0)
  else
    match parseHex4 (input.drop 2) with
    | none => none
    | some firstCode =>
      if 0xDC00 ≤ firstCode ∧ firstCode ≤ 0xDFFF then some ([], 0)
      else if 0xD800 ≤ firstCode ∧ firstCode ≤ 0xDBFF then
        if left - 6 < 6 then some ([], 0) else utf16Pair firstCode (input.drop 6)
      else some (utf8Encode firstCode 6)

/-- The characters at `input_pointer`: what they are copied as, and their number, which is zero
where the copy fails. -/
def unescapeChar (left : ℕ) : List UInt8 → Option (List UInt8 × ℕ)
  | [] => none
  | c :: input =>
    if c ≠ 92 then some ([c], 1)
    else
      match input with
      | [] => none
      | e :: _ =>
        match escapes.lookup e with
        | some byte => some ([byte], 2)
        | none => if e = 117 then utf16LiteralToUtf8 (c :: input) left else some ([], 0)

/-- How the copy of a string ends: with its bytes, or at a place so many characters before the end.
-/
inductive Unescaped
  | done (output : List UInt8)
  | fail (left : ℕ)

/-- The loop that copies a string into a block of `size` bytes; `none` for a read behind the text, a
write behind the block, or a loop that does not end. -/
def unescape (size : ℕ) : ℕ → ℕ → List UInt8 → List UInt8 → Option Unescaped
  | _, 0, _, output => some (.done output)
  | 0, _ + 1, _, _ => none
  | fuel + 1, left + 1, input, output =>
    match unescapeChar (left + 1) input with
    | none => none
    | some (bytes, n) =>
      if n = 0 then some (.fail (left + 1))
      else if size < output.length + bytes.length then none
      else unescape size fuel (left + 1 - n) (input.drop n) (output ++ bytes)

/-- The loop that looks for the closing quote, from behind a backslash or not: the characters before
the quote, and the escapes among them; `none` where the text ends first. -/
def scanString : Bool → List UInt8 → Option (ℕ × ℕ)
  | _, [] => none
  | true, _ :: input => (scanString false input).map fun r => (r.1 + 1, r.2)
  | false, c :: input =>
    if c = 34 then some (0, 0)
    else if c = 92 then (scanString true input).map fun r => (r.1 + 1, r.2 + 1)
    else (scanString false input).map fun r => (r.1 + 1, r.2)

/-- `parse_string`; the quote at the front is read without a check. -/
def parseString (b : ParseBuffer) : Parsed (List UInt8) :=
  match b.rest with
  | [] => .stuck
  | c :: input =>
    if c ≠ 34 then .fail (b.advance 1)
    else
      match scanString false input with
      | none => .fail (b.advance 1)
      | some (count, skippedBytes) =>
        -- the opening quote is counted too, and `sizeof("")` is added
        let size := count + 1 - skippedBytes + 1
        match unescape size count count input [] with
        | none => .stuck
        | some (.fail left) => .fail (b.advance (1 + count - left))
        | some (.done output) =>
          if size < output.length + 1 then .stuck else .ok output (b.advance (count + 2))

/-! ### Arrays, objects and values -/

/-- An item, as the parser fills it. -/
abbrev CJsonItem := Value CJsonNumber

/-- The loop over the parts of an array or an object, from the character in front of a part: parts
with commas between them, then `close`. -/
def parseParts {α : Type} (part : ParseBuffer → Parsed α) (close : UInt8) :
    ℕ → ParseBuffer → Parsed (List α)
  | 0, _ => .stuck
  | fuel + 1, b =>
    (part (bufferSkipWhitespace (b.advance 1))).andThen fun value b =>
      let b := bufferSkipWhitespace b
      if b.at0 44 then (parseParts part close fuel b).map (value :: ·)
      else if b.at0 close then .ok [value] (b.advance 1)
      else .fail b

/-- What an array and an object have in common behind their first character. -/
def parseCompound {α : Type} (part : ParseBuffer → Parsed α) (close : UInt8) (b : ParseBuffer) :
    Parsed (List α) :=
  let b := bufferSkipWhitespace (b.advance 1)
  if b.at0 close then .ok [] (b.advance 1)
  else if b.content.length ≤ b.offset then .fail { b with offset := b.offset - 1 }
  else parseParts part close b.content.length { b with offset := b.offset - 1 }

/-- `parse_array` below the limit of nesting, over the function for its values. -/
def parseArray (value : ParseBuffer → Parsed CJsonItem) (b : ParseBuffer) : Parsed CJsonItem :=
  match b.rest with
  | [] => .stuck
  | c :: _ => if c ≠ 91 then .fail b else (parseCompound value 93 b).map .array

/-- A name, a colon and a value. -/
def parseMember (value : ParseBuffer → Parsed CJsonItem) (b : ParseBuffer) :
    Parsed (List UInt8 × CJsonItem) :=
  (parseString b).andThen fun name b =>
    let b := bufferSkipWhitespace b
    if b.at0 58 then (value (bufferSkipWhitespace (b.advance 1))).map fun item => (name, item)
    else .fail b

/-- `parse_object` below the limit of nesting, over the function for its values. -/
def parseObject (value : ParseBuffer → Parsed CJsonItem) (b : ParseBuffer) : Parsed CJsonItem :=
  if ¬ b.at0 123 then .fail b else (parseCompound (parseMember value) 125 b).map .object

/-- `parse_value` over the functions for arrays and objects. -/
def parseValueWith (array object : ParseBuffer → Parsed CJsonItem) (b : ParseBuffer) :
    Parsed CJsonItem :=
  if b.reads "null" then .ok .null (b.advance 4)
  else if b.reads "false" then .ok (.bool false) (b.advance 5)
  else if b.reads "true" then .ok (.bool true) (b.advance 4)
  else if b.at0 34 then (parseString b).map .string
  else if b.at0 45 ∨ b.rest.head?.any isDigit then (parseNumber b).map .number
  else if b.at0 91 then array b
  else if b.at0 123 then object b
  else .fail b

/-- `parse_value` with so many levels left.  An array or an object takes one; where none is left it
fails before it has read anything. -/
def parseValue : ℕ → ParseBuffer → Parsed CJsonItem
  | 0 => parseValueWith .fail .fail
  | levels + 1 => parseValueWith (parseArray (parseValue levels)) (parseObject (parseValue levels))

/-! ### The parser -/

/-- `CJSON_NESTING_LIMIT`. -/
def cJSONNestingLimit : ℕ := 1000

/-- `global_error.position`. -/
def ParseBuffer.errorPosition (b : ParseBuffer) : ℕ :=
  if b.offset < b.content.length then b.offset else b.content.length - 1

/-- `cJSON_ParseWithOpts` on what stands behind `value`, where a terminator is added at the end: the
item, or the position of the error; `none` is `stuck`. -/
def cJSONParseWithOpts (value : List UInt8) (requireNullTerminated : Bool) :
    Option (Except ℕ CJsonItem) :=
  let buffer : ParseBuffer := { content := cString value ++ [0], offset := 0 }
  match parseValue cJSONNestingLimit (bufferSkipWhitespace (skipUtf8Bom buffer)) with
  | .stuck => none
  | .fail b => some (.error b.errorPosition)
  | .ok item b =>
    if requireNullTerminated then
      let b := bufferSkipWhitespace b
      if b.at0 0 then some (.ok item) else some (.error b.errorPosition)
    else some (.ok item)

/-- `cJSON_Parse`: `none` for a null pointer. -/
def cJSONParse (value : List UInt8) : Option CJsonItem :=
  match cJSONParseWithOpts value false with
  | some (.ok item) => some item
  | _ => none

end CameraDaemon
