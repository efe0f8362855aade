import CameraDaemon.Lib.CString
import CameraDaemon.Lib.Strtod

/-!
# JSON texts

The grammar of JSON over bytes, with the lexical parts as a parameter: which bytes are white space,
which bodies of a quoted string stand for which bytes, and which texts stand for which numbers.
A value may nest so many levels deep.

## Main definitions

* `Value` — a JSON value; what a number is, is a parameter.
* `Lexicon`, `Lexicon.Text` — the lexical parts, and the texts of a value.
* `standard` — the lexical parts of the standard: escapes, surrogate pairs, decimal numerals.

## Main results

* `Lexicon.Text.mono` — more levels allow more texts.
-/

namespace Json

open CString Strtod

/-- A JSON value, with the bytes of its strings and the members of an object in their order. -/
inductive Value (ν : Type)
  | null
  | bool (b : Bool)
  | number (n : ν)
  | string (s : List UInt8)
  | array (items : List (Value ν))
  | object (members : List (List UInt8 × Value ν))

/-- The lexical parts of a grammar. -/
structure Lexicon (ν : Type) where
  space : UInt8 → Prop
  /-- The bytes that the body of a quoted string stands for. -/
  str : List UInt8 → List UInt8 → Prop
  /-- The number that a text stands for. -/
  num : ν → List UInt8 → Prop

namespace Lexicon

variable {ν : Type} (L : Lexicon ν)

/-- White space. -/
def Spaces (t : List UInt8) : Prop := ∀ c ∈ t, L.space c

/-- A string in quotes. -/
def Quoted (s t : List UInt8) : Prop := ∃ body, L.str s body ∧ t = 34 :: (body ++ [34])

/-- The values that are no array and no object. -/
inductive Scalar : Value ν → List UInt8 → Prop
  | null : Scalar .null (ascii "null")
  | false : Scalar (.bool false) (ascii "false")
  | true : Scalar (.bool true) (ascii "true")
  | string {s t : List UInt8} (h : L.Quoted s t) : Scalar (.string s) t
  | number {n : ν} {t : List UInt8} (h : L.num n t) : Scalar (.number n) t

/-- Texts with commas between them, each in white space. -/
inductive Separated {α : Type} (P : α → List UInt8 → Prop) : List α → List UInt8 → Prop
  | last {a : α} {w t w' : List UInt8} (hw : L.Spaces w) (h : P a t) (hw' : L.Spaces w') :
    Separated P [a] (w ++ (t ++ w'))
  | cons {a : α} {as : List α} {w t w' rest : List UInt8} (hw : L.Spaces w) (h : P a t)
    (hw' : L.Spaces w') (hrest : Separated P as rest) :
    Separated P (a :: as) (w ++ (t ++ (w' ++ 44 :: rest)))

/-- A name, a colon and a value. -/
def Member (P : Value ν → List UInt8 → Prop) (m : List UInt8 × Value ν) (t : List UInt8) : Prop :=
  ∃ name w w' value, L.Quoted m.1 name ∧ L.Spaces w ∧ L.Spaces w' ∧ P m.2 value ∧
    t = name ++ (w ++ 58 :: (w' ++ value))

/-- Arrays and objects over the texts `P` of their parts. -/
inductive Compound (P : Value ν → List UInt8 → Prop) : Value ν → List UInt8 → Prop
  | emptyArray {w : List UInt8} (hw : L.Spaces w) : Compound P (.array []) (91 :: (w ++ [93]))
  | array {items : List (Value ν)} {t : List UInt8} (h : L.Separated P items t) :
    Compound P (.array items) (91 :: (t ++ [93]))
  | emptyObject {w : List UInt8} (hw : L.Spaces w) :
    Compound P (.object []) (123 :: (w ++ [125]))
  | object {members : List (List UInt8 × Value ν)} {t : List UInt8}
    (h : L.Separated (L.Member P) members t) : Compound P (.object members) (123 :: (t ++ [125]))

/-- The texts of a value whose arrays and objects nest at most so many levels deep. -/
def Text : ℕ → Value ν → List UInt8 → Prop
  | 0, v, t => L.Scalar v t
  | levels + 1, v, t => L.Scalar v t ∨ L.Compound (Text levels) v t

variable {L}

theorem Scalar.text {v : Value ν} {t : List UInt8} (h : L.Scalar v t) :
    ∀ levels, L.Text levels v t
  | 0 => h
  | _ + 1 => .inl h

theorem Separated.imp {α : Type} {P Q : α → List UInt8 → Prop} (hPQ : ∀ a t, P a t → Q a t)
    {as : List α} {t : List UInt8} (h : L.Separated P as t) : L.Separated Q as t := by
  induction h with
  | last hw h hw' => exact .last hw (hPQ _ _ h) hw'
  | cons hw h hw' hrest ih => exact .cons hw (hPQ _ _ h) hw' ih

theorem Member.imp {P Q : Value ν → List UInt8 → Prop} (hPQ : ∀ v t, P v t → Q v t)
    (m : List UInt8 × Value ν) (t : List UInt8) (h : L.Member P m t) : L.Member Q m t := by
  obtain ⟨name, w, w', value, hname, hw, hw', hvalue, rfl⟩ := h
  exact ⟨name, w, w', value, hname, hw, hw', hPQ _ _ hvalue, rfl⟩

/-- **More levels allow more texts.** -/
theorem Text.mono {levels levels' : ℕ} (hle : levels ≤ levels') {v : Value ν} {t : List UInt8}
    (h : L.Text levels v t) : L.Text levels' v t := by
  induction levels generalizing levels' v t with
  | zero => exact Scalar.text h levels'
  | succ levels ih =>
    obtain ⟨k, rfl⟩ : ∃ k, levels' = k + 1 := ⟨levels' - 1, by omega⟩
    have hk : ∀ v t, L.Text levels v t → L.Text k v t := fun v t => ih (by omega)
    rcases h with h | h
    · exact .inl h
    · refine .inr ?_
      cases h with
      | emptyArray hw => exact .emptyArray hw
      | array h => exact .array (h.imp hk)
      | emptyObject hw => exact .emptyObject hw
      | object h => exact .object (h.imp (Member.imp hk))

end Lexicon

/-! ### The lexical parts of the standard -/

/-- The byte that a character behind a backslash stands for. -/
def escapes : List (UInt8 × UInt8) :=
  [(98, 8), (102, 12), (110, 10), (114, 13), (116, 9), (34, 34), (92, 92), (47, 47)]

/-- The value of a hexadecimal digit. -/
def hexValue (c : UInt8) : Option ℕ :=
  if 48 ≤ c ∧ c ≤ 57 then some (c.toNat - 48)
  else if 65 ≤ c ∧ c ≤ 70 then some (10 + c.toNat - 65)
  else if 97 ≤ c ∧ c ≤ 102 then some (10 + c.toNat - 97)
  else none

/-- Four hexadecimal digits. -/
inductive Hex4 : ℕ → List UInt8 → Prop
  | mk {a b c d : UInt8} {w x y z : ℕ} (ha : hexValue a = some w) (hb : hexValue b = some x)
    (hc : hexValue c = some y) (hd : hexValue d = some z) :
    Hex4 (((w * 16 + x) * 16 + y) * 16 + z) [a, b, c, d]

/-- The code point of a surrogate pair. -/
def pairCode (high low : ℕ) : ℕ := 0x10000 + (high - 0xD800) * 0x400 + (low - 0xDC00)

/-- The bytes of a code point. -/
def utf8 (code : ℕ) : List UInt8 := String.utf8EncodeChar (Char.ofNat code)

/-- The bytes of one character of a quoted string: as it is, escaped, by its code, or by a surrogate
pair.  An escape for half of a pair alone stands for nothing; an escaped zero stands for a zero,
which is the end of a C string. -/
inductive CharText (plain : UInt8 → Prop) : List UInt8 → List UInt8 → Prop
  | plain {c : UInt8} (h : plain c) : CharText plain [c] [c]
  | escape {e c : UInt8} (h : (e, c) ∈ escapes) : CharText plain [c] [92, e]
  | unicode {code : ℕ} {ds : List UInt8} (hds : Hex4 code ds)
    (hcode : code < 0xD800 ∨ 0xDFFF < code) : CharText plain (utf8 code) (92 :: 117 :: ds)
  | pair {high low : ℕ} {ds ds' : List UInt8} (hds : Hex4 high ds) (hds' : Hex4 low ds')
    (hhigh : 0xD800 ≤ high ∧ high ≤ 0xDBFF) (hlow : 0xDC00 ≤ low ∧ low ≤ 0xDFFF) :
    CharText plain (utf8 (pairCode high low)) (92 :: 117 :: (ds ++ 92 :: 117 :: ds'))

/-- One part after another. -/
inductive Concat (P : List UInt8 → List UInt8 → Prop) : List UInt8 → List UInt8 → Prop
  | nil : Concat P [] []
  | cons {b t s u : List UInt8} (h : P b t) (hrest : Concat P s u) : Concat P (b ++ s) (t ++ u)

/-- What stands in a quoted string as it is. -/
def isPlain (c : UInt8) : Prop := 32 ≤ c ∧ c ≠ 34 ∧ c ≠ 92

/-- The numerals of the standard: no plus at the front, and digits on both sides of the point. -/
structure IsNumber (n : Numeral) : Prop where
  sign : n.sign ≠ some false
  integer : n.integer ≠ []
  fraction : n.fraction ≠ some []

/-- The lexical parts of the standard, for numbers kept as `read` makes them and written with at
most `width` characters; leading zeros are allowed, and escapes for half of a surrogate pair, which
the standard leaves open, are not. -/
def standard {ν : Type} (read : ℚ → ν) (width : ℕ) : Lexicon ν where
  space c := c = 32 ∨ c = 9 ∨ c = 10 ∨ c = 13
  str := Concat (CharText isPlain)
  num v t := ∃ n : Numeral, IsNumber n ∧ n.text.length ≤ width ∧ v = read n.value ∧ t = n.text

end Json
