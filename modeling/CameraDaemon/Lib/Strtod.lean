import Mathlib.Algebra.Order.Archimedean.Basic
import Mathlib.Algebra.Order.Floor.Ring
import Mathlib.Data.Int.Log
import Mathlib.Data.List.TakeWhile
import Mathlib.Data.Rat.Floor
import Mathlib.Tactic.Linarith
import Mathlib.Tactic.NormNum

/-!
# Decimal numerals and the doubles they are read as

`strtod` on a string of digits, signs, points and exponent marks.  The value of a numeral is a
rational number; the function returns the nearest `double`, and of two equally near ones the one
with an even significand.

## Main definitions

* `Double`, `toDouble` — the finite doubles as rational numbers, the infinities, and rounding.
* `strtod` — the longest numeral a string begins with, and what follows it.
* `Numeral`, `Numeral.text`, `Numeral.value` — the numerals, by their parts.

## Main results

* `toDouble_intCast` — an integer below 2^53 is a double.
* `strtod_text` — a numeral is read whole, and as its value.
* `strtod_eq_some` — what is read is a numeral.
-/

namespace Strtod

/-! ### Doubles -/

/-- The nearest integer, the even one of two. -/
def roundEven (q : ℚ) : ℤ :=
  if q - ⌊q⌋ < 1 / 2 then ⌊q⌋
  else if 1 / 2 < q - ⌊q⌋ then ⌊q⌋ + 1
  else if ⌊q⌋ % 2 = 0 then ⌊q⌋
  else ⌊q⌋ + 1

/-- A `double` that is a number; the two zeros are one. -/
inductive Double
  | finite (value : ℚ)
  | infinite (negative : Bool)
  deriving DecidableEq

/-- The exponent of the last place of the doubles around `q`: 53 bits of significand, or fewer where
the exponents end. -/
def lastPlace (q : ℚ) : ℤ := max (Int.log 2 |q| - 52) (-1074)

/-- The double nearest to `q`. -/
def toDouble (q : ℚ) : Double :=
  let unit : ℚ := 2 ^ lastPlace q
  let rounded := roundEven (q / unit) * unit
  if 2 ^ 1024 ≤ |rounded| then .infinite (q < 0) else .finite rounded

@[simp] theorem roundEven_intCast (n : ℤ) : roundEven n = n := by
  rw [roundEven, if_pos]
  · exact Int.floor_intCast n
  · rw [Int.floor_intCast]
    norm_num

/-- The last place of an integer with at most 53 bits is not above the units. -/
theorem lastPlace_intCast {n : ℤ} (h : |n| < 2 ^ 53) : lastPlace n ≤ 0 := by
  refine max_le ?_ (by norm_num)
  rcases eq_or_ne n 0 with rfl | hn
  · norm_num
  · have hpos : (0 : ℚ) < |(n : ℚ)| := abs_pos.mpr (Int.cast_ne_zero.mpr hn)
    have hlt : |(n : ℚ)| < ((2 : ℕ) : ℚ) ^ (53 : ℤ) := by
      rw [← Int.cast_abs]
      exact_mod_cast h
    have hlog := (Int.lt_zpow_iff_log_lt (b := 2) (by norm_num) hpos).mp hlt
    omega

/-- **An integer below 2^53 is a double.** -/
theorem toDouble_intCast {n : ℤ} (h : |n| < 2 ^ 53) : toDouble n = .finite n := by
  obtain ⟨k, hk⟩ := Int.eq_ofNat_of_zero_le (neg_nonneg.mpr (lastPlace_intCast h))
  have hplace : lastPlace n = -(k : ℤ) := by omega
  -- counted in units of the last place it is an integer still
  have hcount : (n : ℚ) / 2 ^ lastPlace n = ((n * 2 ^ k : ℤ) : ℚ) := by
    rw [hplace, zpow_neg, div_inv_eq_mul, zpow_natCast]
    push_cast
    rfl
  have hrounded : (roundEven ((n : ℚ) / 2 ^ lastPlace n) : ℚ) * 2 ^ lastPlace n = n := by
    rw [hcount, roundEven_intCast, ← hcount]
    exact div_mul_cancel₀ _ (zpow_ne_zero _ two_ne_zero)
  have hsmall : ¬ (2 : ℚ) ^ 1024 ≤ |(n : ℚ)| := by
    rw [not_le, ← Int.cast_abs]
    calc ((|n| : ℤ) : ℚ) < ((2 ^ 53 : ℤ) : ℚ) := Int.cast_lt.mpr h
      _ = (2 : ℚ) ^ 53 := by norm_num
      _ ≤ 2 ^ 1024 := pow_le_pow_right₀ one_le_two (by norm_num)
  rw [toDouble, hrounded, if_neg hsmall]

/-! ### Numerals -/

/-- Is the character a decimal digit? -/
def isDigit (c : UInt8) : Bool := 48 ≤ c ∧ c ≤ 57

/-- The value of a string of digits. -/
def digitsValue (ds : List UInt8) : ℕ := ds.foldl (fun n c => 10 * n + (c.toNat - 48)) 0

/-- An optional sign: is it a minus? -/
def scanSign : List UInt8 → Bool × List UInt8
  | [] => (false, [])
  | c :: s => if c = 45 then (true, s) else if c = 43 then (false, s) else (false, c :: s)

/-- The digits a string begins with. -/
def scanDigits (s : List UInt8) : List UInt8 × List UInt8 := s.span isDigit

/-- An optional point, and the digits behind it. -/
def scanFraction : List UInt8 → List UInt8 × List UInt8
  | [] => ([], [])
  | c :: s => if c = 46 then scanDigits s else ([], c :: s)

/-- An optional exponent; a mark without digits is no exponent. -/
def scanExponent : List UInt8 → ℤ × List UInt8
  | [] => (0, [])
  | c :: s =>
    if c = 101 ∨ c = 69 then
      let (negative, t) := scanSign s
      let (ds, u) := scanDigits t
      if ds = [] then (0, c :: s)
      else (if negative then -(digitsValue ds : ℤ) else digitsValue ds, u)
    else (0, c :: s)

/-- A number from its parts. -/
def decimal (negative : Bool) (integer fraction : List UInt8) (exponent : ℤ) : ℚ :=
  (if negative then -1 else 1) * digitsValue (integer ++ fraction) *
    10 ^ (exponent - fraction.length)

/-- `strtod` on a string of digits, signs, points and exponent marks: the value, and what follows
the numeral. -/
def strtod (s : List UInt8) : Option (Double × List UInt8) :=
  let (negative, s) := scanSign s
  let (integer, s) := scanDigits s
  let (fraction, s) := scanFraction s
  if integer = [] ∧ fraction = [] then none
  else
    let (exponent, s) := scanExponent s
    some (toDouble (decimal negative integer fraction exponent), s)

/-! ### The numerals by their parts -/

/-- An exponent: its mark, its sign (is it a minus?) and its digits. -/
structure Exponent where
  capital : Bool
  sign : Option Bool
  digits : List UInt8
  ne_nil : digits ≠ []
  isDigit : ∀ c ∈ digits, isDigit c

/-- A numeral: its sign (is it a minus?), the digits before the point, the digits behind it if there
is a point, and its exponent. -/
structure Numeral where
  sign : Option Bool
  integer : List UInt8
  fraction : Option (List UInt8)
  exponent : Option Exponent
  integer_isDigit : ∀ c ∈ integer, isDigit c
  fraction_isDigit : ∀ ds ∈ fraction, ∀ c ∈ ds, isDigit c
  has_digit : integer ≠ [] ∨ fraction.getD [] ≠ []

def signText : Option Bool → List UInt8
  | none => []
  | some true => [45]
  | some false => [43]

def fractionText : Option (List UInt8) → List UInt8
  | none => []
  | some ds => 46 :: ds

def Exponent.text (e : Exponent) : List UInt8 :=
  (if e.capital then 69 else 101) :: (signText e.sign ++ e.digits)

def Exponent.value (e : Exponent) : ℤ :=
  if e.sign = some true then -(digitsValue e.digits : ℤ) else digitsValue e.digits

def exponentText : Option Exponent → List UInt8
  | none => []
  | some e => e.text

def exponentValue : Option Exponent → ℤ
  | none => 0
  | some e => e.value

def Numeral.text (n : Numeral) : List UInt8 :=
  signText n.sign ++ (n.integer ++ (fractionText n.fraction ++ exponentText n.exponent))

def Numeral.value (n : Numeral) : ℚ :=
  decimal (n.sign = some true) n.integer (n.fraction.getD []) (exponentValue n.exponent)

/-! ### A numeral is read whole -/

/-- No digit stands at the front. -/
def NoDigit (s : List UInt8) : Prop := ∀ c ∈ s.head?, isDigit c = false

theorem scanDigits_append {ds s : List UInt8} (hds : ∀ c ∈ ds, isDigit c) (hs : NoDigit s) :
    scanDigits (ds ++ s) = (ds, s) := by
  rw [scanDigits, List.span_eq_takeWhile_dropWhile, List.takeWhile_append_of_pos hds,
    List.dropWhile_append_of_pos hds]
  cases s with
  | nil => simp
  | cons c s =>
    have hc : isDigit c = false := hs c rfl
    simp [hc]

theorem noDigit_exponentText (e : Option Exponent) : NoDigit (exponentText e) := by
  cases e with
  | none => intro c hc; cases hc
  | some e =>
    intro c hc
    cases Option.some.inj hc
    cases e.capital <;> decide

theorem noDigit_fractionText (f : Option (List UInt8)) (e : Option Exponent) :
    NoDigit (fractionText f ++ exponentText e) := by
  cases f with
  | none => exact noDigit_exponentText e
  | some ds =>
    intro c hc
    cases Option.some.inj hc
    decide

/-- A sign is read where no other sign follows. -/
theorem scanSign_append (sign : Option Bool) {s : List UInt8}
    (hs : ∀ c ∈ s.head?, c ≠ 45 ∧ c ≠ 43) :
    scanSign (signText sign ++ s) = (decide (sign = some true), s) := by
  cases sign with
  | some b => cases b <;> rfl
  | none =>
    cases s with
    | nil => rfl
    | cons c s =>
      obtain ⟨h45, h43⟩ := hs c rfl
      simp [signText, scanSign, h45, h43]

theorem ne_sign_of_isDigit {c : UInt8} (hc : isDigit c) : c ≠ 45 ∧ c ≠ 43 := by
  constructor
  · rintro rfl
    exact absurd hc (by decide)
  · rintro rfl
    exact absurd hc (by decide)

theorem scanFraction_text (f : Option (List UInt8)) (hf : ∀ ds ∈ f, ∀ c ∈ ds, isDigit c)
    (e : Option Exponent) :
    scanFraction (fractionText f ++ exponentText e) = (f.getD [], exponentText e) := by
  cases f with
  | some ds =>
    rw [fractionText, List.cons_append, scanFraction, if_pos rfl,
      scanDigits_append (hf ds rfl) (noDigit_exponentText e), Option.getD_some]
  | none =>
    cases e with
    | none => rfl
    | some e =>
      have hmark : (if e.capital then (69 : UInt8) else 101) ≠ 46 := by cases e.capital <;> decide
      simp [fractionText, exponentText, Exponent.text, scanFraction, hmark]

theorem scanExponent_text (e : Option Exponent) :
    scanExponent (exponentText e) = (exponentValue e, []) := by
  cases e with
  | none => rfl
  | some e =>
    have hmark : (if e.capital then (69 : UInt8) else 101) = 101 ∨
        (if e.capital then (69 : UInt8) else 101) = 69 := by cases e.capital <;> decide
    have hsign := scanSign_append e.sign (s := e.digits)
      fun c hc => ne_sign_of_isDigit (e.isDigit c (List.mem_of_mem_head? hc))
    have hdigits := scanDigits_append e.isDigit (s := []) (by intro c hc; cases hc)
    rw [List.append_nil] at hdigits
    rw [exponentText, Exponent.text, scanExponent, if_pos hmark, hsign]
    simp only [hdigits, if_neg e.ne_nil, exponentValue, Exponent.value, decide_eq_true_eq]

/-- Behind its sign a numeral goes on with a digit or a point. -/
theorem Numeral.head_ne_sign (n : Numeral) :
    ∀ c ∈ (n.integer ++ (fractionText n.fraction ++ exponentText n.exponent)).head?,
      c ≠ 45 ∧ c ≠ 43 := by
  intro c hc
  rcases hinteger : n.integer with _ | ⟨d, ds⟩
  · rcases hfraction : n.fraction with _ | fs
    · have hdigit := n.has_digit
      simp [hinteger, hfraction] at hdigit
    · rw [hinteger, hfraction] at hc
      cases Option.some.inj hc
      decide
  · rw [hinteger] at hc
    cases Option.some.inj hc
    exact ne_sign_of_isDigit (n.integer_isDigit c (hinteger ▸ List.mem_cons_self))

/-- **A numeral is read whole, and as its value.** -/
theorem strtod_text (n : Numeral) : strtod n.text = some (toDouble n.value, []) := by
  have hsign := scanSign_append n.sign n.head_ne_sign
  have hdigits := scanDigits_append n.integer_isDigit (noDigit_fractionText n.fraction n.exponent)
  have hne : ¬ (n.integer = [] ∧ n.fraction.getD [] = []) := fun h =>
    n.has_digit.elim (fun hi => hi h.1) fun hf => hf h.2
  simp only [strtod, Numeral.text, hsign, hdigits, scanFraction_text n.fraction n.fraction_isDigit,
    scanExponent_text, if_neg hne]
  rfl

/-! ### What is read is a numeral -/

theorem scanDigits_spec (s : List UInt8) :
    (scanDigits s).1 ++ (scanDigits s).2 = s ∧ ∀ c ∈ (scanDigits s).1, isDigit c := by
  rw [scanDigits, List.span_eq_takeWhile_dropWhile]
  exact ⟨List.takeWhile_append_dropWhile, fun c hc => List.mem_takeWhile_imp hc⟩

theorem scanSign_spec (s : List UInt8) :
    ∃ sign, s = signText sign ++ (scanSign s).2 ∧ (scanSign s).1 = decide (sign = some true) := by
  rcases s with _ | ⟨c, s⟩
  · exact ⟨none, rfl, rfl⟩
  rw [scanSign]
  split
  · next h => exact ⟨some true, by rw [h]; rfl, rfl⟩
  split
  · next h => exact ⟨some false, by rw [h]; rfl, rfl⟩
  · exact ⟨none, rfl, rfl⟩

theorem scanFraction_spec (s : List UInt8) :
    ∃ f, s = fractionText f ++ (scanFraction s).2 ∧ (scanFraction s).1 = f.getD [] ∧
      ∀ ds ∈ f, ∀ c ∈ ds, isDigit c := by
  rcases s with _ | ⟨c, s⟩
  · exact ⟨none, rfl, rfl, by intro ds hds; cases hds⟩
  rw [scanFraction]
  split
  · next h =>
    obtain ⟨happend, hdigits⟩ := scanDigits_spec s
    refine ⟨some (scanDigits s).1, ?_, rfl, ?_⟩
    · rw [h, fractionText, List.cons_append, happend]
    · intro ds hds
      cases hds
      exact hdigits
  · exact ⟨none, rfl, rfl, by intro ds hds; cases hds⟩

theorem scanExponent_spec (s : List UInt8) :
    ∃ e, s = exponentText e ++ (scanExponent s).2 ∧ (scanExponent s).1 = exponentValue e := by
  rcases s with _ | ⟨c, s⟩
  · exact ⟨none, rfl, rfl⟩
  rw [scanExponent]
  split
  · next hmark =>
    obtain ⟨sign, hsign, hminus⟩ := scanSign_spec s
    obtain ⟨happend, hdigits⟩ := scanDigits_spec (scanSign s).2
    simp only
    split
    · exact ⟨none, rfl, rfl⟩
    · next hne =>
      refine ⟨some ⟨c = 69, sign, (scanDigits (scanSign s).2).1, hne, hdigits⟩, ?_, ?_⟩
      · have hc : (if decide (c = 69) = true then (69 : UInt8) else 101) = c := by
          rcases hmark with rfl | rfl <;> decide
        simp only [exponentText, Exponent.text, hc, List.cons_append, List.append_assoc, happend]
        rw [← hsign]
      · simp only [exponentValue, Exponent.value, hminus, decide_eq_true_eq]
  · exact ⟨none, rfl, rfl⟩

/-- **What is read is a numeral, and what is returned is its value.** -/
theorem strtod_eq_some {s rest : List UInt8} {d : Double} (h : strtod s = some (d, rest)) :
    ∃ n : Numeral, s = n.text ++ rest ∧ d = toDouble n.value := by
  obtain ⟨sign, hsign, hminus⟩ := scanSign_spec s
  obtain ⟨hinteger, hdigits⟩ := scanDigits_spec (scanSign s).2
  obtain ⟨f, hfraction, hf, hfdigits⟩ := scanFraction_spec (scanDigits (scanSign s).2).2
  obtain ⟨e, hexponent, he⟩ :=
    scanExponent_spec (scanFraction (scanDigits (scanSign s).2).2).2
  simp only [strtod] at h
  split at h
  · cases h
  · next hne =>
    rw [Option.some.injEq, Prod.mk.injEq] at h
    obtain ⟨rfl, rfl⟩ := h
    have hdigit : (scanDigits (scanSign s).2).1 ≠ [] ∨ f.getD [] ≠ [] := by
      rw [← hf]
      exact not_and_or.mp hne
    refine ⟨⟨sign, (scanDigits (scanSign s).2).1, f, e, hdigits, hfdigits, hdigit⟩, ?_, ?_⟩
    · simp only [Numeral.text, List.append_assoc]
      rw [← hexponent, ← hfraction, hinteger, ← hsign]
    · rw [Numeral.value, hminus, hf, he]

end Strtod
