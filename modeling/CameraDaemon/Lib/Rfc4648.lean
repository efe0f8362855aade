import Mathlib.Data.List.Basic

/-!
# Base64 without padding

RFC 4648 reads three octets as one number of 24 bits and writes it as four digits to the base 64,
each by a letter.  Here octets come in whole groups of three, so that no padding is needed.

Decoders shift and mask in eight bits.  `octets_shift` says that this computes the octets of the
number.

## Main definitions

* `group`, `sextets` — the number of three octets, and its digits.
* `number`, `octets` — the number of four digits, and its octets.
* `letter` — the alphabet.
* `encode`, `decode` — octets to letters, and digits to octets.

## Main results

* `decode_digits` — decoding the digits of octets gives the octets.
* `encode_decode` — encoding what digits decode to gives their letters.
-/

namespace Rfc4648

/-- The number of three octets. -/
def group (a b c : UInt8) : ℕ := (a.toNat * 256 + b.toNat) * 256 + c.toNat

/-- The four digits of a number to the base 64. -/
def sextets (n : ℕ) : List ℕ := [n / 262144 % 64, n / 4096 % 64, n / 64 % 64, n % 64]

/-- The number of four digits. -/
def number (s₀ s₁ s₂ s₃ : ℕ) : ℕ := ((s₀ * 64 + s₁) * 64 + s₂) * 64 + s₃

/-- The three octets of a number. -/
def octets (n : ℕ) : List UInt8 := [UInt8.ofNat (n / 65536), UInt8.ofNat (n / 256), UInt8.ofNat n]

/-- The digits of octets that come in groups of three. -/
def digits : List UInt8 → List ℕ
  | a :: b :: c :: rest => sextets (group a b c) ++ digits rest
  | _ => []

/-- The letter of a digit: capital letters, small letters, figures, plus and slash. -/
def letter (d : ℕ) : UInt8 :=
  if d < 26 then UInt8.ofNat (65 + d)
  else if d < 52 then UInt8.ofNat (97 + (d - 26))
  else if d < 62 then UInt8.ofNat (48 + (d - 52))
  else if d = 62 then 43
  else 47

/-- The encoding of octets that come in groups of three. -/
def encode (os : List UInt8) : List UInt8 := (digits os).map letter

/-- The octets of digits that come in groups of four. -/
def decode : List ℕ → List UInt8
  | s₀ :: s₁ :: s₂ :: s₃ :: rest => octets (number s₀ s₁ s₂ s₃) ++ decode rest
  | _ => []

/-! ### One group -/

/-- The octets of a number of three octets. -/
theorem octets_group (a b c : UInt8) : octets (group a b c) = [a, b, c] := by
  have ha := a.toNat_lt
  have hb := b.toNat_lt
  have hc := c.toNat_lt
  have hfirst : UInt8.ofNat (group a b c / 65536) = a := by
    apply UInt8.toNat_inj.mp
    rw [UInt8.toNat_ofNat', group]
    omega
  have hsecond : UInt8.ofNat (group a b c / 256) = b := by
    apply UInt8.toNat_inj.mp
    rw [UInt8.toNat_ofNat', group]
    omega
  have hthird : UInt8.ofNat (group a b c) = c := by
    apply UInt8.toNat_inj.mp
    rw [UInt8.toNat_ofNat', group]
    omega
  rw [octets, hfirst, hsecond, hthird]

/-- A number of three octets has 24 bits, so its digits are those of the number. -/
theorem number_sextets (a b c : UInt8) :
    number (group a b c / 262144 % 64) (group a b c / 4096 % 64) (group a b c / 64 % 64)
      (group a b c % 64) = group a b c := by
  have ha := a.toNat_lt
  have hb := b.toNat_lt
  have hc := c.toNat_lt
  have hlt : group a b c < 16777216 := by
    rw [group]
    omega
  rw [number]
  omega

section Digits

variable {s₀ s₁ s₂ s₃ : ℕ} (h₀ : s₀ < 64) (h₁ : s₁ < 64) (h₂ : s₂ < 64) (h₃ : s₃ < 64)
include h₀ h₁ h₂ h₃

/-- The digits of a number of four digits. -/
theorem sextets_number : sextets (number s₀ s₁ s₂ s₃) = [s₀, s₁, s₂, s₃] := by
  have hfirst : number s₀ s₁ s₂ s₃ / 262144 % 64 = s₀ := by
    rw [number]
    omega
  have hsecond : number s₀ s₁ s₂ s₃ / 4096 % 64 = s₁ := by
    rw [number]
    omega
  have hthird : number s₀ s₁ s₂ s₃ / 64 % 64 = s₂ := by
    rw [number]
    omega
  have hfourth : number s₀ s₁ s₂ s₃ % 64 = s₃ := by
    rw [number]
    omega
  rw [sextets, hfirst, hsecond, hthird, hfourth]

/-- The number of the octets of a number of four digits. -/
theorem group_octets_number :
    group (UInt8.ofNat (number s₀ s₁ s₂ s₃ / 65536)) (UInt8.ofNat (number s₀ s₁ s₂ s₃ / 256))
      (UInt8.ofNat (number s₀ s₁ s₂ s₃)) = number s₀ s₁ s₂ s₃ := by
  have hlt : number s₀ s₁ s₂ s₃ < 16777216 := by
    rw [number]
    omega
  rw [group, UInt8.toNat_ofNat', UInt8.toNat_ofNat', UInt8.toNat_ofNat']
  omega

end Digits

/-! ### Shifting in eight bits -/

/-- What is shifted to the left of `y` in eight bits loses what does not fit. -/
theorem shiftLeft_mod_or {x y k : ℕ} (hk : k ≤ 8) (hy : y < 1 <<< k) :
    x <<< k % 256 ||| y = (x <<< k + y) % 256 := by
  rw [Nat.one_shiftLeft] at hy
  have hy' : y < 256 := Nat.lt_of_lt_of_le hy (Nat.pow_le_pow_right (by omega) hk)
  rw [Nat.shiftLeft_add_eq_or_of_lt hy, show 256 = 2 ^ 8 from rfl, Nat.or_mod_two_pow,
    Nat.mod_eq_of_lt (show y < 2 ^ 8 from hy')]

section Shift

variable {s₀ s₁ s₂ s₃ : ℕ} (h₀ : s₀ < 64) (h₁ : s₁ < 64) (h₂ : s₂ < 64) (h₃ : s₃ < 64)
include h₀ h₁ h₂ h₃

/-- **The octets of four digits, by shifts.** -/
theorem octets_shift :
    [UInt8.ofNat s₀ <<< 2 ||| UInt8.ofNat s₁ >>> 4, UInt8.ofNat s₁ <<< 4 ||| UInt8.ofNat s₂ >>> 2,
      UInt8.ofNat s₂ <<< 6 ||| UInt8.ofNat s₃] = octets (number s₀ s₁ s₂ s₃) := by
  have hmod : ∀ s < 64, s % 256 = s := by
    intro s hs
    omega
  have hfirst : UInt8.ofNat s₀ <<< 2 ||| UInt8.ofNat s₁ >>> 4 =
      UInt8.ofNat (number s₀ s₁ s₂ s₃ / 65536) := by
    have hor := shiftLeft_mod_or (x := s₀) (show 2 ≤ 8 by omega) (show s₁ / 16 < 1 <<< 2 by omega)
    apply UInt8.toNat_inj.mp
    simp only [UInt8.toNat_or, UInt8.toNat_shiftLeft, UInt8.toNat_shiftRight, UInt8.toNat_ofNat',
      UInt8.reduceToNat, Nat.reduceMod, Nat.reducePow, hmod s₀ h₀, hmod s₁ h₁,
      Nat.shiftRight_eq_div_pow, Nat.shiftLeft_eq] at hor ⊢
    rw [hor, number]
    omega
  have hsecond : UInt8.ofNat s₁ <<< 4 ||| UInt8.ofNat s₂ >>> 2 =
      UInt8.ofNat (number s₀ s₁ s₂ s₃ / 256) := by
    have hor := shiftLeft_mod_or (x := s₁) (show 4 ≤ 8 by omega) (show s₂ / 4 < 1 <<< 4 by omega)
    apply UInt8.toNat_inj.mp
    simp only [UInt8.toNat_or, UInt8.toNat_shiftLeft, UInt8.toNat_shiftRight, UInt8.toNat_ofNat',
      UInt8.reduceToNat, Nat.reduceMod, Nat.reducePow, hmod s₁ h₁, hmod s₂ h₂,
      Nat.shiftRight_eq_div_pow, Nat.shiftLeft_eq] at hor ⊢
    rw [hor, number]
    omega
  have hthird : UInt8.ofNat s₂ <<< 6 ||| UInt8.ofNat s₃ = UInt8.ofNat (number s₀ s₁ s₂ s₃) := by
    have hor := shiftLeft_mod_or (x := s₂) (show 6 ≤ 8 by omega) (show s₃ < 1 <<< 6 by omega)
    apply UInt8.toNat_inj.mp
    simp only [UInt8.toNat_or, UInt8.toNat_shiftLeft, UInt8.toNat_ofNat', UInt8.reduceToNat,
      Nat.reduceMod, Nat.reducePow, hmod s₂ h₂, hmod s₃ h₃, Nat.shiftLeft_eq] at hor ⊢
    rw [hor, number]
    omega
  rw [octets, hfirst, hsecond, hthird]

end Shift

/-! ### Any number of groups -/

/-- Octets that come in groups of three and have no first group are none. -/
theorem eq_nil_of_no_group : ∀ {os : List UInt8}, (∀ a b c rest, os = a :: b :: c :: rest → False) →
    3 ∣ os.length → os = []
  | [], _, _ => rfl
  | [_], _, h => absurd h (by simp)
  | [_, _], _, h => absurd h (by simp)
  | a :: b :: c :: rest, hno, _ => absurd rfl (hno a b c rest)

/-- Digits that come in groups of four and have no first group are none. -/
theorem eq_nil_of_no_quad : ∀ {ds : List ℕ},
    (∀ s₀ s₁ s₂ s₃ rest, ds = s₀ :: s₁ :: s₂ :: s₃ :: rest → False) → 4 ∣ ds.length → ds = []
  | [], _, _ => rfl
  | [_], _, h => absurd h (by simp)
  | [_, _], _, h => absurd h (by simp)
  | [_, _, _], _, h => absurd h (by simp)
  | s₀ :: s₁ :: s₂ :: s₃ :: rest, hno, _ => absurd rfl (hno s₀ s₁ s₂ s₃ rest)

theorem digits_lt (os : List UInt8) : ∀ d ∈ digits os, d < 64 := by
  induction os using digits.induct with
  | case1 a b c rest ih =>
    intro d hd
    rcases List.mem_append.mp hd with hd | hd
    · simp only [sextets, List.mem_cons, List.not_mem_nil, or_false] at hd
      omega
    · exact ih d hd
  | case2 os hno =>
    intro d hd
    rw [digits] at hd
    · cases hd
    · exact hno

theorem length_digits {os : List UInt8} (h : 3 ∣ os.length) :
    (digits os).length = 4 * (os.length / 3) := by
  induction os using digits.induct with
  | case1 a b c rest ih =>
    simp only [List.length_cons] at h
    have hrest := ih (by omega)
    simp only [digits, sextets, List.length_append, List.length_cons, List.length_nil, hrest]
    omega
  | case2 os hno =>
    rw [eq_nil_of_no_group hno h]
    rfl

/-- **Decoding the digits of octets gives the octets.** -/
theorem decode_digits {os : List UInt8} (h : 3 ∣ os.length) : decode (digits os) = os := by
  induction os using digits.induct with
  | case1 a b c rest ih =>
    simp only [List.length_cons] at h
    have hrest := ih (by omega)
    simp only [digits, sextets, List.cons_append, List.nil_append, decode]
    rw [number_sextets, octets_group, hrest]
    rfl
  | case2 os hno =>
    rw [eq_nil_of_no_group hno h]
    rfl

theorem length_decode {ds : List ℕ} (h : 4 ∣ ds.length) :
    (decode ds).length = ds.length / 4 * 3 := by
  induction ds using decode.induct with
  | case1 s₀ s₁ s₂ s₃ rest ih =>
    simp only [List.length_cons] at h
    have hrest := ih (by omega)
    simp only [decode, octets, List.length_append, List.length_cons, List.length_nil, hrest]
    omega
  | case2 ds hno =>
    rw [eq_nil_of_no_quad hno h]
    rfl

/-- The digits of what digits decode to are the digits. -/
theorem digits_decode {ds : List ℕ} (h : 4 ∣ ds.length) (hlt : ∀ d ∈ ds, d < 64) :
    digits (decode ds) = ds := by
  induction ds using decode.induct with
  | case1 s₀ s₁ s₂ s₃ rest ih =>
    simp only [List.length_cons] at h
    simp only [List.mem_cons, forall_eq_or_imp] at hlt
    obtain ⟨h₀, h₁, h₂, h₃, hrest⟩ := hlt
    have hdigits := ih (by omega) hrest
    simp only [decode, octets, List.cons_append, List.nil_append, digits]
    rw [group_octets_number h₀ h₁ h₂ h₃, sextets_number h₀ h₁ h₂ h₃, hdigits]
    rfl
  | case2 ds hno =>
    rw [eq_nil_of_no_quad hno h]
    rfl

/-- **Encoding what digits decode to gives their letters.** -/
theorem encode_decode {ds : List ℕ} (h : 4 ∣ ds.length) (hlt : ∀ d ∈ ds, d < 64) :
    encode (decode ds) = ds.map letter := by
  rw [encode, digits_decode h hlt]

end Rfc4648
