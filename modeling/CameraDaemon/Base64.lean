import CameraDaemon.Lib.CString
import CameraDaemon.Lib.Rfc4648

/-!
# Decoding the key text

The decoder of `util.c` reads blocks of four characters and writes three octets for each.  A
character outside the alphabet counts as padding and ends the decoding after its block; a character
is looked up with `strchr`, so the terminator of the input is *found*, at position 64, and is not
counted.

* `base64BlockToOctetTriple` — one block.
* `base64StringToOctetString` — the loop over the blocks.
* `b64chars_eq` — the table of the decoder is the alphabet of RFC 4648.
* `base64StringToOctetString_pad` — **when a text is read without padding.**
* `base64StringToOctetString_letters` — **what is written for text of the alphabet.**
-/

namespace CameraDaemon

open CString Memory Rfc4648

/-- `b64chars`. -/
def b64chars : List UInt8 :=
  ascii "ABCDEFGHIJKLMNOPQRSTUVWXYZabcdefghijklmnopqrstuvwxyz0123456789+/"

/-- The sextet of a character and whether it counts as padding. -/
def base64Sextet (c : UInt8) : UInt8 × ℕ :=
  match strchr b64chars c with
  | some pos => (UInt8.ofNat pos, 0)
  | none => (0, 1)

/-- `base64_block_to_octet_triple`: the number of characters that are not in the alphabet, and the
output with the octets of this block. -/
def base64BlockToOctetTriple (out : ℕ → UInt8) (k : ℕ) (inp : ℕ → UInt8) (i : ℕ) :
    ℕ × (ℕ → UInt8) :=
  let s := fun n => base64Sextet (inp (i + n))
  let j := (s 0).2 + (s 1).2 + (s 2).2 + (s 3).2
  let out := store out k [((s 0).1 <<< 2) ||| ((s 1).1 >>> 4)]
  let out := if j < 2 then store out (k + 1) [((s 1).1 <<< 4) ||| ((s 2).1 >>> 2)] else out
  let out := if j < 1 then store out (k + 2) [((s 2).1 <<< 6) ||| (s 3).1] else out
  (j, out)

/-- The loop of `base64_string_to_octet_string` with `blocks` whole blocks left: the characters
read, the padding of the last block and the output. -/
def base64Blocks (inp : ℕ → UInt8) : (blocks i k : ℕ) → (ℕ → UInt8) → ℕ × ℕ × (ℕ → UInt8)
  | 0, i, _, out => (i, 0, out)
  | blocks + 1, i, k, out =>
    let (j, out) := base64BlockToOctetTriple out k inp i
    if j = 0 then base64Blocks inp blocks (i + 4) (k + 3) out else (i + 4, j, out)

/-- `base64_string_to_octet_string`: the value returned, the padding (left alone when the length is
not a multiple of four) and the output. -/
def base64StringToOctetString (out : ℕ → UInt8) (inp : ℕ → UInt8) (len : ℕ) :
    ℕ × Option ℕ × (ℕ → UInt8) :=
  if len % 4 ≠ 0 then (0, none, out)
  else
    let (i, j, out) := base64Blocks inp (len / 4) 0 0 out
    (i, some j, out)

/-! ### Padding -/

/-- The characters that are not counted as padding: those of the alphabet, and the terminator. -/
def IsB64 (c : UInt8) : Prop := c ∈ b64chars ∨ c = 0

instance (c : UInt8) : Decidable (IsB64 c) := inferInstanceAs (Decidable (c ∈ b64chars ∨ c = 0))

theorem base64Sextet_pad (c : UInt8) : (base64Sextet c).2 = 0 ↔ IsB64 c := by
  rw [IsB64, ← isSome_strchr, base64Sextet]
  cases strchr b64chars c with
  | some pos => simp
  | none => simp

/-- A block has no padding exactly when its four characters are found. -/
theorem base64BlockToOctetTriple_pad (out : ℕ → UInt8) (k : ℕ) (inp : ℕ → UInt8) (i : ℕ) :
    (base64BlockToOctetTriple out k inp i).1 = 0 ↔ ∀ n < 4, IsB64 (inp (i + n)) := by
  simp only [base64BlockToOctetTriple, Nat.add_eq_zero_iff, base64Sextet_pad]
  constructor
  · rintro ⟨⟨⟨h₀, h₁⟩, h₂⟩, h₃⟩ n hn
    match n, hn with
    | 0, _ => exact h₀
    | 1, _ => exact h₁
    | 2, _ => exact h₂
    | 3, _ => exact h₃
  · intro h
    exact ⟨⟨⟨h 0 (by omega), h 1 (by omega)⟩, h 2 (by omega)⟩, h 3 (by omega)⟩

/-- The loop ends without padding exactly when every character of the blocks is found; then it has
read them all. -/
theorem base64Blocks_pad (inp : ℕ → UInt8) : ∀ (blocks i k : ℕ) (out : ℕ → UInt8),
    ((base64Blocks inp blocks i k out).2.1 = 0 ↔ ∀ n < 4 * blocks, IsB64 (inp (i + n))) ∧
      ((base64Blocks inp blocks i k out).2.1 = 0 →
        (base64Blocks inp blocks i k out).1 = i + 4 * blocks) := by
  intro blocks
  induction blocks with
  | zero =>
    intro i k out
    simp [base64Blocks]
  | succ blocks ih =>
    intro i k out
    have hblock := base64BlockToOctetTriple_pad out k inp i
    obtain ⟨hpad, hlen⟩ := ih (i + 4) (k + 3) (base64BlockToOctetTriple out k inp i).2
    simp only [base64Blocks]
    by_cases hj : (base64BlockToOctetTriple out k inp i).1 = 0
    · rw [if_pos hj]
      refine ⟨hpad.trans ⟨fun hrest n hn => ?_, fun hall n hn => ?_⟩, fun hzero => ?_⟩
      · -- a character of this block, or of a later one
        by_cases hfour : n < 4
        · exact hblock.mp hj n hfour
        · have hlater := hrest (n - 4) (by omega)
          rwa [show i + 4 + (n - 4) = i + n by omega] at hlater
      · rw [Nat.add_assoc]
        exact hall (4 + n) (by omega)
      · rw [hlen hzero]
        omega
    · rw [if_neg hj]
      refine ⟨iff_of_false hj fun hall => hj ?_, fun hzero => absurd hzero hj⟩
      exact hblock.mpr fun n hn => hall n (by omega)

/-- **A text is read without padding exactly when its characters are found**; then it is read to its
end. -/
theorem base64StringToOctetString_pad (out inp : ℕ → UInt8) {len : ℕ} (hlen : len % 4 = 0) :
    ((base64StringToOctetString out inp len).2.1 = some 0 ↔ ∀ n < len, IsB64 (inp n)) ∧
      ((base64StringToOctetString out inp len).2.1 = some 0 →
        (base64StringToOctetString out inp len).1 = len) := by
  obtain ⟨hpad, hread⟩ := base64Blocks_pad inp (len / 4) 0 0 out
  have hall : 4 * (len / 4) = len := by omega
  simp only [hall, Nat.zero_add] at hpad hread
  simp only [base64StringToOctetString, hlen, ne_eq, not_true_eq_false, if_false, Option.some.injEq]
  exact ⟨hpad, hread⟩

/-! ### The octets -/

/-- **The table of the decoder is the alphabet of RFC 4648.** -/
theorem b64chars_eq : b64chars = (List.range 64).map letter := by decide +kernel

theorem mem_b64chars {c : UInt8} : c ∈ b64chars ↔ ∃ d < 64, letter d = c := by
  rw [b64chars_eq, List.mem_map]
  simp only [List.mem_range]

theorem base64Sextet_letter : ∀ d < 64, base64Sextet (letter d) = (UInt8.ofNat d, 0) := by
  decide +kernel

/-- A block of letters is written as the octets of its digits. -/
theorem base64BlockToOctetTriple_letters (out : ℕ → UInt8) (k : ℕ) {inp : ℕ → UInt8}
    {i s₀ s₁ s₂ s₃ : ℕ} (h₀ : s₀ < 64) (h₁ : s₁ < 64) (h₂ : s₂ < 64) (h₃ : s₃ < 64)
    (hinp : slice inp i 4 = [s₀, s₁, s₂, s₃].map letter) :
    base64BlockToOctetTriple out k inp i = (0, store out k (octets (number s₀ s₁ s₂ s₃))) := by
  have hchars : [inp i, inp (i + 1), inp (i + 2), inp (i + 3)] =
      [letter s₀, letter s₁, letter s₂, letter s₃] := hinp
  simp only [List.cons.injEq, and_true] at hchars
  obtain ⟨hc₀, hc₁, hc₂, hc₃⟩ := hchars
  rw [← octets_shift h₀ h₁ h₂ h₃, base64BlockToOctetTriple]
  simp only [hc₀, hc₁, hc₂, hc₃, base64Sextet_letter _ h₀, base64Sextet_letter _ h₁,
    base64Sextet_letter _ h₂, base64Sextet_letter _ h₃, Nat.add_zero, Nat.zero_lt_succ, if_true]
  -- the three stores are one
  have htwo := store_append out k [UInt8.ofNat s₀ <<< 2 ||| UInt8.ofNat s₁ >>> 4]
    [UInt8.ofNat s₁ <<< 4 ||| UInt8.ofNat s₂ >>> 2]
  have hthree := store_append out k [UInt8.ofNat s₀ <<< 2 ||| UInt8.ofNat s₁ >>> 4,
    UInt8.ofNat s₁ <<< 4 ||| UInt8.ofNat s₂ >>> 2] [UInt8.ofNat s₂ <<< 6 ||| UInt8.ofNat s₃]
  simp only [List.length_cons, List.length_nil, Nat.zero_add, List.cons_append, List.nil_append,
    Nat.reduceAdd] at htwo hthree
  rw [htwo, hthree]

/-- **The loop decodes**: on the letters of digits it writes the octets that they decode to. -/
theorem base64Blocks_letters (inp : ℕ → UInt8) :
    ∀ (blocks i k : ℕ) (out : ℕ → UInt8) (ds : List ℕ), ds.length = 4 * blocks →
      (∀ d ∈ ds, d < 64) → slice inp i (4 * blocks) = ds.map letter →
      base64Blocks inp blocks i k out = (i + 4 * blocks, 0, store out k (decode ds)) := by
  intro blocks
  induction blocks with
  | zero =>
    intro i k out ds hlen _ _
    rw [List.length_eq_zero_iff.mp hlen]
    simp [base64Blocks, decode]
  | succ blocks ih =>
    intro i k out ds hlen hlt hinp
    -- fewer than four digits are no block
    rcases ds with _ | ⟨s₀, _ | ⟨s₁, _ | ⟨s₂, _ | ⟨s₃, rest⟩⟩⟩⟩
    iterate 4
      · simp only [List.length_cons, List.length_nil] at hlen
        omega
    · simp only [List.length_cons] at hlen
      simp only [List.mem_cons, forall_eq_or_imp] at hlt
      obtain ⟨h₀, h₁, h₂, h₃, hrest⟩ := hlt
      -- the first four characters, and the rest
      rw [show 4 * (blocks + 1) = 4 + 4 * blocks by omega, slice_add] at hinp
      obtain ⟨hfour, hlater⟩ := List.append_inj
        (show _ = [s₀, s₁, s₂, s₃].map letter ++ rest.map letter from hinp) (by simp)
      have hblock := base64BlockToOctetTriple_letters out k h₀ h₁ h₂ h₃ hfour
      have htail := ih (i + 4) (k + 3) (store out k (octets (number s₀ s₁ s₂ s₃))) rest (by omega)
        hrest hlater
      have hstore : store (store out k (octets (number s₀ s₁ s₂ s₃))) (k + 3) (decode rest) =
          store out k (octets (number s₀ s₁ s₂ s₃) ++ decode rest) :=
        store_append out k (octets (number s₀ s₁ s₂ s₃)) (decode rest)
      rw [base64Blocks, hblock]
      simp only [if_true, htail, hstore, decode]
      rw [show i + 4 + 4 * blocks = i + 4 * (blocks + 1) by omega]

/-- **On the letters of digits, the octets that the digits decode to are written**, and nothing
else. -/
theorem base64StringToOctetString_letters (out : ℕ → UInt8) {inp : ℕ → UInt8} {ds : List ℕ}
    (hlen : 4 ∣ ds.length) (hlt : ∀ d ∈ ds, d < 64)
    (hinp : slice inp 0 ds.length = ds.map letter) :
    base64StringToOctetString out inp ds.length = (ds.length, some 0, store out 0 (decode ds)) := by
  have hall : 4 * (ds.length / 4) = ds.length := by omega
  have hmod : ds.length % 4 = 0 := by omega
  have hblocks := base64Blocks_letters inp (ds.length / 4) 0 0 out ds hall.symm hlt
    (by rw [hall, hinp])
  simp only [base64StringToOctetString, hmod, ne_eq, not_true_eq_false, if_false, hblocks]
  rw [Nat.zero_add, hall]

/-- Only the characters of the text are read. -/
theorem base64Blocks_congr (inp inp' : ℕ → UInt8) : ∀ (blocks i k : ℕ) (out : ℕ → UInt8),
    (∀ n < 4 * blocks, inp (i + n) = inp' (i + n)) →
    base64Blocks inp blocks i k out = base64Blocks inp' blocks i k out := by
  intro blocks
  induction blocks with
  | zero =>
    intro i k out _
    rfl
  | succ blocks ih =>
    intro i k out h
    have hblock : base64BlockToOctetTriple out k inp i = base64BlockToOctetTriple out k inp' i := by
      simp only [base64BlockToOctetTriple, h 0 (by omega), h 1 (by omega), h 2 (by omega),
        h 3 (by omega)]
    have hrest := ih (i + 4) (k + 3) (base64BlockToOctetTriple out k inp' i).2 fun n hn => by
      rw [Nat.add_assoc]
      exact h (4 + n) (by omega)
    simp only [base64Blocks, hblock, hrest]

theorem base64StringToOctetString_congr (out : ℕ → UInt8) {inp inp' : ℕ → UInt8} {len : ℕ}
    (h : ∀ n < len, inp n = inp' n) :
    base64StringToOctetString out inp len = base64StringToOctetString out inp' len := by
  have hblocks := base64Blocks_congr inp inp' (len / 4) 0 0 out fun n hn => by
    rw [Nat.zero_add]
    exact h n (by omega)
  simp only [base64StringToOctetString, hblocks]

end CameraDaemon
