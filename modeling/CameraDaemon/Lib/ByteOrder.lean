import Mathlib.Data.Nat.Basic

/-!
# Byte order of fixed-width integers

The conversions between host and network order on a little-endian host, where each of them swaps
the bytes of its argument.  They are stated on `UInt16` and `UInt32`, so a field of a packet header
is a value of its own width and no range hypothesis is carried along.

* `htons`, `ntohs`, `htonl`, `ntohl` — the conversions.
* `toNat_swap16`, `toNat_swap32` — the value of the swapped bytes.
* `ntohs_htons`, `ntohl_htonl` — reading back what was written.
* `toNat_ntohl_htons` — reading back, in 32 bits, what was written in 16.
-/

namespace ByteOrder

/-- Swap the two bytes of a 16-bit value. -/
def swap16 (x : UInt16) : UInt16 :=
  UInt16.ofBitVec (x.toBitVec.extractLsb' 0 8 ++ x.toBitVec.extractLsb' 8 8)

/-- Reverse the four bytes of a 32-bit value. -/
def swap32 (x : UInt32) : UInt32 :=
  UInt32.ofBitVec (x.toBitVec.extractLsb' 0 8 ++ x.toBitVec.extractLsb' 8 8
    ++ x.toBitVec.extractLsb' 16 8 ++ x.toBitVec.extractLsb' 24 8)

/-- Host to network order, 16 bits. -/
def htons (x : UInt16) : UInt16 := swap16 x

/-- Network to host order, 16 bits. -/
def ntohs (x : UInt16) : UInt16 := swap16 x

/-- Host to network order, 32 bits. -/
def htonl (x : UInt32) : UInt32 := swap32 x

/-- Network to host order, 32 bits. -/
def ntohl (x : UInt32) : UInt32 := swap32 x

/-! ### Values -/

/-- The value of a swapped pair of bytes. -/
theorem toNat_swap16 {x : UInt16} {a b : ℕ} (ha : a < 256) (hb : b < 256)
    (hx : x.toNat = b * 256 + a) : (swap16 x).toNat = a * 256 + b := by
  have h₀ : (b * 256 + a) % 256 = a := by omega
  have h₁ : (b * 256 + a) / 256 % 256 = b := by omega
  simp only [swap16, UInt16.toNat_ofBitVec, BitVec.toNat_append, BitVec.extractLsb'_toNat,
    UInt16.toNat_toBitVec, Nat.reducePow, Nat.shiftRight_eq_div_pow, hx, Nat.div_one, h₀, h₁]
  rw [← Nat.shiftLeft_add_eq_or_of_lt (by omega), Nat.shiftLeft_eq]

/-- The value of four bytes in the other order. -/
theorem toNat_swap32 {x : UInt32} {a b c d : ℕ} (ha : a < 256) (hb : b < 256) (hc : c < 256)
    (hd : d < 256) (hx : x.toNat = ((d * 256 + c) * 256 + b) * 256 + a) :
    (swap32 x).toNat = ((a * 256 + b) * 256 + c) * 256 + d := by
  have h₀ : (((d * 256 + c) * 256 + b) * 256 + a) % 256 = a := by omega
  have h₁ : (((d * 256 + c) * 256 + b) * 256 + a) / 256 % 256 = b := by omega
  have h₂ : (((d * 256 + c) * 256 + b) * 256 + a) / 65536 % 256 = c := by omega
  have h₃ : (((d * 256 + c) * 256 + b) * 256 + a) / 16777216 % 256 = d := by omega
  simp only [swap32, UInt32.toNat_ofBitVec, BitVec.toNat_append, BitVec.extractLsb'_toNat,
    UInt32.toNat_toBitVec, Nat.reducePow, Nat.shiftRight_eq_div_pow, hx, Nat.div_one, h₀, h₁, h₂, h₃]
  rw [← Nat.shiftLeft_add_eq_or_of_lt (by omega), ← Nat.shiftLeft_add_eq_or_of_lt (by omega),
    ← Nat.shiftLeft_add_eq_or_of_lt (by omega)]
  simp only [Nat.shiftLeft_eq]

/-- The bytes of a 16-bit value. -/
theorem exists_bytes16 (x : UInt16) : ∃ a < 256, ∃ b < 256, x.toNat = b * 256 + a := by
  have hx := x.toNat_lt
  exact ⟨x.toNat % 256, by omega, x.toNat / 256, by omega, by omega⟩

/-- The bytes of a 32-bit value. -/
theorem exists_bytes32 (x : UInt32) :
    ∃ a < 256, ∃ b < 256, ∃ c < 256, ∃ d < 256,
      x.toNat = ((d * 256 + c) * 256 + b) * 256 + a := by
  have hx := x.toNat_lt
  exact ⟨x.toNat % 256, by omega, x.toNat / 256 % 256, by omega, x.toNat / 256 / 256 % 256,
    by omega, x.toNat / 256 / 256 / 256, by omega, by omega⟩

theorem swap16_swap16 (x : UInt16) : swap16 (swap16 x) = x := by
  obtain ⟨a, ha, b, hb, hx⟩ := exists_bytes16 x
  apply UInt16.toNat_inj.mp
  rw [toNat_swap16 hb ha (toNat_swap16 ha hb hx), hx]

theorem swap32_swap32 (x : UInt32) : swap32 (swap32 x) = x := by
  obtain ⟨a, ha, b, hb, c, hc, d, hd, hx⟩ := exists_bytes32 x
  apply UInt32.toNat_inj.mp
  rw [toNat_swap32 hd hc hb ha (toNat_swap32 ha hb hc hd hx), hx]

@[simp] theorem ntohs_htons (x : UInt16) : ntohs (htons x) = x := swap16_swap16 x

@[simp] theorem ntohl_htonl (x : UInt32) : ntohl (htonl x) = x := swap32_swap32 x

/-- A pair of bytes in network order, put into a field of four bytes, is read from its upper half. -/
theorem toNat_ntohl_htons (x : UInt16) : (ntohl (htons x).toUInt32).toNat = x.toNat * 65536 := by
  obtain ⟨a, ha, b, hb, hx⟩ := exists_bytes16 x
  have hfield : (htons x).toUInt32.toNat = ((0 * 256 + 0) * 256 + a) * 256 + b := by
    rw [UInt16.toNat_toUInt32, htons, toNat_swap16 ha hb hx]
    omega
  rw [ntohl, toNat_swap32 hb ha (by omega) (by omega) hfield, hx]
  omega

end ByteOrder
