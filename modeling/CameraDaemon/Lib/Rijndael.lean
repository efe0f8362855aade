import Mathlib.Logic.Function.Basic
import Mathlib.Logic.Function.Iterate
import Mathlib.Tactic.IntervalCases

/-!
# The block cipher of FIPS 197

The Advanced Encryption Standard as the standard writes it: bytes are elements of GF(2^8), the
state is a four by four square of bytes kept column by column, and a round substitutes the bytes,
shifts the rows, mixes the columns and adds a round key.  Nothing here is a table; this is what an
implementation by tables is compared with.

Every layer has a left inverse, so a cipher made of such rounds is injective under every sequence
of round keys, those of the key expansion among them.

## Main definitions

* `xtime`, `gmul`, `ginv` — arithmetic in GF(2^8) modulo x^8 + x^4 + x^3 + x + 1.
* `subByte`, `subBytes`, `shiftRows`, `mixColumns`, `addRoundKey` — the layers of a round, each
  with its inverse.
* `keyWord`, `roundKey` — the key expansion for a key of `nk` words.
* `cipher` — the cipher; `eqInvCipher`, `eqInvKey` — its inverse and the keys that it needs.

## Main results

* `gmul_xor` — multiplication by a constant is linear.
* `invMixColumns_mixColumns`, `invSubBytes_subBytes`, `invShiftRows_shiftRows`.
* `eqInvCipher_cipher` — **the inverse cipher undoes the cipher, whatever the round keys are.**
-/

namespace Rijndael

/-- A statement about bytes is checked on the 256 of them. -/
theorem forall_byte {P : UInt8 → Prop} (h : ∀ n < 256, P (UInt8.ofNat n)) (x : UInt8) : P x := by
  have hx := h x.toNat x.toNat_lt
  rwa [UInt8.ofNat_toNat] at hx

/-! ### The field

The arithmetic is written on numbers below 256, the coefficients of a polynomial as bits. -/

/-- Multiplication by x: a coefficient of x^8 is taken away with the field polynomial. -/
def xtime (x : ℕ) : ℕ := 2 * x ^^^ x / 128 * 0x11b

/-- The sum of the multiples of `x` by the powers of x whose coefficient in `c` is set, for the
lowest `n` coefficients. -/
def gmulBits : ℕ → ℕ → ℕ → ℕ
  | 0, _, _ => 0
  | n + 1, c, x => c % 2 * x ^^^ gmulBits n (c / 2) (xtime x)

/-- The product in GF(2^8). -/
def gmul (c x : UInt8) : UInt8 := UInt8.ofNat (gmulBits 8 c.toNat x.toNat)

/-- The product of the squares of squares of `x`, `n` of them. -/
def squares : ℕ → UInt8 → UInt8
  | 0, _ => 1
  | n + 1, x => gmul (gmul x x) (squares n (gmul x x))

/-- The inverse in GF(2^8), and 0 for 0: the power 254 = 2 + 4 + 8 + 16 + 32 + 64 + 128. -/
def ginv (x : UInt8) : UInt8 := squares 7 x

theorem xtime_lt : ∀ x < 256, xtime x < 256 := by decide +kernel

theorem xtime_iterate_lt (n : ℕ) : xtime^[n] 1 < 256 := by
  induction n with
  | zero => decide
  | succ n ih =>
    rw [Function.iterate_succ_apply']
    exact xtime_lt _ ih

theorem xtime_xor {x y : ℕ} (hx : x < 256) (hy : y < 256) :
    xtime (x ^^^ y) = xtime x ^^^ xtime y := by
  have hdouble : 2 * (x ^^^ y) = 2 * x ^^^ 2 * y := by
    have h := @Nat.shiftLeft_xor_distrib 1 x y
    rwa [Nat.shiftLeft_eq, Nat.shiftLeft_eq, Nat.shiftLeft_eq, Nat.pow_one, Nat.mul_comm,
      Nat.mul_comm x, Nat.mul_comm y] at h
  have htop : (x ^^^ y) / 128 = x / 128 ^^^ y / 128 := @Nat.xor_div_two_pow x y 7
  have hx' : x / 128 < 2 := by omega
  have hy' : y / 128 < 2 := by omega
  -- the two reductions cancel when both coefficients of x^8 are set
  have hreduce : ∀ a < 2, ∀ b < 2, (a ^^^ b) * 0x11b = a * 0x11b ^^^ b * 0x11b := by decide
  simp only [xtime, hdouble, htop, hreduce _ hx' _ hy']
  ac_rfl

theorem gmulBits_xor {n c x y : ℕ} (hx : x < 256) (hy : y < 256) :
    gmulBits n c (x ^^^ y) = gmulBits n c x ^^^ gmulBits n c y := by
  induction n generalizing c x y with
  | zero => simp [gmulBits]
  | succ n ih =>
    have hterm : c % 2 * (x ^^^ y) = c % 2 * x ^^^ c % 2 * y := by
      obtain h | h := Nat.mod_two_eq_zero_or_one c <;> simp [h]
    simp only [gmulBits, xtime_xor hx hy, ih (xtime_lt x hx) (xtime_lt y hy), hterm]
    ac_rfl

/-- Multiplication by a constant is linear. -/
theorem gmul_xor (c x y : UInt8) : gmul c (x ^^^ y) = gmul c x ^^^ gmul c y := by
  rw [gmul, UInt8.toNat_xor, gmulBits_xor x.toNat_lt y.toNat_lt, UInt8.ofNat_xor]
  rfl

/-! ### Bytes -/

/-- The bits of `b` turned left by `n` places. -/
def rotl (b : UInt8) (n : UInt8) : UInt8 := b <<< n ||| b >>> (8 - n)

/-- The S-box: the inverse in the field, then an affine map over the bits. -/
def subByte (x : UInt8) : UInt8 :=
  let b := ginv x
  b ^^^ rotl b 1 ^^^ rotl b 2 ^^^ rotl b 3 ^^^ rotl b 4 ^^^ 0x63

/-- The inverse S-box. -/
def invSubByte (y : UInt8) : UInt8 :=
  ginv (rotl y 1 ^^^ rotl y 3 ^^^ rotl y 6 ^^^ 0x05)

theorem invSubByte_subByte : ∀ x, invSubByte (subByte x) = x :=
  forall_byte (by decide +kernel)

/-! ### Words and states -/

/-- Four bytes, a column of the state. -/
abbrev Word := Vector UInt8 4

/-- The square of bytes: row `r` of column `c` is byte `4 * c + r`. -/
abbrev State := Vector UInt8 16

def column (s : State) (c : Fin 4) : Word := Vector.ofFn fun r => s[4 * c.val + r.val]

def ofColumns (f : Fin 4 → Word) : State :=
  Vector.ofFn fun i => (f ⟨i.val / 4, by omega⟩)[i.val % 4]

@[simp] theorem column_ofColumns (f : Fin 4 → Word) (c : Fin 4) : column (ofColumns f) c = f c := by
  ext r hr
  have hc : (4 * c.val + r) / 4 = c.val := by omega
  have hr' : r % 4 = r := Nat.mod_eq_of_lt hr
  simp [column, ofColumns, hc, hr']

theorem ext_column {s t : State} (h : ∀ c, column s c = column t c) : s = t := by
  apply Vector.ext
  intro i hi
  have hr : i % 4 < 4 := by omega
  have hbyte := congrArg (fun w : Word => w[i % 4]) (h ⟨i / 4, by omega⟩)
  simpa [column, Nat.div_add_mod] using hbyte

theorem ext_columns {s t : State} (h₀ : column s 0 = column t 0) (h₁ : column s 1 = column t 1)
    (h₂ : column s 2 = column t 2) (h₃ : column s 3 = column t 3) : s = t := by
  apply ext_column
  rintro ⟨c, hc⟩
  interval_cases c
  · exact h₀
  · exact h₁
  · exact h₂
  · exact h₃

/-- A state by its sixteen bytes. -/
theorem exists_bytes (s : State) : ∃ a b c d e f g h i j k l m n o p : UInt8,
    s = #v[a, b, c, d, e, f, g, h, i, j, k, l, m, n, o, p] := by
  refine ⟨s[0], s[1], s[2], s[3], s[4], s[5], s[6], s[7], s[8], s[9], s[10], s[11], s[12], s[13],
    s[14], s[15], ?_⟩
  apply Vector.ext
  intro i hi
  interval_cases i <;> rfl

def xorWord (v w : Word) : Word := Vector.zipWith (· ^^^ ·) v w

theorem xorWord_comm (v w : Word) : xorWord v w = xorWord w v := by
  ext r hr
  simp [xorWord, UInt8.xor_comm]

/-! ### The layers -/

def subBytes (s : State) : State := s.map subByte

def invSubBytes (s : State) : State := s.map invSubByte

/-- Row `r` goes `r` places to the left. -/
def shiftRows (s : State) : State :=
  Vector.ofFn fun i => s[(i.val + 4 * (i.val % 4)) % 16]

/-- Row `r` goes `r` places to the right. -/
def invShiftRows (s : State) : State :=
  Vector.ofFn fun i => s[(i.val + 12 * (i.val % 4)) % 16]

/-- A column times a circulant matrix: byte `r` of the result is the sum of the products of the
coefficients with the bytes from `r` on. -/
def mixWord (m : Word) (w : Word) : Word :=
  Vector.ofFn fun r => gmul m[0] w[r.val] ^^^ gmul m[1] w[(r.val + 1) % 4] ^^^
    gmul m[2] w[(r.val + 2) % 4] ^^^ gmul m[3] w[(r.val + 3) % 4]

def mixColumns (s : State) : State := ofColumns fun c => mixWord #v[2, 3, 1, 1] (column s c)

def invMixColumns (s : State) : State := ofColumns fun c => mixWord #v[14, 11, 13, 9] (column s c)

def addRoundKey (s k : State) : State := Vector.zipWith (· ^^^ ·) s k

theorem column_addRoundKey (s k : State) (c : Fin 4) :
    column (addRoundKey s k) c = xorWord (column s c) (column k c) := by
  ext r hr
  simp [column, addRoundKey, xorWord]

/-- The bytes that come together in a column of the next state. -/
theorem column_shiftRows (s : State) (c : Fin 4) : column (shiftRows s) c =
    #v[s[4 * c.val], s[(4 * c.val + 5) % 16], s[(4 * c.val + 10) % 16],
      s[(4 * c.val + 15) % 16]] := by
  apply Vector.ext
  intro r hr
  simp only [column, shiftRows, Vector.getElem_ofFn]
  match c with
  | 0 => interval_cases r <;> rfl
  | 1 => interval_cases r <;> rfl
  | 2 => interval_cases r <;> rfl
  | 3 => interval_cases r <;> rfl

/-- The bytes that come together in a column when the rows go back. -/
theorem column_invShiftRows (s : State) (c : Fin 4) : column (invShiftRows s) c =
    #v[s[4 * c.val], s[(4 * c.val + 13) % 16], s[(4 * c.val + 10) % 16],
      s[(4 * c.val + 7) % 16]] := by
  apply Vector.ext
  intro r hr
  simp only [column, invShiftRows, Vector.getElem_ofFn]
  match c with
  | 0 => interval_cases r <;> rfl
  | 1 => interval_cases r <;> rfl
  | 2 => interval_cases r <;> rfl
  | 3 => interval_cases r <;> rfl

theorem invSubBytes_subBytes (s : State) : invSubBytes (subBytes s) = s := by
  ext i hi
  simp [invSubBytes, subBytes, invSubByte_subByte]

theorem invShiftRows_shiftRows (s : State) : invShiftRows (shiftRows s) = s := by
  ext i hi
  have hback : ((i + 12 * (i % 4)) % 16 + 4 * ((i + 12 * (i % 4)) % 16 % 4)) % 16 = i := by omega
  simp only [invShiftRows, shiftRows, Vector.getElem_ofFn, hback]

/-- Substituting bytes and shifting rows can be undone in either order. -/
theorem invShiftRows_invSubBytes_shiftRows_subBytes (s : State) :
    invShiftRows (invSubBytes (shiftRows (subBytes s))) = s := by
  have hswap : invSubBytes (shiftRows (subBytes s)) = shiftRows (invSubBytes (subBytes s)) := by
    ext i hi
    simp [invSubBytes, shiftRows]
  rw [hswap, invSubBytes_subBytes, invShiftRows_shiftRows]

@[simp] theorem addRoundKey_addRoundKey (s k : State) : addRoundKey (addRoundKey s k) k = s := by
  ext i hi
  simp only [addRoundKey, Vector.getElem_zipWith]
  rw [UInt8.xor_assoc, UInt8.xor_self, UInt8.xor_zero]

theorem mixWord_xorWord (m v w : Word) :
    mixWord m (xorWord v w) = xorWord (mixWord m v) (mixWord m w) := by
  apply Vector.ext
  intro r hr
  simp only [mixWord, xorWord, Vector.getElem_ofFn, Vector.getElem_zipWith, gmul_xor]
  ac_rfl

/-- Mixing goes through the addition of a round key. -/
theorem invMixColumns_addRoundKey (s k : State) :
    invMixColumns (addRoundKey s k) = addRoundKey (invMixColumns s) (invMixColumns k) := by
  apply ext_column
  intro c
  simp only [invMixColumns, column_addRoundKey, column_ofColumns, mixWord_xorWord]

/-- The product of the two matrices, its first row. -/
theorem mix_products : ∀ x : UInt8,
    (gmul 14 (gmul 2 x) ^^^ gmul 11 x ^^^ gmul 13 x ^^^ gmul 9 (gmul 3 x) = x) ∧
    (gmul 14 (gmul 3 x) ^^^ gmul 11 (gmul 2 x) ^^^ gmul 13 x ^^^ gmul 9 x = 0) ∧
    (gmul 14 x ^^^ gmul 11 (gmul 3 x) ^^^ gmul 13 (gmul 2 x) ^^^ gmul 9 x = 0) ∧
    (gmul 14 x ^^^ gmul 11 x ^^^ gmul 13 (gmul 3 x) ^^^ gmul 9 (gmul 2 x) = 0) :=
  forall_byte (by decide +kernel)

theorem gmul_one : ∀ x, gmul 1 x = x := forall_byte (by decide +kernel)

theorem mix_row (a b c d : UInt8) :
    gmul 14 (gmul 2 a ^^^ gmul 3 b ^^^ gmul 1 c ^^^ gmul 1 d) ^^^
      gmul 11 (gmul 2 b ^^^ gmul 3 c ^^^ gmul 1 d ^^^ gmul 1 a) ^^^
      gmul 13 (gmul 2 c ^^^ gmul 3 d ^^^ gmul 1 a ^^^ gmul 1 b) ^^^
      gmul 9 (gmul 2 d ^^^ gmul 3 a ^^^ gmul 1 b ^^^ gmul 1 c) = a := by
  obtain ⟨ha, -⟩ := mix_products a
  obtain ⟨-, hb, -⟩ := mix_products b
  obtain ⟨-, -, hc, -⟩ := mix_products c
  obtain ⟨-, -, -, hd⟩ := mix_products d
  have hsum := congrArg₂ (· ^^^ ·) (congrArg₂ (· ^^^ ·) ha hb) (congrArg₂ (· ^^^ ·) hc hd)
  simp only [UInt8.xor_zero] at hsum
  refine Eq.trans ?_ hsum
  simp only [gmul_xor, gmul_one]
  ac_rfl

theorem mixWord_mixWord (w : Word) : mixWord #v[14, 11, 13, 9] (mixWord #v[2, 3, 1, 1] w) = w := by
  apply Vector.ext
  intro r hr
  simp only [mixWord, Vector.getElem_ofFn]
  interval_cases r <;> exact mix_row _ _ _ _

theorem invMixColumns_mixColumns (s : State) : invMixColumns (mixColumns s) = s := by
  apply ext_column
  intro c
  rw [invMixColumns, mixColumns, column_ofColumns, column_ofColumns, mixWord_mixWord]

/-! ### The key expansion -/

def subWord (w : Word) : Word := w.map subByte

def rotWord (w : Word) : Word := #v[w[1], w[2], w[3], w[0]]

/-- The round constant of turn `i`: the power `i - 1` of x. -/
def rcon (i : ℕ) : Word := #v[UInt8.ofNat (xtime^[i - 1] 1), 0, 0, 0]

/-- Word `i` of the schedule of a key of `nk` words. -/
def keyWord (nk : ℕ) (key : ℕ → Word) (i : ℕ) : Word :=
  if _h : i < nk ∨ nk = 0 then key i
  else
    let temp := keyWord nk key (i - 1)
    let temp :=
      if i % nk = 0 then xorWord (subWord (rotWord temp)) (rcon (i / nk))
      else if 6 < nk ∧ i % nk = 4 then subWord temp
      else temp
    xorWord (keyWord nk key (i - nk)) temp

/-- Round key `r`: the words from `4 * r` on. -/
def roundKey (nk : ℕ) (key : ℕ → Word) (r : ℕ) : State :=
  ofColumns fun c => keyWord nk key (4 * r + c.val)

@[simp] theorem column_roundKey (nk : ℕ) (key : ℕ → Word) (r : ℕ) (c : Fin 4) :
    column (roundKey nk key r) c = keyWord nk key (4 * r + c.val) := column_ofColumns _ c

theorem keyWord_key {nk : ℕ} {key : ℕ → Word} {i : ℕ} (h : i < nk) : keyWord nk key i = key i := by
  rw [keyWord, dif_pos (.inl h)]

/-- The first word of a turn. -/
theorem keyWord_turn {nk : ℕ} (key : ℕ → Word) {i : ℕ} (hnk : 0 < nk) (hi : nk ≤ i)
    (h : i % nk = 0) :
    keyWord nk key i = xorWord (keyWord nk key (i - nk))
      (xorWord (subWord (rotWord (keyWord nk key (i - 1)))) (rcon (i / nk))) := by
  rw [keyWord, dif_neg (by omega)]
  simp only [if_pos h]

/-- The word in the middle of a turn of a long key. -/
theorem keyWord_middle {nk : ℕ} (key : ℕ → Word) {i : ℕ} (hnk : 6 < nk) (hi : nk ≤ i)
    (h : i % nk = 4) :
    keyWord nk key i = xorWord (keyWord nk key (i - nk)) (subWord (keyWord nk key (i - 1))) := by
  rw [keyWord, dif_neg (by omega)]
  simp only [if_neg (show i % nk ≠ 0 by omega), if_pos (And.intro hnk h)]

/-- Every other word. -/
theorem keyWord_plain {nk : ℕ} (key : ℕ → Word) {i : ℕ} (hnk : 0 < nk) (hi : nk ≤ i)
    (h : i % nk ≠ 0) (h4 : ¬ (6 < nk ∧ i % nk = 4)) :
    keyWord nk key i = xorWord (keyWord nk key (i - nk)) (keyWord nk key (i - 1)) := by
  rw [keyWord, dif_neg (by omega)]
  simp only [if_neg h, if_neg h4]

/-! ### The cipher -/

/-- One full round. -/
def round (k s : State) : State := addRoundKey (mixColumns (shiftRows (subBytes s))) k

/-- The round without the mixing of the columns. -/
def finalRound (k s : State) : State := addRoundKey (shiftRows (subBytes s)) k

/-- The full rounds with the keys `1` to `n`. -/
def rounds (k : ℕ → State) : ℕ → State → State
  | 0, s => s
  | n + 1, s => round (k (n + 1)) (rounds k n s)

/-- The cipher with `n + 1` rounds. -/
def cipher (k : ℕ → State) (n : ℕ) (s : State) : State :=
  finalRound (k (n + 1)) (rounds k n (addRoundKey s (k 0)))

/-- The rounds of the inverse cipher in its second form, which adds a key after the mixing. -/
def eqInvRounds (k : ℕ → State) : ℕ → State → State
  | 0, s => s
  | n + 1, s =>
    addRoundKey (invMixColumns (invShiftRows (invSubBytes (eqInvRounds k n s)))) (k (n + 1))

/-- The inverse cipher in its second form, with `n + 1` rounds. -/
def eqInvCipher (k : ℕ → State) (n : ℕ) (s : State) : State :=
  addRoundKey (invShiftRows (invSubBytes (eqInvRounds k n (addRoundKey s (k 0))))) (k (n + 1))

/-- The round keys of the inverse cipher in its second form: in the opposite order, and mixed
except for the first and the last. -/
def eqInvKey (k : ℕ → State) (n j : ℕ) : State :=
  if j = 0 ∨ j = n + 1 then k (n + 1 - j) else invMixColumns (k (n + 1 - j))

/-- The inverse rounds take back one round each. -/
theorem eqInvRounds_rounds (k : ℕ → State) (s : State) {n j : ℕ} (hj : j ≤ n) :
    eqInvRounds (eqInvKey k n) j (shiftRows (subBytes (rounds k n s))) =
      shiftRows (subBytes (rounds k (n - j) s)) := by
  induction j with
  | zero => rfl
  | succ j ih =>
    have hlast : n - j = n - (j + 1) + 1 := by omega
    have hkey : eqInvKey k n (j + 1) = invMixColumns (k (n - j)) := by
      rw [eqInvKey, if_neg (by omega), show n + 1 - (j + 1) = n - j by omega]
    rw [eqInvRounds, ih (by omega), invShiftRows_invSubBytes_shiftRows_subBytes, hkey, hlast,
      rounds, round, invMixColumns_addRoundKey, invMixColumns_mixColumns, addRoundKey_addRoundKey]

/-- **The inverse cipher undoes the cipher**, whatever the round keys are. -/
theorem eqInvCipher_cipher (k : ℕ → State) (n : ℕ) (s : State) :
    eqInvCipher (eqInvKey k n) n (cipher k n s) = s := by
  have hfirst : eqInvKey k n 0 = k (n + 1) := by simp [eqInvKey]
  have hlast : eqInvKey k n (n + 1) = k 0 := by simp [eqInvKey]
  rw [cipher, finalRound, eqInvCipher, hfirst, hlast, addRoundKey_addRoundKey,
    eqInvRounds_rounds k _ le_rfl, invShiftRows_invSubBytes_shiftRows_subBytes, Nat.sub_self,
    rounds, addRoundKey_addRoundKey]

/-! ### Only the keys of its rounds matter to a cipher -/

theorem rounds_congr {k k' : ℕ → State} {n : ℕ} (h : ∀ j ≤ n, k j = k' j) (s : State) :
    rounds k n s = rounds k' n s := by
  induction n with
  | zero => rfl
  | succ n ih => rw [rounds, rounds, ih fun j hj => h j (by omega), h (n + 1) le_rfl]

theorem cipher_congr {k k' : ℕ → State} {n : ℕ} (h : ∀ j ≤ n + 1, k j = k' j) (s : State) :
    cipher k n s = cipher k' n s := by
  rw [cipher, cipher, h 0 (by omega), h (n + 1) le_rfl, rounds_congr fun j hj => h j (by omega)]

theorem eqInvRounds_congr {k k' : ℕ → State} {n : ℕ} (h : ∀ j ≤ n, k j = k' j) (s : State) :
    eqInvRounds k n s = eqInvRounds k' n s := by
  induction n with
  | zero => rfl
  | succ n ih => rw [eqInvRounds, eqInvRounds, ih fun j hj => h j (by omega), h (n + 1) le_rfl]

theorem eqInvCipher_congr {k k' : ℕ → State} {n : ℕ} (h : ∀ j ≤ n + 1, k j = k' j) (s : State) :
    eqInvCipher k n s = eqInvCipher k' n s := by
  rw [eqInvCipher, eqInvCipher, h 0 (by omega), h (n + 1) le_rfl,
    eqInvRounds_congr fun j hj => h j (by omega)]

end Rijndael
