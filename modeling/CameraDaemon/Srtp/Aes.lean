import CameraDaemon.Srtp.AesTables
import CameraDaemon.Srtp.Rdbx

/-!
# The block cipher of libsrtp

`srtp_aes_expand_encryption_key` makes the round keys of a key of 128 or 256 bits in place, and
`srtp_aes_encrypt` runs as many rounds as the structure says.

Decryption needs its round keys in the opposite order and mixed by the inverse matrix.
`srtp_aes_expand_decryption_key` makes them from those of encryption, but it reads the number of
rounds before the expansion has set it: the result is what decryption needs only if the structure
held that number already.

## Main definitions

* `SrtpAesExpandedKey`, `srtpAesExpandEncryptionKey`, `srtpAesExpandDecryptionKey`.
* `srtpAesEncrypt`, `srtpAesDecrypt`.

## Main results

* `srtpAesEncrypt_expand` — **encryption by tables is the cipher of FIPS 197**, for every key of
  128 or 256 bits and every block.
* `srtpAesDecrypt_encrypt` — **decryption undoes encryption**, if the structure of the decryption
  key already held the number of rounds.
* `srtpAesDecrypt_fresh` — in a structure fresh from the allocator it does not.
-/

namespace CameraDaemon

open Rijndael

/-! ### Round keys -/

/-- `srtp_aes_expanded_key_t`: an array of fifteen round keys and the number of rounds. -/
structure SrtpAesExpandedKey where
  round : ℕ → V128
  numRounds : ℕ

/-- Assign one round key. -/
def SrtpAesExpandedKey.setRound (ek : SrtpAesExpandedKey) (i : ℕ) (k : V128) : SrtpAesExpandedKey :=
  { ek with round := fun j => if j = i then k else ek.round j }

@[simp] theorem setRound_numRounds (ek : SrtpAesExpandedKey) (i : ℕ) (k : V128) :
    (ek.setRound i k).numRounds = ek.numRounds := rfl

theorem setRound_round (ek : SrtpAesExpandedKey) (i : ℕ) (k : V128) (j : ℕ) :
    (ek.setRound i k).round j = if j = i then k else ek.round j := rfl

/-- `gf2_8_shift`. -/
def gf28Shift (z : UInt8) : UInt8 := if z &&& 128 ≠ 0 then z <<< 1 ^^^ 0x1b else z <<< 1

/-- The words of a new round key from its munged first word: each is the exclusive or of the word
before and of the one that stands there in `back`. -/
def chainWords (first : Word) (back : V128) : V128 :=
  let w₀ := leWord first ^^^ v32 back 0
  let w₁ := w₀ ^^^ v32 back 1
  let w₂ := w₁ ^^^ v32 back 2
  let w₃ := w₂ ^^^ v32 back 3
  ofV32 w₀ w₁ w₂ w₃

/-- The first word of most round keys: the last word of the key before, turned by one octet,
substituted, and the round constant. -/
def mungedWord (prev : V128) (rc : UInt8) : Word :=
  #v[lookup aesSbox (v8 prev 13) ^^^ rc, lookup aesSbox (v8 prev 14), lookup aesSbox (v8 prev 15),
    lookup aesSbox (v8 prev 12)]

/-- The loop body of `aes_128_expand_encryption_key`. -/
def aes128ExpandStep (st : SrtpAesExpandedKey × UInt8) (i : ℕ) : SrtpAesExpandedKey × UInt8 :=
  let prev := st.1.round (i - 1)
  (st.1.setRound i (chainWords (mungedWord prev st.2) prev), gf28Shift st.2)

/-- `aes_128_expand_encryption_key`. -/
def aes128ExpandEncryptionKey (key : ℕ → UInt8) (ek : SrtpAesExpandedKey) : SrtpAesExpandedKey :=
  let ek := { ek with numRounds := 10 }
  let ek := ek.setRound 0 (v128CopyOctetString key)
  ((List.range' 1 10).foldl aes128ExpandStep (ek, 1)).1

/-- The loop body of `aes_256_expand_encryption_key`: every other round key starts without a
rotation and leaves the round constant alone. -/
def aes256ExpandStep (st : SrtpAesExpandedKey × UInt8) (i : ℕ) : SrtpAesExpandedKey × UInt8 :=
  let prev := st.1.round (i - 1)
  let back := st.1.round (i - 2)
  if i % 2 = 0 then
    (st.1.setRound i (chainWords (mungedWord prev st.2) back), gf28Shift st.2)
  else
    let first := #v[lookup aesSbox (v8 prev 12), lookup aesSbox (v8 prev 13),
      lookup aesSbox (v8 prev 14), lookup aesSbox (v8 prev 15)]
    (st.1.setRound i (chainWords first back), st.2)

/-- `aes_256_expand_encryption_key`. -/
def aes256ExpandEncryptionKey (key : ℕ → UInt8) (ek : SrtpAesExpandedKey) : SrtpAesExpandedKey :=
  let ek := { ek with numRounds := 14 }
  let ek := ek.setRound 0 (v128CopyOctetString key)
  let ek := ek.setRound 1 (v128CopyOctetString fun j => key (16 + j))
  ((List.range' 2 13).foldl aes256ExpandStep (ek, 1)).1

/-- `srtp_aes_expand_encryption_key`. -/
def srtpAesExpandEncryptionKey (key : ℕ → UInt8) (keyLen : ℕ) (ek : SrtpAesExpandedKey) :
    SrtpErrStatus × SrtpAesExpandedKey :=
  if keyLen = 16 then (.ok, aes128ExpandEncryptionKey key ek)
  else if keyLen = 24 then (.badParam, ek)
  else if keyLen = 32 then (.ok, aes256ExpandEncryptionKey key ek)
  else (.badParam, ek)

/-- One turn of the loop that inverts the order of the round keys. -/
def swapRounds (numRounds : ℕ) (ek : SrtpAesExpandedKey) (i : ℕ) : SrtpAesExpandedKey :=
  let tmp := ek.round (numRounds - i)
  (ek.setRound (numRounds - i) (ek.round i)).setRound i tmp

/-- The columns of a round key mixed by the tables of decryption, whose substitution `aes_sbox`
undoes beforehand. -/
def tableMix (k : V128) : V128 :=
  let u (i : ℕ) (h : i + 3 < 16) : BitVec 32 :=
    lookup tableU0 (lookup aesSbox k[i]) ^^^ lookup tableU1 (lookup aesSbox k[i + 1])
      ^^^ lookup tableU2 (lookup aesSbox k[i + 2]) ^^^ lookup tableU3 (lookup aesSbox k[i + 3])
  ofV32 (u 0 (by decide)) (u 4 (by decide)) (u 8 (by decide)) (u 12 (by decide))

/-- `srtp_aes_expand_decryption_key`.  The number of rounds its two loops go by is read before the
expansion, which sets it. -/
def srtpAesExpandDecryptionKey (key : ℕ → UInt8) (keyLen : ℕ) (ek : SrtpAesExpandedKey) :
    SrtpErrStatus × SrtpAesExpandedKey :=
  let numRounds := ek.numRounds
  match srtpAesExpandEncryptionKey key keyLen ek with
  | (.ok, ek) =>
    let ek := (List.range (numRounds / 2)).foldl (swapRounds numRounds) ek
    let ek := (List.range' 1 (numRounds - 1)).foldl
      (fun ek i => ek.setRound i (tableMix (ek.round i))) ek
    (.ok, ek)
  | (status, ek) => (status, ek)

/-! ### Encryption and decryption -/

/-- `srtp_aes_encrypt`. -/
def srtpAesEncrypt (plaintext : V128) (ek : SrtpAesExpandedKey) : V128 :=
  let s := v128XorEq plaintext (ek.round 0)
  let s := aesRound s (ek.round 1)
  let s := aesRound s (ek.round 2)
  let s := aesRound s (ek.round 3)
  let s := aesRound s (ek.round 4)
  let s := aesRound s (ek.round 5)
  let s := aesRound s (ek.round 6)
  let s := aesRound s (ek.round 7)
  let s := aesRound s (ek.round 8)
  let s := aesRound s (ek.round 9)
  if ek.numRounds = 10 then aesFinalRound s (ek.round 10)
  else if ek.numRounds = 12 then
    let s := aesRound s (ek.round 10)
    let s := aesRound s (ek.round 11)
    aesFinalRound s (ek.round 12)
  else if ek.numRounds = 14 then
    let s := aesRound s (ek.round 10)
    let s := aesRound s (ek.round 11)
    let s := aesRound s (ek.round 12)
    let s := aesRound s (ek.round 13)
    aesFinalRound s (ek.round 14)
  else s

/-- `srtp_aes_decrypt`. -/
def srtpAesDecrypt (plaintext : V128) (ek : SrtpAesExpandedKey) : V128 :=
  let s := v128XorEq plaintext (ek.round 0)
  let s := aesInvRound s (ek.round 1)
  let s := aesInvRound s (ek.round 2)
  let s := aesInvRound s (ek.round 3)
  let s := aesInvRound s (ek.round 4)
  let s := aesInvRound s (ek.round 5)
  let s := aesInvRound s (ek.round 6)
  let s := aesInvRound s (ek.round 7)
  let s := aesInvRound s (ek.round 8)
  let s := aesInvRound s (ek.round 9)
  if ek.numRounds = 10 then aesInvFinalRound s (ek.round 10)
  else if ek.numRounds = 12 then
    let s := aesInvRound s (ek.round 10)
    let s := aesInvRound s (ek.round 11)
    aesInvFinalRound s (ek.round 12)
  else if ek.numRounds = 14 then
    let s := aesInvRound s (ek.round 10)
    let s := aesInvRound s (ek.round 11)
    let s := aesInvRound s (ek.round 12)
    let s := aesInvRound s (ek.round 13)
    aesInvFinalRound s (ek.round 14)
  else s

/-- The rounds that are made are those the structure asks for. -/
theorem srtpAesEncrypt_eq {ek : SrtpAesExpandedKey} {n : ℕ} (h : ek.numRounds = n + 1)
    (hn : n = 9 ∨ n = 11 ∨ n = 13) (p : V128) : srtpAesEncrypt p ek = cipher ek.round n p := by
  obtain rfl | rfl | rfl := hn
  · simp only [srtpAesEncrypt, h, aesRound_eq, aesFinalRound_eq]
    rfl
  · simp only [srtpAesEncrypt, h, aesRound_eq, aesFinalRound_eq]
    rfl
  · simp only [srtpAesEncrypt, h, aesRound_eq, aesFinalRound_eq]
    rfl

theorem srtpAesDecrypt_eq {ek : SrtpAesExpandedKey} {n : ℕ} (h : ek.numRounds = n + 1)
    (hn : n = 9 ∨ n = 11 ∨ n = 13) (p : V128) : srtpAesDecrypt p ek = eqInvCipher ek.round n p := by
  obtain rfl | rfl | rfl := hn
  · simp only [srtpAesDecrypt, h, aesInvRound_eq, aesInvFinalRound_eq]
    rfl
  · simp only [srtpAesDecrypt, h, aesInvRound_eq, aesInvFinalRound_eq]
    rfl
  · simp only [srtpAesDecrypt, h, aesInvRound_eq, aesInvFinalRound_eq]
    rfl

/-- Two blocks never become one, whatever the round keys are. -/
theorem srtpAesEncrypt_injective {ek : SrtpAesExpandedKey} {n : ℕ} (h : ek.numRounds = n + 1)
    (hn : n = 9 ∨ n = 11 ∨ n = 13) : Function.Injective fun p => srtpAesEncrypt p ek := by
  intro p q hpq
  dsimp only at hpq
  rw [srtpAesEncrypt_eq h hn, srtpAesEncrypt_eq h hn] at hpq
  rw [← eqInvCipher_cipher ek.round n p, hpq, eqInvCipher_cipher]

/-! ### The round keys are those of the key expansion -/

/-- Word `i` of a key. -/
def keyWordAt (key : ℕ → UInt8) (i : ℕ) : Word := Vector.ofFn fun r => key (4 * i + r.val)

theorem column_chainWords (first : Word) (back : V128) :
    column (chainWords first back) 0 = xorWord (column back 0) first ∧
    column (chainWords first back) 1 = xorWord (column back 1) (column (chainWords first back) 0) ∧
    column (chainWords first back) 2 = xorWord (column back 2) (column (chainWords first back) 1) ∧
    column (chainWords first back) 3 = xorWord (column back 3) (column (chainWords first back) 2) := by
  simp only [chainWords, column_ofV32]
  refine ⟨?_, ?_, ?_, ?_⟩
  · exact (octets_xor _ _).trans (by rw [octets_leWord, octets_v32, xorWord_comm]; rfl)
  · exact (octets_xor _ _).trans (by rw [octets_v32, xorWord_comm]; rfl)
  · exact (octets_xor _ _).trans (by rw [octets_v32, xorWord_comm]; rfl)
  · exact (octets_xor _ _).trans (by rw [octets_v32, xorWord_comm]; rfl)

theorem mungedWord_eq (prev : V128) (rc : UInt8) :
    mungedWord prev rc = xorWord (subWord (rotWord (column prev 3))) #v[rc, 0, 0, 0] := by
  apply Vector.ext
  intro r hr
  simp only [mungedWord, lookup_aesSbox, xorWord, subWord, Vector.getElem_zipWith,
    Vector.getElem_map, rotWord, column, Vector.getElem_ofFn]
  interval_cases r <;> simp <;> rfl

/-- The next round key, if the keys it is made of are right. -/
theorem chainWords_eq_roundKey {nk : ℕ} {w : ℕ → Word} {first : Word} {back : V128} {i b : ℕ}
    (hnk : nk = 4 ∨ nk = 8) (hb : 4 * i = 4 * b + nk) (hback : back = roundKey nk w b)
    (hfirst : keyWord nk w (4 * i) = xorWord (keyWord nk w (4 * i - nk)) first) :
    chainWords first back = roundKey nk w i := by
  obtain ⟨h₀, h₁, h₂, h₃⟩ := column_chainWords first back
  have hplain : ∀ c : ℕ, 1 ≤ c → c < 4 → keyWord nk w (4 * i + c) =
      xorWord (keyWord nk w (4 * b + c)) (keyWord nk w (4 * i + (c - 1))) := by
    intro c hc hc'
    obtain rfl | rfl := hnk
    · rw [keyWord_plain w (by omega) (by omega) (by omega) (by omega)]
      congr 2 <;> omega
    · rw [keyWord_plain w (by omega) (by omega) (by omega) (by omega)]
      congr 2 <;> omega
  have hcol : ∀ c : Fin 4, column back c = keyWord nk w (4 * b + c.val) := by
    intro c
    rw [hback, column_roundKey]
  have e₀ : column (chainWords first back) 0 = keyWord nk w (4 * i + 0) := by
    rw [h₀, hcol, Nat.add_zero, hfirst]
    congr 2
    omega
  have e₁ : column (chainWords first back) 1 = keyWord nk w (4 * i + 1) := by
    rw [h₁, hcol, e₀, hplain 1 (by omega) (by omega)]
    rfl
  have e₂ : column (chainWords first back) 2 = keyWord nk w (4 * i + 2) := by
    rw [h₂, hcol, e₁, hplain 2 (by omega) (by omega)]
    rfl
  have e₃ : column (chainWords first back) 3 = keyWord nk w (4 * i + 3) := by
    rw [h₃, hcol, e₂, hplain 3 (by omega) (by omega)]
    rfl
  apply ext_columns
  all_goals rw [column_roundKey]
  · exact e₀
  · exact e₁
  · exact e₂
  · exact e₃

theorem gf28Shift_ofNat : ∀ x < 256, gf28Shift (UInt8.ofNat x) = UInt8.ofNat (xtime x) := by
  decide +kernel

theorem gf28Shift_rcon (n : ℕ) :
    gf28Shift (UInt8.ofNat (xtime^[n] 1)) = UInt8.ofNat (xtime^[n + 1] 1) := by
  rw [gf28Shift_ofNat _ (xtime_iterate_lt n), Function.iterate_succ_apply']

theorem roundKey_key {nk : ℕ} (key : ℕ → UInt8) {r : ℕ} (h : 4 * r + 4 ≤ nk) :
    v128CopyOctetString (fun j => key (16 * r + j)) = roundKey nk (keyWordAt key) r := by
  apply ext_column
  intro c
  rw [column_roundKey, keyWord_key (by omega)]
  apply Vector.ext
  intro j hj
  simp only [column, v128CopyOctetString, keyWordAt, Vector.getElem_ofFn]
  congr 1
  omega

/-- The first word of the next round key, with the rotation and the round constant. -/
theorem keyWord_munged {nk : ℕ} {w : ℕ → Word} {i : ℕ} {prev : V128} (hnk : 0 < nk) (hi : nk ≤ 4 * i)
    (hmod : 4 * i % nk = 0) (hprev : prev = roundKey nk w (i - 1)) :
    keyWord nk w (4 * i) = xorWord (keyWord nk w (4 * i - nk))
      (mungedWord prev (UInt8.ofNat (xtime^[4 * i / nk - 1] 1))) := by
  have hlast : column prev 3 = keyWord nk w (4 * i - 1) := by
    rw [hprev, column_roundKey]
    congr 1
    show 4 * (i - 1) + 3 = 4 * i - 1
    omega
  rw [keyWord_turn w hnk hi hmod, mungedWord_eq, hlast]
  rfl

/-- What the loop for 128 bits has made after `n` turns. -/
theorem aes128Expand_loop (key : ℕ → UInt8) {ek : SrtpAesExpandedKey}
    (h₀ : ek.round 0 = roundKey 4 (keyWordAt key) 0) (n : ℕ) :
    let st := (List.range' 1 n).foldl aes128ExpandStep (ek, 1)
    (∀ j ≤ n, st.1.round j = roundKey 4 (keyWordAt key) j) ∧
      st.1.numRounds = ek.numRounds ∧ st.2 = UInt8.ofNat (xtime^[n] 1) := by
  induction n with
  | zero =>
    refine ⟨fun j hj => ?_, rfl, rfl⟩
    obtain rfl : j = 0 := by omega
    exact h₀
  | succ n ih =>
    obtain ⟨hkeys, hnum, hrc⟩ := ih
    rw [List.range'_1_concat, List.foldl_append, List.foldl_cons, List.foldl_nil]
    refine ⟨fun j hj => ?_, hnum, ?_⟩
    · rw [aes128ExpandStep, setRound_round]
      split
      · next h =>
        have hprev := hkeys n le_rfl
        rw [h, Nat.add_sub_cancel_left, hrc]
        refine chainWords_eq_roundKey (.inl rfl) (by omega) hprev ?_
        have hmunged := @keyWord_munged 4 (keyWordAt key) (1 + n) _ (by omega) (by omega)
          (by omega) (hprev.trans (by rw [Nat.add_sub_cancel_left]))
        rw [hmunged, show 4 * (1 + n) / 4 - 1 = n by omega]
      · next h => exact hkeys j (by omega)
    · rw [aes128ExpandStep, hrc, gf28Shift_rcon]

/-- The first word of the round keys with odd numbers, which has no rotation. -/
theorem keyWord_odd {w : ℕ → Word} {i : ℕ} {prev : V128} (hi : 8 ≤ 4 * i) (hodd : i % 2 ≠ 0)
    (hprev : prev = roundKey 8 w (i - 1)) :
    keyWord 8 w (4 * i) = xorWord (keyWord 8 w (4 * i - 8))
      #v[lookup aesSbox (v8 prev 12), lookup aesSbox (v8 prev 13), lookup aesSbox (v8 prev 14),
        lookup aesSbox (v8 prev 15)] := by
  have hlast : column prev 3 = keyWord 8 w (4 * i - 1) := by
    rw [hprev, column_roundKey]
    congr 1
    show 4 * (i - 1) + 3 = 4 * i - 1
    omega
  rw [keyWord_middle w (by omega) (by omega) (by omega), ← hlast]
  congr 1
  apply Vector.ext
  intro r hr
  simp only [lookup_aesSbox, subWord, Vector.getElem_map, column, Vector.getElem_ofFn]
  interval_cases r <;> rfl

/-- What the loop for 256 bits has made after `n` turns. -/
theorem aes256Expand_loop (key : ℕ → UInt8) {ek : SrtpAesExpandedKey}
    (h₀ : ∀ j < 2, ek.round j = roundKey 8 (keyWordAt key) j) (n : ℕ) :
    let st := (List.range' 2 n).foldl aes256ExpandStep (ek, 1)
    (∀ j < n + 2, st.1.round j = roundKey 8 (keyWordAt key) j) ∧
      st.1.numRounds = ek.numRounds ∧ st.2 = UInt8.ofNat (xtime^[(n + 1) / 2] 1) := by
  induction n with
  | zero => exact ⟨h₀, rfl, rfl⟩
  | succ n ih =>
    obtain ⟨hkeys, hnum, hrc⟩ := ih
    have hprev := hkeys (n + 1) (by omega)
    have hback := hkeys n (by omega)
    rw [show n + 1 = n.succ from rfl, List.range'_concat, List.foldl_append, List.foldl_cons,
      List.foldl_nil, Nat.one_mul]
    simp only [aes256ExpandStep, show 2 + n - 1 = n + 1 by omega, show 2 + n - 2 = n by omega]
    split
    · next heven =>
      refine ⟨fun j hj => ?_, hnum, ?_⟩
      · rw [setRound_round]
        split
        · next h =>
          rw [h, hrc]
          refine chainWords_eq_roundKey (.inr rfl) (by omega) hback ?_
          have hmunged := @keyWord_munged 8 (keyWordAt key) (2 + n) _ (by omega) (by omega)
            (by omega) (hprev.trans (by rw [show 2 + n - 1 = n + 1 by omega]))
          rw [hmunged, show 4 * (2 + n) / 8 - 1 = (n + 1) / 2 by omega]
        · next h => exact hkeys j (by omega)
      · rw [hrc, gf28Shift_rcon, show (n + 1) / 2 + 1 = (n.succ + 1) / 2 by omega]
    · next hodd =>
      refine ⟨fun j hj => ?_, hnum, ?_⟩
      · rw [setRound_round]
        split
        · next h =>
          rw [h]
          refine chainWords_eq_roundKey (.inr rfl) (by omega) hback ?_
          exact keyWord_odd (by omega) hodd (hprev.trans (by rw [show 2 + n - 1 = n + 1 by omega]))
        · next h => exact hkeys j (by omega)
      · rw [hrc, show (n + 1) / 2 = (n.succ + 1) / 2 by omega]

/-- What an expansion makes of a key of 128 or 256 bits: the schedule of the standard. -/
theorem srtpAesExpandEncryptionKey_spec (key : ℕ → UInt8) {keyLen : ℕ}
    (hlen : keyLen = 16 ∨ keyLen = 32) (ek : SrtpAesExpandedKey) :
    (srtpAesExpandEncryptionKey key keyLen ek).1 = .ok ∧
      (srtpAesExpandEncryptionKey key keyLen ek).2.numRounds = keyLen / 4 + 6 ∧
      ∀ j ≤ keyLen / 4 + 6, (srtpAesExpandEncryptionKey key keyLen ek).2.round j =
        roundKey (keyLen / 4) (keyWordAt key) j := by
  obtain rfl | rfl := hlen
  · have hstart := @roundKey_key 4 key 0 (by omega)
    simp only [Nat.mul_zero, Nat.zero_add] at hstart
    obtain ⟨hkeys, hnum, -⟩ := aes128Expand_loop key
      (show (SrtpAesExpandedKey.setRound { ek with numRounds := 10 } 0
        (v128CopyOctetString key)).round 0 = _ from hstart) 10
    exact ⟨rfl, hnum, hkeys⟩
  · have hfirst := @roundKey_key 8 key 0 (by omega)
    have hsecond := @roundKey_key 8 key 1 (by omega)
    simp only [Nat.mul_zero, Nat.zero_add] at hfirst
    have hstart : ∀ j < 2, ((SrtpAesExpandedKey.setRound { ek with numRounds := 14 } 0
        (v128CopyOctetString key)).setRound 1 (v128CopyOctetString fun j => key (16 + j))).round j =
          roundKey 8 (keyWordAt key) j := by
      intro j hj
      interval_cases j
      · exact hfirst
      · exact hsecond
    obtain ⟨hkeys, hnum, -⟩ := aes256Expand_loop key hstart 13
    exact ⟨rfl, hnum, fun j hj => hkeys j (by omega)⟩

/-- **Encryption by tables is the cipher of FIPS 197**: whatever the structure held before, after
the expansion of a key of 128 or 256 bits every block becomes what the standard makes of it. -/
theorem srtpAesEncrypt_expand (key : ℕ → UInt8) {keyLen : ℕ} (hlen : keyLen = 16 ∨ keyLen = 32)
    (ek : SrtpAesExpandedKey) (p : V128) :
    (srtpAesExpandEncryptionKey key keyLen ek).1 = .ok ∧
      srtpAesEncrypt p (srtpAesExpandEncryptionKey key keyLen ek).2 =
        cipher (roundKey (keyLen / 4) (keyWordAt key)) (keyLen / 4 + 5) p := by
  obtain ⟨hok, hnum, hkeys⟩ := srtpAesExpandEncryptionKey_spec key hlen ek
  refine ⟨hok, ?_⟩
  rw [srtpAesEncrypt_eq hnum (by omega), cipher_congr hkeys]

/-- A structure as the allocator hands it out. -/
def zeroExpandedKey : SrtpAesExpandedKey :=
  { round := fun _ => Vector.replicate 16 0, numRounds := 0 }

theorem srtpAesEncrypt_expand_counting :
    srtpAesEncrypt (Vector.replicate 16 0)
        (srtpAesExpandEncryptionKey UInt8.ofNat 32 zeroExpandedKey).2 =
      cipher (roundKey 8 (keyWordAt UInt8.ofNat)) 13 (Vector.replicate 16 0) :=
  (srtpAesEncrypt_expand UInt8.ofNat (.inr rfl) zeroExpandedKey (Vector.replicate 16 0)).2

-- the example in appendix C.1 of the standard
example : srtpAesEncrypt
    #v[0x00, 0x11, 0x22, 0x33, 0x44, 0x55, 0x66, 0x77, 0x88, 0x99, 0xaa, 0xbb, 0xcc, 0xdd, 0xee, 0xff]
    (srtpAesExpandEncryptionKey UInt8.ofNat 16 zeroExpandedKey).2 =
    #v[0x69, 0xc4, 0xe0, 0xd8, 0x6a, 0x7b, 0x04, 0x30, 0xd8, 0xcd, 0xb7, 0x80, 0x70, 0xb4, 0xc5,
      0x5a] := by
  decide +kernel

/-! ### The round keys of decryption -/

/-- The loop that inverts the order, after `n` turns. -/
theorem swapRounds_loop (N : ℕ) (ek : SrtpAesExpandedKey) {n : ℕ} (hn : 2 * n ≤ N) :
    ((List.range n).foldl (swapRounds N) ek).numRounds = ek.numRounds ∧
      ∀ j ≤ N, ((List.range n).foldl (swapRounds N) ek).round j =
        if j < n ∨ N - j < n then ek.round (N - j) else ek.round j := by
  induction n with
  | zero => simp
  | succ n ih =>
    obtain ⟨hnum, hkeys⟩ := ih (by omega)
    rw [List.range_succ, List.foldl_append, List.foldl_cons, List.foldl_nil]
    refine ⟨hnum, fun j hj => ?_⟩
    rw [swapRounds, setRound_round, setRound_round, hkeys (N - n) (by omega), hkeys n (by omega),
      hkeys j hj]
    by_cases hlow : j = n
    · subst hlow
      rw [if_pos rfl, if_neg (by omega), if_pos (by omega)]
    · rw [if_neg hlow]
      by_cases hhigh : j = N - n
      · subst hhigh
        rw [if_pos rfl, if_neg (by omega), if_pos (by omega), Nat.sub_sub_self (by omega)]
      · rw [if_neg hhigh]
        by_cases hdone : j < n ∨ N - j < n
        · rw [if_pos hdone, if_pos (by omega)]
        · rw [if_neg hdone, if_neg (by omega)]

theorem tableMix_eq (k : V128) : tableMix k = invMixColumns k := by
  have hback : ∀ x, invSubByte (lookup aesSbox x) = x := by
    intro x
    rw [lookup_aesSbox, invSubByte_subByte]
  have hcol : ∀ (i : ℕ) (h : i + 3 < 16), octets (lookup tableU0 (lookup aesSbox k[i])
      ^^^ lookup tableU1 (lookup aesSbox k[i + 1]) ^^^ lookup tableU2 (lookup aesSbox k[i + 2])
      ^^^ lookup tableU3 (lookup aesSbox k[i + 3])) =
        mixWord #v[14, 11, 13, 9] #v[k[i], k[i + 1], k[i + 2], k[i + 3]] := by
    intro i h
    rw [octets_tableU, hback, hback, hback, hback]
  have hword : ∀ c : Fin 4, column k c =
      #v[k[4 * c.val], k[4 * c.val + 1], k[4 * c.val + 2], k[4 * c.val + 3]] := by
    intro c
    apply Vector.ext
    intro r hr
    simp only [column, Vector.getElem_ofFn]
    interval_cases r <;> rfl
  apply ext_columns
  all_goals
    simp only [tableMix, column_ofV32, invMixColumns, column_ofColumns]
    rw [hword]
  · exact hcol 0 (by decide)
  · exact hcol 4 (by decide)
  · exact hcol 8 (by decide)
  · exact hcol 12 (by decide)

/-- The loop that mixes the round keys, after `n` turns. -/
theorem tableMix_loop (ek : SrtpAesExpandedKey) (n : ℕ) :
    let st := (List.range' 1 n).foldl (fun ek i => ek.setRound i (tableMix (ek.round i))) ek
    st.numRounds = ek.numRounds ∧ ∀ j, st.round j =
      if 1 ≤ j ∧ j ≤ n then invMixColumns (ek.round j) else ek.round j := by
  induction n with
  | zero => simp; omega
  | succ n ih =>
    obtain ⟨hnum, hkeys⟩ := ih
    rw [List.range'_1_concat, List.foldl_append, List.foldl_cons, List.foldl_nil]
    refine ⟨hnum, fun j => ?_⟩
    rw [setRound_round, hkeys, hkeys]
    by_cases hj : j = 1 + n
    · rw [if_pos hj, if_neg (by omega), if_pos (by omega), tableMix_eq, hj]
    · rw [if_neg hj]
      by_cases hdone : 1 ≤ j ∧ j ≤ n
      · rw [if_pos hdone, if_pos (by omega)]
      · rw [if_neg hdone, if_neg (by omega)]

/-- The keys of decryption, if the structure held the number of rounds before. -/
theorem srtpAesExpandDecryptionKey_spec (key : ℕ → UInt8) {keyLen : ℕ}
    (hlen : keyLen = 16 ∨ keyLen = 32) {ek : SrtpAesExpandedKey}
    (hnum : ek.numRounds = keyLen / 4 + 6) :
    (srtpAesExpandDecryptionKey key keyLen ek).1 = .ok ∧
      (srtpAesExpandDecryptionKey key keyLen ek).2.numRounds = keyLen / 4 + 6 ∧
      ∀ j ≤ keyLen / 4 + 6, (srtpAesExpandDecryptionKey key keyLen ek).2.round j =
        eqInvKey (roundKey (keyLen / 4) (keyWordAt key)) (keyLen / 4 + 5) j := by
  obtain ⟨hok, hrounds, hkeys⟩ := srtpAesExpandEncryptionKey_spec key hlen ek
  obtain ⟨status, ek', hexp⟩ : ∃ status ek', srtpAesExpandEncryptionKey key keyLen ek =
    (status, ek') := ⟨_, _, rfl⟩
  rw [hexp] at hok hrounds hkeys
  dsimp only at hok hrounds hkeys
  subst hok
  obtain ⟨hsnum, hswap⟩ := @swapRounds_loop (keyLen / 4 + 6) ek' ((keyLen / 4 + 6) / 2) (by omega)
  obtain ⟨hmnum, hmix⟩ := tableMix_loop
    ((List.range ((keyLen / 4 + 6) / 2)).foldl (swapRounds (keyLen / 4 + 6)) ek')
    (keyLen / 4 + 6 - 1)
  simp only [srtpAesExpandDecryptionKey, hexp, hnum]
  refine ⟨trivial, by rw [hmnum, hsnum, hrounds], fun j hj => ?_⟩
  -- the key in the middle of the order is its own image
  have horder : ((List.range ((keyLen / 4 + 6) / 2)).foldl (swapRounds (keyLen / 4 + 6)) ek').round j
      = roundKey (keyLen / 4) (keyWordAt key) (keyLen / 4 + 5 + 1 - j) := by
    rw [hswap j hj]
    split
    · rw [hkeys _ (by omega)]
    · rw [hkeys _ hj]
      congr 1
      omega
  rw [hmix, horder, eqInvKey]
  by_cases hend : j = 0 ∨ j = keyLen / 4 + 5 + 1
  · rw [if_pos hend, if_neg (by omega)]
  · rw [if_neg hend, if_pos (by omega)]

/-- **Decryption undoes encryption**, under keys of 128 and 256 bits, if the structure that the
decryption key is expanded into already held the number of rounds. -/
theorem srtpAesDecrypt_encrypt (key : ℕ → UInt8) {keyLen : ℕ} (hlen : keyLen = 16 ∨ keyLen = 32)
    (ek : SrtpAesExpandedKey) {dk : SrtpAesExpandedKey} (hnum : dk.numRounds = keyLen / 4 + 6)
    (p : V128) :
    srtpAesDecrypt (srtpAesEncrypt p (srtpAesExpandEncryptionKey key keyLen ek).2)
      (srtpAesExpandDecryptionKey key keyLen dk).2 = p := by
  obtain ⟨-, henc, hkeys⟩ := srtpAesExpandEncryptionKey_spec key hlen ek
  obtain ⟨-, hdec, hkeys'⟩ := srtpAesExpandDecryptionKey_spec key hlen hnum
  rw [srtpAesEncrypt_eq henc (by omega), srtpAesDecrypt_eq hdec (by omega), cipher_congr hkeys,
    eqInvCipher_congr hkeys', eqInvCipher_cipher]

theorem srtpAesDecrypt_encrypt_counting :
    srtpAesDecrypt
      (srtpAesEncrypt (Vector.replicate 16 7)
        (srtpAesExpandEncryptionKey UInt8.ofNat 16 zeroExpandedKey).2)
      (srtpAesExpandDecryptionKey UInt8.ofNat 16 { zeroExpandedKey with numRounds := 10 }).2 =
        Vector.replicate 16 7 :=
  srtpAesDecrypt_encrypt UInt8.ofNat (.inl rfl) zeroExpandedKey rfl (Vector.replicate 16 7)

/-- The first expansion of a decryption key in a structure fresh from the allocator leaves the
round keys of encryption in it, and decryption with those gives another block. -/
theorem srtpAesDecrypt_fresh :
    srtpAesDecrypt
      (srtpAesEncrypt (Vector.replicate 16 0)
        (srtpAesExpandEncryptionKey UInt8.ofNat 16 zeroExpandedKey).2)
      (srtpAesExpandDecryptionKey UInt8.ofNat 16 zeroExpandedKey).2 ≠ Vector.replicate 16 0 := by
  decide +kernel

end CameraDaemon
