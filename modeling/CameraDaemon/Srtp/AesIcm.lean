import CameraDaemon.Lib.Keystream
import CameraDaemon.Srtp.Aes

/-!
# Integer counter mode

The cipher of a stream: the block cipher is run on a counter, and what comes out is mixed into the
data by exclusive or.  A context keeps the block it has made last and how many of its octets are
still unused, so that data can come in pieces of any length: the rest of the buffer first, then
whole blocks, then the beginning of one more block.

Only the last two octets of the counter are clocked.  A call that could carry them over the end is
refused before it has changed anything, so within one packet no counter comes twice.

## Main definitions

* `SrtpAesIcmCtx`, `srtpAesIcmAlloc`, `srtpAesIcmContextInit`, `srtpAesIcmSetIv`,
  `srtpAesIcmAdvance`, `srtpAesIcmEncrypt` — the cipher.
* `counterAt`, `icmStream` — the counter and the keystream in closed form.
* `IcmAt` — a context that stands at a position of its keystream.

## Main results

* `srtpAesIcmEncrypt_spec` — one call from any position: it mixes in the keystream from there, or
  it is refused and changes nothing.
* `icmPieces_eq` — **data encrypted in pieces is the data encrypted at once**, for every way to
  cut it.
* `counterAt_injective` — the counters of one packet are pairwise different.
-/

namespace CameraDaemon

open Rijndael Keystream

/-- The statuses of the cipher.  They stay inside `srtp_protect`, which reports every failure of a
cipher as `srtp_err_status_cipher_fail`. -/
inductive IcmStatus
  | ok
  | badParam
  | terminus
  deriving DecidableEq, Repr

/-- `srtp_aes_icm_ctx_t`. -/
structure SrtpAesIcmCtx where
  counter : V128
  offset : V128
  keystreamBuffer : V128
  expandedKey : SrtpAesExpandedKey
  bytesInBuffer : ℕ
  keySize : ℕ

/-- `SRTP_SALT_LEN`. -/
def srtpSaltLen : ℕ := 14

/-- Memory of `srtp_crypto_alloc`, which is cleared, with the size of the key set. -/
def newIcm (keyLen : ℕ) : SrtpAesIcmCtx :=
  { counter := Vector.replicate 16 0
    offset := Vector.replicate 16 0
    keystreamBuffer := Vector.replicate 16 0
    expandedKey := zeroExpandedKey
    bytesInBuffer := 0
    keySize := keyLen }

/-- `srtp_aes_icm_alloc`, for a key and salt of `keyLen` octets together; `none` for
`srtp_err_status_bad_param`. -/
def srtpAesIcmAlloc (keyLen : ℕ) : Option SrtpAesIcmCtx :=
  if keyLen ≠ 16 + srtpSaltLen ∧ keyLen ≠ 32 + srtpSaltLen then none else some (newIcm keyLen)

/-- The block of the octets at `s` as far as there are `n`, with zeros behind. -/
def paddedBlock (s : ℕ → UInt8) (n : ℕ) : V128 := Vector.ofFn fun i => if i.val < n then s i.val else 0

/-- `srtp_aes_icm_context_init`. -/
def srtpAesIcmContextInit (c : SrtpAesIcmCtx) (key : ℕ → UInt8) : IcmStatus × SrtpAesIcmCtx :=
  if c.keySize = 16 + srtpSaltLen ∨ c.keySize = 32 + srtpSaltLen then
    let baseKeyLen := c.keySize - srtpSaltLen
    let copyLen := min (c.keySize - baseKeyLen) srtpSaltLen
    let salt := paddedBlock (fun i => key (baseKeyLen + i)) copyLen
    match srtpAesExpandEncryptionKey key baseKeyLen c.expandedKey with
    | (.ok, ek) =>
      (.ok, { c with counter := salt, offset := salt, expandedKey := ek, bytesInBuffer := 0 })
    | (_, ek) =>
      let zero := Vector.replicate 16 0
      (.badParam, { c with counter := zero, offset := zero, expandedKey := ek })
  else (.badParam, c)

/-- `srtp_aes_icm_set_iv`. -/
def srtpAesIcmSetIv (c : SrtpAesIcmCtx) (iv : V128) : SrtpAesIcmCtx :=
  { c with counter := v128XorEq c.offset iv, bytesInBuffer := 0 }

/-- The counter clocked forward: its last octet, and the one before on a carry. -/
def clockCounter (counter : V128) : V128 :=
  let counter := setV8 counter 15 (v8 counter 15 + 1)
  if v8 counter 15 = 0 then setV8 counter 14 (v8 counter 14 + 1) else counter

/-- `srtp_aes_icm_advance`. -/
def srtpAesIcmAdvance (c : SrtpAesIcmCtx) : SrtpAesIcmCtx :=
  { c with
    keystreamBuffer := srtpAesEncrypt c.counter c.expandedKey
    bytesInBuffer := 16
    counter := clockCounter c.counter }

/-- `htons(c->counter.v16[7])`. -/
def blockIndex (counter : V128) : ℕ := (v8 counter 14).toNat * 256 + (v8 counter 15).toNat

/-- The loops `*buf++ ^= c->keystream_buffer.v8[i]`, from `i = start` on. -/
def xorBuffer (ks : V128) (start : ℕ) (buf : List UInt8) : List UInt8 :=
  List.zipWith (· ^^^ ·) buf (ks.toList.drop start)

/-- The loop over `k` whole blocks: the context after it and the octets it has written. -/
def icmBlocks : ℕ → SrtpAesIcmCtx → List UInt8 → SrtpAesIcmCtx × List UInt8
  | 0, c, _ => (c, [])
  | k + 1, c, buf =>
    let c := srtpAesIcmAdvance c
    let r := icmBlocks k c (buf.drop 16)
    (r.1, xorBuffer c.keystreamBuffer 0 (buf.take 16) ++ r.2)

/-- `srtp_aes_icm_encrypt`: status, context and the buffer afterwards. -/
def srtpAesIcmEncrypt (c : SrtpAesIcmCtx) (buf : List UInt8) :
    IcmStatus × SrtpAesIcmCtx × List UInt8 :=
  let bytesToEncr := buf.length
  if (bytesToEncr + blockIndex c.counter) % 2 ^ 32 > 0xffff then (.terminus, c, buf)
  else if bytesToEncr ≤ c.bytesInBuffer then
    (.ok, { c with bytesInBuffer := c.bytesInBuffer - bytesToEncr },
      xorBuffer c.keystreamBuffer (16 - c.bytesInBuffer) buf)
  else
    let first := xorBuffer c.keystreamBuffer (16 - c.bytesInBuffer) (buf.take c.bytesInBuffer)
    let buf := buf.drop c.bytesInBuffer
    let bytesToEncr := bytesToEncr - c.bytesInBuffer
    let r := icmBlocks (bytesToEncr / 16) { c with bytesInBuffer := 0 } buf
    let buf := buf.drop (16 * (bytesToEncr / 16))
    if bytesToEncr % 16 ≠ 0 then
      let c := srtpAesIcmAdvance r.1
      (.ok, { c with bytesInBuffer := 16 - bytesToEncr % 16 },
        first ++ r.2 ++ xorBuffer c.keystreamBuffer 0 buf)
    else (.ok, { r.1 with bytesInBuffer := 0 }, first ++ r.2)

/-! ### The counter in closed form -/

/-- The counter after `k` blocks. -/
def counterAt (base : V128) (k : ℕ) : V128 :=
  setV8 (setV8 base 14 (UInt8.ofNat ((blockIndex base + k) / 256))) 15
    (UInt8.ofNat (blockIndex base + k))

theorem blockIndex_lt (counter : V128) : blockIndex counter < 0x10000 := by
  have h₁ := (v8 counter 14).toNat_lt
  have h₂ := (v8 counter 15).toNat_lt
  rw [blockIndex]
  omega

theorem getElem_counterAt (base : V128) (k : ℕ) {i : ℕ} (hi : i < 16) :
    (counterAt base k)[i] = if i = 15 then UInt8.ofNat (blockIndex base + k)
      else if i = 14 then UInt8.ofNat ((blockIndex base + k) / 256) else base[i] := by
  rw [counterAt, getElem_setV8 _ (by decide) hi, getElem_setV8 _ (by decide) hi]
  simp only [eq_comm]

theorem counterAt_zero (base : V128) : counterAt base 0 = base := by
  have h₁ := base[14].toNat_lt
  have h₂ := base[15].toNat_lt
  have hindex : blockIndex base = base[14].toNat * 256 + base[15].toNat := rfl
  apply Vector.ext
  intro i hi
  rw [getElem_counterAt]
  split
  · next h =>
    subst h
    rw [← UInt8.toNat_inj, UInt8.toNat_ofNat', hindex]
    omega
  · split
    · next h =>
      subst h
      rw [← UInt8.toNat_inj, UInt8.toNat_ofNat', hindex]
      omega
    · rfl

theorem blockIndex_counterAt {base : V128} {k : ℕ} (h : blockIndex base + k < 0x10000) :
    blockIndex (counterAt base k) = blockIndex base + k := by
  show ((counterAt base k)[14]).toNat * 256 + ((counterAt base k)[15]).toNat = _
  rw [getElem_counterAt, getElem_counterAt, if_neg (by decide), if_pos rfl, if_pos rfl,
    UInt8.toNat_ofNat', UInt8.toNat_ofNat']
  omega

theorem getElem_clockCounter (x : V128) {i : ℕ} (hi : i < 16) :
    (clockCounter x)[i] = if i = 15 then v8 x 15 + 1
      else if i = 14 ∧ v8 x 15 + 1 = 0 then v8 x 14 + 1 else x[i] := by
  have hlast : v8 (setV8 x 15 (v8 x 15 + 1)) 15 = v8 x 15 + 1 :=
    (getElem_setV8 x (by decide) (by decide) _).trans (if_pos rfl)
  have hbefore : v8 (setV8 x 15 (v8 x 15 + 1)) 14 = v8 x 14 :=
    (getElem_setV8 x (by decide) (by decide) _).trans (if_neg (by decide))
  rw [clockCounter]
  simp only [hlast, hbefore]
  split
  · next hcarry =>
    rw [getElem_setV8 _ (by decide) hi, getElem_setV8 _ (by decide) hi]
    by_cases h15 : i = 15
    · subst h15
      simp
    · by_cases h14 : i = 14
      · subst h14
        simp [hcarry]
      · simp [h14, h15, Ne.symm h14, Ne.symm h15]
  · next hcarry =>
    rw [getElem_setV8 _ (by decide) hi]
    by_cases h15 : i = 15
    · subst h15
      simp
    · simp [hcarry, h15, Ne.symm h15]

theorem clockCounter_counterAt (base : V128) (k : ℕ) :
    clockCounter (counterAt base k) = counterAt base (k + 1) := by
  have hsucc : ∀ n : ℕ, UInt8.ofNat n + 1 = UInt8.ofNat (n + 1) := by
    intro n
    rw [UInt8.ofNat_add]
    rfl
  have hzero : UInt8.ofNat (blockIndex base + k + 1) = 0 ↔ (blockIndex base + k + 1) % 256 = 0 := by
    rw [← UInt8.toNat_inj, UInt8.toNat_ofNat']
    rfl
  have hlast : v8 (counterAt base k) 15 = UInt8.ofNat (blockIndex base + k) :=
    (getElem_counterAt base k (by decide)).trans (if_pos rfl)
  have hbefore : v8 (counterAt base k) 14 = UInt8.ofNat ((blockIndex base + k) / 256) :=
    (getElem_counterAt base k (by decide)).trans ((if_neg (by decide)).trans (if_pos rfl))
  apply Vector.ext
  intro i hi
  simp only [getElem_clockCounter, getElem_counterAt, hlast, hbefore, hsucc, hzero, ← Nat.add_assoc]
  split
  · rfl
  · split
    · next h =>
      rw [if_pos h.1, show (blockIndex base + k + 1) / 256 = (blockIndex base + k) / 256 + 1 by omega]
    · next h =>
      split
      · next h14 =>
        rw [show (blockIndex base + k + 1) / 256 = (blockIndex base + k) / 256 by omega]
      · rfl

/-- The counters of one packet are pairwise different. -/
theorem counterAt_injective {base : V128} {j k : ℕ} (hj : blockIndex base + j < 0x10000)
    (hk : blockIndex base + k < 0x10000) (h : counterAt base j = counterAt base k) : j = k := by
  have hidx := congrArg blockIndex h
  rw [blockIndex_counterAt hj, blockIndex_counterAt hk] at hidx
  omega

/-! ### The keystream -/

/-- Block `k` of the keystream. -/
def icmBlock (ek : SrtpAesExpandedKey) (base : V128) (k : ℕ) : V128 :=
  srtpAesEncrypt (counterAt base k) ek

/-- The keystream that starts at the counter `base`. -/
def icmStream (ek : SrtpAesExpandedKey) (base : V128) : ℕ → UInt8 :=
  ofBlocks (icmBlock ek base)

/-- Block by block, a keystream never repeats itself. -/
theorem icmBlock_injective {ek : SrtpAesExpandedKey} {n : ℕ} (h : ek.numRounds = n + 1)
    (hn : n = 9 ∨ n = 11 ∨ n = 13) {a b : V128} {j k : ℕ} (heq : icmBlock ek a j = icmBlock ek b k) :
    counterAt a j = counterAt b k :=
  srtpAesEncrypt_injective h hn heq

/-- Mix the keystream into data, from a position on. -/
def icmMix (ek : SrtpAesExpandedKey) (base : V128) (pos : ℕ) (buf : List UInt8) : List UInt8 :=
  mixFrom (· ^^^ ·) (icmStream ek base) pos buf

/-- A part of a block mixed in. -/
theorem xorBuffer_icmBlock (ek : SrtpAesExpandedKey) (base : V128) (k : ℕ) {start : ℕ}
    {buf : List UInt8} (h : start + buf.length ≤ 16) :
    xorBuffer (icmBlock ek base k) start buf = icmMix ek base (16 * k + start) buf :=
  zipWith_drop_block _ (icmBlock ek base) k h

theorem icmMix_append (ek : SrtpAesExpandedKey) (base : V128) (pos : ℕ) (s t : List UInt8) :
    icmMix ek base pos (s ++ t) = icmMix ek base pos s ++ icmMix ek base (pos + s.length) t :=
  mixFrom_append _ _ pos s t

@[simp] theorem length_icmMix (ek : SrtpAesExpandedKey) (base : V128) (pos : ℕ)
    (buf : List UInt8) : (icmMix ek base pos buf).length = buf.length := length_mixFrom _ _ _ _

/-- Encryption and decryption are one and the same. -/
theorem icmMix_icmMix (ek : SrtpAesExpandedKey) (base : V128) (pos : ℕ) (buf : List UInt8) :
    icmMix ek base pos (icmMix ek base pos buf) = buf :=
  mixFrom_mixFrom _ (fun a b => by rw [UInt8.xor_assoc, UInt8.xor_self, UInt8.xor_zero]) _ _ _

/-- A part of the keystream undoes it on a part of the text. -/
theorem icmMix_take_icmMix (ek : SrtpAesExpandedKey) (base : V128) (pos n : ℕ) (buf : List UInt8) :
    icmMix ek base pos ((icmMix ek base pos buf).take n) = buf.take n := by
  rw [icmMix, mixFrom_take, ← icmMix, icmMix_icmMix]

/-! ### One call -/

/-- A context that stands at position `pos` of the keystream from `base` on. -/
structure IcmAt (c : SrtpAesIcmCtx) (ek : SrtpAesExpandedKey) (base : V128) (pos : ℕ) : Prop where
  key : c.expandedKey = ek
  counter : c.counter = counterAt base ((pos + 15) / 16)
  fits : blockIndex base + (pos + 15) / 16 < 0x10000
  inBuffer : c.bytesInBuffer = 16 * ((pos + 15) / 16) - pos
  buffer : pos % 16 ≠ 0 → c.keystreamBuffer = icmBlock ek base (pos / 16)

/-- After a vector has been set, the context stands at the start. -/
theorem icmAt_setIv (c : SrtpAesIcmCtx) (iv : V128) :
    IcmAt (srtpAesIcmSetIv c iv) c.expandedKey (v128XorEq c.offset iv) 0 where
  key := rfl
  counter := by rw [Nat.zero_add, Nat.div_eq_of_lt (by decide), counterAt_zero]; rfl
  fits := by simpa using blockIndex_lt _
  inBuffer := rfl
  buffer h := absurd rfl h

/-- The loop over whole blocks, from the start of a block on. -/
theorem icmBlocks_spec {ek : SrtpAesExpandedKey} {base : V128} {c : SrtpAesIcmCtx} {j k : ℕ}
    {buf : List UInt8} (hkey : c.expandedKey = ek) (hctr : c.counter = counterAt base j)
    (hlen : 16 * k ≤ buf.length) :
    (icmBlocks k c buf).2 = icmMix ek base (16 * j) (buf.take (16 * k)) ∧
      (icmBlocks k c buf).1.expandedKey = ek ∧
      (icmBlocks k c buf).1.counter = counterAt base (j + k) := by
  induction k generalizing c j buf with
  | zero => exact ⟨rfl, hkey, hctr⟩
  | succ k ih =>
    have hnext : (srtpAesIcmAdvance c).counter = counterAt base (j + 1) := by
      rw [srtpAesIcmAdvance, hctr, clockCounter_counterAt]
    have hbuf : (srtpAesIcmAdvance c).keystreamBuffer = icmBlock ek base j := by
      rw [srtpAesIcmAdvance, hctr, hkey]
      rfl
    obtain ⟨hout, hkey', hctr'⟩ := @ih (srtpAesIcmAdvance c) (j + 1) (buf.drop 16) hkey hnext
      (by rw [List.length_drop]; omega)
    have hfirst : (buf.take 16).length = 16 := by rw [List.length_take]; omega
    refine ⟨?_, hkey', by rw [icmBlocks, hctr']; congr 1; omega⟩
    rw [icmBlocks, hout, hbuf, xorBuffer_icmBlock _ _ _ (by omega), Nat.mul_add_one 16 k,
      Nat.add_comm (16 * k), List.take_add, icmMix_append, hfirst]
    rfl

/-- What is left in the buffer is the keystream from the position on. -/
theorem IcmAt.xorBuffer {c : SrtpAesIcmCtx} {ek : SrtpAesExpandedKey} {base : V128} {pos : ℕ}
    (h : IcmAt c ek base pos) {buf : List UInt8} (hlen : buf.length ≤ c.bytesInBuffer) :
    xorBuffer c.keystreamBuffer (16 - c.bytesInBuffer) buf = icmMix ek base pos buf := by
  have hin := h.inBuffer
  by_cases hpos : pos % 16 = 0
  · -- an empty buffer leaves nothing to mix
    obtain rfl : buf = [] := List.length_eq_zero_iff.mp (by omega)
    rfl
  · rw [h.buffer hpos, xorBuffer_icmBlock _ _ _ (by omega)]
    congr 1
    omega

theorem icmMix_split (ek : SrtpAesExpandedKey) (base : V128) (pos : ℕ) {buf : List UInt8} {b k : ℕ}
    (h : b + k ≤ buf.length) :
    icmMix ek base pos buf = icmMix ek base pos (buf.take b) ++
      icmMix ek base (pos + b) ((buf.drop b).take k) ++
      icmMix ek base (pos + b + k) ((buf.drop b).drop k) := by
  have hb : (buf.take b).length = b := by rw [List.length_take]; omega
  have hk : ((buf.drop b).take k).length = k := by rw [List.length_take, List.length_drop]; omega
  conv_lhs => rw [← List.take_append_drop b buf, ← List.take_append_drop k (buf.drop b)]
  rw [icmMix_append, icmMix_append, hb, hk, List.append_assoc]

/-- A call that the buffer is enough for. -/
theorem srtpAesIcmEncrypt_small {c : SrtpAesIcmCtx} {ek : SrtpAesExpandedKey} {base : V128}
    {pos : ℕ} (h : IcmAt c ek base pos) {buf : List UInt8} (hlen : buf.length ≤ c.bytesInBuffer) :
    IcmAt { c with bytesInBuffer := c.bytesInBuffer - buf.length } ek base (pos + buf.length) := by
  obtain ⟨hkey, hctr, hfits, hin, hbuf⟩ := h
  have hblocks : (pos + buf.length + 15) / 16 = (pos + 15) / 16 := by omega
  refine ⟨hkey, by rw [hblocks]; exact hctr, by rw [hblocks]; exact hfits, ?_, fun hpos => ?_⟩
  · show c.bytesInBuffer - buf.length = _
    omega
  · rw [show (pos + buf.length) / 16 = pos / 16 by omega]
    exact hbuf (by omega)

/-- The whole of one call, from any position: the keystream from there on is mixed in, or the call
is refused and nothing is changed. -/
theorem srtpAesIcmEncrypt_spec {c : SrtpAesIcmCtx} {ek : SrtpAesExpandedKey} {base : V128}
    {pos : ℕ} (h : IcmAt c ek base pos) {buf : List UInt8} (hlen : buf.length + 0xffff < 2 ^ 32) :
    (buf.length + (blockIndex base + (pos + 15) / 16) ≤ 0xffff →
      (srtpAesIcmEncrypt c buf).1 = .ok ∧
      (srtpAesIcmEncrypt c buf).2.2 = icmMix ek base pos buf ∧
      IcmAt (srtpAesIcmEncrypt c buf).2.1 ek base (pos + buf.length)) ∧
    (0xffff < buf.length + (blockIndex base + (pos + 15) / 16) →
      srtpAesIcmEncrypt c buf = (.terminus, c, buf)) := by
  have hfits := h.fits
  have hin := h.inBuffer
  have hsum : (buf.length + blockIndex c.counter) % 2 ^ 32 =
      buf.length + (blockIndex base + (pos + 15) / 16) := by
    rw [h.counter, blockIndex_counterAt hfits, Nat.mod_eq_of_lt (by omega)]
  refine ⟨fun hroom => ?_, fun hfull => by rw [srtpAesIcmEncrypt, hsum, if_pos hfull]⟩
  rw [srtpAesIcmEncrypt, hsum, if_neg (by omega)]
  split
  · next hsmall => exact ⟨rfl, h.xorBuffer hsmall, srtpAesIcmEncrypt_small h hsmall⟩
  · next hlarge =>
    -- the rest of the buffer, whole blocks, and what remains
    have hfirst := h.xorBuffer
      (show (buf.take c.bytesInBuffer).length ≤ _ by rw [List.length_take]; omega)
    have hstart : pos + c.bytesInBuffer = 16 * ((pos + 15) / 16) := by omega
    have hrest : (buf.drop c.bytesInBuffer).length = buf.length - c.bytesInBuffer :=
      List.length_drop
    obtain ⟨hout, hkey, hctr⟩ := @icmBlocks_spec ek base { c with bytesInBuffer := 0 }
      ((pos + 15) / 16) ((buf.length - c.bytesInBuffer) / 16) (buf.drop c.bytesInBuffer) h.key
      h.counter (by omega)
    have hsplit := @icmMix_split ek base pos buf c.bytesInBuffer
      (16 * ((buf.length - c.bytesInBuffer) / 16)) (by omega)
    dsimp only
    split
    · next htail =>
      have hctr' : (srtpAesIcmAdvance (icmBlocks ((buf.length - c.bytesInBuffer) / 16)
          { c with bytesInBuffer := 0 } (buf.drop c.bytesInBuffer)).1).keystreamBuffer =
            icmBlock ek base ((pos + 15) / 16 + (buf.length - c.bytesInBuffer) / 16) := by
        rw [srtpAesIcmAdvance, hctr, hkey]
        rfl
      refine ⟨rfl, ?_, ?_⟩
      · dsimp only
        rw [hfirst, hout, hctr', xorBuffer_icmBlock _ _ _ (by rw [List.length_drop]; omega), hsplit,
          hstart, Nat.mul_add]
        rfl
      · refine ⟨hkey, ?_, by omega, ?_, fun _ => ?_⟩
        · dsimp only [srtpAesIcmAdvance]
          rw [hctr, clockCounter_counterAt]
          congr 1
          omega
        · dsimp only
          omega
        · dsimp only
          rw [hctr']
          congr 1
          omega
    · next htail =>
      have hnone : (buf.drop c.bytesInBuffer).drop
          (16 * ((buf.length - c.bytesInBuffer) / 16)) = [] :=
        List.drop_eq_nil_of_le (by omega)
      refine ⟨rfl, ?_, ?_⟩
      · dsimp only
        rw [hfirst, hout, hsplit, hstart, hnone]
        exact (List.append_nil _).symm
      · refine ⟨hkey, ?_, by omega, ?_, fun hpos => absurd ?_ hpos⟩
        · dsimp only
          rw [hctr]
          congr 1
          omega
        · dsimp only
          omega
        · omega

/-! ### What a call leaves alone -/

theorem icmBlocks_keeps (k : ℕ) (c : SrtpAesIcmCtx) (buf : List UInt8) :
    (icmBlocks k c buf).1.offset = c.offset ∧
      (icmBlocks k c buf).1.expandedKey = c.expandedKey := by
  induction k generalizing c buf with
  | zero => exact ⟨rfl, rfl⟩
  | succ k ih => exact ih (srtpAesIcmAdvance c) (buf.drop 16)

/-- Encryption changes neither the salt nor the key of a context. -/
theorem srtpAesIcmEncrypt_keeps (c : SrtpAesIcmCtx) (buf : List UInt8) :
    (srtpAesIcmEncrypt c buf).2.1.offset = c.offset ∧
      (srtpAesIcmEncrypt c buf).2.1.expandedKey = c.expandedKey := by
  simp only [srtpAesIcmEncrypt]
  split
  · exact ⟨rfl, rfl⟩
  split
  · exact ⟨rfl, rfl⟩
  split
  · exact icmBlocks_keeps _ _ _
  · exact icmBlocks_keeps _ _ _

/-! ### Data in pieces -/

/-- A context with its vector set encrypts up to `0xffff` octets, from the start of the keystream. -/
theorem srtpAesIcmEncrypt_setIv (c : SrtpAesIcmCtx) {iv : V128} {buf : List UInt8}
    (hroom : blockIndex (v128XorEq c.offset iv) + buf.length ≤ 0xffff) :
    (srtpAesIcmEncrypt (srtpAesIcmSetIv c iv) buf).1 = .ok ∧
      (srtpAesIcmEncrypt (srtpAesIcmSetIv c iv) buf).2.2 =
        icmMix c.expandedKey (v128XorEq c.offset iv) 0 buf := by
  obtain ⟨hok, hout, -⟩ := (srtpAesIcmEncrypt_spec (icmAt_setIv c iv) (by omega)).1
    (show buf.length + _ ≤ _ by omega)
  exact ⟨hok, hout⟩

/-- Calls one after the other: the statuses, the context after them and what they have written. -/
def icmPieces (c : SrtpAesIcmCtx) : List (List UInt8) → List IcmStatus × SrtpAesIcmCtx × List UInt8
  | [] => ([], c, [])
  | buf :: pieces =>
    let r := srtpAesIcmEncrypt c buf
    let rest := icmPieces r.2.1 pieces
    (r.1 :: rest.1, rest.2.1, r.2.2 ++ rest.2.2)

theorem icmPieces_spec {c : SrtpAesIcmCtx} {ek : SrtpAesExpandedKey} {base : V128} {pos : ℕ}
    (h : IcmAt c ek base pos) {pieces : List (List UInt8)}
    (hroom : blockIndex base + (pos + 15) / 16 + pieces.flatten.length ≤ 0xffff) :
    (∀ status ∈ (icmPieces c pieces).1, status = .ok) ∧
      (icmPieces c pieces).2.2 = icmMix ek base pos pieces.flatten ∧
      IcmAt (icmPieces c pieces).2.1 ek base (pos + pieces.flatten.length) := by
  induction pieces generalizing c pos with
  | nil => exact ⟨by simp [icmPieces], rfl, h⟩
  | cons buf pieces ih =>
    rw [List.flatten_cons, List.length_append] at hroom
    obtain ⟨hok, hout, hat⟩ := (srtpAesIcmEncrypt_spec h (by omega)).1
      (show buf.length + _ ≤ _ by omega)
    obtain ⟨hoks, houts, hats⟩ := ih hat (by omega)
    refine ⟨?_, ?_, ?_⟩
    · simp only [icmPieces, List.mem_cons, forall_eq_or_imp]
      exact ⟨hok, hoks⟩
    · simp only [icmPieces, hout, houts, List.flatten_cons, icmMix_append]
    · rw [List.flatten_cons, List.length_append, ← Nat.add_assoc]
      exact hats

/-- **Data encrypted in pieces is the data encrypted at once**: after a new vector, however the data
are cut, every call succeeds and together they write what one call would have written. -/
theorem icmPieces_eq (c : SrtpAesIcmCtx) {iv : V128} {pieces : List (List UInt8)}
    (hroom : blockIndex (v128XorEq c.offset iv) + pieces.flatten.length ≤ 0xffff) :
    (∀ status ∈ (icmPieces (srtpAesIcmSetIv c iv) pieces).1, status = .ok) ∧
      (srtpAesIcmEncrypt (srtpAesIcmSetIv c iv) pieces.flatten).1 = .ok ∧
      (icmPieces (srtpAesIcmSetIv c iv) pieces).2.2 =
        (srtpAesIcmEncrypt (srtpAesIcmSetIv c iv) pieces.flatten).2.2 := by
  obtain ⟨hoks, houts, -⟩ := @icmPieces_spec _ _ _ _ (icmAt_setIv c iv) pieces
    (show blockIndex _ + (0 + 15) / 16 + _ ≤ _ by omega)
  obtain ⟨hok, hout⟩ := srtpAesIcmEncrypt_setIv c hroom
  exact ⟨hoks, hok, houts.trans hout.symm⟩

/-- A context under the key and salt `0, 1, 2, …`. -/
def countingIcmCtx : SrtpAesIcmCtx := (srtpAesIcmContextInit (newIcm 30) UInt8.ofNat).2

theorem icmPieces_eq_three :
    (icmPieces (srtpAesIcmSetIv countingIcmCtx (paddedBlock UInt8.ofNat 14))
        [List.replicate 20 1, [2, 3, 4], List.replicate 30 5]).2.2 =
      (srtpAesIcmEncrypt (srtpAesIcmSetIv countingIcmCtx (paddedBlock UInt8.ofNat 14))
        [List.replicate 20 1, [2, 3, 4], List.replicate 30 5].flatten).2.2 :=
  (icmPieces_eq countingIcmCtx (by decide +kernel)).2.2

end CameraDaemon
