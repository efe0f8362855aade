import CameraDaemon.Lib.Sweep
import CameraDaemon.Srtp.Rdbx
import Mathlib.Data.List.GetD

/-!
# The replay window in memory

`bitvector_t` packs the replay window into 32-bit words, and `bitvector_left_shift` moves it in
place: every word is put together from two words that stand further up, in a loop that overwrites
the array it reads.  `Srtp.Rdbx` has the window as a list of bits; here is the array, and the proof
that the database on the array gives the same answers as the one on bits.

## Main definitions

* `Bitvector` — the words, with the length in bits.
* `Bitvector.leftShift`, `Bitvector.setBit`, `Bitvector.getBit` — the operations on words.
* `Bitvector.bits` — the bits that the words hold.
* `WordRdbx` — the replay database on words; `WordRdbx.bits` — what it holds.

## Main results

* `Bitvector.getBit_leftShift` — bit `j` of the shifted window is bit `j + shift` of the window.
* `Bitvector.bits_leftShift` — **the shift of the words is the shift of the bits.**
* `wordRun_bits` — **on words the database answers as on bits**, for every sequence of packets.
-/

namespace CameraDaemon

open Sweep SlidingWindow

/-! ### Bit vectors -/

/-- `bitvector_t`: `bitvector_alloc` rounds the length up to whole words. -/
structure Bitvector where
  length : ℕ
  word : List (BitVec 32)
  length_eq : length = 32 * word.length

/-- `bitvector_alloc`: the length is rounded up; `none` for a length of zero. -/
def Bitvector.alloc (length : ℕ) : Option Bitvector :=
  let words := (length + 31) / 32
  if words = 0 then none
  else
    some
      { length := 32 * words
        word := List.replicate words 0
        length_eq := by rw [List.length_replicate] }

/-- `bitvector_get_bit`. -/
def Bitvector.getBit (v : Bitvector) (bitIndex : ℕ) : Bool :=
  (v.word.getD (bitIndex >>> 5) 0#32 >>> (bitIndex &&& 31)) &&& 1#32 = 1#32

/-- `bitvector_set_bit`. -/
def Bitvector.setBit (v : Bitvector) (bitIndex : ℕ) : Bitvector :=
  { length := v.length
    word := v.word.set (bitIndex >>> 5)
      (v.word.getD (bitIndex >>> 5) 0#32 ||| (1#32 <<< (bitIndex &&& 31)))
    length_eq := by rw [List.length_set, v.length_eq] }

/-- `bitvector_set_to_zero`. -/
def Bitvector.setToZero (v : Bitvector) : Bitvector :=
  { length := v.length
    word := List.replicate v.word.length 0
    length_eq := by rw [List.length_replicate, v.length_eq] }

/-- The words of `bitvector_left_shift` before its last loop. -/
def shiftWords (word : List (BitVec 32)) (baseIndex bitIndex wordLength : ℕ) : List (BitVec 32) :=
  if bitIndex = 0 then
    sweep (fun w i => w.getD (i + baseIndex) 0#32) (wordLength - baseIndex) 0 word
  else
    let w := sweep (fun w i => (w.getD (i + baseIndex) 0#32 >>> bitIndex) ^^^
      (w.getD (i + (baseIndex + 1)) 0#32 <<< (32 - bitIndex))) (wordLength - baseIndex - 1) 0 word
    w.set (wordLength - baseIndex - 1) (w.getD (wordLength - 1) 0#32 >>> bitIndex)

@[simp] theorem length_shiftWords (word : List (BitVec 32)) (baseIndex bitIndex wordLength : ℕ) :
    (shiftWords word baseIndex bitIndex wordLength).length = word.length := by
  rw [shiftWords]
  split
  · rw [length_sweep]
  · rw [List.length_set, length_sweep]

/-- `bitvector_left_shift`. -/
def Bitvector.leftShift (v : Bitvector) (shift : ℕ) : Bitvector :=
  if shift ≥ v.length then v.setToZero
  else
    let baseIndex := shift >>> 5
    let wordLength := v.length >>> 5
    { length := v.length
      word := sweep (fun _ _ => 0) baseIndex (wordLength - baseIndex)
        (shiftWords v.word baseIndex (shift &&& 31) wordLength)
      length_eq := by rw [length_sweep, length_shiftWords, v.length_eq] }

/-- The bits of the vector, bit `0` first. -/
def Bitvector.bits (v : Bitvector) : List Bool := (List.range v.length).map v.getBit

@[simp] theorem Bitvector.length_bits (v : Bitvector) : v.bits.length = v.length := by
  rw [Bitvector.bits, List.length_map, List.length_range]

/-! ### What a word holds -/

theorem shiftRight_five (i : ℕ) : i >>> 5 = i / 32 := Nat.shiftRight_eq_div_pow i 5

theorem and_thirtyOne (i : ℕ) : i &&& 31 = i % 32 := Nat.and_two_pow_sub_one_eq_mod i 5

/-- A masked shift tests a bit. -/
theorem shiftRight_and_one (w : BitVec 32) (b : ℕ) :
    decide ((w >>> b) &&& 1#32 = 1#32) = w.getLsbD b := by
  rw [BitVec.and_one_eq_setWidth_ofBool_getLsbD, BitVec.getLsbD_ushiftRight, Nat.add_zero]
  cases w.getLsbD b <;> rfl

/-- **A bit of the vector is a bit of a word.** -/
theorem Bitvector.getBit_eq (v : Bitvector) (j : ℕ) :
    v.getBit j = (v.word.getD (j / 32) 0#32).getLsbD (j % 32) := by
  rw [Bitvector.getBit, shiftRight_and_one, shiftRight_five, and_thirtyOne]

/-- In an array of zeros every bit is clear. -/
theorem Bitvector.getBit_of_zeros {v : Bitvector} {n : ℕ} (h : v.word = List.replicate n 0#32)
    (j : ℕ) : v.getBit j = false := by
  rw [Bitvector.getBit_eq, h, List.getD_eq_getElem?_getD, List.getElem?_replicate]
  split
  · exact BitVec.getLsbD_zero
  · exact BitVec.getLsbD_zero

/-- Past the last word every bit is clear. -/
theorem Bitvector.getBit_of_le {v : Bitvector} {j : ℕ} (h : v.length ≤ j) : v.getBit j = false := by
  have hword : v.word.length ≤ j / 32 := by
    rw [v.length_eq] at h
    omega
  rw [Bitvector.getBit_eq, List.getD_eq_default _ _ hword, BitVec.getLsbD_zero]

/-- Two words, each shifted towards the other, are a window on both. -/
theorem getLsbD_window (lo hi : BitVec 32) {bit b : ℕ} (hlt : bit < 32) (hb : b < 32) :
    ((lo >>> bit) ^^^ (hi <<< (32 - bit))).getLsbD b =
      if b + bit < 32 then lo.getLsbD (b + bit) else hi.getLsbD (b + bit - 32) := by
  rw [BitVec.getLsbD_xor, BitVec.getLsbD_ushiftRight, BitVec.getLsbD_shiftLeft]
  split
  · next hlow =>
    have hnot : b < 32 - bit := by omega
    simp [hnot, Nat.add_comm]
  · next hhigh =>
    have hnot : ¬ b < 32 - bit := by omega
    have hout : lo.getLsbD (bit + b) = false := BitVec.getLsbD_of_ge _ _ (by omega)
    have hin : b - (32 - bit) = b + bit - 32 := by omega
    simp [hb, hnot, hout, hin]

section LeftShift

variable {word : List (BitVec 32)} {baseIndex bitIndex : ℕ}

/-- The words after the first loop: every word is a window on two words of the old array, and what
stands behind the array counts as zero. -/
theorem getD_shiftWords {i : ℕ} (hi : i + baseIndex < word.length) :
    (shiftWords word baseIndex bitIndex word.length).getD i 0#32 =
      if bitIndex = 0 then word.getD (i + baseIndex) 0#32
      else (word.getD (i + baseIndex) 0#32 >>> bitIndex) ^^^
        (word.getD (i + (baseIndex + 1)) 0#32 <<< (32 - bitIndex)) := by
  have hcell : word[i]? = some (word.getD i 0#32) := by
    rw [List.getD_eq_getElem _ _ (by omega), List.getElem?_eq_getElem]
  rw [shiftWords]
  split
  · rw [List.getD_eq_getElem?_getD, getElem?_sweep (readsAhead_getD _ _), if_pos (by omega), hcell]
    rfl
  · have hreads := ReadsAhead.map₂ (readsAhead_getD 0#32 baseIndex)
      (readsAhead_getD 0#32 (baseIndex + 1))
      fun lo hi => (lo >>> bitIndex) ^^^ (hi <<< (32 - bitIndex))
    have hloop := getElem?_sweep hreads (word.length - baseIndex - 1) 0 word
    rcases Nat.lt_or_ge (i + baseIndex + 1) word.length with hbelow | hlast
    · rw [List.getD_eq_getElem?_getD, List.getElem?_set_ne (by omega), hloop i, if_pos (by omega),
        hcell]
      rfl
    · -- the last word that is not cleared has no right neighbour
      have hilast : word.length - baseIndex - 1 = i := by omega
      have hsource : word.length - 1 = i + baseIndex := by omega
      have hnone : word.getD (i + (baseIndex + 1)) 0#32 = 0#32 :=
        List.getD_eq_default _ _ (by omega)
      have hkept := hloop (i + baseIndex)
      rw [if_neg (by omega)] at hkept
      rw [hilast] at hkept
      rw [hilast, hsource, List.getD_eq_getElem?_getD, List.getElem?_set_self (by
        rw [length_sweep]
        omega), List.getD_eq_getElem?_getD, hkept, hnone, BitVec.zero_shiftLeft, BitVec.xor_zero,
        ← List.getD_eq_getElem?_getD]
      rfl

end LeftShift

/-- **Bit `j` of the shifted window is bit `j + shift` of the window.** -/
theorem Bitvector.getBit_leftShift (v : Bitvector) (shift j : ℕ) :
    (v.leftShift shift).getBit j = v.getBit (j + shift) := by
  have hlen := v.length_eq
  rw [Bitvector.leftShift]
  split
  · next hout =>
    rw [Bitvector.getBit_of_le (v := v) (by omega)]
    exact Bitvector.getBit_of_zeros rfl j
  · next hin =>
    have hwords : v.length >>> 5 = v.word.length := by
      rw [shiftRight_five]
      omega
    rw [Bitvector.getBit_eq, Bitvector.getBit_eq]
    simp only [hwords, shiftRight_five, and_thirtyOne]
    rw [List.getD_eq_getElem?_getD, getElem?_sweep (readsAhead_const _)]
    rcases Nat.lt_or_ge (j / 32 + shift / 32) v.word.length with hlow | hhigh
    · rw [if_neg (by omega), ← List.getD_eq_getElem?_getD,
        getD_shiftWords hlow]
      split
      · next hzero =>
        have hdiv : (j + shift) / 32 = j / 32 + shift / 32 := by omega
        have hmod : (j + shift) % 32 = j % 32 := by omega
        rw [hdiv, hmod]
      · next hnonzero =>
        rw [getLsbD_window _ _ (Nat.mod_lt _ (by omega)) (Nat.mod_lt _ (by omega))]
        split
        · next hsame =>
          have hdiv : (j + shift) / 32 = j / 32 + shift / 32 := by omega
          have hmod : (j + shift) % 32 = j % 32 + shift % 32 := by omega
          rw [hdiv, hmod]
        · next hnext =>
          have hdiv : (j + shift) / 32 = j / 32 + (shift / 32 + 1) := by omega
          have hmod : (j + shift) % 32 = j % 32 + shift % 32 - 32 := by omega
          rw [hdiv, hmod]
    · -- the words behind the window are cleared
      have hnone : v.word.getD ((j + shift) / 32) 0#32 = 0#32 :=
        List.getD_eq_default _ _ (by omega)
      rw [hnone, BitVec.getLsbD_zero]
      rcases Nat.lt_or_ge (j / 32) v.word.length with hcell | hnocell
      · rw [if_pos (by omega), List.getElem?_eq_getElem (by rw [length_shiftWords]; exact hcell)]
        exact BitVec.getLsbD_zero
      · rw [if_neg (by omega), List.getElem?_eq_none (by rw [length_shiftWords]; exact hnocell)]
        exact BitVec.getLsbD_zero

theorem Bitvector.length_leftShift (v : Bitvector) (shift : ℕ) :
    (v.leftShift shift).length = v.length := by
  rw [Bitvector.leftShift]
  split
  · rfl
  · rfl

/-- A bit that is set reads as set, and the others read as before. -/
theorem Bitvector.getBit_setBit {v : Bitvector} {k : ℕ} (hk : k < v.length) (j : ℕ) :
    (v.setBit k).getBit j = (decide (j = k) || v.getBit j) := by
  have hword : k / 32 < v.word.length := by
    rw [v.length_eq] at hk
    omega
  rw [Bitvector.getBit_eq, Bitvector.getBit_eq]
  simp only [Bitvector.setBit, shiftRight_five, and_thirtyOne]
  by_cases hsame : j / 32 = k / 32
  · have hiff : j % 32 = k % 32 ↔ j = k := by omega
    rw [hsame, List.getD_eq_getElem?_getD, List.getElem?_set_self hword, Option.getD_some,
      BitVec.getLsbD_or, ← BitVec.twoPow_eq, BitVec.getLsbD_twoPow, Bool.or_comm]
    congr 1
    have hlt : k % 32 < 32 := Nat.mod_lt _ (by omega)
    by_cases hjk : j = k
    · simp [hjk, hlt]
    · have hne : k % 32 ≠ j % 32 := fun h => hjk (hiff.mp h.symm)
      simp [hjk, hne]
  · have hne : j ≠ k := fun h => hsame (by rw [h])
    rw [List.getD_eq_getElem?_getD, List.getElem?_set_ne (Ne.symm hsame),
      ← List.getD_eq_getElem?_getD, decide_eq_false hne, Bool.false_or]

/-! ### Lists of bits -/

theorem Bitvector.getElem_bits (v : Bitvector) {j : ℕ} (hj : j < v.bits.length) :
    v.bits[j] = v.getBit j := by
  simp only [Bitvector.bits, List.getElem_map, List.getElem_range]

theorem Bitvector.getD_bits (v : Bitvector) (j : ℕ) : v.bits.getD j false = v.getBit j := by
  rcases Nat.lt_or_ge j v.length with hin | hout
  · rw [List.getD_eq_getElem _ _ (by rwa [Bitvector.length_bits]), Bitvector.getElem_bits]
  · rw [List.getD_eq_default _ _ (by rwa [Bitvector.length_bits]), Bitvector.getBit_of_le hout]

/-- **The shift of the words is the shift of the bits.** -/
theorem Bitvector.bits_leftShift (v : Bitvector) (shift : ℕ) :
    (v.leftShift shift).bits = bitvectorLeftShift v.bits shift := by
  rw [bitvectorLeftShift]
  apply List.ext_getElem
  · rw [length_slide, Bitvector.length_bits, Bitvector.length_bits, Bitvector.length_leftShift]
  · intro j hj hj'
    rw [Bitvector.getElem_bits, Bitvector.getBit_leftShift, ← Bitvector.getD_bits, ← getD_slide,
      List.getD_eq_getElem]

theorem Bitvector.bits_setBit {v : Bitvector} {k : ℕ} (hk : k < v.length) :
    (v.setBit k).bits = v.bits.set k true := by
  apply List.ext_getElem
  · rw [List.length_set, Bitvector.length_bits, Bitvector.length_bits]
    rfl
  · intro j hj hj'
    rw [Bitvector.getElem_bits, Bitvector.getBit_setBit hk, List.getElem_set]
    by_cases hjk : k = j
    · rw [if_pos hjk, decide_eq_true hjk.symm, Bool.true_or]
    · rw [if_neg hjk, decide_eq_false (Ne.symm hjk), Bool.false_or, Bitvector.getElem_bits]

theorem Bitvector.bits_of_zeros {v : Bitvector} {n : ℕ} (h : v.word = List.replicate n 0#32) :
    v.bits = List.replicate v.length false := by
  rw [List.eq_replicate_iff]
  refine ⟨v.length_bits, fun b hb => ?_⟩
  obtain ⟨j, hj, rfl⟩ := List.getElem_of_mem hb
  rw [Bitvector.getElem_bits, Bitvector.getBit_of_zeros h]

theorem Bitvector.bits_setToZero (v : Bitvector) :
    v.setToZero.bits = List.replicate v.bits.length false := by
  rw [Bitvector.length_bits]
  exact Bitvector.bits_of_zeros rfl

/-! ### The database -/

/-- `srtp_rdbx_t`, with its window in memory. -/
structure WordRdbx where
  index : ℕ
  bitmask : Bitvector

/-- The database with the bits that its window holds. -/
def WordRdbx.bits (r : WordRdbx) : SrtpRdbx := { index := r.index, bitmask := r.bitmask.bits }

/-- `srtp_rdbx_init`; `none` for a window of size zero. -/
def WordRdbx.init (ws : ℕ) : Option WordRdbx :=
  (Bitvector.alloc ws).map fun bitmask => { index := 0, bitmask := bitmask }

/-- `srtp_rdbx_check`, where the number of the last bit is converted to `int`. -/
def WordRdbx.check (r : WordRdbx) (delta : ℤ) : SrtpErrStatus :=
  let last := toInt32 (r.bitmask.length + 2 ^ 64 - 1)
  if delta > 0 then .ok
  else if last + delta < 0 then .replayOld
  else if r.bitmask.getBit (last + delta).toNat then .replayFail
  else .ok

/-- `srtp_rdbx_add_index`. -/
def WordRdbx.addIndex (r : WordRdbx) (delta : ℤ) : WordRdbx :=
  if delta > 0 then
    { index := (r.index + delta.toNat % 2 ^ 16) % 2 ^ 64
      bitmask := (r.bitmask.leftShift delta.toNat).setBit (r.bitmask.length - 1) }
  else
    { r with bitmask := r.bitmask.setBit ((r.bitmask.length : ℤ) - 1 + delta).toNat }

/-- `srtp_rdbx_set_roc_seq`. -/
def WordRdbx.setRocSeq (r : WordRdbx) (roc seq : ℕ) : WordRdbx :=
  if roc < r.index >>> 16 then r
  else { index := seq ||| roc <<< 16, bitmask := r.bitmask.setToZero }

theorem WordRdbx.bits_init {ws : ℕ} {r : WordRdbx} (h : WordRdbx.init ws = some r) :
    r.bits = srtpRdbxInit ws ∧ 0 < r.bitmask.length ∧ r.bitmask.length < ws + 32 := by
  rw [WordRdbx.init, Bitvector.alloc] at h
  split at h
  · cases h
  · next hne =>
    cases h
    refine ⟨?_, ?_, ?_⟩
    · rw [WordRdbx.bits, srtpRdbxInit, Nat.mul_comm ((ws + 31) / 32)]
      congr 1
      exact Bitvector.bits_of_zeros rfl
    · show 0 < 32 * ((ws + 31) / 32)
      omega
    · show 32 * ((ws + 31) / 32) < ws + 32
      omega

theorem WordRdbx.check_bits {r : WordRdbx} (hpos : 0 < r.bitmask.length)
    (hint : r.bitmask.length ≤ 2 ^ 31) (delta : ℤ) :
    r.check delta = srtpRdbxCheck r.bits delta := by
  simp only [WordRdbx.check, srtpRdbxCheck, WordRdbx.bits, Bitvector.length_bits,
    Bitvector.getD_bits, toInt32_pred hpos hint]

theorem WordRdbx.length_addIndex (r : WordRdbx) (delta : ℤ) :
    (r.addIndex delta).bitmask.length = r.bitmask.length := by
  rw [WordRdbx.addIndex]
  split
  · exact Bitvector.length_leftShift _ _
  · rfl

theorem WordRdbx.bits_addIndex {r : WordRdbx} (hpos : 0 < r.bitmask.length) (delta : ℤ) :
    (r.addIndex delta).bits = srtpRdbxAddIndex r.bits delta := by
  rw [WordRdbx.addIndex, srtpRdbxAddIndex]
  split
  · have hlast : r.bitmask.length - 1 < (r.bitmask.leftShift delta.toNat).length := by
      rw [Bitvector.length_leftShift]
      omega
    simp only [WordRdbx.bits, Bitvector.bits_setBit hlast, Bitvector.bits_leftShift,
      Bitvector.length_bits]
  · have hin : ((r.bitmask.length : ℤ) - 1 + delta).toNat < r.bitmask.length := by omega
    simp only [WordRdbx.bits, Bitvector.bits_setBit hin, Bitvector.length_bits]

theorem WordRdbx.bits_setRocSeq (r : WordRdbx) (roc seq : ℕ) :
    (r.setRocSeq roc seq).bits = srtpRdbxSetRocSeq r.bits roc seq := by
  rw [WordRdbx.setRocSeq, srtpRdbxSetRocSeq]
  show WordRdbx.bits (if roc < r.index >>> 16 then _ else _) =
    if roc < r.index >>> 16 then _ else _
  split
  · rfl
  · simp only [WordRdbx.bits, Bitvector.bits_setToZero]

/-! ### Runs -/

/-- What is done to a replay database. -/
inductive RdbxOp
  /-- A packet with this sequence number: its index is estimated, checked, and added if it passes. -/
  | packet (seq : UInt16)
  /-- The index is set. -/
  | setRocSeq (roc : UInt32) (seq : UInt16)
  deriving DecidableEq, Repr

/-- One operation on bits, and its answer: the status and the estimated index of a packet. -/
def rdbxStep (r : SrtpRdbx) : RdbxOp → Option (SrtpErrStatus × ℕ) × SrtpRdbx
  | .packet seq =>
    let (est, delta) := srtpRdbxEstimateIndex r seq.toNat
    let status := srtpRdbxCheck r delta
    (some (status, est), if status = .ok then srtpRdbxAddIndex r delta else r)
  | .setRocSeq roc seq => (none, srtpRdbxSetRocSeq r roc.toNat seq.toNat)

/-- One operation on words. -/
def wordStep (r : WordRdbx) : RdbxOp → Option (SrtpErrStatus × ℕ) × WordRdbx
  | .packet seq =>
    let (est, delta) := srtpRdbxEstimateIndex r.bits seq.toNat
    let status := r.check delta
    (some (status, est), if status = .ok then r.addIndex delta else r)
  | .setRocSeq roc seq => (none, r.setRocSeq roc.toNat seq.toNat)

/-- The answers to a sequence of operations, and the database after it. -/
def answers {ρ : Type} (step : ρ → RdbxOp → Option (SrtpErrStatus × ℕ) × ρ) :
    ρ → List RdbxOp → List (Option (SrtpErrStatus × ℕ)) × ρ
  | r, [] => ([], r)
  | r, op :: ops =>
    let (answer, r) := step r op
    let (rest, r) := answers step r ops
    (answer :: rest, r)

theorem answers_cons {ρ : Type} (step : ρ → RdbxOp → Option (SrtpErrStatus × ℕ) × ρ) (r : ρ)
    (op : RdbxOp) (ops : List RdbxOp) :
    (answers step r (op :: ops)).1 = (step r op).1 :: (answers step (step r op).2 ops).1 := rfl

/-- One operation gives the same answer on words and on bits, and keeps the window. -/
theorem wordStep_bits {r : WordRdbx} (hpos : 0 < r.bitmask.length)
    (hint : r.bitmask.length ≤ 2 ^ 31) (op : RdbxOp) :
    (wordStep r op).1 = (rdbxStep r.bits op).1 ∧
      (wordStep r op).2.bits = (rdbxStep r.bits op).2 ∧
      (wordStep r op).2.bitmask.length = r.bitmask.length := by
  cases op with
  | packet seq =>
    simp only [wordStep, rdbxStep, WordRdbx.check_bits hpos hint]
    refine ⟨trivial, ?_⟩
    split
    · exact ⟨WordRdbx.bits_addIndex hpos _, WordRdbx.length_addIndex _ _⟩
    · exact ⟨rfl, rfl⟩
  | setRocSeq roc seq =>
    refine ⟨rfl, WordRdbx.bits_setRocSeq _ _ _, ?_⟩
    simp only [wordStep, WordRdbx.setRocSeq]
    split
    · rfl
    · rfl

/-- **On words the database answers as on bits**, for every sequence of operations, if the length of
the window is an `int`. -/
theorem wordRun_bits : ∀ (ops : List RdbxOp) {r : WordRdbx}, 0 < r.bitmask.length →
    r.bitmask.length ≤ 2 ^ 31 →
    (answers wordStep r ops).1 = (answers rdbxStep r.bits ops).1 ∧
      (answers wordStep r ops).2.bits = (answers rdbxStep r.bits ops).2 := by
  intro ops
  induction ops with
  | nil => intro r _ _; exact ⟨rfl, rfl⟩
  | cons op ops ih =>
    intro r hpos hint
    obtain ⟨hanswer, hbits, hlength⟩ := wordStep_bits hpos hint op
    obtain ⟨hrest, hend⟩ := ih (r := (wordStep r op).2) (by rwa [hlength]) (by rwa [hlength])
    rw [hbits] at hrest hend
    refine ⟨?_, hend⟩
    rw [answers_cons, answers_cons, hanswer, hrest]

end CameraDaemon
