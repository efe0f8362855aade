import CameraDaemon.Lib.SlidingWindow
import Mathlib.Data.Nat.Basic
import Mathlib.Tactic.Linarith

/-!
# The extended replay database of libSRTP

A packet carries only the low sixteen bits of its index.  The database keeps the highest index
seen and a bitmask of the recent ones, and reconstructs the full index of a packet from the
sixteen bits and what it has seen.

`uint64_t` and `uint32_t` values are naturals with the reduction written where the C type forces
one; `int` results are integers.  Bit `0` of a `bitvector_t` is the first element of its list.

## Main definitions

* `SrtpErrStatus` — the statuses the sending path of libSRTP can return.
* `srtpIndexGuess`, `srtpRdbxEstimateIndex`, `srtpEstimateIndex` — the three index estimates.
* `srtpRdbxCheck`, `srtpRdbxAddIndex`, `srtpRdbxSetRocSeq` — the replay window.

## Main results

* `srtpIndexGuess_succ` — from any local index the next sequence number guesses the next index.
* `srtpRdbxEstimateIndex_succ` — **the estimate of the next packet is the next index**, below, at
  and above the median and through every wrap of the sixteen bits.
-/

namespace CameraDaemon

/-- The `srtp_err_status_*` values that `srtp_protect` and `srtp_create` can return here. -/
inductive SrtpErrStatus
  | ok
  | badParam
  | noCtx
  | keyExpired
  | parseErr
  | cipherFail
  | replayFail
  | replayOld
  | pktIdxOld
  | pktIdxAdv
  deriving DecidableEq, Repr

/-- `seq_num_median`. -/
def seqNumMedian : ℕ := 1 <<< 15

/-- `seq_num_max`. -/
def seqNumMax : ℕ := 1 <<< 16

/-- `srtp_rdbx_t`: the highest index seen and the window of recent ones. -/
structure SrtpRdbx where
  index : ℕ
  bitmask : List Bool
  deriving DecidableEq, Repr

/-- `srtp_rdbx_init`, with the window rounded up to whole 32-bit words by `bitvector_alloc`. -/
def srtpRdbxInit (ws : ℕ) : SrtpRdbx :=
  { index := 0, bitmask := List.replicate ((ws + 31) / 32 * 32) false }

/-! ### Estimating the index of a packet -/

/-- `srtp_index_guess`: the index closest to `loc` whose low half is `s`, and its distance to
`loc`. -/
def srtpIndexGuess (loc s : ℕ) : ℕ × ℤ :=
  let localRoc := (loc >>> 16) % 2 ^ 32
  let localSeq := loc % 2 ^ 16
  if localSeq < seqNumMedian then
    if (s : ℤ) - localSeq > seqNumMedian then
      (((localRoc + 2 ^ 32 - 1) % 2 ^ 32) <<< 16 ||| s, (s : ℤ) - localSeq - seqNumMax)
    else
      (localRoc <<< 16 ||| s, (s : ℤ) - localSeq)
  else
    if (localSeq : ℤ) - seqNumMedian > s then
      (((localRoc + 1) % 2 ^ 32) <<< 16 ||| s, (s : ℤ) - localSeq + seqNumMax)
    else
      (localRoc <<< 16 ||| s, (s : ℤ) - localSeq)

/-- `srtp_rdbx_estimate_index`: up to the median the rollover counter is taken to be zero, past it
the index is guessed. -/
def srtpRdbxEstimateIndex (rdbx : SrtpRdbx) (s : ℕ) : ℕ × ℤ :=
  if rdbx.index > seqNumMedian then
    srtpIndexGuess rdbx.index s
  else
    (s, (s : ℤ) - (rdbx.index % 2 ^ 16 : ℕ))

/-- The conversion of a `uint64_t` to `int`. -/
def toInt32 (n : ℕ) : ℤ :=
  if n % 2 ^ 32 < 2 ^ 31 then (n % 2 ^ 32 : ℕ) else ((n % 2 ^ 32 : ℕ) : ℤ) - 2 ^ 32

/-- One less than a length, computed in 64 bits and converted to `int`. -/
theorem toInt32_pred {n : ℕ} (hpos : 0 < n) (hint : n ≤ 2 ^ 31) :
    toInt32 (n + 2 ^ 64 - 1) = (n : ℤ) - 1 := by
  have hmod : (n + 2 ^ 64 - 1) % 2 ^ 32 = n - 1 := by omega
  rw [toInt32, hmod, if_pos (by omega)]
  omega

/-- `srtp_estimate_index`, the estimate under a pending rollover counter. -/
def srtpEstimateIndex (rdbx : SrtpRdbx) (roc seq : ℕ) : SrtpErrStatus × ℕ × ℤ :=
  let est := roc <<< 16 ||| seq
  if est > rdbx.index then
    if est - rdbx.index > seqNumMedian then (.pktIdxAdv, est, 0)
    else (.ok, est, toInt32 (est - rdbx.index))
  else if est < rdbx.index then
    if rdbx.index - est > seqNumMedian then (.pktIdxOld, est, 0)
    else (.ok, est, toInt32 (est + 2 ^ 64 - rdbx.index))
  else (.ok, est, 0)

/-! ### The replay window -/

/-- `srtp_rdbx_check`: is the index at distance `delta` from the highest one still unused?  The
conversion of the length to `int` is in `WordRdbx.check`. -/
def srtpRdbxCheck (rdbx : SrtpRdbx) (delta : ℤ) : SrtpErrStatus :=
  if delta > 0 then .ok
  else if (rdbx.bitmask.length : ℤ) - 1 + delta < 0 then .replayOld
  else if rdbx.bitmask.getD ((rdbx.bitmask.length : ℤ) - 1 + delta).toNat false then .replayFail
  else .ok

/-- `bitvector_left_shift`: every bit moves `shift` places towards bit `0`. -/
def bitvectorLeftShift (v : List Bool) (shift : ℕ) : List Bool := SlidingWindow.slide v shift

/-- `srtp_rdbx_add_index`: mark the index at distance `delta` as used.  `srtp_index_advance` takes
its distance as a 16-bit number. -/
def srtpRdbxAddIndex (rdbx : SrtpRdbx) (delta : ℤ) : SrtpRdbx :=
  if delta > 0 then
    { index := (rdbx.index + delta.toNat % 2 ^ 16) % 2 ^ 64
      bitmask := (bitvectorLeftShift rdbx.bitmask delta.toNat).set (rdbx.bitmask.length - 1) true }
  else
    { rdbx with
      bitmask := rdbx.bitmask.set ((rdbx.bitmask.length : ℤ) - 1 + delta).toNat true }

/-- `srtp_rdbx_set_roc_seq`, whose status its only caller ignores. -/
def srtpRdbxSetRocSeq (rdbx : SrtpRdbx) (roc seq : ℕ) : SrtpRdbx :=
  if roc < rdbx.index >>> 16 then rdbx
  else { index := seq ||| roc <<< 16, bitmask := List.replicate rdbx.bitmask.length false }

/-! ### The next packet -/

/-- Joining a rollover counter and a sequence number. -/
theorem roc_shiftLeft_or {r s : ℕ} (hs : s < 2 ^ 16) : r <<< 16 ||| s = r * 2 ^ 16 + s := by
  rw [← Nat.shiftLeft_add_eq_or_of_lt hs, Nat.shiftLeft_eq]

/-- The rollover counter of an index. -/
theorem localRoc_eq {k : ℕ} (hk : k < 2 ^ 48) : (k >>> 16) % 2 ^ 32 = k / 2 ^ 16 := by
  rw [Nat.shiftRight_eq_div_pow]
  exact Nat.mod_eq_of_lt (by omega)

/-- **The guess for the next sequence number is the next index.**  The two halves of the guess are
read off the local index: below the median and above it the counter stays, at the last sequence
number it moves on by one. -/
theorem srtpIndexGuess_succ {k : ℕ} (hk : k + 1 < 2 ^ 48) :
    srtpIndexGuess k ((k + 1) % 2 ^ 16) = (k + 1, 1) := by
  have hs : (k + 1) % 2 ^ 16 < 2 ^ 16 := Nat.mod_lt _ (by norm_num)
  have hroc := localRoc_eq (k := k) (by omega)
  have hmed : seqNumMedian = 2 ^ 15 := rfl
  have hmax : seqNumMax = 2 ^ 16 := rfl
  simp only [srtpIndexGuess, hroc, hmed, hmax, roc_shiftLeft_or hs]
  split
  · next hlow =>
    -- below the median: no wrap is near
    have hnext : (k + 1) % 2 ^ 16 = k % 2 ^ 16 + 1 := by omega
    rw [if_neg (by rw [hnext]; push_cast; omega)]
    refine Prod.ext ?_ ?_
    · show k / 2 ^ 16 * 2 ^ 16 + (k + 1) % 2 ^ 16 = k + 1
      omega
    · show ((k + 1) % 2 ^ 16 : ℕ) - ((k % 2 ^ 16 : ℕ) : ℤ) = 1
      rw [hnext]; push_cast; omega
  · next hhigh =>
    split
    · next hwrap =>
      -- the sequence number went back to zero: the counter moves on
      have hlast : k % 2 ^ 16 = 2 ^ 16 - 1 := by omega
      have hroc' : (k / 2 ^ 16 + 1) % 2 ^ 32 = k / 2 ^ 16 + 1 := Nat.mod_eq_of_lt (by omega)
      refine Prod.ext ?_ ?_
      · show (k / 2 ^ 16 + 1) % 2 ^ 32 * 2 ^ 16 + (k + 1) % 2 ^ 16 = k + 1
        rw [hroc']; omega
      · show ((k + 1) % 2 ^ 16 : ℕ) - ((k % 2 ^ 16 : ℕ) : ℤ) + (2 ^ 16 : ℕ) = 1
        omega
    · next hstay =>
      have hnext : (k + 1) % 2 ^ 16 = k % 2 ^ 16 + 1 := by omega
      refine Prod.ext ?_ ?_
      · show k / 2 ^ 16 * 2 ^ 16 + (k + 1) % 2 ^ 16 = k + 1
        omega
      · show ((k + 1) % 2 ^ 16 : ℕ) - ((k % 2 ^ 16 : ℕ) : ℤ) = 1
        rw [hnext]; push_cast; omega

/-- **The estimate for the next sequence number is the next index.** -/
theorem srtpRdbxEstimateIndex_succ {rdbx : SrtpRdbx} (hk : rdbx.index + 1 < 2 ^ 48) :
    srtpRdbxEstimateIndex rdbx ((rdbx.index + 1) % 2 ^ 16) = (rdbx.index + 1, 1) := by
  rw [srtpRdbxEstimateIndex]
  split
  · exact srtpIndexGuess_succ hk
  · next hlow =>
    -- at most the median: the sixteen bits are the whole index
    have hle : rdbx.index ≤ 2 ^ 15 := Nat.le_of_not_lt hlow
    have hs : (rdbx.index + 1) % 2 ^ 16 = rdbx.index + 1 := Nat.mod_eq_of_lt (by omega)
    have hl : rdbx.index % 2 ^ 16 = rdbx.index := Nat.mod_eq_of_lt (by omega)
    rw [hs, hl]
    refine Prod.ext rfl ?_
    show ((rdbx.index + 1 : ℕ) : ℤ) - rdbx.index = 1
    push_cast; omega

/-- Adding the index right after the highest one moves the database on by one. -/
theorem srtpRdbxAddIndex_one_index {rdbx : SrtpRdbx} (hk : rdbx.index + 1 < 2 ^ 48) :
    (srtpRdbxAddIndex rdbx 1).index = rdbx.index + 1 := by
  show (rdbx.index + 1 % 2 ^ 16) % 2 ^ 64 = rdbx.index + 1
  omega

end CameraDaemon
