import CameraDaemon.Lib.SlidingWindow
import CameraDaemon.Srtp.Bitvector
import Mathlib.Data.List.Infix
import Mathlib.Data.Nat.Dist

/-!
# What the replay database remembers

For a packet the database makes a guess at the full index, looks the index up in its window, and
marks it.  Whatever sequence numbers come in, in whatever order, no index is let through twice, and
an index is refused for no other reason than that it was let through before or has fallen out of the
window.

The guess is the index with the given sixteen bits that is closest to the highest one so far, so it
is right for every packet that is less than half a cycle of sequence numbers away.  All of this is
for indices below `2 ^ 48 - 2 ^ 16`: in the last cycle the rollover counter of the guess wraps
around, while the index in the database goes on counting.

## Main definitions

* `nearestIndex` — the index with given sixteen bits that is closest to the highest one.
* `IdealRdbx` — a database that forgets nothing.
* `Remembers` — the window holds what the ideal database remembers.

## Main results

* `srtpRdbxEstimateIndex_eq` — **the guess is the nearest index.**
* `srtpRdbxEstimateIndex_near` — **a packet that is less than half a cycle away is recognised.**
* `rdbxStep_spec` — one packet, on bits.
* `replay_exact` — **on words the database answers as the ideal one, which lets no index through
  twice.**
-/

namespace CameraDaemon

open SlidingWindow

/-! ### The nearest index -/

/-- Of two indices the one that is closer to `highest`, the first if they are equally close. -/
def closer (highest a b : ℕ) : ℕ := if b.dist highest < a.dist highest then b else a

/-- The index with the sixteen bits `s` that is closest to `highest`: those of its own cycle, of the
next one and of the one before are compared. -/
def nearestIndex (highest s : ℕ) : ℕ :=
  let cycle := highest / 2 ^ 16
  closer highest (closer highest (cycle * 2 ^ 16 + s) ((cycle + 1) * 2 ^ 16 + s))
    ((cycle - 1) * 2 ^ 16 + s)

theorem closer_mod {highest a b m s : ℕ} (ha : a % m = s) (hb : b % m = s) :
    closer highest a b % m = s := by
  rw [closer]
  split
  · exact hb
  · exact ha

theorem closer_of_le {highest a b : ℕ} (hle : a.dist highest ≤ b.dist highest) :
    closer highest a b = a := if_neg (Nat.not_lt.mpr hle)

theorem dist_closer (highest a b : ℕ) :
    (closer highest a b).dist highest = min (a.dist highest) (b.dist highest) := by
  rw [closer]
  split
  · next hlt => rw [Nat.min_eq_right (Nat.le_of_lt hlt)]
  · next hge => rw [Nat.min_eq_left (Nat.le_of_not_lt hge)]

theorem nearestIndex_mod {s : ℕ} (highest : ℕ) (hs : s < 2 ^ 16) :
    nearestIndex highest s % 2 ^ 16 = s :=
  closer_mod (closer_mod (by omega) (by omega)) (by omega)

/-- **No index with these sixteen bits is closer.** -/
theorem dist_nearestIndex_le (highest : ℕ) {s n : ℕ} (hn : n % 2 ^ 16 = s) :
    (nearestIndex highest s).dist highest ≤ n.dist highest := by
  rw [nearestIndex, dist_closer, dist_closer]
  -- one of the three stands between `n` and `highest`, or is `n`
  rcases Nat.lt_trichotomy (n / 2 ^ 16) (highest / 2 ^ 16) with hbefore | hsame | hafter
  · refine (Nat.min_le_right _ _).trans ?_
    simp only [Nat.dist]
    omega
  · have hown : highest / 2 ^ 16 * 2 ^ 16 + s = n := by omega
    rw [hown]
    exact (Nat.min_le_left _ _).trans (Nat.min_le_left _ _)
  · refine ((Nat.min_le_left _ _).trans (Nat.min_le_right _ _)).trans ?_
    simp only [Nat.dist]
    omega

theorem nearestIndex_lt {s : ℕ} (highest : ℕ) (hs : s < 2 ^ 16) :
    nearestIndex highest s < highest + 2 ^ 16 := by
  have hle := dist_nearestIndex_le highest (s := s) (n := highest / 2 ^ 16 * 2 ^ 16 + s) (by omega)
  simp only [Nat.dist] at hle
  omega

/-- An index less than half a cycle away is the nearest one. -/
theorem nearestIndex_of_near {highest s n : ℕ} (hn : n % 2 ^ 16 = s)
    (hbelow : highest < n + 2 ^ 15) (habove : n < highest + 2 ^ 15) :
    nearestIndex highest s = n := by
  have hmod := nearestIndex_mod highest (s := s) (by omega)
  have hle := dist_nearestIndex_le highest hn
  simp only [Nat.dist] at hle
  omega

/-- An index of the same cycle is the nearest one, also at a distance of half a cycle; in the first
cycle there is none before it. -/
theorem nearestIndex_of_cycle {highest s : ℕ} (hbelow : highest % 2 ^ 16 ≤ s + 2 ^ 15)
    (habove : highest < 2 ^ 16 ∨ s ≤ highest % 2 ^ 16 + 2 ^ 15) :
    nearestIndex highest s = highest / 2 ^ 16 * 2 ^ 16 + s := by
  have hnext : (highest / 2 ^ 16 * 2 ^ 16 + s).dist highest ≤
      ((highest / 2 ^ 16 + 1) * 2 ^ 16 + s).dist highest := by
    simp only [Nat.dist]
    omega
  have hbefore : (highest / 2 ^ 16 * 2 ^ 16 + s).dist highest ≤
      ((highest / 2 ^ 16 - 1) * 2 ^ 16 + s).dist highest := by
    simp only [Nat.dist]
    omega
  rw [nearestIndex, closer_of_le hnext, closer_of_le hbefore]

/-! ### The guess -/

theorem eq_index_distance {n k : ℕ} {delta : ℤ} (h : (n : ℤ) = k + delta) :
    (n, delta) = (n, (n : ℤ) - k) := by
  rw [h, add_sub_cancel_left]

/-- The guess is the nearest index, once the highest one has passed the first half of the first
cycle. -/
theorem srtpIndexGuess_eq {k s : ℕ} (hk : 2 ^ 15 < k) (hlast : k < 2 ^ 48 - 2 ^ 16)
    (hs : s < 2 ^ 16) :
    srtpIndexGuess k s = (nearestIndex k s, (nearestIndex k s : ℤ) - k) := by
  have hroc := localRoc_eq (k := k) (by omega)
  have hmed : seqNumMedian = 2 ^ 15 := rfl
  have hmax : seqNumMax = 2 ^ 16 := rfl
  simp only [srtpIndexGuess, hroc, hmed, hmax, roc_shiftLeft_or hs]
  split
  · next hlow =>
    split
    · -- the cycle before: this is not the first one
      have hcycle : (k / 2 ^ 16 + 2 ^ 32 - 1) % 2 ^ 32 = k / 2 ^ 16 - 1 := by omega
      rw [hcycle, nearestIndex_of_near (n := (k / 2 ^ 16 - 1) * 2 ^ 16 + s) (by omega) (by omega)
        (by omega)]
      exact eq_index_distance (by omega)
    · rw [nearestIndex_of_cycle (by omega) (by omega)]
      exact eq_index_distance (by omega)
  · next hhigh =>
    split
    · have hcycle : (k / 2 ^ 16 + 1) % 2 ^ 32 = k / 2 ^ 16 + 1 := by omega
      rw [hcycle, nearestIndex_of_near (n := (k / 2 ^ 16 + 1) * 2 ^ 16 + s) (by omega) (by omega)
        (by omega)]
      exact eq_index_distance (by omega)
    · rw [nearestIndex_of_cycle (by omega) (by omega)]
      exact eq_index_distance (by omega)

/-- **The estimate is the nearest index**, and it comes with its distance to the highest one. -/
theorem srtpRdbxEstimateIndex_eq {r : SrtpRdbx} {s : ℕ} (hlast : r.index < 2 ^ 48 - 2 ^ 16)
    (hs : s < 2 ^ 16) :
    srtpRdbxEstimateIndex r s =
      (nearestIndex r.index s, (nearestIndex r.index s : ℤ) - r.index) := by
  rw [srtpRdbxEstimateIndex]
  split
  · next hpast => exact srtpIndexGuess_eq hpast hlast hs
  · next hfirst =>
    have hle : r.index ≤ 2 ^ 15 := Nat.le_of_not_lt hfirst
    rw [nearestIndex_of_cycle (by omega) (by omega)]
    refine Prod.ext ?_ ?_
    · show s = r.index / 2 ^ 16 * 2 ^ 16 + s
      omega
    · show (s : ℤ) - (r.index % 2 ^ 16 : ℕ) = (r.index / 2 ^ 16 * 2 ^ 16 + s : ℕ) - r.index
      omega

/-- **A packet that is less than half a cycle away from the highest index is recognised.** -/
theorem srtpRdbxEstimateIndex_near {r : SrtpRdbx} {n : ℕ} (hlast : r.index < 2 ^ 48 - 2 ^ 16)
    (hbelow : r.index < n + 2 ^ 15) (habove : n < r.index + 2 ^ 15) :
    srtpRdbxEstimateIndex r (n % 2 ^ 16) = (n, (n : ℤ) - r.index) := by
  rw [srtpRdbxEstimateIndex_eq hlast (Nat.mod_lt _ (by omega)),
    nearestIndex_of_near rfl hbelow habove]

/-! ### A database that forgets nothing -/

/-- The ideal database: the size of the window, the highest index, and all indices that were let
through, latest first. -/
structure IdealRdbx where
  window : ℕ
  highest : ℕ
  got : List ℕ

/-- What is to be said of an index: an old one is out of the window, and one that was let through is
not let through again. -/
def IdealRdbx.verdict (d : IdealRdbx) (est : ℕ) : SrtpErrStatus :=
  if est + d.window ≤ d.highest then .replayOld
  else if est ∈ d.got then .replayFail
  else .ok

theorem IdealRdbx.verdict_eq_ok_iff {d : IdealRdbx} {est : ℕ} :
    d.verdict est = .ok ↔ d.highest < est + d.window ∧ est ∉ d.got := by
  rw [IdealRdbx.verdict]
  split
  · next hold => exact iff_of_false nofun fun h => absurd h.1 (by omega)
  split
  · next hmem => exact iff_of_false nofun fun h => h.2 hmem
  · next hnew hfresh => exact iff_of_true rfl ⟨by omega, hfresh⟩

/-- A packet comes in. -/
def IdealRdbx.packet (d : IdealRdbx) (est : ℕ) : IdealRdbx :=
  if d.verdict est = .ok then { d with highest := max d.highest est, got := est :: d.got } else d

/-- A number that is let through is new, also among those that are let through after it. -/
theorem IdealRdbx.nodup_cons {d : IdealRdbx} {est : ℕ} {later : List ℕ} (hok : d.verdict est = .ok)
    (hnodup : later.Nodup) (hfresh : ∀ n ∈ later, n ∉ (d.packet est).got) :
    (est :: later).Nodup ∧ ∀ n ∈ est :: later, n ∉ d.got := by
  rw [IdealRdbx.packet, if_pos hok] at hfresh
  refine ⟨List.nodup_cons.mpr ⟨fun hmem => hfresh est hmem List.mem_cons_self, hnodup⟩, ?_⟩
  intro n hn hgot
  rcases List.mem_cons.mp hn with rfl | hn'
  · exact (IdealRdbx.verdict_eq_ok_iff.mp hok).2 hgot
  · exact hfresh n hn' (List.mem_cons_of_mem est hgot)

/-- The answer of the ideal database to one packet, which is taken to have the nearest index. -/
def idealStep (d : IdealRdbx) (seq : UInt16) : (SrtpErrStatus × ℕ) × IdealRdbx :=
  let est := nearestIndex d.highest seq.toNat
  ((d.verdict est, est), d.packet est)

/-- The answers of the ideal database to a sequence of packets. -/
def idealAnswers : IdealRdbx → List UInt16 → List (SrtpErrStatus × ℕ) × IdealRdbx
  | d, [] => ([], d)
  | d, seq :: seqs =>
    let (answer, d) := idealStep d seq
    let (rest, d) := idealAnswers d seqs
    (answer :: rest, d)

@[simp] theorem idealAnswers_cons (d : IdealRdbx) (seq : UInt16) (seqs : List UInt16) :
    (idealAnswers d (seq :: seqs)).1 =
      (idealStep d seq).1 :: (idealAnswers (idealStep d seq).2 seqs).1 := rfl

/-- The window holds what the ideal database remembers. -/
structure Remembers (r : SrtpRdbx) (d : IdealRdbx) : Prop where
  pos : 0 < r.bitmask.length
  window : d.window = r.bitmask.length
  highest : d.highest = r.index
  holds : Holds r.index r.bitmask {i | i ∈ d.got}

theorem remembers_init {ws : ℕ} (hws : 0 < ws) :
    Remembers (srtpRdbxInit ws) { window := (ws + 31) / 32 * 32, highest := 0, got := [] } := by
  refine ⟨?_, ?_, rfl, ?_⟩
  · rw [srtpRdbxInit, List.length_replicate]
    omega
  · rw [srtpRdbxInit, List.length_replicate]
  · have hempty : {i | i ∈ ([] : List ℕ)} = ∅ := by
      ext i
      simp
    rw [hempty]
    exact holds_replicate _ _

/-! ### One packet -/

section Packet

variable {r : SrtpRdbx} {d : IdealRdbx} {est : ℕ} {delta : ℤ}

/-- `srtp_rdbx_check` gives the verdict of the ideal database. -/
theorem srtpRdbxCheck_spec (h : Remembers r d) (hsum : (est : ℤ) = r.index + delta) :
    srtpRdbxCheck r delta = d.verdict est := by
  have hpos := h.pos
  rw [srtpRdbxCheck, IdealRdbx.verdict, h.window, h.highest]
  by_cases hnew : delta > 0
  · -- above the highest index nothing was let through
    have hfresh : est ∉ d.got := fun hmem => absurd (h.holds.le est hmem) (by omega)
    rw [if_pos hnew, if_neg (by omega), if_neg hfresh]
  · rw [if_neg hnew]
    by_cases hold : est + r.bitmask.length ≤ r.index
    · rw [if_pos hold, if_pos (by omega)]
    · have hplace : ((r.bitmask.length : ℤ) - 1 + delta).toNat =
          r.bitmask.length - 1 - (r.index - est) := by omega
      have hbit := h.holds.bit est (by omega) (by omega)
      rw [if_neg hold, if_neg (by omega), hplace]
      exact if_congr hbit rfl rfl

/-- `srtp_rdbx_add_index` of an index that passed the check makes the window remember it. -/
theorem Remembers.addIndex (h : Remembers r d) (hsum : (est : ℤ) = r.index + delta)
    (hlast : r.index < 2 ^ 48 - 2 ^ 16) (hdelta : delta < 2 ^ 16) (hok : d.verdict est = .ok) :
    Remembers (srtpRdbxAddIndex r delta) (d.packet est) := by
  have hpos := h.pos
  have hwin : r.index < est + r.bitmask.length := by
    rw [← h.highest, ← h.window]
    exact (IdealRdbx.verdict_eq_ok_iff.mp hok).1
  have hseen : {i | i ∈ est :: d.got} = insert est {i | i ∈ d.got} := by
    ext i
    simp
  rw [IdealRdbx.packet, if_pos hok, srtpRdbxAddIndex]
  by_cases hnew : delta > 0
  · -- the window slides
    have hindex : (r.index + delta.toNat % 2 ^ 16) % 2 ^ 64 = est := by omega
    have hshift : delta.toNat = est - r.index := by omega
    have hlength : ((bitvectorLeftShift r.bitmask (est - r.index)).set (r.bitmask.length - 1)
        true).length = r.bitmask.length := by
      rw [List.length_set]
      exact length_slide _ _
    rw [if_pos hnew, hindex, hshift]
    refine ⟨hlength.symm ▸ hpos, h.window.trans hlength.symm, ?_, ?_⟩
    · show max d.highest est = est
      rw [h.highest]
      omega
    · have hlt : r.index < est := by omega
      rw [hseen]
      exact h.holds.advance hpos hlt
  · have hplace : ((r.bitmask.length : ℤ) - 1 + delta).toNat =
        r.bitmask.length - 1 - (r.index - est) := by omega
    rw [if_neg hnew, hplace]
    refine ⟨List.length_set.symm ▸ hpos, h.window.trans List.length_set.symm, ?_, ?_⟩
    · show max d.highest est = r.index
      rw [h.highest]
      omega
    · rw [hseen]
      exact h.holds.mark (by omega) (by omega)

end Packet

/-- **One packet**: the database gives the answer of the ideal one, and goes on remembering what the
ideal one remembers. -/
theorem rdbxStep_spec {r : SrtpRdbx} {d : IdealRdbx} (h : Remembers r d)
    (hlast : r.index < 2 ^ 48 - 2 ^ 16) (seq : UInt16) :
    (rdbxStep r (.packet seq)).1 = some (idealStep d seq).1 ∧
      Remembers (rdbxStep r (.packet seq)).2 (idealStep d seq).2 := by
  have hlt := nearestIndex_lt r.index (s := seq.toNat) seq.toNat_lt
  have hsum : (nearestIndex r.index seq.toNat : ℤ) =
      r.index + ((nearestIndex r.index seq.toNat : ℤ) - r.index) := by omega
  simp only [rdbxStep, idealStep, h.highest, srtpRdbxEstimateIndex_eq hlast seq.toNat_lt,
    srtpRdbxCheck_spec h hsum]
  refine ⟨trivial, ?_⟩
  by_cases hok : d.verdict (nearestIndex r.index seq.toNat) = .ok
  · rw [if_pos hok]
    exact h.addIndex hsum hlast (by omega) hok
  · rw [if_neg hok, IdealRdbx.packet, if_neg hok]
    exact h

/-! ### Runs -/

/-- The operations of a receiver or a sender: packets only. -/
def packets (seqs : List UInt16) : List RdbxOp := seqs.map .packet

/-- On bits the database answers as the ideal one, as long as the index is not in the last cycle. -/
theorem rdbxRun_ideal : ∀ (seqs : List UInt16) {r : SrtpRdbx} {d : IdealRdbx}, Remembers r d →
    (∀ pre, pre <+: seqs → (answers rdbxStep r (packets pre)).2.index < 2 ^ 48 - 2 ^ 16) →
    (answers rdbxStep r (packets seqs)).1 = (idealAnswers d seqs).1.map some := by
  intro seqs
  induction seqs with
  | nil => intro r d _ _; rfl
  | cons seq seqs ih =>
    intro r d h hlast
    obtain ⟨hanswer, hnext⟩ := rdbxStep_spec h (hlast [] (List.nil_prefix)) seq
    have hrest := ih hnext fun pre hpre => hlast (seq :: pre) (List.cons_prefix_cons.mpr ⟨rfl, hpre⟩)
    rw [packets, List.map_cons, answers_cons, hanswer, ← packets, hrest, idealAnswers_cons,
      List.map_cons]

/-- The indices that were let through, in order. -/
def letThrough (as : List (SrtpErrStatus × ℕ)) : List ℕ :=
  (as.filter fun a => a.1 = .ok).map Prod.snd

theorem letThrough_cons (status : SrtpErrStatus) (est : ℕ) (as : List (SrtpErrStatus × ℕ)) :
    letThrough ((status, est) :: as) =
      if status = .ok then est :: letThrough as else letThrough as := by
  rw [letThrough, List.filter_cons]
  by_cases hok : status = .ok
  · rw [if_pos hok, if_pos (decide_eq_true hok)]
    rfl
  · rw [if_neg hok, if_neg (by simpa using hok)]
    rfl

/-- The ideal database lets nothing through that it has let through before. -/
theorem nodup_letThrough : ∀ (seqs : List UInt16) (d : IdealRdbx),
    (letThrough (idealAnswers d seqs).1).Nodup ∧
      ∀ est ∈ letThrough (idealAnswers d seqs).1, est ∉ d.got := by
  intro seqs
  induction seqs with
  | nil => intro d; exact ⟨List.nodup_nil, fun _ h => absurd h List.not_mem_nil⟩
  | cons seq seqs ih =>
    intro d
    obtain ⟨est, hstep⟩ : ∃ est, idealStep d seq = ((d.verdict est, est), d.packet est) :=
      ⟨_, rfl⟩
    obtain ⟨hnodup, hfresh⟩ := ih (d.packet est)
    rw [idealAnswers_cons, hstep, letThrough_cons]
    by_cases hok : d.verdict est = .ok
    · rw [if_pos hok]
      exact IdealRdbx.nodup_cons hok hnodup hfresh
    · rw [IdealRdbx.packet, if_neg hok] at hnodup hfresh ⊢
      rw [if_neg hok]
      exact ⟨hnodup, hfresh⟩

/-- **The replay database is exact**: on words, with a window of the sizes that `srtp_stream_init`
accepts, for every sequence of sequence numbers, it answers as the database that forgets nothing, and
so lets no index through twice. -/
theorem replay_exact {ws : ℕ} {r : WordRdbx} (hws : ws < 0x8000)
    (hinit : WordRdbx.init ws = some r) (seqs : List UInt16)
    (hlast : ∀ pre, pre <+: seqs →
      (answers wordStep r (packets pre)).2.index < 2 ^ 48 - 2 ^ 16) :
    ∃ ideal : List (SrtpErrStatus × ℕ),
      ideal = (idealAnswers { window := (ws + 31) / 32 * 32, highest := 0, got := [] } seqs).1 ∧
      (answers wordStep r (packets seqs)).1 = ideal.map some ∧ (letThrough ideal).Nodup := by
  obtain ⟨hbits, hpos, hlt⟩ := WordRdbx.bits_init hinit
  have hint : r.bitmask.length ≤ 2 ^ 31 := by omega
  have hne : 0 < ws := by
    by_contra hzero
    rw [WordRdbx.init, Bitvector.alloc, if_pos (by omega)] at hinit
    cases hinit
  refine ⟨_, rfl, ?_, (nodup_letThrough seqs _).1⟩
  rw [(wordRun_bits (packets seqs) hpos hint).1, hbits]
  refine rdbxRun_ideal seqs (remembers_init hne) fun pre hpre => ?_
  have hend := (wordRun_bits (packets pre) hpos hint).2
  rw [hbits] at hend
  rw [← hend]
  exact hlast pre hpre

theorem replay_exact_reordered :
    ∃ r, WordRdbx.init 64 = some r ∧
      (answers wordStep r (packets [1, 3, 2, 3])).1 =
        [some (.ok, 1), some (.ok, 3), some (.ok, 2), some (.replayFail, 3)] := by
  have hinit : WordRdbx.init 64 =
      some { index := 0, bitmask := { length := 64, word := [0, 0], length_eq := rfl } } := rfl
  have hlast : ∀ pre ∈ [1, 3, 2, 3].inits, (answers wordStep
      { index := 0, bitmask := { length := 64, word := [0, 0], length_eq := rfl } }
      (packets pre)).2.index < 2 ^ 48 - 2 ^ 16 := by
    decide +kernel
  refine ⟨_, hinit, ?_⟩
  obtain ⟨ideal, hideal, hanswers, -⟩ := replay_exact (by decide) hinit [1, 3, 2, 3]
    fun pre hpre => hlast pre ((List.mem_inits pre _).mpr hpre)
  rw [hanswers, hideal]
  decide +kernel

end CameraDaemon
