import CameraDaemon.Http.Splitting

/-!
# What an earlier request leaves in the buffer

`handle_request` reads into an array on the stack and does not terminate it.  The length of the
request is then taken by `strlen`, from the bytes that were read, from what stood in the array before
and from the stack behind the array.  A request that ends the read early is continued by the rest of
an earlier one, and a zero inside the request cuts it off.

## Main definitions

* `StackRead` — the bytes of one `read`, and the memory they were written over.
* `StackRead.parsed` — the bytes that are given to the parser.
* `serveRead` — `handle_request` with the buffer as it is.

## Main results

* `parsed_eq_bytes_iff` — the bytes that were read are parsed exactly when no zero is among them, and
  they fill the buffer or a zero stood behind them.
* `parsed_residue_iff` — what is parsed does not depend on the residue exactly when a zero is among
  the bytes or they fill the buffer.
* `onlyReceived_iff` — both together.
* `residue_is_served` — `GET /`, after a request for live video, is one too.
-/

namespace CameraDaemon

open CString Cutting Memory

/-- One `read` into the buffer.  `strlen` returns, and its result is in the range of `int`: a zero
stands behind the buffer, if not in it. -/
structure StackRead where
  /-- The bytes that `read` has returned. -/
  bytes : List UInt8
  isChunk : IsChunk maxMsg bytes
  /-- The stack from the start of the buffer on, before the `read`. -/
  residue : ℕ → UInt8
  terminated : ∃ i, maxMsg ≤ i ∧ i < 2147483648 ∧ residue i = 0

namespace StackRead

/-- The stack from the start of the buffer on, after the `read`. -/
def mem (r : StackRead) : ℕ → UInt8 := store r.residue 0 r.bytes

theorem mem_of_le (r : StackRead) {i : ℕ} (h : r.bytes.length ≤ i) : r.mem i = r.residue i :=
  store_of_le r.residue (by omega)

theorem exists_zero_lt (r : StackRead) : ∃ i, i < 2147483648 ∧ r.mem i = 0 := by
  obtain ⟨i, hbuffer, hint, hzero⟩ := r.terminated
  refine ⟨i, hint, ?_⟩
  rw [r.mem_of_le (le_trans r.isChunk.2 hbuffer), hzero]

theorem exists_zero (r : StackRead) : ∃ i, r.mem i = 0 := by
  obtain ⟨i, -, hzero⟩ := r.exists_zero_lt
  exact ⟨i, hzero⟩

/-- `int len = strlen(buffer)`. -/
def len (r : StackRead) : ℤ := intOfSize (strlen r.mem r.exists_zero)

/-- The bytes that are given to the parser, `len>MAXMSG ? MAXMSG : len` of them. -/
def parsed (r : StackRead) : List UInt8 :=
  slice r.mem 0 (if r.len > maxMsg then maxMsg else r.len.toNat)

end StackRead

/-- `handle_request`, with the buffer as it is. -/
def serveRead (env : ServerEnv) (fd : ℕ) (r : StackRead) (d : Daemon) : Daemon :=
  handleRequest env fd r.parsed d

/-! ### How much is parsed -/

namespace StackRead

theorem strlen_lt (r : StackRead) : strlen r.mem r.exists_zero < 2147483648 := by
  obtain ⟨i, hint, hzero⟩ := r.exists_zero_lt
  exact lt_of_le_of_lt (Nat.find_min' r.exists_zero hzero) hint

/-- The bytes before the first zero are parsed, and no more than the buffer holds. -/
theorem parsed_eq (r : StackRead) :
    r.parsed = slice r.mem 0 (min (strlen r.mem r.exists_zero) maxMsg) := by
  have hlen : r.len = strlen r.mem r.exists_zero := intOfSize_of_lt r.strlen_lt
  have hbound : (if r.len > maxMsg then maxMsg else r.len.toNat) =
      min (strlen r.mem r.exists_zero) maxMsg := by
    rw [hlen]
    split
    · omega
    · omega
  rw [parsed, hbound]

/-- Up to the end of what was read, `strlen` only looks at that. -/
theorem le_strlen_iff (r : StackRead) {n : ℕ} (hn : n ≤ r.bytes.length) :
    n ≤ strlen r.mem r.exists_zero ↔ 0 ∉ r.bytes.take n := by
  have htake : r.bytes.take n = slice r.mem 0 n := (slice_store_take r.residue 0 hn).symm
  rw [strlen, Nat.le_find_iff, htake, slice]
  simp only [Nat.zero_add, List.mem_map, List.mem_range, not_exists, not_and]

/-- The parser is given as many bytes as were read exactly when it is given those. -/
theorem parsed_eq_bytes_iff_min (r : StackRead) :
    r.parsed = r.bytes ↔ min (strlen r.mem r.exists_zero) maxMsg = r.bytes.length := by
  rw [r.parsed_eq]
  constructor
  · intro h
    have hlen := congrArg List.length h
    rwa [length_slice] at hlen
  · intro h
    rw [h]
    exact slice_store r.residue 0 r.bytes

/-- **The bytes that were read are parsed exactly when** no zero is among them, and they fill the
buffer or a zero stood behind them. -/
theorem parsed_eq_bytes_iff (r : StackRead) :
    r.parsed = r.bytes ↔
      0 ∉ r.bytes ∧ (r.bytes.length = maxMsg ∨ r.residue r.bytes.length = 0) := by
  have hchunk : r.bytes.length ≤ maxMsg := r.isChunk.2
  have hall := r.le_strlen_iff (Nat.le_refl r.bytes.length)
  rw [List.take_length] at hall
  rw [r.parsed_eq_bytes_iff_min, ← hall]
  constructor
  · intro hmin
    have hle : r.bytes.length ≤ strlen r.mem r.exists_zero := by omega
    refine ⟨hle, ?_⟩
    by_cases hfull : r.bytes.length = maxMsg
    · exact Or.inl hfull
    · -- `strlen` has stopped right behind the bytes, at what stood there
      have hstop : strlen r.mem r.exists_zero = r.bytes.length := by omega
      have hzero : r.mem (strlen r.mem r.exists_zero) = 0 := Nat.find_spec r.exists_zero
      rw [hstop, r.mem_of_le (Nat.le_refl _)] at hzero
      exact Or.inr hzero
  · rintro ⟨hle, hfull | hzero⟩
    · omega
    · have hmem : r.mem r.bytes.length = 0 := by rw [r.mem_of_le (Nat.le_refl _), hzero]
      have hge : strlen r.mem r.exists_zero ≤ r.bytes.length := Nat.find_min' r.exists_zero hmem
      omega

/-! ### Two residues -/

/-- The bytes in a buffer whose rest is filled with `c`. -/
def filled (B : List UInt8) (h : IsChunk maxMsg B) (c : UInt8) : StackRead :=
  { bytes := B
    isChunk := h
    residue := fun i => if i < maxMsg then c else 0
    terminated := ⟨maxMsg, Nat.le_refl _, by decide, if_neg (Nat.lt_irrefl _)⟩ }

/-- With a zero among the bytes, or bytes that fill the buffer, the residue does not matter. -/
theorem parsed_congr {r r' : StackRead} (hbytes : r'.bytes = r.bytes)
    (h : 0 ∈ r.bytes ∨ r.bytes.length = maxMsg) : r'.parsed = r.parsed := by
  -- such a read is cut at its first zero, and at its end at the latest
  have hcut : ∀ q : StackRead, q.bytes = r.bytes →
      q.parsed = r.bytes.take (min (strlen q.mem q.exists_zero) r.bytes.length) := by
    intro q hq
    have hmin : min (strlen q.mem q.exists_zero) maxMsg =
        min (strlen q.mem q.exists_zero) q.bytes.length := by
      have hchunk : q.bytes.length ≤ maxMsg := q.isChunk.2
      rcases h with hzero | hfull
      · have hstop : ¬ q.bytes.length ≤ strlen q.mem q.exists_zero := by
          rw [q.le_strlen_iff (Nat.le_refl _), List.take_length, hq]
          exact not_not_intro hzero
        omega
      · rw [hq, hfull]
    rw [q.parsed_eq, hmin, ← hq]
    exact slice_store_take q.residue 0 (Nat.min_le_right _ _)
  have hsame : ∀ n ≤ r.bytes.length,
      (n ≤ strlen r'.mem r'.exists_zero ↔ n ≤ strlen r.mem r.exists_zero) := by
    intro n hn
    rw [r.le_strlen_iff hn, r'.le_strlen_iff (by rw [hbytes]; exact hn), hbytes]
  have hlen : min (strlen r'.mem r'.exists_zero) r.bytes.length =
      min (strlen r.mem r.exists_zero) r.bytes.length := by
    have h₁ := hsame (min (strlen r'.mem r'.exists_zero) r.bytes.length) (Nat.min_le_right _ _)
    have h₂ := hsame (min (strlen r.mem r.exists_zero) r.bytes.length) (Nat.min_le_right _ _)
    omega
  rw [hcut r' hbytes, hcut r rfl, hlen]

/-- **What is parsed does not depend on the residue exactly when** a zero is among the bytes or they
fill the buffer. -/
theorem parsed_residue_iff (r : StackRead) :
    (∀ r' : StackRead, r'.bytes = r.bytes → r'.parsed = r.parsed) ↔
      0 ∈ r.bytes ∨ r.bytes.length = maxMsg := by
  constructor
  · intro hsame
    by_contra hnot
    obtain ⟨hzero, hfull⟩ := not_or.mp hnot
    have hlt : r.bytes.length < maxMsg := lt_of_le_of_ne r.isChunk.2 hfull
    -- over zeros the bytes are parsed, over ones there are more
    have h₀ : (filled r.bytes r.isChunk 0).parsed = r.bytes :=
      (parsed_eq_bytes_iff (filled r.bytes r.isChunk 0)).mpr ⟨hzero, Or.inr (ite_self 0)⟩
    have h₁ : (filled r.bytes r.isChunk 1).parsed ≠ r.bytes := by
      intro heq
      rcases ((parsed_eq_bytes_iff (filled r.bytes r.isChunk 1)).mp heq).2 with hmax | hres
      · exact hfull hmax
      · have hone : (filled r.bytes r.isChunk 1).residue r.bytes.length = 1 := if_pos hlt
        exact absurd (hone.symm.trans hres) (by decide)
    apply h₁
    rw [hsame (filled r.bytes r.isChunk 1) rfl, ← hsame (filled r.bytes r.isChunk 0) rfl, h₀]
  · intro h r' hbytes
    exact parsed_congr hbytes h

end StackRead

/-- **Only the received bytes are parsed exactly when** no zero is among them, and they fill the
buffer or a zero stood behind them.  **Every residue gives the same bytes exactly when** a zero is
among them or they fill the buffer. -/
theorem onlyReceived_iff (r : StackRead) :
    (r.parsed = r.bytes ↔
      0 ∉ r.bytes ∧ (r.bytes.length = maxMsg ∨ r.residue r.bytes.length = 0)) ∧
    ((∀ r' : StackRead, r'.bytes = r.bytes → r'.parsed = r.parsed) ↔
      0 ∈ r.bytes ∨ r.bytes.length = maxMsg) :=
  ⟨r.parsed_eq_bytes_iff, r.parsed_residue_iff⟩

/-! ### A request that is served again -/

/-- `GET /` over a buffer that is zero. -/
def slashOverZeros : StackRead := StackRead.filled (ascii "GET /") (by decide) 0

/-- `GET /` over a request for live video. -/
def slashOverLive : StackRead :=
  { bytes := ascii "GET /"
    isChunk := by decide
    residue := fun i => liveRequest.getD i 0
    terminated := ⟨maxMsg, Nat.le_refl _, by decide, by decide⟩ }

/-- **The rest of an earlier request is parsed**: `GET /`, after a request for live video, is one
too, and a snapshot otherwise. -/
theorem residue_is_served :
    slashOverLive.bytes = slashOverZeros.bytes ∧
      slashOverLive.parsed = liveRequest ∧
      (serveRead sampleEnv 4 slashOverLive (daemonInit [])).calls = [.live 4] ∧
      (serveRead sampleEnv 4 slashOverZeros (daemonInit [])).calls = [.snapshot 4] := by
  have hlive : slashOverLive.parsed = liveRequest := by decide +kernel
  have hzeros : slashOverZeros.parsed = ascii "GET /" := by decide +kernel
  refine ⟨rfl, hlive, ?_, ?_⟩
  · rw [serveRead, hlive]
    decide +kernel
  · rw [serveRead, hzeros]
    decide +kernel

end CameraDaemon
