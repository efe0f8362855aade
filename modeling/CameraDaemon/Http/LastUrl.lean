import CameraDaemon.Http.Handlers
import CameraDaemon.Http.Messages

/-!
# The stored URL

`userdata.last_url` is one block for all connections.  `server_on_url` grows it when a URL does not
fit, and gives up, with the block as it was, when there is no memory; `server_on_body` judges a body
by the string that it finds there.

That string is the URL of the body's own message, whatever other connections have sent before: the
parser of a read is fresh, it reports the URL of a message in the same call as its bodies, and a
`server_on_url` that fails ends the call.

## Main definitions

* `afterEvents` — the daemon in which the next callback of a call is made.
* `serveReads` — reads of any connections, one after another.
* `Daemon.UrlFits` — the block has the recorded size and holds a terminator.
* `LastUrlRight` — what `last_url` is at every callback of a read, and behind it.

## Main results

* `runEvents_append` — a call goes on from `afterEvents`, or has ended before.
* `Daemon.UrlFits.serverOnUrl`, `Daemon.UrlFits.serverOnBody`, `urlFits_serveReads` — the block
  stays so.
* `afterEvents_body` — at a body the block starts with the URL that was reported last.
* `lastUrl_right` — **a body is judged by its own URL, and the URL fits its block.**
-/

namespace CameraDaemon

open CString FdTable

/-! ### The daemon between two callbacks -/

/-- The daemon behind these callbacks of a call, in which the next one is made; `none` when one of
them has ended the call or the process. -/
def afterEvents (env : ServerEnv) (fd : ℕ) : List ParserEvent → Daemon → Option Daemon
  | [], d => some d
  | .url method data :: rest, d =>
    let (ok, d) := serverOnUrl env fd method data d
    if ok then afterEvents env fd rest d else none
  | .body method data :: rest, d =>
    let d := serverOnBody env fd method data d
    if d.dead.isSome then none
    else if env.bodyReturnsZero method data then afterEvents env fd rest d
    else none

/-- Reads of any connections, one after another. -/
def serveReads (env : ServerEnv) (reads : List (ℕ × List UInt8)) (d : Daemon) : Daemon :=
  reads.foldl (fun d r => handleRequest env r.1 r.2 d) d

section Events

variable {env : ServerEnv} {fd : ℕ}

/-- **A call goes on from where its callbacks have led**, unless one of them has ended it. -/
theorem runEvents_append (post : List ParserEvent) : ∀ (pre : List ParserEvent) (d : Daemon),
    runEvents env fd (pre ++ post) d =
      match afterEvents env fd pre d with
      | some d' => runEvents env fd post d'
      | none => runEvents env fd pre d := by
  intro pre
  induction pre with
  | nil => exact fun d => rfl
  | cons e pre ih =>
    intro d
    cases e with
    | url method data =>
      simp only [List.cons_append, runEvents, afterEvents]
      split
      · exact ih _
      · rfl
    | body method data =>
      simp only [List.cons_append, runEvents, afterEvents]
      split
      · rfl
      split
      · exact ih _
      · rfl

theorem afterEvents_append (post : List ParserEvent) : ∀ (pre : List ParserEvent) (d : Daemon),
    afterEvents env fd (pre ++ post) d =
      (afterEvents env fd pre d).bind (afterEvents env fd post) := by
  intro pre
  induction pre with
  | nil => exact fun d => rfl
  | cons e pre ih =>
    intro d
    cases e with
    | url method data =>
      simp only [List.cons_append, afterEvents]
      split
      · exact ih _
      · rfl
    | body method data =>
      simp only [List.cons_append, afterEvents]
      split
      · rfl
      split
      · exact ih _
      · rfl

/-- **The rule for the callbacks of a call**: what both handlers keep holds before each callback and
at the end. -/
theorem afterEvents_rule {I : Daemon → Prop}
    (hurl : ∀ method data d, I d → I (serverOnUrl env fd method data d).2)
    (hbody : ∀ method data d, I d → I (serverOnBody env fd method data d)) :
    ∀ (events : List ParserEvent) (d : Daemon), I d →
      I (runEvents env fd events d) ∧ ∀ d', afterEvents env fd events d = some d' → I d' := by
  have hended : ∀ d', (none : Option Daemon) = some d' → I d' := by
    intro d' h
    cases h
  intro events
  induction events with
  | nil =>
    intro d h
    refine ⟨h, ?_⟩
    rintro _ ⟨⟩
    exact h
  | cons e events ih =>
    intro d h
    cases e with
    | url method data =>
      have hnext := hurl method data d h
      simp only [runEvents, afterEvents]
      split
      · exact ih _ hnext
      · exact ⟨hnext, hended⟩
    | body method data =>
      have hnext := hbody method data d h
      simp only [runEvents, afterEvents]
      split
      · exact ⟨hnext, hended⟩
      split
      · exact ih _ hnext
      · exact ⟨hnext, hended⟩

end Events

/-! ### The block -/

/-- The block behind `last_url` has the recorded size and holds a terminator. -/
structure Daemon.UrlFits (d : Daemon) : Prop where
  length : d.lastUrl.length = d.lastUrlSize
  terminated : 0 ∈ d.lastUrl

theorem urlFits_init (os : FdTable OsObject) : (daemonInit os).UrlFits := by
  refine ⟨rfl, ?_⟩
  show (0 : UInt8) ∈ List.replicate 16 0
  decide

section Block

variable {env : ServerEnv} {d d' : Daemon}

/-- `strlen(last_url) < last_url_size`. -/
theorem Daemon.UrlFits.strlen_lt (h : d.UrlFits) : (cString d.lastUrl).length < d.lastUrlSize :=
  h.length ▸ length_cString_lt h.terminated

/-- The places that `server_on_url` writes for a URL: those of the `memcpy`, and the terminator. -/
def urlWrites (url : List UInt8) : List ℕ := List.range url.length ++ [url.length]

theorem lt_of_mem_urlWrites {url : List UInt8} {i : ℕ} (h : i ∈ urlWrites url) :
    i < url.length + 1 := by
  rcases List.mem_append.mp h with hcopy | hlast
  · exact Nat.lt_succ_of_lt (List.mem_range.mp hcopy)
  · rw [List.mem_singleton.mp hlast]
    exact Nat.lt_succ_self _

/-- **A URL that is stored fits the block**, which holds it and a terminator behind it. -/
theorem storeUrl_spec {url : List UInt8} (h : d.UrlFits) (hs : storeUrl env url d = some d') :
    d'.UrlFits ∧ url.length < d'.lastUrlSize ∧ ∃ rest, d'.lastUrl = url ++ 0 :: rest := by
  rw [storeUrl] at hs
  split at hs
  · split at hs
    · cases hs
      refine ⟨⟨?_, ?_⟩, Nat.lt_succ_self _, [], rfl⟩
      · exact List.length_append
      · exact List.mem_append_right _ List.mem_cons_self
    · cases hs
  · next hroom =>
    cases hs
    have hlt : url.length < d.lastUrlSize := Nat.not_le.mp hroom
    refine ⟨⟨?_, ?_⟩, hlt, _, rfl⟩
    · show (url ++ 0 :: d.lastUrl.drop (url.length + 1)).length = d.lastUrlSize
      rw [List.length_append, List.length_cons, List.length_drop, h.length]
      omega
    · exact List.mem_append_right _ List.mem_cons_self

/-- The block after `server_on_url`: the URL, or what it held. -/
theorem serverOnUrl_block (env : ServerEnv) (fd : ℕ) (method : HttpMethod) (url : List UInt8)
    (d : Daemon) :
    ((serverOnUrl env fd method url d).1 = false ∧
        (serverOnUrl env fd method url d).2.lastUrl = d.lastUrl ∧
        (serverOnUrl env fd method url d).2.lastUrlSize = d.lastUrlSize) ∨
      ∃ d', storeUrl env url d = some d' ∧
        (serverOnUrl env fd method url d).2.lastUrl = d'.lastUrl ∧
        (serverOnUrl env fd method url d).2.lastUrlSize = d'.lastUrlSize := by
  rw [serverOnUrl]
  split
  · exact Or.inl ⟨rfl, rfl, rfl⟩
  · next d' hstore =>
    refine Or.inr ⟨d', hstore, ?_⟩
    split
    · exact (getAction_keeps fd url d').2
    · exact ⟨rfl, rfl⟩

theorem Daemon.UrlFits.congr (h : d.UrlFits) (hurl : d'.lastUrl = d.lastUrl)
    (hsize : d'.lastUrlSize = d.lastUrlSize) : d'.UrlFits :=
  ⟨by rw [hurl, hsize, h.length], by rw [hurl]; exact h.terminated⟩

theorem Daemon.UrlFits.serverOnUrl (h : d.UrlFits) (fd : ℕ) (method : HttpMethod)
    (url : List UInt8) : (CameraDaemon.serverOnUrl env fd method url d).2.UrlFits := by
  rcases serverOnUrl_block env fd method url d with ⟨-, hurl, hsize⟩ | ⟨d', hstore, hurl, hsize⟩
  · exact h.congr hurl hsize
  · exact (storeUrl_spec h hstore).1.congr hurl hsize

/-- `server_on_body` leaves the block alone. -/
theorem serverOnBody_block (env : ServerEnv) (fd : ℕ) (method : HttpMethod) (data : List UInt8)
    (d : Daemon) :
    (serverOnBody env fd method data d).lastUrl = d.lastUrl ∧
      (serverOnBody env fd method data d).lastUrlSize = d.lastUrlSize := by
  rw [serverOnBody]
  split
  · split
    · simp only []
      split
      · exact ⟨rfl, rfl⟩
      · next args hargs =>
        have hkeeps := startSession_keeps env args
          { d with calls := .srtpCastTo fd data :: d.calls }
        exact ⟨hkeeps.lastUrl, hkeeps.lastUrlSize⟩
    · exact ⟨rfl, rfl⟩
  · exact ⟨rfl, rfl⟩

theorem Daemon.UrlFits.serverOnBody (h : d.UrlFits) (fd : ℕ) (method : HttpMethod)
    (data : List UInt8) : (CameraDaemon.serverOnBody env fd method data d).UrlFits := by
  obtain ⟨hurl, hsize⟩ := serverOnBody_block env fd method data d
  exact h.congr hurl hsize

/-- The block fits before each callback of a call, and at its end. -/
theorem Daemon.UrlFits.events (h : d.UrlFits) (fd : ℕ) (events : List ParserEvent) :
    (runEvents env fd events d).UrlFits ∧
      ∀ d', afterEvents env fd events d = some d' → d'.UrlFits :=
  afterEvents_rule (I := Daemon.UrlFits)
    (fun method data _ hd => hd.serverOnUrl fd method data)
    (fun method data _ hd => hd.serverOnBody fd method data) events d h

theorem Daemon.UrlFits.handleRequest (h : d.UrlFits) (fd : ℕ) (data : List UInt8) :
    (CameraDaemon.handleRequest env fd data d).UrlFits := by
  rw [CameraDaemon.handleRequest]
  split
  · exact h
  · exact (h.events fd _).1

/-- **The block fits in every reachable state.** -/
theorem urlFits_serveReads (env : ServerEnv) : ∀ (reads : List (ℕ × List UInt8)) (d : Daemon),
    d.UrlFits → (serveReads env reads d).UrlFits := by
  intro reads
  induction reads with
  | nil => exact fun d h => h
  | cons r reads ih => exact fun d h => ih _ (h.handleRequest r.1 r.2)

end Block

/-! ### Bodies -/

section Bodies

variable {env : ServerEnv} {fd : ℕ}

/-- Bodies leave the block alone. -/
theorem afterEvents_bodies : ∀ (events : List ParserEvent) (d d' : Daemon),
    (∀ e ∈ events, e.isUrl = false) → afterEvents env fd events d = some d' →
      d'.lastUrl = d.lastUrl := by
  intro events
  induction events with
  | nil =>
    rintro d _ _ ⟨⟩
    rfl
  | cons e events ih =>
    intro d d' hbodies h
    obtain ⟨he, hrest⟩ := List.forall_mem_cons.mp hbodies
    cases e with
    | url method data => cases he
    | body method data =>
      simp only [afterEvents] at h
      split at h
      · cases h
      split at h
      · rw [ih _ d' hrest h, (serverOnBody_block env fd method data d).1]
      · cases h

/-- **Behind a URL and bodies the block starts with that URL.** -/
theorem afterEvents_body {before between : List ParserEvent} {method : HttpMethod}
    {url : List UInt8} {d d' : Daemon} (hbetween : ∀ e ∈ between, e.isUrl = false)
    (hfits : d.UrlFits)
    (h : afterEvents env fd (before ++ .url method url :: between) d = some d') :
    ∃ rest, d'.lastUrl = url ++ 0 :: rest := by
  rw [afterEvents_append, Option.bind_eq_some_iff] at h
  obtain ⟨d₁, hd₁, h⟩ := h
  have hfits₁ := (hfits.events fd before).2 d₁ hd₁
  simp only [afterEvents] at h
  split at h
  · next hok =>
    rw [afterEvents_bodies between _ d' hbetween h]
    rcases serverOnUrl_block env fd method url d₁ with ⟨hfail, -⟩ | ⟨d₂, hstore, hurl, -⟩
    · rw [hfail] at hok
      cases hok
    · rw [hurl]
      exact (storeUrl_spec hfits₁ hstore).2.2
  · cases h

end Bodies

/-- What `last_url` is in a read: before each callback and at the end the string is shorter than the
recorded size; what `server_on_url` writes stands below it; and when `server_on_body` runs, the block
holds the terminated URL of the message that the body belongs to, the only one that it has. -/
structure LastUrlRight (env : ServerEnv) (fd : ℕ) (data : List UInt8) (d : Daemon) : Prop where
  fits : ∀ pre post d', httpParserExecute data = pre ++ post →
    afterEvents env fd pre d = some d' → (cString d'.lastUrl).length < d'.lastUrlSize
  fits_end : (cString (handleRequest env fd data d).lastUrl).length <
    (handleRequest env fd data d).lastUrlSize
  writes : ∀ pre method url post d' d'', httpParserExecute data = pre ++ .url method url :: post →
    afterEvents env fd pre d = some d' → storeUrl env url d' = some d'' →
      d''.lastUrl.length = d''.lastUrlSize ∧ ∀ i ∈ urlWrites url, i < d''.lastUrlSize
  own : ∀ pre n method body post d',
    httpParserMessages data = pre ++ (n, .body method body) :: post →
    afterEvents env fd (pre.map Prod.snd) d = some d' →
      ∃ url, (n, .url method url) ∈ pre ∧
        (∀ method' url', (n, .url method' url') ∈ httpParserMessages data → url' = url) ∧
        (∃ rest, d'.lastUrl = url ++ 0 :: rest) ∧ cString d'.lastUrl = url

/-- **A body is judged by its own URL, and the URL fits its block**, whatever the connections have
sent before, however the messages are cut and pipelined, and whichever calls of `realloc` fail. -/
theorem lastUrl_right (env : ServerEnv) (os : FdTable OsObject) (reads : List (ℕ × List UInt8))
    (fd : ℕ) (data : List UInt8) :
    LastUrlRight env fd data (serveReads env reads (daemonInit os)) := by
  have hfits := urlFits_serveReads env reads _ (urlFits_init os)
  refine ⟨?_, ?_, ?_, ?_⟩
  · intro pre post d' _ hd'
    exact ((hfits.events fd pre).2 d' hd').strlen_lt
  · exact (hfits.handleRequest fd data).strlen_lt
  · intro pre method url post d' d'' _ hd' hstore
    obtain ⟨hfits'', hlt, -⟩ := storeUrl_spec ((hfits.events fd pre).2 d' hd') hstore
    exact ⟨hfits''.length, fun i hi => Nat.lt_of_lt_of_le (lt_of_mem_urlWrites hi) hlt⟩
  · intro pre n method body post d' hsplit hd'
    obtain ⟨url, before, between, rfl, hbetween, hnonzero, hunique⟩ :=
      httpParserMessages_body hsplit
    rw [List.map_append, List.map_cons] at hd'
    obtain ⟨rest, hrest⟩ := afterEvents_body (List.forall_mem_map.mpr hbetween) hfits hd'
    refine ⟨url, List.mem_append_right _ List.mem_cons_self, hunique, ⟨rest, hrest⟩, ?_⟩
    rw [hrest, cString_append_zero, cString_of_nonzero hnonzero]

-- the second body of a read, behind a URL that another connection has sent before
example : (afterEvents sampleEnv 4
      ((httpParserMessages (ascii "POST /a HTTP/1.1\r\nContent-Length: 1\r\n\r\nxPOST /bc HTTP/1.1\r\n"
        ++ ascii "Content-Length: 1\r\n\r\ny")).take 3 |>.map Prod.snd)
      (serveReads sampleEnv [(5, ascii "GET /other")] (daemonInit []))).map
        (fun d => cString d.lastUrl) = some (ascii "/bc") := by
  decide +kernel

end CameraDaemon
