import CameraDaemon.Http.Handlers
import CameraDaemon.Http.Order
import CameraDaemon.Lib.Cutting

/-!
# Requests in several reads

`handle_request` runs a fresh parser over what one `read` has returned, so nothing but `last_url`
survives from one read of a request to the next, and that is never looked at: a parser reports a
body only after a URL that it has reported itself (`httpParserExecute_head`).  A first chunk that
ends inside the URL has its part of the URL taken for the whole, and the rest of the request is no
request any more; a body in a read of its own is not reported at all.

A chunk of one byte never shows.  So the ways of cutting a request can only agree on doing nothing,
and they do so when no part of the request that fits a read makes a handler run.

## Main definitions

* `SessionState`, `Daemon.session` — what a request leaves behind for others to see.
* `serveChunks` — the reads of a request.
* `runsHandler` — do the callbacks of a parser make a handler run?
* `Daemon.SameButUrl` — two daemons that differ in the stored URL only.

## Main results

* `handleRequest_same` — the URL that earlier reads have stored does not matter.
* `runEvents_quiet`, `runEvents_called` — what `runsHandler` says about a read.
* `agree_iff_quiet` — **all ways of cutting a request have the same effect exactly when no part of
  it that fits a read makes a handler run.**
* `live_cut_differs` — `GET /live`, cut behind the first slash, is served a snapshot.
-/

namespace CameraDaemon

open CString Cutting

/-- What a request leaves behind: the handlers that ran, with the bodies they were given, and the
variables of the sessions. -/
structure SessionState where
  calls : List HandlerCall
  clientFd : ℕ
  haveActiveClient : Bool
  haveActiveSrtpReceiver : Bool
  deriving DecidableEq, Repr

def Daemon.session (d : Daemon) : SessionState :=
  { calls := d.calls
    clientFd := d.clientFd
    haveActiveClient := d.haveActiveClient
    haveActiveSrtpReceiver := d.haveActiveSrtpReceiver }

/-- `MAXMSG`. -/
def maxMsg : ℕ := 512

/-- `handle_request` for each chunk that `read` returns. -/
def serveChunks (env : ServerEnv) (fd : ℕ) (chunks : List (List UInt8)) (d : Daemon) : Daemon :=
  chunks.foldl (fun d data => handleRequest env fd data d) d

/-- The same surroundings, with other outcomes of `realloc`. -/
def ServerEnv.withMemory (env : ServerEnv) (reallocOk : ℕ → Bool) : ServerEnv :=
  { env with reallocOk := reallocOk }

/-- Is the URL of a GET request taken for one that is served? -/
def servesUrl (data : List UInt8) : Bool :=
  strncmpEq data (ascii "/snapshot") || strncmpEq data (ascii "/live") ||
    strncmpEq data (ascii "/stop_srtp")

/-- Is there a callback that makes a handler run, the URL of a GET request that is served or the body
of a POST request?  The parser stops at a body for which it does not see zero. -/
def runsHandler (returnsZero : HttpMethod → List UInt8 → Bool) : List ParserEvent → Bool
  | [] => false
  | .url method data :: rest =>
    (decide (method = .get) && servesUrl data) || runsHandler returnsZero rest
  | .body method data :: rest =>
    decide (method = .post) || (returnsZero method data && runsHandler returnsZero rest)

/-! ### The stored URL -/

/-- The daemon with another block behind `last_url`. -/
def Daemon.withUrl (d : Daemon) (url : List UInt8) (size reallocs : ℕ) : Daemon :=
  { d with lastUrl := url, lastUrlSize := size, reallocs := reallocs }

/-- The daemons differ in the stored URL only. -/
def Daemon.SameButUrl (d d' : Daemon) : Prop := ∃ url size n, d' = d.withUrl url size n

theorem Daemon.SameButUrl.refl (d : Daemon) : d.SameButUrl d := ⟨_, _, _, rfl⟩

theorem Daemon.SameButUrl.trans {d e f : Daemon} (h : d.SameButUrl e) (h' : e.SameButUrl f) :
    d.SameButUrl f := by
  obtain ⟨_, _, _, rfl⟩ := h
  obtain ⟨_, _, _, rfl⟩ := h'
  exact ⟨_, _, _, rfl⟩

theorem Daemon.SameButUrl.session_eq {d d' : Daemon} (h : d.SameButUrl d') :
    d'.session = d.session := by
  obtain ⟨_, _, _, rfl⟩ := h
  rfl

/-- The daemons differ in the stored URL only, and the string in it is the same. -/
def Daemon.SameString (d d' : Daemon) : Prop :=
  ∃ url size n, d' = d.withUrl url size n ∧ cString url = cString d.lastUrl

theorem Daemon.SameString.same {d d' : Daemon} (h : d.SameString d') : d.SameButUrl d' := by
  obtain ⟨url, size, n, rfl, -⟩ := h
  exact ⟨url, size, n, rfl⟩

/-! ### The handlers -/

section Handlers

variable (env : ServerEnv) (fd : ℕ) (method : HttpMethod) (data : List UInt8) (d : Daemon)

/-- The URL is stored, or there is no memory for it. -/
theorem storeUrl_cases :
    (storeUrl env data d = none ∧ env.reallocOk d.reallocs = false) ∨
      ∃ url size n, storeUrl env data d = some (d.withUrl url size n) ∧
        cString url = cString data := by
  rw [storeUrl]
  split
  · cases hmem : env.reallocOk d.reallocs with
    | true => exact Or.inr ⟨_, _, _, rfl, cString_append_zero data []⟩
    | false => exact Or.inl ⟨rfl, rfl⟩
  · exact Or.inr ⟨_, _, _, rfl, cString_append_zero data _⟩

theorem getAction_withUrl (url : List UInt8) (size n : ℕ) :
    getAction fd data (d.withUrl url size n) = (getAction fd data d).withUrl url size n := by
  rw [getAction, getAction]
  split
  · rfl
  split
  · rfl
  split
  · rfl
  · rfl

/-- What `server_on_url` does once the URL is stored. -/
def urlAction (fd : ℕ) (method : HttpMethod) (data : List UInt8) (d : Daemon) : Daemon :=
  if method = .get then getAction fd data d else d

/-- `server_on_url` fails and keeps the daemon, or stores the URL and acts on it. -/
theorem serverOnUrl_cases :
    (∃ n, serverOnUrl env fd method data d = (false, d.withUrl d.lastUrl d.lastUrlSize n) ∧
        env.reallocOk d.reallocs = false) ∨
      ∃ url size n, serverOnUrl env fd method data d =
        (true, (urlAction fd method data d).withUrl url size n) ∧ cString url = cString data := by
  rcases storeUrl_cases env data d with ⟨hstore, hmem⟩ | ⟨url, size, n, hstore, hurl⟩
  · refine Or.inl ⟨d.reallocs + 1, ?_, hmem⟩
    simp only [serverOnUrl, hstore]
    rfl
  · refine Or.inr ⟨url, size, n, ?_, hurl⟩
    simp only [serverOnUrl, hstore, getAction_withUrl, urlAction]
    split
    · rfl
    · rfl

theorem serverOnUrl_of_memory {env : ServerEnv} (hmem : ∀ n, env.reallocOk n = true) :
    ∃ url size n, serverOnUrl env fd method data d =
      (true, (urlAction fd method data d).withUrl url size n) ∧ cString url = cString data := by
  rcases serverOnUrl_cases env fd method data d with ⟨n, -, hfail⟩ | h
  · rw [hmem] at hfail
    cases hfail
  · exact h

/-- A URL that is not served does nothing. -/
theorem urlAction_quiet (h : (decide (method = .get) && servesUrl data) = false) :
    urlAction fd method data d = d := by
  rw [urlAction]
  split
  · next hget =>
    simp only [hget, decide_true, Bool.true_and, servesUrl, Bool.or_eq_false_iff] at h
    simp only [getAction, h, Bool.false_eq_true, if_false]
  · rfl

theorem urlAction_calls_le : d.calls.length ≤ (urlAction fd method data d).calls.length := by
  rw [urlAction, getAction]
  split
  · split
    · exact Nat.le_succ _
    split
    · exact Nat.le_succ _
    split
    · exact Nat.le_succ _
    · exact Nat.le_refl _
  · exact Nat.le_refl _

/-- A URL that is served is one more call. -/
theorem urlAction_called (h : (decide (method = .get) && servesUrl data) = true) :
    d.calls.length < (urlAction fd method data d).calls.length := by
  rw [Bool.and_eq_true, decide_eq_true_eq, servesUrl, Bool.or_eq_true, Bool.or_eq_true] at h
  rw [urlAction, if_pos h.1, getAction]
  split
  · exact Nat.lt_succ_self _
  split
  · exact Nat.lt_succ_self _
  split
  · exact Nat.lt_succ_self _
  · next hsnap hlive hstop => exact absurd h.2 (by simp [hsnap, hlive, hstop])

theorem serverOnBody_lastUrl : (serverOnBody env fd method data d).lastUrl = d.lastUrl := by
  rw [serverOnBody]
  split
  · split
    · cases readConfig env (env.cJSONParse data) with
      | error f => rfl
      | ok args => exact (startSession_keeps env args _).lastUrl
    · rfl
  · rfl

/-- The body of a POST request is one more call. -/
theorem serverOnBody_called (hpost : method = .post) :
    d.calls.length < (serverOnBody env fd method data d).calls.length := by
  rw [serverOnBody, if_pos hpost]
  split
  · cases readConfig env (env.cJSONParse data) with
    | error f => exact Nat.lt_succ_self _
    | ok args =>
      simp only [(startSession_keeps env args _).calls]
      exact Nat.lt_succ_self _
  · exact Nat.lt_succ_self _

/-- Any other body does nothing. -/
theorem serverOnBody_quiet (hpost : method ≠ .post) : serverOnBody env fd method data d = d := by
  rw [serverOnBody, if_neg hpost]

theorem startSession_withUrl (args : CastArgs) (url : List UInt8) (size n : ℕ) :
    startSession env args (d.withUrl url size n) = (startSession env args d).withUrl url size n := by
  show activate env (d.withUrl url size n) (prepareSrtpSender env.system args d.world) =
    (activate env d (prepareSrtpSender env.system args d.world)).withUrl url size n
  cases prepareSrtpSender env.system args d.world with
  | error e => rfl
  | ok w =>
    simp only [activate, apply_ite (Daemon.withUrl · url size n)]
    rfl

/-- Of the stored URL a body looks at the string only. -/
theorem serverOnBody_withUrl {url : List UInt8} (hurl : cString url = cString d.lastUrl)
    (size n : ℕ) :
    serverOnBody env fd method data (d.withUrl url size n) =
      (serverOnBody env fd method data d).withUrl url size n := by
  have hurl' : cString (d.withUrl url size n).lastUrl = cString d.lastUrl := hurl
  rw [serverOnBody, serverOnBody, hurl']
  split
  · split
    · cases readConfig env (env.cJSONParse data) with
      | error f => rfl
      | ok args => exact startSession_withUrl env { d with calls := _ :: d.calls } args url size n
    · rfl
  · rfl

end Handlers

/-! ### What earlier reads have stored -/

section Stored

variable {env : ServerEnv} (hmem : ∀ n, env.reallocOk n = true) (fd : ℕ)
include hmem

/-- Daemons that differ in the stored URL only have stored the same string after `on_url`. -/
theorem serverOnUrl_same (method : HttpMethod) (data : List UInt8) {d d' : Daemon}
    (h : d.SameButUrl d') :
    ∃ e e', serverOnUrl env fd method data d = (true, e) ∧
      serverOnUrl env fd method data d' = (true, e') ∧ e.SameString e' := by
  obtain ⟨url₀, size₀, n₀, rfl⟩ := h
  obtain ⟨url, size, n, heq, hurl⟩ := serverOnUrl_of_memory fd method data d hmem
  obtain ⟨url', size', n', heq', hurl'⟩ :=
    serverOnUrl_of_memory fd method data (d.withUrl url₀ size₀ n₀) hmem
  refine ⟨_, _, heq, heq', url', size', n', ?_, hurl'.trans hurl.symm⟩
  rw [urlAction, urlAction]
  split
  · rw [getAction_withUrl]
    rfl
  · rfl

/-- Two daemons that have stored the same string go the same way. -/
theorem runEvents_sameString : ∀ (events : List ParserEvent) (d d' : Daemon), d.SameString d' →
    (runEvents env fd events d).SameButUrl (runEvents env fd events d') := by
  intro events
  induction events with
  | nil => exact fun d d' h => h.same
  | cons event rest ih =>
    intro d d' h
    cases event with
    | url method data =>
      obtain ⟨e, e', he, he', hsame⟩ := serverOnUrl_same hmem fd method data h.same
      simp only [runEvents, he, he', if_true]
      exact ih e e' hsame
    | body method data =>
      -- the string decides, and a body leaves it as it is
      obtain ⟨url, size, n, rfl, hurl⟩ := h
      have hkept : cString url = cString (serverOnBody env fd method data d).lastUrl := by
        rw [serverOnBody_lastUrl, hurl]
      simp only [runEvents, serverOnBody_withUrl env fd method data d hurl size n]
      generalize serverOnBody env fd method data d = e at hkept
      have hsame : e.SameString (e.withUrl url size n) := ⟨url, size, n, rfl, hkept⟩
      have hdead : (e.withUrl url size n).dead = e.dead := rfl
      rw [hdead]
      split
      · exact hsame.same
      split
      · exact ih e _ hsame
      · exact hsame.same

/-- **The URL that earlier reads have stored does not matter**: what a parser reports begins with a
URL. -/
theorem handleRequest_same (data : List UInt8) {d d' : Daemon} (h : d.SameButUrl d') :
    (handleRequest env fd data d).SameButUrl (handleRequest env fd data d') := by
  have hdead : d'.dead = d.dead := by
    obtain ⟨_, _, _, rfl⟩ := h
    rfl
  rw [handleRequest, handleRequest, hdead]
  split
  · exact h
  · have hhead := httpParserExecute_head data
    cases hevents : httpParserExecute data with
    | nil => exact h
    | cons event rest =>
      rw [hevents] at hhead
      cases event with
      | url method bytes =>
        obtain ⟨e, e', he, he', hsame⟩ := serverOnUrl_same hmem fd method bytes h
        simp only [runEvents, he, he', if_true]
        exact runEvents_sameString hmem fd rest e e' hsame
      | body method bytes => cases hhead _ rfl

end Stored

/-! ### The callbacks of one read -/

section Read

variable (env : ServerEnv) (fd : ℕ)

/-- **A read that makes no handler run changes the stored URL only**, whatever memory is left. -/
theorem runEvents_quiet : ∀ (events : List ParserEvent) (d : Daemon),
    runsHandler env.bodyReturnsZero events = false → d.SameButUrl (runEvents env fd events d) := by
  intro events
  induction events with
  | nil => exact fun d _ => .refl d
  | cons event rest ih =>
    intro d h
    cases event with
    | url method data =>
      rw [runsHandler, Bool.or_eq_false_iff] at h
      rcases serverOnUrl_cases env fd method data d with ⟨n, heq, -⟩ | ⟨url, size, n, heq, -⟩
      · -- no memory: the parser stops here
        simp only [runEvents, heq, Bool.false_eq_true, if_false]
        exact ⟨_, _, _, rfl⟩
      · simp only [runEvents, heq, if_true, urlAction_quiet fd method data d h.1]
        exact Daemon.SameButUrl.trans ⟨_, _, _, rfl⟩ (ih _ h.2)
    | body method data =>
      rw [runsHandler, Bool.or_eq_false_iff, decide_eq_false_iff_not] at h
      simp only [runEvents, serverOnBody_quiet env fd method data d h.1]
      split
      · exact .refl d
      split
      · next hzero =>
        rw [hzero, Bool.true_and] at h
        exact ih d h.2
      · exact .refl d

theorem runEvents_calls_le : ∀ (events : List ParserEvent) (d : Daemon),
    d.calls.length ≤ (runEvents env fd events d).calls.length := by
  intro events
  induction events with
  | nil => exact fun d => Nat.le_refl _
  | cons event rest ih =>
    intro d
    cases event with
    | url method data =>
      rcases serverOnUrl_cases env fd method data d with ⟨n, heq, -⟩ | ⟨url, size, n, heq, -⟩
      · simp only [runEvents, heq, Bool.false_eq_true, if_false]
        exact Nat.le_refl _
      · simp only [runEvents, heq, if_true]
        exact (urlAction_calls_le fd method data d).trans
          (ih ((urlAction fd method data d).withUrl url size n))
    | body method data =>
      have hbody : d.calls.length ≤ (serverOnBody env fd method data d).calls.length := by
        by_cases hpost : method = .post
        · exact Nat.le_of_lt (serverOnBody_called env fd method data d hpost)
        · rw [serverOnBody_quiet env fd method data d hpost]
      simp only [runEvents]
      split
      · exact hbody
      split
      · exact hbody.trans (ih _)
      · exact hbody

/-- With memory left, a read that makes a handler run shows. -/
theorem runEvents_called {env : ServerEnv} (hmem : ∀ n, env.reallocOk n = true) :
    ∀ (events : List ParserEvent) (d : Daemon), d.dead = none →
      runsHandler env.bodyReturnsZero events = true →
      d.calls.length < (runEvents env fd events d).calls.length := by
  intro events
  induction events with
  | nil => exact fun d _ h => absurd h (by simp [runsHandler])
  | cons event rest ih =>
    intro d halive h
    cases event with
    | url method data =>
      obtain ⟨url, size, n, heq, -⟩ := serverOnUrl_of_memory fd method data d hmem
      simp only [runEvents, heq, if_true]
      cases hserves : decide (method = .get) && servesUrl data with
      | true =>
        exact (urlAction_called fd method data d hserves).trans_le
          (runEvents_calls_le env fd rest ((urlAction fd method data d).withUrl url size n))
      | false =>
        rw [urlAction_quiet fd method data d hserves]
        rw [runsHandler, hserves, Bool.false_or] at h
        exact ih (d.withUrl url size n) halive h
    | body method data =>
      simp only [runEvents]
      by_cases hpost : method = .post
      · have hbody := serverOnBody_called env fd method data d hpost
        split
        · exact hbody
        split
        · exact hbody.trans_le (runEvents_calls_le env fd rest _)
        · exact hbody
      · rw [runsHandler, decide_eq_false hpost, Bool.false_or, Bool.and_eq_true] at h
        rw [serverOnBody_quiet env fd method data d hpost, if_neg (by simp [halive]), if_pos h.1]
        exact ih d halive h.2

/-- A read of one byte does nothing. -/
theorem handleRequest_singleton (d : Daemon) (ch : UInt8) : handleRequest env fd [ch] d = d := by
  rw [handleRequest, httpParserExecute_singleton, runEvents, ite_self]

theorem handleRequest_quiet {data : List UInt8}
    (h : runsHandler env.bodyReturnsZero (httpParserExecute data) = false) (d : Daemon) :
    d.SameButUrl (handleRequest env fd data d) := by
  rw [handleRequest]
  split
  · exact .refl d
  · exact runEvents_quiet env fd _ d h

end Read

/-! ### All the ways to cut a request -/

/-- **All ways of cutting a request have the same effect**, whatever `realloc` does, **exactly when no
part of it that fits a read makes a handler run**; the request then has no effect at all. -/
theorem agree_iff_quiet {env : ServerEnv} (fd : ℕ) (request : List UInt8) {d : Daemon}
    (halive : d.dead = none) :
    (∀ reallocOk chunks chunks', IsCutting maxMsg request chunks →
        IsCutting maxMsg request chunks' →
        (serveChunks (env.withMemory reallocOk) fd chunks d).session =
          (serveChunks (env.withMemory reallocOk) fd chunks' d).session) ↔
      ∀ part, part <:+: request → IsChunk maxMsg part →
        runsHandler env.bodyReturnsZero (httpParserExecute part) = false := by
  constructor
  · intro hagree part hsub hpart
    -- with memory for every URL, a part that makes a handler run would show
    have hsame : (handleRequest (env.withMemory fun _ => true) fd part d).session = d.session :=
      obs_eq_of_agree (by decide) (handleRequest_singleton (env.withMemory fun _ => true) fd)
        (hagree fun _ => true) hsub hpart
    have hcalls := congrArg (fun s => s.calls.length) hsame
    rw [handleRequest, if_neg (by simp [halive])] at hcalls
    have hmem : ∀ n, (env.withMemory fun _ => true).reallocOk n = true := fun _ => rfl
    cases hruns : runsHandler env.bodyReturnsZero (httpParserExecute part) with
    | false => rfl
    | true => exact absurd hcalls (Nat.ne_of_gt (runEvents_called fd hmem _ d halive hruns))
  · -- every read leaves the daemon as it was, up to the stored URL
    intro hquiet reallocOk chunks chunks' hc hc'
    refine agree_of_keeps (I := d.SameButUrl) (.refl d) (fun e he => he.session_eq)
      (fun part hsub hpart e he => ?_) hc hc'
    exact he.trans (handleRequest_quiet (env.withMemory reallocOk) fd (hquiet part hsub hpart) e)

/-- `GET /live`, as a client sends it. -/
def liveRequest : List UInt8 := ascii "GET /live HTTP/1.1\r\nHost: camera\r\n\r\n"

/-- **A request for live video, cut behind the first slash, is served a snapshot**: the whole request
is one that the parser accepts, with the URL `/live`. -/
theorem live_cut_differs :
    httpParserExecute liveRequest = [.url .get (ascii "/live")] ∧
      IsCutting maxMsg liveRequest [liveRequest] ∧
      IsCutting maxMsg liveRequest [liveRequest.take 5, liveRequest.drop 5] ∧
      (serveChunks sampleEnv 4 [liveRequest] (daemonInit [])).session =
        { calls := [.live 4], clientFd := 4, haveActiveClient := true
          haveActiveSrtpReceiver := false } ∧
      (serveChunks sampleEnv 4 [liveRequest.take 5, liveRequest.drop 5] (daemonInit [])).session =
        { calls := [.snapshot 4], clientFd := 0, haveActiveClient := false
          haveActiveSrtpReceiver := false } :=
  ⟨by decide +kernel, ⟨by decide, by decide⟩, ⟨by decide, by decide⟩, by decide +kernel,
    by decide +kernel⟩

theorem agree_iff_quiet_liveRequest :
    (∀ reallocOk chunks chunks', IsCutting maxMsg liveRequest chunks →
        IsCutting maxMsg liveRequest chunks' →
        (serveChunks (sampleEnv.withMemory reallocOk) 4 chunks (daemonInit [])).session =
          (serveChunks (sampleEnv.withMemory reallocOk) 4 chunks' (daemonInit [])).session) ↔
      ∀ part, part <:+: liveRequest → IsChunk maxMsg part →
        runsHandler sampleEnv.bodyReturnsZero (httpParserExecute part) = false :=
  agree_iff_quiet 4 liveRequest rfl

end CameraDaemon
