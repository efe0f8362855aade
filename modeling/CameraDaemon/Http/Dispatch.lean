import CameraDaemon.Http.Bodies
import CameraDaemon.Http.Casts
import CameraDaemon.Http.Splitting

/-!
# Which URL runs which action

The handlers compare a URL with the paths they serve by `strncmp`, bounded by the length of the URL.
A URL that only begins a path is taken for the path, and where it begins several the first one that
is tested wins: `/` and `/s` are snapshots.

## Main definitions

* `getUrl`, `postUrl` — the handlers on a GET of a URL, and on a POST with a body.
* `getCall` — the action that a GET runs.
* `TakesSnapshot`, `GoesLive`, `StopsSrtp`, `StartsSession` — what the actions do.
* `ExactDispatch` — the paths, and no other URLs, run their actions.

## Main results

* `getUrl_calls`, `getUrl_quiet` — what a GET does.
* `postUrl_starts`, `postUrl_untouched` — what a POST of a valid configuration does.
* `exactDispatch_iff` — **a URL is dispatched by exact path exactly when it is no proper beginning of
  a path.**
* `slash_not_exact` — `GET /` runs a snapshot, and `POST /` starts a session.
-/

namespace CameraDaemon

open CString FdTable

/-- The handlers on a GET of `u`. -/
def getUrl (env : ServerEnv) (fd : ℕ) (u : List UInt8) (d : Daemon) : Daemon :=
  runEvents env fd [.url .get u] d

/-- The handlers on a POST of `u` with a body. -/
def postUrl (env : ServerEnv) (fd : ℕ) (u body : List UInt8) (d : Daemon) : Daemon :=
  runEvents env fd [.url .post u, .body .post body] d

/-- The paths of the daemon. -/
def servedPaths : List (List UInt8) :=
  [ascii "/snapshot", ascii "/live", ascii "/stop_srtp", ascii "/srtp_cast_to"]

/-- The live client, the session and the pending snapshot are left alone; the answer, if there is
one, is "unknown command". -/
structure Untouched (fd : ℕ) (d d' : Daemon) : Prop where
  clientFd : d'.clientFd = d.clientFd
  haveActiveClient : d'.haveActiveClient = d.haveActiveClient
  haveActiveSrtpReceiver : d'.haveActiveSrtpReceiver = d.haveActiveSrtpReceiver
  world : d'.world = d.world
  dead : d'.dead = d.dead
  calls : d'.calls = d.calls ∨ d'.calls = .unknownCommand fd :: d.calls

/-- The action of a GET has been run: the call was made, the live client and the flag of the receiver
are as given, and nothing else has changed. -/
structure RunsAction (d d' : Daemon) (call : HandlerCall) (clientFd : ℕ)
    (haveActiveClient haveActiveSrtpReceiver : Bool) : Prop where
  calls : d'.calls = call :: d.calls
  clientFd : d'.clientFd = clientFd
  haveActiveClient : d'.haveActiveClient = haveActiveClient
  haveActiveSrtpReceiver : d'.haveActiveSrtpReceiver = haveActiveSrtpReceiver
  world : d'.world = d.world
  dead : d'.dead = d.dead

/-- A snapshot, which leaves the live client and the session alone. -/
def TakesSnapshot (fd : ℕ) (d d' : Daemon) : Prop :=
  RunsAction d d' (.snapshot fd) d.clientFd d.haveActiveClient d.haveActiveSrtpReceiver

/-- The client becomes the live one. -/
def GoesLive (fd : ℕ) (d d' : Daemon) : Prop :=
  RunsAction d d' (.live fd) fd true d.haveActiveSrtpReceiver

/-- The receiver is not active any more. -/
def StopsSrtp (fd : ℕ) (d d' : Daemon) : Prop :=
  RunsAction d d' (.stopSrtp fd) d.clientFd d.haveActiveClient false

/-- A session has been started for the body, with a socket of its own. -/
structure StartsSession (fd : ℕ) (body : List UInt8) (d d' : Daemon) : Prop where
  dead : d'.dead = none
  calls : d'.calls = .srtpCastTo fd body :: d.calls
  clientFd : d'.clientFd = d.clientFd
  haveActiveClient : d'.haveActiveClient = d.haveActiveClient
  haveActiveSrtpReceiver : d'.haveActiveSrtpReceiver = true
  socket : ∃ port, d'.world.os = d.world.os.install (.udp (some port))

/-- The paths, and no other URLs, run their actions. -/
structure ExactDispatch (env : ServerEnv) (fd : ℕ) (u body : List UInt8) (d : Daemon) : Prop where
  snapshot : TakesSnapshot fd d (getUrl env fd u d) ↔ u = ascii "/snapshot"
  live : GoesLive fd d (getUrl env fd u d) ↔ u = ascii "/live"
  stop : StopsSrtp fd d (getUrl env fd u d) ↔ u = ascii "/stop_srtp"
  cast : StartsSession fd body d (postUrl env fd u body d) ↔ u = ascii "/srtp_cast_to"
  otherGet : u ≠ ascii "/snapshot" → u ≠ ascii "/live" → u ≠ ascii "/stop_srtp" →
    Untouched fd d (getUrl env fd u d)
  otherPost : u ≠ ascii "/srtp_cast_to" → Untouched fd d (postUrl env fd u body d)

/-! ### GET -/

/-- The action that a GET of `u` runs. -/
def getCall (fd : ℕ) (u : List UInt8) : Option HandlerCall :=
  if strncmpEq u (ascii "/snapshot") then some (.snapshot fd)
  else if strncmpEq u (ascii "/live") then some (.live fd)
  else if strncmpEq u (ascii "/stop_srtp") then some (.stopSrtp fd)
  else none

theorem getCall_eq_none_iff (fd : ℕ) (u : List UInt8) :
    getCall fd u = none ↔ servesUrl u = false := by
  unfold getCall servesUrl
  split_ifs <;> simp [*]

theorem getCall_snapshot_iff (fd : ℕ) (u : List UInt8) :
    getCall fd u = some (.snapshot fd) ↔ strncmpEq u (ascii "/snapshot") = true := by
  unfold getCall
  split_ifs <;> simp [*]

theorem getCall_live_iff (fd : ℕ) (u : List UInt8) :
    getCall fd u = some (.live fd) ↔
      ¬ strncmpEq u (ascii "/snapshot") = true ∧ strncmpEq u (ascii "/live") = true := by
  unfold getCall
  split_ifs <;> simp [*]

theorem getCall_stop_iff (fd : ℕ) (u : List UInt8) :
    getCall fd u = some (.stopSrtp fd) ↔
      ¬ strncmpEq u (ascii "/snapshot") = true ∧ ¬ strncmpEq u (ascii "/live") = true ∧
        strncmpEq u (ascii "/stop_srtp") = true := by
  unfold getCall
  split_ifs <;> simp [*]

section Get

variable (env : ServerEnv) (fd : ℕ) {u : List UInt8} {d : Daemon}

theorem getAction_calls (u : List UInt8) (d : Daemon) :
    (getAction fd u d).calls = (getCall fd u).toList ++ d.calls := by
  unfold getAction getCall
  split_ifs <;> rfl

/-- A URL that is taken for a path fits the block that `main` allocates. -/
theorem length_lt_of_served (hnz : ∀ c ∈ u, c ≠ 0) {path : List UInt8} (hpath : path ∈ servedPaths)
    (h : strncmpEq u path = true) : u.length < 16 := by
  have hle := ((strncmpEq_iff hnz path).mp h).length_le
  have hlen : ∀ path ∈ servedPaths, path.length < 16 := by
    simp only [servedPaths, List.forall_mem_cons]
    exact ⟨by decide, by decide, by decide, by decide, fun _ hmem => absurd hmem List.not_mem_nil⟩
  exact lt_of_le_of_lt hle (hlen path hpath)

theorem length_lt_of_servesUrl (hnz : ∀ c ∈ u, c ≠ 0) (h : servesUrl u = true) :
    u.length < 16 := by
  unfold servesUrl at h
  simp only [Bool.or_eq_true] at h
  rcases h with (h | h) | h
  · exact length_lt_of_served hnz (by simp [servedPaths]) h
  · exact length_lt_of_served hnz (by simp [servedPaths]) h
  · exact length_lt_of_served hnz (by simp [servedPaths]) h

/-- A GET of a URL that is taken for no path does nothing but store it. -/
theorem getUrl_quiet (h : servesUrl u = false) : d.SameButUrl (getUrl env fd u d) := by
  have hquiet : urlAction fd .get u d = d := urlAction_quiet fd .get u d (by simp [h])
  unfold getUrl runEvents
  rcases serverOnUrl_cases env fd .get u d with ⟨n, hurl, -⟩ | ⟨url, size, n, hurl, -⟩
  · rw [hurl]
    exact ⟨_, _, _, rfl⟩
  · rw [hurl, hquiet]
    exact ⟨_, _, _, rfl⟩

/-- A GET of a URL that is taken for a path stores it and runs the action of the path. -/
theorem getUrl_served (hnz : ∀ c ∈ u, c ≠ 0) (hsize : 16 ≤ d.lastUrlSize)
    (h : servesUrl u = true) :
    ∃ url, getUrl env fd u d = getAction fd u { d with lastUrl := url } := by
  have hlt : u.length < d.lastUrlSize := lt_of_lt_of_le (length_lt_of_servesUrl hnz h) hsize
  refine ⟨u ++ 0 :: d.lastUrl.drop (u.length + 1), ?_⟩
  simp only [getUrl, runEvents, serverOnUrl, storeUrl_of_lt env hlt, if_true]

/-- **A GET runs the action that its URL is taken for, and no other.** -/
theorem getUrl_calls (hnz : ∀ c ∈ u, c ≠ 0) (hsize : 16 ≤ d.lastUrlSize) :
    (getUrl env fd u d).calls = (getCall fd u).toList ++ d.calls := by
  by_cases hserved : servesUrl u = true
  · obtain ⟨url, hget⟩ := getUrl_served env fd hnz hsize hserved
    rw [hget, getAction_calls]
  · have hserved : servesUrl u = false := Bool.not_eq_true _ ▸ hserved
    obtain ⟨url, size, n, hget⟩ := getUrl_quiet env fd (d := d) hserved
    rw [hget, (getCall_eq_none_iff fd u).mpr hserved]
    rfl

theorem getUrl_calls_iff (hnz : ∀ c ∈ u, c ≠ 0) (hsize : 16 ≤ d.lastUrlSize) (c : HandlerCall) :
    (getUrl env fd u d).calls = c :: d.calls ↔ getCall fd u = some c := by
  rw [getUrl_calls env fd hnz hsize]
  cases getCall fd u with
  | none => simp
  | some c' => simp

/-- A GET that makes the call of an action has done what the action does. -/
theorem runsAction_getUrl (hnz : ∀ c ∈ u, c ≠ 0) (hsize : 16 ≤ d.lastUrlSize) :
    (TakesSnapshot fd d (getUrl env fd u d) ↔ strncmpEq u (ascii "/snapshot") = true) ∧
      (GoesLive fd d (getUrl env fd u d) ↔
        ¬ strncmpEq u (ascii "/snapshot") = true ∧ strncmpEq u (ascii "/live") = true) ∧
      (StopsSrtp fd d (getUrl env fd u d) ↔
        ¬ strncmpEq u (ascii "/snapshot") = true ∧ ¬ strncmpEq u (ascii "/live") = true ∧
          strncmpEq u (ascii "/stop_srtp") = true) := by
  have hcall := getUrl_calls_iff env fd hnz hsize
  refine ⟨⟨fun h => ?_, fun h => ?_⟩, ⟨fun h => ?_, fun h => ?_⟩, fun h => ?_, fun h => ?_⟩
  · exact (getCall_snapshot_iff fd u).mp ((hcall _).mp h.calls)
  · obtain ⟨url, hget⟩ := getUrl_served env fd hnz hsize (by simp [servesUrl, h])
    rw [hget, getAction, if_pos h]
    exact ⟨rfl, rfl, rfl, rfl, rfl, rfl⟩
  · exact (getCall_live_iff fd u).mp ((hcall _).mp h.calls)
  · obtain ⟨url, hget⟩ := getUrl_served env fd hnz hsize (by simp [servesUrl, h.2])
    rw [hget, getAction, if_neg h.1, if_pos h.2]
    exact ⟨rfl, rfl, rfl, rfl, rfl, rfl⟩
  · exact (getCall_stop_iff fd u).mp ((hcall _).mp h.calls)
  · obtain ⟨url, hget⟩ := getUrl_served env fd hnz hsize (by simp [servesUrl, h.2.2])
    rw [hget, getAction, if_neg h.1, if_neg h.2.1, if_pos h.2.2]
    exact ⟨rfl, rfl, rfl, rfl, rfl, rfl⟩

end Get

/-! ### POST -/

section Post

variable {env : ServerEnv} {fd : ℕ} {u body : List UInt8} {d : Daemon}

/-- A POST comes to `server_on_body` with its URL stored, unless there is no memory for that. -/
theorem postUrl_cases (env : ServerEnv) (fd : ℕ) (body : List UInt8) (d : Daemon)
    (hnz : ∀ c ∈ u, c ≠ 0) :
    (d.SameButUrl (postUrl env fd u body d) ∧ d.lastUrlSize ≤ u.length) ∨
      ∃ url size n, postUrl env fd u body d =
        serverOnBody env fd .post body (d.withUrl url size n) ∧ cString url = u := by
  have hpost : HttpMethod.post ≠ .get := fun h => by cases h
  have hbody : ∀ d', runEvents env fd [.body .post body] d' =
      serverOnBody env fd .post body d' := by
    intro d'
    simp only [runEvents, ite_self]
  have hurl : postUrl env fd u body d =
      if (serverOnUrl env fd .post u d).1 = true then
        runEvents env fd [.body .post body] (serverOnUrl env fd .post u d).2
      else (serverOnUrl env fd .post u d).2 := rfl
  rcases storeUrl_cases env u d with ⟨hstore, -⟩ | ⟨url, size, n, hstore, hstring⟩
  · refine Or.inl ⟨?_, ?_⟩
    · rw [hurl]
      simp only [serverOnUrl, hstore, Bool.false_eq_true, if_false]
      exact ⟨_, _, _, rfl⟩
    · by_contra hlt
      rw [storeUrl_of_lt env (Nat.not_le.mp hlt)] at hstore
      cases hstore
  · refine Or.inr ⟨url, size, n, ?_, by rw [hstring, cString_of_nonzero hnz]⟩
    rw [hurl]
    simp only [serverOnUrl, hstore, if_true, if_neg hpost, hbody]

/-- **A POST of a URL that is not taken for `/srtp_cast_to` changes nothing.** -/
theorem postUrl_untouched (hnz : ∀ c ∈ u, c ≠ 0)
    (h : ¬ strncmpEq u (ascii "/srtp_cast_to") = true) :
    Untouched fd d (postUrl env fd u body d) := by
  rcases postUrl_cases env fd body d hnz with
    ⟨⟨url, size, n, hsame⟩, -⟩ | ⟨url, size, n, hbody, hurl⟩
  · rw [hsame]
    exact ⟨rfl, rfl, rfl, rfl, rfl, Or.inl rfl⟩
  · have hstring : cString (d.withUrl url size n).lastUrl = u := hurl
    rw [hbody, serverOnBody, if_pos rfl, hstring, if_neg h]
    exact ⟨rfl, rfl, rfl, rfl, rfl, Or.inr rfl⟩

/-- **A POST of a valid configuration to a URL that is taken for `/srtp_cast_to` starts a
session.** -/
theorem postUrl_starts {addr key : CStr} {port ssrc : ℤ} (hnz : ∀ c ∈ u, c ≠ 0) (hd : d.Ready)
    (hvalid : ValidBody env body addr port ssrc key)
    (hsys : env.system.refusal d.world (UInt16.ofNat port.toNat) = none)
    (h : strncmpEq u (ascii "/srtp_cast_to") = true) :
    StartsSession fd body d (postUrl env fd u body d) := by
  rcases postUrl_cases env fd body d hnz with ⟨-, hlong⟩ | ⟨url, size, n, hbody, hurl⟩
  · -- the URL is no longer than the path, and needs no more memory
    have hshort := length_lt_of_served hnz (by simp [servedPaths]) h
    have hsize := hd.url
    omega
  · have hstring : cString (d.withUrl url size n).lastUrl = u := hurl
    rw [← hstring] at h
    rw [← hvalid.port_eq] at hsys
    obtain ⟨ctx, hstart⟩ := startSession_of_granted env
      (d := { d.withUrl url size n with calls := .srtpCastTo fd body :: d.calls })
      hvalid.keyError hsys hd.header
    rw [hbody, serverOnBody_castTo env fd body h, readConfig_of_items hvalid.items]
    show StartsSession fd body d (startSession env (itemArgs env addr port ssrc key)
      { d.withUrl url size n with calls := .srtpCastTo fd body :: d.calls })
    rw [hstart]
    exact ⟨hd.alive, rfl, rfl, rfl, rfl, _, rfl⟩

theorem Untouched.not_starts {d' : Daemon} (h : Untouched fd d d') :
    ¬ StartsSession fd body d d' := by
  intro hstarts
  have hcalls := hstarts.calls
  rcases h.calls with hsame | hsame
  · rw [hsame] at hcalls
    exact absurd (congrArg List.length hcalls) (by simp)
  · rw [hsame] at hcalls
    cases hcalls

end Post

/-! ### Exact paths -/

section Exact

variable {env : ServerEnv} {fd : ℕ} {u body : List UInt8} {addr key : CStr} {port ssrc : ℤ}
  {d : Daemon}

/-- A GET of a URL that is taken for no path leaves everything alone. -/
theorem getUrl_untouched (h : servesUrl u = false) : Untouched fd d (getUrl env fd u d) := by
  obtain ⟨url, size, n, heq⟩ := getUrl_quiet env fd (d := d) h
  rw [heq]
  exact ⟨rfl, rfl, rfl, rfl, rfl, Or.inl rfl⟩

/-- A URL that is dispatched by exact path is no proper beginning of a path. -/
theorem paths_of_exactDispatch (hnz : ∀ c ∈ u, c ≠ 0) (hd : d.Ready)
    (hvalid : ValidBody env body addr port ssrc key)
    (hsys : env.system.refusal d.world (UInt16.ofNat port.toNat) = none)
    (hexact : ExactDispatch env fd u body d) : ∀ path ∈ servedPaths, u <+: path → u = path := by
  obtain ⟨hsnapshot, hgoes, hstops⟩ := runsAction_getUrl env fd hnz hd.url
  have hsnap : u <+: ascii "/snapshot" → u = ascii "/snapshot" := by
    intro h
    rw [← strncmpEq_iff hnz] at h
    exact hexact.snapshot.mp (hsnapshot.mpr h)
  -- a path that is tested later is not reached when an earlier one matches, and then the URL is the
  -- earlier path, which begins no other
  have hlive : u <+: ascii "/live" → u = ascii "/live" := by
    intro h
    by_cases hs : u <+: ascii "/snapshot"
    · rw [hsnap hs] at h
      exact absurd h (by decide)
    · rw [← strncmpEq_iff hnz] at h hs
      exact hexact.live.mp (hgoes.mpr ⟨hs, h⟩)
  have hstop : u <+: ascii "/stop_srtp" → u = ascii "/stop_srtp" := by
    intro h
    by_cases hs : u <+: ascii "/snapshot"
    · rw [hsnap hs] at h
      exact absurd h (by decide)
    by_cases hl : u <+: ascii "/live"
    · rw [hlive hl] at h
      exact absurd h (by decide)
    · rw [← strncmpEq_iff hnz] at h hs hl
      exact hexact.stop.mp (hstops.mpr ⟨hs, hl, h⟩)
  have hcast : u <+: ascii "/srtp_cast_to" → u = ascii "/srtp_cast_to" := by
    intro h
    rw [← strncmpEq_iff hnz] at h
    exact hexact.cast.mp (postUrl_starts hnz hd hvalid hsys h)
  simp only [servedPaths, List.forall_mem_cons]
  exact ⟨hsnap, hlive, hstop, hcast, fun _ hmem => absurd hmem List.not_mem_nil⟩

/-- Where the comparison with each path is equality, dispatch is by exact path. -/
theorem exactDispatch_of_paths (hnz : ∀ c ∈ u, c ≠ 0) (hd : d.Ready)
    (hvalid : ValidBody env body addr port ssrc key)
    (hsys : env.system.refusal d.world (UInt16.ofNat port.toNat) = none)
    (hcmp : ∀ path ∈ servedPaths, (strncmpEq u path = true ↔ u = path)) :
    ExactDispatch env fd u body d := by
  obtain ⟨hsnapshot, hgoes, hstops⟩ := runsAction_getUrl env fd hnz hd.url
  simp only [servedPaths, List.forall_mem_cons] at hcmp
  obtain ⟨hsnap, hlive, hstop, hcast, -⟩ := hcmp
  refine ⟨?_, ?_, ?_, ?_, ?_, ?_⟩
  · rw [hsnapshot, hsnap]
  · rw [hgoes, hsnap, hlive]
    exact ⟨And.right, fun h => ⟨by rw [h]; decide, h⟩⟩
  · rw [hstops, hsnap, hlive, hstop]
    exact ⟨fun h => h.2.2, fun h => ⟨by rw [h]; decide, by rw [h]; decide, h⟩⟩
  · constructor
    · intro hstarts
      by_contra hne
      exact (postUrl_untouched hnz (mt hcast.mp hne)).not_starts hstarts
    · exact fun h => postUrl_starts hnz hd hvalid hsys (hcast.mpr h)
  · intro hs hl hp
    apply getUrl_untouched
    rw [← getCall_eq_none_iff fd]
    simp only [getCall, if_neg (mt hsnap.mp hs), if_neg (mt hlive.mp hl), if_neg (mt hstop.mp hp)]
  · intro hne
    exact postUrl_untouched hnz (mt hcast.mp hne)

/-- **Dispatch is by exact path exactly when the URL is no proper beginning of a path.** -/
theorem exactDispatch_iff (hnz : ∀ c ∈ u, c ≠ 0) (hd : d.Ready)
    (hvalid : ValidBody env body addr port ssrc key)
    (hsys : env.system.refusal d.world (UInt16.ofNat port.toNat) = none) :
    ExactDispatch env fd u body d ↔ ∀ path ∈ servedPaths, u <+: path → u = path := by
  constructor
  · exact paths_of_exactDispatch hnz hd hvalid hsys
  · intro hpaths
    apply exactDispatch_of_paths hnz hd hvalid hsys
    intro path hpath
    rw [strncmpEq_iff hnz]
    exact ⟨hpaths path hpath, fun h => h ▸ List.prefix_rfl⟩

end Exact

/-- The bodies that `sampleEnv` reads are valid. -/
theorem validBody_sample : ValidBody sampleEnv [] receiverText 5004 1 zeroKey :=
  { items := ⟨rfl, rfl, rfl, rfl⟩
    addr_valid := rfl
    port_range := by decide
    ssrc_range := by decide
    key_length := by decide
    key_chars := sampleCast.good.key_chars }

/-- **`GET /` runs a snapshot, and `POST /` starts a session.** -/
theorem slash_not_exact :
    TakesSnapshot 4 (daemonInit []) (getUrl sampleEnv 4 (ascii "/") (daemonInit [])) ∧
      StartsSession 4 [] (daemonInit []) (postUrl sampleEnv 4 (ascii "/") [] (daemonInit [])) ∧
      ¬ ExactDispatch sampleEnv 4 (ascii "/") [] (daemonInit []) := by
  have hsnapshot : TakesSnapshot 4 (daemonInit [])
      (getUrl sampleEnv 4 (ascii "/") (daemonInit [])) :=
    (runsAction_getUrl sampleEnv 4 (ne_zero_of_all (by decide)) (by decide)).1.mpr (by decide)
  refine ⟨hsnapshot, ?_, fun hexact => ?_⟩
  · exact postUrl_starts (ne_zero_of_all (by decide)) (daemonInit_ready []) validBody_sample rfl
      (by decide)
  · exact absurd (hexact.snapshot.mp hsnapshot) (by decide)

theorem exactDispatch_iff_live :
    (∀ c ∈ ascii "/live", c ≠ 0) ∧ (daemonInit []).Ready ∧
      ValidBody sampleEnv [] receiverText 5004 1 zeroKey ∧
      (ExactDispatch sampleEnv 4 (ascii "/live") [] (daemonInit []) ↔
        ∀ path ∈ servedPaths, ascii "/live" <+: path → ascii "/live" = path) := by
  have hnz : ∀ c ∈ ascii "/live", c ≠ 0 := ne_zero_of_all (by decide)
  exact ⟨hnz, daemonInit_ready [], validBody_sample,
    exactDispatch_iff hnz (daemonInit_ready []) validBody_sample rfl⟩

end CameraDaemon
