import CameraDaemon.Http.Bodies
import CameraDaemon.Session

/-!
# Sequences of casts

Each `/srtp_cast_to` opens a UDP socket and binds it to the port of the receiver; nothing ever closes
it, `/stop_srtp` only clears a flag.  A second cast to the same port therefore fails in `bind` and
ends the process.  Whether `bind` fails for another reason is up to the system; here it is assumed
that it does not.

## Main definitions

* `GoodConfig`, `GoodCast` — a body whose items are what a cast asks for.
* `GoodRequest`, `serveRequests` — casts and stops, served one after another.

## Main results

* `startSession_of_granted`, `startSession_good` — a good cast starts a session, or exits at `bind`.
* `serveRequests_dead` — how a sequence of requests ends.
* `never_exits_iff` — **no request exits exactly when the ports are distinct and were free.**
* `recast_exits` — a session stopped and started again.
-/

namespace CameraDaemon

open CString FdTable

/-! ### Good requests -/

/-- What a cast asks for. -/
structure CastConfig where
  addr : CStr
  port : ℕ
  ssrc : ℤ
  key : CStr

/-- The body holds a valid address, a port of a user, an `int` as SSRC and a key of forty characters
of the base64 alphabet. -/
structure GoodConfig (env : ServerEnv) (body : List UInt8) (c : CastConfig) : Prop where
  items : HasItems env body c.addr c.port c.ssrc c.key
  addr_valid : (env.inetAton c.addr).isSome = true
  port_range : 1024 ≤ c.port ∧ c.port ≤ 65535
  ssrc_range : -2 ^ 31 ≤ c.ssrc ∧ c.ssrc < 2 ^ 31
  key_length : c.key.chars.length = 40
  key_chars : ∀ ch ∈ c.key.chars, ch ∈ b64chars

/-- A well-formed cast. -/
structure GoodCast (env : ServerEnv) where
  body : List UInt8
  config : CastConfig
  good : GoodConfig env body config

/-- The port that a cast is bound to. -/
def GoodCast.port {env : ServerEnv} (c : GoodCast env) : UInt16 := UInt16.ofNat c.config.port

/-- The arguments of `prepare_srtp_sender`. -/
def GoodCast.args {env : ServerEnv} (c : GoodCast env) : CastArgs :=
  itemArgs env c.config.addr c.config.port c.config.ssrc c.config.key

/-- A well-formed request that concerns the sender. -/
inductive GoodRequest (env : ServerEnv)
  | cast (c : GoodCast env)
  | stop

/-- The callbacks of the parser on the request. -/
def GoodRequest.events {env : ServerEnv} : GoodRequest env → List ParserEvent
  | .cast c => [.url .post (ascii "/srtp_cast_to"), .body .post c.body]
  | .stop => [.url .get (ascii "/stop_srtp")]

/-- The requests, one after another, as long as the process lives. -/
def serveRequests (env : ServerEnv) (fd : ℕ) : List (GoodRequest env) → Daemon → Daemon
  | [], d => d
  | r :: rs, d =>
    if d.dead.isSome then d else serveRequests env fd rs (runEvents env fd r.events d)

/-- The ports of the casts, in order. -/
def castPorts {env : ServerEnv} : List (GoodRequest env) → List UInt16
  | [] => []
  | .cast c :: rs => c.port :: castPorts rs
  | .stop :: rs => castPorts rs

/-! ### One request -/

/-- With a key that passes the checks and a system that refuses nothing, a session is started. -/
theorem startSession_of_granted (env : ServerEnv) {args : CastArgs} {d : Daemon}
    (hkey : args.keyError = none) (hsys : env.system.refusal d.world args.port = none)
    (hheader : d.header.length ≤ 2 ^ 31 - 1366) :
    ∃ ctx : SrtpSenderContext, startSession env args d =
      { d with
        world := { d.world.prepared env.system args with ctx := ctx }
        haveActiveSrtpReceiver := true } := by
  have hret := srtpSenderCallback_returned env.crypto d.header.data hheader
    (show (args.context d.world.ctx.message.body (lowestUnused d.world.os)).srtpCtx.isSome = true
      from rfl)
  refine ⟨(srtpSenderCallback env.crypto d.header.data d.header.length
    (args.context d.world.ctx.message.body (lowestUnused d.world.os))).2.1, ?_⟩
  rw [startSession, prepareSrtpSender_of_granted hkey hsys]
  exact if_pos hret

section Good

variable {env : ServerEnv} (c : GoodCast env)

/-- A good key passes the checks of the key. -/
theorem keyError_good : c.args.keyError = none :=
  keyError_of_chars c.good.key_length c.good.key_chars

/-- A port of a user is bound as it is. -/
theorem port_good : c.args.port = c.port := by
  obtain ⟨hlow, hhigh⟩ := c.good.port_range
  have hnat := (toNat_port_iff env c.config.addr c.config.port c.config.ssrc c.config.key).mpr
    ⟨by omega, by omega⟩
  apply UInt16.toNat_inj.mp
  rw [GoodCast.args, GoodCast.port, UInt16.toNat_ofNat']
  omega

/-- A port of a user is not 0, so the socket is bound to it and to no other. -/
theorem port_good_ne_zero : c.port ≠ 0 := by
  obtain ⟨hlow, hhigh⟩ := c.good.port_range
  intro hzero
  have hnat := congrArg UInt16.toNat hzero
  rw [GoodCast.port, UInt16.toNat_ofNat'] at hnat
  exact absurd hnat (by show ¬ c.config.port % 2 ^ 16 = 0; omega)

/-- **A good cast exits at `bind` or starts a session**, which keeps its socket. -/
theorem startSession_good (hsys : env.system.OwnPortsOnly) {d : Daemon}
    (hheader : d.header.length ≤ 2 ^ 31 - 1366) :
    if udpBound d.world.os c.port then
      startSession env c.args d = { d with dead := some (.exit .bind) }
    else
      ∃ w : SenderWorld, w.os = d.world.os.install (.udp (some c.port)) ∧
        startSession env c.args d = { d with world := w, haveActiveSrtpReceiver := true } := by
  have hrefusal := hsys.refusal_eq d.world (port_good_ne_zero c)
  rw [← port_good c] at hrefusal ⊢
  split
  · next hbound =>
    rw [if_pos hbound] at hrefusal
    rw [startSession, prepareSrtpSender_of_refused (keyError_good c) hrefusal, activate]
  · next hbound =>
    rw [if_neg hbound] at hrefusal
    obtain ⟨ctx, hstart⟩ := startSession_of_granted env (keyError_good c) hrefusal hheader
    refine ⟨_, ?_, hstart⟩
    rw [SenderWorld.prepared, SenderSystem.localPort, if_neg (port_good c ▸ port_good_ne_zero c)]

end Good

/-! ### Sequences of requests -/

/-- What a sequence of requests needs of the daemon: it lives, its stream header is in the range of
`int`, and the block for the URL is at least as large as `main` makes it. -/
structure Daemon.Ready (d : Daemon) : Prop where
  alive : d.dead = none
  header : d.header.length ≤ 2 ^ 31 - 1366
  url : 16 ≤ d.lastUrlSize

theorem daemonInit_ready (os : FdTable OsObject) : (daemonInit os).Ready :=
  ⟨rfl, Nat.zero_le _, Nat.le_refl _⟩

/-- The URL of a request is stored without growing the block. -/
theorem storeUrl_of_lt (env : ServerEnv) {data : List UInt8} {d : Daemon}
    (h : data.length < d.lastUrlSize) :
    storeUrl env data d =
      some { d with lastUrl := data ++ 0 :: d.lastUrl.drop (data.length + 1) } := by
  rw [storeUrl, if_neg (Nat.not_le.mpr h)]

/-- A stop keeps the daemon ready and closes nothing. -/
theorem runEvents_stop (env : ServerEnv) (fd : ℕ) {d : Daemon} (hd : d.Ready) :
    (runEvents env fd (GoodRequest.stop : GoodRequest env).events d).Ready ∧
      (runEvents env fd (GoodRequest.stop : GoodRequest env).events d).world = d.world := by
  have hsize : (ascii "/stop_srtp").length < d.lastUrlSize := lt_of_lt_of_le (by decide) hd.url
  simp only [GoodRequest.events, runEvents, serverOnUrl, storeUrl_of_lt env hsize, getAction_stop,
    if_true]
  exact ⟨⟨hd.alive, hd.header, hd.url⟩, trivial⟩

/-- The callbacks of a cast come to the start of a session. -/
theorem runEvents_cast_eq {env : ServerEnv} (fd : ℕ) (c : GoodCast env) {d : Daemon}
    (hd : d.Ready) :
    runEvents env fd (GoodRequest.cast c).events d =
      startSession env c.args
        { d with
          lastUrl := ascii "/srtp_cast_to" ++ 0 :: d.lastUrl.drop 14
          calls := .srtpCastTo fd c.body :: d.calls } := by
  have hsize : (ascii "/srtp_cast_to").length < d.lastUrlSize :=
    lt_of_lt_of_le (by decide) hd.url
  have hurl : strncmpEq (ascii "/srtp_cast_to") (ascii "/srtp_cast_to") = true := by decide
  have hstring : cString (ascii "/srtp_cast_to") = ascii "/srtp_cast_to" := by decide
  have hpost : HttpMethod.post ≠ .get := nofun
  simp only [GoodRequest.events, runEvents, serverOnUrl, storeUrl_of_lt env hsize, if_neg hpost,
    serverOnBody, if_true]
  rw [show (ascii "/srtp_cast_to").length + 1 = 14 from rfl, cString_append_zero, hstring]
  simp only [hurl, if_true, readConfig_of_items c.good.items, ite_self]
  rfl

/-- A cast on a free port keeps the daemon ready and binds the port; on another it exits. -/
theorem runEvents_cast {env : ServerEnv} (hsys : env.system.OwnPortsOnly) (fd : ℕ)
    (c : GoodCast env) {d : Daemon} (hd : d.Ready) :
    if udpBound d.world.os c.port then
      (runEvents env fd (GoodRequest.cast c).events d).dead = some (.exit .bind)
    else
      (runEvents env fd (GoodRequest.cast c).events d).Ready ∧
        (runEvents env fd (GoodRequest.cast c).events d).world.os =
          d.world.os.install (.udp (some c.port)) := by
  rw [runEvents_cast_eq fd c hd]
  generalize hd' : ({ d with
    lastUrl := ascii "/srtp_cast_to" ++ 0 :: d.lastUrl.drop 14
    calls := .srtpCastTo fd c.body :: d.calls } : Daemon) = d'
  have hworld : d'.world = d.world := by rw [← hd']
  have halive : d'.dead = none := by rw [← hd']; exact hd.alive
  have hheader : d'.header.length ≤ 2 ^ 31 - 1366 := by rw [← hd']; exact hd.header
  have hurl : 16 ≤ d'.lastUrlSize := by rw [← hd']; exact hd.url
  -- neither the URL nor the call matters to the session
  have hstart := startSession_good c hsys hheader
  rw [hworld] at hstart
  split
  · next hbound =>
    rw [if_pos hbound] at hstart
    rw [hstart]
  · next hbound =>
    rw [if_neg hbound] at hstart
    obtain ⟨w, hos, hstart⟩ := hstart
    rw [hstart]
    exact ⟨⟨halive, hheader, hurl⟩, hos⟩

theorem serveRequests_of_dead {env : ServerEnv} (fd : ℕ) (reqs : List (GoodRequest env))
    {d : Daemon} {f : Fatal} (hd : d.dead = some f) : serveRequests env fd reqs d = d := by
  cases reqs with
  | nil => rfl
  | cons r rs => rw [serveRequests, if_pos (by rw [hd]; rfl)]

/-- The ports are pairwise distinct, and none of them is bound. -/
def FreshPorts (os : FdTable OsObject) (ports : List UInt16) : Prop :=
  ports.Nodup ∧ ∀ port ∈ ports, udpBound os port = false

/-- A port that is bound is used up. -/
theorem freshPorts_cons {os : FdTable OsObject} {port : UInt16} (hfree : udpBound os port = false)
    (ports : List UInt16) :
    FreshPorts os (port :: ports) ↔ FreshPorts (os.install (.udp (some port))) ports := by
  have hlater : (∀ port' ∈ ports, udpBound (os.install (.udp (some port))) port' = false) ↔
      port ∉ ports ∧ ∀ port' ∈ ports, udpBound os port' = false := by
    simp only [← Bool.not_eq_true, udpBound_install, not_or]
    constructor
    · exact fun h => ⟨fun hmem => (h _ hmem).2 rfl, fun port' hmem => (h port' hmem).1⟩
    · rintro ⟨hnew, hold⟩ port' hmem
      refine ⟨hold port' hmem, ?_⟩
      rintro rfl
      exact hnew hmem
  rw [FreshPorts, FreshPorts, hlater, List.nodup_cons, List.forall_mem_cons]
  tauto

/-- **How a sequence of requests ends**: at the first cast to a port that is bound, if there is one. -/
theorem serveRequests_dead {env : ServerEnv} (hsys : env.system.OwnPortsOnly) (fd : ℕ) :
    ∀ (reqs : List (GoodRequest env)) (d : Daemon), d.Ready →
      (FreshPorts d.world.os (castPorts reqs) → (serveRequests env fd reqs d).dead = none) ∧
      (¬ FreshPorts d.world.os (castPorts reqs) →
        (serveRequests env fd reqs d).dead = some (.exit .bind)) := by
  intro reqs
  induction reqs with
  | nil =>
    intro d hd
    refine ⟨fun _ => hd.alive, fun hports => absurd ⟨List.nodup_nil, ?_⟩ hports⟩
    intro port hport
    cases hport
  | cons r rs ih =>
    intro d hd
    rw [serveRequests, if_neg (by rw [hd.alive]; simp)]
    cases r with
    | stop =>
      obtain ⟨hready, hworld⟩ := runEvents_stop env fd hd
      have hrest := ih _ hready
      rw [hworld] at hrest
      exact hrest
    | cast c =>
      have hcast := runEvents_cast hsys fd c hd
      by_cases hbound : udpBound d.world.os c.port = true
      · -- the cast exits, and the rest is not served
        rw [if_pos hbound] at hcast
        rw [serveRequests_of_dead fd rs hcast]
        refine ⟨fun hports => ?_, fun _ => hcast⟩
        have hfree := hports.2 c.port List.mem_cons_self
        rw [hbound] at hfree
        cases hfree
      · -- the socket stays open, so the port is used up for the rest
        rw [if_neg hbound] at hcast
        obtain ⟨hready, hos⟩ := hcast
        have hrest := ih _ hready
        rw [hos, ← freshPorts_cons (Bool.not_eq_true _ ▸ hbound)] at hrest
        exact hrest

/-- **No request ever exits exactly when the ports of the casts are pairwise distinct and none of
them was bound before**, whatever stops come between. -/
theorem never_exits_iff {env : ServerEnv} (hsys : env.system.OwnPortsOnly) (fd : ℕ)
    (reqs : List (GoodRequest env)) {d : Daemon} (hd : d.Ready) :
    (∀ e, (serveRequests env fd reqs d).dead ≠ some (.exit e)) ↔
      (castPorts reqs).Nodup ∧ ∀ port ∈ castPorts reqs, udpBound d.world.os port = false := by
  obtain ⟨hfresh, hused⟩ := serveRequests_dead hsys fd reqs d hd
  constructor
  · intro h
    by_contra hports
    exact h .bind (hused hports)
  · intro hports e hdead
    rw [hfresh hports] at hdead
    cases hdead

/-! ### A session stopped and started again -/

/-- A cast to port 5004. -/
def sampleCast : GoodCast sampleEnv :=
  { body := []
    config := { addr := receiverText, port := 5004, ssrc := 1, key := zeroKey }
    good :=
      { items := ⟨rfl, rfl, rfl, rfl⟩
        addr_valid := rfl
        port_range := by decide
        ssrc_range := by decide
        key_length := by decide
        key_chars := fun ch hch => by
          rw [List.eq_of_mem_replicate hch]
          decide } }

/-- **A session that is stopped cannot be started again** on its port. -/
theorem recast_exits :
    (serveRequests sampleEnv 4 [.cast sampleCast, .stop, .cast sampleCast] (daemonInit [])).dead =
      some (.exit .bind) := by
  decide +kernel

theorem never_exits_iff_one :
    (∀ e, (serveRequests sampleEnv 4 [.cast sampleCast, .stop] (daemonInit [])).dead
        ≠ some (.exit e)) ↔
      (castPorts [.cast sampleCast, .stop]).Nodup ∧
        ∀ port ∈ castPorts [.cast sampleCast, .stop],
          udpBound (daemonInit []).world.os port = false :=
  never_exits_iff ownPorts_ownPortsOnly 4 [.cast sampleCast, .stop] (daemonInit_ready [])

end CameraDaemon
