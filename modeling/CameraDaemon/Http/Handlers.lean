import CameraDaemon.Http.Parser
import CameraDaemon.RtpWorker
import Mathlib.Data.List.TakeWhile

/-!
# The request handlers

`server_on_url` stores the URL and serves the GET requests; `server_on_body` looks at the stored URL,
reads the configuration of a cast out of the body and starts a session.  `handle_request` runs a
fresh parser over what one `read` has returned.

What the handlers get from outside is a parameter (`ServerEnv`): the ciphers, the JSON parser, the
address parser, what the stack holds, and the outcome of each `realloc`.  `server_on_body` ends
without a `return`; what its caller reads as its result is a parameter too.

## Main definitions

* `CJson`, `cJSONGetObjectItemCaseSensitive`, `valueint` — the items of a parsed body.
* `Daemon` — the variables of the daemon that the handlers read and write, and the calls so far.
* `serverOnUrl`, `serverOnBody`, `handleRequest` — the handlers.
-/

namespace CameraDaemon

open CString FdTable

/-! ### Parsed bodies -/

/-- A `cJSON` item, as far as the handlers look at it; a number is given rounded towards zero. -/
inductive CJson
  | null
  | bool (b : Bool)
  | number (value : ℤ)
  | string (valuestring : CStr)
  | array
  | object (items : List (List UInt8 × CJson))

/-- `cJSON_GetObjectItemCaseSensitive`: the first item of that name, if there is an object at all. -/
def cJSONGetObjectItemCaseSensitive (object : Option CJson) (name : String) : Option CJson :=
  match object with
  | some (.object items) => (items.find? fun item => item.1 = ascii name).map Prod.snd
  | _ => none

/-- `valueint`: the value, saturated to the range of `int`. -/
def valueint (value : ℤ) : Int32 :=
  if value ≥ 2 ^ 31 - 1 then Int32.ofInt (2 ^ 31 - 1)
  else if value ≤ -2 ^ 31 then Int32.ofInt (-2 ^ 31)
  else Int32.ofInt value

/-! ### The daemon -/

/-- The items of a configuration. -/
inductive ConfigItem
  | addr
  | port
  | ssrc
  | key
  deriving DecidableEq, Repr

/-- How a handler ends the process. -/
inductive Fatal
  /-- `json_addr->valuestring` of a null item. -/
  | nullItem
  /-- A failed `assert` on the type of an item. -/
  | assertion (item : ConfigItem)
  /-- `exit` in `prepare_srtp_sender`. -/
  | exit (e : SenderExit)
  /-- Undefined behaviour in `srtp_sender_callback`. -/
  | sender
  deriving DecidableEq, Repr

/-- What the daemon does for a request. -/
inductive HandlerCall
  | snapshot (fd : ℕ)
  | live (fd : ℕ)
  | stopSrtp (fd : ℕ)
  /-- "OK" is sent, and the body is given to `cJSON_Parse`. -/
  | srtpCastTo (fd : ℕ) (body : List UInt8)
  /-- "unknown command" is sent. -/
  | unknownCommand (fd : ℕ)
  deriving DecidableEq, Repr

/-- What the handlers get from outside. -/
structure ServerEnv where
  crypto : SrtpCrypto
  /-- `cJSON_Parse` of the terminated body. -/
  cJSONParse : List UInt8 → Option CJson
  inetAton : CStr → Option UInt32
  /-- What `rcvr_addr` holds when `inet_aton` fails. -/
  staleAddr : UInt32
  /-- What the array `key` holds before it is written. -/
  staleKey : ℕ → UInt8
  /-- What the memory for `stream_header` holds before it is written. -/
  staleHeap : ℕ → UInt8
  /-- Does the `n`-th call of `realloc` succeed? -/
  reallocOk : ℕ → Bool
  /-- What the system answers to `prepare_srtp_sender`. -/
  system : SenderSystem
  /-- Does the parser see zero as the result of `server_on_body`? -/
  bodyReturnsZero : HttpMethod → List UInt8 → Bool

/-- The variables of the daemon that the handlers read and write. -/
structure Daemon where
  world : SenderWorld
  streamHeader : Option Block
  haveActiveSrtpReceiver : Bool
  haveActiveClient : Bool
  clientFd : ℕ
  /-- The block behind `last_url`. -/
  lastUrl : List UInt8
  lastUrlSize : ℕ
  /-- The calls of `realloc` so far. -/
  reallocs : ℕ
  /-- What has been done for requests, latest first. -/
  calls : List HandlerCall
  /-- How the process has ended, if it has. -/
  dead : Option Fatal

/-- The string in a block: the bytes before the first zero. -/
def cString (block : List UInt8) : List UInt8 := block.takeWhile fun c => c ≠ 0

/-- What stands behind a terminator does not count. -/
theorem cString_append_zero (data rest : List UInt8) :
    cString (data ++ 0 :: rest) = cString data := by
  induction data with
  | nil => rfl
  | cons c data ih =>
    by_cases hc : c = 0
    · simp [cString, hc]
    · simpa [cString, hc] using ih

theorem cString_of_nonzero {u : List UInt8} (hnz : ∀ c ∈ u, c ≠ 0) : cString u = u := by
  unfold cString
  rw [List.takeWhile_eq_self_iff]
  intro c hc
  simpa using hnz c hc

/-- A block with a terminator holds a string that is shorter than the block. -/
theorem length_cString_lt {block : List UInt8} (h : 0 ∈ block) :
    (cString block).length < block.length := by
  obtain ⟨pre, post, rfl⟩ := List.append_of_mem h
  rw [cString_append_zero, List.length_append, List.length_cons]
  have hle : (cString pre).length ≤ pre.length := (List.takeWhile_sublist _).length_le
  omega

/-! ### `server_on_url` -/

/-- Store the URL in `last_url`, growing the block if it is too small; `none` when that fails. -/
def storeUrl (env : ServerEnv) (data : List UInt8) (d : Daemon) : Option Daemon :=
  if d.lastUrlSize ≤ data.length then
    if env.reallocOk d.reallocs then
      some { d with
        lastUrl := data ++ [0]
        lastUrlSize := data.length + 1
        reallocs := d.reallocs + 1 }
    else none
  else some { d with lastUrl := data ++ 0 :: d.lastUrl.drop (data.length + 1) }

/-- The action of a GET request. -/
def getAction (fd : ℕ) (data : List UInt8) (d : Daemon) : Daemon :=
  if strncmpEq data (ascii "/snapshot") then { d with calls := .snapshot fd :: d.calls }
  else if strncmpEq data (ascii "/live") then
    { d with clientFd := fd, haveActiveClient := true, calls := .live fd :: d.calls }
  else if strncmpEq data (ascii "/stop_srtp") then
    { d with haveActiveSrtpReceiver := false, calls := .stopSrtp fd :: d.calls }
  else d

theorem getAction_stop (fd : ℕ) (d : Daemon) :
    getAction fd (ascii "/stop_srtp") d =
      { d with haveActiveSrtpReceiver := false, calls := .stopSrtp fd :: d.calls } := by
  have hsnap : strncmpEq (ascii "/stop_srtp") (ascii "/snapshot") = false := by decide
  have hlive : strncmpEq (ascii "/stop_srtp") (ascii "/live") = false := by decide
  have hstop : strncmpEq (ascii "/stop_srtp") (ascii "/stop_srtp") = true := by decide
  simp only [getAction, hsnap, hlive, hstop, if_true, Bool.false_eq_true, if_false]

theorem getAction_live (fd : ℕ) (d : Daemon) :
    getAction fd (ascii "/live") d =
      { d with clientFd := fd, haveActiveClient := true, calls := .live fd :: d.calls } := by
  have hsnap : strncmpEq (ascii "/live") (ascii "/snapshot") = false := by decide
  have hlive : strncmpEq (ascii "/live") (ascii "/live") = true := by decide
  simp only [getAction, hsnap, hlive, if_true, Bool.false_eq_true, if_false]

/-- The action of a GET request touches neither the sender nor the stored URL. -/
theorem getAction_keeps (fd : ℕ) (data : List UInt8) (d : Daemon) :
    (getAction fd data d).world = d.world ∧ (getAction fd data d).lastUrl = d.lastUrl ∧
      (getAction fd data d).lastUrlSize = d.lastUrlSize := by
  rw [getAction]
  split
  · exact ⟨rfl, rfl, rfl⟩
  split
  · exact ⟨rfl, rfl, rfl⟩
  split
  · exact ⟨rfl, rfl, rfl⟩
  · exact ⟨rfl, rfl, rfl⟩

/-- `server_on_url`: whether it returns zero, and the daemon. -/
def serverOnUrl (env : ServerEnv) (fd : ℕ) (method : HttpMethod) (data : List UInt8) (d : Daemon) :
    Bool × Daemon :=
  match storeUrl env data d with
  | none => (false, { d with reallocs := d.reallocs + 1 })
  | some d => (true, if method = .get then getAction fd data d else d)

/-! ### `server_on_body` -/

/-- The items of a configuration, in the order in which they are read. -/
def readConfig (env : ServerEnv) (srtpCfg : Option CJson) : Except Fatal CastArgs :=
  match cJSONGetObjectItemCaseSensitive srtpCfg "addr" with
  | none => .error .nullItem
  | some (.string remoteAddress) =>
    match cJSONGetObjectItemCaseSensitive srtpCfg "port" with
    | some (.number port) =>
      match cJSONGetObjectItemCaseSensitive srtpCfg "ssrc" with
      | some (.number ssrc) =>
        match cJSONGetObjectItemCaseSensitive srtpCfg "key" with
        | some (.string key) =>
          .ok
            { rcvrAddr := (env.inetAton remoteAddress).getD env.staleAddr
              receiverPort := valueint port
              ssrc := valueint ssrc
              inputKey := key
              stale := env.staleKey }
        | _ => .error (.assertion .key)
      | _ => .error (.assertion .ssrc)
    | _ => .error (.assertion .port)
  | some _ => .error (.assertion .addr)

/-- The block that a cast sends first, `stream_header`. -/
def Daemon.header (d : Daemon) : Block := d.streamHeader.getD Block.null

/-- What follows `prepare_srtp_sender`: the stream header is sent, then the flag is set. -/
def activate (env : ServerEnv) (d : Daemon) : Except SenderExit SenderWorld → Daemon
  | .error e => { d with dead := some (.exit e) }
  | .ok w =>
    let result := srtpSenderCallback env.crypto d.header.data d.header.length w.ctx
    if result.1 = .returned then
      { d with world := { w with ctx := result.2.1 }, haveActiveSrtpReceiver := true }
    else { d with world := { w with ctx := result.2.1 }, dead := some .sender }

/-- The start of a session. -/
def startSession (env : ServerEnv) (args : CastArgs) (d : Daemon) : Daemon :=
  activate env d (prepareSrtpSender env.system args d.world)

/-- The daemons agree on everything but the session and the life of the process. -/
structure Daemon.SameButSession (d d' : Daemon) : Prop where
  streamHeader : d'.streamHeader = d.streamHeader
  haveActiveClient : d'.haveActiveClient = d.haveActiveClient
  clientFd : d'.clientFd = d.clientFd
  lastUrl : d'.lastUrl = d.lastUrl
  lastUrlSize : d'.lastUrlSize = d.lastUrlSize
  calls : d'.calls = d.calls

/-- The start of a session, whether it succeeds or not, touches nothing else. -/
theorem startSession_keeps (env : ServerEnv) (args : CastArgs) (d : Daemon) :
    d.SameButSession (startSession env args d) := by
  unfold startSession
  cases prepareSrtpSender env.system args d.world with
  | error e => exact ⟨rfl, rfl, rfl, rfl, rfl, rfl⟩
  | ok w =>
    simp only [activate]
    split
    · exact ⟨rfl, rfl, rfl, rfl, rfl, rfl⟩
    · exact ⟨rfl, rfl, rfl, rfl, rfl, rfl⟩

/-- `server_on_body`. -/
def serverOnBody (env : ServerEnv) (fd : ℕ) (method : HttpMethod) (data : List UInt8)
    (d : Daemon) : Daemon :=
  if method = .post then
    if strncmpEq (cString d.lastUrl) (ascii "/srtp_cast_to") then
      let d := { d with calls := .srtpCastTo fd data :: d.calls }
      match readConfig env (env.cJSONParse data) with
      | .error f => { d with dead := some f }
      | .ok args => startSession env args d
    else { d with calls := .unknownCommand fd :: d.calls }
  else d

/-! ### `handle_request` -/

/-- The handlers on the callbacks of one call of the parser, until one returns an error or ends the
process. -/
def runEvents (env : ServerEnv) (fd : ℕ) : List ParserEvent → Daemon → Daemon
  | [], d => d
  | .url method data :: rest, d =>
    let (ok, d) := serverOnUrl env fd method data d
    if ok then runEvents env fd rest d else d
  | .body method data :: rest, d =>
    let d := serverOnBody env fd method data d
    if d.dead.isSome then d
    else if env.bodyReturnsZero method data then runEvents env fd rest d
    else d

/-- `handle_request` on the bytes of one `read`. -/
def handleRequest (env : ServerEnv) (fd : ℕ) (data : List UInt8) (d : Daemon) : Daemon :=
  if d.dead.isSome then d else runEvents env fd (httpParserExecute data) d

/-- The daemon as `main` starts it. -/
def daemonInit (os : FdTable OsObject) : Daemon :=
  { world := senderStart os
    streamHeader := none
    haveActiveSrtpReceiver := false
    haveActiveClient := false
    clientFd := 0
    lastUrl := List.replicate 16 0
    lastUrlSize := 16
    reallocs := 0
    calls := []
    dead := none }

/-- The text `192.168.1.2`. -/
def receiverText : CStr :=
  { chars := ascii "192.168.1.2"
    nonzero := ne_zero_of_all (by decide)
    behind := fun _ => 0 }

/-- Outside, with a parser that reads the port off the length of the body. -/
def sampleEnv : ServerEnv :=
  { crypto := invertingCrypto
    cJSONParse := fun body => some (.object
      [(ascii "addr", .string receiverText), (ascii "port", .number (5004 + body.length)),
        (ascii "ssrc", .number 1), (ascii "key", .string zeroKey)])
    inetAton := fun _ => some 0x0201a8c0
    staleAddr := 0
    staleKey := fun _ => 0
    staleHeap := fun _ => 0
    reallocOk := fun _ => true
    system := ownPorts
    bodyReturnsZero := fun _ _ => true }

end CameraDaemon
