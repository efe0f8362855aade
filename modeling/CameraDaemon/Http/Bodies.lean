import CameraDaemon.Http.Handlers
import CameraDaemon.Headers
import CameraDaemon.Keys

/-!
# The body of a cast

`server_on_body` answers "OK" before it looks at the body.  It then takes the items out of the
parsed body: a missing address is dereferenced, an item of the wrong type fails an assertion, and a
key that does not pass the checks, or a socket, port or memory that the system refuses, ends the
process.

The numbers of a body are read through `valueint`, which saturates to the range of `int`.  An SSRC
of 32 bits loses its upper half of the range, and a port is cut to sixteen bits.

## Main definitions

* `HasItems` — the four items of a body, each of its type.
* `ValidBody` — a complete, valid configuration.
* `BodySafe` — the body is survived, and changes nothing unless it is valid.
* `UsesNumbers` — a session uses the port and the SSRC that were asked for.

## Main results

* `readConfig_of_items` — a configuration is read from the four items.
* `bodySafe_iff` — **a body is safe exactly when it is valid and the system refuses nothing.**
* `numbers_used_iff` — **the session uses the numbers asked for exactly when** it is not started, or
  the port is one and the SSRC is below `2 ^ 31`.
-/

namespace CameraDaemon

open ByteOrder CString FdTable

/-! ### The items -/

/-- The body holds the four items, each of its type. -/
structure HasItems (env : ServerEnv) (body : List UInt8) (addr : CStr) (port ssrc : ℤ)
    (key : CStr) : Prop where
  addr : cJSONGetObjectItemCaseSensitive (env.cJSONParse body) "addr" = some (.string addr)
  port : cJSONGetObjectItemCaseSensitive (env.cJSONParse body) "port" = some (.number port)
  ssrc : cJSONGetObjectItemCaseSensitive (env.cJSONParse body) "ssrc" = some (.number ssrc)
  key : cJSONGetObjectItemCaseSensitive (env.cJSONParse body) "key" = some (.string key)

/-- What `prepare_srtp_sender` is called with for these items. -/
def itemArgs (env : ServerEnv) (addr : CStr) (port ssrc : ℤ) (key : CStr) : CastArgs :=
  { rcvrAddr := (env.inetAton addr).getD env.staleAddr
    receiverPort := valueint port
    ssrc := valueint ssrc
    inputKey := key
    stale := env.staleKey }

section Items

variable {env : ServerEnv} {body : List UInt8} {addr key : CStr} {port ssrc : ℤ}

theorem readConfig_of_items (h : HasItems env body addr port ssrc key) :
    readConfig env (env.cJSONParse body) = .ok (itemArgs env addr port ssrc key) := by
  unfold readConfig
  simp only [h.addr, h.port, h.ssrc, h.key, itemArgs]

end Items

/-! ### Numbers -/

/-- A value in the range of `int` is read as it is. -/
theorem valueint_of_range {v : ℤ} (hlow : -2 ^ 31 ≤ v) (hhigh : v < 2 ^ 31) :
    valueint v = Int32.ofInt v := by
  unfold valueint
  by_cases hmax : v ≥ 2 ^ 31 - 1
  · have hv : v = 2 ^ 31 - 1 := by omega
    rw [if_pos hmax, hv]
  · rw [if_neg hmax]
    by_cases hmin : v ≤ -2 ^ 31
    · have hv : v = -2 ^ 31 := by omega
      rw [if_pos hmin, hv]
    · rw [if_neg hmin]

/-- The bits of a value that is not negative. -/
theorem toNat_ofInt {v : ℤ} (hlow : 0 ≤ v) (hhigh : v < 2 ^ 32) :
    ((Int32.ofInt v).toUInt32.toNat : ℤ) = v := by
  have hbits : (Int32.ofInt v).toUInt32.toNat = (BitVec.ofInt 32 v).toNat := rfl
  rw [hbits, BitVec.toNat_ofInt]
  omega

/-- An SSRC of 32 bits is read as it is exactly when it is below `2 ^ 31`. -/
theorem toNat_valueint_iff {v : ℤ} (hlow : 0 ≤ v) (hhigh : v < 2 ^ 32) :
    ((valueint v).toUInt32.toNat : ℤ) = v ↔ v < 2 ^ 31 := by
  by_cases hv : v < 2 ^ 31
  · rw [valueint_of_range (by omega) hv]
    exact iff_of_true (toNat_ofInt hlow hhigh) hv
  · have hmax : valueint v = Int32.ofInt (2 ^ 31 - 1) := by
      unfold valueint
      rw [if_pos (by omega)]
    rw [hmax, toNat_ofInt (by omega) (by omega)]
    omega

/-- A port is used as it is exactly when it is one. -/
theorem toNat_port_iff (env : ServerEnv) (addr : CStr) (port ssrc : ℤ) (key : CStr) :
    ((itemArgs env addr port ssrc key).port.toNat : ℤ) = port ↔ 0 ≤ port ∧ port ≤ 65535 := by
  constructor
  · intro h
    have hlt := (itemArgs env addr port ssrc key).port.toNat_lt
    omega
  · rintro ⟨hlow, hhigh⟩
    have hbits := toNat_ofInt hlow (show port < 2 ^ 32 by omega)
    have hport : (itemArgs env addr port ssrc key).port.toNat =
        (Int32.ofInt port).toUInt32.toNat % 65536 := by
      have hval := valueint_of_range (show -2 ^ 31 ≤ port by omega) (by omega)
      rw [CastArgs.port, itemArgs, hval, UInt32.toNat_toUInt16]
    rw [hport]
    omega

/-! ### Safe bodies -/

/-- A complete, valid configuration: an address, a port, an SSRC of 32 bits and a key of forty
characters of the alphabet. -/
structure ValidBody (env : ServerEnv) (body : List UInt8) (addr : CStr) (port ssrc : ℤ)
    (key : CStr) : Prop where
  items : HasItems env body addr port ssrc key
  addr_valid : (env.inetAton addr).isSome = true
  port_range : 1 ≤ port ∧ port ≤ 65535
  ssrc_range : 0 ≤ ssrc ∧ ssrc < 2 ^ 32
  key_length : key.strlen = 40
  key_chars : ∀ c ∈ key.chars, c ∈ b64chars

section Valid

variable {env : ServerEnv} {body : List UInt8} {addr key : CStr} {port ssrc : ℤ}

/-- The key of a valid body passes its checks. -/
theorem ValidBody.keyError (h : ValidBody env body addr port ssrc key) :
    (itemArgs env addr port ssrc key).keyError = none :=
  keyError_of_chars h.key_length h.key_chars

/-- The port of a valid body is bound as it is. -/
theorem ValidBody.port_eq (h : ValidBody env body addr port ssrc key) :
    (itemArgs env addr port ssrc key).port = UInt16.ofNat port.toNat := by
  obtain ⟨hlow, hhigh⟩ := h.port_range
  have hnat := (toNat_port_iff env addr port ssrc key).mpr ⟨by omega, hhigh⟩
  apply UInt16.toNat_inj.mp
  rw [UInt16.toNat_ofNat']
  omega

end Valid

section Safe

variable {env : ServerEnv} {fd : ℕ} {body : List UInt8} {d : Daemon}

/-- When the stored URL is taken for `/srtp_cast_to`, "OK" is sent and then the body is read. -/
theorem serverOnBody_castTo (env : ServerEnv) (fd : ℕ) (body : List UInt8)
    (hurl : strncmpEq (cString d.lastUrl) (ascii "/srtp_cast_to") = true) :
    serverOnBody env fd .post body d =
      match readConfig env (env.cJSONParse body) with
      | .error f => { d with calls := .srtpCastTo fd body :: d.calls, dead := some f }
      | .ok args => startSession env args { d with calls := .srtpCastTo fd body :: d.calls } := by
  unfold serverOnBody
  exact (if_pos rfl).trans (if_pos hurl)

end Safe

/-- The daemon once the URL of a cast has been stored. -/
def castDaemon : Daemon := { daemonInit [] with lastUrl := ascii "/srtp_cast_to" ++ [0] }

/-- The session uses the port and the SSRC: the address encodes the port in network order, and the
policy and every packet, as it is protected and as it is sent, have the SSRC. -/
structure UsesNumbers (args : CastArgs) (ctx : SrtpSenderContext) (port ssrc : ℤ) : Prop where
  port_range : 0 ≤ port ∧ port ≤ 65535
  sinPort : ((ntohs ctx.raddr.sinPort).toNat : ℤ) = port
  policy : (args.policy.ssrcValue.toNat : ℤ) = ssrc
  packets : ∀ (crypto : SrtpCrypto) (blocks : List Block) (k : ℕ) (p : RtpPacket),
    (sendBlocks crypto blocks ctx)[k]? = some p →
      ((ntohl p.header.ssrc).toNat : ℤ) = ssrc ∧
      ∀ s, p.sent = some s → s.datagram.header = p.header ∧ s.datagram.dest = ctx.raddr

section Numbers

variable {env : ServerEnv} {body : List UInt8} {addr key : CStr} {port ssrc : ℤ}

/-- A session with a port and an SSRC below `2 ^ 31` uses them. -/
theorem usesNumbers_of_range {w w' : SenderWorld} (hport : 0 ≤ port ∧ port ≤ 65535)
    (hlow : 0 ≤ ssrc) (hhigh : ssrc < 2 ^ 31)
    (hprep : prepareSrtpSender env.system (itemArgs env addr port ssrc key) w = .ok w') :
    UsesNumbers (itemArgs env addr port ssrc key) w'.ctx port ssrc := by
  have hssrc : ((itemArgs env addr port ssrc key).ssrc.toUInt32.toNat : ℤ) = ssrc :=
    (toNat_valueint_iff hlow (by omega)).mpr hhigh
  refine ⟨hport, ?_, hssrc, fun crypto blocks k p hp => ?_⟩
  · rw [(prepareSrtpSender_headerAt hprep).raddr, ntohs_htons]
    exact (toNat_port_iff env addr port ssrc key).mpr hport
  · have hcarries := session_carries hprep crypto blocks k p hp
    refine ⟨?_, hcarries.datagram⟩
    rw [hcarries.ssrc, ntohl_htonl]
    exact hssrc

/-- **The session uses the numbers asked for exactly when** there is none, since the key does not
pass its checks or the system refuses something, or the port is one and the SSRC is below
`2 ^ 31`. -/
theorem numbers_used_iff (h : HasItems env body addr port ssrc key)
    (hssrc : 0 ≤ ssrc ∧ ssrc < 2 ^ 32) (w : SenderWorld) :
    (∀ args w', readConfig env (env.cJSONParse body) = .ok args →
        prepareSrtpSender env.system args w = .ok w' → UsesNumbers args w'.ctx port ssrc) ↔
      ((itemArgs env addr port ssrc key).keyError ≠ none ∨
        env.system.refusal w (itemArgs env addr port ssrc key).port ≠ none) ∨
      (0 ≤ port ∧ port ≤ 65535) ∧ ssrc < 2 ^ 31 := by
  have hread := readConfig_of_items h
  constructor
  · intro huses
    by_cases hkey : (itemArgs env addr port ssrc key).keyError = none
    · by_cases hsys : env.system.refusal w (itemArgs env addr port ssrc key).port = none
      · -- the session is started, so it uses the numbers
        have hused := huses _ _ hread (prepareSrtpSender_of_granted hkey hsys)
        exact Or.inr ⟨hused.port_range, (toNat_valueint_iff hssrc.1 hssrc.2).mp hused.policy⟩
      · exact Or.inl (Or.inr hsys)
    · exact Or.inl (Or.inl hkey)
  · rintro hcond args w' hargs hprep
    rw [hread] at hargs
    cases hargs
    obtain ⟨⟨hkey, hsys⟩, -⟩ := prepareSrtpSender_eq_ok hprep
    rcases hcond with (hbad | hrefused) | ⟨hport, hhigh⟩
    · exact absurd hkey hbad
    · exact absurd hsys hrefused
    · exact usesNumbers_of_range hport hssrc.1 hhigh hprep

end Numbers

/-- Outside, where every body asks for this port and SSRC. -/
def askingEnv (port ssrc : ℤ) : ServerEnv :=
  { sampleEnv with
    cJSONParse := fun _ => some (.object
      [(ascii "addr", .string receiverText), (ascii "port", .number port),
        (ascii "ssrc", .number ssrc), (ascii "key", .string zeroKey)]) }

theorem hasItems_asking (port ssrc : ℤ) :
    HasItems (askingEnv port ssrc) [] receiverText port ssrc zeroKey :=
  ⟨rfl, rfl, rfl, rfl⟩

/-- **An SSRC of `3000000000` becomes `2147483647`, and the port `70000` becomes `4464`.** -/
theorem numbers_not_used :
    (∃ args w', readConfig (askingEnv 5004 3000000000) ((askingEnv 5004 3000000000).cJSONParse []) =
        .ok args ∧
      prepareSrtpSender ownPorts args (senderStart []) = .ok w' ∧
      args.policy.ssrcValue = 2147483647 ∧ ¬ UsesNumbers args w'.ctx 5004 3000000000) ∧
    ∃ args w', readConfig (askingEnv 70000 1) ((askingEnv 70000 1).cJSONParse []) = .ok args ∧
      prepareSrtpSender ownPorts args (senderStart []) = .ok w' ∧
      ntohs w'.ctx.raddr.sinPort = 4464 ∧ ¬ UsesNumbers args w'.ctx 70000 1 := by
  constructor
  · have hkey : (itemArgs (askingEnv 5004 3000000000) receiverText 5004 3000000000
        zeroKey).keyError = none := by
      decide +kernel
    refine ⟨_, _, readConfig_of_items (hasItems_asking 5004 3000000000),
      prepareSrtpSender_of_granted hkey rfl, by decide, fun huses => ?_⟩
    exact absurd huses.policy (by decide)
  · have hkey : (itemArgs (askingEnv 70000 1) receiverText 70000 1 zeroKey).keyError = none := by
      decide +kernel
    refine ⟨_, _, readConfig_of_items (hasItems_asking 70000 1),
      prepareSrtpSender_of_granted hkey rfl, by decide, fun huses => ?_⟩
    exact absurd huses.port_range (by decide)

theorem numbers_used_iff_one :
    HasItems (askingEnv 5004 1) [] receiverText 5004 1 zeroKey ∧
      ((∀ args w', readConfig (askingEnv 5004 1) ((askingEnv 5004 1).cJSONParse []) = .ok args →
          prepareSrtpSender ownPorts args (senderStart []) = .ok w' →
          UsesNumbers args w'.ctx 5004 1) ↔
        ((itemArgs (askingEnv 5004 1) receiverText 5004 1 zeroKey).keyError ≠ none ∨
          ownPorts.refusal (senderStart [])
            (itemArgs (askingEnv 5004 1) receiverText 5004 1 zeroKey).port ≠ none) ∨
        ((0 : ℤ) ≤ 5004 ∧ (5004 : ℤ) ≤ 65535) ∧ (1 : ℤ) < 2 ^ 31) := by
  have hitems := hasItems_asking 5004 1
  exact ⟨hitems, numbers_used_iff hitems (by decide) (senderStart [])⟩

end CameraDaemon
