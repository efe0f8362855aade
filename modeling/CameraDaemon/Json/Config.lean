import CameraDaemon.Http.Bodies
import CameraDaemon.Http.Casts
import CameraDaemon.Json.Standard

/-!
# Casts that are asked for in JSON

The daemon with the parser of its bodies.  The handlers look at an item through what they read of
it: the characters of a string, and a number rounded towards zero.

A client that posts a JSON text of an object with an address, a port, an SSRC and a key starts the
session that it asks for, in whatever order, with whatever white space, escapes and further members
the text is written, if the two numbers are in the range of `int`.  A session is started for nothing
else than for an object with the four items; numbers that are no integers, or out of that range, are
rounded towards zero and saturated then.

## Main definitions

* `itemView` — an item, as the handlers look at it.
* `ServerEnv.parsing` — outside, with the parser of the bodies.
* `AsksFor` — the four items of an object.

## Main results

* `valueint_wholePart` — the handlers read the integer that the parser has stored.
* `serverOnBody_json` — **a JSON text that asks for a cast starts it.**
* `serverOnBody_started` — **a session is started for an object that asks for it only.**
-/

namespace CameraDaemon

open CString FdTable Json Strtod

/-! ### What the handlers look at -/

/-- The string in the block that `parse_string` has filled, with `behind` behind the block. -/
def blockString (bytes : List UInt8) (behind : ℕ → UInt8) : CStr where
  chars := cString bytes
  nonzero := fun c hc => by simpa using List.mem_takeWhile_imp hc
  behind := fun i => ((bytes ++ [0]).drop ((cString bytes).length + 1)).getD i (behind i)

/-- A `double` rounded towards zero; an infinite one is out of the range of `int`. -/
def wholePart : Double → ℤ
  | .finite q => truncate q
  | .infinite false => 2 ^ 31
  | .infinite true => -2 ^ 31

mutual

/-- An item, as the handlers look at it. -/
def itemView (behind : ℕ → UInt8) : CJsonItem → CJson
  | .null => .null
  | .bool b => .bool b
  | .number n => .number (wholePart n.valuedouble)
  | .string s => .string (blockString s behind)
  | .array _ => .array
  | .object members => .object (membersView behind members)

def membersView (behind : ℕ → UInt8) :
    List (List UInt8 × CJsonItem) → List (List UInt8 × CJson)
  | [] => []
  | m :: members => memberView behind m :: membersView behind members

def memberView (behind : ℕ → UInt8) : List UInt8 × CJsonItem → List UInt8 × CJson
  | (name, item) => (cString name, itemView behind item)

end

/-- Outside, with the parser of the bodies. -/
def ServerEnv.parsing (env : ServerEnv) (behind : ℕ → UInt8) : ServerEnv :=
  { env with cJSONParse := fun body => (CameraDaemon.cJSONParse body).map (itemView behind) }

/-! ### Numbers -/

theorem le_truncate {m : ℤ} (hm : 0 < m) (q : ℚ) : m ≤ truncate q ↔ (m : ℚ) ≤ q := by
  rw [truncate]
  split
  · next hq =>
    have hceil : ⌈q⌉ ≤ 0 := Int.ceil_le.mpr (by exact_mod_cast hq.le)
    have hm' : (0 : ℚ) < m := by exact_mod_cast hm
    exact iff_of_false (by omega) (not_le.mpr (hq.trans hm'))
  · exact Int.le_floor

theorem truncate_le {m : ℤ} (hm : m < 0) (q : ℚ) : truncate q ≤ m ↔ q ≤ m := by
  rw [truncate]
  split
  · exact Int.ceil_le
  · next hq =>
    have hfloor : 0 ≤ ⌊q⌋ := Int.floor_nonneg.mpr (not_lt.mp hq)
    have hm' : (m : ℚ) < 0 := by exact_mod_cast hm
    exact iff_of_false (by omega) (not_le.mpr (hm'.trans_le (not_lt.mp hq)))

/-- The handlers read the integer that the parser has stored. -/
theorem valueint_wholePart (number : Double) :
    valueint (wholePart number) = (CJsonNumber.ofDouble number).valueint := by
  cases number with
  | infinite negative =>
    cases negative with
    | false => exact if_pos (by decide)
    | true => exact (if_neg (by decide)).trans (if_pos (by decide))
  | finite q =>
    have hmax : truncate q ≥ 2 ^ 31 - 1 ↔ q ≥ 2 ^ 31 - 1 := by
      rw [ge_iff_le, le_truncate (by decide)]
      simp only [Int.cast_sub, Int.cast_pow, Int.cast_ofNat, Int.cast_one]
    have hmin : truncate q ≤ -2 ^ 31 ↔ q ≤ -2 ^ 31 := by
      rw [truncate_le (by decide)]
      simp only [Int.cast_neg, Int.cast_pow, Int.cast_ofNat]
    simp only [wholePart, CJsonNumber.ofDouble, valueint, hmax, hmin]

/-! ### The items of an object -/

/-- The first member of that name. -/
def firstMember (members : List (List UInt8 × CJsonItem)) (name : String) : Option CJsonItem :=
  (members.find? fun m => cString m.1 = ascii name).map Prod.snd

theorem getObjectItem_view (behind : ℕ → UInt8) (members : List (List UInt8 × CJsonItem))
    (name : String) :
    cJSONGetObjectItemCaseSensitive (some (itemView behind (.object members))) name =
      (firstMember members name).map (itemView behind) := by
  simp only [itemView, cJSONGetObjectItemCaseSensitive, firstMember]
  induction members with
  | nil => rfl
  | cons m members ih =>
    obtain ⟨key, item⟩ := m
    simp only [membersView, memberView, List.find?_cons]
    by_cases hkey : cString key = ascii name
    · simp [hkey]
    · simpa [hkey] using ih

theorem wholePart_ofInt {n : ℤ} (h : |n| < 2 ^ 53) :
    wholePart (CJsonNumber.ofInt n).valuedouble = n := by
  simp only [CJsonNumber.ofInt, CJsonNumber.ofDouble, toDouble_intCast h, wholePart, truncate]
  split
  · exact Int.ceil_intCast n
  · exact Int.floor_intCast n

/-- The object has an address, a port, an SSRC and a key. -/
structure AsksFor (members : List (List UInt8 × CJsonItem)) (addr : List UInt8)
    (port ssrc : CJsonNumber) (key : List UInt8) : Prop where
  addr : firstMember members "addr" = some (.string addr)
  port : firstMember members "port" = some (.number port)
  ssrc : firstMember members "ssrc" = some (.number ssrc)
  key : firstMember members "key" = some (.string key)

section Casts

variable {env : ServerEnv} {behind : ℕ → UInt8} {body : List UInt8} {fd : ℕ} {d : Daemon}
  {members : List (List UInt8 × CJsonItem)} {addr key : List UInt8}

theorem parsing_object (h : cJSONParse body = some (.object members)) (name : String) :
    cJSONGetObjectItemCaseSensitive ((env.parsing behind).cJSONParse body) name =
      (firstMember members name).map (itemView behind) := by
  rw [← getObjectItem_view]
  simp only [ServerEnv.parsing, h, Option.map_some]

theorem hasItems_parsing {port ssrc : CJsonNumber} (h : cJSONParse body = some (.object members))
    (hasks : AsksFor members addr port ssrc key) :
    HasItems (env.parsing behind) body (blockString addr behind) (wholePart port.valuedouble)
      (wholePart ssrc.valuedouble) (blockString key behind) where
  addr := by rw [parsing_object h, hasks.addr]; rfl
  port := by rw [parsing_object h, hasks.port]; rfl
  ssrc := by rw [parsing_object h, hasks.ssrc]; rfl
  key := by rw [parsing_object h, hasks.key]; rfl

/-- A parsed object that asks for a cast starts it, with its numbers truncated and saturated. -/
theorem serverOnBody_parsed {port ssrc : CJsonNumber}
    (hparse : cJSONParse body = some (.object members))
    (hasks : AsksFor members addr port ssrc key)
    (hurl : strncmpEq (cString d.lastUrl) (ascii "/srtp_cast_to") = true) :
    serverOnBody (env.parsing behind) fd .post body d =
      startSession (env.parsing behind)
        (itemArgs (env.parsing behind) (blockString addr behind) (wholePart port.valuedouble)
          (wholePart ssrc.valuedouble) (blockString key behind))
        { d with calls := .srtpCastTo fd body :: d.calls } := by
  rw [serverOnBody_castTo _ fd body hurl, readConfig_of_items (hasItems_parsing hparse hasks)]

/-- Anything may stand behind an object. -/
theorem follows_object (u : List UInt8) : Follows (.object members) u := by
  intro n hn
  cases hn

/-- A number in the range of `int` is read as it is. -/
theorem valueint_wholePart_ofInt (v : Int32) :
    valueint (wholePart (CJsonNumber.ofInt v.toInt).valuedouble) = v := by
  have hlow := v.le_toInt
  have hhigh := v.toInt_lt
  have hsmall : |v.toInt| < 2 ^ 53 := abs_lt.mpr ⟨by omega, by omega⟩
  rw [wholePart_ofInt hsmall, valueint_of_range hlow hhigh, Int32.ofInt_toInt]

/-- **A JSON text that asks for a cast starts it**, with the address, the numbers and the key of the
text, if the numbers are in the range of `int`. -/
theorem serverOnBody_json {u : List UInt8} {port ssrc : Int32}
    (hbegins : Begins jsonLexicon body (.object members) u)
    (hasks : AsksFor members addr (.ofInt port.toInt) (.ofInt ssrc.toInt) key)
    (hurl : strncmpEq (cString d.lastUrl) (ascii "/srtp_cast_to") = true) :
    serverOnBody (env.parsing behind) fd .post body d =
      startSession (env.parsing behind)
        { rcvrAddr := (env.inetAton (blockString addr behind)).getD env.staleAddr
          receiverPort := port
          ssrc := ssrc
          inputKey := blockString key behind
          stale := env.staleKey }
        { d with calls := .srtpCastTo fd body :: d.calls } := by
  rw [serverOnBody_parsed (cJSONParse_of_begins hbegins (follows_object u)) hasks hurl, itemArgs,
    valueint_wholePart_ofInt port, valueint_wholePart_ofInt ssrc]
  rfl

/-- The body of a cast to `192.168.1.2`. -/
def sampleBody : List UInt8 :=
  ascii "\x7b\"addr\": \"192.168.1.2\", \"port\": 5004, \"ssrc\": 1, \"key\": \"" ++
    (List.replicate 40 65 ++ ascii "\"\x7d")

def sampleMembers : List (List UInt8 × CJsonItem) :=
  [(ascii "addr", .string (ascii "192.168.1.2")), (ascii "port", .number (.ofInt 5004)),
    (ascii "ssrc", .number (.ofInt 1)), (ascii "key", .string (List.replicate 40 65))]

theorem asksFor_sample : AsksFor sampleMembers (ascii "192.168.1.2") (.ofInt 5004) (.ofInt 1)
    (List.replicate 40 65) := ⟨rfl, rfl, rfl, rfl⟩

theorem begins_sample : Begins jsonLexicon sampleBody (.object sampleMembers) [] := by
  have hspace : jsonLexicon.Spaces [32] := fun c hc => .inl (List.mem_singleton.mp hc)
  have hempty : jsonLexicon.Spaces [] := fun c hc => absurd hc List.not_mem_nil
  have haddr : jsonLexicon.Text 0 (.string (ascii "192.168.1.2")) _ :=
    Lexicon.Scalar.string (quoted_plain (by decide))
  have hport : jsonLexicon.Text 0 (.number (.ofInt 5004)) (ascii "5004") :=
    Lexicon.Scalar.number (num_digits (by decide) (by decide) (by decide) (by decide))
  have hssrc : jsonLexicon.Text 0 (.number (.ofInt 1)) (ascii "1") :=
    Lexicon.Scalar.number (num_digits (by decide) (by decide) (by decide) (by decide))
  have hkey : jsonLexicon.Text 0 (.string (List.replicate 40 65)) _ :=
    Lexicon.Scalar.string (quoted_plain (by decide))
  have hmembers : jsonLexicon.Separated (jsonLexicon.Member (jsonLexicon.Text 0)) sampleMembers _ :=
    .cons hempty (member_plain (by decide) haddr) hempty
      (.cons hspace (member_plain (by decide) hport) hempty
      (.cons hspace (member_plain (by decide) hssrc) hempty
      (.last hspace (member_plain (by decide) hkey) hempty)))
  have htext : jsonLexicon.Text 1 (.object sampleMembers) _ := .inr (.object hmembers)
  refine ⟨[], [], _, ?_, .inl rfl, hempty, htext.mono (by decide)⟩
  decide

theorem serverOnBody_json_sample :
    serverOnBody (sampleEnv.parsing fun _ => 0) 4 .post sampleBody castDaemon =
      startSession (sampleEnv.parsing fun _ => 0)
        { rcvrAddr :=
            (sampleEnv.inetAton (blockString (ascii "192.168.1.2") fun _ => 0)).getD
              sampleEnv.staleAddr
          receiverPort := 5004
          ssrc := 1
          inputKey := blockString (List.replicate 40 65) fun _ => 0
          stale := sampleEnv.staleKey }
        { castDaemon with calls := [.srtpCastTo 4 sampleBody] } :=
  serverOnBody_json begins_sample asksFor_sample (by decide)

/-- The items that a configuration is read from. -/
theorem hasItems_of_readConfig {env : ServerEnv} {args : CastArgs}
    (h : readConfig env (env.cJSONParse body) = .ok args) :
    ∃ addr port ssrc key, HasItems env body addr port ssrc key ∧
      args = itemArgs env addr port ssrc key := by
  unfold readConfig at h
  split at h
  · cases h
  · next addr haddr =>
    split at h
    · next port hport =>
      split at h
      · next ssrc hssrc =>
        split at h
        · next key hkey =>
          cases h
          exact ⟨addr, port, ssrc, key, ⟨haddr, hport, hssrc, hkey⟩, rfl⟩
        · cases h
      · cases h
    · cases h
  · cases h

theorem itemView_eq_string {item : CJsonItem} {s : CStr}
    (h : itemView behind item = .string s) :
    ∃ bytes, item = .string bytes ∧ s = blockString bytes behind := by
  cases item with
  | string bytes => exact ⟨bytes, rfl, (CJson.string.inj h).symm⟩
  | _ => cases h

theorem itemView_eq_number {item : CJsonItem} {value : ℤ}
    (h : itemView behind item = .number value) :
    ∃ n, item = .number n ∧ value = wholePart n.valuedouble := by
  cases item with
  | number n => exact ⟨n, rfl, (CJson.number.inj h).symm⟩
  | _ => cases h

/-- Only an object has items. -/
theorem object_of_item {name : String} {item : CJson}
    (h : cJSONGetObjectItemCaseSensitive ((env.parsing behind).cJSONParse body) name = some item) :
    ∃ members, cJSONParse body = some (.object members) := by
  simp only [ServerEnv.parsing] at h
  cases hparse : cJSONParse body with
  | none =>
    rw [hparse] at h
    cases h
  | some v =>
    rw [hparse] at h
    cases v with
    | object members => exact ⟨members, rfl⟩
    | _ => cases h

/-- The four items are in the text. -/
theorem asksFor_of_hasItems {a k : CStr} {p s : ℤ}
    (h : HasItems (env.parsing behind) body a p s k) :
    ∃ members addr port ssrc key, cJSONParse body = some (.object members) ∧
      AsksFor members addr port ssrc key ∧ a = blockString addr behind ∧
      p = wholePart port.valuedouble ∧ s = wholePart ssrc.valuedouble ∧
      k = blockString key behind := by
  obtain ⟨members, hparse⟩ := object_of_item h.addr
  obtain ⟨haddr, hport, hssrc, hkey⟩ := h
  rw [parsing_object hparse, Option.map_eq_some_iff] at haddr hport hssrc hkey
  obtain ⟨_, haddr, hview⟩ := haddr
  obtain ⟨addr, rfl, ha⟩ := itemView_eq_string hview
  obtain ⟨_, hport, hview⟩ := hport
  obtain ⟨port, rfl, hp⟩ := itemView_eq_number hview
  obtain ⟨_, hssrc, hview⟩ := hssrc
  obtain ⟨ssrc, rfl, hs⟩ := itemView_eq_number hview
  obtain ⟨_, hkey, hview⟩ := hkey
  obtain ⟨key, rfl, hk⟩ := itemView_eq_string hview
  exact ⟨members, addr, port, ssrc, key, hparse, ⟨haddr, hport, hssrc, hkey⟩, ha, hp, hs, hk⟩

/-- **A session is started for an object that asks for it only**, at the front of the body, and with
the address, the key and the numbers of the object, rounded towards zero and saturated. -/
theorem serverOnBody_started {method : HttpMethod} (hidle : d.haveActiveSrtpReceiver = false)
    (hstarted :
      (serverOnBody (env.parsing behind) fd method body d).haveActiveSrtpReceiver = true) :
    ∃ members addr port ssrc key u, Begins cJSONLexicon body (.object members) u ∧
      AsksFor members addr port ssrc key ∧
      serverOnBody (env.parsing behind) fd method body d =
        startSession (env.parsing behind)
          (itemArgs (env.parsing behind) (blockString addr behind) (wholePart port.valuedouble)
            (wholePart ssrc.valuedouble) (blockString key behind))
          { d with calls := .srtpCastTo fd body :: d.calls } := by
  by_cases hpost : method = .post
  swap
  · rw [serverOnBody, if_neg hpost, hidle] at hstarted
    cases hstarted
  subst hpost
  by_cases hurl : strncmpEq (cString d.lastUrl) (ascii "/srtp_cast_to") = true
  swap
  · rw [serverOnBody, if_pos rfl, if_neg hurl] at hstarted
    rw [hidle] at hstarted
    cases hstarted
  rw [serverOnBody_castTo _ fd body hurl] at hstarted ⊢
  cases hread : readConfig (env.parsing behind) ((env.parsing behind).cJSONParse body) with
  | error f =>
    simp only [hread, hidle, Bool.false_eq_true] at hstarted
  | ok args =>
    obtain ⟨a, p, s, k, hitems, rfl⟩ := hasItems_of_readConfig hread
    obtain ⟨members, addr, port, ssrc, key, hparse, hasks, rfl, rfl, rfl, rfl⟩ :=
      asksFor_of_hasItems hitems
    obtain ⟨u, hbegins⟩ := begins_of_cJSONParse hparse
    exact ⟨members, addr, port, ssrc, key, u, hbegins, hasks, rfl⟩

theorem sampleBody_starts :
    (serverOnBody (sampleEnv.parsing fun _ => 0) 4 .post sampleBody
      castDaemon).haveActiveSrtpReceiver = true := by
  have hparse := cJSONParse_of_begins begins_sample (follows_object [])
  rw [serverOnBody_parsed hparse asksFor_sample (by decide), wholePart_ofInt (by decide),
    wholePart_ofInt (by decide)]
  obtain ⟨ctx, hstart⟩ := @startSession_of_granted (sampleEnv.parsing fun _ => 0)
    (itemArgs (sampleEnv.parsing fun _ => 0) (blockString (ascii "192.168.1.2") fun _ => 0) 5004 1
      (blockString (List.replicate 40 65) fun _ => 0))
    { castDaemon with calls := .srtpCastTo 4 sampleBody :: castDaemon.calls }
    (keyError_of_chars (by decide) fun c hc => by
      rw [List.eq_of_mem_replicate ((List.takeWhile_sublist _).subset hc)]
      decide)
    rfl (by decide)
  rw [hstart]

theorem serverOnBody_started_sample :
    ∃ members addr port ssrc key u, Begins cJSONLexicon sampleBody (.object members) u ∧
      AsksFor members addr port ssrc key ∧
      serverOnBody (sampleEnv.parsing fun _ => 0) 4 .post sampleBody castDaemon =
        startSession (sampleEnv.parsing fun _ => 0)
          (itemArgs (sampleEnv.parsing fun _ => 0) (blockString addr fun _ => 0)
            (wholePart port.valuedouble) (wholePart ssrc.valuedouble)
            (blockString key fun _ => 0))
          { castDaemon with calls := .srtpCastTo 4 sampleBody :: castDaemon.calls } :=
  serverOnBody_started rfl sampleBody_starts

end Casts

end CameraDaemon
