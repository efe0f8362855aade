import CameraDaemon.Srtp.AesIcm
import Mathlib.Data.List.GetD

/-!
# Deriving the keys of a session

A stream is set up from one master key and salt.  The keys it works with are keystream: counter mode
is run under the master key with a label in the nonce, once for each key, and what it makes of
zeros is the key.

## Main definitions

* `SrtpPrfLabel`, `srtpKdfInit`, `srtpKdfGenerate` — the key derivation function.
* `SrtpSessionKeys`, `srtpStreamInitKeys` — the keys of a stream, for ciphers in counter mode.

## Main results

* `srtpStreamInitKeys_spec` — the derivation never fails, and every key is the beginning of the
  keystream of its label.
* `kdfCounter_injective` — no counter goes into two derived keys.
* `session_keys_differ` — **the keys of a stream are pairwise different**, whatever the master key
  is.
-/

namespace CameraDaemon

open Rijndael Keystream

/-- `srtp_prf_label`. -/
inductive SrtpPrfLabel
  | rtpEncryption
  | rtpMsgAuth
  | rtpSalt
  | rtcpEncryption
  | rtcpMsgAuth
  | rtcpSalt
  | rtpHeaderEncryption
  | rtpHeaderSalt
  deriving DecidableEq, Repr

/-- The value of a label. -/
def SrtpPrfLabel.value : SrtpPrfLabel → UInt8
  | .rtpEncryption => 0x00
  | .rtpMsgAuth => 0x01
  | .rtpSalt => 0x02
  | .rtcpEncryption => 0x03
  | .rtcpMsgAuth => 0x04
  | .rtcpSalt => 0x05
  | .rtpHeaderEncryption => 0x06
  | .rtpHeaderSalt => 0x07

/-- A new cipher in counter mode, allocated and given its key. -/
def initIcm (keyLen : ℕ) (key : ℕ → UInt8) : Option SrtpAesIcmCtx := do
  let c ← srtpAesIcmAlloc keyLen
  match srtpAesIcmContextInit c key with
  | (.ok, c) => some c
  | _ => none

/-- `srtp_kdf_init`.  A length of 38 asks for a cipher with 192 bits, which is not built in. -/
def srtpKdfInit (key : ℕ → UInt8) (keyLen : ℕ) : Option SrtpAesIcmCtx :=
  if keyLen = 46 ∨ keyLen = 30 then initIcm keyLen key else none

/-- The nonce of a label: its eighth octet. -/
def SrtpPrfLabel.nonce (label : SrtpPrfLabel) : V128 :=
  setV8 (Vector.replicate 16 0) 7 label.value

/-- `srtp_kdf_generate`: the context afterwards and the octets of the key. -/
def srtpKdfGenerate (kdf : SrtpAesIcmCtx) (label : SrtpPrfLabel) (length : ℕ) :
    Option (SrtpAesIcmCtx × List UInt8) :=
  match srtpAesIcmEncrypt (srtpAesIcmSetIv kdf label.nonce) (List.replicate length 0) with
  | (.ok, kdf, key) => some (kdf, key)
  | _ => none

/-- `srtp_session_keys_t`, without the key limit and identifier. -/
structure SrtpSessionKeys where
  rtpCipher : SrtpAesIcmCtx
  rtpAuthKey : List UInt8
  rtcpCipher : SrtpAesIcmCtx
  rtcpAuthKey : List UInt8

/-- A cipher for a derived key and the salt behind it. -/
def initSessionCipher (keyLen : ℕ) (key salt : List UInt8) : Option SrtpAesIcmCtx :=
  initIcm keyLen fun i => (key ++ salt).getD i 0

/-- `srtp_stream_init_keys` for ciphers in counter mode; `none` for `srtp_err_status_init_fail`.
The lengths are those of the policy: key and salt of the ciphers, and the keys of the
authentication functions.  The branch for encrypted header extensions is left out, and so are the
calls of `srtp_auth_init` with the authentication keys. -/
def srtpStreamInitKeys (masterKey : List UInt8) (rtpKeylen rtcpKeylen : ℕ)
    (rtpAuthLen rtcpAuthLen : ℕ) : Option SrtpSessionKeys := do
  let kdfKeylen := if 30 < rtpKeylen ∨ 30 < rtcpKeylen then 46 else 30
  -- the master key with zeros behind it
  let tmpKey := fun i => if i < rtpKeylen then masterKey.getD i 0 else 0
  let kdf ← srtpKdfInit tmpKey kdfKeylen
  let (kdf, rtpKey) ← srtpKdfGenerate kdf .rtpEncryption (rtpKeylen - srtpSaltLen)
  let (kdf, rtpSalt) ← srtpKdfGenerate kdf .rtpSalt srtpSaltLen
  let rtpCipher ← initSessionCipher rtpKeylen rtpKey rtpSalt
  let (kdf, rtpAuthKey) ← srtpKdfGenerate kdf .rtpMsgAuth rtpAuthLen
  let (kdf, rtcpKey) ← srtpKdfGenerate kdf .rtcpEncryption (rtcpKeylen - srtpSaltLen)
  let (kdf, rtcpSalt) ← srtpKdfGenerate kdf .rtcpSalt srtpSaltLen
  let rtcpCipher ← initSessionCipher rtcpKeylen rtcpKey rtcpSalt
  let (_, rtcpAuthKey) ← srtpKdfGenerate kdf .rtcpMsgAuth rtcpAuthLen
  pure { rtpCipher, rtpAuthKey, rtcpCipher, rtcpAuthKey }

/-! ### The keystream of a label -/

/-- The counter the keystream of a label starts from. -/
def kdfBase (salt : V128) (label : SrtpPrfLabel) : V128 := v128XorEq salt label.nonce

/-- The key of a label: the beginning of its keystream. -/
def kdfKey (kdf : SrtpAesIcmCtx) (label : SrtpPrfLabel) (length : ℕ) : List UInt8 :=
  icmMix kdf.expandedKey (kdfBase kdf.offset label) 0 (List.replicate length 0)

/-- The last two octets of a salt are zero, so that block counters start from zero. -/
def ZeroEnd (salt : V128) : Prop := v8 salt 14 = 0 ∧ v8 salt 15 = 0

theorem getElem_v128XorEq (x y : V128) {i : ℕ} (hi : i < 16) : (v128XorEq x y)[i] = x[i] ^^^ y[i] := by
  simp [v128XorEq]

theorem blockIndex_kdfBase {salt : V128} (h : ZeroEnd salt) (label : SrtpPrfLabel) :
    blockIndex (kdfBase salt label) = 0 := by
  have e₁ : salt[14] = 0 := h.1
  have e₂ : salt[15] = 0 := h.2
  have h₁ : (kdfBase salt label)[14] = 0 := by
    rw [kdfBase, getElem_v128XorEq, e₁, SrtpPrfLabel.nonce, getElem_setV8 _ (by decide) (by decide),
      if_neg (by decide), Vector.getElem_replicate, UInt8.xor_self]
  have h₂ : (kdfBase salt label)[15] = 0 := by
    rw [kdfBase, getElem_v128XorEq, e₂, SrtpPrfLabel.nonce, getElem_setV8 _ (by decide) (by decide),
      if_neg (by decide), Vector.getElem_replicate, UInt8.xor_self]
  show ((kdfBase salt label)[14]).toNat * 256 + ((kdfBase salt label)[15]).toNat = 0
  rw [h₁, h₂]
  rfl

/-- A derivation gives the beginning of the keystream and leaves the key and the salt for the
next. -/
theorem srtpKdfGenerate_spec {kdf : SrtpAesIcmCtx} (h : ZeroEnd kdf.offset) (label : SrtpPrfLabel)
    {length : ℕ} (hlen : length ≤ 0xffff) :
    ∃ kdf', srtpKdfGenerate kdf label length = some (kdf', kdfKey kdf label length) ∧
      kdf'.offset = kdf.offset ∧ kdf'.expandedKey = kdf.expandedKey := by
  have hroom : blockIndex (v128XorEq kdf.offset label.nonce) +
      (List.replicate length (0 : UInt8)).length ≤ 0xffff := by
    rw [show v128XorEq kdf.offset label.nonce = kdfBase kdf.offset label from rfl,
      blockIndex_kdfBase h, List.length_replicate]
    omega
  obtain ⟨hok, hout⟩ := srtpAesIcmEncrypt_setIv kdf hroom
  obtain ⟨hoff, hkey⟩ := srtpAesIcmEncrypt_keeps (srtpAesIcmSetIv kdf label.nonce)
    (List.replicate length 0)
  obtain ⟨status, kdf', key, hres⟩ : ∃ status kdf' key, srtpAesIcmEncrypt
    (srtpAesIcmSetIv kdf label.nonce) (List.replicate length 0) = (status, kdf', key) :=
    ⟨_, _, _, rfl⟩
  rw [hres] at hok hout hoff hkey
  refine ⟨kdf', ?_, hoff, hkey⟩
  dsimp only at hok hout
  rw [srtpKdfGenerate, hres, hok, hout]
  rfl

/-! ### No block goes into two keys -/

theorem SrtpPrfLabel.value_injective {a b : SrtpPrfLabel} (h : a.value = b.value) : a = b := by
  cases a <;> cases b <;> first | rfl | cases h

/-- The counters of different labels are different, and those of one label too. -/
theorem kdfCounter_injective {salt : V128} (h : ZeroEnd salt) {a b : SrtpPrfLabel} {j k : ℕ}
    (hj : j < 0x10000) (hk : k < 0x10000)
    (heq : counterAt (kdfBase salt a) j = counterAt (kdfBase salt b) k) : a = b ∧ j = k := by
  have hoctet := congrArg (fun x : V128 => x[7]) heq
  simp only [getElem_counterAt, kdfBase, getElem_v128XorEq] at hoctet
  obtain rfl : a = b := by
    apply SrtpPrfLabel.value_injective
    simpa [SrtpPrfLabel.nonce, getElem_setV8] using hoctet
  exact ⟨rfl, counterAt_injective (by rw [blockIndex_kdfBase h]; omega)
    (by rw [blockIndex_kdfBase h]; omega) heq⟩

/-- The first sixteen octets of a key are the first block of its keystream. -/
theorem kdfKey_take (kdf : SrtpAesIcmCtx) (label : SrtpPrfLabel) {length : ℕ} (h : 16 ≤ length) :
    (kdfKey kdf label length).take 16 =
      (icmBlock kdf.expandedKey (kdfBase kdf.offset label) 0).toList := by
  have hzeros : (List.replicate length (0 : UInt8)).take 16 = List.replicate 16 0 := by
    rw [List.take_replicate, Nat.min_eq_left h]
  rw [kdfKey, icmMix, ← mixFrom_take, hzeros]
  have hblock := @xorBuffer_icmBlock kdf.expandedKey (kdfBase kdf.offset label) 0 0
    (List.replicate 16 0) (by simp)
  rw [icmMix, Nat.mul_zero, Nat.zero_add] at hblock
  rw [← hblock, xorBuffer, List.drop_zero]
  apply List.ext_getElem
  · simp
  · intro i h₁ h₂
    rw [List.getElem_zipWith, List.getElem_replicate, UInt8.zero_xor]

/-! ### The keys of a stream -/

/-- The round keys of a cipher with this key. -/
def icmKey (keyLen : ℕ) (key : ℕ → UInt8) : SrtpAesExpandedKey :=
  (srtpAesExpandEncryptionKey key (keyLen - srtpSaltLen) zeroExpandedKey).2

/-- The salt behind the key, as a block. -/
def icmSalt (keyLen : ℕ) (key : ℕ → UInt8) : V128 :=
  paddedBlock (fun i => key (keyLen - srtpSaltLen + i)) srtpSaltLen

theorem zeroEnd_icmSalt (keyLen : ℕ) (key : ℕ → UInt8) : ZeroEnd (icmSalt keyLen key) := by
  have hend : ∀ (i : ℕ) (hi : i < 16), 14 ≤ i → (icmSalt keyLen key)[i] = 0 := by
    intro i hi hle
    simp [icmSalt, paddedBlock, srtpSaltLen, Nat.not_lt.mpr hle]
  exact ⟨hend 14 (by decide) (by decide), hend 15 (by decide) (by decide)⟩

/-- A new cipher of one of the two lengths is always there. -/
theorem initIcm_spec {keyLen : ℕ} (hlen : keyLen = 30 ∨ keyLen = 46) (key : ℕ → UInt8) :
    ∃ c, initIcm keyLen key = some c ∧ c.expandedKey = icmKey keyLen key ∧
      c.offset = icmSalt keyLen key := by
  obtain ⟨hok, -, -⟩ := srtpAesExpandEncryptionKey_spec key
    (show keyLen - srtpSaltLen = 16 ∨ keyLen - srtpSaltLen = 32 by rw [srtpSaltLen]; omega)
    zeroExpandedKey
  have hsize : keyLen = 16 + srtpSaltLen ∨ keyLen = 32 + srtpSaltLen := by rw [srtpSaltLen]; omega
  have hcopy : min (keyLen - (keyLen - srtpSaltLen)) srtpSaltLen = srtpSaltLen := by
    rw [srtpSaltLen]
    omega
  obtain ⟨status, ek, hres⟩ : ∃ status ek, srtpAesExpandEncryptionKey key (keyLen - srtpSaltLen)
    zeroExpandedKey = (status, ek) := ⟨_, _, rfl⟩
  have halloc : srtpAesIcmAlloc keyLen = some (newIcm keyLen) := if_neg (by omega)
  refine ⟨{ newIcm keyLen with
    counter := icmSalt keyLen key, offset := icmSalt keyLen key, expandedKey := icmKey keyLen key },
    ?_, rfl, rfl⟩
  rw [hres] at hok
  dsimp only at hok
  subst hok
  simp only [initIcm, halloc, Option.bind_eq_bind, Option.bind_some, srtpAesIcmContextInit, newIcm,
    if_pos hsize, hcopy, hres, icmKey, icmSalt]

/-- The octets of a derived key with the salt derived behind it. -/
def derivedOctets (kdf : SrtpAesIcmCtx) (key salt : SrtpPrfLabel) (keyLen : ℕ) : ℕ → UInt8 :=
  fun i => (kdfKey kdf key (keyLen - srtpSaltLen) ++ kdfKey kdf salt srtpSaltLen).getD i 0

/-- What the keys of a stream are made of: `kdf` is the cipher that runs under the master key. -/
structure Derived (ks : SrtpSessionKeys) (kdf : SrtpAesIcmCtx)
    (rtpKeylen rtcpKeylen rtpAuthLen rtcpAuthLen : ℕ) : Prop where
  rtpKey : ks.rtpCipher.expandedKey =
    icmKey rtpKeylen (derivedOctets kdf .rtpEncryption .rtpSalt rtpKeylen)
  rtpSalt : ks.rtpCipher.offset =
    icmSalt rtpKeylen (derivedOctets kdf .rtpEncryption .rtpSalt rtpKeylen)
  rtpAuthKey : ks.rtpAuthKey = kdfKey kdf .rtpMsgAuth rtpAuthLen
  rtcpKey : ks.rtcpCipher.expandedKey =
    icmKey rtcpKeylen (derivedOctets kdf .rtcpEncryption .rtcpSalt rtcpKeylen)
  rtcpSalt : ks.rtcpCipher.offset =
    icmSalt rtcpKeylen (derivedOctets kdf .rtcpEncryption .rtcpSalt rtcpKeylen)
  rtcpAuthKey : ks.rtcpAuthKey = kdfKey kdf .rtcpMsgAuth rtcpAuthLen

theorem kdfKey_congr {kdf kdf' : SrtpAesIcmCtx} (hoff : kdf'.offset = kdf.offset)
    (hkey : kdf'.expandedKey = kdf.expandedKey) (label : SrtpPrfLabel) (length : ℕ) :
    kdfKey kdf' label length = kdfKey kdf label length := by
  rw [kdfKey, kdfKey, hoff, hkey]

/-- One derivation after others. -/
theorem srtpKdfGenerate_next {kdf kdf₀ : SrtpAesIcmCtx} (h : ZeroEnd kdf₀.offset)
    (hoff : kdf.offset = kdf₀.offset) (hkey : kdf.expandedKey = kdf₀.expandedKey)
    (label : SrtpPrfLabel) {length : ℕ} (hlen : length ≤ 0xffff) :
    ∃ kdf', srtpKdfGenerate kdf label length = some (kdf', kdfKey kdf₀ label length) ∧
      kdf'.offset = kdf₀.offset ∧ kdf'.expandedKey = kdf₀.expandedKey := by
  obtain ⟨kdf', hgen, hoff', hkey'⟩ := srtpKdfGenerate_spec (hoff ▸ h) label hlen
  exact ⟨kdf', by rw [hgen, kdfKey_congr hoff hkey], hoff'.trans hoff, hkey'.trans hkey⟩

/-- The derivation of a stream's keys always succeeds, and all of them come from the one cipher
under the master key. -/
theorem srtpStreamInitKeys_spec (masterKey : List UInt8) {rtpKeylen rtcpKeylen : ℕ}
    (hrtp : rtpKeylen = 30 ∨ rtpKeylen = 46) (hrtcp : rtcpKeylen = 30 ∨ rtcpKeylen = 46)
    {rtpAuthLen rtcpAuthLen : ℕ} (hauth : rtpAuthLen ≤ 0xffff) (hauth' : rtcpAuthLen ≤ 0xffff) :
    ∃ ks kdf, srtpStreamInitKeys masterKey rtpKeylen rtcpKeylen rtpAuthLen rtcpAuthLen = some ks ∧
      ZeroEnd kdf.offset ∧ (∃ n, kdf.expandedKey.numRounds = n + 1 ∧ (n = 9 ∨ n = 13)) ∧
      Derived ks kdf rtpKeylen rtcpKeylen rtpAuthLen rtcpAuthLen := by
  -- the cipher under the master key
  obtain ⟨kdfKeylen, hkdf, hkdflen⟩ : ∃ n, (if 30 < rtpKeylen ∨ 30 < rtcpKeylen then 46 else 30) = n ∧
      (n = 30 ∨ n = 46) := ⟨_, rfl, by split <;> omega⟩
  obtain ⟨tmpKey, htmp⟩ : ∃ f, (fun i => if i < rtpKeylen then masterKey.getD i 0 else 0) = f :=
    ⟨_, rfl⟩
  obtain ⟨kdf, hinit, hek, hoff⟩ := initIcm_spec hkdflen tmpKey
  have hzero : ZeroEnd kdf.offset := hoff ▸ zeroEnd_icmSalt _ _
  have hrounds : ∃ n, kdf.expandedKey.numRounds = n + 1 ∧ (n = 9 ∨ n = 13) := by
    obtain ⟨-, hnum, -⟩ := srtpAesExpandEncryptionKey_spec tmpKey
      (show kdfKeylen - srtpSaltLen = 16 ∨ kdfKeylen - srtpSaltLen = 32 by rw [srtpSaltLen]; omega)
      zeroExpandedKey
    refine ⟨(kdfKeylen - srtpSaltLen) / 4 + 5, by rw [hek]; exact hnum, ?_⟩
    rw [srtpSaltLen]
    omega
  have hsalt : srtpSaltLen ≤ 0xffff := by decide
  -- the derivations, one after the other
  obtain ⟨kdf₁, h₁, ho₁, hk₁⟩ := @srtpKdfGenerate_next kdf kdf hzero rfl rfl .rtpEncryption
    (rtpKeylen - srtpSaltLen) (by omega)
  obtain ⟨kdf₂, h₂, ho₂, hk₂⟩ := srtpKdfGenerate_next hzero ho₁ hk₁ .rtpSalt hsalt
  obtain ⟨rtpCipher, hrc, hrk, hrs⟩ := initIcm_spec hrtp
    (derivedOctets kdf .rtpEncryption .rtpSalt rtpKeylen)
  obtain ⟨kdf₃, h₃, ho₃, hk₃⟩ := srtpKdfGenerate_next hzero ho₂ hk₂ .rtpMsgAuth hauth
  obtain ⟨kdf₄, h₄, ho₄, hk₄⟩ := @srtpKdfGenerate_next _ _ hzero ho₃ hk₃ .rtcpEncryption
    (rtcpKeylen - srtpSaltLen) (by omega)
  obtain ⟨kdf₅, h₅, ho₅, hk₅⟩ := srtpKdfGenerate_next hzero ho₄ hk₄ .rtcpSalt hsalt
  obtain ⟨rtcpCipher, hcc, hck, hcs⟩ := initIcm_spec hrtcp
    (derivedOctets kdf .rtcpEncryption .rtcpSalt rtcpKeylen)
  obtain ⟨kdf₆, h₆, -, -⟩ := srtpKdfGenerate_next hzero ho₅ hk₅ .rtcpMsgAuth hauth'
  have hkdfInit : srtpKdfInit tmpKey kdfKeylen = some kdf := by
    rw [srtpKdfInit, if_pos (by omega), hinit]
  have hr : initSessionCipher rtpKeylen (kdfKey kdf .rtpEncryption (rtpKeylen - srtpSaltLen))
      (kdfKey kdf .rtpSalt srtpSaltLen) = some rtpCipher := hrc
  have hc : initSessionCipher rtcpKeylen (kdfKey kdf .rtcpEncryption (rtcpKeylen - srtpSaltLen))
      (kdfKey kdf .rtcpSalt srtpSaltLen) = some rtcpCipher := hcc
  refine ⟨⟨rtpCipher, kdfKey kdf .rtpMsgAuth rtpAuthLen, rtcpCipher,
    kdfKey kdf .rtcpMsgAuth rtcpAuthLen⟩, kdf, ?_, hzero, hrounds, hrk, hrs, rfl, hck, hcs, rfl⟩
  simp only [srtpStreamInitKeys, hkdf, htmp, hkdfInit, h₁, h₂, h₃, h₄, h₅, h₆, hr, hc,
    Option.bind_eq_bind, Option.bind_some, Option.pure_def]

/-! ### The derived keys are different -/

/-- The first sixteen octets of the key of a cipher. -/
def SrtpAesIcmCtx.keyOctets (c : SrtpAesIcmCtx) : List UInt8 := (c.expandedKey.round 0).toList

/-- The first sixteen octets of a derived key are the first block of the keystream of its label. -/
theorem keyOctets_derived {c kdf : SrtpAesIcmCtx} {key salt : SrtpPrfLabel} {keyLen : ℕ}
    (hlen : keyLen = 30 ∨ keyLen = 46)
    (h : c.expandedKey = icmKey keyLen (derivedOctets kdf key salt keyLen)) :
    c.keyOctets = (icmBlock kdf.expandedKey (kdfBase kdf.offset key) 0).toList := by
  have hbase : keyLen - srtpSaltLen = 16 ∨ keyLen - srtpSaltLen = 32 := by
    rw [srtpSaltLen]
    omega
  obtain ⟨-, -, hkeys⟩ := srtpAesExpandEncryptionKey_spec (derivedOctets kdf key salt keyLen) hbase
    zeroExpandedKey
  have hround : c.expandedKey.round 0 =
      v128CopyOctetString (derivedOctets kdf key salt keyLen) := by
    have hfirst := @roundKey_key ((keyLen - srtpSaltLen) / 4) (derivedOctets kdf key salt keyLen) 0
      (by omega)
    simp only [Nat.mul_zero, Nat.zero_add] at hfirst
    rw [h, hfirst]
    exact hkeys 0 (by omega)
  rw [SrtpAesIcmCtx.keyOctets, hround, ← kdfKey_take kdf key (show 16 ≤ keyLen - srtpSaltLen by omega)]
  have hklen : (kdfKey kdf key (keyLen - srtpSaltLen)).length = keyLen - srtpSaltLen := by
    rw [kdfKey, length_icmMix, List.length_replicate]
  apply List.ext_getElem
  · rw [Vector.length_toList, List.length_take, hklen]
    omega
  · intro i h₁ h₂
    rw [Vector.length_toList] at h₁
    have hi : i < (kdfKey kdf key (keyLen - srtpSaltLen)).length := by omega
    simp only [List.getElem_take, Vector.getElem_toList, v128CopyOctetString, Vector.getElem_ofFn,
      derivedOctets, List.getD_append _ _ _ _ hi, List.getD_eq_getElem _ _ hi]

/-- First blocks of the keystreams of different labels are different. -/
theorem firstBlock_ne {kdf : SrtpAesIcmCtx} (hzero : ZeroEnd kdf.offset)
    (hrounds : ∃ n, kdf.expandedKey.numRounds = n + 1 ∧ (n = 9 ∨ n = 13)) {a b : SrtpPrfLabel}
    (hab : a ≠ b) :
    (icmBlock kdf.expandedKey (kdfBase kdf.offset a) 0).toList ≠
      (icmBlock kdf.expandedKey (kdfBase kdf.offset b) 0).toList := by
  intro h
  obtain ⟨n, hnum, hn⟩ := hrounds
  have hctr := icmBlock_injective hnum (by omega) (Vector.toList_inj.mp h)
  exact hab (kdfCounter_injective hzero (by decide) (by decide) hctr).1

/-- **The keys of a stream are pairwise different**, whatever the master key is: those of the
ciphers for RTP and RTCP and those of the authentication functions, by their first sixteen
octets. -/
theorem session_keys_differ (masterKey : List UInt8) {rtpKeylen rtcpKeylen : ℕ}
    (hrtp : rtpKeylen = 30 ∨ rtpKeylen = 46) (hrtcp : rtcpKeylen = 30 ∨ rtcpKeylen = 46)
    {rtpAuthLen rtcpAuthLen : ℕ} (hauth : 16 ≤ rtpAuthLen ∧ rtpAuthLen ≤ 0xffff)
    (hauth' : 16 ≤ rtcpAuthLen ∧ rtcpAuthLen ≤ 0xffff) :
    ∃ ks, srtpStreamInitKeys masterKey rtpKeylen rtcpKeylen rtpAuthLen rtcpAuthLen = some ks ∧
      [ks.rtpCipher.keyOctets, ks.rtpAuthKey.take 16, ks.rtcpCipher.keyOctets,
        ks.rtcpAuthKey.take 16].Pairwise (· ≠ ·) := by
  obtain ⟨ks, kdf, hks, hzero, hrounds, hd⟩ :=
    srtpStreamInitKeys_spec masterKey hrtp hrtcp hauth.2 hauth'.2
  refine ⟨ks, hks, ?_⟩
  rw [keyOctets_derived hrtp hd.rtpKey, keyOctets_derived hrtcp hd.rtcpKey, hd.rtpAuthKey,
    hd.rtcpAuthKey, kdfKey_take _ _ hauth.1, kdfKey_take _ _ hauth'.1]
  have hne := @firstBlock_ne kdf hzero hrounds
  simp only [List.pairwise_cons, List.mem_cons, List.not_mem_nil, or_false, forall_eq_or_imp,
    forall_eq, List.Pairwise.nil, and_true, false_imp_iff, implies_true]
  exact ⟨⟨hne nofun, hne nofun, hne nofun⟩, ⟨hne nofun, hne nofun⟩, hne nofun⟩

theorem session_keys_differ_aes256 :
    ∃ ks, srtpStreamInitKeys ((List.range 46).map UInt8.ofNat) 46 30 20 20 = some ks ∧
      [ks.rtpCipher.keyOctets, ks.rtpAuthKey.take 16, ks.rtcpCipher.keyOctets,
        ks.rtcpAuthKey.take 16].Pairwise (· ≠ ·) :=
  session_keys_differ ((List.range 46).map UInt8.ofNat) (.inr rfl) (.inl rfl) (by decide) (by decide)

end CameraDaemon
