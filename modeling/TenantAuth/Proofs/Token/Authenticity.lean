import TenantAuth.Token.Verifier

/-!
This module contains the theory of authentic tokens. The main statement says, in terms of the settings,
which tokens a verifier opens (`open?_eq_ok_iff`).
-/

namespace TenantAuth

namespace Crypto.Base64

theorem mem_of_digit? {digits : List Char} {c : Char} {d : Nat} (h : digit? digits c = some d)
    : c ∈ digits := by
  unfold digit? at h
  apply Decidable.byContradiction
  intro hc
  rw [List.idxOf?_eq_none_iff.2 hc] at h
  cases h

theorem mem_of_mapM_digit? {digits cs : List Char} {ds : List Nat} (h : cs.mapM (digit? digits) = some ds)
    : ∀ c ∈ cs, c ∈ digits := by
  induction cs generalizing ds with
  | nil => simp
  | cons c cs ih =>
    simp only [List.mapM_cons, Option.bind_eq_bind, Option.bind_eq_some_iff] at h
    rcases h with ⟨d, hd, ds', hds', _⟩
    intro x hx
    cases List.mem_cons.1 hx with
    | inl hx => exact hx ▸ mem_of_digit? hd
    | inr hx => exact ih hds' x hx

theorem mem_urlDigits_of_decodeUrl? {cs : List Char} {bytes : List UInt8}
    (h : decodeUrl? cs = some bytes)
    : ∀ c ∈ cs, c ∈ urlDigits := by
  rcases Option.bind_eq_some_iff.1 h with ⟨ds, hds, _⟩
  exact mem_of_mapM_digit? hds

theorem mem_urlDigits_of_mem_encodeUrl {bytes : List UInt8} {c : Char} (h : c ∈ encodeUrl bytes)
    : c ∈ urlDigits := by
  rcases List.mem_map.1 h with ⟨d, _, rfl⟩
  rw [List.getD_eq_getElem?_getD]
  cases hd : urlDigits[d]? with
  | none => decide
  | some c => exact List.mem_of_getElem? hd

end Crypto.Base64

namespace TokenParts

variable {token : String} {p : TokenParts} {a : Algorithm} {c : TokenClaims}

theorem ofToken?_eq_some_iff
    : ofToken? token = some p
        ↔
      token.toList = p.header.toList ++ '.' :: (p.payload.toList ++ '.' :: p.signature.toList)
        ∧ '.' ∉ p.payload.toList ∧ '.' ∉ p.signature.toList := by
  simp only [ofToken?, Option.bind_eq_bind, Option.bind_eq_some_iff, Option.pure_def,
    Option.some.injEq, Prod.exists, Text.splitLast?_eq_some_iff]
  constructor
  . intro h
    rcases h with ⟨message, signature, ⟨htoken, hsignature⟩, header, payload, ⟨hmessage, hpayload⟩, rfl⟩
    refine ⟨?_, hpayload, hsignature⟩
    rw [htoken, hmessage, List.append_assoc, List.cons_append]
  . intro h
    rcases h with ⟨htoken, hpayload, hsignature⟩
    refine ⟨p.header ++ "." ++ p.payload, p.signature, ⟨?_, hsignature⟩, p.header, p.payload, ?_, rfl⟩
    . rw [htoken]
      simp
    . exact ⟨by simp, hpayload⟩

theorem mem_urlDigits_of_decode? {part : String} {w : Json.Written} (h : decode? part = some w)
    : ∀ c ∈ part.toList, c ∈ Crypto.Base64.urlDigits := by
  rcases Option.bind_eq_some_iff.1 h with ⟨bytes, hbytes, _⟩
  exact Crypto.Base64.mem_urlDigits_of_decodeUrl? hbytes

theorem mem_urlDigits_of_algorithm? (h : p.algorithm? = some a)
    : ∀ c ∈ p.header.toList, c ∈ Crypto.Base64.urlDigits := by
  rcases Option.bind_eq_some_iff.1 h with ⟨w, hw, _⟩
  exact mem_urlDigits_of_decode? hw

theorem not_mem_of_mem_urlDigits {cs : List Char} (h : ∀ c ∈ cs, c ∈ Crypto.Base64.urlDigits)
    : '.' ∉ cs :=
  fun hdot => absurd (h '.' hdot) (by decide)

-- A dot too many could only be in the header, which would then not be readable.
theorem ofToken?_eq_some_iff_split (h : p.algorithm? = some a)
    : ofToken? token = some p ↔ Text.split '.' token = [p.header, p.payload, p.signature] := by
  rw [ofToken?_eq_some_iff, Text.split_eq_three_iff]
  constructor
  . intro hparts
    rcases hparts with ⟨htoken, hpayload, hsignature⟩
    exact ⟨htoken, not_mem_of_mem_urlDigits (mem_urlDigits_of_algorithm? h), hpayload, hsignature⟩
  . intro hsplit
    rcases hsplit with ⟨htoken, _, hpayload, hsignature⟩
    exact ⟨htoken, hpayload, hsignature⟩

def readClaims? (payload : String) : Option TokenClaims := do
  let w ← decode? payload
  let j ← w.record? TokenClaims.names
  (TokenClaims.ofJson j).toOption

inductive Skims : Json.Written → Prop where
  | object {ms : List (List Json.StringPart × Json.Written)} {named : List (String × Json.Written)}
    (names : Json.Written.named? ms = some named)
    (single : ∀ name ∈ ["nbf", "aud"], (named.filter fun m => m.1 == name).length ≤ 1)
    (start : ∀ m ∈ named, m.1 = "nbf" → passesStart m.2)
    (audience : ∀ m ∈ named, m.1 = "aud" → passesAudience m.2) :
    Skims (.object ms)

theorem passes_iff {ms : List (String × Json.Written)} {name : String} {test : Json.Written → Bool}
    : passes ms name test
        ↔
      (ms.filter fun m => m.1 == name).length ≤ 1 ∧ ∀ m ∈ ms, m.1 = name → test m.2 := by
  have hmem : ∀ m, m ∈ ms.filter (fun m => m.1 == name) ↔ m ∈ ms ∧ m.1 = name := by
    simp [List.mem_filter]
  unfold passes
  generalize ms.filter (fun m => m.1 == name) = found at hmem
  split
  . next =>
    simp only [List.not_mem_nil, false_iff, not_and] at hmem
    simp only [List.length_nil, Nat.zero_le, true_and, true_iff]
    intro m hm hname
    exact absurd hname (hmem m hm)
  . next m' =>
    simp only [List.length_singleton, Nat.le_refl, true_and]
    constructor
    . intro htest m hm hname
      have : m = m' := List.mem_singleton.1 ((hmem m).2 ⟨hm, hname⟩)
      rwa [this]
    . intro htest
      have hm' := (hmem m').1 (by simp)
      exact htest m' hm'.1 hm'.2
  . next h0 h1 =>
    simp only [Bool.false_eq_true, false_iff, not_and]
    intro hlen
    match found, h0, h1, hlen with
    | [], h0, _, _ => exact absurd rfl h0
    | [m], _, h1, _ => exact absurd rfl (h1 m)

theorem look_eq_ok_iff {w : Json.Written} : look w = .ok () ↔ Skims w := by
  constructor
  . intro h
    unfold look at h
    split at h
    . next ms =>
      split at h
      . next named hnamed =>
        split at h
        . next hpasses =>
          rw [Bool.and_eq_true, passes_iff, passes_iff] at hpasses
          rcases hpasses with ⟨⟨hstart, hstart'⟩, haudience, haudience'⟩
          exact .object hnamed (by simp [hstart, haudience]) hstart' haudience'
        . cases h
      . cases h
    . cases h
    . cases h
  . intro h
    rcases h with ⟨hnamed, hsingle, hstart, haudience⟩
    unfold look
    simp only [hnamed]
    rw [if_pos]
    rw [Bool.and_eq_true, passes_iff, passes_iff]
    exact ⟨⟨hsingle "nbf" (by simp), hstart⟩, hsingle "aud" (by simp), haudience⟩

theorem claims_eq_ok_iff
    : p.claims = .ok c
        ↔
      readClaims? p.payload = some c ∧ ∃ w, decode? p.payload = some w ∧ Skims w := by
  unfold claims readClaims?
  cases decode? p.payload with
  | none => simp
  | some w =>
    simp only [Option.bind_eq_bind, Option.bind_some, Option.some.injEq, exists_eq_left']
    rw [← look_eq_ok_iff]
    cases (w.record? TokenClaims.names).bind fun j => (TokenClaims.ofJson j).toOption with
    | none => simp
    | some c' => cases look w <;> simp [Except.map]

end TokenParts

namespace TokenSettings

variable {contents : String → Except FileFailure (List UInt8)} {s : TokenSettings}

def UsesSecret (s : TokenSettings) : Prop :=
  s.rsaEnabled = false ∨ ∀ path, s.rsaKeyPath = some path → Text.trim path = ""

def UsesKey (contents : String → Except FileFailure (List UInt8)) (s : TokenSettings) (key : List UInt8) : Prop :=
  s.rsaEnabled = true ∧ ∃ path, s.rsaKeyPath = some path ∧ Text.trim path ≠ ""
    ∧ ∃ bytes, contents path = .ok bytes ∧ Crypto.Pem.rsaKey bytes = .ok key

inductive Signs (contents : String → Except FileFailure (List UInt8)) (s : TokenSettings)
    : Algorithm → List UInt8 → String → Prop where
  | hmac {h : Crypto.Hash} {message : List UInt8} (uses : s.UsesSecret) :
    Signs contents s (.hmac h) message (TokenKey.sign s.secret.toUTF8.data.toList h message)
  | rsa {h : Crypto.Hash} {message bytes : List UInt8} {signature : String} {key : List UInt8}
    {publicKey : Crypto.Rsa.PublicKey} (uses : s.UsesKey contents key)
    (readable : Crypto.Rsa.PublicKey.ofBytes? key = some publicKey)
    (decoded : Crypto.Base64.decodeUrl? signature.toList = some bytes)
    (verified : Crypto.Rsa.verifyDeterministic publicKey h message bytes) :
    Signs contents s (.rsa h) message signature
  | rsaPss {h : Crypto.Hash} {message bytes : List UInt8} {signature : String} {key : List UInt8}
    {publicKey : Crypto.Rsa.PublicKey} (uses : s.UsesKey contents key)
    (readable : Crypto.Rsa.PublicKey.ofBytes? key = some publicKey)
    (decoded : Crypto.Base64.decodeUrl? signature.toList = some bytes)
    (verified : Crypto.Rsa.verifyProbabilistic publicKey h message bytes) :
    Signs contents s (.rsaPss h) message signature

theorem usableKeyPath?_eq_some_iff {path : String}
    : s.usableKeyPath? = some path
        ↔
      s.rsaEnabled = true ∧ s.rsaKeyPath = some path ∧ Text.trim path ≠ "" := by
  unfold usableKeyPath?
  split
  . next henabled =>
    rw [Option.filter_eq_some_iff, Bool.not_eq_true', ← Bool.not_eq_true, Text.blank_iff]
    simp [henabled]
  . next henabled => simp [henabled]

theorem usableKeyPath?_eq_none_iff : s.usableKeyPath? = none ↔ s.UsesSecret := by
  unfold usableKeyPath? UsesSecret
  split
  . next henabled =>
    rw [Option.filter_eq_none_iff]
    simp [henabled, Text.blank_iff]
  . next henabled => simp [henabled]

theorem usesKey_iff {path : String} (hpath : s.usableKeyPath? = some path) {key : List UInt8}
    : s.UsesKey contents key ↔ ∃ bytes, contents path = .ok bytes ∧ Crypto.Pem.rsaKey bytes = .ok key := by
  rcases usableKeyPath?_eq_some_iff.1 hpath with ⟨henabled, hset, htrim⟩
  unfold UsesKey
  constructor
  . intro h
    rcases h with ⟨_, path', hset', _, hbytes⟩
    rw [hset, Option.some.injEq] at hset'
    rwa [hset']
  . intro hbytes
    exact ⟨henabled, path, hset, htrim, hbytes⟩

theorem usableKeyPath?_ne_none {key : List UInt8} (h : s.UsesKey contents key)
    : s.usableKeyPath? ≠ none := by
  rcases h with ⟨henabled, path, hset, htrim, _⟩
  rw [usableKeyPath?_eq_some_iff.2 ⟨henabled, hset, htrim⟩]
  exact Option.some_ne_none path

theorem usesKey_unique {key key' : List UInt8} (h : s.UsesKey contents key) (h' : s.UsesKey contents key')
    : key = key' := by
  rcases h with ⟨_, path, hset, _, bytes, hcontents, hpem⟩
  rcases h' with ⟨_, path', hset', _, bytes', hcontents', hpem'⟩
  rw [hset, Option.some.injEq] at hset'
  rw [← hset', hcontents, Except.ok.injEq] at hcontents'
  rw [← hcontents', hpem, Except.ok.injEq] at hpem'
  exact hpem'

end TokenSettings

namespace TokenKey

variable {contents : String → Except FileFailure (List UInt8)} {s : TokenSettings} {k : TokenKey}

theorem load_eq_ok_iff
    : load contents s = .ok k
        ↔
      (s.UsesSecret ∧ k = .secret s.secret.toUTF8.data.toList)
        ∨ ∃ key, s.UsesKey contents key ∧ k = .rsa key := by
  unfold load
  rw [← TokenSettings.usableKeyPath?_eq_none_iff]
  split
  . next hnone =>
    have hkey : ∀ key, ¬ s.UsesKey contents key := by
      intro key huses
      exact TokenSettings.usableKeyPath?_ne_none huses hnone
    simp [hnone, hkey, eq_comm]
  . next path hpath =>
    simp only [hpath, TokenSettings.usesKey_iff hpath, reduceCtorEq, false_and, false_or]
    split
    . next hcontents => simp [hcontents]
    . next bytes hcontents =>
      split
      . next hpem => simp [hcontents, hpem]
      . next key hpem => simp [hcontents, hpem, eq_comm]

theorem verifyRsa_eq_good_iff
    {verify : Crypto.Rsa.PublicKey → Crypto.Hash → List UInt8 → List UInt8 → Bool}
    {key : List UInt8} {h : Crypto.Hash} {message : List UInt8} {signature : String}
    : verifyRsa verify key h message signature = .good
        ↔
      ∃ bytes publicKey, Crypto.Base64.decodeUrl? signature.toList = some bytes
        ∧ Crypto.Rsa.PublicKey.ofBytes? key = some publicKey ∧ verify publicKey h message bytes := by
  unfold verifyRsa
  split
  . next hbytes => simp [hbytes]
  . next bytes hbytes =>
    split
    . next hkey => simp [hbytes, hkey]
    . next publicKey hkey => simp [hbytes, hkey]

variable {a : Algorithm} {message : List UInt8} {signature : String}

theorem fits_of_check_eq_good (h : k.check a message signature = .good) : k.fits a := by
  unfold check at h
  split at h
  . rfl
  . rfl
  . rfl
  . cases h

-- The algorithm must be one of the configured family: the constructors of `Signs` tell them apart.
theorem check_eq_good_iff (hk : load contents s = .ok k)
    : k.check a message signature = .good ↔ s.Signs contents a message signature := by
  cases load_eq_ok_iff.1 hk with
  | inl hsecret =>
    rcases hsecret with ⟨huses, rfl⟩
    have hkey : ∀ key, ¬ s.UsesKey contents key := by
      intro key hkey
      exact TokenSettings.usableKeyPath?_ne_none hkey (TokenSettings.usableKeyPath?_eq_none_iff.2 huses)
    constructor
    . intro h
      cases a with
      | hmac =>
        simp only [check, ite_eq_left_iff, reduceCtorEq, imp_false, Decidable.not_not] at h
        rw [h]
        exact .hmac huses
      | rsa | rsaPss | ecdsa256 | ecdsa384 | edwards => cases h
    . intro h
      cases h with
      | hmac => simp [check]
      | rsa uses => exact absurd uses (hkey _)
      | rsaPss uses => exact absurd uses (hkey _)
  | inr hrsa =>
    rcases hrsa with ⟨key, huses, rfl⟩
    constructor
    . intro h
      cases a with
      | rsa =>
        rcases verifyRsa_eq_good_iff.1 h with ⟨bytes, publicKey, hbytes, hkey, hverify⟩
        exact .rsa huses hkey hbytes hverify
      | rsaPss =>
        rcases verifyRsa_eq_good_iff.1 h with ⟨bytes, publicKey, hbytes, hkey, hverify⟩
        exact .rsaPss huses hkey hbytes hverify
      | hmac | ecdsa256 | ecdsa384 | edwards => cases h
    . intro h
      cases h with
      | hmac uses =>
        exact absurd (TokenSettings.usableKeyPath?_eq_none_iff.2 uses)
          (TokenSettings.usableKeyPath?_ne_none huses)
      | rsa uses readable decoded verified =>
        rw [TokenSettings.usesKey_unique huses uses]
        exact verifyRsa_eq_good_iff.2 ⟨_, _, decoded, readable, verified⟩
      | rsaPss uses readable decoded verified =>
        rw [TokenSettings.usesKey_unique huses uses]
        exact verifyRsa_eq_good_iff.2 ⟨_, _, decoded, readable, verified⟩

end TokenKey

namespace TokenSettings

/--
A token has three parts. The header names the algorithm by which the signature is good, and the payload
holds the claims `c`.
-/
structure Authenticates (contents : String → Except FileFailure (List UInt8)) (s : TokenSettings) (token : String)
    (parts : TokenParts) (c : TokenClaims) : Prop where
  cut : Text.split '.' token = [parts.header, parts.payload, parts.signature]
  signed : ∃ a, parts.algorithm? = some a ∧ s.Signs contents a parts.message parts.signature
  holds : TokenParts.readClaims? parts.payload = some c

structure Opens (contents : String → Except FileFailure (List UInt8)) (s : TokenSettings) (token : String)
    (parts : TokenParts) (c : TokenClaims) : Prop extends Authenticates contents s token parts c where
  skims : ∃ w, TokenParts.decode? parts.payload = some w ∧ TokenParts.Skims w

theorem Authenticates.text_ne {contents : String → Except FileFailure (List UInt8)} {s : TokenSettings}
    {token : String} {parts : TokenParts} {c : TokenClaims} (h : s.Authenticates contents token parts c)
    : token ≠ "" := by
  intro hempty
  have htoken := (Text.split_eq_three_iff.1 h.cut).1
  rw [hempty] at htoken
  simp at htoken

end TokenSettings

namespace TokenVerifier

variable {contents : String → Except FileFailure (List UInt8)} {s : TokenSettings} {v : TokenVerifier}

theorem ofSettings_eq_ok_iff
    : ofSettings contents s = .ok v
        ↔
      TokenKey.load contents s = .ok v.key ∧ v.issuer = s.issuer ∧ v.leeway = s.leeway := by
  unfold ofSettings
  cases v with
  | mk key issuer leeway =>
    cases TokenKey.load contents s with
    | error e => simp [bind, Except.bind]
    | ok k => simp [bind, Except.bind, pure, Except.pure, eq_comm]

theorem open?_of_check {token : String} {parts : TokenParts} {a : Algorithm}
    (hcut : Text.split '.' token = [parts.header, parts.payload, parts.signature])
    (ha : parts.algorithm? = some a) (hcheck : v.key.check a parts.message parts.signature = .good)
    : v.open? token = parts.claims := by
  unfold open?
  simp only [(TokenParts.ofToken?_eq_some_iff_split ha).2 hcut, ha,
    TokenKey.fits_of_check_eq_good hcheck, hcheck]
  rfl

theorem open?_eq_ok_iff (hv : ofSettings contents s = .ok v) {token : String} {c : TokenClaims}
    : v.open? token = .ok c ↔ ∃ parts, s.Opens contents token parts c := by
  rcases ofSettings_eq_ok_iff.1 hv with ⟨hkey, _⟩
  constructor
  . intro h
    unfold open? at h
    split at h
    . cases h
    . next parts hparts =>
      split at h
      . cases h
      . next a ha =>
        split at h
        . cases h
        . split at h
          . cases h
          . cases h
          . next hcheck =>
            rcases TokenParts.claims_eq_ok_iff.1 h with ⟨hclaims, hskims⟩
            have hcut := (TokenParts.ofToken?_eq_some_iff_split ha).1 hparts
            exact ⟨parts, ⟨hcut, ⟨a, ha, (TokenKey.check_eq_good_iff hkey).1 hcheck⟩, hclaims⟩, hskims⟩
  . intro h
    rcases h with ⟨parts, ⟨hcut, ⟨a, ha, hsigns⟩, hclaims⟩, hskims⟩
    rw [open?_of_check hcut ha ((TokenKey.check_eq_good_iff hkey).2 hsigns)]
    exact TokenParts.claims_eq_ok_iff.2 ⟨hclaims, hskims⟩

end TokenVerifier

end TenantAuth
