import TenantAuth.Proofs.Token.Acceptance

/-!
This module contains the theory of the leeway for expired tokens. The main statement says exactly what more
leeway and more time change (`leeway_tolerates`). A leeway that exceeds the time since the start of 1970 does
the opposite of what it is for: the verification of a good token ends in a fault.
-/

namespace TenantAuth

namespace TokenParts

variable {parts : TokenParts} {w : Json.Written}

theorem look_ne_expired : look w ≠ .error .expired := by
  unfold look
  split
  . split
    . split
      . exact nofun
      . exact nofun
    . exact nofun
  . split
    . exact nofun
    . exact nofun
  . exact nofun

theorem claims_ne_expired : parts.claims ≠ .error .expired := by
  unfold claims
  split
  . exact nofun
  . next w hw =>
    split
    . exact nofun
    . next c hc =>
      have hlook := look_ne_expired (w := w)
      cases hresult : look w with
      | ok u => exact nofun
      | error e =>
        rw [hresult] at hlook
        intro h
        cases h
        exact hlook rfl

end TokenParts

namespace TokenVerifier

variable {contents : String → Except FileFailure (List UInt8)} {s : TokenSettings} {v : TokenVerifier}
  {now later : Instant} {isRevoked : String → Bool} {token : Option String} {c : TokenClaims} {set : ClaimSet}
  {leeway : UInt64}

theorem ofSettings_withLeeway (hv : ofSettings contents s = .ok v) (leeway : UInt64)
    : ofSettings contents (s.withLeeway leeway) = .ok { v with leeway } := by
  rcases ofSettings_eq_ok_iff.1 hv with ⟨hkey, hissuer, _⟩
  have hload : TokenKey.load contents (s.withLeeway leeway) = TokenKey.load contents s := by
    unfold TokenKey.load
    rfl
  rw [ofSettings_eq_ok_iff, hload]
  exact ⟨hkey, hissuer, rfl⟩

theorem open?_with_leeway {token : String} : { v with leeway }.open? token = v.open? token := by
  unfold open?
  rfl

theorem accept_eq_expired_iff
    : v.accept now isRevoked c = .ok (.error .expired)
        ↔
      v.leeway ≤ now.seconds ∧ c.exp.toNat + v.leeway.toNat < now.seconds.toNat := by
  by_cases hlt : now.seconds < v.leeway
  . rw [accept_of_lt hlt]
    exact iff_of_false nofun fun h => UInt64.not_lt.2 h.1 hlt
  . have hle := UInt64.not_lt.1 hlt
    have hexpired : c.exp < now.seconds - v.leeway ↔ c.exp.toNat + v.leeway.toNat < now.seconds.toNat := by
      rw [UInt64.lt_iff_toNat_lt, UInt64.toNat_sub_of_le _ _ hle]
      omega
    rw [and_iff_right hle, ← hexpired]
    rcases accept_cases hle c with
      ⟨hold, haccept⟩ | ⟨hcurrent, ⟨_, haccept⟩ | ⟨_, ⟨_, haccept⟩ | ⟨set', _, haccept⟩⟩⟩
    . exact iff_of_true (haccept isRevoked) hold
    . rw [haccept]
      exact iff_of_false nofun hcurrent
    . rw [haccept]
      exact iff_of_false nofun hcurrent
    . rw [haccept]
      split
      . exact iff_of_false nofun hcurrent
      . exact iff_of_false nofun hcurrent

theorem current_of_more_leeway (hmore : v.leeway ≤ leeway) (hle : leeway ≤ now.seconds)
    (hcurrent : ¬ c.exp < now.seconds - v.leeway) : ¬ c.exp < now.seconds - leeway := by
  have hmore' := UInt64.le_iff_toNat_le.1 hmore
  have hle' := UInt64.le_iff_toNat_le.1 hle
  rw [UInt64.lt_iff_toNat_lt, UInt64.toNat_sub_of_le _ _ (UInt64.le_trans hmore hle)] at hcurrent
  rw [UInt64.lt_iff_toNat_lt, UInt64.toNat_sub_of_le _ _ hle]
  omega

theorem accept_more_leeway (hmore : v.leeway ≤ leeway) (haccept : v.accept now isRevoked c = .ok (.ok set))
    : { v with leeway }.accept now isRevoked c
        =
      if leeway ≤ now.seconds then .ok (.ok set) else .error .overflow := by
  rcases accept_eq_ok_iff.1 haccept with ⟨⟨_, hcurrent⟩, hissuer, hmeans, hrevoked⟩
  split
  . next hle =>
    have hcurrent' := current_of_more_leeway hmore hle hcurrent
    exact accept_eq_ok_iff.2 ⟨⟨hle, hcurrent'⟩, hissuer, hmeans, hrevoked⟩
  . next hlt => exact accept_of_lt (UInt64.not_le.1 hlt)

theorem accept_later (hlater : now.seconds ≤ later.seconds)
    (hexpired : v.accept now isRevoked c = .ok (.error .expired)) (isRevoked' : String → Bool)
    : v.accept later isRevoked' c = .ok (.error .expired) := by
  rw [accept_eq_expired_iff] at hexpired ⊢
  have htime := UInt64.le_iff_toNat_le.1 hlater
  refine ⟨UInt64.le_trans hexpired.1 hlater, ?_⟩
  omega

theorem open?_ne_expired {token : String} : v.open? token ≠ .error .expired := by
  unfold open?
  split
  . exact nofun
  . split
    . exact nofun
    . split
      . exact nofun
      . split
        . exact nofun
        . exact nofun
        . exact TokenParts.claims_ne_expired

theorem verify_eq_expired_iff
    : v.verify now isRevoked token = .ok (.error .expired)
        ↔
      ∃ raw c, token = some raw ∧ Text.trim raw ≠ "" ∧ v.open? (Text.trim raw) = .ok c
        ∧ v.accept now isRevoked c = .ok (.error .expired) := by
  apply verify_eq_iff_accept
  . exact nofun
  . rintro t e herror ⟨⟩
    exact open?_ne_expired herror

theorem leeway_tolerates (hv : ofSettings contents s = .ok v) (now : Instant) (isRevoked : String → Bool)
    (token : Option String)
    : (∀ leeway set, s.leeway ≤ leeway → v.verify now isRevoked token = .ok (.ok set) →
        ∃ lenient, ofSettings contents (s.withLeeway leeway) = .ok lenient
          ∧ lenient.verify now isRevoked token
            = if leeway ≤ now.seconds then .ok (.ok set) else .error .overflow)
      ∧ (v.verify now isRevoked token = .ok (.error .expired) →
        ∀ later isRevoked', now.seconds ≤ later.seconds →
          v.verify later isRevoked' token = .ok (.error .expired)) := by
  rcases ofSettings_eq_ok_iff.1 hv with ⟨_, _, hleeway⟩
  refine ⟨?_, ?_⟩
  . intro leeway set hmore hverify
    rcases verify_eq_ok_iff.1 hverify with ⟨raw, c, rfl, hblank, hopen, haccept⟩
    refine ⟨{ v with leeway }, ofSettings_withLeeway hv leeway, ?_⟩
    rw [verify_of_open? hblank (open?_with_leeway.trans hopen)]
    exact accept_more_leeway (hleeway ▸ hmore) haccept
  . intro hverify later isRevoked' hlater
    rcases verify_eq_expired_iff.1 hverify with ⟨raw, c, htoken, hblank, hopen, hexpired⟩
    exact verify_eq_expired_iff.2 ⟨raw, c, htoken, hblank, hopen, accept_later hlater hexpired isRevoked'⟩

theorem leeway_tolerates_of_expired_token
    : let s := (TokenSettings.withSecret "S" "authhub").withLeeway 60
      let contents : String → Except FileFailure (List UInt8) := fun _ => .error .notFound
      let v : TokenVerifier := ⟨.secret s.secret.toUTF8.data.toList, "authhub", 60⟩
      let parts := TokenParts.issue s.secret.toUTF8.data.toList .bits256 "eyJhbGciOiJIUzI1NiJ9"
        "eyJzdWIiOiJ1MSIsImlzcyI6ImF1dGhodWIiLCJleHAiOjEwMDAwMDAwMDAsImp0aSI6ImoxIn0"
      let isRevoked : String → Bool := fun j => j == "j2"
      ofSettings contents s = .ok v
        ∧ (∃ set lenient, s.leeway ≤ 3600 ∧ ofSettings contents (s.withLeeway 3600) = .ok lenient
          ∧ v.verify (.ofSeconds 1000000060) isRevoked (some parts.text) = .ok (.ok set)
          ∧ lenient.verify (.ofSeconds 1000000060) isRevoked (some parts.text) = .ok (.ok set))
        ∧ v.verify (.ofSeconds 1000000061) isRevoked (some parts.text) = .ok (.error .expired)
        ∧ (Instant.ofSeconds 1000000061).seconds ≤ (Instant.ofSeconds 4102444800).seconds
        ∧ v.verify (.ofSeconds 4102444800) (fun _ => true) (some parts.text) = .ok (.error .expired) := by
  intro s contents v parts isRevoked
  let c : TokenClaims := { sub := "u1", iss := "authhub", exp := 1000000000, jti := some "j1" }
  have hv : ofSettings contents s = .ok v := rfl
  have ha : parts.algorithm? = some (.hmac .bits256) := by decide +kernel
  have hclaims : parts.claims = .ok c := toOption_eq_some_iff.1 (by decide +kernel)
  have hverify : ∀ now, v.verify now isRevoked (some parts.text) = v.accept now isRevoked c :=
    fun now => verify_issue_of_claims rfl ha hclaims
  rcases ClaimSet.ofClaims?_of_subject (show Text.trim c.sub ≠ "" by decide) with ⟨set, _, hmeans⟩
  have haccept : v.accept (.ofSeconds 1000000060) isRevoked c = .ok (.ok set) := by
    refine accept_eq_ok_iff.2 ⟨by decide, rfl, hmeans, ?_⟩
    intro j hj _
    cases hj
    decide
  have hexpired : v.verify (.ofSeconds 1000000061) isRevoked (some parts.text) = .ok (.error .expired) := by
    rw [hverify]
    exact accept_eq_expired_iff.2 (by decide)
  have hlater : (Instant.ofSeconds 1000000061).seconds ≤ (Instant.ofSeconds 4102444800).seconds := by decide
  have haccepted := (hverify _).trans haccept
  rcases (leeway_tolerates hv _ isRevoked _).1 3600 set (by decide) haccepted with ⟨lenient, hlenient, htolerated⟩
  refine ⟨hv, ⟨set, lenient, by decide, hlenient, haccepted, ?_⟩, hexpired, hlater, ?_⟩
  . rw [htolerated, if_pos (by decide)]
  . exact (leeway_tolerates hv _ isRevoked _).2 hexpired _ (fun _ => true) hlater

/--
A leeway of more seconds than have passed since the start of 1970 leaves a token without an answer that is
good without leeway.
-/
theorem more_leeway_overflows
    : let s := TokenSettings.withSecret "S" "authhub"
      let contents : String → Except FileFailure (List UInt8) := fun _ => .error .notFound
      let strict : TokenVerifier := ⟨.secret s.secret.toUTF8.data.toList, "authhub", 0⟩
      let lenient : TokenVerifier := { strict with leeway := 5000000000 }
      let parts := TokenParts.issue s.secret.toUTF8.data.toList .bits256 "eyJhbGciOiJIUzI1NiJ9"
        "eyJzdWIiOiJ1MSIsImlzcyI6ImF1dGhodWIiLCJleHAiOjQxMDI0NDQ4MDAsImp0aSI6ImoxIn0"
      let now := Instant.ofSeconds 1780000000
      ofSettings contents s = .ok strict ∧ ofSettings contents (s.withLeeway 5000000000) = .ok lenient
        ∧ strict.leeway ≤ lenient.leeway
        ∧ (∃ set, strict.verify now (fun _ => false) (some parts.text) = .ok (.ok set))
        ∧ lenient.verify now (fun _ => false) (some parts.text) = .error .overflow := by
  intro s contents strict lenient parts now
  let c : TokenClaims := { sub := "u1", iss := "authhub", exp := 4102444800, jti := some "j1" }
  have ha : parts.algorithm? = some (.hmac .bits256) := by decide +kernel
  have hclaims : parts.claims = .ok c := toOption_eq_some_iff.1 (by decide +kernel)
  rcases ClaimSet.ofClaims?_of_subject (show Text.trim c.sub ≠ "" by decide) with ⟨set, _, hmeans⟩
  refine ⟨rfl, rfl, by decide, ⟨set, ?_⟩, ?_⟩
  . rw [verify_issue_of_claims rfl ha hclaims]
    exact accept_eq_ok_iff.2 ⟨by decide, rfl, hmeans, fun _ _ _ => rfl⟩
  . rw [verify_issue_of_claims rfl ha hclaims]
    exact accept_of_lt (by decide)

end TokenVerifier

end TenantAuth
