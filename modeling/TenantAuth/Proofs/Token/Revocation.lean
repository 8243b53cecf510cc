import TenantAuth.Proofs.Revocation.Run
import TenantAuth.Proofs.Token.Acceptance

/-!
This module contains the theory of revoked tokens: a verifier that consults a list of revoked tokens. The
main statements say when the revocation of a token makes the verifier reject it. It need not: the list
goes by the expiry of the token without the leeway, and it trims the ids that are revoked.
-/

namespace TenantAuth

def TokenClaims.expiresAt (c : TokenClaims) : Instant :=
  .ofSeconds c.exp.toNat

namespace TokenVerifier

variable {contents : String → Except FileFailure (List UInt8)} {s : TokenSettings} {v : TokenVerifier}
  {now : Instant} {isRevoked : String → Bool} {raw j : String} {parts : TokenParts} {c : TokenClaims}
  {set : ClaimSet}

theorem accept_rejects_iff (hissuer : c.iss = v.issuer) (hsub : Text.trim c.sub ≠ "")
    : (∃ e, v.accept now isRevoked c = .ok (.error e))
        ↔
      v.leeway ≤ now.seconds
        ∧ (c.exp < now.seconds - v.leeway ∨ ∃ j, c.jti = some j ∧ Text.trim j ≠ "" ∧ isRevoked j = true) := by
  by_cases hlt : now.seconds < v.leeway
  . rw [accept_of_lt hlt]
    exact iff_of_false nofun fun h => UInt64.not_lt.2 h.1 hlt
  . have hle := UInt64.not_lt.1 hlt
    rcases accept_cases hle c with
      ⟨hexpired, haccept⟩ | ⟨hcurrent, ⟨hne, _⟩ | ⟨_, ⟨hblank, _⟩ | ⟨set, hmeans, haccept⟩⟩⟩
    . exact iff_of_true ⟨_, haccept isRevoked⟩ ⟨hle, .inl hexpired⟩
    . exact absurd hissuer hne
    . exact absurd hblank hsub
    . rw [haccept, ← hmeans.any_tokenId, and_iff_right hle, or_iff_right hcurrent]
      split
      . next hrevoked => exact iff_of_true ⟨_, rfl⟩ hrevoked
      . next hrevoked => exact iff_of_false nofun hrevoked

theorem rejects_iff_of_open? (hblank : Text.trim raw ≠ "") (hopen : v.open? (Text.trim raw) = .ok c)
    (hissuer : c.iss = v.issuer) (hsub : Text.trim c.sub ≠ "")
    : v.claims? now isRevoked (some raw) = .ok none
        ↔
      v.leeway ≤ now.seconds
        ∧ (c.exp < now.seconds - v.leeway ∨ ∃ j, c.jti = some j ∧ Text.trim j ≠ "" ∧ isRevoked j = true) := by
  rw [claims?_eq_none_iff_verify, verify_of_open? hblank hopen, accept_rejects_iff hissuer hsub]

theorem rejects_iff_of_opens (hv : ofSettings contents s = .ok v)
    (hopens : s.Opens contents (Text.trim raw) parts c) (hissuer : c.iss = s.issuer)
    (hsub : Text.trim c.sub ≠ "")
    : v.claims? now isRevoked (some raw) = .ok none
        ↔
      s.leeway ≤ now.seconds
        ∧ (c.exp < now.seconds - s.leeway ∨ ∃ j, c.jti = some j ∧ Text.trim j ≠ "" ∧ isRevoked j = true) := by
  rcases ofSettings_eq_ok_iff.1 hv with ⟨_, hvissuer, hleeway⟩
  rw [rejects_iff_of_open? hopens.text_ne ((open?_eq_ok_iff hv).2 ⟨parts, hopens⟩) (hvissuer ▸ hissuer) hsub,
    hleeway]

theorem faults_iff_of_opens (hv : ofSettings contents s = .ok v)
    (hopens : s.Opens contents (Text.trim raw) parts c) {f : Fault}
    : v.claims? now isRevoked (some raw) = .error f ↔ now.seconds < s.leeway := by
  rcases ofSettings_eq_ok_iff.1 hv with ⟨_, _, hleeway⟩
  rw [claims?_eq_fault_iff_verify, verify_of_open? hopens.text_ne ((open?_eq_ok_iff hv).2 ⟨parts, hopens⟩),
    accept_eq_fault_iff, hleeway]

theorem rejects_revoked_iff (hv : ofSettings contents s = .ok v)
    (hopens : s.Opens contents (Text.trim raw) parts c) (hissuer : c.iss = s.issuer)
    (hsub : Text.trim c.sub ≠ "") (hjti : c.jti = some j) (hj : Text.trim j = j) (l : RevocationList)
    (changes : List RevocationList.Change)
    (hothers : ∀ id expiresAt, .revoke id expiresAt ∈ changes → Text.trim id ≠ j) (now : Instant)
    : (v.claims? now (((l.revoke j c.expiresAt).run changes).isRevoked now) (some raw) = .ok none
        ↔
      s.leeway ≤ now.seconds
        ∧ (c.exp < now.seconds - s.leeway
          ∨ (j ≠ "" ∧ (∀ t, .purge t ∈ changes → t < c.expiresAt) ∧ now < c.expiresAt)))
      ∧ ∀ f, v.claims? now (((l.revoke j c.expiresAt).run changes).isRevoked now) (some raw) = .error f
        ↔
      now.seconds < s.leeway := by
  refine ⟨?_, fun f => faults_iff_of_opens hv hopens⟩
  rw [rejects_iff_of_opens hv hopens hissuer hsub]
  simp only [hjti, Option.some.injEq, exists_eq_left', hj]
  by_cases hne : j = ""
  . simp [hne]
  . rw [RevocationList.isRevoked_run_revoke hne hj hothers]

theorem rejects_revoked_iff_before_expiry
    : let s := (TokenSettings.withSecret "S" "authhub").withLeeway 60
      let contents : String → Except FileFailure (List UInt8) := fun _ => .error .notFound
      let v : TokenVerifier := ⟨.secret s.secret.toUTF8.data.toList, "authhub", 60⟩
      let parts := TokenParts.issue s.secret.toUTF8.data.toList .bits256 "eyJhbGciOiJIUzI1NiJ9"
        "eyJzdWIiOiJ1MSIsImlzcyI6ImF1dGhodWIiLCJleHAiOjEwMDAwMDAwMDAsImp0aSI6ImoxIn0"
      let c : TokenClaims := { sub := "u1", iss := "authhub", exp := 1000000000, jti := some "j1" }
      let changes : List RevocationList.Change := [.revoke "j2" (.ofSeconds 5), .purge (.ofSeconds 999999000)]
      let now := Instant.ofSeconds 999999999
      ofSettings contents s = .ok v
        ∧ s.Opens contents (Text.trim parts.text) parts c
        ∧ c.iss = s.issuer ∧ Text.trim c.sub ≠ "" ∧ c.jti = some "j1" ∧ Text.trim "j1" = "j1"
        ∧ (∀ id expiresAt, .revoke id expiresAt ∈ changes → Text.trim id ≠ "j1")
        ∧ v.claims? now (((RevocationList.empty.revoke "j1" c.expiresAt).run changes).isRevoked now)
            (some parts.text) = .ok none := by
  intro s contents v parts c changes now
  have hv : ofSettings contents s = .ok v := rfl
  have ha : parts.algorithm? = some (.hmac .bits256) := by decide +kernel
  have hclaims : parts.claims = .ok c := toOption_eq_some_iff.1 (by decide +kernel)
  have hopens : s.Opens contents (Text.trim parts.text) parts c :=
    TokenSettings.opens_issue (.inl rfl) ha hclaims
  have hsub : Text.trim c.sub ≠ "" := by decide
  have hj : Text.trim "j1" = "j1" := by decide
  have hothers : ∀ id expiresAt, .revoke id expiresAt ∈ changes → Text.trim id ≠ "j1" := by
    intro id expiresAt h
    simp only [changes, List.mem_cons, RevocationList.Change.revoke.injEq, reduceCtorEq, List.not_mem_nil,
      or_false] at h
    rw [h.1]
    decide
  have hpurges : ∀ t, .purge t ∈ changes → t < c.expiresAt := by
    intro t h
    simp only [changes, List.mem_cons, RevocationList.Change.purge.injEq, reduceCtorEq, List.not_mem_nil,
      false_or, or_false] at h
    rw [h]
    decide
  refine ⟨hv, hopens, rfl, hsub, rfl, hj, hothers, ?_⟩
  exact (rejects_revoked_iff hv hopens rfl hsub rfl hj .empty changes hothers now).1.2
    ⟨by decide, .inr ⟨by decide, hpurges, by decide⟩⟩

theorem accepts_revoked_within_leeway
    : let s := (TokenSettings.withSecret "S" "authhub").withLeeway 1700000000
      let contents : String → Except FileFailure (List UInt8) := fun _ => .error .notFound
      let v : TokenVerifier := ⟨.secret s.secret.toUTF8.data.toList, "authhub", 1700000000⟩
      let parts := TokenParts.issue s.secret.toUTF8.data.toList .bits256 "eyJhbGciOiJIUzI1NiJ9"
        "eyJzdWIiOiJ1MSIsImlzcyI6ImF1dGhodWIiLCJleHAiOjEwMDAwMDAwMDAsImp0aSI6ImoxIn0"
      let c : TokenClaims := { sub := "u1", iss := "authhub", exp := 1000000000, jti := some "j1" }
      let now := Instant.ofSeconds 1780000000
      ofSettings contents s = .ok v
        ∧ s.Opens contents (Text.trim parts.text) parts c
        ∧ c.iss = s.issuer ∧ Text.trim c.sub ≠ "" ∧ c.jti = some "j1" ∧ Text.trim "j1" = "j1"
        ∧ ∃ set,
          v.claims? now ((RevocationList.empty.revoke "j1" c.expiresAt).isRevoked now) (some parts.text)
            = .ok (some set) := by
  intro s contents v parts c now
  have hv : ofSettings contents s = .ok v := rfl
  have ha : parts.algorithm? = some (.hmac .bits256) := by decide +kernel
  have hclaims : parts.claims = .ok c := toOption_eq_some_iff.1 (by decide +kernel)
  have hopens : s.Opens contents (Text.trim parts.text) parts c :=
    TokenSettings.opens_issue (.inl rfl) ha hclaims
  have hsub : Text.trim c.sub ≠ "" := by decide
  rcases ClaimSet.ofClaims?_of_subject hsub with ⟨set, _, hmeans⟩
  have haccept : v.accept now ((RevocationList.empty.revoke "j1" c.expiresAt).isRevoked now) c = .ok (.ok set) := by
    refine accept_eq_ok_iff.2 ⟨by decide, rfl, hmeans, ?_⟩
    intro j hj _
    cases hj
    decide
  exact ⟨hv, hopens, rfl, hsub, rfl, by decide, set, claims?_issue_eq_some rfl ha hclaims haccept⟩

-- After its expiry a token is accepted as long as the leeway allows, and during one second without leeway.
theorem exists_accepts_revoked (hv : ofSettings contents s = .ok v)
    (hopens : s.Opens contents (Text.trim raw) parts c) (hissuer : c.iss = s.issuer)
    (hsub : Text.trim c.sub ≠ "") (hjti : c.jti = some j) (hj : Text.trim j = j) (l : RevocationList)
    (changes : List RevocationList.Change)
    (hothers : ∀ id expiresAt, .revoke id expiresAt ∈ changes → Text.trim id ≠ j)
    : ∃ now, c.expiresAt ≤ now
        ∧ ∃ set,
          v.claims? now (((l.revoke j c.expiresAt).run changes).isRevoked now) (some raw) = .ok (some set) := by
  -- The later one of the expiry and the leeway, so that the leeway can be subtracted.
  have hlate : ∃ w : UInt64, c.exp ≤ w ∧ s.leeway ≤ w ∧ ¬ c.exp < w - s.leeway := by
    by_cases h : s.leeway ≤ c.exp
    . refine ⟨c.exp, UInt64.le_refl _, h, ?_⟩
      rw [UInt64.lt_iff_toNat_lt, UInt64.toNat_sub_of_le _ _ h]
      omega
    . refine ⟨s.leeway, UInt64.le_of_lt (UInt64.not_le.1 h), UInt64.le_refl _, ?_⟩
      rw [UInt64.sub_self]
      exact UInt64.not_lt.2 (UInt64.zero_le)
  rcases hlate with ⟨w, hle, hleeway, hcurrent⟩
  have hexpiry : c.expiresAt ≤ .ofSeconds w.toNat := by
    have := UInt64.le_iff_toNat_le.1 hle
    show (c.exp.toNat : Int) * 1000000000 ≤ w.toNat * 1000000000
    omega
  refine ⟨.ofSeconds w.toNat, hexpiry, ?_⟩
  rcases ofSettings_eq_ok_iff.1 hv with ⟨_, hvissuer, hvleeway⟩
  rcases ClaimSet.ofClaims?_of_subject hsub with ⟨set, _, hmeans⟩
  refine ⟨set, ?_⟩
  rw [claims?_eq_some_iff_verify, verify_of_open? hopens.text_ne ((open?_eq_ok_iff hv).2 ⟨parts, hopens⟩),
    accept_eq_ok_iff, Instant.seconds_ofSeconds, hvleeway]
  refine ⟨⟨hleeway, hcurrent⟩, hvissuer ▸ hissuer, hmeans, ?_⟩
  intro j' hj' htrim
  cases hjti.symm.trans hj'
  rw [← Bool.not_eq_true, RevocationList.isRevoked_run_revoke (hj ▸ htrim) hj hothers]
  exact fun hrevoked => absurd hrevoked.2 (Int.not_lt.2 hexpiry)

theorem revoke_takes_effect_iff (changes : List RevocationList.Change) {before expiresAt : Instant}
    (haccepts : v.claims? before ((RevocationList.empty.run changes).isRevoked before) (some raw)
      = .ok (some set))
    (hid : set.tokenId = some j) (hnow : now < expiresAt)
    : (((RevocationList.empty.run changes).revoke j expiresAt).isRevoked now j = true ↔ Text.trim j = j)
        ∧ (v.claims? now (((RevocationList.empty.run changes).revoke j expiresAt).isRevoked now) (some raw)
            = .ok none
          ↔
        (v.leeway ≤ now.seconds ∧ Text.trim j = j) ∨ v.claims? now (fun _ => false) (some raw) = .ok none) := by
  have hcanonical : (RevocationList.empty.run changes).Canonical := RevocationList.canonical_empty.run
  rcases verify_eq_ok_iff.1 (claims?_eq_some_iff_verify.1 haccepts) with
    ⟨raw', c, hraw, hblank, hopen, haccept⟩
  cases hraw
  rcases accept_eq_ok_iff.1 haccept with ⟨_, hissuer, hmeans, _⟩
  have hsub : Text.trim c.sub ≠ "" := hmeans.userId ▸ set.userId.text_ne
  rcases (hmeans.tokenId j).1 hid with ⟨hjti, hj⟩
  have hrevoked := hcanonical.isRevoked_revoke hj hnow
  refine ⟨hrevoked, ?_⟩
  rw [rejects_iff_of_open? hblank hopen hissuer hsub, rejects_iff_of_open? hblank hopen hissuer hsub]
  simp only [hjti, Option.some.injEq, exists_eq_left', hrevoked, Bool.false_eq_true]
  simp [hj, or_comm, and_or_left]

theorem revoke_takes_effect_iff_of_issued_token
    : let v : TokenVerifier := ⟨.secret "S".toUTF8.data.toList, "authhub", 0⟩
      let parts := TokenParts.issue "S".toUTF8.data.toList .bits256 "eyJhbGciOiJIUzI1NiJ9"
        "eyJzdWIiOiJ1MSIsImlzcyI6ImF1dGhodWIiLCJleHAiOjQxMDI0NDQ4MDAsImp0aSI6ImoxIn0"
      let changes : List RevocationList.Change := [.revoke "j2" (.ofSeconds 4102444800)]
      let now := Instant.ofSeconds 1780000000
      let expiresAt := Instant.ofSeconds 4102444800
      ∃ set, v.claims? now ((RevocationList.empty.run changes).isRevoked now) (some parts.text)
          = .ok (some set)
        ∧ set.tokenId = some "j1" ∧ now < expiresAt
        ∧ ((RevocationList.empty.run changes).revoke "j1" expiresAt).isRevoked now "j1" = true
        ∧ v.claims? now (((RevocationList.empty.run changes).revoke "j1" expiresAt).isRevoked now)
            (some parts.text) = .ok none := by
  intro v parts changes now expiresAt
  have ha : parts.algorithm? = some (.hmac .bits256) := by decide +kernel
  let c : TokenClaims := { sub := "u1", iss := "authhub", exp := 4102444800, jti := some "j1" }
  have hclaims : parts.claims = .ok c := toOption_eq_some_iff.1 (by decide +kernel)
  rcases ClaimSet.ofClaims?_of_subject (show Text.trim c.sub ≠ "" by decide) with ⟨set, _, hmeans⟩
  have haccept : v.accept now ((RevocationList.empty.run changes).isRevoked now) c = .ok (.ok set) := by
    refine accept_eq_ok_iff.2 ⟨by decide, rfl, hmeans, ?_⟩
    intro j hj _
    cases hj
    decide
  have haccepts : v.claims? now ((RevocationList.empty.run changes).isRevoked now) (some parts.text)
      = .ok (some set) := claims?_issue_eq_some rfl ha hclaims haccept
  have hid : set.tokenId = some "j1" := (hmeans.tokenId "j1").2 ⟨rfl, by decide⟩
  have hnow : now < expiresAt := by decide
  have heffect := revoke_takes_effect_iff changes haccepts hid hnow
  exact ⟨set, haccepts, hid, hnow, heffect.1.2 (by decide), heffect.2.2 (.inl ⟨by decide, by decide⟩)⟩

theorem accepts_revoked_padded_id
    : let v : TokenVerifier := ⟨.secret "S".toUTF8.data.toList, "authhub", 0⟩
      let parts := TokenParts.issue "S".toUTF8.data.toList .bits256 "eyJhbGciOiJIUzI1NiJ9"
        "eyJzdWIiOiJ1MSIsImlzcyI6ImF1dGhodWIiLCJleHAiOjQxMDI0NDQ4MDAsImp0aSI6IiBqMSAifQ"
      let now := Instant.ofSeconds 1780000000
      let expiresAt := Instant.ofSeconds 4102444800
      let revoked := RevocationList.empty.revoke " j1 " expiresAt
      ∃ set, v.claims? now (RevocationList.empty.isRevoked now) (some parts.text) = .ok (some set)
        ∧ set.tokenId = some " j1 " ∧ now < expiresAt
        ∧ revoked.isRevoked now " j1 " = false
        ∧ v.claims? now (revoked.isRevoked now) (some parts.text) = .ok (some set) := by
  intro v parts now expiresAt revoked
  have ha : parts.algorithm? = some (.hmac .bits256) := by decide +kernel
  let c : TokenClaims := { sub := "u1", iss := "authhub", exp := 4102444800, jti := some " j1 " }
  have hclaims : parts.claims = .ok c := toOption_eq_some_iff.1 (by decide +kernel)
  rcases ClaimSet.ofClaims?_of_subject (show Text.trim c.sub ≠ "" by decide) with ⟨set, _, hmeans⟩
  have haccepts : ∀ isRevoked : String → Bool, isRevoked " j1 " = false →
      v.claims? now isRevoked (some parts.text) = .ok (some set) := by
    intro isRevoked hunrevoked
    have haccept : v.accept now isRevoked c = .ok (.ok set) := by
      refine accept_eq_ok_iff.2 ⟨by decide, rfl, hmeans, ?_⟩
      intro j hj _
      cases hj
      exact hunrevoked
    exact claims?_issue_eq_some rfl ha hclaims haccept
  have hid : set.tokenId = some " j1 " := (hmeans.tokenId " j1 ").2 ⟨rfl, by decide⟩
  have hunrevoked : revoked.isRevoked now " j1 " = false := by decide
  exact ⟨set, haccepts _ rfl, hid, by decide, hunrevoked, haccepts _ hunrevoked⟩

end TokenVerifier

end TenantAuth
