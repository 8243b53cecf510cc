import TenantAuth.Proofs.Token.Issuance

/-!
This module contains the theory of which tokens are accepted and what is understood of them. The main
statement says that a token is accepted exactly if it passes every check, whichever comes first, and that
revocations have no influence on a token that fails another check.
-/

namespace TenantAuth

theorem toOption_eq_some_iff {ε α : Type} {x : Except ε α} {a : α} : x.toOption = some a ↔ x = .ok a := by
  cases x with
  | error e => simp [Except.toOption]
  | ok a' => simp [Except.toOption]

namespace ClaimSet

variable {c : TokenClaims} {set : ClaimSet}

/--
What the claims of a token mean. Blank identifiers and names count as absent.
-/
structure Means (set : ClaimSet) (c : TokenClaims) : Prop where
  tokenId : ∀ j, set.tokenId = some j ↔ c.jti = some j ∧ Text.trim j ≠ ""
  userId : set.userId.text = Text.trim c.sub
  tenantId : set.tenantId.map Identifier.text = namedTarget? c.tid
  organizationId : set.organizationId.map Identifier.text = namedTarget? c.oid
  roles : ∀ r, r ∈ set.roles ↔ ∃ name ∈ c.roles.getD [], Role.parse? name = some r
  permissions : ∀ p, p ∈ set.permissions ↔ ∃ name ∈ c.permissions.getD [], Permission.parse? name = some p

theorem Means.unique {a b : ClaimSet} (ha : a.Means c) (hb : b.Means c) : a = b := by
  have htokenId : a.tokenId = b.tokenId := by
    apply Option.ext
    intro j
    rw [ha.tokenId, hb.tokenId]
  have huserId : a.userId = b.userId := by
    apply Identifier.text_inj
    rw [ha.userId, hb.userId]
  have htenantId : a.tenantId = b.tenantId := by
    apply Option.map_injective fun _ _ => Identifier.text_inj
    rw [ha.tenantId, hb.tenantId]
  have horganizationId : a.organizationId = b.organizationId := by
    apply Option.map_injective fun _ _ => Identifier.text_inj
    rw [ha.organizationId, hb.organizationId]
  have hroles : a.roles = b.roles := by
    apply SortedSet.ext
    intro r
    rw [ha.roles, hb.roles]
  have hpermissions : a.permissions = b.permissions := by
    apply SortedSet.ext
    intro p
    rw [ha.permissions, hb.permissions]
  cases a
  cases b
  simp_all

theorem Means.any_tokenId (h : set.Means c) {isRevoked : String → Bool}
    : set.tokenId.any isRevoked = true ↔ ∃ j, c.jti = some j ∧ Text.trim j ≠ "" ∧ isRevoked j = true := by
  simp only [Option.any_eq_true, h.tokenId, and_assoc]

theorem Means.subject_ne (h : set.Means c) : Text.trim c.sub ≠ "" :=
  h.userId ▸ set.userId.text_ne

theorem ofClaims?_of_subject (h : Text.trim c.sub ≠ "") : ∃ set, ofClaims? c = some set ∧ set.Means c := by
  have huser : (Identifier.ofText c.sub : Except _ UserId) = .ok ⟨Text.trim c.sub, Text.trim_trim _, h⟩ :=
    Identifier.ofText_eq_ok_iff.2 rfl
  unfold ofClaims?
  rw [huser]
  refine ⟨_, rfl, ?_, rfl, ?_, ?_, ?_, ?_⟩
  . intro j
    rw [Option.filter_eq_some_iff, Bool.not_eq_true', ← Bool.not_eq_true, Text.blank_iff]
  . apply Identifier.map_text_ofText?
  . apply Identifier.map_text_ofText?
  . intro r
    rw [SortedSet.mem_ofList, List.mem_filterMap]
  . intro p
    rw [SortedSet.mem_ofList, List.mem_filterMap]

theorem ofClaims?_eq_some_iff : ofClaims? c = some set ↔ set.Means c := by
  constructor
  . intro h
    by_cases hsub : Text.trim c.sub = ""
    . have huser : (Identifier.ofText c.sub : Except _ UserId) = .error (.blank .user) :=
        Identifier.ofText_eq_error_iff.2 ⟨hsub, rfl⟩
      rw [ofClaims?, huser] at h
      cases h
    . rcases ofClaims?_of_subject hsub with ⟨set', hset', hmeans⟩
      rw [h, Option.some.injEq] at hset'
      rwa [hset']
  . intro h
    rcases ofClaims?_of_subject h.subject_ne with ⟨set', hset', hmeans⟩
    rw [hset', hmeans.unique h]

theorem ofClaims?_eq_none_iff : ofClaims? c = none ↔ Text.trim c.sub = "" := by
  constructor
  . intro h
    apply Decidable.byContradiction
    intro hsub
    rcases ofClaims?_of_subject hsub with ⟨set, hset, _⟩
    cases h.symm.trans hset
  . intro hsub
    rw [Option.eq_none_iff_forall_ne_some]
    intro set hset
    exact (ofClaims?_eq_some_iff.1 hset).subject_ne hsub

end ClaimSet

namespace TokenVerifier

variable {v : TokenVerifier} {now : Instant} {isRevoked : String → Bool} {c : TokenClaims} {set : ClaimSet}

theorem isExpired_of_le {exp : UInt64} (h : v.leeway ≤ now.seconds)
    : v.isExpired now exp = .ok (decide (exp < now.seconds - v.leeway)) :=
  if_neg (UInt64.not_lt.2 h)

theorem accept_of_lt (h : now.seconds < v.leeway) : v.accept now isRevoked c = .error .overflow := by
  rw [accept, isExpired, if_pos h]
  rfl

-- What is found does not hang on the revocations, except that they are looked at last.
theorem accept_cases (h : v.leeway ≤ now.seconds) (c : TokenClaims)
    : (c.exp < now.seconds - v.leeway ∧ ∀ isRevoked, v.accept now isRevoked c = .ok (.error .expired))
      ∨ ¬ c.exp < now.seconds - v.leeway
        ∧ ((c.iss ≠ v.issuer ∧ ∀ isRevoked, v.accept now isRevoked c = .ok (.error .wrongIssuer))
          ∨ c.iss = v.issuer
            ∧ ((Text.trim c.sub = "" ∧ ∀ isRevoked, v.accept now isRevoked c = .ok (.error .invalid))
              ∨ ∃ set : ClaimSet, set.Means c
                ∧ ∀ isRevoked, v.accept now isRevoked c
                  = .ok (if set.tokenId.any isRevoked then .error .revoked else .ok set))) := by
  unfold accept
  rw [isExpired_of_le h]
  by_cases hexpired : c.exp < now.seconds - v.leeway
  . left
    refine ⟨hexpired, fun isRevoked => ?_⟩
    rw [decide_eq_true hexpired]
    rfl
  . right
    refine ⟨hexpired, ?_⟩
    rw [decide_eq_false hexpired]
    by_cases hissuer : c.iss = v.issuer
    . right
      refine ⟨hissuer, ?_⟩
      simp only [hissuer, ne_eq, not_true_eq_false, if_false]
      by_cases hsub : Text.trim c.sub = ""
      . left
        refine ⟨hsub, fun isRevoked => ?_⟩
        rw [ClaimSet.ofClaims?_eq_none_iff.2 hsub]
        rfl
      . right
        rcases ClaimSet.ofClaims?_of_subject hsub with ⟨set, hset, hmeans⟩
        refine ⟨set, hmeans, fun isRevoked => ?_⟩
        rw [hset]
        rfl
    . left
      refine ⟨hissuer, fun isRevoked => ?_⟩
      simp only [ne_eq, hissuer, not_false_eq_true, if_true]
      rfl

theorem accept_eq_fault_iff {f : Fault}
    : v.accept now isRevoked c = .error f ↔ now.seconds < v.leeway := by
  by_cases h : now.seconds < v.leeway
  . rw [accept_of_lt h, iff_true_right h]
  . refine iff_of_false ?_ h
    rcases accept_cases (UInt64.not_lt.1 h) c with
      ⟨_, haccept⟩ | ⟨_, ⟨_, haccept⟩ | ⟨_, ⟨_, haccept⟩ | ⟨_, _, haccept⟩⟩⟩
    all_goals
      rw [haccept]
      exact nofun

theorem accept_eq_ok_iff
    : v.accept now isRevoked c = .ok (.ok set)
        ↔
      (v.leeway ≤ now.seconds ∧ ¬ c.exp < now.seconds - v.leeway) ∧ c.iss = v.issuer ∧ set.Means c
        ∧ ∀ j, c.jti = some j → Text.trim j ≠ "" → isRevoked j = false := by
  by_cases hlt : now.seconds < v.leeway
  . rw [accept_of_lt hlt]
    exact iff_of_false nofun fun h => UInt64.not_lt.2 h.1.1 hlt
  . have hle := UInt64.not_lt.1 hlt
    rcases accept_cases hle c with
      ⟨hexpired, haccept⟩ | ⟨hcurrent, ⟨hissuer, haccept⟩ | ⟨hissuer, ⟨hsub, haccept⟩ | ⟨set', hmeans, haccept⟩⟩⟩
    . rw [haccept]
      exact iff_of_false nofun fun h => h.1.2 hexpired
    . rw [haccept]
      exact iff_of_false nofun fun h => hissuer h.2.1
    . rw [haccept]
      exact iff_of_false nofun fun h => h.2.2.1.subject_ne hsub
    . have hunrevoked : ¬ set'.tokenId.any isRevoked = true
          ↔ ∀ j, c.jti = some j → Text.trim j ≠ "" → isRevoked j = false := by
        rw [hmeans.any_tokenId]
        simp only [not_exists, not_and, Bool.not_eq_true]
      rw [haccept, ← hunrevoked]
      constructor
      . intro h
        split at h
        . cases h
        . next hrevoked =>
          cases h
          exact ⟨⟨hle, hcurrent⟩, hissuer, hmeans, hrevoked⟩
      . rintro ⟨_, _, hset, hrevoked⟩
        rw [if_neg hrevoked, hmeans.unique hset]

theorem verify_of_blank {raw : String} (h : Text.trim raw = "")
    : v.verify now isRevoked (some raw) = .ok (.error .blank) := by
  unfold verify
  rw [Option.bind_some, Text.normalize?_eq_none_iff.2 h]

theorem verify_of_not_blank {raw : String} (h : Text.trim raw ≠ "")
    : v.verify now isRevoked (some raw)
        =
      match v.open? (Text.trim raw) with
      | .error e => .ok (.error e)
      | .ok c => v.accept now isRevoked c := by
  unfold verify
  have hnormal : Text.normalize? raw = some (Text.trim raw) := Text.normalize?_eq_some_iff.2 ⟨rfl, h⟩
  cases hopen : v.open? (Text.trim raw) with
  | error e => simp only [Option.bind_some, hnormal, hopen]
  | ok c => simp only [Option.bind_some, hnormal, hopen]

theorem verify_of_open? {raw : String} (h : Text.trim raw ≠ "") (hopen : v.open? (Text.trim raw) = .ok c)
    : v.verify now isRevoked (some raw) = v.accept now isRevoked c := by
  rw [verify_of_not_blank h, hopen]

-- What the claims are checked for comes last, so any result that is not one of the steps before is theirs.
theorem verify_eq_iff_accept {token : Option String} {r : Except Fault (Except Rejection ClaimSet)}
    (hblank : r ≠ .ok (.error .blank)) (hopen : ∀ t e, v.open? t = .error e → r ≠ .ok (.error e))
    : v.verify now isRevoked token = r
        ↔
      ∃ raw c, token = some raw ∧ Text.trim raw ≠ "" ∧ v.open? (Text.trim raw) = .ok c
        ∧ v.accept now isRevoked c = r := by
  constructor
  . intro h
    cases token with
    | none => exact absurd h.symm hblank
    | some raw =>
      by_cases hraw : Text.trim raw = ""
      . rw [verify_of_blank hraw] at h
        exact absurd h.symm hblank
      . cases ho : v.open? (Text.trim raw) with
        | error e =>
          rw [verify_of_not_blank hraw, ho] at h
          exact absurd h.symm (hopen _ e ho)
        | ok c =>
          rw [verify_of_open? hraw ho] at h
          exact ⟨raw, c, rfl, hraw, ho, h⟩
  . rintro ⟨raw, c, rfl, hraw, ho, h⟩
    rw [verify_of_open? hraw ho, h]

theorem verify_eq_ok_iff {token : Option String}
    : v.verify now isRevoked token = .ok (.ok set)
        ↔
      ∃ raw c, token = some raw ∧ Text.trim raw ≠ "" ∧ v.open? (Text.trim raw) = .ok c
        ∧ v.accept now isRevoked c = .ok (.ok set) := by
  apply verify_eq_iff_accept
  . exact nofun
  . exact fun _ _ _ => nofun

theorem verify_issue {secret : List UInt8} {h : Crypto.Hash} {header payload : String} {w : Json.Written}
    (hkey : v.key = .secret secret)
    (ha : (TokenParts.issue secret h header payload).algorithm? = some (.hmac h))
    (hw : TokenParts.decode? payload = some w)
    : v.verify now isRevoked (some (TokenParts.issue secret h header payload).text)
        =
      match (TokenParts.issue secret h header payload).claims with
      | .error e => .ok (.error e)
      | .ok c => v.accept now isRevoked c := by
  have htrim := TokenParts.trim_text_issue ha hw
  have hopen := open?_issue hkey ha hw
  -- From here on the parts are just any, or the rewriting would compute their signature.
  generalize TokenParts.issue secret h header payload = parts at htrim hopen ⊢
  have hblank : Text.trim parts.text ≠ "" := by
    rw [htrim]
    exact TokenParts.text_ne parts
  rw [verify_of_not_blank hblank, htrim, hopen]

theorem claims?_eq_some_iff_verify {token : Option String}
    : v.claims? now isRevoked token = .ok (some set) ↔ v.verify now isRevoked token = .ok (.ok set) := by
  unfold claims?
  cases v.verify now isRevoked token with
  | error f => exact iff_of_false nofun nofun
  | ok r =>
    show Except.ok r.toOption = .ok (some set) ↔ Except.ok r = .ok (.ok set)
    rw [Except.ok.injEq, Except.ok.injEq, toOption_eq_some_iff]

theorem claims?_eq_none_iff_verify {token : Option String}
    : v.claims? now isRevoked token = .ok none ↔ ∃ e, v.verify now isRevoked token = .ok (.error e) := by
  unfold claims?
  cases v.verify now isRevoked token with
  | error f => exact iff_of_false nofun nofun
  | ok r =>
    cases r with
    | error e => exact iff_of_true rfl ⟨e, rfl⟩
    | ok set => exact iff_of_false nofun nofun

theorem claims?_eq_fault_iff_verify {token : Option String} {f : Fault}
    : v.claims? now isRevoked token = .error f ↔ v.verify now isRevoked token = .error f := by
  unfold claims?
  cases v.verify now isRevoked token with
  | error f' =>
    show Except.error f' = .error f ↔ Except.error f' = .error f
    rw [Except.error.injEq, Except.error.injEq]
  | ok r => exact iff_of_false nofun nofun

theorem verify_issue_of_claims {secret : List UInt8} {h : Crypto.Hash} {header payload : String}
    (hkey : v.key = .secret secret)
    (ha : (TokenParts.issue secret h header payload).algorithm? = some (.hmac h))
    (hclaims : (TokenParts.issue secret h header payload).claims = .ok c)
    : v.verify now isRevoked (some (TokenParts.issue secret h header payload).text)
        =
      v.accept now isRevoked c := by
  rcases TokenParts.claims_eq_ok_iff.1 hclaims with ⟨_, w, hw, _⟩
  rw [verify_issue hkey ha hw, hclaims]

theorem claims?_issue_eq_some {secret : List UInt8} {h : Crypto.Hash} {header payload : String}
    (hkey : v.key = .secret secret)
    (ha : (TokenParts.issue secret h header payload).algorithm? = some (.hmac h))
    (hclaims : (TokenParts.issue secret h header payload).claims = .ok c)
    (haccept : v.accept now isRevoked c = .ok (.ok set))
    : v.claims? now isRevoked (some (TokenParts.issue secret h header payload).text) = .ok (some set) := by
  rw [claims?_eq_some_iff_verify, verify_issue_of_claims hkey ha hclaims, haccept]

end TokenVerifier

end TenantAuth
