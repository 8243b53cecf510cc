import TenantAuth.Http.Layer
import TenantAuth.Proofs.Access.Resources
import TenantAuth.Proofs.Resolution.Precedence

/-!
This module contains the theory of what a resolved identity can hold: roles and permissions need a user and
no calling service in between (`Headers.Yields.holds_nothing`).
-/

namespace TenantAuth

namespace Headers

inductive Yields (h : Headers) (claims? : Option String → Option ClaimSet)
    (verifies : String → String → Bool) (trace : TraceId) : Identity → IdentityOrigin → Prop where
  | service (token service : String) (presented : h.present? "x-service-token" = some token)
    (named : h.present? "x-service-name" = some service) (verified : verifies service token = true) :
    Yields h claims? verifies trace (h.serviceIdentity service trace) .service
  | gateway (user : UserId) (absent : ¬ h.Presents "x-service-token")
    (given : h.identifier? "x-user-id" = some user) :
    Yields h claims? verifies trace (h.gatewayIdentity user trace) .gateway
  | bearer (c : ClaimSet) (absent : ¬ h.Presents "x-service-token") (unnamed : ¬ h.Presents "x-user-id")
    (accepted : claims? h.bearerToken? = some c) :
    Yields h claims? verifies trace (h.bearerIdentity c trace) .bearer
  | anonymous (absent : ¬ h.Presents "x-service-token") (unnamed : ¬ h.Presents "x-user-id")
    (unaccepted : claims? h.bearerToken? = none) :
    Yields h claims? verifies trace { traceId := some trace } .anonymous

variable {h : Headers} {claims? : Option String → Option ClaimSet} {verifies : String → String → Bool}
  {trace : TraceId} {i : Identity} {origin : IdentityOrigin}

theorem yields_of_identify (hresolve : identify claims? verifies trace h = .ok (i, origin))
    : h.Yields claims? verifies trace i origin := by
  -- A presented service token decides alone, so the other headers only count in the second case.
  by_cases htoken : h.Presents "x-service-token"
  . rcases Option.isSome_iff_exists.1 (presents_iff_present?.1 htoken) with ⟨token, hpresent⟩
    rw [identify_of_serviceToken hpresent] at hresolve
    split at hresolve
    . cases hresolve
    . next service hname =>
      split at hresolve
      . next hverified =>
        cases hresolve
        exact .service token service hpresent hname hverified
      . cases hresolve
  . cases huser : (h.identifier? "x-user-id" : Option UserId) with
    | some user =>
      rw [identify_of_user htoken huser] at hresolve
      cases hresolve
      exact .gateway user htoken huser
    | none =>
      have hunnamed : ¬ h.Presents "x-user-id" := by
        rw [presents_iff_identifier? .user, huser]
        simp
      rw [identify_of_not_user htoken hunnamed] at hresolve
      split at hresolve
      . next c hclaims =>
        cases hresolve
        exact .bearer c htoken hunnamed hclaims
      . next hclaims =>
        cases hresolve
        exact .anonymous htoken hunnamed hclaims

namespace Yields

theorem holds_nothing (hyields : h.Yields claims? verifies trace i origin)
    (hcaller : i.userId = none ∨ i.serviceAccount = true) : i.roles = .empty ∧ i.permissions = .empty := by
  cases hyields with
  | service => exact ⟨rfl, rfl⟩
  | gateway user => exact hcaller.elim nofun nofun
  | bearer c => exact hcaller.elim nofun nofun
  | anonymous => exact ⟨rfl, rfl⟩

theorem not_superAdmin (hyields : h.Yields claims? verifies trace i origin)
    (hcaller : i.userId = none ∨ i.serviceAccount = true) : Role.superAdmin ∉ i.roles := by
  rw [(hyields.holds_nothing hcaller).1]
  exact SortedSet.not_mem_empty

theorem holds_authenticated (hyields : h.Yields claims? verifies trace i origin) (policy : ActionPolicy)
    : (Principal.mk i policy).holds .authenticated = i.isAuthenticated := by
  show (i.isSuperAdmin || i.isAuthenticated) = i.isAuthenticated
  by_cases huser : i.userId = none
  . have hadmin : i.isSuperAdmin = false := by
      rw [← Bool.not_eq_true, Identity.isSuperAdmin_iff]
      exact hyields.not_superAdmin (.inl huser)
    rw [hadmin, Bool.false_or]
  . rw [Identity.isAuthenticated_iff.2 huser, Bool.or_true]

theorem authorize_eq (hyields : h.Yields claims? verifies trace i origin) (policy : ActionPolicy) (g : Guard)
    : authorize (Principal.mk i policy) g
        =
      if g.eval (Principal.mk i policy) = true then
        .ok (Principal.mk i policy)
      else
        .error (.ofIdentity i) := by
  rw [authorize, hyields.holds_authenticated, Denial.ofIdentity]
  cases i.isAuthenticated with
  | true => rfl
  | false => rfl

end Yields

end Headers

end TenantAuth
