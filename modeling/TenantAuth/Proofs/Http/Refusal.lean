import TenantAuth.Proofs.Http.Enforcement
import TenantAuth.Proofs.Resolution.Privileges

/-!
This module contains the theory of resolved identities that are refused. Callers without a user and calling
services pass endpoint policies through public endpoints only, and whoever is refused by a guard and by the
policies is refused for the same reason (`identify_refusal`).
-/

namespace TenantAuth

variable {i : Identity}

theorem EndpointPolicy.permits_of_holds_nothing (hroles : i.roles = .empty)
    (hpermissions : i.permissions = .empty) (p : EndpointPolicy)
    : p.permits i = true ↔ p.isPublic = true := by
  rw [permits_iff, Admits, hroles, hpermissions]
  simp

theorem EndpointListing.permits_of_holds_nothing (hroles : i.roles = .empty)
    (hpermissions : i.permissions = .empty) (resolved : Option EndpointPolicy)
    : permits resolved i = true ↔ ∃ p, resolved = some p ∧ p.isPublic = true := by
  simp only [permits, Option.any_eq_true, EndpointPolicy.permits_of_holds_nothing hroles hpermissions]

theorem withPolicies_enter {m : Type → Type} [Monad m] {store : EndpointStore} {service : String}
    {next : Handler m} {bindings : Bindings} {request : Request}
    (hrefused : admits (store.listing service) i request.method request.path = false)
    : withPolicies store service next (bindings.enter i) request = pure (.ofDenial (.ofIdentity i)) :=
  if_neg (Bool.not_eq_true _ ▸ hrefused)

theorem identify_refusal (claims? : Option String → Option ClaimSet) (verifies : String → String → Bool)
    (trace : TraceId) (h : Headers) {origin : IdentityOrigin}
    (hresolve : identify claims? verifies trace h = .ok (i, origin))
    : ((i.userId = none ∨ i.serviceAccount = true) →
        ∀ (l : EndpointListing) (method : Method) (path : String),
          EndpointListing.permits (l.resolve method path) i = true
            ↔ ∃ p, l.resolve method path = some p ∧ p.isPublic = true)
      ∧ ∀ policy g denial, authorize (Principal.mk i policy) g = .error denial →
        denial = .ofIdentity i
          ∧ ∀ (m : Type → Type) [Monad m] store service (next : Handler m) (bindings : Bindings)
            (request : Request), admits (store.listing service) i request.method request.path = false →
              withPolicies store service next (bindings.enter i) request = pure (.ofDenial denial) := by
  have hyields := Headers.yields_of_identify hresolve
  refine ⟨?_, ?_⟩
  . intro hcaller l method path
    rcases hyields.holds_nothing hcaller with ⟨hroles, hpermissions⟩
    exact EndpointListing.permits_of_holds_nothing hroles hpermissions _
  . intro policy g denial hdenial
    rw [hyields.authorize_eq] at hdenial
    split at hdenial
    . cases hdenial
    . cases hdenial
      refine ⟨rfl, ?_⟩
      intro m _ store service next bindings request hrefused
      exact withPolicies_enter hrefused

theorem identify_refusal_of_forwarded_user
    : let h := Headers.ofList [
        ("X-Service-Name", .ofText "billing"), ("X-Service-Token", .ofText "s3cret"),
        ("X-Original-User-Id", .ofText "u1"), ("X-User-Roles", .ofText "SUPER_ADMIN")
      ]
      let services := ServiceTokens.empty.register "billing" "s3cret"
      let trace : TraceId := ⟨"t", by decide, by decide⟩
      let service : ServiceName := ⟨"directory", by decide, by decide⟩
      let guarded : EndpointPolicy := {
        method := .get, pattern := ⟨"/users/*", [.literal "users", .single], by decide, rfl⟩, service
        requiredRoles := .ofList [.superAdmin], requiredPermissions := .ofList [⟨"user:read"⟩]
      }
      let opened : EndpointPolicy := {
        method := .get, pattern := ⟨"/health", [.literal "health"], by decide, rfl⟩, service
        isPublic := true
      }
      let store := ((EndpointStore.empty.upsert .epoch guarded).2.upsert .epoch opened).2
      let l := store.listing "directory"
      let request : Request := { method := "GET", path := "/users/7", headers := h }
      ∃ i, identify (fun _ => none) services.verifies trace h = .ok (i, .service) ∧ i.serviceAccount = true
        ∧ EndpointListing.permits (l.resolve .get "/users/7") i = false
        ∧ EndpointListing.permits (l.resolve .get "/health") i = true
        ∧ authorize (Principal.mk i .empty) (.leaf .tenantAdmin) = .error .forbidden
        ∧ ∀ next : Handler (Except Fault),
          withPolicies store "directory" next (Bindings.outside.enter i) request = .ok (.ofDenial .forbidden) := by
  intro h services trace service guarded opened store l request
  let i := h.serviceIdentity "billing" trace
  have hresolve : identify (fun _ => none) services.verifies trace h = .ok (i, .service) := by decide
  have haccount : i.serviceAccount = true := by decide
  rcases identify_refusal (fun _ => none) services.verifies trace h hresolve with ⟨hpublic, hdenial⟩
  have husers : l.resolve .get "/users/7" = some guarded := by decide
  have hhealth : l.resolve .get "/health" = some opened := by decide
  have hguarded : EndpointListing.permits (l.resolve .get "/users/7") i = false := by
    rw [← Bool.not_eq_true, hpublic (.inr haccount), husers]
    rintro ⟨p, hp, hpublic⟩
    cases hp
    cases hpublic
  have hopened := (hpublic (.inr haccount) l .get "/health").2 ⟨opened, hhealth, rfl⟩
  have hforbidden : authorize (Principal.mk i .empty) (.leaf .tenantAdmin) = .error .forbidden := by rfl
  have hrefused : admits l i request.method request.path = false := by decide
  refine ⟨i, hresolve, haccount, hguarded, hopened, hforbidden, ?_⟩
  intro next
  exact (hdenial .empty _ _ hforbidden).2 _ store "directory" next .outside request hrefused

end TenantAuth
