import TenantAuth.Proofs.Resolution.Privileges

/-!
This module contains the theory of resolved identities without a user. They hold nothing, but a calling
service that forwards a tenant or an organization and no user reads and updates what it forwards
(`holds_iff_forwards`).
-/

namespace TenantAuth

def Headers.Forwards (h : Headers) (target : Option String) : ResourceKind → Prop
  | .tenant => ∃ tenant : TenantId,
      h.identifier? "x-original-tenant-id" = some tenant ∧ tenant.NamedBy target
  | .organization => ∃ organization : OrganizationId,
      h.identifier? "x-original-organization-id" = some organization ∧ organization.NamedBy target
  | .user | .role | .permission => False

variable {h : Headers} {claims? : Option String → Option ClaimSet} {verifies : String → String → Bool}
  {trace : TraceId} {i : Identity} {origin : IdentityOrigin} {kind : ResourceKind} {action : String}

theorem Headers.Yields.isolatedTo_iff (hyields : h.Yields claims? verifies trace i origin)
    (huser : i.userId = none) (target : Option String) (kind : ResourceKind)
    : i.IsolatedTo target kind ↔ origin = .service ∧ h.Forwards target kind := by
  cases kind with
  | user =>
    refine iff_of_false ?_ (fun h => h.2)
    rintro ⟨user, heq, _⟩
    cases huser.symm.trans heq
  | role | permission => exact iff_of_false (fun h => h huser) (fun h => h.2)
  | tenant | organization =>
    cases hyields with
    | service => exact (and_iff_right rfl).symm
    | gateway => cases huser
    | bearer => cases huser
    | anonymous =>
      refine iff_of_false ?_ (fun h => nomatch h.1)
      rintro ⟨_, heq, _⟩
      cases heq

theorem ActionPolicy.default_of_owned (hkind : kind = .tenant ∨ kind = .organization)
    : ActionPolicy.default kind action
        =
      if action = "read" ∨ action = "update" then .owner else .superAdmin := by
  cases hkind with
  | inl htenant => rw [htenant, ActionPolicy.default]
  | inr horganization => rw [horganization, ActionPolicy.default]

theorem Identity.meets_default_iff (hkind : kind = .tenant ∨ kind = .organization)
    : i.Meets kind action (ActionPolicy.default kind action) ↔ action = "read" ∨ action = "update" := by
  rw [ActionPolicy.default_of_owned hkind]
  split
  . next haction => exact iff_of_true trivial haction
  . next haction => exact iff_of_false id haction

theorem holds_iff_forwards (claims? : Option String → Option ClaimSet) (verifies : String → String → Bool)
    (trace : TraceId) (h : Headers) (hresolve : identify claims? verifies trace h = .ok (i, origin))
    (huser : i.userId = none)
    : (i.roles = .empty ∧ i.permissions = .empty)
      ∧ (∀ target,
        ((Principal.mk i .empty).holds (.sameTenant target) = true
            ↔ origin = .service ∧ h.Forwards target .tenant)
          ∧ ((Principal.mk i .empty).holds (.sameOrganization target) = true
            ↔ origin = .service ∧ h.Forwards target .organization))
      ∧ (∀ kind target action,
        (Principal.mk i .empty).holds (.resource kind target action) = true
          ↔ (origin = .service ∧ h.Forwards target kind) ∧ (action = "read" ∨ action = "update"))
      ∧ ∀ g, authorize (Principal.mk i .empty) g
        = if g.eval (Principal.mk i .empty) = true then
            .ok (Principal.mk i .empty)
          else
            .error .unauthenticated := by
  have hyields := Headers.yields_of_identify hresolve
  have hadmin := hyields.not_superAdmin (.inl huser)
  refine ⟨hyields.holds_nothing (.inl huser), ?_, ?_, ?_⟩
  . intro target
    rw [Principal.holds_iff_satisfies hadmin, Principal.holds_iff_satisfies hadmin]
    exact ⟨isHeld_iff.trans (hyields.isolatedTo_iff huser target .tenant),
      isHeld_iff.trans (hyields.isolatedTo_iff huser target .organization)⟩
  . intro kind target action
    rw [Principal.holds_resource hadmin, hyields.isolatedTo_iff huser]
    apply and_congr_right
    rintro ⟨_, hforwards⟩
    cases kind with
    | tenant => exact Identity.meets_default_iff (.inl rfl)
    | organization => exact Identity.meets_default_iff (.inr rfl)
    | user | role | permission => exact hforwards.elim
  . intro g
    rw [hyields.authorize_eq, Denial.ofIdentity, Identity.isAuthenticated, huser]
    rfl

theorem holds_iff_forwards_of_blank_user
    : let h := Headers.ofList [
        ("X-Service-Name", .ofText "billing"), ("X-Service-Token", .ofText "s3cret"),
        ("X-Original-User-Id", .ofText " "), ("X-Original-Organization-Id", .ofText "o1")
      ]
      let services := ServiceTokens.empty.register "billing" "s3cret"
      let trace : TraceId := ⟨"t", by decide, by decide⟩
      ∃ i, identify (fun _ => none) services.verifies trace h = .ok (i, .service) ∧ i.userId = none
        ∧ (Principal.mk i .empty).holds (.sameOrganization (some " o1 ")) = true
        ∧ (Principal.mk i .empty).holds (.resource .organization (some "o1") "read") = true
        ∧ (Principal.mk i .empty).holds (.sameTenant (some "o1")) = false
        ∧ ∀ action, (Principal.mk i .empty).holds (.resource .role none action) = false
          ∧ authorize (Principal.mk i .empty) (.leaf (.resource .role none action))
            = .error .unauthenticated := by
  intro h services trace
  let i := h.serviceIdentity "billing" trace
  have hresolve : identify (fun _ => none) services.verifies trace h = .ok (i, .service) := by decide
  have huser : i.userId = none := by decide
  rcases holds_iff_forwards (fun _ => none) services.verifies trace h hresolve huser with
    ⟨_, hheld, hresource, hauthorize⟩
  have horganization : h.identifier? "x-original-organization-id"
      = some (⟨"o1", by decide, by decide⟩ : OrganizationId) := by decide
  have htenant : (h.identifier? "x-original-tenant-id" : Option TenantId) = none := by decide
  have hpadded : h.Forwards (some " o1 ") .organization := ⟨_, horganization, " o1 ", rfl, by decide⟩
  have hplain : h.Forwards (some "o1") .organization := ⟨_, horganization, "o1", rfl, by decide⟩
  have hforeign : ¬ h.Forwards (some "o1") .tenant := by
    rintro ⟨_, heq, _⟩
    cases htenant.symm.trans heq
  refine ⟨i, hresolve, huser, (hheld (some " o1 ")).2.2 ⟨rfl, hpadded⟩,
    (hresource .organization (some "o1") "read").2 ⟨⟨rfl, hplain⟩, .inl rfl⟩, ?_, ?_⟩
  . rw [← Bool.not_eq_true, (hheld (some "o1")).1]
    exact fun h => hforeign h.2
  . intro action
    have hrole : (Principal.mk i .empty).holds (.resource .role none action) = false := by
      rw [← Bool.not_eq_true, hresource]
      exact fun h => h.1.2
    refine ⟨hrole, ?_⟩
    rw [hauthorize, Guard.eval_leaf, hrole]
    rfl

theorem service_without_user_updates_tenant
    : let h := Headers.ofList [
        ("X-Service-Name", .ofText "billing"), ("X-Service-Token", .ofText "s3cret"),
        ("X-Original-Tenant-Id", .ofText "t1")
      ]
      let services := ServiceTokens.empty.register "billing" "s3cret"
      let trace : TraceId := ⟨"t", by decide, by decide⟩
      ∃ i, identify (fun _ => none) services.verifies trace h = .ok (i, .service) ∧ i.userId = none
        ∧ (Principal.mk i .empty).holds (.sameTenant (some "t1")) = true
        ∧ (Principal.mk i .empty).holds (.resource .tenant (some "t1") "update") = true
        ∧ authorize (Principal.mk i .empty) (.leaf (.resource .tenant (some "t1") "update"))
          = .ok (Principal.mk i .empty) := by
  intro h services trace
  exact ⟨h.serviceIdentity "billing" trace, by decide, by decide, by decide, by decide, rfl⟩

end TenantAuth
