import TenantAuth.Proofs.Reach.Scoped

/-!
This module contains the theory of the checks whether an identity gets at a tenant. Those by scope, by
isolation and for queries are one check on every tenant that is named (`tenant_checks_agree`). The tenant
that queries are restricted to says what this check allows once it is known whether there is a restriction
(`restriction_decides_tenants`).
-/

namespace TenantAuth

variable {i : Identity} {policy : ActionPolicy} {target tenant organization : Option String}

theorem Principal.holds_sameTenant_iff
    : (Principal.mk i policy).holds (.sameTenant target) = true
        ↔
      Role.superAdmin ∈ i.roles ∨ i.IsolatedTo target .tenant :=
  holds_iff.trans (or_congr_right isHeld_iff)

theorem Principal.holds_sameOrganization_iff
    : (Principal.mk i policy).holds (.sameOrganization target) = true
        ↔
      Role.superAdmin ∈ i.roles ∨ i.IsolatedTo target .organization :=
  holds_iff.trans (or_congr_right isHeld_iff)

namespace Identity

theorem seesTenant_iff
    : i.seesTenant target = true ↔ Role.superAdmin ∈ i.roles ∨ i.IsolatedTo target .tenant := by
  rw [seesTenant, Bool.or_eq_true, isSuperAdmin_iff]
  exact or_congr_right isHeld_iff

theorem not_isolatedTo_of_not_named (h : ¬ IsNamed target) : ¬ i.IsolatedTo target .tenant := by
  rintro ⟨_, _, hnamed⟩
  exact h hnamed.isNamed

theorem covers_iff_of_scope_ne_tenant (hscope : i.scope ≠ .tenant)
    : i.Covers tenant organization
        ↔
      Role.superAdmin ∈ i.roles ∨ i.IsolatedTo organization .organization := by
  rw [← scope_eq_global_iff, Covers]
  cases h : i.scope with
  | global => exact iff_of_true trivial (.inl rfl)
  | tenant => exact absurd h hscope
  | organization => exact (or_iff_right Scope.noConfusion).symm

theorem isTenantBound_iff : i.isTenantBound = true ↔ Role.superAdmin ∉ i.roles ∧ i.userId ≠ none := by
  rw [isTenantBound, Bool.and_eq_true, Bool.not_eq_true', ← Bool.not_eq_true, isSuperAdmin_iff,
    isAuthenticated_iff]

theorem tenantRestriction?_eq_none_iff
    : i.tenantRestriction? = none ↔ Role.superAdmin ∈ i.roles ∨ i.tenantId = none := by
  rw [tenantRestriction?, ← isSuperAdmin_iff]
  cases i.isSuperAdmin with
  | true => exact iff_of_true rfl (.inl rfl)
  | false => exact (or_iff_right Bool.false_ne_true).symm

theorem tenantRestriction?_eq_some_iff {held : TenantId}
    : i.tenantRestriction? = some held ↔ Role.superAdmin ∉ i.roles ∧ i.tenantId = some held := by
  rw [tenantRestriction?, ← isSuperAdmin_iff]
  cases i.isSuperAdmin with
  | true => exact iff_of_false nofun (fun h => h.1 rfl)
  | false => exact (and_iff_right Bool.false_ne_true).symm

theorem isolatedTo_tenant_text_iff {held : TenantId}
    : i.IsolatedTo (some held.text) .tenant ↔ i.tenantId = some held := by
  constructor
  . rintro ⟨tenant, heq, t, htext, hnamed⟩
    cases htext
    rw [held.trim_text] at hnamed
    rw [heq, Identifier.text_inj hnamed]
  . intro heq
    exact ⟨held, heq, held.text, rfl, held.trim_text⟩

end Identity

theorem tenant_checks_agree (i : Identity) (policy : ActionPolicy)
    : (∀ target, IsNamed target →
        (i.reaches (.tenant target) = true ↔ Role.superAdmin ∈ i.roles ∨ i.IsolatedTo target .tenant)
          ∧ (Principal.mk i policy).holds (.sameTenant target) = i.reaches (.tenant target)
          ∧ i.seesTenant target = i.reaches (.tenant target))
      ∧ (∀ target, ¬ IsNamed target →
        i.reaches (.tenant target) = false
          ∧ ((Principal.mk i policy).holds (.sameTenant target) = true ↔ Role.superAdmin ∈ i.roles)
          ∧ (i.seesTenant target = true ↔ Role.superAdmin ∈ i.roles))
      ∧ ∀ organization tenant, IsNamed organization → i.scope ≠ .tenant →
        i.reaches (.organization organization tenant)
          = (Principal.mk i policy).holds (.sameOrganization organization) := by
  refine ⟨?_, ?_, ?_⟩
  . intro target hnamed
    have hreaches : i.reaches (.tenant target) = true
        ↔ Role.superAdmin ∈ i.roles ∨ i.IsolatedTo target .tenant :=
      Identity.reachesTenant_iff.trans (and_iff_right hnamed)
    refine ⟨hreaches, ?_, ?_⟩
    . rw [Bool.eq_iff_iff, hreaches, Principal.holds_sameTenant_iff]
    . rw [Bool.eq_iff_iff, hreaches, Identity.seesTenant_iff]
  . intro target hunnamed
    have hisolated : ¬ i.IsolatedTo target .tenant := Identity.not_isolatedTo_of_not_named hunnamed
    refine ⟨?_, ?_, ?_⟩
    . rw [← Bool.not_eq_true]
      exact fun h => hunnamed (Identity.reachesTenant_iff.1 h).1
    . rw [Principal.holds_sameTenant_iff, or_iff_left hisolated]
    . rw [Identity.seesTenant_iff, or_iff_left hisolated]
  . intro organization tenant hnamed hscope
    have hcovers : i.Covers tenant organization
        ↔ Role.superAdmin ∈ i.roles ∨ i.IsolatedTo organization .organization :=
      Identity.covers_iff_of_scope_ne_tenant hscope
    rw [Bool.eq_iff_iff, Principal.holds_sameOrganization_iff, ← hcovers]
    exact Identity.reachesOrganization_iff.trans (and_iff_right hnamed)

theorem tenant_checks_agree_of_padded_target
    : let i : Identity := {
        tenantId := some ⟨"t1", by decide, by decide⟩
        organizationId := some ⟨"o1", by decide, by decide⟩
        roles := .ofList [.orgAdmin, ⟨"super_admin"⟩]
      }
      let policy := ActionPolicy.ofRules [⟨.tenant, "read", .superAdmin⟩]
      (IsNamed (some " t1 ") ∧ i.reaches (.tenant (some " t1 ")) = true
          ∧ (Principal.mk i policy).holds (.sameTenant (some " t1 ")) = true
          ∧ i.seesTenant (some " t1 ") = true)
        ∧ (¬ IsNamed (some " ") ∧ i.reaches (.tenant (some " ")) = false
          ∧ (Principal.mk i policy).holds (.sameTenant (some " ")) = false
          ∧ i.seesTenant (some " ") = false)
        ∧ IsNamed (some "o1") ∧ i.scope ≠ .tenant
        ∧ i.reaches (.organization (some "o1") (some "t2")) = true
        ∧ (Principal.mk i policy).holds (.sameOrganization (some "o1")) = true := by
  intro i policy
  rcases tenant_checks_agree i policy with ⟨hnamed, hunnamed, horganization⟩
  have hpadded : IsNamed (some " t1 ") := ⟨" t1 ", rfl, by decide⟩
  have hblank : ¬ IsNamed (some " ") := by
    rintro ⟨t, heq, hne⟩
    cases heq
    exact hne (by decide)
  have hplain : IsNamed (some "o1") := ⟨"o1", rfl, by decide⟩
  have hadmin : Role.superAdmin ∉ i.roles := by decide
  have hscope : i.scope ≠ .tenant := by decide
  rcases hnamed _ hpadded with ⟨hreaches, hsame, hsees⟩
  rcases hunnamed _ hblank with ⟨hnone, hsameNone, hseesNone⟩
  have htenant := hreaches.2 (.inr ⟨_, rfl, " t1 ", rfl, by decide⟩)
  have horganization := horganization (some "o1") (some "t2") hplain hscope
  have hreached : i.reaches (.organization (some "o1") (some "t2")) = true := by decide
  refine ⟨⟨hpadded, htenant, hsame.trans htenant, hsees.trans htenant⟩, ⟨hblank, hnone, ?_, ?_⟩, hplain,
    hscope, hreached, horganization.symm.trans hreached⟩
  . exact Bool.eq_false_iff.2 (mt hsameNone.1 hadmin)
  . exact Bool.eq_false_iff.2 (mt hseesNone.1 hadmin)

theorem restriction_decides_tenants (i : Identity) (huser : i.isAuthenticated = true)
    : (i.tenantRestriction? = none → ∀ target, i.seesTenant target = true ↔ Role.superAdmin ∈ i.roles)
      ∧ (∀ held, i.tenantRestriction? = some held →
        ∀ target, i.seesTenant target = true ↔ held.NamedBy target)
      ∧ (i.isTenantBound = true
        ↔ i.tenantRestriction? ≠ none ∨ Role.superAdmin ∉ i.roles ∧ i.tenantId = none)
      ∧ ∀ tenant : TenantId,
        i.seesTenant (some tenant.text) = true
          ↔ (i.isTenantBound = true → i.tenantRestriction? = some tenant) := by
  rw [Identity.isAuthenticated_iff] at huser
  have hbound : i.isTenantBound = true ↔ Role.superAdmin ∉ i.roles :=
    Identity.isTenantBound_iff.trans (and_iff_left huser)
  refine ⟨?_, ?_, ?_, ?_⟩
  . intro hnone target
    rw [Identity.seesTenant_iff]
    apply or_iff_left_of_imp
    rintro ⟨tenant, heq, _⟩
    rcases Identity.tenantRestriction?_eq_none_iff.1 hnone with hadmin | htenant
    . exact hadmin
    . cases htenant.symm.trans heq
  . intro held hheld target
    rcases Identity.tenantRestriction?_eq_some_iff.1 hheld with ⟨hadmin, heq⟩
    rw [Identity.seesTenant_iff, or_iff_right hadmin, Identity.IsolatedTo]
    simp only [heq, Option.some.injEq, exists_eq_left']
  . rw [hbound, ne_eq, Identity.tenantRestriction?_eq_none_iff]
    tauto
  . intro tenant
    rw [hbound, Identity.seesTenant_iff, Identity.isolatedTo_tenant_text_iff,
      Identity.tenantRestriction?_eq_some_iff]
    tauto

theorem restriction_decides_tenants_of_tenant_admin
    : let tenant : TenantId := ⟨"t1", by decide, by decide⟩
      let i : Identity := {
        userId := some ⟨"u1", by decide, by decide⟩
        tenantId := some tenant
        roles := .ofList [.tenantAdmin]
      }
      i.isAuthenticated = true ∧ i.tenantRestriction? = some tenant ∧ i.isTenantBound = true
        ∧ i.seesTenant (some "\t t1") = true
        ∧ ∀ other : TenantId, i.seesTenant (some other.text) = true ↔ other = tenant := by
  intro tenant i
  have huser : i.isAuthenticated = true := by decide
  have hrestriction : i.tenantRestriction? = some tenant := by decide
  rcases restriction_decides_tenants i huser with ⟨_, hsome, hbound, hshown⟩
  have hisBound := hbound.2 (.inl (by decide))
  refine ⟨huser, hrestriction, hisBound, ?_, ?_⟩
  . exact (hsome tenant hrestriction _).2 ⟨"\t t1", rfl, by decide⟩
  . intro other
    rw [hshown, imp_iff_right hisBound, hrestriction, Option.some.injEq]
    exact eq_comm

theorem unrestricted_user_sees_no_tenant
    : let i : Identity := { userId := some ⟨"u1", by decide, by decide⟩ }
      i.isAuthenticated = true ∧ i.tenantRestriction? = none ∧ i.isTenantBound = true
        ∧ i.seesTenant (some "t1") = false := by
  decide

end TenantAuth
