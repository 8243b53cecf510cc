import TenantAuth.Proofs.Access.Resources
import TenantAuth.Proofs.Scope.Widest

/-!
This module contains what an identity reaches, said by its scope, its identifiers and what the targets name.
-/

namespace TenantAuth

def IsNamed (target : Option String) : Prop :=
  ∃ t, target = some t ∧ Text.trim t ≠ ""

theorem isSome_namedTarget?_iff {target : Option String}
    : (namedTarget? target).isSome = true ↔ IsNamed target := by
  simp only [namedTarget?, Option.isSome_iff_exists, Option.bind_eq_some_iff, Text.normalize?_eq_some_iff]
  constructor
  . rintro ⟨_, t, rfl, rfl, hne⟩
    exact ⟨t, rfl, hne⟩
  . rintro ⟨t, rfl, hne⟩
    exact ⟨_, t, rfl, rfl, hne⟩

theorem Identifier.NamedBy.isNamed {kind : IdentifierKind} {i : Identifier kind} {target : Option String}
    (h : i.NamedBy target) : IsNamed target := by
  rcases h with ⟨t, rfl, htrim⟩
  exact ⟨t, rfl, htrim ▸ i.text_ne⟩

namespace Identity

def Covers (i : Identity) (tenant organization : Option String) : Prop :=
  match i.scope with
  | .global => True
  | .tenant => i.IsolatedTo tenant .tenant
  | .organization => i.IsolatedTo organization .organization

variable {i : Identity} {user tenant organization : Option String}

theorem reachesTenant_iff
    : i.reachesTenant tenant = true
        ↔
      IsNamed tenant ∧ (Role.superAdmin ∈ i.roles ∨ i.IsolatedTo tenant .tenant) := by
  rw [reachesTenant, Bool.and_eq_true, isSome_namedTarget?_iff, ← scope_eq_global_iff]
  apply and_congr_right'
  cases i.scope with
  | global => exact iff_of_true rfl (.inl rfl)
  | tenant | organization => exact isHeld_iff.trans (or_iff_right Scope.noConfusion).symm

theorem covers_iff
    : (match i.scope with
        | .global => true
        | .tenant => isHeld i.tenantId tenant
        | .organization => isHeld i.organizationId organization) = true
        ↔
      i.Covers tenant organization := by
  rw [Covers]
  cases i.scope with
  | global => exact iff_of_true rfl trivial
  | tenant | organization => exact isHeld_iff

theorem reachesOrganization_iff
    : i.reachesOrganization organization tenant = true
        ↔
      IsNamed organization ∧ i.Covers tenant organization := by
  rw [reachesOrganization, Bool.and_eq_true, isSome_namedTarget?_iff]
  exact and_congr_right' covers_iff

theorem reachesUser_iff
    : i.reachesUser user tenant organization = true
        ↔
      IsNamed user ∧ (i.IsolatedTo user .user ∨ i.Covers tenant organization) := by
  rw [reachesUser, Bool.and_eq_true, isSome_namedTarget?_iff, Bool.or_eq_true]
  exact and_congr_right' (or_congr isHeld_iff covers_iff)

end Identity

end TenantAuth
