import Mathlib.Order.MinMax
import TenantAuth.Reach

/-!
This module contains the theory of the scope that several roles give together: it covers what the scope of
one of them covers (`Scope.le_ofRoles_iff`). So it is global exactly for super admins
(`Identity.scope_eq_global_iff`), and more roles never make it narrower (`Identity.scope_le_scope`). The main
statement is that lists of roles that are put together give the wider one of their scopes (`scopes_join`).
-/

namespace TenantAuth

namespace Scope

variable {a b c required : Scope} {roles roles' : List Role} {r : Role}

theorem le_refl (a : Scope) : a ≤ a :=
  Nat.le_refl a.rank

theorem le_trans (hab : a ≤ b) (hbc : b ≤ c) : a ≤ c :=
  Nat.le_trans hab hbc

theorem global_le_iff : global ≤ a ↔ a = global := by
  cases a with
  | organization | tenant | global => decide

theorem le_organization_iff : a ≤ organization ↔ a = organization := by
  cases a with
  | organization | tenant | global => decide

theorem le_antisymm (hab : a ≤ b) (hba : b ≤ a) : a = b := by
  cases a with
  | organization => exact (le_organization_iff.1 hba).symm
  | global => exact (global_le_iff.1 hab).symm
  | tenant =>
    cases b with
    | organization => exact absurd hab (by decide)
    | tenant => rfl
    | global => exact absurd hba (by decide)

instance : LinearOrder Scope where
  le_refl := le_refl
  le_trans _ _ _ := le_trans
  le_antisymm _ _ := le_antisymm
  le_total a b := Nat.le_total a.rank b.rank
  toDecidableLE := inferInstance

theorem le_foldl_max_iff
    : required ≤ roles.foldl (fun s r => max s (ofRole r)) a
        ↔
      required ≤ a ∨ ∃ r ∈ roles, required ≤ ofRole r := by
  induction roles generalizing a with
  | nil => simp
  | cons r roles ih => simp only [List.foldl_cons, ih, le_max_iff, List.mem_cons, exists_eq_or_imp, or_assoc]

theorem le_ofRoles_iff
    : required ≤ ofRoles roles ↔ required = organization ∨ ∃ r ∈ roles, required ≤ ofRole r := by
  rw [ofRoles, le_foldl_max_iff, le_organization_iff]

theorem ofRoles_le_ofRoles (h : ∀ r ∈ roles, r ∈ roles') : ofRoles roles ≤ ofRoles roles' := by
  rcases le_ofRoles_iff.1 (le_refl (ofRoles roles)) with hdefault | ⟨r, hr, hle⟩
  . exact le_ofRoles_iff.2 (.inl hdefault)
  . exact le_ofRoles_iff.2 (.inr ⟨r, h r hr, hle⟩)

theorem ofRoles_congr (h : ∀ r, r ∈ roles ↔ r ∈ roles') : ofRoles roles = ofRoles roles' :=
  le_antisymm (ofRoles_le_ofRoles fun r => (h r).1) (ofRoles_le_ofRoles fun r => (h r).2)

-- Both sides cover the same scopes.
theorem ofRoles_append (roles roles' : List Role)
    : ofRoles (roles ++ roles') = max (ofRoles roles) (ofRoles roles') := by
  apply eq_of_forall_le_iff
  intro required
  rw [le_ofRoles_iff, le_max_iff, le_ofRoles_iff, le_ofRoles_iff]
  simp only [List.mem_append, or_and_right, exists_or]
  exact or_or_distrib_left

theorem ofRole_eq_global_iff : ofRole r = global ↔ r = Role.superAdmin := by
  rw [ofRole]
  split
  . next hadmin => exact iff_of_true rfl hadmin
  . next hadmin =>
    refine iff_of_false ?_ hadmin
    split
    . exact Scope.noConfusion
    . exact Scope.noConfusion

theorem tenant_le_ofRole_iff : tenant ≤ ofRole r ↔ r = Role.superAdmin ∨ r = Role.tenantAdmin := by
  rw [ofRole]
  split
  . next hsuper => exact iff_of_true (by decide) (.inl hsuper)
  . next hsuper =>
    split
    . next htenant => exact iff_of_true (by decide) (.inr htenant)
    . next htenant => exact iff_of_false (by decide) (not_or_intro hsuper htenant)

theorem ofRoles_eq_global_iff : ofRoles roles = global ↔ Role.superAdmin ∈ roles := by
  rw [← global_le_iff, le_ofRoles_iff]
  simp [global_le_iff, ofRole_eq_global_iff]

theorem tenant_le_ofRoles_iff
    : tenant ≤ ofRoles roles ↔ Role.superAdmin ∈ roles ∨ Role.tenantAdmin ∈ roles := by
  rw [le_ofRoles_iff]
  simp [tenant_le_ofRole_iff, and_or_left, exists_or]

end Scope

namespace Identity

variable {i j : Identity}

theorem scope_eq_global_iff : i.scope = .global ↔ Role.superAdmin ∈ i.roles :=
  Scope.ofRoles_eq_global_iff

theorem scope_le_scope (hroles : ∀ r ∈ i.roles, r ∈ j.roles) : i.scope ≤ j.scope :=
  Scope.ofRoles_le_ofRoles hroles

theorem scope_edit_roles (i : Identity) (roles : List Role)
    : (i.edit (.roles roles)).scope = max i.scope (Scope.ofRoles roles) := by
  rw [scope, scope, ← Scope.ofRoles_append]
  apply Scope.ofRoles_congr
  intro r
  simp [edit]

theorem reaches_everything_eq (i : Identity) : i.reaches .everything = i.isSuperAdmin := by
  rw [Bool.eq_iff_iff, isSuperAdmin_iff, ← scope_eq_global_iff]
  exact beq_iff_eq

end Identity

theorem scopes_join
    : (∀ roles roles' : List Role,
        Scope.ofRoles (roles ++ roles') = max (Scope.ofRoles roles) (Scope.ofRoles roles'))
      ∧ (∀ roles roles' : List Role, (∀ r, r ∈ roles ↔ r ∈ roles') →
        Scope.ofRoles roles = Scope.ofRoles roles')
      ∧ (∀ roles : List Role, Scope.ofRoles roles = .global ↔ Role.superAdmin ∈ roles)
      ∧ (∀ roles : List Role,
        Scope.tenant ≤ Scope.ofRoles roles ↔ Role.superAdmin ∈ roles ∨ Role.tenantAdmin ∈ roles)
      ∧ (∀ roles roles' : List Role, (∀ r ∈ roles, r ∈ roles') →
        Scope.ofRoles roles ≤ Scope.ofRoles roles')
      ∧ (∀ (i : Identity) (roles : List Role),
        (i.edit (.roles roles)).scope = max i.scope (Scope.ofRoles roles))
      ∧ ∀ i : Identity, i.reaches .everything = i.isSuperAdmin := by
  refine ⟨Scope.ofRoles_append, ?_, ?_, ?_, ?_, ?_, Identity.reaches_everything_eq⟩
  . intro roles roles' hsame
    exact Scope.ofRoles_congr hsame
  . intro roles
    exact Scope.ofRoles_eq_global_iff
  . intro roles
    exact Scope.tenant_le_ofRoles_iff
  . intro roles roles' hmore
    exact Scope.ofRoles_le_ofRoles hmore
  . intro i roles
    exact i.scope_edit_roles roles

theorem scopes_join_of_repeated_roles
    : let admins : List Role := [.user, .tenantAdmin, .user, .tenantAdmin]
      let reordered : List Role := [.tenantAdmin, .user]
      let strangers : List Role := [⟨"super_admin"⟩, .orgAdmin, ⟨"ROLE_SUPER_ADMIN"⟩]
      let i : Identity := { roles := .ofList strangers }
      (∀ r, r ∈ admins ↔ r ∈ reordered) ∧ Scope.ofRoles admins = Scope.ofRoles reordered
        ∧ (∀ r ∈ reordered, r ∈ strangers ++ admins)
        ∧ Scope.ofRoles reordered ≤ Scope.ofRoles (strangers ++ admins)
        ∧ Scope.ofRoles (strangers ++ admins) = .tenant
        ∧ (i.edit (.roles admins)).scope = .tenant
        ∧ i.reaches .everything = false := by
  intro admins reordered strangers i
  rcases scopes_join with ⟨happend, hcongr, _, _, hmono, hedit, heverything⟩
  have hsame : ∀ r, r ∈ admins ↔ r ∈ reordered := by
    intro r
    simp only [admins, reordered, List.mem_cons, List.not_mem_nil, or_false]
    grind
  have hmore : ∀ r ∈ reordered, r ∈ strangers ++ admins := by
    intro r hr
    exact List.mem_append_right strangers ((hsame r).2 hr)
  refine ⟨hsame, hcongr _ _ hsame, hmore, hmono _ _ hmore, ?_, ?_, ?_⟩
  . rw [happend]
    decide
  . rw [hedit]
    decide
  . rw [heverything]
    decide

end TenantAuth
