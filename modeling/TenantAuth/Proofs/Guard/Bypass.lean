import TenantAuth.Guard.Basic
import TenantAuth.Proofs.Access.Resources

/-!
This module contains the theory of super admins. The main statement is that they satisfy every predicate and
every guard without a negation and an empty disjunction, whatever the policy says (`super_admin_satisfies`).
-/

namespace TenantAuth

namespace Guard

inductive OccursIn (g : Guard) : Guard → Prop where
  | self : OccursIn g g
  | all {h : Guard} {gs : List Guard} (mem : h ∈ gs) (part : OccursIn g h) : OccursIn g (.all gs)
  | any {h : Guard} {gs : List Guard} (mem : h ∈ gs) (part : OccursIn g h) : OccursIn g (.any gs)
  | not {h : Guard} (part : OccursIn g h) : OccursIn g (.not h)

variable {a : Principal} {g h : Guard} {gs : List Guard} {p : Predicate}

theorem occursIn_leaf : g.OccursIn (.leaf p) ↔ g = .leaf p := by
  constructor
  . intro h
    cases h with
    | self => rfl
  . rintro rfl
    exact .self

theorem occursIn_all : g.OccursIn (.all gs) ↔ g = .all gs ∨ ∃ h ∈ gs, g.OccursIn h := by
  constructor
  . intro h
    cases h with
    | self => exact .inl rfl
    | all mem part => exact .inr ⟨_, mem, part⟩
  . rintro (rfl | ⟨h, mem, part⟩)
    . exact .self
    . exact .all mem part

theorem occursIn_any : g.OccursIn (.any gs) ↔ g = .any gs ∨ ∃ h ∈ gs, g.OccursIn h := by
  constructor
  . intro h
    cases h with
    | self => exact .inl rfl
    | any mem part => exact .inr ⟨_, mem, part⟩
  . rintro (rfl | ⟨h, mem, part⟩)
    . exact .self
    . exact .any mem part

theorem eval_of_holds (hall : ∀ p, a.holds p = true) (hnot : ∀ h, ¬ (Guard.not h).OccursIn g)
    (hany : ¬ (Guard.any []).OccursIn g) : g.eval a = true := by
  induction g with
  | leaf p =>
    rw [eval_leaf]
    apply hall
  | all gs ih =>
    rw [eval_all, List.all_eq_true]
    intro g hg
    apply ih g hg
    . intro h hoccurs
      exact hnot h (.all hg hoccurs)
    . intro hoccurs
      exact hany (.all hg hoccurs)
  | any gs ih =>
    rw [eval_any, List.any_eq_true]
    cases gs with
    | nil => exact absurd .self hany
    | cons g gs =>
      have hg : g ∈ g :: gs := List.mem_cons_self
      refine ⟨g, hg, ?_⟩
      apply ih g hg
      . intro h hoccurs
        exact hnot h (.any hg hoccurs)
      . intro hoccurs
        exact hany (.any hg hoccurs)
  | not g => exact absurd .self (hnot g)

end Guard

theorem Principal.holds_all_iff {i : Identity}
    : (∀ policy p, (Principal.mk i policy).holds p = true) ↔ Role.superAdmin ∈ i.roles := by
  constructor
  . intro h
    exact Identity.isSuperAdmin_iff.1 (h .empty .superAdmin)
  . intro hadmin policy p
    exact holds_of_superAdmin (Identity.isSuperAdmin_iff.2 hadmin) p

theorem super_admin_satisfies (i : Identity)
    : (Role.superAdmin ∈ i.roles ↔ ∀ policy p, (Principal.mk i policy).holds p = true)
      ∧ (Role.superAdmin ∈ i.roles → ∀ policy, ∀ g : Guard,
        (∀ h, ¬ (Guard.not h).OccursIn g) → ¬ (Guard.any []).OccursIn g →
          g.eval (Principal.mk i policy) = true
            ∧ authorize (Principal.mk i policy) g = .ok (Principal.mk i policy)) := by
  refine ⟨Principal.holds_all_iff.symm, ?_⟩
  intro hadmin policy g hnot hany
  have hall : ∀ p, (Principal.mk i policy).holds p = true := Principal.holds_all_iff.2 hadmin policy
  have heval := Guard.eval_of_holds hall hnot hany
  refine ⟨heval, ?_⟩
  rw [authorize, if_pos heval]

theorem super_admin_satisfies_without_ids
    : let i : Identity := { roles := .ofList [.user, .superAdmin] }
      let policy := ActionPolicy.ofRules [⟨.tenant, "read", .permission⟩, ⟨.user, "delete", .owner⟩]
      let a : Principal := ⟨i, policy⟩
      let g : Guard := .all [
        .any [.leaf (.myself none), .leaf .authenticated],
        .any [.all [], .leaf (.hasRole "AUDITOR")],
        .leaf (.resource .tenant (some " ") "read"),
        .leaf (.resource .user (some "u1") "delete")
      ]
      Role.superAdmin ∈ i.roles
        ∧ (∀ h, ¬ (Guard.not h).OccursIn g) ∧ ¬ (Guard.any []).OccursIn g
        ∧ a.holds (.hasAllPermissions ["order:read", "x"]) = true
        ∧ g.eval a = true ∧ authorize a g = .ok a := by
  intro i policy a g
  have hadmin : Role.superAdmin ∈ i.roles := by decide
  have hnot : ∀ h, ¬ (Guard.not h).OccursIn g := by
    simp [g, Guard.occursIn_leaf, Guard.occursIn_all, Guard.occursIn_any]
  have hany : ¬ (Guard.any []).OccursIn g := by
    simp [g, Guard.occursIn_leaf, Guard.occursIn_all, Guard.occursIn_any]
  rcases super_admin_satisfies i with ⟨hholds, hguards⟩
  exact ⟨hadmin, hnot, hany, hholds.1 hadmin policy _, hguards hadmin policy g hnot hany⟩

end TenantAuth
