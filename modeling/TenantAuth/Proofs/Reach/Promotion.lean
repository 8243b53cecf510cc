import TenantAuth.Proofs.Reach.Scoped

/-!
This module contains the theory of identities that are given more roles. The scope never gets narrower, but
between organization and tenant scope another identifier comes to decide. The main statement is that what was
reached stays reached, except for organizations and users outside the tenant that is held
(`reaches_iff_of_promotedTo`).
-/

namespace TenantAuth

namespace Identity

structure PromotedTo (i j : Identity) : Prop where
  userId : i.userId = j.userId
  tenantId : i.tenantId = j.tenantId
  organizationId : i.organizationId = j.organizationId
  roles : ∀ r ∈ i.roles, r ∈ j.roles

/--
What a question is about belongs to the tenant that an identity holds, or is its own record. Only questions
that an organization may decide ask for it.
-/
def InOwnTenant (i : Identity) : Reach → Prop
  | .organization _ tenant => i.IsolatedTo tenant .tenant
  | .ownOrganization _ => i.tenantId ≠ none
  | .user user tenant _ => i.IsolatedTo user .user ∨ i.IsolatedTo tenant .tenant
  | .tenant _ | .everything | .atLeast _ => True

variable {i j : Identity} {user tenant organization target : Option String} {kind : ResourceKind}

theorem isolatedTo_map_text_iff
    : i.IsolatedTo (i.tenantId.map Identifier.text) .tenant ↔ i.tenantId ≠ none := by
  constructor
  . rintro ⟨held, heq, _⟩
    rw [heq]
    exact Option.some_ne_none held
  . intro hne
    rcases Option.ne_none_iff_exists'.1 hne with ⟨held, heq⟩
    exact ⟨held, heq, held.text, by rw [heq, Option.map_some], held.trim_text⟩

namespace PromotedTo

theorem isolatedTo_iff (h : i.PromotedTo j) : i.IsolatedTo target kind ↔ j.IsolatedTo target kind := by
  cases kind with
  | tenant => rw [IsolatedTo, IsolatedTo, h.tenantId]
  | organization => rw [IsolatedTo, IsolatedTo, h.organizationId]
  | user | role | permission => rw [IsolatedTo, IsolatedTo, h.userId]

theorem scope_le (h : i.PromotedTo j) : i.scope ≤ j.scope :=
  scope_le_scope h.roles

theorem covers_iff (h : i.PromotedTo j) (hi : i.Covers tenant organization)
    : j.Covers tenant organization
        ↔
      (i.scope = .organization → j.scope = .tenant → j.IsolatedTo tenant .tenant) := by
  have hle := h.scope_le
  unfold Covers at *
  cases hfrom : i.scope with
  | global =>
    rw [hfrom, Scope.global_le_iff] at hle
    rw [hle]
    exact iff_of_true trivial nofun
  | tenant =>
    rw [hfrom] at hle hi
    refine iff_of_true ?_ nofun
    cases hto : j.scope with
    | organization => exact absurd (hto ▸ hle) (by decide)
    | tenant => exact h.isolatedTo_iff.1 hi
    | global => trivial
  | organization =>
    rw [hfrom] at hi
    cases hto : j.scope with
    | organization => exact iff_of_true (h.isolatedTo_iff.1 hi) (fun _ => nofun)
    | tenant => exact ⟨fun held _ _ => held, fun held => held rfl rfl⟩
    | global => exact iff_of_true trivial (fun _ => nofun)

theorem reachesTenant (h : i.PromotedTo j) (hi : i.reachesTenant target = true)
    : j.reachesTenant target = true := by
  rw [reachesTenant_iff] at *
  exact hi.imp_right (Or.imp (h.roles _) h.isolatedTo_iff.1)

theorem reachesOrganization_iff (h : i.PromotedTo j) (hi : i.reachesOrganization organization tenant = true)
    : j.reachesOrganization organization tenant = true
        ↔
      (i.scope = .organization → j.scope = .tenant → j.IsolatedTo tenant .tenant) := by
  rw [Identity.reachesOrganization_iff] at *
  rw [and_iff_right hi.1]
  exact h.covers_iff hi.2

theorem reachesUser_iff (h : i.PromotedTo j) (hi : i.reachesUser user tenant organization = true)
    : j.reachesUser user tenant organization = true
        ↔
      (i.scope = .organization → j.scope = .tenant →
        j.IsolatedTo user .user ∨ j.IsolatedTo tenant .tenant) := by
  rw [Identity.reachesUser_iff] at *
  rw [and_iff_right hi.1]
  by_cases hself : j.IsolatedTo user .user
  . exact iff_of_true (.inl hself) (fun _ _ => .inl hself)
  . rw [h.isolatedTo_iff, or_iff_right hself] at hi
    rw [or_iff_right hself, or_iff_right hself]
    exact h.covers_iff hi.2

end PromotedTo

end Identity

theorem reaches_iff_of_promotedTo {i j : Identity} (h : i.PromotedTo j) (q : Reach) (hi : i.reaches q = true)
    : j.reaches q = true ↔ (i.scope = .organization → j.scope = .tenant → j.InOwnTenant q) := by
  cases q with
  | tenant t => exact iff_of_true (h.reachesTenant hi) (fun _ _ => trivial)
  | organization o t => exact h.reachesOrganization_iff hi
  | ownOrganization o =>
    rw [Identity.reaches, h.tenantId] at hi
    rw [Identity.reaches, h.reachesOrganization_iff hi, Identity.isolatedTo_map_text_iff]
    rfl
  | user u t o => exact h.reachesUser_iff hi
  | everything =>
    rw [Identity.reaches, beq_iff_eq] at *
    refine iff_of_true ?_ (fun _ _ => trivial)
    rw [← Scope.global_le_iff, ← hi]
    exact h.scope_le
  | atLeast required =>
    rw [Identity.reaches, Scope.includes, decide_eq_true_eq] at *
    exact iff_of_true (Scope.le_trans hi h.scope_le) (fun _ _ => trivial)

theorem reaches_iff_of_promotedTo_tenant_admin
    : let i : Identity := {
        userId := some ⟨"u1", by decide, by decide⟩
        tenantId := some ⟨"t1", by decide, by decide⟩
        organizationId := some ⟨"o1", by decide, by decide⟩
      }
      let j : Identity := { i with roles := .ofList [.tenantAdmin] }
      let inside : Reach := .user (some "u2") (some " t1") (some "o1 ")
      let outside : Reach := .user (some "u2") none (some "o1 ")
      i.PromotedTo j
        ∧ (i.reaches inside = true ∧ j.reaches inside = true)
        ∧ i.reaches outside = true ∧ j.reaches outside = false := by
  intro i j inside outside
  have h : i.PromotedTo j := {
    userId := rfl
    tenantId := rfl
    organizationId := rfl
    roles := by decide
  }
  have hinside : i.reaches inside = true := by decide
  have houtside : i.reaches outside = true := by decide
  have hscopes : i.scope = .organization ∧ j.scope = .tenant := by decide
  refine ⟨h, ⟨hinside, ?_⟩, houtside, ?_⟩
  . rw [reaches_iff_of_promotedTo h inside hinside]
    exact fun _ _ => .inr ⟨_, rfl, " t1", rfl, by decide⟩
  . rw [← Bool.not_eq_true, reaches_iff_of_promotedTo h outside houtside]
    intro howned
    rcases howned hscopes.1 hscopes.2 with ⟨_, heq, _, huser, hnamed⟩ | ⟨_, _, _, hnone, _⟩
    . cases heq
      cases huser
      exact absurd hnamed (by decide)
    . cases hnone

theorem tenant_admin_loses_organization
    : let i : Identity := {
        tenantId := some ⟨"t1", by decide, by decide⟩
        organizationId := some ⟨"o1", by decide, by decide⟩
      }
      let j : Identity := { i with roles := .ofList [.tenantAdmin] }
      let organization : Reach := .organization (some "o1") (some "t2")
      i.PromotedTo j ∧ i.reaches organization = true ∧ j.reaches organization = false := by
  intro i j organization
  exact ⟨⟨rfl, rfl, rfl, by decide⟩, by decide, by decide⟩

end TenantAuth
