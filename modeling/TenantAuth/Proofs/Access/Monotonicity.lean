import Mathlib.Algebra.Ring.Parity
import TenantAuth.Proofs.Access.Resources
import TenantAuth.Proofs.Http.Enforcement
import TenantAuth.Proofs.Permission.Covering

/-!
This module contains the theory of more and less privilege. The main statement is that what is granted to an
identity is granted to everyone with the same identifiers who holds at least as much (`access_monotone`).
-/

namespace TenantAuth

namespace Identity

/--
An identity has no more than another one: the identifiers are the same, the other one holds every role, and
each permission is covered by one that the other one holds.
-/
structure AtMost (i j : Identity) : Prop where
  userId : i.userId = j.userId
  tenantId : i.tenantId = j.tenantId
  organizationId : i.organizationId = j.organizationId
  roles : ∀ r ∈ i.roles, r ∈ j.roles
  permissions : ∀ p ∈ i.permissions, ∃ q ∈ j.permissions, q.grants p.name = true

namespace AtMost

variable {i j k : Identity} {name : String} {names : List String} {policy : ActionPolicy}

theorem refl (i : Identity) : i.AtMost i where
  userId := rfl
  tenantId := rfl
  organizationId := rfl
  roles := fun _ hr => hr
  permissions := fun p hp => ⟨p, hp, p.grants_name⟩

theorem trans (hij : i.AtMost j) (hjk : j.AtMost k) : i.AtMost k where
  userId := hij.userId.trans hjk.userId
  tenantId := hij.tenantId.trans hjk.tenantId
  organizationId := hij.organizationId.trans hjk.organizationId
  roles := fun r hr => hjk.roles r (hij.roles r hr)
  permissions := by
    intro p hp
    rcases hij.permissions p hp with ⟨q, hq, hqp⟩
    rcases hjk.permissions q hq with ⟨s, hs, hsq⟩
    exact ⟨s, hs, Permission.grants_trans hsq hqp⟩

theorem hasRole (h : i.AtMost j) (hi : i.hasRole name = true) : j.hasRole name = true :=
  hasRole_iff.2 (h.roles _ (hasRole_iff.1 hi))

theorem hasPermission (h : i.AtMost j) (hi : i.hasPermission name = true) : j.hasPermission name = true := by
  rw [hasPermission_iff] at *
  rcases hi with ⟨p, hp, hgrants⟩
  rcases h.permissions p hp with ⟨q, hq, hqp⟩
  exact ⟨q, hq, Permission.grants_trans hqp hgrants⟩

theorem hasAnyRole (h : i.AtMost j) (hi : i.hasAnyRole names = true) : j.hasAnyRole names = true := by
  rw [Identity.hasAnyRole, List.any_eq_true] at *
  rcases hi with ⟨name, hname, hrole⟩
  exact ⟨name, hname, h.hasRole hrole⟩

theorem hasAnyPermission (h : i.AtMost j) (hi : i.hasAnyPermission names = true)
    : j.hasAnyPermission names = true := by
  rw [Identity.hasAnyPermission, List.any_eq_true] at *
  rcases hi with ⟨name, hname, hpermission⟩
  exact ⟨name, hname, h.hasPermission hpermission⟩

theorem hasAllPermissions (h : i.AtMost j) (hi : i.hasAllPermissions names = true)
    : j.hasAllPermissions names = true := by
  rw [Identity.hasAllPermissions, List.all_eq_true] at *
  intro name hname
  exact h.hasPermission (hi name hname)

theorem isSuperAdmin (h : i.AtMost j) (hi : i.isSuperAdmin = true) : j.isSuperAdmin = true :=
  h.hasRole hi

theorem isAuthenticated_eq (h : i.AtMost j) : i.isAuthenticated = j.isAuthenticated := by
  rw [isAuthenticated, isAuthenticated, h.userId]

theorem isolated_eq (h : i.AtMost j) (kind : ResourceKind) (target : Option String)
    : (Principal.mk i policy).isolated kind target = (Principal.mk j policy).isolated kind target := by
  cases kind with
  | tenant => simp only [Principal.isolated, h.tenantId]
  | organization => simp only [Principal.isolated, h.organizationId]
  | user => simp only [Principal.isolated, h.userId]
  | role | permission => exact h.isAuthenticated_eq

theorem privileged (h : i.AtMost j) {kind : ResourceKind} {action : String}
    (hi : (Principal.mk i policy).privileged kind action = true)
    : (Principal.mk j policy).privileged kind action = true := by
  unfold Principal.privileged at *
  cases hrequired : policy.required kind action with
  | authenticated => simpa only [hrequired, h.isAuthenticated_eq] using hi
  | owner => rfl
  | permission =>
    simp only [hrequired] at hi
    exact h.hasPermission hi
  | superAdmin =>
    simp only [hrequired] at hi
    exact h.isSuperAdmin hi

theorem satisfies (h : i.AtMost j) {p : Predicate} (hi : (Principal.mk i policy).satisfies p = true)
    : (Principal.mk j policy).satisfies p = true := by
  cases p with
  | authenticated => exact h.isAuthenticated_eq.symm.trans hi
  | superAdmin => exact hi
  | tenantAdmin | orgAdmin | hasRole role => exact h.hasRole hi
  | hasAnyRole roles => exact h.hasAnyRole hi
  | hasPermission permission => exact h.hasPermission hi
  | hasAnyPermission permissions => exact h.hasAnyPermission hi
  | hasAllPermissions permissions => exact h.hasAllPermissions hi
  | myself user => simpa only [Principal.satisfies, h.userId] using hi
  | myselfOr user permission =>
    simp only [Principal.satisfies, h.userId, Bool.or_eq_true] at *
    exact hi.imp_right h.hasPermission
  | sameTenant tenant => simpa only [Principal.satisfies, h.tenantId] using hi
  | sameOrganization organization => simpa only [Principal.satisfies, h.organizationId] using hi
  | resource kind id action =>
    simp only [Principal.satisfies, Bool.and_eq_true, h.isolated_eq] at *
    exact hi.imp_right h.privileged

theorem holds (h : i.AtMost j) {p : Predicate} (hi : (Principal.mk i policy).holds p = true)
    : (Principal.mk j policy).holds p = true := by
  rw [Principal.holds_iff, ← isSuperAdmin_iff] at *
  exact hi.imp h.isSuperAdmin h.satisfies

theorem seesTenant (h : i.AtMost j) {tenant : Option String} (hi : i.seesTenant tenant = true)
    : j.seesTenant tenant = true := by
  rw [Identity.seesTenant, Bool.or_eq_true] at *
  exact hi.imp h.isSuperAdmin (h.tenantId ▸ ·)

theorem permits (h : i.AtMost j) {p : EndpointPolicy} (hi : p.permits i = true) : p.permits j = true := by
  rw [EndpointPolicy.permits_iff] at *
  refine hi.imp_right (Or.imp ?_ ?_)
  . rintro ⟨required, hrequired, held, hheld, hgrants⟩
    rcases h.permissions held hheld with ⟨q, hq, hqheld⟩
    exact ⟨required, hrequired, q, hq, Permission.grants_trans hqheld hgrants⟩
  . rintro ⟨r, hr, hheld⟩
    exact ⟨r, hr, h.roles r hheld⟩

end AtMost

end Identity

namespace Guard

mutual

def leaves : Guard → List (Predicate × Nat)
  | .leaf p => [(p, 0)]
  | .all gs => leavesMany gs
  | .any gs => leavesMany gs
  | .not g => (leaves g).map fun l => (l.1, l.2 + 1)

def leavesMany : List Guard → List (Predicate × Nat)
  | [] => []
  | g :: gs => leaves g ++ leavesMany gs

end

def LeavesUnder (P : Nat → Prop) (g : Guard) : Prop :=
  ∀ l ∈ g.leaves, P l.2

instance {P : Nat → Prop} [DecidablePred P] (g : Guard) : Decidable (g.LeavesUnder P) :=
  inferInstanceAs (Decidable (∀ l ∈ g.leaves, P l.2))

variable {P : Nat → Prop} {a b : Principal} {g : Guard} {gs : List Guard} {p : Predicate}

theorem mem_leavesMany {l : Predicate × Nat} : l ∈ leavesMany gs ↔ ∃ g ∈ gs, l ∈ g.leaves := by
  induction gs with
  | nil => simp [leavesMany]
  | cons g gs ih => simp [leavesMany, ih]

@[simp]
theorem leavesUnder_leaf : (leaf p).LeavesUnder P ↔ P 0 := by
  simp [LeavesUnder, leaves]

@[simp]
theorem leavesUnder_all : (all gs).LeavesUnder P ↔ ∀ g ∈ gs, g.LeavesUnder P := by
  simp only [LeavesUnder, leaves, mem_leavesMany]
  exact ⟨fun h g hg l hl => h l ⟨g, hg, hl⟩, fun h l ⟨g, hg, hl⟩ => h g hg l hl⟩

@[simp]
theorem leavesUnder_any : (any gs).LeavesUnder P ↔ ∀ g ∈ gs, g.LeavesUnder P :=
  leavesUnder_all

@[simp]
theorem leavesUnder_not : (not g).LeavesUnder P ↔ g.LeavesUnder fun n => P (n + 1) := by
  simp only [LeavesUnder, leaves, List.forall_mem_map]

theorem leavesUnder_even_not : (not g).LeavesUnder Even ↔ g.LeavesUnder Odd := by
  simp only [leavesUnder_not, Nat.even_add_one, Nat.not_even_iff_odd]

theorem leavesUnder_odd_not : (not g).LeavesUnder Odd ↔ g.LeavesUnder Even := by
  simp only [leavesUnder_not, Nat.odd_add_one, Nat.not_odd_iff_even]

/--
If a principal satisfies every predicate that another one satisfies, then so it is for guards whose leaves are
under an even number of negations, and the other way round for guards whose leaves are under an odd number.
-/
theorem eval_mono (h : ∀ p, a.holds p = true → b.holds p = true) (g : Guard)
    : (g.LeavesUnder Even → g.eval a = true → g.eval b = true)
      ∧ (g.LeavesUnder Odd → g.eval b = true → g.eval a = true) := by
  induction g with
  | leaf p => simpa using h p
  | all gs ih =>
    simp only [leavesUnder_all, eval_all, List.all_eq_true]
    constructor
    . intro hgs ha g hg
      exact (ih g hg).1 (hgs g hg) (ha g hg)
    . intro hgs hb g hg
      exact (ih g hg).2 (hgs g hg) (hb g hg)
  | any gs ih =>
    simp only [leavesUnder_any, eval_any, List.any_eq_true]
    constructor
    . rintro hgs ⟨g, hg, ha⟩
      exact ⟨g, hg, (ih g hg).1 (hgs g hg) ha⟩
    . rintro hgs ⟨g, hg, hb⟩
      exact ⟨g, hg, (ih g hg).2 (hgs g hg) hb⟩
  | not g ih =>
    -- A negation swaps the principals, and with them the parities.
    simp only [leavesUnder_even_not, leavesUnder_odd_not, eval_not, Bool.not_eq_true', ← Bool.not_eq_true]
    constructor
    . intro hg ha hb
      exact ha (ih.2 hg hb)
    . intro hg hb ha
      exact hb (ih.1 hg ha)

end Guard

theorem access_monotone {i j : Identity} (h : i.AtMost j) (policy : ActionPolicy)
    : (∀ p, (Principal.mk i policy).holds p = true → (Principal.mk j policy).holds p = true)
      ∧ (∀ g : Guard, g.LeavesUnder Even →
        g.eval (Principal.mk i policy) = true → g.eval (Principal.mk j policy) = true)
      ∧ (∀ tenant, i.seesTenant tenant = true → j.seesTenant tenant = true)
      ∧ ∀ p : EndpointPolicy, p.permits i = true → p.permits j = true := by
  refine ⟨fun p => h.holds, ?_, fun tenant => h.seesTenant, fun p => h.permits⟩
  intro g hg
  exact (Guard.eval_mono (fun p => h.holds) g).1 hg

theorem access_monotone_of_wildcard
    : let user : UserId := ⟨"u1", by decide, by decide⟩
      let tenant : TenantId := ⟨"t1", by decide, by decide⟩
      let i : Identity := {
        userId := some user, tenantId := some tenant
        roles := .ofList [.user], permissions := .ofList [⟨"user:*"⟩]
      }
      let j : Identity := {
        userId := some user, tenantId := some tenant
        roles := .ofList [.user, .tenantAdmin], permissions := .ofList [⟨"*:*"⟩]
      }
      let policy := ActionPolicy.ofRules [⟨.user, "read", .permission⟩]
      let read : Predicate := .resource .user (some " u1 ") "read"
      let guard : Guard := .not (.any [.not (.leaf read), .not (.leaf (.hasAnyRole ["AUDITOR", "USER"]))])
      let listed : EndpointPolicy := {
        method := .get
        pattern := ⟨"/users/*", [.literal "users", .single], by decide, rfl⟩
        service := ⟨"directory", by decide, by decide⟩
        requiredPermissions := .ofList [⟨"user:list"⟩]
      }
      i.AtMost j
        ∧ ((Principal.mk i policy).holds read = true ∧ (Principal.mk j policy).holds read = true)
        ∧ (guard.LeavesUnder Even
          ∧ guard.eval (Principal.mk i policy) = true ∧ guard.eval (Principal.mk j policy) = true)
        ∧ (i.seesTenant (some "t1") = true ∧ j.seesTenant (some "t1") = true)
        ∧ (listed.permits i = true ∧ listed.permits j = true) := by
  intro user tenant i j policy read guard listed
  have hle : i.AtMost j := {
    userId := rfl
    tenantId := rfl
    organizationId := rfl
    roles := by decide
    permissions := by decide
  }
  rcases access_monotone hle policy with ⟨hpredicates, hguards, htenants, hpolicies⟩
  have hread : (Principal.mk i policy).holds read = true := by decide
  have hleaves : guard.LeavesUnder Even := by decide
  have hguard : guard.eval (Principal.mk i policy) = true := by decide
  have htenant : i.seesTenant (some "t1") = true := by decide
  have hlisted : listed.permits i = true := by decide
  exact ⟨hle, ⟨hread, hpredicates read hread⟩, ⟨hleaves, hguard, hguards guard hleaves hguard⟩,
    ⟨htenant, htenants _ htenant⟩, hlisted, hpolicies listed hlisted⟩

end TenantAuth
