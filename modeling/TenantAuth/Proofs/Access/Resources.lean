import Mathlib.Data.Bool.Basic
import Mathlib.Data.List.Induction
import TenantAuth.Principal

/-!
This module contains the theory of actions on resources. The main statement says when one is granted to an
identity that is no super admin, whatever the rules of the policy (`Principal.holds_resource_iff`).
-/

namespace TenantAuth

/--
A target names an identifier: white space apart, it is the identifier's text. A blank target names none, as
no identifier is empty.
-/
def Identifier.NamedBy {kind : IdentifierKind} (i : Identifier kind) (target : Option String) : Prop :=
  ∃ t, target = some t ∧ Text.trim t = i.text

theorem isHeld_iff {kind : IdentifierKind} {held : Option (Identifier kind)} {target : Option String}
    : isHeld held target = true ↔ ∃ i, held = some i ∧ i.NamedBy target := by
  have htarget : ∀ i : Identifier kind, namedTarget? target = some i.text ↔ i.NamedBy target := by
    intro i
    rw [namedTarget?, Option.bind_eq_some_iff]
    apply exists_congr
    intro t
    rw [Text.normalize?_eq_some_iff, and_iff_left i.text_ne]
  cases held with
  | none => simp [isHeld]
  | some i =>
    have hheld : (∃ j, some i = some j ∧ j.NamedBy target) ↔ i.NamedBy target := by simp
    rw [hheld, ← htarget]
    unfold isHeld
    cases namedTarget? target with
    | none => simp
    | some t =>
      simp only [beq_iff_eq, Option.some.injEq]
      exact eq_comm

def ActionRule.IsFor (r : ActionRule) (kind : ResourceKind) (action : String) : Prop :=
  r.kind = kind ∧ r.action = action

instance (r : ActionRule) (kind : ResourceKind) (action : String) : Decidable (r.IsFor kind action) :=
  inferInstanceAs (Decidable (r.kind = kind ∧ r.action = action))

namespace ActionPolicy

/--
What rules require, in the order in which they were given: the last one for an action decides, and without
one the default does.
-/
inductive Requires (rules : List ActionRule) (kind : ResourceKind) (action : String) : Privilege → Prop where
  | rule (before after : List ActionRule) (r : ActionRule) (split : rules = before ++ r :: after)
    (isFor : r.IsFor kind action) (last : ∀ s ∈ after, ¬ s.IsFor kind action) :
    Requires rules kind action r.privilege
  | default (absent : ∀ r ∈ rules, ¬ r.IsFor kind action) :
    Requires rules kind action (ActionPolicy.default kind action)

variable {rules : List ActionRule} {r : ActionRule} {kind : ResourceKind} {action : String}
  {privilege : Privilege} {p : ActionPolicy}

theorem required_addRule
    : (p.addRule r).required kind action
        =
      if r.IsFor kind action then r.privilege else p.required kind action := by
  unfold required explicit? addRule
  by_cases hr : r.IsFor kind action
  . have htest : (r.kind == kind && r.action == action) = true := by
      rw [Bool.and_eq_true, beq_iff_eq, beq_iff_eq]
      exact hr
    rw [if_pos hr]
    simp only [List.find?_cons, htest]
    rfl
  . have htest : (r.kind == kind && r.action == action) = false := by
      rw [Bool.and_eq_false_iff, beq_eq_false_iff_ne, beq_eq_false_iff_ne, ← not_and_or]
      exact hr
    rw [if_neg hr]
    simp only [List.find?_cons, htest]

theorem required_foldl_addRule (hrules : ∀ r ∈ rules, ¬ r.IsFor kind action)
    : (rules.foldl addRule p).required kind action = p.required kind action := by
  induction rules generalizing p with
  | nil => rfl
  | cons r rules ih =>
    rw [List.forall_mem_cons] at hrules
    rw [List.foldl_cons, ih hrules.2, required_addRule, if_neg hrules.1]

theorem ofRules_concat : ofRules (rules ++ [r]) = (ofRules rules).addRule r := by
  rw [ofRules, List.foldl_append]
  rfl

theorem Requires.concat (h : Requires rules kind action privilege) (hr : ¬ r.IsFor kind action)
    : Requires (rules ++ [r]) kind action privilege := by
  cases h with
  | rule before after s split isFor last =>
    refine .rule before (after ++ [r]) s (by rw [split]; simp) isFor ?_
    rw [List.forall_mem_append, List.forall_mem_singleton]
    exact ⟨last, hr⟩
  | default absent =>
    refine .default ?_
    rw [List.forall_mem_append, List.forall_mem_singleton]
    exact ⟨absent, hr⟩

theorem requires_required (rules : List ActionRule) (kind : ResourceKind) (action : String)
    : Requires rules kind action ((ofRules rules).required kind action) := by
  -- A rule acts on the policy that the rules before it make, so the induction is from the right.
  induction rules using List.reverseRecOn with
  | nil => exact .default (List.forall_mem_nil _)
  | append_singleton rules r ih =>
    rw [ofRules_concat, required_addRule]
    split
    . next hr => exact .rule rules [] r rfl hr (List.forall_mem_nil _)
    . next hr => exact ih.concat hr

theorem Requires.required_eq (h : Requires rules kind action privilege)
    : (ofRules rules).required kind action = privilege := by
  cases h with
  | rule before after r split isFor last =>
    rw [split, ofRules, List.foldl_append, List.foldl_cons, required_foldl_addRule last, required_addRule,
      if_pos isFor]
  | default absent => exact required_foldl_addRule absent

theorem required_eq_iff
    : (ofRules rules).required kind action = privilege ↔ Requires rules kind action privilege :=
  ⟨fun h => h ▸ requires_required rules kind action, Requires.required_eq⟩

end ActionPolicy

namespace Identity

def IsolatedTo (i : Identity) (target : Option String) : ResourceKind → Prop
  | .tenant => ∃ tenant, i.tenantId = some tenant ∧ tenant.NamedBy target
  | .organization => ∃ organization, i.organizationId = some organization ∧ organization.NamedBy target
  | .user => ∃ user, i.userId = some user ∧ user.NamedBy target
  | .role | .permission => i.userId ≠ none

def Meets (i : Identity) (kind : ResourceKind) (action : String) : Privilege → Prop
  | .owner => True
  | .authenticated => i.userId ≠ none
  | .permission => ∃ p ∈ i.permissions, p.grants (kind.name ++ ":" ++ action) = true
  | .superAdmin => False

theorem isAuthenticated_iff {i : Identity} : i.isAuthenticated = true ↔ i.userId ≠ none :=
  Option.isSome_iff_ne_none

end Identity

namespace Principal

variable {a : Principal} {kind : ResourceKind} {target : Option String} {action : String}

def isolated (a : Principal) (kind : ResourceKind) (target : Option String) : Bool :=
  match kind with
  | .tenant => isHeld a.identity.tenantId target
  | .organization => isHeld a.identity.organizationId target
  | .user => isHeld a.identity.userId target
  | .role | .permission => a.identity.isAuthenticated

def satisfies (a : Principal) : Predicate → Bool
  | .authenticated => a.identity.isAuthenticated
  | .superAdmin => false
  | .tenantAdmin => a.identity.isTenantAdmin
  | .orgAdmin => a.identity.isOrgAdmin
  | .hasRole role => a.identity.hasRole role
  | .hasAnyRole roles => a.identity.hasAnyRole roles
  | .hasPermission permission => a.identity.hasPermission permission
  | .hasAnyPermission permissions => a.identity.hasAnyPermission permissions
  | .hasAllPermissions permissions => a.identity.hasAllPermissions permissions
  | .myself user => isHeld a.identity.userId user
  | .myselfOr user permission => isHeld a.identity.userId user || a.identity.hasPermission permission
  | .sameTenant tenant => isHeld a.identity.tenantId tenant
  | .sameOrganization organization => isHeld a.identity.organizationId organization
  | .resource kind id action => a.isolated kind id && a.privileged kind action

theorem isolated_iff : a.isolated kind target = true ↔ a.identity.IsolatedTo target kind := by
  cases kind with
  | tenant | organization | user => exact isHeld_iff
  | role | permission => exact Identity.isAuthenticated_iff

theorem privileged_iff (hadmin : Role.superAdmin ∉ a.identity.roles)
    : a.privileged kind action = true ↔ a.identity.Meets kind action (a.policy.required kind action) := by
  unfold privileged
  cases a.policy.required kind action with
  | authenticated => exact Identity.isAuthenticated_iff
  | owner => exact iff_of_true rfl trivial
  | permission => exact Identity.hasPermission_iff
  | superAdmin => exact iff_of_false (fun h => hadmin (Identity.isSuperAdmin_iff.1 h)) id

theorem mayAct_eq (isolated : Bool) : a.mayAct kind action isolated = (isolated && a.privileged kind action) := by
  cases isolated with
  | true => rfl
  | false => rfl

theorem onResource_of_superAdmin (hadmin : a.isSuperAdmin = true) : a.onResource kind target action = true := by
  cases kind with
  | tenant | organization | user | role | permission => exact Bool.or_inl hadmin

-- Each predicate is true by a bypass of its own. Only `myselfOr` has none and relies on the one of `myself`.
theorem holds_of_superAdmin (hadmin : a.isSuperAdmin = true) (p : Predicate) : a.holds p = true := by
  cases p with
  | superAdmin => exact hadmin
  | authenticated | tenantAdmin | orgAdmin => exact Bool.or_inl hadmin
  | hasRole role | hasAnyRole roles => exact Bool.or_inl hadmin
  | hasPermission permission => exact Bool.or_inl hadmin
  | hasAnyPermission permissions | hasAllPermissions permissions => exact Bool.or_inl hadmin
  | myself user => exact Bool.or_inl hadmin
  | myselfOr user permission =>
    have hmyself : a.myself user = true := Bool.or_inl hadmin
    exact Bool.or_inl hmyself
  | sameTenant tenant => exact Bool.or_inl hadmin
  | sameOrganization organization => exact Bool.or_inl hadmin
  | resource kind id action => exact onResource_of_superAdmin hadmin

theorem or_of_not_superAdmin (hadmin : a.isSuperAdmin = false) (b : Bool) : (a.isSuperAdmin || b) = b := by
  rw [hadmin, Bool.false_or]

theorem onResource_of_not_superAdmin (hadmin : a.isSuperAdmin = false)
    : a.onResource kind target action = (a.isolated kind target && a.privileged kind action) := by
  have hbypass := or_of_not_superAdmin hadmin
  cases kind with
  | tenant => rw [onResource, onTenant, sameTenant, hbypass, hbypass, mayAct_eq, isolated]
  | organization => rw [onResource, onOrganization, sameOrganization, hbypass, hbypass, mayAct_eq, isolated]
  | user => rw [onResource, onUser, isSelf, hbypass, mayAct_eq, isolated]
  | role => rw [onResource, onRole, hbypass, mayAct_eq, isolated]
  | permission => rw [onResource, onPermission, hbypass, mayAct_eq, isolated]

theorem holds_of_not_superAdmin (hadmin : a.isSuperAdmin = false) (p : Predicate)
    : a.holds p = a.satisfies p := by
  have hbypass := or_of_not_superAdmin hadmin
  cases p with
  | superAdmin => exact hadmin
  | authenticated | tenantAdmin | orgAdmin => apply hbypass
  | hasRole role | hasAnyRole roles => apply hbypass
  | hasPermission permission => apply hbypass
  | hasAnyPermission permissions | hasAllPermissions permissions => apply hbypass
  | myself user => apply hbypass
  | myselfOr user permission => rw [holds, myselfOr, myself, isSelf, hasPermission, hbypass, hbypass, satisfies]
  | sameTenant tenant => apply hbypass
  | sameOrganization organization => apply hbypass
  | resource kind id action => exact onResource_of_not_superAdmin hadmin

theorem holds_iff {p : Predicate}
    : a.holds p = true ↔ Role.superAdmin ∈ a.identity.roles ∨ a.satisfies p = true := by
  rw [← Identity.isSuperAdmin_iff]
  cases hadmin : a.identity.isSuperAdmin with
  | true => exact iff_of_true (holds_of_superAdmin hadmin p) (.inl rfl)
  | false => rw [holds_of_not_superAdmin hadmin, or_iff_right Bool.false_ne_true]

theorem holds_iff_satisfies {p : Predicate} (hadmin : Role.superAdmin ∉ a.identity.roles)
    : a.holds p = true ↔ a.satisfies p = true := by
  rw [holds_iff, or_iff_right hadmin]

theorem holds_resource (hadmin : Role.superAdmin ∉ a.identity.roles)
    : a.holds (.resource kind target action) = true
        ↔
      a.identity.IsolatedTo target kind
        ∧ a.identity.Meets kind action (a.policy.required kind action) := by
  rw [holds_iff_satisfies hadmin, satisfies, Bool.and_eq_true, isolated_iff, privileged_iff hadmin]

theorem holds_resource_iff (i : Identity) (hadmin : Role.superAdmin ∉ i.roles)
    : (∀ rules kind target action,
        (Principal.mk i (.ofRules rules)).holds (.resource kind target action) = true
          ↔
        i.IsolatedTo target kind
          ∧ ∃ privilege, ActionPolicy.Requires rules kind action privilege
            ∧ i.Meets kind action privilege)
      ∧ ∀ kind target, ¬ i.IsolatedTo target kind → ∀ rules action,
        (Principal.mk i (.ofRules rules)).holds (.resource kind target action) = false := by
  refine ⟨?_, ?_⟩
  . intro rules kind target action
    rw [holds_resource hadmin]
    simp only [← ActionPolicy.required_eq_iff, exists_eq_left']
  . intro kind target hisolated rules action
    rw [← Bool.not_eq_true, holds_resource hadmin]
    exact fun h => hisolated h.1

theorem holds_resource_iff_of_overridden_rule
    : let tenant : TenantId := ⟨"t1", by decide, by decide⟩
      let i : Identity := { tenantId := some tenant, permissions := .ofList [⟨"tenant:*"⟩] }
      let rules : List ActionRule := [
        ⟨.tenant, "delete", .superAdmin⟩, ⟨.tenant, "delete", .permission⟩, ⟨.user, "delete", .owner⟩
      ]
      Role.superAdmin ∉ i.roles
        ∧ (Principal.mk i (.ofRules rules)).holds (.resource .tenant (some " t1 ") "delete") = true
        ∧ (Principal.mk i (.ofRules rules)).holds (.resource .user (some "u1") "delete") = false
        ∧ ∀ rules action,
          (Principal.mk i (.ofRules rules)).holds (.resource .tenant (some "t2") action) = false := by
  intro tenant i rules
  have hadmin : Role.superAdmin ∉ i.roles := by decide
  rcases holds_resource_iff i hadmin with ⟨hiff, hisolation⟩
  have hrequires : ActionPolicy.Requires rules .tenant "delete" .permission :=
    .rule [⟨.tenant, "delete", .superAdmin⟩] [⟨.user, "delete", .owner⟩] ⟨.tenant, "delete", .permission⟩ rfl
      ⟨rfl, rfl⟩ (by decide)
  have hmeets : i.Meets .tenant "delete" .permission := ⟨⟨"tenant:*"⟩, by decide, by decide⟩
  have hother : ¬ i.IsolatedTo (some "t2") .tenant := by
    rintro ⟨_, heq, _, htarget, hname⟩
    cases heq
    cases htarget
    exact absurd hname (by decide)
  have huser : ¬ i.IsolatedTo (some "u1") .user := by
    rintro ⟨_, heq, _⟩
    cases heq
  have hisolated : i.IsolatedTo (some " t1 ") .tenant := ⟨tenant, rfl, " t1 ", rfl, by decide⟩
  have hdelete := (hiff rules .tenant (some " t1 ") "delete").2 ⟨hisolated, .permission, hrequires, hmeets⟩
  exact ⟨hadmin, hdelete, hisolation .user (some "u1") huser rules "delete",
    hisolation .tenant (some "t2") hother⟩

end Principal

end TenantAuth
