import TenantAuth.Permission
import TenantAuth.Json.Record

/-!
This module contains the table that says which privilege an action on a resource needs.
-/

namespace TenantAuth

inductive ResourceKind where
  | tenant
  | organization
  | user
  | role
  | permission
deriving DecidableEq, Repr

namespace ResourceKind

def name : ResourceKind → String
  | tenant => "tenant"
  | organization => "organization"
  | user => "user"
  | role => "role"
  | permission => "permission"

def ofName? (name : String) : Option ResourceKind :=
  [tenant, organization, user, role, permission].find? fun k => k.name == name

theorem ofName?_name (k : ResourceKind) : ofName? k.name = some k := by
  cases k <;> decide

end ResourceKind

/--
What an action needs besides the isolation of its target: that the principal is authenticated, nothing
more, a permission for the action, or the super admin role.
-/
inductive Privilege where
  | authenticated
  | owner
  | permission
  | superAdmin
deriving DecidableEq, Repr

namespace Privilege

def name : Privilege → String
  | authenticated => "authenticated"
  | owner => "owner"
  | permission => "permission"
  | superAdmin => "super_admin"

def ofName? (name : String) : Option Privilege :=
  [authenticated, owner, permission, superAdmin].find? fun p => p.name == name

end Privilege

structure ActionRule where
  kind : ResourceKind
  action : String
  privilege : Privilege
deriving DecidableEq, Repr

namespace ActionRule

def ofJson? : Json → Option ActionRule
  | .array [kind, action, privilege] => do
    let kind ← kind.alternative?
    let action ← action.text?
    let privilege ← privilege.alternative?
    return ⟨← ResourceKind.ofName? kind, action, ← Privilege.ofName? privilege⟩
  | _ => none

end ActionRule

structure ActionPolicy where
  newest : List ActionRule := []
deriving DecidableEq

namespace ActionPolicy

def empty : ActionPolicy := {}

instance : Inhabited ActionPolicy := ⟨empty⟩

def addRule (p : ActionPolicy) (r : ActionRule) : ActionPolicy :=
  ⟨r :: p.newest⟩

def ofRules (rules : List ActionRule) : ActionPolicy :=
  rules.foldl addRule empty

/--
What an action needs without an explicit rule: owners read and update tenants, organizations and users;
everyone authenticated reads permissions; an action on roles needs the permission for it; all else is
left to super admins.
-/
def default (kind : ResourceKind) (action : String) : Privilege :=
  match kind with
  | .tenant | .organization | .user =>
    if action = "read" ∨ action = "update" then .owner else .superAdmin
  | .permission => if action = "read" then .authenticated else .superAdmin
  | .role => .permission

def explicit? (p : ActionPolicy) (kind : ResourceKind) (action : String) : Option Privilege :=
  (p.newest.find? fun r => r.kind == kind && r.action == action).map ActionRule.privilege

def required (p : ActionPolicy) (kind : ResourceKind) (action : String) : Privilege :=
  (p.explicit? kind action).getD (default kind action)

end ActionPolicy

end TenantAuth
