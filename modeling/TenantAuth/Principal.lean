import TenantAuth.ActionPolicy
import TenantAuth.Reach

/-!
This module contains principals and the predicates that decide what one may do. Each predicate has a bypass
for super admins of its own.
-/

namespace TenantAuth

/--
A predicate on a principal. Targets are optional texts as they come with a request.
-/
inductive Predicate where
  | authenticated
  | superAdmin
  | tenantAdmin
  | orgAdmin
  | hasRole (role : String)
  | hasAnyRole (roles : List String)
  | hasPermission (permission : String)
  | hasAnyPermission (permissions : List String)
  | hasAllPermissions (permissions : List String)
  | myself (user : Option String)
  | myselfOr (user : Option String) (permission : String)
  | sameTenant (tenant : Option String)
  | sameOrganization (organization : Option String)
  | resource (kind : ResourceKind) (id : Option String) (action : String)
deriving DecidableEq, Repr

structure Principal where
  identity : Identity
  policy : ActionPolicy := .empty
deriving DecidableEq

namespace Principal

def isSuperAdmin (a : Principal) : Bool :=
  a.identity.isSuperAdmin

def isAuthenticated (a : Principal) : Bool :=
  a.isSuperAdmin || a.identity.isAuthenticated

def hasRole (a : Principal) (role : String) : Bool :=
  a.isSuperAdmin || a.identity.hasRole role

def hasAnyRole (a : Principal) (roles : List String) : Bool :=
  a.isSuperAdmin || a.identity.hasAnyRole roles

def hasPermission (a : Principal) (permission : String) : Bool :=
  a.isSuperAdmin || a.identity.hasPermission permission

def hasAnyPermission (a : Principal) (permissions : List String) : Bool :=
  a.isSuperAdmin || a.identity.hasAnyPermission permissions

def hasAllPermissions (a : Principal) (permissions : List String) : Bool :=
  a.isSuperAdmin || a.identity.hasAllPermissions permissions

def isTenantAdmin (a : Principal) : Bool :=
  a.isSuperAdmin || a.identity.isTenantAdmin

def isOrgAdmin (a : Principal) : Bool :=
  a.isSuperAdmin || a.identity.isOrgAdmin

def isSelf (a : Principal) (user : Option String) : Bool :=
  isHeld a.identity.userId user

def myself (a : Principal) (user : Option String) : Bool :=
  a.isSuperAdmin || a.isSelf user

def myselfOr (a : Principal) (user : Option String) (permission : String) : Bool :=
  a.myself user || a.hasPermission permission

def sameTenant (a : Principal) (tenant : Option String) : Bool :=
  a.isSuperAdmin || isHeld a.identity.tenantId tenant

def sameOrganization (a : Principal) (organization : Option String) : Bool :=
  a.isSuperAdmin || isHeld a.identity.organizationId organization

def privileged (a : Principal) (kind : ResourceKind) (action : String) : Bool :=
  match a.policy.required kind action with
  | .authenticated => a.identity.isAuthenticated
  | .owner => true
  | .permission => a.identity.hasPermission (PermissionKey.format ⟨kind.name, action⟩)
  | .superAdmin => a.isSuperAdmin

def mayAct (a : Principal) (kind : ResourceKind) (action : String) (isolated : Bool) : Bool :=
  if !isolated then false else a.privileged kind action

def onTenant (a : Principal) (tenant : Option String) (action : String) : Bool :=
  a.isSuperAdmin || a.mayAct .tenant action (a.sameTenant tenant)

def onOrganization (a : Principal) (organization : Option String) (action : String) : Bool :=
  a.isSuperAdmin || a.mayAct .organization action (a.sameOrganization organization)

def onUser (a : Principal) (user : Option String) (action : String) : Bool :=
  a.isSuperAdmin || a.mayAct .user action (a.isSelf user)

-- Which role or permission it is does not matter.
def onRole (a : Principal) (_role : Option String) (action : String) : Bool :=
  a.isSuperAdmin || a.mayAct .role action a.identity.isAuthenticated

def onPermission (a : Principal) (_permission : Option String) (action : String) : Bool :=
  a.isSuperAdmin || a.mayAct .permission action a.identity.isAuthenticated

def onResource (a : Principal) (kind : ResourceKind) (id : Option String) (action : String) : Bool :=
  match kind with
  | .tenant => a.onTenant id action
  | .organization => a.onOrganization id action
  | .user => a.onUser id action
  | .role => a.onRole id action
  | .permission => a.onPermission id action

def holds (a : Principal) : Predicate → Bool
  | .authenticated => a.isAuthenticated
  | .superAdmin => a.isSuperAdmin
  | .tenantAdmin => a.isTenantAdmin
  | .orgAdmin => a.isOrgAdmin
  | .hasRole role => a.hasRole role
  | .hasAnyRole roles => a.hasAnyRole roles
  | .hasPermission permission => a.hasPermission permission
  | .hasAnyPermission permissions => a.hasAnyPermission permissions
  | .hasAllPermissions permissions => a.hasAllPermissions permissions
  | .myself user => a.myself user
  | .myselfOr user permission => a.myselfOr user permission
  | .sameTenant tenant => a.sameTenant tenant
  | .sameOrganization organization => a.sameOrganization organization
  | .resource kind id action => a.onResource kind id action

end Principal

end TenantAuth
