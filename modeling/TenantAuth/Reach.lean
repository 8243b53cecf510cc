import TenantAuth.Scope

/-!
This module contains the questions whether an identity reaches a tenant, an organization or a user, and
the tenant restriction that queries apply for it.
-/

namespace TenantAuth

def isHeld {kind : IdentifierKind} (held : Option (Identifier kind)) (target : Option String) : Bool :=
  match held, namedTarget? target with
  | some h, some t => h.text == t
  | _, _ => false

inductive Reach where
  | tenant (tenant : Option String)
  | organization (organization tenant : Option String)
  | ownOrganization (organization : Option String)
  | user (user tenant organization : Option String)
  | everything
  | atLeast (required : Scope)

namespace Identity

def reachesTenant (i : Identity) (tenant : Option String) : Bool :=
  (namedTarget? tenant).isSome &&
    match i.scope with
    | .global => true
    | .tenant | .organization => isHeld i.tenantId tenant

def reachesOrganization (i : Identity) (organization tenant : Option String) : Bool :=
  (namedTarget? organization).isSome &&
    match i.scope with
    | .global => true
    | .tenant => isHeld i.tenantId tenant
    | .organization => isHeld i.organizationId organization

def reachesUser (i : Identity) (user tenant organization : Option String) : Bool :=
  (namedTarget? user).isSome &&
    (isHeld i.userId user ||
      match i.scope with
      | .global => true
      | .tenant => isHeld i.tenantId tenant
      | .organization => isHeld i.organizationId organization)

def reaches (i : Identity) : Reach → Bool
  | .tenant t => i.reachesTenant t
  | .organization o t => i.reachesOrganization o t
  | .ownOrganization o => i.reachesOrganization o (i.tenantId.map Identifier.text)
  | .user u t o => i.reachesUser u t o
  | .everything => i.scope == .global
  | .atLeast required => i.scope.includes required

def seesTenant (i : Identity) (tenant : Option String) : Bool :=
  i.isSuperAdmin || isHeld i.tenantId tenant

/--
The tenant that queries are restricted to. For a super admin none means that they are not restricted.
-/
def tenantRestriction? (i : Identity) : Option TenantId :=
  if i.isSuperAdmin then none else i.tenantId

def isTenantBound (i : Identity) : Bool :=
  !i.isSuperAdmin && i.isAuthenticated

end Identity

end TenantAuth
