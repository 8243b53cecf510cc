import TenantAuth.Identifier
import TenantAuth.Role
import TenantAuth.Permission

/-!
This module contains the identity that a request acts under and the edits by which one is built.
-/

namespace TenantAuth

/--
The identity of a request. It is authenticated if it has a user. A service account is a verified
calling service; its user is the one that the service acts for.
-/
structure Identity where
  userId : Option UserId := none
  tenantId : Option TenantId := none
  organizationId : Option OrganizationId := none
  roles : SortedSet Role := .empty
  permissions : SortedSet Permission := .empty
  traceId : Option TraceId := none
  serviceAccount : Bool := false
  requestSource : Option String := none
deriving DecidableEq

namespace Identity

def anonymous : Identity := {}

instance : Inhabited Identity := ⟨anonymous⟩

inductive Edit where
  | user (id : Option UserId)
  | tenant (id : Option TenantId)
  | organization (id : Option OrganizationId)
  | trace (id : Option TraceId)
  | requestSource (source : Option String)
  | serviceAccount (service : String)
  | role (r : Role)
  | roles (rs : List Role)
  | permission (p : Permission)
  | permissions (ps : List Permission)

/--
Applies an edit. A blank request source stands for none. The name of a service account becomes the
request source unless there is one already.
-/
def edit (i : Identity) : Edit → Identity
  | .user id => { i with userId := id }
  | .tenant id => { i with tenantId := id }
  | .organization id => { i with organizationId := id }
  | .trace id => { i with traceId := id }
  | .requestSource source => { i with requestSource := source.filter fun s => !Text.blank s }
  | .serviceAccount service =>
    { i with serviceAccount := true, requestSource := i.requestSource.or (some service) }
  | .role r => { i with roles := i.roles.insert r }
  | .roles rs => { i with roles := i.roles.insertMany rs }
  | .permission p => { i with permissions := i.permissions.insert p }
  | .permissions ps => { i with permissions := i.permissions.insertMany ps }

def build (edits : List Edit) : Identity :=
  edits.foldl edit anonymous

def isAuthenticated (i : Identity) : Bool :=
  i.userId.isSome

def hasRole (i : Identity) (name : String) : Bool :=
  i.roles.toList.any fun r => r.name == name

def hasAnyRole (i : Identity) (names : List String) : Bool :=
  names.any i.hasRole

def hasPermission (i : Identity) (requested : String) : Bool :=
  i.permissions.toList.any fun p => p.grants requested

def hasAnyPermission (i : Identity) (requested : List String) : Bool :=
  requested.any i.hasPermission

def hasAllPermissions (i : Identity) (requested : List String) : Bool :=
  requested.all i.hasPermission

def isSuperAdmin (i : Identity) : Bool :=
  i.hasRole Role.superAdmin.name

def isTenantAdmin (i : Identity) : Bool :=
  i.hasRole Role.tenantAdmin.name

def isOrgAdmin (i : Identity) : Bool :=
  i.hasRole Role.orgAdmin.name

def members (i : Identity) : List (String × Json) := [
  ("user_id", Identifier.toJson? i.userId),
  ("tenant_id", Identifier.toJson? i.tenantId),
  ("organization_id", Identifier.toJson? i.organizationId),
  ("roles", Json.ofTexts i.roles.texts),
  ("permissions", Json.ofTexts i.permissions.texts),
  ("trace_id", Identifier.toJson? i.traceId),
  ("service_account", .bool i.serviceAccount),
  ("request_source", Json.ofText? i.requestSource)
]

def toJson (i : Identity) : Json :=
  .object i.members

theorem hasRole_iff {i : Identity} {name : String} : i.hasRole name = true ↔ ⟨name⟩ ∈ i.roles := by
  simp only [hasRole, List.any_eq_true, beq_iff_eq, SortedSet.mem_toList]
  constructor
  . rintro ⟨r, hr, rfl⟩
    exact hr
  . intro h
    exact ⟨_, h, rfl⟩

theorem isSuperAdmin_iff {i : Identity} : i.isSuperAdmin = true ↔ Role.superAdmin ∈ i.roles :=
  hasRole_iff

theorem hasPermission_iff {i : Identity} {requested : String} :
    i.hasPermission requested = true ↔ ∃ p ∈ i.permissions, p.grants requested = true := by
  simp [hasPermission]

end Identity

end TenantAuth
