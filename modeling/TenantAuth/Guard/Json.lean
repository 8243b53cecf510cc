import TenantAuth.Guard.Basic
import TenantAuth.Json.Record

/-!
This module contains guards as JSON. A guard is an object with the name of its form under `kind` and
the fields of the form beside it.
-/

namespace TenantAuth

inductive PredicateForm where
  | authenticated
  | superAdmin
  | tenantAdmin
  | orgAdmin
  | hasRole
  | hasAnyRole
  | hasPermission
  | hasAnyPermission
  | hasAllPermissions
  | myself
  | myselfOr
  | sameTenant
  | sameOrganization
  | resource
deriving DecidableEq, Repr

namespace PredicateForm

def name : PredicateForm → String
  | authenticated => "authenticated"
  | superAdmin => "super_admin"
  | tenantAdmin => "tenant_admin"
  | orgAdmin => "org_admin"
  | hasRole => "has_role"
  | hasAnyRole => "has_any_role"
  | hasPermission => "has_permission"
  | hasAnyPermission => "has_any_permission"
  | hasAllPermissions => "has_all_permissions"
  | myself => "myself"
  | myselfOr => "myself_or"
  | sameTenant => "same_tenant"
  | sameOrganization => "same_organization"
  | resource => "resource"

def fields : PredicateForm → List String
  | authenticated | superAdmin | tenantAdmin | orgAdmin => []
  | hasRole => ["role"]
  | hasAnyRole => ["roles"]
  | hasPermission => ["permission"]
  | hasAnyPermission | hasAllPermissions => ["permissions"]
  | myself => ["user_id"]
  | myselfOr => ["user_id", "permission"]
  | sameTenant => ["tenant_id"]
  | sameOrganization => ["organization_id"]
  | resource => ["resource", "id", "action"]

def all : List PredicateForm := [
  authenticated, superAdmin, tenantAdmin, orgAdmin, hasRole, hasAnyRole, hasPermission,
  hasAnyPermission, hasAllPermissions, myself, myselfOr, sameTenant, sameOrganization, resource
]

end PredicateForm

namespace Predicate

def optionalText? (ms : List (String × Json)) (name : String) : Option (Option String) :=
  match Json.lookup name ms with
  | none => some none
  | some j => j.optional? Json.text?

def ofFields? (form : PredicateForm) (ms : List (String × Json)) : Option Predicate :=
  match form with
  | .authenticated => some .authenticated
  | .superAdmin => some .superAdmin
  | .tenantAdmin => some .tenantAdmin
  | .orgAdmin => some .orgAdmin
  | .hasRole => do return .hasRole (← (← Json.lookup "role" ms).text?)
  | .hasAnyRole => do return .hasAnyRole (← (← Json.lookup "roles" ms).texts?)
  | .hasPermission => do return .hasPermission (← (← Json.lookup "permission" ms).text?)
  | .hasAnyPermission => do return .hasAnyPermission (← (← Json.lookup "permissions" ms).texts?)
  | .hasAllPermissions => do return .hasAllPermissions (← (← Json.lookup "permissions" ms).texts?)
  | .myself => do return .myself (← optionalText? ms "user_id")
  | .myselfOr => do
    return .myselfOr (← optionalText? ms "user_id") (← (← Json.lookup "permission" ms).text?)
  | .sameTenant => do return .sameTenant (← optionalText? ms "tenant_id")
  | .sameOrganization => do return .sameOrganization (← optionalText? ms "organization_id")
  | .resource => do
    let kind ← ResourceKind.ofName? (← (← Json.lookup "resource" ms).innerAlternative?)
    return .resource kind (← optionalText? ms "id") (← (← Json.lookup "action" ms).text?)

def toFields : Predicate → PredicateForm × List (String × Json)
  | .authenticated => (.authenticated, [])
  | .superAdmin => (.superAdmin, [])
  | .tenantAdmin => (.tenantAdmin, [])
  | .orgAdmin => (.orgAdmin, [])
  | .hasRole r => (.hasRole, [("role", .string r)])
  | .hasAnyRole rs => (.hasAnyRole, [("roles", Json.ofTexts rs)])
  | .hasPermission p => (.hasPermission, [("permission", .string p)])
  | .hasAnyPermission ps => (.hasAnyPermission, [("permissions", Json.ofTexts ps)])
  | .hasAllPermissions ps => (.hasAllPermissions, [("permissions", Json.ofTexts ps)])
  | .myself u => (.myself, [("user_id", Json.ofText? u)])
  | .myselfOr u p => (.myselfOr, [("user_id", Json.ofText? u), ("permission", .string p)])
  | .sameTenant t => (.sameTenant, [("tenant_id", Json.ofText? t)])
  | .sameOrganization o => (.sameOrganization, [("organization_id", Json.ofText? o)])
  | .resource k id action =>
    (.resource, [("resource", .string k.name), ("id", Json.ofText? id), ("action", .string action)])

end Predicate

namespace Guard

inductive Form where
  | leaf (form : PredicateForm)
  | all
  | any
  | not
deriving DecidableEq, Repr

def Form.name : Form → String
  | .leaf form => form.name
  | .all => "all"
  | .any => "any"
  | .not => "not"

def forms : List Form :=
  PredicateForm.all.map Form.leaf ++ [.all, .any, .not]

/--
Reads the form of a guard: its name or, for a guard inside another one, also its ordinal.
-/
def form? (inner : Bool) : Json → Option Form
  | .string s => forms.find? fun f => f.name == s
  | .int n => if inner && 0 ≤ n then forms[n.toNat]? else none
  | _ => none

mutual

/--
Reads a guard. In place of an object there may be an array of the form and of all its fields in order.
-/
def read? (inner : Bool) : Json → Option Guard
  | .object ms =>
    match (Json.lookup "kind" ms).bind (form? inner) with
    | none => none
    | some (.leaf form) => (Predicate.ofFields? form ms).map .leaf
    | some .all => (readManyAt? "guards" ms).map .all
    | some .any => (readManyAt? "guards" ms).map .any
    | some .not => (readAt? "guard" ms).map .not
  | .array (kind :: es) =>
    match form? inner kind with
    | none => none
    | some (.leaf form) =>
      if es.length = form.fields.length then
        (Predicate.ofFields? form (form.fields.zip es)).map .leaf
      else
        none
    | some .all => match es with
      | [e] => (readMany? e).map .all
      | _ => none
    | some .any => match es with
      | [e] => (readMany? e).map .any
      | _ => none
    | some .not => match es with
      | [e] => (read? true e).map .not
      | _ => none
  | _ => none

def readAt? (name : String) : List (String × Json) → Option Guard
  | [] => none
  | (n, v) :: ms => if n = name then read? true v else readAt? name ms

def readManyAt? (name : String) : List (String × Json) → Option (List Guard)
  | [] => none
  | (n, v) :: ms => if n = name then readMany? v else readManyAt? name ms

def readMany? : Json → Option (List Guard)
  | .array es => readElements? es
  | _ => none

def readElements? : List Json → Option (List Guard)
  | [] => some []
  | e :: es =>
    match read? true e, readElements? es with
    | some g, some gs => some (g :: gs)
    | _, _ => none

end

def ofJson? : Json → Option Guard :=
  read? false

mutual

def toJson : Guard → Json
  | .leaf p => .object (("kind", .string p.toFields.1.name) :: p.toFields.2)
  | .all gs => .object [("kind", .string "all"), ("guards", .array (toJsonMany gs))]
  | .any gs => .object [("kind", .string "any"), ("guards", .array (toJsonMany gs))]
  | .not g => .object [("kind", .string "not"), ("guard", toJson g)]

def toJsonMany : List Guard → List Json
  | [] => []
  | g :: gs => toJson g :: toJsonMany gs

end

end Guard

end TenantAuth
