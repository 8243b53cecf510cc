import TenantAuth.Endpoint.Method
import TenantAuth.Endpoint.Pattern
import TenantAuth.Identity

/-!
This module contains the policy of one endpoint: whom it admits.
-/

namespace TenantAuth

structure ServiceName where
  text : String
  trim_text : Text.trim text = text
  text_ne : text ≠ ""

namespace ServiceName

theorem text_inj {a b : ServiceName} (h : a.text = b.text) : a = b := by
  cases a
  cases b
  congr

instance : DecidableEq ServiceName :=
  fun a b => decidable_of_iff (a.text = b.text) ⟨text_inj, congrArg text⟩

def parse (raw : String) : Except EndpointError ServiceName :=
  if h : Text.trim raw = "" then
    .error .blankServiceName
  else
    .ok ⟨Text.trim raw, Text.trim_trim raw, h⟩

@[simp]
theorem parse_text (n : ServiceName) : parse n.text = .ok n := by
  have h : Text.trim n.text ≠ "" := by
    rw [n.trim_text]
    exact n.text_ne
  rw [parse, dif_neg h]
  cases n
  simp_all

end ServiceName

/--
The policy of an endpoint of a service. An endpoint is told from others by its method and its pattern.
-/
structure EndpointPolicy where
  method : Method
  pattern : Pattern
  service : ServiceName
  requiredRoles : SortedSet Role := .empty
  requiredPermissions : SortedSet Permission := .empty
  isPublic : Bool := false
  requireMfa : Bool := false
deriving DecidableEq

namespace EndpointPolicy

def new (method : Method) (pattern : Pattern) (service : String) :
    Except EndpointError EndpointPolicy := do
  return { method, pattern, service := ← ServiceName.parse service }

def withRoles (p : EndpointPolicy) (roles : List Role) : EndpointPolicy :=
  { p with requiredRoles := p.requiredRoles.insertMany roles }

def withPermissions (p : EndpointPolicy) (permissions : List Permission) : EndpointPolicy :=
  { p with requiredPermissions := p.requiredPermissions.insertMany permissions }

def sameEndpoint (p q : EndpointPolicy) : Bool :=
  p.method == q.method && p.pattern.text == q.pattern.text

def permits (p : EndpointPolicy) (i : Identity) : Bool :=
  p.isPublic
    || p.requiredPermissions.toList.any (fun q => i.hasPermission q.name)
    || p.requiredRoles.toList.any (fun r => i.hasRole r.name)

structure Draft where
  method : Option Method := none
  pattern : Option Pattern := none
  service : Option ServiceName := none
  requiredRoles : List Role := []
  requiredPermissions : List Permission := []
  isPublic : Bool := false
  requireMfa : Bool := false

def Draft.read (d : Draft) (name : String) (j : Json) : Except (DecodeError EndpointError) Draft :=
  match name with
  | "method" => do return { d with method := some (← DecodeError.ofShape (Method.ofJson? j)) }
  | "pathPattern" => do return { d with pattern := some (← Pattern.ofJson j) }
  | "serviceName" => do
    let raw ← DecodeError.ofShape j.text?
    return { d with service := some (← DecodeError.ofRule (ServiceName.parse raw)) }
  | "requiredRoles" => do
    return { d with requiredRoles := (← DecodeError.ofShape j.texts?).map Role.mk }
  | "requiredPermissions" => do
    return { d with requiredPermissions := (← DecodeError.ofShape j.texts?).map Permission.mk }
  | "isPublic" => do return { d with isPublic := ← DecodeError.ofShape j.bool? }
  | "requireMfa" => do return { d with requireMfa := ← DecodeError.ofShape j.bool? }
  | _ => .ok d

def Draft.finish (d : Draft) : Except (DecodeError EndpointError) EndpointPolicy :=
  match d.method, d.pattern, d.service with
  | some method, some pattern, some service =>
    .ok {
      method, pattern, service
      requiredRoles := .ofList d.requiredRoles
      requiredPermissions := .ofList d.requiredPermissions
      isPublic := d.isPublic
      requireMfa := d.requireMfa
    }
  | _, _, _ => .error .shape

/--
Reads a policy. Its members are read as they stand, and the first that does not fit decides; what is
missing is noticed last.
-/
def ofJson (j : Json) : Except (DecodeError EndpointError) EndpointPolicy := do
  let record ← DecodeError.ofShape <|
    j.record? ["method", "pathPattern", "serviceName", "requiredRoles", "requiredPermissions",
      "isPublic", "requireMfa"]
  (← record.read Draft.read {}).finish

def ofJsonMany (j : Json) : Except (DecodeError EndpointError) (List EndpointPolicy) := do
  (← DecodeError.ofShape j.array?).mapM ofJson

def toJson (p : EndpointPolicy) : Json :=
  .object [
    ("method", p.method.toJson),
    ("pathPattern", p.pattern.toJson),
    ("serviceName", .string p.service.text),
    ("requiredRoles", Json.ofTexts p.requiredRoles.texts),
    ("requiredPermissions", Json.ofTexts p.requiredPermissions.texts),
    ("isPublic", .bool p.isPublic),
    ("requireMfa", .bool p.requireMfa)
  ]

end EndpointPolicy

end TenantAuth
