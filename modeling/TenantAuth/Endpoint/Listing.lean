import TenantAuth.Endpoint.Policy

/-!
This module contains the published list of a service's endpoint policies, and the choice of the policy
that applies to a request.
-/

namespace TenantAuth

/--
A snapshot of the endpoint policies of a service. A consumer replaces its copy when the version changes.
-/
structure EndpointListing where
  serviceName : String
  version : String
  endpoints : List EndpointPolicy
deriving DecidableEq

namespace EndpointListing

def epochVersion : String := "1970-01-01T00:00:00Z"

def empty (serviceName : String) : EndpointListing :=
  ⟨serviceName, epochVersion, []⟩

def applies (method : Method) (path : String) (p : EndpointPolicy) : Bool :=
  p.method == method && p.pattern.isMatch path

def better (best : Option EndpointPolicy) (p : EndpointPolicy) : Option EndpointPolicy :=
  match best with
  | none => some p
  | some q => if q.pattern.specificity < p.pattern.specificity then some p else some q

def resolve (l : EndpointListing) (method : Method) (path : String) : Option EndpointPolicy :=
  (l.endpoints.filter (applies method path)).foldl better none

def permits (resolved : Option EndpointPolicy) (i : Identity) : Bool :=
  resolved.any fun p => p.permits i

def isPublic (resolved : Option EndpointPolicy) : Bool :=
  resolved.any EndpointPolicy.isPublic

def requireMfa (resolved : Option EndpointPolicy) : Bool :=
  resolved.any EndpointPolicy.requireMfa

structure Draft where
  serviceName : Option String := none
  version : Option String := none
  endpoints : Option (List EndpointPolicy) := none

def Draft.read (d : Draft) (name : String) (j : Json) : Except (DecodeError EndpointError) Draft :=
  match name with
  | "serviceName" => do return { d with serviceName := some (← DecodeError.ofShape j.text?) }
  | "version" => do return { d with version := some (← DecodeError.ofShape j.text?) }
  | "endpoints" => do return { d with endpoints := some (← EndpointPolicy.ofJsonMany j) }
  | _ => .ok d

def Draft.finish (d : Draft) : Except (DecodeError EndpointError) EndpointListing :=
  match d.serviceName, d.version, d.endpoints with
  | some serviceName, some version, some endpoints => .ok { serviceName, version, endpoints }
  | _, _, _ => .error .shape

def ofJson (j : Json) : Except (DecodeError EndpointError) EndpointListing := do
  let record ← DecodeError.ofShape (j.record? ["serviceName", "version", "endpoints"])
  (← record.read Draft.read {}).finish

def toJson (l : EndpointListing) : Json :=
  .object [
    ("serviceName", .string l.serviceName),
    ("version", .string l.version),
    ("endpoints", .array (l.endpoints.map EndpointPolicy.toJson))
  ]

end EndpointListing

end TenantAuth
