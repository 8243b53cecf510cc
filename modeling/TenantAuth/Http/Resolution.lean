import TenantAuth.Http.Headers
import TenantAuth.ServiceTokens
import TenantAuth.Token.Verifier

/-!
This module contains the resolution of a request's identity from its headers.
-/

namespace TenantAuth

inductive IdentityOrigin where
  | service
  | gateway
  | bearer
  | anonymous
deriving DecidableEq, Repr

def IdentityOrigin.name : IdentityOrigin → String
  | service => "service"
  | gateway => "gateway"
  | bearer => "bearer"
  | anonymous => "anonymous"

inductive ResolutionError where
  | invalidServiceToken
deriving DecidableEq, Repr

def ResolutionError.message : ResolutionError → String
  | invalidServiceToken => "invalid service token"

namespace Headers

def requestSource (h : Headers) : Option String :=
  h.text? "x-request-source"

def present? (h : Headers) (name : String) : Option String :=
  (h.text? name).filter fun s => !Text.blank s

def identifier? {kind : IdentifierKind} (h : Headers) (name : String) : Option (Identifier kind) :=
  Identifier.ofText? (h.text? name)

def items (h : Headers) (name : String) : List String :=
  ((h.text? name).map fun s => (Text.split ',' s).filterMap Text.normalize?).getD []

def bearerToken? (h : Headers) : Option String := do
  let value ← h.text? "authorization"
  let (scheme, token) ← Text.splitFirst? ' ' (Text.trim value)
  if scheme.toList.map Char.toLower = "bearer".toList then Text.normalize? token else none

def serviceIdentity (h : Headers) (service : String) (trace : TraceId) : Identity :=
  .build [
    .user (h.identifier? "x-original-user-id"),
    .tenant (h.identifier? "x-original-tenant-id"),
    .organization (h.identifier? "x-original-organization-id"),
    .requestSource h.requestSource,
    .serviceAccount (Text.trim service),
    .trace (some trace)
  ]

def gatewayIdentity (h : Headers) (user : UserId) (trace : TraceId) : Identity :=
  .build [
    .user (some user),
    .tenant (h.identifier? "x-tenant-id"),
    .organization (h.identifier? "x-organization-id"),
    .roles ((h.items "x-user-roles").filterMap Role.parse?),
    .permissions ((h.items "x-permissions").filterMap Permission.parse?),
    .requestSource h.requestSource,
    .trace (some trace)
  ]

def bearerIdentity (h : Headers) (c : ClaimSet) (trace : TraceId) : Identity :=
  .build [
    .user (some c.userId),
    .tenant c.tenantId,
    .organization c.organizationId,
    .roles c.roles.toList,
    .permissions c.permissions.toList,
    .requestSource h.requestSource,
    .trace (some trace)
  ]

end Headers

/--
Resolves the identity of a request. A service token comes first, then the headers of a gateway, then a
bearer token, whose claims are asked for by `claims?`. Only a service token that is presented and does not
verify is an error.
-/
def identifyM {m : Type → Type} [Monad m] (claims? : Option String → m (Option ClaimSet))
    (verifies : String → String → Bool) (trace : TraceId) (h : Headers)
    : m (Except ResolutionError (Identity × IdentityOrigin)) :=
  match h.present? "x-service-token" with
  | some token =>
    match h.present? "x-service-name" with
    | none => pure (.error .invalidServiceToken)
    | some service =>
      if verifies service token then
        pure (.ok (h.serviceIdentity service trace, .service))
      else
        pure (.error .invalidServiceToken)
  | none =>
    match h.identifier? "x-user-id" with
    | some user => pure (.ok (h.gatewayIdentity user trace, .gateway))
    | none => do
      match ← claims? h.bearerToken? with
      | some c => return .ok (h.bearerIdentity c trace, .bearer)
      | none => return .ok (.build [.trace (some trace)], .anonymous)

/--
The identity of a request if the question for the claims of a token is always answered.
-/
def identify (claims? : Option String → Option ClaimSet) (verifies : String → String → Bool)
    (trace : TraceId) (h : Headers) : Except ResolutionError (Identity × IdentityOrigin) :=
  Id.run (identifyM (fun token => pure (claims? token)) verifies trace h)

end TenantAuth
