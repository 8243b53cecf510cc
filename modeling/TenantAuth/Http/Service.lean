import TenantAuth.Http.Layer
import TenantAuth.RevocationList
import TenantAuth.Text.Hexadecimal

/-!
This module contains the service that publishes endpoint policies and tells callers who they are.
-/

namespace TenantAuth

def percentDecode : List UInt8 → List UInt8
  | [] => []
  | [a] => [a]
  | [a, b] => [a, b]
  | a :: b :: c :: rest =>
    if a = 0x25 then
      match Text.hexDigit? b, Text.hexDigit? c with
      | some h, some l => UInt8.ofNat (16 * h + l) :: percentDecode rest
      | _, _ => a :: percentDecode (b :: c :: rest)
    else
      a :: percentDecode (b :: c :: rest)

def percentDecodeText? (s : String) : Option String :=
  String.fromUTF8? ⟨(percentDecode s.toUTF8.data.toList).toArray⟩

inductive Route where
  | health
  | whoami
  | policies (service : String)
deriving DecidableEq, Repr

namespace Route

def policiesPath : List Char :=
  "/internal/endpoint-policies/".toList

def ofPath? (path : String) : Option Route :=
  if path = "/health" then some .health
  else if path = "/whoami" then some .whoami
  else
    let cs := path.toList
    let service := cs.drop policiesPath.length
    if policiesPath.isPrefixOf cs && !service.isEmpty && !service.contains '/' then
      some (.policies (String.ofList service))
    else
      none

end Route

def unquote (s : String) : String :=
  String.ofList (((s.toList.dropWhile (· == '"')).reverse.dropWhile (· == '"')).reverse)

def holdsVersion (h : Headers) (version : String) : Bool :=
  (h.text? "if-none-match").any fun held => unquote (Text.trim held) == version

variable {m : Type → Type} [Monad m]

def publish (store : EndpointStore) (service : String) : Handler m :=
  fun _ request =>
    let listing := store.listing service
    let response : Response :=
      if holdsVersion request.headers listing.version then { status := 304 } else .ofJson listing.toJson
    pure (response.withHeader "x-policy-version" listing.version)

def describeCaller : Handler m :=
  fun bindings _ =>
    match authorize { identity := bindings.current } (.leaf .authenticated) with
    | .ok a =>
      pure (.ofJson (.object (a.identity.members ++ [("scope", .string bindings.current.scope.name)])))
    | .error denial => pure (.ofDenial denial)

def Route.handler (store : EndpointStore) : Route → Handler m
  | .health => fun _ _ => pure { status := 200 }
  | .whoami => describeCaller
  | .policies service =>
    match percentDecodeText? service with
    | some service => publish store service
    | none => fun _ _ => pure {
        status := 400
        headers := [Response.textType]
        body := .text "Invalid URL: Invalid UTF-8 in `service_name`"
      }

/--
The service: identities are resolved for every request, also for one without a route. A route is read
by `GET`, and by `HEAD` without the body.
-/
def serve (resolve : Resolver m) (store : EndpointStore) (fresh : TraceId) : Handler m :=
  fun bindings request =>
    match Route.ofPath? request.path with
    | none => withIdentity resolve fresh (fun _ _ => pure { status := 404 }) bindings request
    | some route =>
      if request.method = "GET" then
        withIdentity resolve fresh (route.handler store) bindings request
      else if request.method = "HEAD" then do
        return (← withIdentity resolve fresh (route.handler store) bindings request).withoutBody
      else do
        let response ← withIdentity resolve fresh (fun _ _ => pure { status := 405 }) bindings request
        return response.withHeader "allow" "GET,HEAD"

def serveEnforced (resolve : Resolver m) (store : EndpointStore) (service : String) (fresh : TraceId)
    (next : Handler m) : Handler m :=
  withIdentity resolve fresh (withPolicies store service next)

def Resolver.ofParts (verifier : TokenVerifier) (services : ServiceTokens) (revoked : RevocationList)
    (now : Instant) : Resolver (Except Fault) :=
  identifyM (verifier.claims? now (revoked.isRevoked now)) services.verifies

end TenantAuth
