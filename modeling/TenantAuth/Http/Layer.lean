import TenantAuth.Endpoint.Store
import TenantAuth.Binding.Basic
import TenantAuth.Http.Message
import TenantAuth.Trace

/-!
This module contains the two layers around the handlers of a service: one that binds the identity of a
request, and one that enforces endpoint policies.
-/

namespace TenantAuth

/--
What answers a request, given the bindings as they stand when the request arrives. The effects of handlers
are those of the monad.
-/
abbrev Handler (m : Type → Type) :=
  Bindings → Request → m Response

abbrev Resolver (m : Type → Type) :=
  TraceId → Headers → m (Except ResolutionError (Identity × IdentityOrigin))

variable {m : Type → Type} [Monad m]

def Request.trace (r : Request) (fresh : TraceId) : TraceId :=
  traceOrFresh (r.headers.text? "x-trace-id") fresh

/--
Resolves the identity of a request and binds it for the handlers behind. The identity is attached to
the request, too, and the trace id is added to the response.
-/
def withIdentity (resolve : Resolver m) (fresh : TraceId) (next : Handler m) : Handler m :=
  fun bindings request => do
    let trace := request.trace fresh
    let resolved ← resolve trace request.headers
    let response ← match resolved with
      | .ok (identity, _) => next (bindings.enter identity) { request with identity := some identity }
      | .error e => pure (.ofResolutionError e)
    return response.withHeader "x-trace-id" trace.text

/--
Whether the policies of a service admit a principal to a method and a path. A method without a name of
its own is never admitted.
-/
def admits (listing : EndpointListing) (i : Identity) (method path : String) : Bool :=
  match Method.parse method with
  | .ok m => EndpointListing.permits (listing.resolve m path) i
  | .error _ => false

def Denial.ofIdentity (i : Identity) : Denial :=
  if i.isAuthenticated then .forbidden else .unauthenticated

def withPolicies (store : EndpointStore) (service : String) (next : Handler m) : Handler m :=
  fun bindings request =>
    if admits (store.listing service) bindings.current request.method request.path then
      next bindings request
    else
      pure (.ofDenial (.ofIdentity bindings.current))

def showIdentity : Handler m :=
  fun bindings request =>
    pure <| .ofJson <| .object [
      ("reached", bindings.current.toJson),
      ("extension_same", .bool (request.identity == some bindings.current))
    ]

end TenantAuth
