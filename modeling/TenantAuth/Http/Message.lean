import TenantAuth.Guard.Basic
import TenantAuth.Http.Headers
import TenantAuth.Http.Resolution

/-!
This module contains requests and responses, and the responses that refuse a request.
-/

namespace TenantAuth

/--
A request as far as it is looked at: the name of its method, its path without the query and still
encoded, its headers, and the identity that has been attached to it on its way.
-/
structure Request where
  method : String
  path : String
  headers : Headers
  identity : Option Identity := none
deriving DecidableEq

namespace Request

/--
The path of a request target. The query and the fragment are left out, and a target with scheme and
authority has the path that follows them.
-/
def pathOf (target : String) : String :=
  let cs := target.toList.takeWhile fun c => c != '?' && c != '#'
  if cs.head? == some '/' then
    String.ofList cs
  else
    let afterScheme := (cs.dropWhile (· != '/')).drop 2
    if cs.contains ':' && !afterScheme.isEmpty then
      let path := afterScheme.dropWhile (· != '/')
      if path.isEmpty then "/" else String.ofList path
    else
      String.ofList cs

end Request

inductive Body where
  | empty
  | json (j : Json)
  | text (s : String)
deriving BEq

structure Response where
  status : Nat
  headers : List (String × String) := []
  body : Body := .empty
deriving BEq

namespace Response

def jsonType : String × String :=
  ("content-type", "application/json")

def textType : String × String :=
  ("content-type", "text/plain; charset=utf-8")

def ofJson (j : Json) : Response where
  status := 200
  headers := [jsonType]
  body := .json j

def error (status : Nat) (code message : String) : Response where
  status
  headers := [jsonType]
  body := .json (.object [("error", .string code), ("message", .string message)])

def withHeader (r : Response) (name value : String) : Response :=
  { r with headers := (r.headers.filter fun h => h.1 != name) ++ [(name, value)] }

def withoutBody (r : Response) : Response :=
  { r with body := .empty }

def ofDenial : Denial → Response
  | .unauthenticated => error 401 "unauthenticated" "authentication required"
  | .forbidden => error 403 "forbidden" "access denied"

def ofResolutionError (e : ResolutionError) : Response :=
  error 401 "unauthenticated" e.message

end Response

end TenantAuth
