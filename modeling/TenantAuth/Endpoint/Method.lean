import TenantAuth.Endpoint.Error
import TenantAuth.Json.Record
import TenantAuth.Text.Blank

/-!
This module contains the request methods that endpoint policies are made for.
-/

namespace TenantAuth

inductive Method where
  | get
  | post
  | put
  | patch
  | delete
  | head
  | options
deriving DecidableEq, Repr

namespace Method

def name : Method → String
  | get => "GET"
  | post => "POST"
  | put => "PUT"
  | patch => "PATCH"
  | delete => "DELETE"
  | head => "HEAD"
  | options => "OPTIONS"

def all : List Method :=
  [get, post, put, patch, delete, head, options]

def ofName? (name : String) : Option Method :=
  all.find? fun m => m.name == name

def parse (raw : String) : Except EndpointError Method :=
  match ofName? (String.ofList ((Text.trim raw).toList.map Char.toUpper)) with
  | some m => .ok m
  | none => .error (.unknownMethod raw)

def ofJson? (j : Json) : Option Method :=
  j.alternative?.bind ofName?

def toJson (m : Method) : Json :=
  .string m.name

@[simp]
theorem ofName?_name (m : Method) : ofName? m.name = some m := by
  cases m <;> decide

end Method

end TenantAuth
