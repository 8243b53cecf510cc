import TenantAuth.Json.Basic

/-!
This module contains the writing of JSON text, without white space, and the order of an object's
members by name.
-/

namespace TenantAuth.Json

def hexDigit (n : Nat) : Char :=
  if n < 10 then Char.ofNat ('0'.toNat + n) else Char.ofNat ('a'.toNat + (n - 10))

def escapeChar (c : Char) : List Char :=
  if c = '"' then ['\\', '"']
  else if c = '\\' then ['\\', '\\']
  else if c.toNat < 0x20 then ['\\', 'u', '0', '0', hexDigit (c.toNat / 16), hexDigit (c.toNat % 16)]
  else [c]

def quote (s : String) : String :=
  "\"" ++ String.ofList (s.toList.flatMap escapeChar) ++ "\""

mutual

def render : Json → String
  | .null => "null"
  | .bool b => if b then "true" else "false"
  | .int n => toString n
  | .real literal => literal
  | .string s => quote s
  | .array es => "[" ++ renderElements es ++ "]"
  | .object ms => "\x7b" ++ renderMembers ms ++ "\x7d"

def renderElements : List Json → String
  | [] => ""
  | [e] => render e
  | e :: es => render e ++ "," ++ renderElements es

def renderMembers : List (String × Json) → String
  | [] => ""
  | [(name, v)] => quote name ++ ":" ++ render v
  | (name, v) :: ms => quote name ++ ":" ++ render v ++ "," ++ renderMembers ms

end

def addMember (name : String) (v : Json) : List (String × Json) → List (String × Json)
  | [] => [(name, v)]
  | (n, w) :: ms =>
    if name < n then (name, v) :: (n, w) :: ms
    else if name = n then (n, w) :: ms
    else (n, w) :: addMember name v ms

mutual

/--
The same value with the members of every object in ascending order of their names. Of members with
one name the last is kept.
-/
def sorted : Json → Json
  | .array es => .array (sortedElements es)
  | .object ms => .object (sortedMembers ms)
  | j => j

def sortedElements : List Json → List Json
  | [] => []
  | e :: es => sorted e :: sortedElements es

def sortedMembers : List (String × Json) → List (String × Json)
  | [] => []
  | (name, v) :: ms => addMember name (sorted v) (sortedMembers ms)

end

end TenantAuth.Json
