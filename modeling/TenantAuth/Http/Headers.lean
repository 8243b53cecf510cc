import TenantAuth.Text.Blank

/-!
This module contains the headers of requests.
-/

namespace TenantAuth

structure HeaderValue where
  bytes : List UInt8
deriving DecidableEq

namespace HeaderValue

def ofText (s : String) : HeaderValue :=
  ⟨s.toUTF8.data.toList⟩

def isReadable (b : UInt8) : Bool :=
  (0x20 ≤ b && b < 0x7f) || b == 0x09

def text? (v : HeaderValue) : Option String :=
  if v.bytes.all isReadable then some (String.ofList (v.bytes.map fun b => Char.ofNat b.toNat)) else none

end HeaderValue

/--
Headers in the order in which they came, with their names in small letters.
-/
structure Headers where
  entries : List (String × HeaderValue) := []
deriving DecidableEq

namespace Headers

def ofList (l : List (String × HeaderValue)) : Headers :=
  ⟨l.map fun (name, value) => (String.ofList (name.toList.map Char.toLower), value)⟩

def find (name : String) : List (String × HeaderValue) → Option HeaderValue
  | [] => none
  | (n, v) :: es => if n = name then some v else find name es

def get? (h : Headers) (name : String) : Option HeaderValue :=
  find name h.entries

def text? (h : Headers) (name : String) : Option String :=
  (h.get? name).bind HeaderValue.text?

end Headers

end TenantAuth
