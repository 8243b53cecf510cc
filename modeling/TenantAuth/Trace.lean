import TenantAuth.Identifier

/-!
This module contains the correlation of what several services do for one request.
-/

namespace TenantAuth

def hexDigits (count n : Nat) : String :=
  String.ofList <| (List.range count).map fun i => Nat.digitChar (n >>> (4 * (count - 1 - i)) % 16)

/--
The text of a fresh trace id: the time in milliseconds, then the version digit 7, and random bits
around the two bits of the variant.
-/
def freshTraceText (millis random : Nat) : String :=
  hexDigits 8 (millis >>> 16) ++ "-" ++ hexDigits 4 millis
    ++ "-7" ++ hexDigits 3 (random >>> 62)
    ++ "-" ++ hexDigits 4 (0x8000 + (random >>> 48) % 0x4000) ++ "-" ++ hexDigits 12 random

def traceOrFresh (inbound : Option String) (fresh : TraceId) : TraceId :=
  (Identifier.ofText? inbound).getD fresh

structure RequestSpan where
  method : String
  path : String
  traceId : TraceId
  userId : Option String := none

namespace RequestSpan

def name : String := "request"

def level : String := "INFO"

def record (s : RequestSpan) (user : String) : RequestSpan :=
  { s with userId := some user }

def fields (s : RequestSpan) : List (String × String) :=
  [("method", s.method), ("path", s.path), ("trace_id", s.traceId.text)]
    ++ s.userId.toList.map fun u => ("user_id", u)

end RequestSpan

end TenantAuth
