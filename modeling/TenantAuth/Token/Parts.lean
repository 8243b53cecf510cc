import TenantAuth.Crypto.Base64
import TenantAuth.Json.Reading
import TenantAuth.Text.Split
import TenantAuth.Token.Claims
import TenantAuth.Token.Header
import TenantAuth.Token.Rejection

/-!
This module contains tokens cut into their parts, and what the header and the payload of a token tell.
-/

namespace TenantAuth

structure TokenParts where
  header : String
  payload : String
  signature : String
deriving DecidableEq

namespace TokenParts

def ofToken? (token : String) : Option TokenParts := do
  let (message, signature) ← Text.splitLast? '.' token
  let (header, payload) ← Text.splitLast? '.' message
  return { header, payload, signature }

def message (p : TokenParts) : List UInt8 :=
  (p.header ++ "." ++ p.payload).toUTF8.data.toList

def decode? (part : String) : Option Json.Written :=
  (Crypto.Base64.decodeUrl? part.toList).bind Json.Written.parse?

def algorithm? (p : TokenParts) : Option Algorithm := do
  TokenHeader.algorithm? (← (← decode? p.header).record? TokenHeader.known)

/--
Whether the start of validity, which is not looked at, lets what follows be read. Of a value that is no
number only the beginning is read: an array or object must be empty.
-/
def passesStart : Json.Written → Bool
  | .array es => es.isEmpty
  | .object ms => ms.isEmpty
  | w => w.ending Json.Written.levels != .failedInside

def passesAudience (w : Json.Written) : Bool :=
  w.ending Json.Written.levels != .failedInside

def passes (ms : List (String × Json.Written)) (name : String) (test : Json.Written → Bool) : Bool :=
  match ms.filter fun m => m.1 == name with
  | [] => true
  | [m] => test m.2
  | _ => false

/--
Looks through a payload once more, for what is to be checked of the claims. These are found by their
names: a payload that lists its claims without names is no use.
-/
def look (w : Json.Written) : Except Rejection Unit :=
  match w with
  | .object ms =>
    match Json.Written.named? ms with
    | some ms =>
      if passes ms "nbf" passesStart && passes ms "aud" passesAudience then .ok () else .error .malformed
    | none => .error .malformed
  | .array es => .error (if es.length = 5 then .invalid else .malformed)
  | _ => .error .malformed

def claims (p : TokenParts) : Except Rejection TokenClaims :=
  match decode? p.payload with
  | none => .error .malformed
  | some w =>
    match (w.record? TokenClaims.names).bind fun j => (TokenClaims.ofJson j).toOption with
    | none => .error .malformed
    | some c => (look w).map fun _ => c

end TokenParts

end TenantAuth
