import TenantAuth.Text.Quoted
import TenantAuth.Token.Verifier

/-!
This module contains the text by which a verifier of tokens is shown. The key is left out of it, so a
secret occurs in it only by being part of what else is shown.
-/

namespace TenantAuth

namespace TokenKey

def algorithms (k : TokenKey) : List Algorithm :=
  Algorithm.all.filter k.fits

def title : TokenKey → String
  | secret _ => "Hmac"
  | rsa _ => "Rsa"

end TokenKey

namespace TokenVerifier

def describeFields (fields : List (String × String)) : String :=
  ", ".intercalate (fields.map fun (name, value) => name ++ ": " ++ value)

def describeChecks (v : TokenVerifier) : String :=
  "Validation \x7b " ++ describeFields [
    ("required_spec_claims", "\x7b" ++ ", ".intercalate (["exp", "sub", "iss"].map Text.quoted) ++ "\x7d"),
    ("leeway", toString v.leeway.toNat),
    ("reject_tokens_expiring_in_less_than", "0"),
    ("validate_exp", "true"),
    ("validate_nbf", "false"),
    ("validate_aud", "false"),
    ("aud", "None"),
    ("iss", "Some(\x7b" ++ Text.quoted v.issuer ++ "\x7d)"),
    ("sub", "None"),
    ("algorithms", "[" ++ ", ".intercalate (v.key.algorithms.map Algorithm.name) ++ "]"),
    ("validate_signature", "true")
  ] ++ " \x7d"

def describe (v : TokenVerifier) : String :=
  "TokenClaimsExtractor \x7b " ++ describeFields [
    ("key_kind", v.key.title),
    ("validation", v.describeChecks),
    ("revocation", "false")
  ] ++ " \x7d"

def shows (v : TokenVerifier) (secret : String) : Bool :=
  !secret.isEmpty && v.describe.contains secret

end TokenVerifier

end TenantAuth
