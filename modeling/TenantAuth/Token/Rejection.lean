/-!
This module contains the reasons for which tokens are rejected or not answered at all.
-/

namespace TenantAuth

inductive Rejection where
  | blank
  | malformed
  | badSignature
  | wrongIssuer
  | expired
  | revoked
  | invalid
deriving DecidableEq, Repr

def Rejection.name : Rejection → String
  | blank => "blank"
  | malformed => "malformed"
  | badSignature => "bad_signature"
  | wrongIssuer => "wrong_issuer"
  | expired => "expired"
  | revoked => "revoked"
  | invalid => "invalid"

/--
What stops the verification of a token without an answer: the leeway is longer than the time since the start
of 1970, so that it cannot be subtracted from the time.
-/
inductive Fault where
  | overflow
deriving DecidableEq, Repr

end TenantAuth
