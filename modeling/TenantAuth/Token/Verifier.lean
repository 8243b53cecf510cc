import TenantAuth.Instant
import TenantAuth.Token.Key
import TenantAuth.Token.Parts

/-!
This module contains the verification of bearer tokens.
-/

namespace TenantAuth

structure TokenVerifier where
  key : TokenKey
  issuer : String
  leeway : UInt64
deriving DecidableEq

namespace TokenVerifier

def ofSettings (contents : String → Except FileFailure (List UInt8)) (c : TokenSettings) :
    Except SettingsError TokenVerifier := do
  return { key := ← TokenKey.load contents c, issuer := c.issuer, leeway := c.leeway }

def isExpired (v : TokenVerifier) (now : Instant) (exp : UInt64) : Except Fault Bool :=
  if now.seconds < v.leeway then .error .overflow else .ok (exp < now.seconds - v.leeway)

def open? (v : TokenVerifier) (token : String) : Except Rejection TokenClaims :=
  match TokenParts.ofToken? token with
  | none => .error .malformed
  | some parts =>
    match parts.algorithm? with
    | none => .error .malformed
    | some algorithm =>
      if !v.key.fits algorithm then
        .error .badSignature
      else
        match v.key.check algorithm parts.message parts.signature with
        | .bad => .error .badSignature
        | .unreadable => .error .malformed
        | .good => parts.claims

def accept (v : TokenVerifier) (now : Instant) (isRevoked : String → Bool) (c : TokenClaims) :
    Except Fault (Except Rejection ClaimSet) := do
  let expired ← v.isExpired now c.exp
  return (
    if expired then .error .expired
    else if c.iss ≠ v.issuer then .error .wrongIssuer
    else
      match ClaimSet.ofClaims? c with
      | none => .error .invalid
      | some set => if set.tokenId.any isRevoked then .error .revoked else .ok set)

def verify (v : TokenVerifier) (now : Instant) (isRevoked : String → Bool) (token : Option String) :
    Except Fault (Except Rejection ClaimSet) :=
  match token.bind Text.normalize? with
  | none => .ok (.error .blank)
  | some token =>
    match v.open? token with
    | .error e => .ok (.error e)
    | .ok claims => v.accept now isRevoked claims

def claims? (v : TokenVerifier) (now : Instant) (isRevoked : String → Bool) (token : Option String) :
    Except Fault (Option ClaimSet) := do
  return (← v.verify now isRevoked token).toOption

end TokenVerifier

end TenantAuth
