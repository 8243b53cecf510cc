import TenantAuth.Json.Record
import TenantAuth.Text.Blank
import TenantAuth.Text.Decimal

/-!
This module contains the settings of token verification, from JSON or from an environment.
-/

namespace TenantAuth

/--
How tokens are verified: with the secret, or with an RSA key if that is enabled. The leeway is the
number of seconds for which an expired token is still good.
-/
structure TokenSettings where
  secret : String := ""
  issuer : String := "authhub"
  leeway : UInt64 := 0
  rsaEnabled : Bool := false
  rsaKeyPath : Option String := none
deriving DecidableEq

namespace TokenSettings

instance : Inhabited TokenSettings := ⟨{}⟩

def withSecret (secret issuer : String) : TokenSettings :=
  { secret, issuer }

def withRsa (c : TokenSettings) (path : Option String) : TokenSettings :=
  { c with rsaEnabled := true, rsaKeyPath := path }

def withLeeway (c : TokenSettings) (leeway : UInt64) : TokenSettings :=
  { c with leeway }

def usableKeyPath? (c : TokenSettings) : Option String :=
  if c.rsaEnabled then c.rsaKeyPath.filter fun p => !Text.blank p else none

def readRsaMember (c : TokenSettings) (name : String) (j : Json) : Except (DecodeError Empty) TokenSettings :=
  match name with
  | "enabled" => do return { c with rsaEnabled := ← DecodeError.ofShape j.bool? }
  | "public_key_path" => do return { c with rsaKeyPath := ← DecodeError.ofShape (j.optional? Json.text?) }
  | _ => .ok c

def readMember (c : TokenSettings) (name : String) (j : Json) : Except (DecodeError Empty) TokenSettings :=
  match name with
  | "secret" => do return { c with secret := ← DecodeError.ofShape j.text? }
  | "issuer" => do return { c with issuer := ← DecodeError.ofShape j.text? }
  | "leeway_secs" => do return { c with leeway := ← DecodeError.ofShape j.word? }
  | "rsa" => do
    let record ← DecodeError.ofShape (j.record? ["enabled", "public_key_path"])
    record.read readRsaMember c
  | _ => .ok c

def ofJson (j : Json) : Except (DecodeError Empty) TokenSettings := do
  let record ← DecodeError.ofShape (j.record? ["secret", "issuer", "leeway_secs", "rsa"])
  record.read readMember {}

def flag (raw : String) : Bool :=
  ["true", "1", "yes", "on"].contains (String.ofList ((Text.trim raw).toList.map Char.toLower))

def number? (raw : String) : Option UInt64 := do
  let n ← Text.unsignedDecimal? (Text.trim raw).toList
  if n < UInt64.size then some (UInt64.ofNat n) else none

/--
Reads the settings of an environment. A blank issuer or an unreadable number counts as not set.
-/
def ofEnvironment (env : String → Option String) : TokenSettings where
  secret := (env "AUTHHUB_JWT_SECRET").getD "authhub-dev-secret-change-me"
  issuer := ((env "AUTHHUB_JWT_ISSUER").filter fun s => !Text.blank s).getD "authhub"
  leeway := ((env "AUTHHUB_JWT_LEEWAY_SECS").bind number?).getD 0
  rsaEnabled := (env "AUTHHUB_JWT_RSA_ENABLED").any flag
  rsaKeyPath := env "AUTHHUB_JWT_RSA_PUBLIC_KEY_PATH"

def toJson (c : TokenSettings) : Json :=
  .object [
    ("secret", .string c.secret),
    ("issuer", .string c.issuer),
    ("leeway_secs", Json.ofWord c.leeway),
    ("rsa_enabled", .bool c.rsaEnabled),
    ("rsa_public_key_path", Json.ofText? c.rsaKeyPath),
    ("rsa_key_path", Json.ofText? c.usableKeyPath?)
  ]

end TokenSettings

end TenantAuth
