import TenantAuth.Crypto.Hmac
import TenantAuth.Crypto.Pem
import TenantAuth.Crypto.Rsa
import TenantAuth.FileTree
import TenantAuth.Token.Settings
import TenantAuth.Token.Header

/-!
This module contains the keys that verify the signatures of tokens.
-/

namespace TenantAuth

inductive KeyFailure where
  | file (failure : FileFailure)
  | pem (failure : Crypto.Pem.Failure)
deriving DecidableEq, Repr

def KeyFailure.message : KeyFailure → String
  | file failure => failure.message
  | pem failure => failure.message

inductive SettingsError where
  | rsaKey (path : String) (failure : KeyFailure)
deriving DecidableEq, Repr

def SettingsError.message : SettingsError → String
  | rsaKey path failure =>
    "Failed to load RSA public key from '" ++ path ++ "': " ++ failure.message

inductive TokenKey where
  | secret (bytes : List UInt8)
  | rsa (key : List UInt8)
deriving DecidableEq

inductive SignatureCheck where
  | good
  | bad
  | unreadable
deriving DecidableEq, Repr

namespace TokenKey

def load (contents : String → Except FileFailure (List UInt8)) (c : TokenSettings)
    : Except SettingsError TokenKey :=
  match c.usableKeyPath? with
  | none => .ok (.secret c.secret.toUTF8.data.toList)
  | some path =>
    match contents path with
    | .error failure => .error (.rsaKey path (.file failure))
    | .ok bytes =>
      match Crypto.Pem.rsaKey bytes with
      | .error failure => .error (.rsaKey path (.pem failure))
      | .ok key => .ok (.rsa key)

def kind : TokenKey → String
  | secret _ => "hmac"
  | rsa _ => "rsa"

def fits : TokenKey → Algorithm → Bool
  | secret _, .hmac _ => true
  | rsa _, .rsa _ => true
  | rsa _, .rsaPss _ => true
  | _, _ => false

def verifyRsa (verify : Crypto.Rsa.PublicKey → Crypto.Hash → List UInt8 → List UInt8 → Bool)
    (key : List UInt8) (h : Crypto.Hash) (message : List UInt8) (signature : String) : SignatureCheck :=
  match Crypto.Base64.decodeUrl? signature.toList with
  | none => .unreadable
  | some signature =>
    match Crypto.Rsa.PublicKey.ofBytes? key with
    | none => .bad
    | some key => if verify key h message signature then .good else .bad

def sign (secret : List UInt8) (h : Crypto.Hash) (message : List UInt8) : String :=
  String.ofList (Crypto.Base64.encodeUrl (Crypto.hmac h secret message))

/--
Verifies the signature of a message. Under a shared secret its text is compared with the text of the
right one.
-/
def check (k : TokenKey) (a : Algorithm) (message : List UInt8) (signature : String) : SignatureCheck :=
  match k, a with
  | secret bytes, .hmac h => if signature = sign bytes h message then .good else .bad
  | rsa key, .rsa h => verifyRsa Crypto.Rsa.verifyDeterministic key h message signature
  | rsa key, .rsaPss h => verifyRsa Crypto.Rsa.verifyProbabilistic key h message signature
  | _, _ => .bad

end TokenKey

end TenantAuth
