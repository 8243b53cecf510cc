import TenantAuth.Crypto.Sha2
import TenantAuth.Json.Record

/-!
This module contains the header of a token, which names the algorithm of its signature.
-/

namespace TenantAuth

inductive Algorithm where
  | hmac (h : Crypto.Hash)
  | rsa (h : Crypto.Hash)
  | rsaPss (h : Crypto.Hash)
  | ecdsa256
  | ecdsa384
  | edwards
deriving DecidableEq

namespace Algorithm

def name : Algorithm → String
  | hmac .bits256 => "HS256"
  | hmac .bits384 => "HS384"
  | hmac .bits512 => "HS512"
  | rsa .bits256 => "RS256"
  | rsa .bits384 => "RS384"
  | rsa .bits512 => "RS512"
  | rsaPss .bits256 => "PS256"
  | rsaPss .bits384 => "PS384"
  | rsaPss .bits512 => "PS512"
  | ecdsa256 => "ES256"
  | ecdsa384 => "ES384"
  | edwards => "EdDSA"

def all : List Algorithm := [
  hmac .bits256, hmac .bits384, hmac .bits512, rsa .bits256, rsa .bits384, rsa .bits512,
  rsaPss .bits256, rsaPss .bits384, rsaPss .bits512, ecdsa256, ecdsa384, edwards
]

def ofName? (name : String) : Option Algorithm :=
  all.find? fun a => a.name == name

end Algorithm

namespace TokenHeader

def fits (ms : List (String × Json)) (name : String) (test : Json → Bool) : Bool :=
  match Json.lookup name ms with
  | none | some .null => true
  | some j => test j

def isText (j : Json) : Bool :=
  j.text?.isSome

def isTexts (j : Json) : Bool :=
  j.texts?.isSome

def isOneOf (ms : List (String × Json)) (name : String) (names : List String) : Bool :=
  ((Json.lookup name ms).bind Json.alternative?).any names.contains

def holdsText (ms : List (String × Json)) (name : String) : Bool :=
  (Json.lookup name ms).any isText

def curves : List String :=
  ["P-256", "P-384", "P-521", "Ed25519"]

def keyAlgorithms : List String :=
  Algorithm.all.map Algorithm.name ++ ["RSA1_5", "RSA-OAEP", "RSA-OAEP-256"]

def keyMembers : List String :=
  ["use", "key_ops", "alg", "kid", "x5u", "x5c", "x5t", "x5t#S256"]

def areSingle (ms : List (String × Json)) (names : List String) : Bool :=
  ((Json.object ms).record? names).isSome

/--
Whether the members describe an embedded key. Its kind decides which parameters it has; only these may
not be repeated.
-/
def isKey : Json → Bool
  | .object ms =>
    areSingle ms keyMembers
      && ["use", "kid", "x5u", "x5t", "x5t#S256"].all (fits ms · isText)
      && ["key_ops", "x5c"].all (fits ms · isTexts)
      && fits ms "alg" (fun j => j.innerAlternative?.any keyAlgorithms.contains)
      && (isOneOf ms "kty" ["EC"] && areSingle ms ["kty", "crv", "x", "y"]
          && isOneOf ms "crv" curves && holdsText ms "x" && holdsText ms "y"
        || isOneOf ms "kty" ["RSA"] && areSingle ms ["kty", "n", "e"]
          && holdsText ms "n" && holdsText ms "e"
        || isOneOf ms "kty" ["oct"] && areSingle ms ["kty", "k"] && holdsText ms "k"
        || isOneOf ms "kty" ["OKP"] && areSingle ms ["kty", "crv", "x"]
          && isOneOf ms "crv" curves && holdsText ms "x")
  | _ => false

def known : List String :=
  ["typ", "alg", "cty", "jku", "jwk", "kid", "x5u", "x5c", "x5t", "x5t#S256"]

/--
The members of a header. In place of an object there may be an array of all members with a meaning.
-/
def members? (j : Json) : Option (List (String × Json)) := do
  let record ← j.record? known
  if record.surplus || j.array?.any (fun es => es.length < known.length) then none
  return record.members

/--
The algorithm that a header names. The other members with a meaning must have the right type; members
without one are ignored.
-/
def algorithm? (j : Json) : Option Algorithm := do
  let ms ← members? j
  let algorithm ← Algorithm.ofName? (← (← Json.lookup "alg" ms).alternative?)
  if ["typ", "cty", "jku", "kid", "x5u", "x5t", "x5t#S256"].all (fits ms · isText)
      && fits ms "x5c" isTexts && fits ms "jwk" isKey then
    some algorithm
  else
    none

end TokenHeader

end TenantAuth
