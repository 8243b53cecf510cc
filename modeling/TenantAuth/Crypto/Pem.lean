import TenantAuth.Text.Blank
import TenantAuth.Text.Split
import TenantAuth.Crypto.Base64
import TenantAuth.Crypto.Der

/-!
This module contains the reading of keys in PEM armour.
-/

namespace TenantAuth.Crypto.Pem

/--
Looks for a mark, and gives what stands before and after it. A byte that breaks off the mark does not start
it anew, so the mark is overlooked where it starts inside of a broken one.
-/
def cutAt? (mark bytes : List UInt8) : Option (List UInt8 × List UInt8) :=
  go mark [] bytes
where
  -- The bytes passed so far come last one first.
  go : List UInt8 → List UInt8 → List UInt8 → Option (List UInt8 × List UInt8)
    | [], passed, bs => some ((passed.drop mark.length).reverse, bs)
    | _ :: _, _, [] => none
    | m :: ms, passed, b :: bs => if b = m then go ms (b :: passed) bs else go mark (b :: passed) bs

def mark (s : String) : List UInt8 :=
  s.toUTF8.data.toList

def text? (bytes : List UInt8) : Option String :=
  String.fromUTF8? ⟨bytes.toArray⟩

def isSpace (b : UInt8) : Bool :=
  (mark " \t\n\r").contains b

def lines (cs : List Char) : List (List Char) :=
  let ls := Text.pieces '\n' cs
  if ls.getLast? = some [] then ls.dropLast else ls

def areHeaders (s : String) : Bool :=
  (lines s.toList).all fun line => line.contains ':'

/--
The label and the contents of the first block of a file. Headers may stand before the contents, with an
empty line after them. Only what is taken from the block must be text: any bytes may stand around it.
-/
def block? (bytes : List UInt8) : Option (String × List UInt8) := do
  let (_, bytes) ← cutAt? (mark "-----BEGIN ") bytes
  let (label, bytes) ← cutAt? (mark "-----") bytes
  let (body, bytes) ← cutAt? (mark "-----END ") (bytes.dropWhile isSpace)
  let (endLabel, _) ← cutAt? (mark "-----") bytes
  let (headers, data) := ((cutAt? (mark "\n\n") body).or (cutAt? (mark "\r\n\r\n") body)).getD ([], body)
  let label ← text? label
  let endLabel ← text? endLabel
  if label.isEmpty || label ≠ endLabel then none
  let data ← text? data
  let contents ← Base64.decodeStandard? (data.toList.filter fun c => !Text.isBlank c)
  let headers ← text? headers
  if areHeaders headers then some (label, contents) else none

def rsaId : List Nat :=
  [1, 2, 840, 113549, 1, 1, 1]

def keyIds : List (List Nat) :=
  [rsaId, [1, 2, 840, 10045, 2, 1], [1, 3, 101, 112]]

inductive Failure where
  | format
  | noString
deriving DecidableEq, Repr

/--
What a failure is called. The search for the string is the one for keys of elliptic curves, too, from
which its failure has the name.
-/
def Failure.message : Failure → String
  | format => "InvalidKeyFormat"
  | noString => "InvalidEcdsaKey"

def keyIn (elements : List Der) : Except Failure (List UInt8) :=
  if Der.findObjectIdIn keyIds elements = some rsaId then
    match Der.findStringIn elements with
    | some key => .ok key
    | none => .error .noString
  else
    .error .format

/--
The RSA key that a file holds, in binary form. A block labelled as an RSA key is taken whole. Whether the
key can verify anything is seen only when it is used.
-/
def rsaKey (bytes : List UInt8) : Except Failure (List UInt8) :=
  match block? bytes with
  | none => .error .format
  | some (label, contents) =>
    match Der.document? contents with
    | none => .error .format
    | some elements =>
      match label with
      | "RSA PUBLIC KEY" | "RSA PRIVATE KEY" => .ok contents
      | "PUBLIC KEY" | "PRIVATE KEY" | "CERTIFICATE" => keyIn elements
      | _ => .error .format

end TenantAuth.Crypto.Pem
