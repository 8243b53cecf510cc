import TenantAuth.Crypto.DerTime
import TenantAuth.Crypto.Sha2

/-!
This module contains two readings of binary ASN.1: a lenient one that shows which elements a document
is made of, and a strict one of RSA public keys.
-/

namespace TenantAuth.Crypto

inductive Der where
  | sequence (elements : List Der)
  | bits (bytes : List UInt8)
  | octets (bytes : List UInt8)
  | objectId (arcs : List Nat)
  | other

namespace Der

/--
Reads a number written in base 128, where every byte but the last has its top bit set. It may start with
zeros. The digits read so far make up `n`.
-/
def base128? (n : Nat) : List UInt8 → Option (Nat × List UInt8)
  | [] => none
  | b :: bs =>
    let n := 128 * n + (b &&& 0x7f).toNat
    if b &&& 0x80 = 0 then some (n, bs) else base128? n bs

def base128Row? (n : Option Nat) : List UInt8 → Option (List Nat)
  | [] => if n.isNone then some [] else none
  | b :: bs =>
    let n := 128 * n.getD 0 + (b &&& 0x7f).toNat
    if b &&& 0x80 = 0 then (base128Row? none bs).map (n :: ·) else base128Row? (some n) bs

/--
The arcs of an object identifier. The first byte stands for two of them.
-/
def arcs? : List UInt8 → Option (List Nat)
  | [] => none
  | b :: bs =>
    let root := min (b.toNat / 40) 2
    (base128Row? none bs).map fun arcs => root :: (b.toNat - 40 * root) :: arcs

def length? : List UInt8 → Option (Nat × List UInt8)
  | [] => none
  | b :: bs =>
    if b < 0x80 then
      some (b.toNat, bs)
    else
      let n := (b &&& 0x7f).toNat
      if 8 < n ∨ bs.length < n then none else some (natOfBytes (bs.take n), bs.drop n)

def tag? : List UInt8 → Option (Bool × Nat × List UInt8)
  | [] => none
  | b :: bs =>
    let universal := b &&& 0xc0 = 0
    if b &&& 0x1f = 0x1f then
      (base128? 0 bs).map fun (number, rest) => (universal, number, rest)
    else
      some (universal, (b &&& 0x1f).toNat, bs)

def isUtf8 (bytes : List UInt8) : Bool :=
  (String.fromUTF8? ⟨bytes.toArray⟩).isSome

def printable : List Char :=
  "ABCDEFGHIJKLMNOPQRSTUVWXYZabcdefghijklmnopqrstuvwxyz0123456789 '()+,-./:=?".toList

def isPrintable (bytes : List UInt8) : Bool :=
  bytes.all fun b => printable.contains (Char.ofNat b.toNat)

/--
Reads the body of an element with a universal tag, given how to read the elements inside. Flags, strings
of characters and points in time must be well-formed, though they are not looked at.
-/
def ofBody? (elements? : List UInt8 → Option (List Der)) (number : Nat) (body : List UInt8) : Option Der :=
  match number with
  | 0x01 => if body.length = 1 then some .other else none
  | 0x03 =>
    match body with
    | [] => some (.bits [])
    | unused :: bytes => if 8 * bytes.length < unused.toNat then none else some (.bits bytes)
  | 0x04 => some (.octets body)
  | 0x06 => (arcs? body).map .objectId
  | 0x0c | 0x14 | 0x1c | 0x1e => if isUtf8 body then some .other else none
  | 0x10 => (elements? body).map .sequence
  | 0x11 => (elements? body).map fun _ => .other
  | 0x13 => if isPrintable body then some .other else none
  | 0x17 => if DerTime.isShort body then some .other else none
  | 0x18 => if DerTime.isLong body then some .other else none
  | _ => some .other

/--
Reads a row of elements, those inside sequences and sets included. A sequence or set is not empty. Every
element spends a tag byte, so the length of the document is enough fuel.
-/
def elements? : Nat → List UInt8 → Option (List Der)
  | _, [] => some []
  | 0, _ :: _ => none
  | fuel + 1, bs => do
    let (universal, number, rest) ← tag? bs
    let (length, rest) ← length? rest
    if rest.length < length then none
    let inside (body : List UInt8) := (elements? fuel body).filter fun es => !es.isEmpty
    let element ← if universal then ofBody? inside number (rest.take length) else some .other
    let elements ← elements? fuel (rest.drop length)
    return element :: elements

def document? (bytes : List UInt8) : Option (List Der) :=
  (elements? bytes.length bytes).filter fun es => !es.isEmpty

mutual

def findObjectId (known : List (List Nat)) : Der → Option (List Nat)
  | .sequence es => findObjectIdIn known es
  | .objectId arcs => if known.contains arcs then some arcs else none
  | _ => none

def findObjectIdIn (known : List (List Nat)) : List Der → Option (List Nat)
  | [] => none
  | e :: es => (findObjectId known e).or (findObjectIdIn known es)

end

mutual

def findString : Der → Option (List UInt8)
  | .sequence es => findStringIn es
  | .bits bytes => some bytes
  | .octets bytes => some bytes
  | _ => none

def findStringIn : List Der → Option (List UInt8)
  | [] => none
  | e :: es => (findString e).or (findStringIn es)

end

def strict? (tag : UInt8) : List UInt8 → Option (List UInt8 × List UInt8)
  | t :: l :: rest => do
    if t ≠ tag then none
    let (length, rest) ←
      if l < 0x80 then
        some (l.toNat, rest)
      else match l, rest with
        | 0x81, a :: rest => if a < 0x80 then none else some (a.toNat, rest)
        | 0x82, a :: b :: rest =>
          let n := natOfBytes [a, b]
          if n < 0x100 then none else some (n, rest)
        | _, _ => none
    if rest.length < length then none
    return (rest.take length, rest.drop length)
  | _ => none

def positive? : List UInt8 → Option Nat
  | [] => none
  | [b] => if b = 0 ∨ 0x80 ≤ b then none else some b.toNat
  | b :: c :: bs =>
    if b = 0 then
      if c < 0x80 then none else some (natOfBytes (c :: bs))
    else if 0x80 ≤ b then none
    else some (natOfBytes (b :: c :: bs))

def rsaPublicKey? (bytes : List UInt8) : Option (Nat × Nat) := do
  let (body, rest) ← strict? 0x30 bytes
  if !rest.isEmpty then none
  let (modulus, rest) ← strict? 0x02 body
  let (exponent, rest) ← strict? 0x02 rest
  if !rest.isEmpty then none
  return (← positive? modulus, ← positive? exponent)

end Der

end TenantAuth.Crypto
