import TenantAuth.Crypto.Der

/-!
This module contains the verification of RSA signatures, with the deterministic padding and with the
probabilistic one.
-/

namespace TenantAuth.Crypto.Rsa

def powMod (modulus base exponent : Nat) : Nat :=
  go (exponent.log2 + 1) exponent (base % modulus) (1 % modulus)
where
  go : Nat → Nat → Nat → Nat → Nat
    | 0, _, _, acc => acc
    | bits + 1, e, b, acc =>
      go bits (e / 2) (b * b % modulus) (if e % 2 = 1 then acc * b % modulus else acc)

structure PublicKey where
  modulus : Nat
  exponent : Nat

def bitLength (n : Nat) : Nat :=
  if n = 0 then 0 else n.log2 + 1

def PublicKey.bits (k : PublicKey) : Nat :=
  bitLength k.modulus

def PublicKey.size (k : PublicKey) : Nat :=
  (k.bits + 7) / 8

def PublicKey.usable (k : PublicKey) : Bool :=
  2048 ≤ 8 * k.size && k.bits ≤ 8192 && k.modulus % 2 == 1
    && k.exponent % 2 == 1 && 3 ≤ k.exponent && k.exponent < 1 <<< 33

def PublicKey.ofBytes? (bytes : List UInt8) : Option PublicKey := do
  let (modulus, exponent) ← Der.rsaPublicKey? bytes
  let key : PublicKey := ⟨modulus, exponent⟩
  if key.usable then some key else none

def PublicKey.open? (k : PublicKey) (signature : List UInt8) : Option (List UInt8) :=
  let s := natOfBytes signature
  if signature.length = k.size ∧ s < k.modulus then
    some (bytesOfNat k.size (powMod k.modulus s k.exponent))
  else
    none

/--
The last byte of a hash function's object identifier 2.16.840.1.101.3.4.2.
-/
def hashId : Hash → UInt8
  | .bits256 => 1
  | .bits384 => 2
  | .bits512 => 3

def digestInfo (h : Hash) (digest : List UInt8) : List UInt8 :=
  [0x30, UInt8.ofNat (17 + h.size), 0x30, 0x0d, 0x06, 0x09, 0x60, 0x86, 0x48, 0x01, 0x65, 0x03, 0x04,
    0x02, hashId h, 0x05, 0x00, 0x04, UInt8.ofNat h.size] ++ digest

def padded (h : Hash) (size : Nat) (message : List UInt8) : List UInt8 :=
  let info := digestInfo h (h.apply message)
  [0x00, 0x01] ++ List.replicate (size - 3 - info.length) 0xff ++ [0x00] ++ info

def verifyDeterministic (k : PublicKey) (h : Hash) (message signature : List UInt8) : Bool :=
  k.open? signature == some (padded h k.size message)

def mask (h : Hash) (seed : List UInt8) (size : Nat) : List UInt8 :=
  ((List.range (size / h.size + 1)).flatMap fun i => h.apply (seed ++ bytesOfNat 4 i)).take size

def checkProbabilistic (h : Hash) (bits : Nat) (message padded : List UInt8) : Bool :=
  let size := (bits + 7) / 8
  let n := size - h.size - 1
  let masked := padded.take n
  let digest := (padded.drop n).take h.size
  let top := UInt8.ofNat (0xff >>> (8 * size - bits))
  if size < 2 * h.size + 2 ∨ padded.length ≠ size ∨ padded.getLast? ≠ some 0xbc then
    false
  else if masked.head?.any fun b => b &&& ~~~top ≠ 0 then
    false
  else
    match List.zipWith (· ^^^ ·) masked (mask h digest n) with
    | [] => false
    | b :: bs =>
      let data := (b &&& top) :: bs
      let zeros := n - h.size - 1
      let salt := data.drop (zeros + 1)
      data.take (zeros + 1) == List.replicate zeros 0 ++ [0x01]
        && h.apply (List.replicate 8 0 ++ h.apply message ++ salt) == digest

def verifyProbabilistic (k : PublicKey) (h : Hash) (message signature : List UInt8) : Bool :=
  match k.open? signature with
  | none => false
  | some padded =>
    let bits := k.bits - 1
    if bits % 8 = 0 then
      padded.head? == some 0 && checkProbabilistic h bits message padded.tail
    else
      checkProbabilistic h bits message padded

end TenantAuth.Crypto.Rsa
