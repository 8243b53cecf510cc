/-!
This module contains the two base 64 encodings in use: the URL-safe one without padding and the
standard one with padding. Both are read strictly: one byte string has one encoding.
-/

namespace TenantAuth.Crypto.Base64

def urlDigits : List Char :=
  "ABCDEFGHIJKLMNOPQRSTUVWXYZabcdefghijklmnopqrstuvwxyz0123456789-_".toList

def standardDigits : List Char :=
  "ABCDEFGHIJKLMNOPQRSTUVWXYZabcdefghijklmnopqrstuvwxyz0123456789+/".toList

def digit? (digits : List Char) (c : Char) : Option Nat :=
  digits.idxOf? c

/--
The bytes that a sequence of digits stands for. The unused bits of the last digit are zero.
-/
def ofDigits? : List Nat → Option (List UInt8)
  | [] => some []
  | [_] => none
  | [a, b] => if b % 16 = 0 then some [UInt8.ofNat (a * 4 + b / 16)] else none
  | [a, b, c] =>
    if c % 4 = 0 then some [UInt8.ofNat (a * 4 + b / 16), UInt8.ofNat (b % 16 * 16 + c / 4)] else none
  | a :: b :: c :: d :: rest =>
    (ofDigits? rest).map fun bytes =>
      UInt8.ofNat (a * 4 + b / 16) :: UInt8.ofNat (b % 16 * 16 + c / 4)
        :: UInt8.ofNat (c % 4 * 64 + d) :: bytes

def toDigits : List UInt8 → List Nat
  | [] => []
  | [x] => [x.toNat / 4, x.toNat % 4 * 16]
  | [x, y] => [x.toNat / 4, x.toNat % 4 * 16 + y.toNat / 16, y.toNat % 16 * 4]
  | x :: y :: z :: rest =>
    [x.toNat / 4, x.toNat % 4 * 16 + y.toNat / 16, y.toNat % 16 * 4 + z.toNat / 64, z.toNat % 64]
      ++ toDigits rest

def decodeUrl? (cs : List Char) : Option (List UInt8) :=
  (cs.mapM (digit? urlDigits)).bind ofDigits?

def encodeUrl (bytes : List UInt8) : List Char :=
  (toDigits bytes).map fun d => urlDigits.getD d 'A'

def padding (n : Nat) : Nat :=
  (4 - n % 4) % 4

/--
Reads the standard encoding. The padding completes the last group of four and stands at the end.
-/
def decodeStandard? (cs : List Char) : Option (List UInt8) :=
  let pad := (cs.reverse.takeWhile (· == '=')).length
  let digits := cs.take (cs.length - pad)
  if pad = padding digits.length then
    (digits.mapM (digit? standardDigits)).bind ofDigits?
  else
    none

end TenantAuth.Crypto.Base64
