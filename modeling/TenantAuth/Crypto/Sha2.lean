/-!
This module contains the SHA-2 hash functions. The functions on words of 32 and of 64 bits are one
construction, described by a record of parameters.
-/

namespace TenantAuth.Crypto

def primes : List Nat :=
  (List.range 410).filter fun n => 2 ≤ n && (List.range n).all fun d => d < 2 || n % d != 0

def root (k n : Nat) : Nat → Nat
  | 0 => 0
  | bits + 1 => go bits 0
where
  go : Nat → Nat → Nat
    | 0, r => if (r + 1).pow k ≤ n then r + 1 else r
    | bit + 1, r => go bit (if (r + 1 <<< (bit + 1)).pow k ≤ n then r + 1 <<< (bit + 1) else r)

/--
The first `w` bits of the fractional part of the `k`-th root of `n`.
-/
def rootFraction (w k n : Nat) : BitVec w :=
  BitVec.ofNat w (root k (n <<< (k * w)) (w + 8))

def chunks (n : Nat) (l : List α) : List (List α) :=
  go l.length l
where
  go : Nat → List α → List (List α)
    | 0, _ => []
    | fuel + 1, l => if l.isEmpty then [] else l.take n :: go fuel (l.drop n)

def natOfBytes (bytes : List UInt8) : Nat :=
  bytes.foldl (fun n b => n * 256 + b.toNat) 0

def bytesOfNat (size n : Nat) : List UInt8 :=
  (List.range size).map fun i => UInt8.ofNat (n >>> (8 * (size - 1 - i)))

namespace Sha2

/--
Three amounts: of three rotations, or of two rotations and a shift.
-/
structure Amounts where
  first : Nat
  second : Nat
  third : Nat

structure Variant (w : Nat) where
  sumA : Amounts
  sumE : Amounts
  scheduleOld : Amounts
  scheduleNew : Amounts
  constants : List (BitVec w)
  start : List (BitVec w)
  size : Nat

variable {w : Nat}

def rotations (a : Amounts) (x : BitVec w) : BitVec w :=
  x.rotateRight a.first ^^^ x.rotateRight a.second ^^^ x.rotateRight a.third

def rotationsAndShift (a : Amounts) (x : BitVec w) : BitVec w :=
  x.rotateRight a.first ^^^ x.rotateRight a.second ^^^ (x >>> a.third)

/--
The words of the schedule, from the words so far, in both cases the newest first.
-/
def Variant.schedule (v : Variant w) : Nat → List (BitVec w) → List (BitVec w)
  | 0, ws => ws
  | n + 1, ws =>
    let next := rotationsAndShift v.scheduleNew (ws.getD 1 0) + ws.getD 6 0
      + rotationsAndShift v.scheduleOld (ws.getD 14 0) + ws.getD 15 0
    v.schedule n (next :: ws)

def Variant.round (v : Variant w) (s : List (BitVec w)) (kw : BitVec w) : List (BitVec w) :=
  match s with
  | [a, b, c, d, e, f, g, h] =>
    let t := h + rotations v.sumE e + ((e &&& f) ^^^ (~~~e &&& g)) + kw
    let u := rotations v.sumA a + ((a &&& b) ^^^ (a &&& c) ^^^ (b &&& c))
    [t + u, a, b, c, d + t, e, f, g]
  | s => s

def Variant.absorb (v : Variant w) (s : List (BitVec w)) (block : List (BitVec w)) : List (BitVec w) :=
  let ws := (v.schedule (v.constants.length - 16) block.reverse).reverse
  let t := (List.zipWith (· + ·) v.constants ws).foldl v.round s
  List.zipWith (· + ·) s t

/--
The padding of a message: a set bit, zeros, and the length in bits, up to the end of a block.
-/
def pad (w length : Nat) : List UInt8 :=
  let block := 2 * w
  let tail := w / 4
  let zeros := (2 * block - (length + 1 + tail) % block) % block
  0x80 :: List.replicate zeros 0 ++ bytesOfNat tail (8 * length)

def Variant.hash (v : Variant w) (message : List UInt8) : List UInt8 :=
  let words := (chunks (w / 8) (message ++ pad w message.length)).map
    fun bytes => BitVec.ofNat w (natOfBytes bytes)
  let state := (chunks 16 words).foldl v.absorb v.start
  (state.flatMap fun x => bytesOfNat (w / 8) x.toNat).take v.size

end Sha2

open Sha2

def sha256 : Variant 32 where
  sumA := ⟨2, 13, 22⟩
  sumE := ⟨6, 11, 25⟩
  scheduleOld := ⟨7, 18, 3⟩
  scheduleNew := ⟨17, 19, 10⟩
  constants := (primes.take 64).map (rootFraction 32 3)
  start := (primes.take 8).map (rootFraction 32 2)
  size := 32

def sha512 : Variant 64 where
  sumA := ⟨28, 34, 39⟩
  sumE := ⟨14, 18, 41⟩
  scheduleOld := ⟨1, 8, 7⟩
  scheduleNew := ⟨19, 61, 6⟩
  constants := primes.map (rootFraction 64 3)
  start := (primes.take 8).map (rootFraction 64 2)
  size := 64

def sha384 : Variant 64 :=
  { sha512 with
    start := ((primes.drop 8).take 8).map (rootFraction 64 2)
    size := 48 }

inductive Hash where
  | bits256
  | bits384
  | bits512
deriving DecidableEq

namespace Hash

def size : Hash → Nat
  | bits256 => 32
  | bits384 => 48
  | bits512 => 64

def blockSize : Hash → Nat
  | bits256 => 64
  | bits384 => 128
  | bits512 => 128

def apply : Hash → List UInt8 → List UInt8
  | bits256 => sha256.hash
  | bits384 => sha384.hash
  | bits512 => sha512.hash

end Hash

end TenantAuth.Crypto
