/-!
This module contains the two ways in which binary ASN.1 writes points in time.
-/

namespace TenantAuth.Crypto.DerTime

def number (ds : List Char) : Nat :=
  ds.foldl (fun n d => 10 * n + (d.toNat - '0'.toNat)) 0

def field? (n : Nat) (cs : List Char) : Option (Nat × List Char) :=
  let ds := cs.take n
  if ds.length = n ∧ ds.all Char.isDigit then some (number ds, cs.drop n) else none

def between? (low high : Nat) (cs : List Char) : Option (Nat × List Char) :=
  (field? 2 cs).filter fun (n, _) => low ≤ n && n ≤ high

def isLeap (year : Nat) : Bool :=
  year % 4 == 0 && (year % 100 != 0 || year % 400 == 0)

def daysIn (year month : Nat) : Nat :=
  if month = 2 then (if isLeap year then 29 else 28)
  else if [4, 6, 9, 11].contains month then 30
  else 31

def skipWithinYear? (year : Nat) (cs : List Char) : Option (List Char) := do
  let (month, cs) ← between? 1 12 cs
  let (_, cs) ← between? 1 (daysIn year month) cs
  let (_, cs) ← between? 0 23 cs
  let (_, cs) ← between? 0 59 cs
  let (_, cs) ← between? 0 59 cs
  return cs

def chars (body : List UInt8) : List Char :=
  body.map fun b => Char.ofNat b.toNat

/--
Whether a point in time is written with two digits for the year, which lies between 1950 and 2049, and
whole seconds.
-/
def isShort (body : List UInt8) : Bool :=
  match field? 2 (chars body) with
  | none => false
  | some (year, cs) => skipWithinYear? (if 50 ≤ year then 1900 + year else 2000 + year) cs == some ['Z']

def withFraction (cs : List Char) : List Char :=
  let cs := if cs.contains '.' then cs else cs.take 14 ++ '.' :: cs.drop 14
  cs.dropLast ++ List.replicate (25 - cs.length) '0' ++ cs.getLast?.toList

def maxFractionDigits : Nat := 32

def isFraction : List Char → Bool
  | '.' :: cs =>
    let digits := (cs.takeWhile Char.isDigit).length
    1 ≤ digits && digits ≤ maxFractionDigits && cs.drop digits == ['Z']
  | _ => false

/--
Whether a point in time is written with four digits for the year. The year may have a sign, and the
seconds may have a fraction.
-/
def isLong (body : List UInt8) : Bool :=
  let cs := withFraction (chars body)
  let cs := match cs with
    | '+' :: cs => cs
    | '-' :: cs => cs
    | cs => cs
  15 ≤ body.length
    && match field? 4 cs with
      | none => false
      | some (year, cs) => (skipWithinYear? year cs).any isFraction

end TenantAuth.Crypto.DerTime
