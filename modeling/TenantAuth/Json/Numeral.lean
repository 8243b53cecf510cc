/-!
This module contains numbers as JSON writes them and the range in which they are read.
-/

namespace TenantAuth.Json

/--
How the reading of a value may end: with the value, with a failure that is noticed where the value ends,
or with one that is noticed before.
-/
inductive Ending where
  | complete
  | failedAtEnd
  | failedInside
deriving DecidableEq, Repr

structure Exponent where
  negative : Bool
  digits : List Nat
deriving DecidableEq

structure Numeral where
  negative : Bool
  whole : List Nat
  fraction : List Nat := []
  exponent : Option Exponent := none
deriving DecidableEq

namespace Numeral

def valueOf (ds : List Nat) : Nat :=
  ds.foldl (fun n d => 10 * n + d) 0

def integer? (n : Numeral) : Option Int :=
  let whole : Int := valueOf n.whole
  if !n.fraction.isEmpty || n.exponent.isSome || (n.negative && whole == 0) then none
  else some (if n.negative then -whole else whole)

def digitsText (ds : List Nat) : String :=
  String.ofList (ds.map Nat.digitChar)

def text (n : Numeral) : String :=
  (if n.negative then "-" else "") ++ digitsText n.whole
    ++ (if n.fraction.isEmpty then "" else "." ++ digitsText n.fraction)
    ++ match n.exponent with
      | none => ""
      | some e => (if e.negative then "e-" else "e") ++ digitsText e.digits

def accumulate (n : Nat) : List Nat → Nat × List Nat
  | [] => (n, [])
  | d :: ds => if 10 * n + d < UInt64.size then accumulate (10 * n + d) ds else (n, d :: ds)

/--
The digits that count, as one number, and the power of ten that they are to be multiplied with by the
position of the point. Digits before the point that do not count still move the point.
-/
def significand (n : Numeral) : Nat × Int :=
  let (whole, uncounted) := accumulate 0 n.whole
  let (value, ignored) := accumulate whole n.fraction
  (value, (uncounted.length : Int) - (n.fraction.length - ignored.length : Nat))

/--
The nearest number with 53 significant binary digits; of two at the same distance, the even one.
-/
def roundToDouble (n : Nat) : Nat :=
  if n < 1 <<< 53 then n
  else
    let unit := 1 <<< (n.log2 - 52)
    let (q, r) := (n / unit, n % unit)
    if unit < 2 * r ∨ (2 * r = unit ∧ q % 2 = 1) then (q + 1) * unit else q * unit

/--
Whether a number times a power of ten is too large for a double. The power is rounded before the product
is.
-/
def overflowsDouble (n : Nat) (power : Int) : Bool :=
  n != 0 && 0 ≤ power
    && (308 < power || (1 <<< 1024) - (1 <<< 970) ≤ roundToDouble n * roundToDouble (Nat.pow 10 power.toNat))

def exponentValue (n : Nat) : List Nat → Except (List Nat) Nat
  | [] => .ok n
  | d :: ds => if 10 * n + d < 1 <<< 31 then exponentValue (10 * n + d) ds else .error ds

/--
How the reading of a number ends. It fails if the number is too large; if it is the exponent that is too
large, this is noticed at once.
-/
def ending (n : Numeral) : Ending :=
  let (value, point) := n.significand
  let fits (power : Int) : Ending := if overflowsDouble value power then .failedAtEnd else .complete
  match n.exponent with
  | none => fits point
  | some e =>
    match exponentValue 0 e.digits with
    | .ok power => fits (if e.negative then point - power else point + power)
    | .error rest =>
      if value == 0 || e.negative then .complete
      else if rest.isEmpty then .failedAtEnd
      else .failedInside

end Numeral

end TenantAuth.Json
