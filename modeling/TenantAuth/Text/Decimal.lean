/-!
This module contains the reading of decimal digits.
-/

namespace TenantAuth.Text

def digitValue (d : Char) : Nat :=
  d.toNat - '0'.toNat

def decimalValue (ds : List Char) : Nat :=
  ds.foldl (fun n d => 10 * n + digitValue d) 0

def unsignedDecimal? (cs : List Char) : Option Nat :=
  let digits := match cs with
    | '+' :: cs => cs
    | cs => cs
  if digits.isEmpty || !digits.all Char.isDigit then none else some (decimalValue digits)

end TenantAuth.Text
