import TenantAuth.Json.Record
import TenantAuth.Text.Decimal

/-!
This module contains the positions that messages about the reading of JSON end in. The end of a message
that looks like a position is taken for one, even if it comes from a text that the message quotes.
-/

namespace TenantAuth

namespace Json

/--
A place in a JSON text. Lines are counted from one; line zero stands for no place at all.
-/
structure Position where
  line : Nat
  column : Nat
deriving DecidableEq, Repr

namespace Position

def lineMark : List Char :=
  " at line ".toList

def columnMark : List Char :=
  " column ".toList

def cutAtLine? : List Char → Option (List Char × List Char)
  | [] => none
  | c :: cs =>
    match cutAtLine? cs with
    | some (l, r) => some (c :: l, r)
    | none => if lineMark.isPrefixOf (c :: cs) then some ([], (c :: cs).drop lineMark.length) else none

def number? (digits : List Char) : Option Nat :=
  if digits.isEmpty || UInt64.size ≤ Text.decimalValue digits then none else some (Text.decimalValue digits)

def ofEnd? (cs : List Char) : Option Position := do
  let (line, rest) := cs.span Char.isDigit
  if !columnMark.isPrefixOf rest then none
  let column := rest.drop columnMark.length
  if !column.all Char.isDigit then none
  return ⟨← number? line, ← number? column⟩

def text (p : Position) : String :=
  if p.line = 0 then "" else " at line " ++ toString p.line ++ " column " ++ toString p.column

end Position

def located (message : String) : String :=
  match Position.cutAtLine? message.toList with
  | none => message
  | some (text, rest) =>
    match Position.ofEnd? rest with
    | none => message
    | some p => String.ofList text ++ p.text

end Json

def DecodeError.message? (message : ε → String) : DecodeError ε → Option String
  | shape => none
  | rule e => some (Json.located (message e))

end TenantAuth
