import TenantAuth.Json.Numeral
import TenantAuth.Text.Hexadecimal

/-!
This module contains JSON values as they are written and their reading from bytes. The grammar is the
strict one: no byte order mark, no comment, no trailing comma, no leading zero, and nothing but white
space around the value. What strings and numbers stand for is not looked at, so a string need not be
UTF-8 and a number may be of any size.
-/

namespace TenantAuth.Json

/--
A part of a string: a byte, which a simple escape may stand for, or a unit of UTF-16 that is escaped by
its number.
-/
inductive StringPart where
  | byte (b : UInt8)
  | unit (n : Nat)
deriving DecidableEq

inductive Written where
  | null
  | bool (b : Bool)
  | number (n : Numeral)
  | string (parts : List StringPart)
  | array (elements : List Written)
  | object (members : List (List StringPart × Written))
deriving Inhabited

namespace Parser

def isSpace (b : UInt8) : Bool :=
  b == ' '.toUInt8 || b == '\t'.toUInt8 || b == '\n'.toUInt8 || b == '\r'.toUInt8

def skipSpace (bs : List UInt8) : List UInt8 :=
  bs.dropWhile isSpace

def isDigit (b : UInt8) : Bool :=
  '0'.toUInt8 ≤ b && b ≤ '9'.toUInt8

def digits (bs : List UInt8) : List Nat × List UInt8 :=
  let (ds, rest) := bs.span isDigit
  (ds.map fun d => (d - '0'.toUInt8).toNat, rest)

def fraction? : List UInt8 → Option (List Nat × List UInt8)
  | [] => some ([], [])
  | b :: bs =>
    if b = '.'.toUInt8 then
      let (ds, rest) := digits bs
      if ds.isEmpty then none else some (ds, rest)
    else
      some ([], b :: bs)

def exponentDigits? : List UInt8 → Option (Exponent × List UInt8)
  | [] => none
  | b :: bs =>
    let isSign := b == '+'.toUInt8 || b == '-'.toUInt8
    let (ds, rest) := digits (if isSign then bs else b :: bs)
    if ds.isEmpty then none else some ({ negative := b == '-'.toUInt8, digits := ds }, rest)

def exponent? : List UInt8 → Option (Option Exponent × List UInt8)
  | [] => some (none, [])
  | b :: bs =>
    if b = 'e'.toUInt8 ∨ b = 'E'.toUInt8 then
      (exponentDigits? bs).map fun (e, rest) => (some e, rest)
    else
      some (none, b :: bs)

def unsigned? (negative : Bool) (bs : List UInt8) : Option (Written × List UInt8) := do
  let (whole, rest) := digits bs
  if whole.isEmpty || (whole.head? == some 0 && whole.length > 1) then none
  let (fraction, rest) ← fraction? rest
  let (exponent, rest) ← exponent? rest
  return (.number { negative, whole, fraction, exponent }, rest)

def number? : List UInt8 → Option (Written × List UInt8)
  | [] => none
  | b :: bs => if b = '-'.toUInt8 then unsigned? true bs else unsigned? false (b :: bs)

def simpleEscape? (b : UInt8) : Option UInt8 :=
  if b = '"'.toUInt8 ∨ b = '\\'.toUInt8 ∨ b = '/'.toUInt8 then some b
  else if b = 'b'.toUInt8 then some 0x08
  else if b = 'f'.toUInt8 then some 0x0c
  else if b = 'n'.toUInt8 then some 0x0a
  else if b = 'r'.toUInt8 then some 0x0d
  else if b = 't'.toUInt8 then some 0x09
  else none

def unit? (a b c d : UInt8) : Option Nat := do
  let a ← Text.hexDigit? a
  let b ← Text.hexDigit? b
  let c ← Text.hexDigit? c
  let d ← Text.hexDigit? d
  return ((a * 16 + b) * 16 + c) * 16 + d

def string? (parts : List StringPart) : List UInt8 → Option (List StringPart × List UInt8)
  | [] => none
  | b :: bs =>
    if b = '"'.toUInt8 then
      some (parts.reverse, bs)
    else if b = '\\'.toUInt8 then
      match bs with
      | [] => none
      | e :: bs =>
        if e = 'u'.toUInt8 then
          match bs with
          | a :: b :: c :: d :: bs =>
            match unit? a b c d with
            | some n => string? (.unit n :: parts) bs
            | none => none
          | _ => none
        else
          match simpleEscape? e with
          | some c => string? (.byte c :: parts) bs
          | none => none
    else if b < 0x20 then
      none
    else
      string? (.byte b :: parts) bs

def keyword? (word : String) (value : Written) (bs : List UInt8) : Option (Written × List UInt8) :=
  let word := word.toUTF8.data.toList
  if word.isPrefixOf bs then some (value, bs.drop word.length) else none

def after? (b : UInt8) (bs : List UInt8) : Option (List UInt8) :=
  match skipSpace bs with
  | [] => none
  | c :: rest => if c = b then some rest else none

mutual

def value? : Nat → List UInt8 → Option (Written × List UInt8)
  | 0, _ => none
  | fuel + 1, bs =>
    match skipSpace bs with
    | [] => none
    | b :: bs =>
      if b = '{'.toUInt8 then
        match after? '}'.toUInt8 bs with
        | some rest => some (.object [], rest)
        | none => (members? fuel bs).map fun (ms, rest) => (.object ms, rest)
      else if b = '['.toUInt8 then
        match after? ']'.toUInt8 bs with
        | some rest => some (.array [], rest)
        | none => (elements? fuel bs).map fun (es, rest) => (.array es, rest)
      else if b = '"'.toUInt8 then
        (string? [] bs).map fun (parts, rest) => (.string parts, rest)
      else if b = 't'.toUInt8 then keyword? "rue" (.bool true) bs
      else if b = 'f'.toUInt8 then keyword? "alse" (.bool false) bs
      else if b = 'n'.toUInt8 then keyword? "ull" .null bs
      else number? (b :: bs)

def elements? : Nat → List UInt8 → Option (List Written × List UInt8)
  | 0, _ => none
  | fuel + 1, bs => do
    let (v, rest) ← value? fuel bs
    match after? ','.toUInt8 rest with
    | some rest => (elements? fuel rest).map fun (vs, rest) => (v :: vs, rest)
    | none => (after? ']'.toUInt8 rest).map fun rest => ([v], rest)

def members? : Nat → List UInt8 → Option (List (List StringPart × Written) × List UInt8)
  | 0, _ => none
  | fuel + 1, bs => do
    let (name, rest) ← string? [] (← after? '"'.toUInt8 bs)
    let (v, rest) ← value? fuel (← after? ':'.toUInt8 rest)
    match after? ','.toUInt8 rest with
    | some rest => (members? fuel rest).map fun (ms, rest) => ((name, v) :: ms, rest)
    | none => (after? '}'.toUInt8 rest).map fun rest => ([(name, v)], rest)

end

end Parser

/--
Reads a JSON text. Every step of the reader spends a byte or descends into a value that starts at the
next one, so twice the length of the text is enough fuel.
-/
def Written.parse? (bs : List UInt8) : Option Written := do
  let (v, rest) ← Parser.value? (2 * bs.length + 2) bs
  if (Parser.skipSpace rest).isEmpty then some v else none

end TenantAuth.Json
