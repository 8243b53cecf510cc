import TenantAuth.Json.Basic
import TenantAuth.Json.Written

/-!
This module contains what written JSON values stand for. A value that is not looked for is only skipped,
so it may hold strings that denote no text and numbers that are too large.
-/

namespace TenantAuth.Json

/--
Why a string denotes no text: a surrogate is not part of a pair, which may be noticed at the closing
quote if the pair is still open there, or the bytes are not UTF-8.
-/
inductive StringFault where
  | surrogate
  | openPair
  | encoding
deriving DecidableEq, Repr

def StringFault.ending : StringFault → Ending
  | surrogate => .failedInside
  | openPair => .failedAtEnd
  | encoding => .failedAtEnd

namespace StringPart

def isHighSurrogate (n : Nat) : Bool :=
  0xd800 ≤ n && n < 0xdc00

def isLowSurrogate (n : Nat) : Bool :=
  0xdc00 ≤ n && n < 0xe000

def encode (n : Nat) : List UInt8 :=
  (String.singleton (Char.ofNat n)).toUTF8.data.toList

def bytes : List StringPart → Except StringFault (List UInt8)
  | [] => .ok []
  | .byte b :: ps => (bytes ps).map (b :: ·)
  | .unit n :: ps =>
    if isLowSurrogate n then .error .surrogate
    else if isHighSurrogate n then
      match ps with
      | [] => .error .openPair
      | .unit m :: ps =>
        if isLowSurrogate m then
          (bytes ps).map (encode (0x10000 + (n - 0xd800) * 0x400 + (m - 0xdc00)) ++ ·)
        else
          .error .surrogate
      | .byte _ :: _ => .error .surrogate
    else (bytes ps).map (encode n ++ ·)

def text (ps : List StringPart) : Except StringFault String := do
  match String.fromUTF8? ⟨(← bytes ps).toArray⟩ with
  | some s => .ok s
  | none => .error .encoding

def text? (ps : List StringPart) : Option String :=
  (text ps).toOption

end StringPart

namespace Numeral

def value? (n : Numeral) : Option Json :=
  if n.ending = .complete then some (n.integer?.elim (.real n.text) .int) else none

end Numeral

namespace Written

mutual

/--
How the reading of a value with at most `levels` levels of arrays and objects ends. When a part of a value
cannot be read, the brackets that close right there are still passed.
-/
def ending (levels : Nat) : Written → Ending
  | .null => .complete
  | .bool _ => .complete
  | .number n => n.ending
  | .string ps =>
    match StringPart.text ps with
    | .ok _ => .complete
    | .error fault => fault.ending
  | .array es =>
    match levels with
    | 0 => .failedInside
    | levels + 1 => elementsEnding levels es
  | .object ms =>
    match levels with
    | 0 => .failedInside
    | levels + 1 => membersEnding levels ms

def elementsEnding (levels : Nat) : List Written → Ending
  | [] => .complete
  | e :: es =>
    match ending levels e with
    | .complete => elementsEnding levels es
    | .failedAtEnd => if es.isEmpty then .failedAtEnd else .failedInside
    | .failedInside => .failedInside

def membersEnding (levels : Nat) : List (List StringPart × Written) → Ending
  | [] => .complete
  | (name, v) :: ms =>
    if (StringPart.text? name).isNone then .failedInside
    else
      match ending levels v with
      | .complete => membersEnding levels ms
      | .failedAtEnd => if ms.isEmpty then .failedAtEnd else .failedInside
      | .failedInside => .failedInside

end

mutual

def toJson? : Written → Option Json
  | .null => some .null
  | .bool b => some (.bool b)
  | .number n => n.value?
  | .string ps => (StringPart.text? ps).map .string
  | .array es => (elementsToJson? es).map .array
  | .object ms => (membersToJson? ms).map .object

def elementsToJson? : List Written → Option (List Json)
  | [] => some []
  | e :: es =>
    match toJson? e, elementsToJson? es with
    | some j, some js => some (j :: js)
    | _, _ => none

def membersToJson? : List (List StringPart × Written) → Option (List (String × Json))
  | [] => some []
  | (name, v) :: ms =>
    match StringPart.text? name, toJson? v, membersToJson? ms with
    | some name, some j, some js => some ((name, j) :: js)
    | _, _, _ => none

end

def levels : Nat := 126

def value? (w : Written) : Option Json :=
  if w.ending levels = .complete then w.toJson? else none

def named? (ms : List (List StringPart × Written)) : Option (List (String × Written)) :=
  ms.mapM fun (name, v) => (StringPart.text? name).map fun name => (name, v)

def record? (names : List String) : Written → Option Json
  | .object ms => do
    let known := (← named? ms).filter fun m => names.contains m.1
    let members ← known.mapM fun (name, v) => (value? v).map fun j => (name, j)
    return .object members
  | .array es => (es.mapM value?).map .array
  | _ => none

end Written

def parse? (s : String) : Option Json :=
  (Written.parse? s.toUTF8.data.toList).bind Written.toJson?

end TenantAuth.Json
