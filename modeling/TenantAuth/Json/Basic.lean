/-!
This module contains the type of JSON values and the readings of a value as a text, a flag, a number
or a list of texts.
-/

namespace TenantAuth

/--
A JSON value. Integers are told apart from the other numbers, which keep the literal they were
written with.
-/
inductive Json where
  | null
  | bool (b : Bool)
  | int (n : Int)
  | real (literal : String)
  | string (s : String)
  | array (elements : List Json)
  | object (members : List (String × Json))
deriving BEq, Inhabited

namespace Json

def lookup (name : String) : List (String × Json) → Option Json
  | [] => none
  | (n, v) :: ms => if n = name then some v else lookup name ms

def get? (j : Json) (name : String) : Option Json :=
  match j with
  | .object ms => lookup name ms
  | _ => none

def text? : Json → Option String
  | .string s => some s
  | _ => none

def bool? : Json → Option Bool
  | .bool b => some b
  | _ => none

def word? : Json → Option UInt64
  | .int n => if 0 ≤ n ∧ n < 0x10000000000000000 then some n.toNat.toUInt64 else none
  | _ => none

def array? : Json → Option (List Json)
  | .array es => some es
  | _ => none

def texts? (j : Json) : Option (List String) :=
  j.array?.bind fun es => es.mapM text?

def optional? (read : Json → Option α) : Json → Option (Option α)
  | .null => some none
  | j => (read j).map some

/--
The name of a plain alternative. It is written as a string, or as an object whose only member has
that name and the value `null`.
-/
def alternative? : Json → Option String
  | .string s => some s
  | .object [(s, .null)] => some s
  | _ => none

/--
The name of a plain alternative inside a value that is read in two steps: its kind first and the rest
after that. There an empty object may stand in place of the `null`, too.
-/
def innerAlternative? : Json → Option String
  | .object [(s, .object [])] => some s
  | j => j.alternative?

def ofText? : Option String → Json
  | none => .null
  | some s => .string s

def ofTexts (l : List String) : Json :=
  .array (l.map .string)

def ofWord (n : UInt64) : Json :=
  .int n.toNat

@[simp]
theorem text?_string (s : String) : (Json.string s).text? = some s := rfl

@[simp]
theorem bool?_bool (b : Bool) : (Json.bool b).bool? = some b := rfl

@[simp]
theorem word?_ofWord (n : UInt64) : (ofWord n).word? = some n := by
  have h : n.toNat < 2 ^ 64 := n.toNat_lt
  simp only [ofWord, word?]
  rw [if_pos (by omega)]
  simp

@[simp]
theorem texts?_ofTexts (l : List String) : (ofTexts l).texts? = some l := by
  simp only [ofTexts, texts?, array?, Option.bind_some]
  induction l with
  | nil => rfl
  | cons s l ih => simp [List.mapM_cons, ih]

@[simp]
theorem optional?_text?_ofText? (s : Option String) : (ofText? s).optional? text? = some s := by
  cases s <;> rfl

end Json

end TenantAuth
