import TenantAuth.Endpoint.Error
import TenantAuth.Json.Record
import TenantAuth.Text.Blank
import TenantAuth.Text.Split

/-!
This module contains path patterns such as `/users/{id}` and `/files/**`, the paths they match and the
order in which patterns are preferred.
-/

namespace TenantAuth

/--
A segment of a pattern: a text that matches itself, one that matches any segment, or an open end that
matches all that remains.
-/
inductive Segment where
  | literal (text : String)
  | single
  | rest
deriving DecidableEq, Repr

def pathSegments (path : String) : List String :=
  (Text.split '/' path).filter fun s => !s.isEmpty

namespace Segment

def ofText (text : String) : Segment :=
  if text = "*" then single
  else if 2 < text.utf8ByteSize && text.toList.head? == some '\x7b' && text.toList.getLast? == some '\x7d' then
    single
  else
    literal text

/--
Reads the segments of a pattern. Two stars are an open end, which only the last segment can be.
-/
def ofTexts? : List String → Option (List Segment)
  | [] => some []
  | t :: ts =>
    if t = "**" then
      if ts.isEmpty then some [rest] else none
    else
      (ofTexts? ts).map (ofText t :: ·)

def matchAll : List Segment → List String → Bool
  | [], path => path.isEmpty
  | rest :: _, _ => true
  | single :: _, [] => false
  | single :: segments, _ :: path => matchAll segments path
  | literal _ :: _, [] => false
  | literal text :: segments, p :: path => text == p && matchAll segments path

def isLiteral : Segment → Bool
  | literal _ => true
  | _ => false

end Segment

/--
A pattern is preferred to another for more literal segments, then for having no open end, then for
more segments.
-/
structure Specificity where
  literals : Nat
  bounded : Bool
  length : Nat
deriving DecidableEq, Repr

namespace Specificity

def lt (a b : Specificity) : Bool :=
  a.literals < b.literals
    || a.literals == b.literals &&
      (!a.bounded && b.bounded || a.bounded == b.bounded && a.length < b.length)

instance : LT Specificity := ⟨fun a b => lt a b = true⟩

instance (a b : Specificity) : Decidable (a < b) := inferInstanceAs (Decidable (lt a b = true))

end Specificity

namespace Pattern

def compile (text : String) : Except EndpointError (List Segment) :=
  if text = "" then .error .blankPattern
  else if text.toList.head? ≠ some '/' then .error (.missingLeadingSlash text)
  else if EndpointError.maxPatternLength < text.length then .error (.patternTooLong text.length)
  else
    match Segment.ofTexts? (pathSegments text) with
    | some segments => .ok segments
    | none => .error (.misplacedDoubleWildcard text)

end Pattern

structure Pattern where
  text : String
  segments : List Segment
  trim_text : Text.trim text = text
  compile_text : Pattern.compile text = .ok segments

namespace Pattern

theorem text_inj {a b : Pattern} (h : a.text = b.text) : a = b := by
  have hsegments : a.segments = b.segments := by
    apply Except.ok.inj
    rw [← a.compile_text, ← b.compile_text, h]
  cases a
  cases b
  cases h
  cases hsegments
  rfl

instance : DecidableEq Pattern :=
  fun a b => decidable_of_iff (a.text = b.text) ⟨text_inj, congrArg text⟩

def parse (raw : String) : Except EndpointError Pattern :=
  match h : compile (Text.trim raw) with
  | .ok segments => .ok ⟨Text.trim raw, segments, Text.trim_trim raw, h⟩
  | .error e => .error e

def isMatch (p : Pattern) (path : String) : Bool :=
  path.toList.head? == some '/' && Segment.matchAll p.segments (pathSegments path)

def specificity (p : Pattern) : Specificity where
  literals := (p.segments.filter Segment.isLiteral).length
  bounded := p.segments.getLast? != some .rest
  length := p.segments.length

def ofJson (j : Json) : Except (DecodeError EndpointError) Pattern := do
  let raw ← DecodeError.ofShape j.text?
  DecodeError.ofRule (parse raw)

def toJson (p : Pattern) : Json :=
  .string p.text

theorem parse_eq_ok_iff {raw : String} {p : Pattern} : parse raw = .ok p ↔ p.text = Text.trim raw := by
  unfold parse
  split
  . next segments h =>
    rw [Except.ok.injEq]
    constructor
    . intro heq
      rw [← heq]
    . intro htext
      exact (text_inj htext).symm
  . next e h =>
    constructor
    . intro heq
      cases heq
    . intro htext
      rw [← htext, p.compile_text] at h
      cases h

@[simp]
theorem parse_text (p : Pattern) : parse p.text = .ok p :=
  parse_eq_ok_iff.2 p.trim_text.symm

end Pattern

end TenantAuth
