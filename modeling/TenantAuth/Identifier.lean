import TenantAuth.Text.Blank
import TenantAuth.SortedSet
import TenantAuth.Json.Record

/-!
This module contains the identifiers of users, tenants, organizations and traces. An identifier is an
opaque text; the only rule is that it is trimmed and never empty.
-/

namespace TenantAuth

inductive IdentifierKind where
  | user
  | tenant
  | organization
  | trace
deriving DecidableEq

def IdentifierKind.title : IdentifierKind → String
  | user => "UserId"
  | tenant => "TenantId"
  | organization => "OrganizationId"
  | trace => "TraceId"

structure Identifier (kind : IdentifierKind) where
  text : String
  trim_text : Text.trim text = text
  text_ne : text ≠ ""
deriving DecidableEq

abbrev UserId := Identifier .user

abbrev TenantId := Identifier .tenant

abbrev OrganizationId := Identifier .organization

abbrev TraceId := Identifier .trace

inductive IdentifierError where
  | blank (kind : IdentifierKind)
deriving DecidableEq

def IdentifierError.message : IdentifierError → String
  | blank kind => "invalid identifier: " ++ kind.title ++ ": blank"

namespace Identifier

variable {kind : IdentifierKind}

theorem text_inj {a b : Identifier kind} (h : a.text = b.text) : a = b := by
  cases a; cases b; congr

instance : Named (Identifier kind) := ⟨text, text_inj⟩

def ofText (raw : String) : Except IdentifierError (Identifier kind) :=
  if h : Text.trim raw = "" then
    .error (.blank kind)
  else
    .ok ⟨Text.trim raw, Text.trim_trim raw, h⟩

def ofText? (raw : Option String) : Option (Identifier kind) :=
  raw.bind fun raw => (ofText raw).toOption

def ofJson (j : Json) : Except (DecodeError IdentifierError) (Identifier kind) := do
  let raw ← DecodeError.ofShape j.text?
  DecodeError.ofRule (ofText raw)

def toJson (i : Identifier kind) : Json :=
  .string i.text

def toJson? (i : Option (Identifier kind)) : Json :=
  Json.ofText? (i.map text)

theorem ofText_eq_ok_iff {raw : String} {i : Identifier kind} :
    ofText raw = .ok i ↔ Text.trim raw = i.text := by
  rw [ofText]
  split <;> rename_i h
  . simp only [reduceCtorEq, false_iff]
    intro h'
    exact i.text_ne (h'.symm.trans h)
  . simp only [Except.ok.injEq]
    constructor
    . rintro rfl
      rfl
    . intro h'
      exact text_inj h'

theorem ofText_eq_error_iff {raw : String} {e : IdentifierError} :
    (ofText raw : Except _ (Identifier kind)) = .error e ↔ Text.trim raw = "" ∧ e = .blank kind := by
  rw [ofText]
  split <;> rename_i h
  . simp [h, eq_comm]
  . simp [h]

@[simp]
theorem ofText_text (i : Identifier kind) : ofText i.text = .ok i :=
  ofText_eq_ok_iff.2 i.trim_text

theorem ofText?_eq_some_iff {raw : Option String} {i : Identifier kind} :
    ofText? raw = some i ↔ ∃ s, raw = some s ∧ Text.trim s = i.text := by
  cases raw with
  | none => simp [ofText?]
  | some s =>
    simp only [ofText?, Option.bind_some, Option.some.injEq, exists_eq_left']
    rw [← ofText_eq_ok_iff]
    cases ofText s <;> simp [Except.toOption]

end Identifier

def namedTarget? (raw : Option String) : Option String :=
  raw.bind Text.normalize?

theorem Identifier.map_text_ofText? {kind : IdentifierKind} (raw : Option String)
    : (ofText? raw : Option (Identifier kind)).map text = namedTarget? raw := by
  apply Option.ext
  intro s
  rw [Option.map_eq_some_iff, namedTarget?, Option.bind_eq_some_iff]
  constructor
  . rintro ⟨i, hi, rfl⟩
    rcases ofText?_eq_some_iff.1 hi with ⟨r, hr, htrim⟩
    exact ⟨r, hr, Text.normalize?_eq_some_iff.2 ⟨htrim, i.text_ne⟩⟩
  . rintro ⟨r, hr, hs⟩
    rcases Text.normalize?_eq_some_iff.1 hs with ⟨rfl, hne⟩
    exact ⟨⟨Text.trim r, Text.trim_trim r, hne⟩, ofText?_eq_some_iff.2 ⟨r, hr, rfl⟩, rfl⟩

end TenantAuth
