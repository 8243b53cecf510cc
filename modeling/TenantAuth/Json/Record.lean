import TenantAuth.Json.Basic

/-!
This module contains the reading of records. A record is written as an object, or as an array that
lists its fields in order.
-/

namespace TenantAuth

/--
Why a value could not be read: it does not have the shape of the type, or it breaks a rule of it.
-/
inductive DecodeError (ε : Type) where
  | shape
  | rule (e : ε)
deriving DecidableEq

namespace DecodeError

def ofShape (a : Option α) : Except (DecodeError ε) α :=
  match a with
  | some a => .ok a
  | none => .error .shape

def ofRule (a : Except ε α) : Except (DecodeError ε) α :=
  a.mapError .rule

end DecodeError

namespace Json

/--
The fields of a record, named, in the order in which they are read. An array with more elements than
there are fields leaves a `surplus`.
-/
structure Record where
  members : List (String × Json)
  surplus : Bool := false

/--
The members of a record with the fields `names`. An object has each of them once at most; its other
members are left to the reader, which ignores them.
-/
def record? (names : List String) : Json → Option Record
  | .object ms =>
    if names.all fun n => (ms.filter fun m => m.1 == n).length ≤ 1 then some { members := ms } else none
  | .array es => some { members := names.zip es, surplus := names.length < es.length }
  | _ => none

def Record.read (r : Record) (step : σ → String → Json → Except (DecodeError ε) σ) (start : σ) :
    Except (DecodeError ε) σ := do
  let s ← r.members.foldlM (fun s m => step s m.1 m.2) start
  if r.surplus then throw .shape
  return s

end Json

end TenantAuth
