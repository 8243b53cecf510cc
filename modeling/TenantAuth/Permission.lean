import TenantAuth.Text.Blank
import TenantAuth.Text.Split
import TenantAuth.SortedSet

/-!
This module contains permissions and the relation that says which requests a permission covers.
-/

namespace TenantAuth

/--
A permission as it is granted to a principal. Its name has the form `resource:action` if it is to
cover more than itself.
-/
structure Permission where
  name : String
deriving DecidableEq, Repr

structure PermissionKey where
  resource : String
  action : String
deriving DecidableEq, Repr

namespace PermissionKey

def wildcard : String := "*"

def parse? (name : String) : Option PermissionKey :=
  match Text.cut? ':' name.toList with
  | none => none
  | some (resource, action) =>
    if resource.isEmpty || action.isEmpty || action.contains ':' then
      none
    else
      some ⟨String.ofList resource, String.ofList action⟩

def format (k : PermissionKey) : String :=
  k.resource ++ ":" ++ k.action

end PermissionKey

def segmentCovers (granted requested : String) : Bool :=
  granted == PermissionKey.wildcard || granted == requested

namespace Permission

instance : Named Permission := ⟨name, fun {a b} h => by cases a; cases b; congr⟩

def parse? (raw : String) : Option Permission :=
  (Text.normalize? raw).map Permission.mk

theorem parse?_normalize? (raw : String) : (Text.normalize? raw).bind parse? = parse? raw := by
  unfold parse?
  cases h : Text.normalize? raw with
  | none => rfl
  | some name =>
    have hagain : Text.normalize? name = some name := by
      rcases Text.normalize?_eq_some_iff.1 h with ⟨rfl, hne⟩
      exact Text.normalize?_eq_some_iff.2 ⟨Text.trim_trim raw, hne⟩
    rw [Option.bind_some, hagain]

def key? (p : Permission) : Option PermissionKey :=
  PermissionKey.parse? p.name

def isWildcard (p : Permission) : Bool :=
  p.key?.any fun k => k.resource == PermissionKey.wildcard || k.action == PermissionKey.wildcard

/--
Whether a granted permission covers the requested name. Every permission covers its own name; beyond
that both names have two segments, of which each covers its counterpart.
-/
def grants (p : Permission) (requested : String) : Bool :=
  p.name == requested ||
    match p.key?, PermissionKey.parse? requested with
    | some g, some r => segmentCovers g.resource r.resource && segmentCovers g.action r.action
    | _, _ => false

end Permission

end TenantAuth
