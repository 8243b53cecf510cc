import TenantAuth.Identity

/-!
This module contains the binding of the current identity. Every request scope has a slot of its own;
the slot of the innermost active scope is the one that is read and written.
-/

namespace TenantAuth

/--
The slots of the active scopes, the innermost first. A slot without an identity has been cleared.
-/
structure Bindings where
  slots : List (Option Identity) := []
deriving DecidableEq

inductive BindingError where
  | noRequestScope
deriving DecidableEq, Repr

def BindingError.message : BindingError → String
  | noRequestScope => "identity context must be bound inside an active request scope"

namespace Bindings

def outside : Bindings := {}

instance : Inhabited Bindings := ⟨outside⟩

def current (b : Bindings) : Identity :=
  match b.slots with
  | some i :: _ => i
  | _ => .anonymous

def set (b : Bindings) (i : Identity) : Except BindingError Bindings :=
  match b.slots with
  | [] => .error .noRequestScope
  | _ :: slots => .ok ⟨some i :: slots⟩

def clear (b : Bindings) : Bindings :=
  match b.slots with
  | [] => b
  | _ :: slots => ⟨none :: slots⟩

def push (b : Bindings) (slot : Option Identity) : Bindings :=
  ⟨slot :: b.slots⟩

def enter (b : Bindings) (i : Identity) : Bindings :=
  b.push (some i)

def leave (b : Bindings) : Bindings :=
  ⟨b.slots.tail⟩

def top? (b : Bindings) : Option (Option Identity) :=
  b.slots.head?

end Bindings

end TenantAuth
