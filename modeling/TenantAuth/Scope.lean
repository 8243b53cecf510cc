import TenantAuth.Identity

/-!
This module contains the breadth of data that an identity may reach, as its roles decide it.
-/

namespace TenantAuth

inductive Scope where
  | organization
  | tenant
  | global
deriving DecidableEq, Repr

namespace Scope

def rank : Scope → Nat
  | organization => 0
  | tenant => 1
  | global => 2

instance : LE Scope := ⟨fun a b => a.rank ≤ b.rank⟩

instance (a b : Scope) : Decidable (a ≤ b) := inferInstanceAs (Decidable (a.rank ≤ b.rank))

instance : Max Scope := ⟨fun a b => if a ≤ b then b else a⟩

def name : Scope → String
  | organization => "ORGANIZATION"
  | tenant => "TENANT"
  | global => "GLOBAL"

def ofName? (name : String) : Option Scope :=
  [organization, tenant, global].find? fun s => s.name == name

def ofRole (r : Role) : Scope :=
  if r = Role.superAdmin then global
  else if r = Role.tenantAdmin then tenant
  else organization

def ofRoles (roles : List Role) : Scope :=
  roles.foldl (fun s r => max s (ofRole r)) organization

def includes (s required : Scope) : Bool :=
  required ≤ s

end Scope

def Identity.scope (i : Identity) : Scope :=
  Scope.ofRoles i.roles.toList

end TenantAuth
