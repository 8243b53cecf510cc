import TenantAuth.Text.Blank
import TenantAuth.SortedSet

/-!
This module contains role names and their reading from untrusted lists.
-/

namespace TenantAuth

structure Role where
  name : String
deriving DecidableEq, Repr

namespace Role

instance : Named Role := ⟨name, fun {a b} h => by cases a; cases b; congr⟩

def superAdmin : Role := ⟨"SUPER_ADMIN"⟩

def tenantAdmin : Role := ⟨"TENANT_ADMIN"⟩

def orgAdmin : Role := ⟨"ORG_ADMIN"⟩

def user : Role := ⟨"USER"⟩

def reserved : List Role :=
  [superAdmin, tenantAdmin, orgAdmin, user]

def isReserved (r : Role) : Bool :=
  reserved.contains r

def gatewayMark : List Char :=
  "ROLE_".toList

def dropMark (cs : List Char) : List Char :=
  if gatewayMark.isPrefixOf cs then cs.drop gatewayMark.length else cs

/--
Reads a role from a list of untrusted names: trims it and drops the gateways' mark. What is left is
the name, if anything is left.
-/
def parse? (raw : String) : Option Role :=
  let name := dropMark (Text.trim raw).toList
  if name.isEmpty then none else some ⟨String.ofList name⟩

theorem parse?_normalize? (raw : String) : (Text.normalize? raw).bind parse? = parse? raw := by
  unfold parse?
  cases h : Text.normalize? raw with
  | none =>
    rw [Text.normalize?_eq_none_iff.1 h]
    rfl
  | some name =>
    rw [Option.bind_some, ← (Text.normalize?_eq_some_iff.1 h).1, Text.trim_trim]

end Role

end TenantAuth
