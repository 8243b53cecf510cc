import TenantAuth.Table
import TenantAuth.Instant
import TenantAuth.Text.Blank

/-!
This module contains the list of revoked tokens.
-/

namespace TenantAuth

/--
The tokens that are revoked, by their ids, each with the time at which it expires by itself.
-/
structure RevocationList where
  table : Table Instant := .empty

namespace RevocationList

def empty : RevocationList := {}

instance : Inhabited RevocationList := ⟨empty⟩

def revoke (l : RevocationList) (id : String) (expiresAt : Instant) : RevocationList :=
  match Text.normalize? id with
  | some id => ⟨l.table.insert id expiresAt⟩
  | none => l

def purge (l : RevocationList) (now : Instant) : Nat × RevocationList :=
  let table := l.table.filter fun expiresAt => now < expiresAt
  (l.table.size - table.size, ⟨table⟩)

/--
Whether the token with just this id is revoked and has not expired.
-/
def isRevoked (l : RevocationList) (now : Instant) (id : String) : Bool :=
  (l.table.get? id).any fun expiresAt => now < expiresAt

def size (l : RevocationList) : Nat :=
  l.table.size

def isEmpty (l : RevocationList) : Bool :=
  l.size == 0

end RevocationList

end TenantAuth
