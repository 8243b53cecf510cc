import TenantAuth.Identity

/-!
This module contains the claims of a token, as they are written in it and as they are understood.
-/

namespace TenantAuth

/--
The claims written in a token. Times are seconds since the start of 1970.
-/
structure TokenClaims where
  sub : String
  iss : String
  exp : UInt64
  iat : Option UInt64 := none
  jti : Option String := none
  tid : Option String := none
  oid : Option String := none
  roles : Option (List String) := none
  permissions : Option (List String) := none
deriving DecidableEq

namespace TokenClaims

structure Draft where
  sub : Option String := none
  iss : Option String := none
  exp : Option UInt64 := none
  iat : Option UInt64 := none
  jti : Option String := none
  tid : Option String := none
  oid : Option String := none
  roles : Option (List String) := none
  permissions : Option (List String) := none

def Draft.read (d : Draft) (name : String) (j : Json) : Except (DecodeError Empty) Draft :=
  match name with
  | "sub" => do return { d with sub := some (← DecodeError.ofShape j.text?) }
  | "iss" => do return { d with iss := some (← DecodeError.ofShape j.text?) }
  | "exp" => do return { d with exp := some (← DecodeError.ofShape j.word?) }
  | "iat" => do return { d with iat := ← DecodeError.ofShape (j.optional? Json.word?) }
  | "jti" => do return { d with jti := ← DecodeError.ofShape (j.optional? Json.text?) }
  | "tid" => do return { d with tid := ← DecodeError.ofShape (j.optional? Json.text?) }
  | "oid" => do return { d with oid := ← DecodeError.ofShape (j.optional? Json.text?) }
  | "roles" => do return { d with roles := ← DecodeError.ofShape (j.optional? Json.texts?) }
  | "permissions" => do return { d with permissions := ← DecodeError.ofShape (j.optional? Json.texts?) }
  | _ => .ok d

def Draft.finish (d : Draft) : Except (DecodeError Empty) TokenClaims :=
  match d.sub, d.iss, d.exp with
  | some sub, some iss, some exp =>
    .ok { sub, iss, exp, iat := d.iat, jti := d.jti, tid := d.tid, oid := d.oid, roles := d.roles,
          permissions := d.permissions }
  | _, _, _ => .error .shape

def names : List String :=
  ["sub", "iss", "exp", "iat", "jti", "tid", "oid", "roles", "permissions"]

def ofJson (j : Json) : Except (DecodeError Empty) TokenClaims := do
  let record ← DecodeError.ofShape (j.record? names)
  (← record.read Draft.read {}).finish

def toJson (c : TokenClaims) : Json :=
  .object <|
    [("sub", .string c.sub), ("iss", .string c.iss), ("exp", Json.ofWord c.exp)]
      ++ optional "iat" (c.iat.map Json.ofWord)
      ++ optional "jti" (c.jti.map .string)
      ++ optional "tid" (c.tid.map .string)
      ++ optional "oid" (c.oid.map .string)
      ++ optional "roles" (c.roles.map Json.ofTexts)
      ++ optional "permissions" (c.permissions.map Json.ofTexts)
where
  optional (name : String) (j : Option Json) : List (String × Json) :=
    j.toList.map fun j => (name, j)

end TokenClaims

structure ClaimSet where
  tokenId : Option String
  userId : UserId
  tenantId : Option TenantId
  organizationId : Option OrganizationId
  roles : SortedSet Role
  permissions : SortedSet Permission
deriving DecidableEq

namespace ClaimSet

/--
Understands the claims of a token. The subject must be an identifier; blank identifiers and names count
as absent, except that the token's own id is kept as it is written.
-/
def ofClaims? (c : TokenClaims) : Option ClaimSet := do
  let userId ← (Identifier.ofText c.sub).toOption
  return {
    tokenId := c.jti.filter fun j => !Text.blank j
    userId
    tenantId := Identifier.ofText? c.tid
    organizationId := Identifier.ofText? c.oid
    roles := .ofList ((c.roles.getD []).filterMap Role.parse?)
    permissions := .ofList ((c.permissions.getD []).filterMap Permission.parse?)
  }

def toIdentity (c : ClaimSet) : Identity where
  userId := some c.userId
  tenantId := c.tenantId
  organizationId := c.organizationId
  roles := c.roles
  permissions := c.permissions

def toJson (c : ClaimSet) : Json :=
  .object [
    ("token_id", Json.ofText? c.tokenId),
    ("user_id", c.userId.toJson),
    ("tenant_id", Identifier.toJson? c.tenantId),
    ("organization_id", Identifier.toJson? c.organizationId),
    ("roles", Json.ofTexts c.roles.texts),
    ("permissions", Json.ofTexts c.permissions.texts),
    ("identity", c.toIdentity.toJson)
  ]

end ClaimSet

end TenantAuth
