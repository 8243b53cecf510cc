import TenantAuth.Endpoint.Listing

/-!
This module contains the reading of published policies. The main statement is that a list is read from its
JSON as it was published (`EndpointListing.ofJson_toJson`).
-/

namespace TenantAuth

namespace DecodeError

variable {ε α : Type}

@[simp]
theorem ofShape_some (a : α) : (ofShape (some a) : Except (DecodeError ε) α) = .ok a := rfl

@[simp]
theorem ofRule_ok (a : α) : ofRule (.ok a : Except ε α) = .ok a := rfl

end DecodeError

theorem Except.ok_bind {ε α β : Type} (a : α) (f : α → Except ε β) : (Except.ok a >>= f) = f a := rfl

@[simp]
theorem Method.ofJson?_toJson (m : Method) : ofJson? m.toJson = some m := by
  rw [ofJson?, toJson, Json.alternative?, Option.bind_some, ofName?_name]

@[simp]
theorem Pattern.ofJson_toJson (p : Pattern) : ofJson p.toJson = .ok p := by
  rw [ofJson, toJson, Json.text?_string, DecodeError.ofShape_some, Except.ok_bind, parse_text,
    DecodeError.ofRule_ok]

namespace SortedSet

variable {α : Type} [Named α]

theorem ofList_map_texts {mk : String → α} (hmk : ∀ a : α, mk (Named.text a) = a) (s : SortedSet α)
    : ofList (s.texts.map mk) = s := by
  have htexts : s.texts.map mk = s.toList := by
    rw [texts, List.map_map]
    exact (List.map_congr_left fun a _ => hmk a).trans (List.map_id _)
  rw [htexts, ofList_toList]

end SortedSet

namespace EndpointPolicy

theorem ofJson_toJson (p : EndpointPolicy) : ofJson p.toJson = .ok p := by
  have hroles : SortedSet.ofList (p.requiredRoles.texts.map Role.mk) = p.requiredRoles :=
    SortedSet.ofList_map_texts (fun _ => rfl) _
  have hpermissions : SortedSet.ofList (p.requiredPermissions.texts.map Permission.mk) = p.requiredPermissions :=
    SortedSet.ofList_map_texts (fun _ => rfl) _
  have hrecord : p.toJson.record? ["method", "pathPattern", "serviceName", "requiredRoles",
      "requiredPermissions", "isPublic", "requireMfa"] = some { members := [
        ("method", p.method.toJson), ("pathPattern", p.pattern.toJson),
        ("serviceName", .string p.service.text), ("requiredRoles", Json.ofTexts p.requiredRoles.texts),
        ("requiredPermissions", Json.ofTexts p.requiredPermissions.texts), ("isPublic", .bool p.isPublic),
        ("requireMfa", .bool p.requireMfa)] } := rfl
  rw [ofJson, hrecord, DecodeError.ofShape_some, Except.ok_bind]
  simp only [Json.Record.read, List.foldlM_cons, List.foldlM_nil, Draft.read, Method.ofJson?_toJson,
    Pattern.ofJson_toJson, Json.text?_string, Json.texts?_ofTexts, Json.bool?_bool, DecodeError.ofShape_some,
    DecodeError.ofRule_ok, ServiceName.parse_text, Except.ok_bind, pure_bind, Bool.false_eq_true, if_false,
    Draft.finish, hroles, hpermissions]

theorem mapM_ofJson (ps : List EndpointPolicy) : (ps.map toJson).mapM ofJson = .ok ps := by
  induction ps with
  | nil => rfl
  | cons p ps ih =>
    rw [List.map_cons, List.mapM_cons, ofJson_toJson, ih]
    rfl

theorem ofJsonMany_map_toJson (ps : List EndpointPolicy) : ofJsonMany (.array (ps.map toJson)) = .ok ps :=
  mapM_ofJson ps

end EndpointPolicy

namespace EndpointListing

theorem ofJson_toJson (l : EndpointListing) : ofJson l.toJson = .ok l := by
  have hrecord : l.toJson.record? ["serviceName", "version", "endpoints"] = some { members := [
      ("serviceName", .string l.serviceName), ("version", .string l.version),
      ("endpoints", .array (l.endpoints.map EndpointPolicy.toJson))] } := rfl
  rw [ofJson, hrecord, DecodeError.ofShape_some, Except.ok_bind]
  simp only [Json.Record.read, List.foldlM_cons, List.foldlM_nil, Draft.read, Json.text?_string,
    DecodeError.ofShape_some, EndpointPolicy.ofJsonMany_map_toJson, Except.ok_bind, pure_bind,
    Bool.false_eq_true, if_false, Draft.finish]

end EndpointListing

end TenantAuth
