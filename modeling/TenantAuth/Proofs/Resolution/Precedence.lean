import TenantAuth.Http.Resolution

/-!
This module contains the theory of which headers decide an identity. The main statement is that the
first usable source wins and that no header beyond the ones of this source has any influence.
-/

namespace TenantAuth

namespace Headers

def Presents (h : Headers) (name : String) : Prop :=
  ∃ s, h.text? name = some s ∧ Text.trim s ≠ ""

def HasItem (h : Headers) (name item : String) : Prop :=
  ∃ s, h.text? name = some s ∧ item ∈ Text.split ',' s

def AgreeOn (names : List String) (a b : Headers) : Prop :=
  ∀ name ∈ names, a.text? name = b.text? name

variable {a b h : Headers} {name : String}

theorem present?_eq_some_iff {s : String}
    : h.present? name = some s ↔ h.text? name = some s ∧ Text.trim s ≠ "" := by
  rw [present?, Option.filter_eq_some_iff, Bool.not_eq_true', ← Bool.not_eq_true, Text.blank_iff]

theorem presents_iff_present? : h.Presents name ↔ (h.present? name).isSome := by
  rw [Option.isSome_iff_exists]
  constructor
  . intro hpresents
    rcases hpresents with ⟨s, hs⟩
    exact ⟨s, present?_eq_some_iff.2 hs⟩
  . intro hsome
    rcases hsome with ⟨s, hs⟩
    exact ⟨s, present?_eq_some_iff.1 hs⟩

theorem presents_iff_identifier? (kind : IdentifierKind)
    : h.Presents name ↔ (h.identifier? name : Option (Identifier kind)).isSome := by
  rw [Option.isSome_iff_exists]
  constructor
  . intro hpresents
    rcases hpresents with ⟨s, hs, hne⟩
    exact ⟨⟨Text.trim s, Text.trim_trim s, hne⟩, Identifier.ofText?_eq_some_iff.2 ⟨s, hs, rfl⟩⟩
  . intro hsome
    rcases hsome with ⟨i, hi⟩
    rcases Identifier.ofText?_eq_some_iff.1 hi with ⟨s, hs, htrim⟩
    exact ⟨s, hs, htrim ▸ i.text_ne⟩

instance : Decidable (h.Presents name) :=
  decidable_of_iff _ presents_iff_present?.symm

instance {names : List String} : Decidable (AgreeOn names a b) :=
  inferInstanceAs (Decidable (∀ name ∈ names, a.text? name = b.text? name))

theorem identifier?_congr {kind : IdentifierKind} (heq : a.text? name = b.text? name)
    : (a.identifier? name : Option (Identifier kind)) = b.identifier? name := by
  rw [identifier?, identifier?, heq]

theorem items_congr (heq : a.text? name = b.text? name) : a.items name = b.items name := by
  rw [items, items, heq]

theorem mem_items_iff {item : String}
    : item ∈ h.items name ↔ ∃ raw, h.HasItem name raw ∧ Text.normalize? raw = some item := by
  unfold items HasItem
  cases h.text? name with
  | none => simp
  | some s => simp [List.mem_filterMap]

/--
White space around an item and items without a text do not matter to a reader that does not look at them.
-/
theorem mem_filterMap_items_iff {parse : String → Option α} {x : α}
    (hparse : ∀ raw, (Text.normalize? raw).bind parse = parse raw)
    : x ∈ (h.items name).filterMap parse ↔ ∃ item, h.HasItem name item ∧ parse item = some x := by
  rw [List.mem_filterMap]
  constructor
  . rintro ⟨item, hitem, hx⟩
    rcases mem_items_iff.1 hitem with ⟨raw, hraw, hnormal⟩
    refine ⟨raw, hraw, ?_⟩
    rw [← hparse, hnormal, Option.bind_some, hx]
  . rintro ⟨raw, hraw, hx⟩
    rw [← hparse] at hx
    rcases Option.bind_eq_some_iff.1 hx with ⟨item, hnormal, hitem⟩
    exact ⟨item, mem_items_iff.2 ⟨raw, hraw, hnormal⟩, hitem⟩

theorem bearerToken?_congr (heq : a.text? "authorization" = b.text? "authorization")
    : a.bearerToken? = b.bearerToken? := by
  rw [bearerToken?, bearerToken?, heq]

end Headers

namespace IdentityOrigin

/--
The headers that an identity of the given origin is made of.
-/
def reads : IdentityOrigin → List String
  | service => [
      "x-service-name", "x-service-token", "x-original-user-id", "x-original-tenant-id",
      "x-original-organization-id", "x-request-source"
    ]
  | gateway => [
      "x-user-id", "x-tenant-id", "x-organization-id", "x-user-roles", "x-permissions", "x-request-source"
    ]
  | bearer => ["authorization", "x-request-source"]
  | anonymous => []

end IdentityOrigin

namespace Headers

variable {a b h : Headers} {service : String} {user : UserId} {c : ClaimSet} {trace : TraceId}

theorem gatewayIdentity_congr (hab : AgreeOn IdentityOrigin.gateway.reads a b)
    : a.gatewayIdentity user trace = b.gatewayIdentity user trace := by
  unfold gatewayIdentity requestSource
  rw [identifier?_congr (hab "x-tenant-id" (by decide))]
  rw [identifier?_congr (hab "x-organization-id" (by decide))]
  rw [items_congr (hab "x-user-roles" (by decide))]
  rw [items_congr (hab "x-permissions" (by decide))]
  rw [hab "x-request-source" (by decide)]

theorem bearerIdentity_congr (hab : AgreeOn IdentityOrigin.bearer.reads a b)
    : a.bearerIdentity c trace = b.bearerIdentity c trace := by
  unfold bearerIdentity requestSource
  rw [hab "x-request-source" (by decide)]

theorem mem_roles_gatewayIdentity {role : Role}
    : role ∈ (h.gatewayIdentity user trace).roles
        ↔
      ∃ item, h.HasItem "x-user-roles" item ∧ Role.parse? item = some role :=
  SortedSet.mem_ofList.trans (mem_filterMap_items_iff Role.parse?_normalize?)

theorem mem_permissions_gatewayIdentity {permission : Permission}
    : permission ∈ (h.gatewayIdentity user trace).permissions
        ↔
      ∃ item, h.HasItem "x-permissions" item ∧ Permission.parse? item = some permission :=
  SortedSet.mem_ofList.trans (mem_filterMap_items_iff Permission.parse?_normalize?)

end Headers

section

variable {claims? : Option String → Option ClaimSet} {verifies : String → String → Bool} {trace : TraceId}
  {a b h : Headers}

section

variable {m : Type → Type} [Monad m] {ask : Option String → m (Option ClaimSet)}

theorem identifyM_of_serviceToken {token : String} (htoken : h.present? "x-service-token" = some token)
    : identifyM ask verifies trace h
        =
      pure
        (match h.present? "x-service-name" with
        | none => .error .invalidServiceToken
        | some service =>
          if verifies service token then
            .ok (h.serviceIdentity service trace, .service)
          else
            .error .invalidServiceToken) := by
  unfold identifyM
  simp only [htoken]
  cases h.present? "x-service-name" with
  | none => rfl
  | some service =>
    cases hverifies : verifies service token with
    | true => simp only [hverifies, if_true]
    | false => simp only [hverifies, Bool.false_eq_true, if_false]

theorem identifyM_of_not_serviceToken (htoken : ¬ h.Presents "x-service-token")
    : identifyM ask verifies trace h
        =
      match h.identifier? "x-user-id" with
      | some user => pure (.ok (h.gatewayIdentity user trace, .gateway))
      | none =>
        ask h.bearerToken? >>= fun
          | some c => pure (.ok (h.bearerIdentity c trace, .bearer))
          | none => pure (.ok ({ traceId := some trace }, .anonymous)) := by
  rw [Headers.presents_iff_present?, Option.not_isSome_iff_eq_none] at htoken
  rw [identifyM, htoken]
  rfl

theorem identifyM_of_user (htoken : ¬ h.Presents "x-service-token") {user : UserId}
    (huser : h.identifier? "x-user-id" = some user)
    : identifyM ask verifies trace h = pure (.ok (h.gatewayIdentity user trace, .gateway)) := by
  rw [identifyM_of_not_serviceToken htoken, huser]

theorem identifyM_of_not_user (htoken : ¬ h.Presents "x-service-token") (huser : ¬ h.Presents "x-user-id")
    : identifyM ask verifies trace h
        =
      ask h.bearerToken? >>= fun
        | some c => pure (.ok (h.bearerIdentity c trace, .bearer))
        | none => pure (.ok ({ traceId := some trace }, .anonymous)) := by
  rw [Headers.presents_iff_identifier? .user, Option.not_isSome_iff_eq_none] at huser
  rw [identifyM_of_not_serviceToken htoken, huser]

end

theorem identify_of_serviceToken {token : String} (htoken : h.present? "x-service-token" = some token)
    : identify claims? verifies trace h
        =
      match h.present? "x-service-name" with
      | none => .error .invalidServiceToken
      | some service =>
        if verifies service token then
          .ok (h.serviceIdentity service trace, .service)
        else
          .error .invalidServiceToken := by
  rw [identify, identifyM_of_serviceToken htoken, Id.run_pure]

theorem identify_of_not_serviceToken (htoken : ¬ h.Presents "x-service-token")
    : identify claims? verifies trace h
        =
      match h.identifier? "x-user-id" with
      | some user => .ok (h.gatewayIdentity user trace, .gateway)
      | none =>
        match claims? h.bearerToken? with
        | some c => .ok (h.bearerIdentity c trace, .bearer)
        | none => .ok ({ traceId := some trace }, .anonymous) := by
  rw [identify, identifyM_of_not_serviceToken htoken]
  cases h.identifier? "x-user-id" with
  | some user => rfl
  | none =>
    cases claims? h.bearerToken? with
    | some c => rfl
    | none => rfl

theorem identify_of_user (htoken : ¬ h.Presents "x-service-token") {user : UserId}
    (huser : h.identifier? "x-user-id" = some user)
    : identify claims? verifies trace h = .ok (h.gatewayIdentity user trace, .gateway) := by
  rw [identify_of_not_serviceToken htoken, huser]

theorem identify_of_not_user (htoken : ¬ h.Presents "x-service-token") (huser : ¬ h.Presents "x-user-id")
    : identify claims? verifies trace h
        =
      match claims? h.bearerToken? with
      | some c => .ok (h.bearerIdentity c trace, .bearer)
      | none => .ok ({ traceId := some trace }, .anonymous) := by
  rw [Headers.presents_iff_identifier? .user, Option.not_isSome_iff_eq_none] at huser
  rw [identify_of_not_serviceToken htoken, huser]

end

end TenantAuth
