import Mathlib.Algebra.Order.BigOperators.Group.List
import Mathlib.Algebra.Order.Group.Nat
import TenantAuth.Proofs.Resolution.Account
import TenantAuth.Proofs.Resolution.Privileges

/-!
This module contains the theory of an identity that is told on: the service that was called by a gateway calls
another one with headers that name the identity it resolved. The main statement is that nothing changes but
roles whose names begin with the gateways' mark or with white space (`gateway_restated`).
-/

namespace TenantAuth

namespace Role

/--
The name of a role begins with the gateways' mark or with white space.
-/
def IsMarked (r : Role) : Prop :=
  gatewayMark <+: r.name.toList ∨ r.name.toList.head?.any Text.isBlank = true

variable {r q : Role} {raw : String} {cs : List Char}

instance : Decidable r.IsMarked :=
  inferInstanceAs (Decidable (_ ∨ _))

theorem dropMark_eq_self_iff : dropMark cs = cs ↔ ¬ gatewayMark <+: cs := by
  unfold dropMark
  rw [← List.isPrefixOf_iff_prefix]
  split
  . next h =>
    have hle := (List.isPrefixOf_iff_prefix.1 h).length_le
    simp only [h, not_true_eq_false, iff_false]
    intro hdrop
    have hlen := congrArg List.length hdrop
    rw [List.length_drop] at hlen
    have hmark : gatewayMark.length = 5 := rfl
    omega
  . next h => exact iff_of_true rfl h

theorem dropMark_suffix (cs : List Char) : dropMark cs <:+ cs := by
  unfold dropMark
  split
  . apply List.drop_suffix
  . apply List.suffix_rfl

theorem parse?_eq_some_iff
    : parse? raw = some r ↔ dropMark (Text.trim raw).toList = r.name.toList ∧ r.name ≠ "" := by
  unfold parse?
  dsimp only
  split
  . next hempty =>
    rw [List.isEmpty_iff] at hempty
    simp only [reduceCtorEq, false_iff, not_and, not_not, hempty]
    intro hname
    exact String.toList_eq_nil_iff.1 hname.symm
  . next hne =>
    rw [List.isEmpty_iff] at hne
    rw [Option.some.injEq]
    constructor
    . rintro rfl
      rw [String.toList_ofList]
      exact ⟨rfl, by simpa using hne⟩
    . rintro ⟨hname, _⟩
      rw [hname, String.ofList_toList]

theorem sublist_of_parse? (h : parse? raw = some r) : r.name.toList.Sublist raw.toList := by
  rw [← (parse?_eq_some_iff.1 h).1]
  exact (dropMark_suffix _).sublist.trans (Text.trim_sublist raw)

theorem eq_or_shorter_of_parse? (h : parse? r.name = some q)
    : q = r ∨ q.name.toList.length < r.name.toList.length := by
  have hsub := sublist_of_parse? h
  by_cases hlen : r.name.toList.length ≤ q.name.toList.length
  . exact .inl (Named.text_inj (String.toList_inj.1 (hsub.eq_of_length_le hlen)))
  . exact .inr (Nat.lt_of_not_le hlen)

theorem not_blank_getLast?_of_parse? (h : parse? raw = some r)
    : ∀ c, r.name.toList.getLast? = some c → Text.isBlank c = false := by
  intro c hc
  rcases dropMark_suffix (Text.trim raw).toList with ⟨front, hfront⟩
  rw [(parse?_eq_some_iff.1 h).1] at hfront
  apply (Text.trim_eq_self_iff.1 (Text.trim_trim raw)).2
  rw [← hfront, List.getLast?_append, hc, Option.some_or]

theorem parse?_name_iff (h : parse? raw = some r) : parse? r.name = some r ↔ ¬ r.IsMarked := by
  have hne := (parse?_eq_some_iff.1 h).2
  rw [parse?_eq_some_iff, IsMarked, not_or, Bool.not_eq_true, Option.any_eq_false]
  constructor
  . rintro ⟨hname, _⟩
    -- Trimming and dropping only ever take away, so both left the name as it is.
    have htrim : Text.trim r.name = r.name := by
      apply String.toList_inj.1
      apply (Text.trim_sublist r.name).eq_of_length_le
      rw [← hname]
      exact (dropMark_suffix _).length_le
    rw [htrim] at hname
    exact ⟨dropMark_eq_self_iff.1 hname, (Text.trim_eq_self_iff.1 htrim).1⟩
  . rintro ⟨hmark, hhead⟩
    have htrim : Text.trim r.name = r.name := Text.trim_eq_self_iff.2 ⟨hhead, not_blank_getLast?_of_parse? h⟩
    rw [htrim]
    exact ⟨dropMark_eq_self_iff.2 hmark, hne⟩

/--
A name is marked only where the mark is dropped from in front of it: that is done once, and nothing is trimmed
behind the mark.
-/
theorem isMarked_iff_of_parse? (h : parse? raw = some r)
    : r.IsMarked
        ↔
      gatewayMark ++ gatewayMark <+: (Text.trim raw).toList
        ∨ ∃ c, Text.isBlank c = true ∧ gatewayMark ++ [c] <+: (Text.trim raw).toList := by
  have hname := (parse?_eq_some_iff.1 h).1
  have hhead : ∀ {cs : List Char}, cs.head?.any Text.isBlank = true ↔ ∃ c, Text.isBlank c = true ∧ [c] <+: cs := by
    intro cs
    cases cs with
    | nil => simp
    | cons d cs => simp
  rw [IsMarked, hhead, ← hname]
  by_cases hmark : gatewayMark <+: (Text.trim raw).toList
  . rcases hmark with ⟨rest, hrest⟩
    have hdrop : dropMark (Text.trim raw).toList = rest := by
      rw [dropMark, if_pos (List.isPrefixOf_iff_prefix.2 ⟨rest, hrest⟩), ← hrest, List.drop_left]
    rw [hdrop, ← hrest]
    simp only [List.prefix_append_right_inj]
  . have hkept : dropMark (Text.trim raw).toList = (Text.trim raw).toList := dropMark_eq_self_iff.2 hmark
    have hlonger : ∀ cs, ¬ gatewayMark ++ cs <+: (Text.trim raw).toList :=
      fun cs hcs => hmark ((List.prefix_append _ _).trans hcs)
    have hblank : ¬ ∃ c, Text.isBlank c = true ∧ [c] <+: (Text.trim raw).toList := by
      rw [← hhead, Bool.not_eq_true, Option.any_eq_false]
      exact (Text.trim_eq_self_iff.1 (Text.trim_trim raw)).1
    simp only [hkept, hmark, hlonger, hblank, and_false, exists_false, or_false]

end Role

namespace SortedSet

variable {α : Type} [Named α] {s : SortedSet α} {f : α → Option α} {size : α → Nat}

theorem ofList_filterMap_eq_self (hf : ∀ a ∈ s, f a = some a) : ofList (s.toList.filterMap f) = s := by
  apply ext
  intro a
  rw [mem_ofList, List.mem_filterMap]
  constructor
  . rintro ⟨b, hb, hba⟩
    cases (hf b hb).symm.trans hba
    exact hb
  . intro ha
    exact ⟨a, ha, hf a ha⟩

theorem ofList_filterMap_eq_self_iff (hf : ∀ a b, f a = some b → b = a ∨ size b < size a)
    : ofList (s.toList.filterMap f) = s ↔ ∀ a ∈ s, f a = some a := by
  refine ⟨fun hset => ?_, ofList_filterMap_eq_self⟩
  have hsource : ∀ a ∈ s, ∃ b ∈ s, f b = some a := by
    intro a ha
    rw [← hset, mem_ofList, List.mem_filterMap] at ha
    exact ha
  -- What becomes a changing member is larger and changes as well, and the sum of all sizes bounds each of them.
  have hlarge : ∀ n, ∀ a ∈ s, (s.toList.map size).sum < size a + n → f a = some a := by
    intro n
    induction n with
    | zero =>
      intro a ha hlt
      exact absurd (List.le_sum_of_mem (List.mem_map_of_mem ha)) (Nat.not_le.2 hlt)
    | succ n ih =>
      intro a ha hlt
      rcases hsource a ha with ⟨b, hb, hba⟩
      cases hf b a hba with
      | inl heq =>
        rw [heq] at hba ⊢
        exact hba
      | inr hsize =>
        have hfix := ih b hb (by omega)
        cases hfix.symm.trans hba
        exact hfix
  intro a ha
  exact hlarge ((s.toList.map size).sum + 1) a ha (by omega)

end SortedSet

def Identity.account? (i : Identity) : Option Account :=
  i.userId.map fun user => {
    user := user.text
    tenant := i.tenantId.map Identifier.text
    organization := i.organizationId.map Identifier.text
    roles := i.roles.toList.map Role.name
    permissions := i.permissions.toList.map Permission.name
  }

def Identity.retold (i : Identity) : Identity :=
  { i with roles := .ofList (i.roles.toList.filterMap fun r => Role.parse? r.name) }

def Headers.accountNames : List String :=
  ["x-user-id", "x-tenant-id", "x-organization-id", "x-user-roles", "x-permissions"]

/--
Headers name an identity in place of the account that was named before. All other headers are kept.
-/
structure Headers.Restates (again h : Headers) (i : Identity) : Prop where
  account : ∃ a, i.account? = some a ∧ again.Vouches a
  others : ∀ name ∉ Headers.accountNames, again.get? name = h.get? name

theorem Identifier.ofText?_map_text {kind : IdentifierKind} (i : Option (Identifier kind))
    : ofText? (i.map text) = i := by
  cases i with
  | none => rfl
  | some i => exact ofText?_eq_some_iff.2 ⟨i.text, rfl, i.trim_text⟩

namespace Permission

variable {p : Permission} {raw : String}

theorem parse?_eq_some_iff : parse? raw = some p ↔ Text.trim raw = p.name ∧ p.name ≠ "" := by
  unfold parse?
  rw [Option.map_eq_some_iff]
  constructor
  . rintro ⟨name, hname, rfl⟩
    exact Text.normalize?_eq_some_iff.1 hname
  . intro hname
    exact ⟨p.name, Text.normalize?_eq_some_iff.2 hname, rfl⟩

theorem parse?_name (h : parse? raw = some p) : parse? p.name = some p := by
  rcases parse?_eq_some_iff.1 h with ⟨hname, hne⟩
  rw [parse?_eq_some_iff, ← hname, Text.trim_trim, hname]
  exact ⟨rfl, hne⟩

theorem sublist_of_parse? (h : parse? raw = some p) : p.name.toList.Sublist raw.toList := by
  rw [← (parse?_eq_some_iff.1 h).1]
  apply Text.trim_sublist

end Permission

namespace Identity

variable {i : Identity} {a : Account} {user : UserId} {trace : TraceId} {source : Option String}

theorem identity_of_account? (ha : i.account? = some a) (huser : i.userId = some user)
    (htrace : i.traceId = some trace) (hservice : i.serviceAccount = false)
    (hsource : i.requestSource = source.filter fun s => !Text.blank s)
    (hpermissions : ∀ p ∈ i.permissions, Permission.parse? p.name = some p)
    : a.identity user source trace = i.retold := by
  have hkept : .ofList ((i.permissions.toList.map Permission.name).filterMap Permission.parse?) = i.permissions := by
    rw [List.filterMap_map, Function.comp_def]
    exact SortedSet.ofList_filterMap_eq_self hpermissions
  rcases i with ⟨_, tenant, organization, roles, permissions, _, _, _⟩
  subst huser htrace hservice hsource
  cases ha
  unfold Account.identity retold
  dsimp only at hkept ⊢
  rw [Identifier.ofText?_map_text, Identifier.ofText?_map_text, hkept, List.filterMap_map, Function.comp_def]

theorem retold_eq_self_iff (hroles : ∀ r ∈ i.roles, ∃ raw, Role.parse? raw = some r)
    : i.retold = i ↔ ∀ r ∈ i.roles, ¬ r.IsMarked := by
  have hset : i.retold = i ↔ .ofList (i.roles.toList.filterMap fun r => Role.parse? r.name) = i.roles := by
    constructor
    . intro hretold
      exact congrArg roles hretold
    . intro hset
      rw [retold, hset]
  rw [hset, SortedSet.ofList_filterMap_eq_self_iff fun _ _ => Role.eq_or_shorter_of_parse?]
  apply forall₂_congr
  intro r hr
  rcases hroles r hr with ⟨raw, hparse⟩
  exact Role.parse?_name_iff hparse

end Identity

namespace Headers

open HeaderValue (Sendable Listable)

variable {h again : Headers} {name s : String} {user : UserId} {trace : TraceId} {a : Account} {i : Identity}

theorem find_filter {names : List String} {entries : List (String × HeaderValue)} (hname : name ∉ names)
    : find name (entries.filter fun e => e.1 ∉ names) = find name entries := by
  induction entries with
  | nil => rfl
  | cons e entries ih =>
    rw [List.filter_cons, find]
    by_cases heq : e.1 = name
    . rw [heq, if_pos (decide_eq_true hname), if_pos rfl, find, if_pos heq]
    . rw [if_neg heq]
      split
      . rw [find, if_neg heq, ih]
      . exact ih

theorem restates_of_filter (ha : i.account? = some a) (hvouches : again.Vouches a)
    (hothers : again.entries.filter (·.1 ∉ accountNames) = h.entries.filter (·.1 ∉ accountNames))
    : again.Restates h i := by
  refine ⟨⟨a, ha, hvouches⟩, ?_⟩
  intro name hname
  rw [get?, get?, ← find_filter hname, hothers, find_filter hname]

theorem Restates.text?_eq (hagain : again.Restates h i) (hname : name ∉ accountNames)
    : again.text? name = h.text? name := by
  rw [text?, text?, hagain.others name hname]

theorem sendable_of_text? (hs : h.text? name = some s) : Sendable s := by
  rcases Option.bind_eq_some_iff.1 hs with ⟨value, _, hvalue⟩
  exact HeaderValue.sendable_of_text? hvalue

theorem sendable_of_identifier? {kind : IdentifierKind} {id : Identifier kind}
    (hid : h.identifier? name = some id) : Sendable id.text := by
  rcases Identifier.ofText?_eq_some_iff.1 hid with ⟨s, hs, htrim⟩
  rw [← htrim]
  exact (sendable_of_text? hs).sublist (Text.trim_sublist s)

theorem listable_of_hasItem (hitem : h.HasItem name s) : Listable s := by
  rcases hitem with ⟨value, hvalue, hs⟩
  rcases List.mem_map.1 hs with ⟨cs, hcs, rfl⟩
  unfold Listable
  rw [String.toList_ofList]
  refine ⟨(sendable_of_text? hvalue).sublist ?_, Text.not_mem_of_mem_pieces hcs⟩
  rw [String.toList_ofList]
  exact Text.sublist_of_mem_pieces hcs

theorem isSendable_of_gatewayIdentity (huser : h.identifier? "x-user-id" = some user)
    (ha : (h.gatewayIdentity user trace).account? = some a) : a.IsSendable := by
  cases ha
  constructor
  . exact sendable_of_identifier? huser
  . intro t ht
    rcases Option.map_eq_some_iff.1 ht with ⟨id, hid, rfl⟩
    exact sendable_of_identifier? hid
  . intro o ho
    rcases Option.map_eq_some_iff.1 ho with ⟨id, hid, rfl⟩
    exact sendable_of_identifier? hid
  . refine List.forall_mem_map.2 fun r hr => ?_
    rcases mem_roles_gatewayIdentity.1 hr with ⟨s, hs, hparse⟩
    exact (listable_of_hasItem hs).sublist (Role.sublist_of_parse? hparse)
  . refine List.forall_mem_map.2 fun p hp => ?_
    rcases mem_permissions_gatewayIdentity.1 hp with ⟨s, hs, hparse⟩
    exact (listable_of_hasItem hs).sublist (Permission.sublist_of_parse? hparse)

theorem retold_gatewayIdentity (ha : (h.gatewayIdentity user trace).account? = some a)
    : a.identity user h.requestSource trace = (h.gatewayIdentity user trace).retold := by
  apply Identity.identity_of_account? ha rfl rfl rfl rfl
  intro p hp
  rcases mem_permissions_gatewayIdentity.1 hp with ⟨s, _, hparse⟩
  exact Permission.parse?_name hparse

end Headers

theorem gateway_restated (claims? : Option String → Option ClaimSet) (verifies : String → String → Bool)
    (trace : TraceId) {h again : Headers} {i : Identity}
    (hresolve : identify claims? verifies trace h = .ok (i, .gateway)) (hagain : again.Restates h i)
    : identify claims? verifies trace again = .ok (i.retold, .gateway)
        ∧ (i.retold = i ↔ ∀ r ∈ i.roles, ¬ r.IsMarked)
        ∧ ∀ raw r, Role.parse? raw = some r →
          r.name ≠ "" ∧ (∀ c, r.name.toList.getLast? = some c → Text.isBlank c = false)
            ∧ (Role.parse? r.name = some r ↔ ¬ r.IsMarked)
            ∧ (r.IsMarked ↔
              Role.gatewayMark ++ Role.gatewayMark <+: (Text.trim raw).toList
                ∨ ∃ c, Text.isBlank c = true ∧ Role.gatewayMark ++ [c] <+: (Text.trim raw).toList) := by
  refine ⟨?_, ?_, ?_⟩
  . cases Headers.yields_of_identify hresolve with
    | gateway user habsent huser =>
      rcases hagain.account with ⟨a, ha, hvouches⟩
      have hservice : ¬ again.Presents "x-service-token" := by
        unfold Headers.Presents at habsent ⊢
        rw [hagain.text?_eq (by decide)]
        exact habsent
      have hsource : again.requestSource = h.requestSource := by
        apply hagain.text?_eq
        decide
      have htold : Text.trim a.user = user.text := by
        cases ha
        exact user.trim_text
      have hsendable := Headers.isSendable_of_gatewayIdentity huser ha
      rw [identify, identifyM_of_vouches hsendable hservice hvouches htold, hsource,
        Headers.retold_gatewayIdentity ha]
      rfl
  . cases Headers.yields_of_identify hresolve with
    | gateway user =>
      apply Identity.retold_eq_self_iff
      intro r hr
      rcases Headers.mem_roles_gatewayIdentity.1 hr with ⟨raw, _, hparse⟩
      exact ⟨raw, hparse⟩
  . intro raw r hparse
    exact ⟨(Role.parse?_eq_some_iff.1 hparse).2, Role.not_blank_getLast?_of_parse? hparse,
      Role.parse?_name_iff hparse, Role.isMarked_iff_of_parse? hparse⟩

/--
White space behind the mark is not trimmed until the next hop, where the role becomes a reserved one.
-/
theorem spaced_role_becomes_super_admin
    : let h := Headers.ofList [("X-User-Id", .ofText "u1"), ("X-User-Roles", .ofText "ROLE_ SUPER_ADMIN")]
      let again := Headers.ofList [("X-User-Id", .ofText "u1"), ("X-User-Roles", .ofText " SUPER_ADMIN")]
      let trace : TraceId := ⟨"t", by decide, by decide⟩
      let i : Identity := {
        userId := some ⟨"u1", by decide, by decide⟩, roles := .ofList [⟨" SUPER_ADMIN"⟩]
        traceId := some trace
      }
      identify (fun _ => none) (fun _ _ => false) trace h = .ok (i, .gateway)
        ∧ i.isSuperAdmin = false
        ∧ again.Restates h i
        ∧ identify (fun _ => none) (fun _ _ => false) trace again
          = .ok ({ i with roles := .ofList [.superAdmin] }, .gateway)
        ∧ identify (fun _ => none) (fun _ _ => false) trace again ≠ .ok (i, .gateway)
        ∧ Role.parse? "ROLE_ SUPER_ADMIN" = some ⟨" SUPER_ADMIN"⟩
        ∧ Role.parse? " SUPER_ADMIN" = some Role.superAdmin := by
  intro h again trace i
  have hvouches : again.Vouches { user := "u1", roles := [" SUPER_ADMIN"] } :=
    ⟨by decide, by decide, by decide, .inl (by decide), .inr (by decide)⟩
  have hagain : again.Restates h i := Headers.restates_of_filter rfl hvouches (by decide)
  exact ⟨by decide, by decide, hagain, by decide, by decide, by decide, by decide⟩

theorem gateway_restated_of_prefixed_roles
    : let h := Headers.ofList [
        ("X-User-Id", .ofText " u1 "), ("X-Tenant-Id", .ofText " "),
        ("X-User-Roles", .ofText "ROLE_USER,, ROLE_ OPS ,USER"), ("X-Permissions", .ofText "user:read , user:read"),
        ("X-Request-Source", .ofText "portal")
      ]
      let again := Headers.ofList [
        ("X-Request-Source", .ofText "portal"), ("X-User-Id", .ofText "u1"),
        ("X-User-Roles", .ofText " OPS,USER"), ("X-Permissions", .ofText "user:read")
      ]
      let trace : TraceId := ⟨"t", by decide, by decide⟩
      let i : Identity := {
        userId := some ⟨"u1", by decide, by decide⟩, roles := .ofList [⟨" OPS"⟩, .user]
        permissions := .ofList [⟨"user:read"⟩], traceId := some trace, requestSource := some "portal"
      }
      identify (fun _ => none) (fun _ _ => false) trace h = .ok (i, .gateway)
        ∧ again.Restates h i
        ∧ identify (fun _ => none) (fun _ _ => false) trace again = .ok (i.retold, .gateway)
        ∧ (i.retold = i ↔ ∀ r ∈ i.roles, ¬ r.IsMarked) := by
  intro h again trace i
  have hvouches : again.Vouches { user := "u1", roles := [" OPS", "USER"], permissions := ["user:read"] } :=
    ⟨by decide, by decide, by decide, .inl (by decide), .inl (by decide)⟩
  have hresolve : identify (fun _ => none) (fun _ _ => false) trace h = .ok (i, .gateway) := by decide
  have hagain : again.Restates h i := Headers.restates_of_filter rfl hvouches (by decide)
  rcases gateway_restated _ _ trace hresolve hagain with ⟨hsecond, hretold, _⟩
  exact ⟨hresolve, hagain, hsecond, hretold⟩

end TenantAuth
