import TenantAuth.Proofs.Http.Headers
import TenantAuth.Proofs.Resolution.Precedence
import TenantAuth.Proofs.Token.Acceptance

/-!
This module contains the two ways in which a user is named to a service: by the headers of a gateway and by the
claims of a bearer token. The main statement is that both yield the same identity
(`gateway_matches_bearer`).
-/

namespace TenantAuth

structure Account where
  user : String
  tenant : Option String := none
  organization : Option String := none
  roles : List String := []
  permissions : List String := []

namespace Account

open HeaderValue (Sendable Listable)

structure IsSendable (a : Account) : Prop where
  user : Sendable a.user
  tenant : ∀ t, a.tenant = some t → Sendable t
  organization : ∀ o, a.organization = some o → Sendable o
  roles : ∀ name ∈ a.roles, Listable name
  permissions : ∀ name ∈ a.permissions, Listable name

def identity (a : Account) (user : UserId) (source : Option String) (trace : TraceId) : Identity where
  userId := some user
  tenantId := Identifier.ofText? a.tenant
  organizationId := Identifier.ofText? a.organization
  roles := .ofList (a.roles.filterMap Role.parse?)
  permissions := .ofList (a.permissions.filterMap Permission.parse?)
  traceId := some trace
  requestSource := source.filter fun s => !Text.blank s

end Account

/--
A header lists names with commas between them. It may be left out if there are none.
-/
def Headers.Lists (h : Headers) (name : String) (names : List String) : Prop :=
  h.get? name = some (.ofText (",".intercalate names)) ∨ names = [] ∧ h.get? name = none

structure Headers.Vouches (h : Headers) (a : Account) : Prop where
  user : h.get? "x-user-id" = some (.ofText a.user)
  tenant : h.get? "x-tenant-id" = a.tenant.map .ofText
  organization : h.get? "x-organization-id" = a.organization.map .ofText
  roles : h.Lists "x-user-roles" a.roles
  permissions : h.Lists "x-permissions" a.permissions

structure TokenClaims.Vouches (c : TokenClaims) (a : Account) : Prop where
  user : c.sub = a.user
  tenant : c.tid = a.tenant
  organization : c.oid = a.organization
  roles : c.roles.getD [] = a.roles
  permissions : c.permissions.getD [] = a.permissions

namespace Headers

open HeaderValue (Sendable Listable)

variable {h : Headers} {name s : String} {names : List String} {a : Account} {user : UserId} {trace : TraceId}

theorem not_presents_of_absent {entries : List (String × HeaderValue)} (habsent : ∀ e ∈ entries, e.1 ≠ name)
    : ¬ (Headers.mk entries).Presents name := by
  rintro ⟨s, hs, _⟩
  rw [text?_eq_none habsent] at hs
  cases hs

theorem text?_of_get? (hget : h.get? name = some (.ofText s)) (hs : Sendable s) : h.text? name = some s := by
  rw [text?, hget, Option.bind_some, HeaderValue.text?_ofText hs]

theorem identifier?_of_get? {kind : IdentifierKind} {raw : Option String}
    (hget : h.get? name = raw.map .ofText) (hraw : ∀ s, raw = some s → Sendable s)
    : (h.identifier? name : Option (Identifier kind)) = Identifier.ofText? raw := by
  unfold identifier?
  cases raw with
  | none => rw [text?, hget, Option.map_none, Option.bind_none]
  | some s => rw [text?_of_get? hget (hraw s rfl)]

theorem sendable_intercalate (hnames : ∀ s ∈ names, Sendable s) : Sendable (",".intercalate names) := by
  induction names with
  | nil => exact nofun
  | cons s names ih =>
    rw [List.forall_mem_cons] at hnames
    cases names with
    | nil => rw [String.intercalate_singleton]; exact hnames.1
    | cons t names =>
      have hcomma : Sendable "," := by decide
      unfold Sendable at ih hnames hcomma ⊢
      rw [String.intercalate_cons_cons, String.toList_append, String.toList_append, List.forall_mem_append,
        List.forall_mem_append]
      exact ⟨⟨hnames.1, hcomma⟩, ih hnames.2⟩

theorem items_of_lists (hlists : h.Lists name names) (hnames : ∀ s ∈ names, Listable s)
    : h.items name = names.filterMap Text.normalize? := by
  unfold items
  cases hlists with
  | inl hget =>
    rw [text?_of_get? hget (sendable_intercalate fun s hs => (hnames s hs).1), Option.map_some, Option.getD_some]
    by_cases hempty : names = []
    . rw [hempty]
      decide
    . rw [show "," = String.ofList [','] from rfl, Text.split_intercalate (fun s hs => (hnames s hs).2) hempty]
  | inr hnone =>
    rw [text?, hnone.2, hnone.1]
    rfl

theorem gatewayIdentity_of_vouches (hvouches : h.Vouches a) (ha : a.IsSendable)
    : h.gatewayIdentity user trace = a.identity user h.requestSource trace := by
  have hroles := items_of_lists hvouches.roles ha.roles
  have hpermissions := items_of_lists hvouches.permissions ha.permissions
  unfold gatewayIdentity
  rw [identifier?_of_get? hvouches.tenant ha.tenant, identifier?_of_get? hvouches.organization ha.organization,
    hroles, hpermissions, List.filterMap_filterMap, List.filterMap_filterMap]
  simp only [Role.parse?_normalize?, Permission.parse?_normalize?]
  rfl

theorem bearerIdentity_of_means {set : ClaimSet} {c : TokenClaims} (hset : set.Means c) (hc : c.Vouches a)
    : h.bearerIdentity set trace = a.identity set.userId h.requestSource trace := by
  have htenant : set.tenantId = Identifier.ofText? a.tenant := by
    apply Option.map_injective fun _ _ => Identifier.text_inj
    rw [hset.tenantId, hc.tenant, Identifier.map_text_ofText?]
  have horganization : set.organizationId = Identifier.ofText? a.organization := by
    apply Option.map_injective fun _ _ => Identifier.text_inj
    rw [hset.organizationId, hc.organization, Identifier.map_text_ofText?]
  have hroles : set.roles = .ofList (a.roles.filterMap Role.parse?) := by
    apply SortedSet.ext
    intro r
    rw [hset.roles, hc.roles, SortedSet.mem_ofList, List.mem_filterMap]
  have hpermissions : set.permissions = .ofList (a.permissions.filterMap Permission.parse?) := by
    apply SortedSet.ext
    intro p
    rw [hset.permissions, hc.permissions, SortedSet.mem_ofList, List.mem_filterMap]
  have hbuild : h.bearerIdentity set trace = {
      userId := some set.userId
      tenantId := set.tenantId
      organizationId := set.organizationId
      roles := .ofList set.roles.toList
      permissions := .ofList set.permissions.toList
      traceId := some trace
      requestSource := h.requestSource.filter fun s => !Text.blank s
    } := rfl
  rw [hbuild, SortedSet.ofList_toList, SortedSet.ofList_toList, htenant, horganization, hroles, hpermissions]
  rfl

theorem bearerToken?_of_get? {token : String} (hget : h.get? "authorization" = some (.ofText ("Bearer " ++ token)))
    (htoken : Sendable token) (htrim : Text.trim token = token) (hne : token ≠ "")
    : h.bearerToken? = some token := by
  have hlist : ("Bearer " ++ token).toList = "Bearer".toList ++ ' ' :: token.toList := by simp
  have hscheme : Sendable "Bearer" := by decide
  have hsendable : Sendable ("Bearer " ++ token) := by
    unfold Sendable at hscheme ⊢
    rw [hlist, List.forall_mem_append, List.forall_mem_cons]
    exact ⟨hscheme, by decide, htoken⟩
  have hvalue : Text.trim ("Bearer " ++ token) = "Bearer " ++ token := by
    rcases Text.trim_eq_self_iff.1 htrim with ⟨_, hlast⟩
    rw [Text.trim_eq_self_iff, hlist]
    refine ⟨fun c hc => ?_, fun c hc => ?_⟩
    . cases Option.some.inj hc
      decide
    . have hend := List.getLast?_eq_some_getLast (mt String.toList_eq_nil_iff.1 hne)
      rw [List.getLast?_append, List.getLast?_cons, hend] at hc
      cases hc
      exact hlast _ hend
  have hcut : Text.splitFirst? ' ' ("Bearer " ++ token) = some ("Bearer", token) := by
    rw [Text.splitFirst?, Text.cut?_eq_some_iff.2 ⟨hlist, by decide⟩]
    simp
  rw [bearerToken?, text?_of_get? hget hsendable]
  simp only [Option.bind_eq_bind, Option.bind_some, hvalue, hcut]
  rw [if_pos (by decide), Text.normalize?_eq_some_iff]
  exact ⟨htrim, hne⟩

theorem bearerToken?_eq_some {token : String} (htoken : h.bearerToken? = some token)
    : Text.trim token = token ∧ token ≠ "" := by
  unfold bearerToken? at htoken
  rcases Option.bind_eq_some_iff.1 htoken with ⟨value, _, hvalue⟩
  rcases Option.bind_eq_some_iff.1 hvalue with ⟨⟨scheme, rest⟩, _, hrest⟩
  dsimp only at hrest
  split at hrest
  . rcases Text.normalize?_eq_some_iff.1 hrest with ⟨rfl, hne⟩
    exact ⟨Text.trim_trim rest, hne⟩
  . cases hrest

end Headers

def TokenClaims.WrittenIn (c : TokenClaims) (token : String) : Prop :=
  ∃ parts, TokenParts.ofToken? token = some parts ∧ TokenParts.readClaims? parts.payload = some c

theorem TokenClaims.WrittenIn.unique {c d : TokenClaims} {token : String} (hc : c.WrittenIn token)
    (hd : d.WrittenIn token) : c = d := by
  rcases hc with ⟨parts, hparts, hread⟩
  rcases hd with ⟨parts', hparts', hread'⟩
  cases hparts.symm.trans hparts'
  exact Option.some.inj (hread.symm.trans hread')

namespace TokenVerifier

variable {v : TokenVerifier} {now : Instant} {isRevoked : String → Bool} {token : String} {c : TokenClaims}
  {set : ClaimSet}

theorem writtenIn_of_open? (h : v.open? token = .ok c) : c.WrittenIn token := by
  unfold open? at h
  split at h
  . cases h
  . next parts hparts =>
    split at h
    . cases h
    . split at h
      . cases h
      . split at h
        . cases h
        . cases h
        . exact ⟨parts, hparts, (TokenParts.claims_eq_ok_iff.1 h).1⟩

theorem means_of_claims? (haccepted : v.claims? now isRevoked (some token) = .ok (some set))
    (hc : c.WrittenIn (Text.trim token)) : set.Means c := by
  rcases verify_eq_ok_iff.1 (claims?_eq_some_iff_verify.1 haccepted) with ⟨raw, d, hraw, _, hopen, haccept⟩
  cases hraw
  rw [hc.unique (writtenIn_of_open? hopen)]
  exact (accept_eq_ok_iff.1 haccept).2.2.1

end TokenVerifier

theorem identifyM_of_vouches {m : Type → Type} [Monad m] {ask : Option String → m (Option ClaimSet)}
    {verifies : String → String → Bool} {trace : TraceId} {a : Account} {h : Headers} {user : UserId}
    (ha : a.IsSendable) (hservice : ¬ h.Presents "x-service-token") (hvouches : h.Vouches a)
    (huser : Text.trim a.user = user.text)
    : identifyM ask verifies trace h = pure (.ok (a.identity user h.requestSource trace, .gateway)) := by
  have hget : h.get? "x-user-id" = (some a.user).map .ofText := hvouches.user
  have hsend : ∀ s, some a.user = some s → HeaderValue.Sendable s := by
    rintro s ⟨⟩
    exact ha.user
  have hid : h.identifier? "x-user-id" = some user := by
    rw [Headers.identifier?_of_get? hget hsend, Identifier.ofText?_eq_some_iff]
    exact ⟨a.user, rfl, huser⟩
  rw [identifyM_of_user hservice hid, Headers.gatewayIdentity_of_vouches hvouches ha]

theorem gateway_matches_bearer (v : TokenVerifier) (now : Instant) (isRevoked : String → Bool)
    (verifies : String → String → Bool) (trace : TraceId) {a : Account} {g b : Headers} {token : String}
    {c : TokenClaims} {set : ClaimSet} (ha : a.IsSendable)
    (hservice : ¬ g.Presents "x-service-token" ∧ ¬ b.Presents "x-service-token")
    (hsource : g.text? "x-request-source" = b.text? "x-request-source")
    (hgateway : g.Vouches a)
    (huser : ¬ b.Presents "x-user-id") (htoken : b.bearerToken? = some token)
    (haccepted : v.claims? now isRevoked (some token) = .ok (some set)) (hwritten : c.WrittenIn token)
    (hclaims : c.Vouches a)
    : ∃ user : UserId, user.text = Text.trim a.user
        ∧ identifyM (v.claims? now isRevoked) verifies trace g
          = .ok (.ok (a.identity user g.requestSource trace, .gateway))
        ∧ identifyM (v.claims? now isRevoked) verifies trace b
          = .ok (.ok (a.identity user g.requestSource trace, .bearer)) := by
  have hmeans : set.Means c := by
    apply TokenVerifier.means_of_claims? haccepted
    rwa [(Headers.bearerToken?_eq_some htoken).1]
  have huserId : set.userId.text = Text.trim a.user := by
    rw [hmeans.userId, hclaims.user]
  have hidentity : b.bearerIdentity set trace = a.identity set.userId g.requestSource trace := by
    rw [Headers.bearerIdentity_of_means hmeans hclaims, Headers.requestSource, Headers.requestSource, hsource]
  refine ⟨set.userId, huserId, ?_, ?_⟩
  . exact identifyM_of_vouches ha hservice.1 hgateway huserId.symm
  . rw [identifyM_of_not_user hservice.2 huser, htoken, haccepted, ← hidentity]
    rfl

theorem sendable_text_issue {secret : List UInt8} {h : Crypto.Hash} {header payload : String} {w : Json.Written}
    (ha : (TokenParts.issue secret h header payload).algorithm? = some (.hmac h))
    (hw : TokenParts.decode? payload = some w)
    : HeaderValue.Sendable (TokenParts.issue secret h header payload).text := by
  have hdigits : HeaderValue.Sendable (String.ofList ('.' :: Crypto.Base64.urlDigits)) := by decide
  intro c hc
  apply hdigits
  rw [String.toList_ofList]
  exact TokenParts.mem_text_issue ha hw c hc

theorem gateway_matches_bearer_of_padded_names
    : let a : Account := {
        user := " u1", tenant := some "\tt1 ", organization := some " "
        roles := ["ROLE_USER", " ", "USER", "ROLE_ OPS"], permissions := ["user:read ", ""]
      }
      let parts := TokenParts.issue "S".toUTF8.data.toList .bits256 "eyJhbGciOiJIUzI1NiJ9"
        ("eyJzdWIiOiIgdTEiLCJpc3MiOiJhdXRoaHViIiwiZXhwIjo0MTAyNDQ0ODAwLCJ0aWQiOiJcdHQxICIsIm9pZCI6IiAiLCJyb2xl"
          ++ "cyI6WyJST0xFX1VTRVIiLCIgIiwiVVNFUiIsIlJPTEVfIE9QUyJdLCJwZXJtaXNzaW9ucyI6WyJ1c2VyOnJlYWQgIiwiIl19")
      let c : TokenClaims := {
        sub := a.user, iss := "authhub", exp := 4102444800, tid := a.tenant, oid := a.organization
        roles := some a.roles, permissions := some a.permissions
      }
      let g : Headers := ⟨[
        ("x-user-id", .ofText " u1"), ("x-tenant-id", .ofText "\tt1 "), ("x-organization-id", .ofText " "),
        ("x-user-roles", .ofText "ROLE_USER, ,USER,ROLE_ OPS"), ("x-permissions", .ofText "user:read ,")
      ]⟩
      let b : Headers := ⟨[("authorization", .ofText ("Bearer " ++ parts.text))]⟩
      let v : TokenVerifier := ⟨.secret "S".toUTF8.data.toList, "authhub", 0⟩
      let now := Instant.ofSeconds 1700000000
      let trace : TraceId := ⟨"t", by decide, by decide⟩
      a.IsSendable
        ∧ (¬ g.Presents "x-service-token" ∧ ¬ b.Presents "x-service-token")
        ∧ g.text? "x-request-source" = b.text? "x-request-source"
        ∧ g.Vouches a
        ∧ ¬ b.Presents "x-user-id" ∧ b.bearerToken? = some parts.text
        ∧ (∃ set, v.claims? now (fun _ => false) (some parts.text) = .ok (some set)) ∧ c.WrittenIn parts.text
        ∧ c.Vouches a
        ∧ ∃ user : UserId, user.text = Text.trim a.user
          ∧ identifyM (v.claims? now fun _ => false) (fun _ _ => false) trace g
            = .ok (.ok (a.identity user none trace, .gateway))
          ∧ identifyM (v.claims? now fun _ => false) (fun _ _ => false) trace b
            = .ok (.ok (a.identity user none trace, .bearer)) := by
  intro a parts c g b v now trace
  have ha : a.IsSendable := by
    constructor
    . decide
    . rintro t ⟨⟩
      decide
    . rintro o ⟨⟩
      decide
    . decide
    . decide
  have halgorithm : parts.algorithm? = some (.hmac .bits256) := by decide +kernel
  have hpayload : parts.claims = .ok c := toOption_eq_some_iff.1 (by decide +kernel)
  rcases TokenParts.claims_eq_ok_iff.1 hpayload with ⟨_, w, hw, _⟩
  have hopen : v.open? parts.text = .ok c := (TokenVerifier.open?_issue rfl halgorithm hw).trans hpayload
  have hsendable : HeaderValue.Sendable parts.text := sendable_text_issue halgorithm hw
  have htrim : Text.trim parts.text = parts.text := TokenParts.trim_text_issue halgorithm hw
  have hne : parts.text ≠ "" := parts.text_ne
  rcases ClaimSet.ofClaims?_of_subject (show Text.trim c.sub ≠ "" by decide) with ⟨set, _, hmeans⟩
  have haccepted : v.claims? now (fun _ => false) (some parts.text) = .ok (some set) := by
    have haccept : v.accept now (fun _ => false) c = .ok (.ok set) :=
      TokenVerifier.accept_eq_ok_iff.2 ⟨by decide, rfl, hmeans, nofun⟩
    exact TokenVerifier.claims?_issue_eq_some rfl halgorithm hpayload haccept
  have hwritten : c.WrittenIn parts.text := TokenVerifier.writtenIn_of_open? hopen
  -- From here on the parts are just any, or their signature would be computed.
  clear hpayload halgorithm hopen
  clear_value parts
  have hlone : ∀ {name}, "authorization" ≠ name → ∀ e ∈ b.entries, e.1 ≠ name :=
    fun hne => List.forall_mem_singleton.2 hne
  have hservice : ¬ g.Presents "x-service-token" ∧ ¬ b.Presents "x-service-token" :=
    ⟨by decide, Headers.not_presents_of_absent (hlone (by decide))⟩
  have hsource : g.text? "x-request-source" = b.text? "x-request-source" := by
    rw [Headers.text?_eq_none (hlone (by decide))]
    decide
  have hgateway : g.Vouches a := ⟨by decide, by decide, by decide, .inl (by decide), .inl (by decide)⟩
  have huser : ¬ b.Presents "x-user-id" := Headers.not_presents_of_absent (hlone (by decide))
  have htoken : b.bearerToken? = some parts.text := by
    apply Headers.bearerToken?_of_get? _ hsendable htrim hne
    rw [Headers.get?, Headers.find, if_pos rfl]
  have hclaims : c.Vouches a := ⟨rfl, rfl, rfl, rfl, rfl⟩
  have hnone : g.requestSource = none := by decide
  rcases gateway_matches_bearer v now (fun _ => false) (fun _ _ => false) trace ha hservice hsource hgateway huser
    htoken haccepted hwritten hclaims with ⟨user, hname, hmatches⟩
  rw [hnone] at hmatches
  exact ⟨ha, hservice, hsource, hgateway, huser, htoken, ⟨set, haccepted⟩, hwritten, hclaims, user, hname,
    hmatches⟩

end TenantAuth
