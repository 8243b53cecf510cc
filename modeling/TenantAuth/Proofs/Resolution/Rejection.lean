import TenantAuth.Proofs.Http.Headers
import TenantAuth.Proofs.Resolution.Precedence

/-!
This module contains the theory of service tokens that do not verify. A token that reads as text and is not
blank ends the resolution unless it verifies; one that does not read as text is passed over as if it were
absent (`identify_rejects_iff`).
-/

namespace TenantAuth

namespace Headers

def without (h : Headers) (name : String) : Headers :=
  ⟨h.entries.filter fun e => e.1 != name⟩

variable {h : Headers} {name other token : String}

theorem find_filter_ne (hne : other ≠ name) (entries : List (String × HeaderValue))
    : find other (entries.filter fun e => e.1 != name) = find other entries := by
  induction entries with
  | nil => rfl
  | cons e entries ih =>
    rw [List.filter_cons]
    by_cases hname : e.1 = name
    . have hother : e.1 ≠ other := fun h => hne (h.symm.trans hname)
      rw [if_neg (by simp [hname]), ih, find, if_neg hother]
    . rw [if_pos (by simp [hname]), find, find, ih]

theorem text?_without_of_ne (hne : other ≠ name) : (h.without name).text? other = h.text? other := by
  rw [text?, text?, get?, get?, without, find_filter_ne hne]

theorem not_presents_without : ¬ (h.without name).Presents name := by
  have hnone : (h.without name).text? name = none := by
    apply text?_eq_none
    intro e he
    exact bne_iff_ne.1 (List.mem_filter.1 he).2
  rintro ⟨s, hs, _⟩
  rw [hnone] at hs
  cases hs

theorem present?_eq_some_iff_get?
    : h.present? name = some token
        ↔
      ∃ v, h.get? name = some v ∧ v.text? = some token ∧ ¬ v.IsBlank := by
  rw [present?_eq_some_iff, text?, Option.bind_eq_some_iff]
  constructor
  . rintro ⟨⟨v, hv, htext⟩, hne⟩
    exact ⟨v, hv, htext, fun hblank => hne ((HeaderValue.trim_eq_empty_iff_isBlank htext).2 hblank)⟩
  . rintro ⟨v, hv, htext, hblank⟩
    exact ⟨⟨v, hv, htext⟩, fun heq => hblank ((HeaderValue.trim_eq_empty_iff_isBlank htext).1 heq)⟩

theorem not_presents_of_unusable {v : HeaderValue} (hv : h.get? name = some v)
    (hunusable : v.IsBlank ∨ ¬ v.IsReadable) : ¬ h.Presents name := by
  rw [presents_iff_present?, Option.isSome_iff_exists]
  rintro ⟨token, htoken⟩
  rcases present?_eq_some_iff_get?.1 htoken with ⟨w, hw, htext, hblank⟩
  cases hv.symm.trans hw
  cases hunusable with
  | inl h => exact hblank h
  | inr h => exact h (HeaderValue.text?_eq_some_iff.1 htext).1

end Headers

variable {claims? : Option String → Option ClaimSet} {verifies : String → String → Bool} {trace : TraceId}
  {a b h : Headers}

theorem identify_congr_of_not_serviceToken (ha : ¬ a.Presents "x-service-token")
    (hb : ¬ b.Presents "x-service-token")
    (hab : ∀ name, name ≠ "x-service-token" → a.text? name = b.text? name)
    : identify claims? verifies trace a = identify claims? verifies trace b := by
  have hagree : ∀ origin, "x-service-token" ∉ IdentityOrigin.reads origin →
      Headers.AgreeOn (IdentityOrigin.reads origin) a b := by
    intro origin horigin name hname
    exact hab name fun heq => horigin (heq ▸ hname)
  have hgateway := hagree .gateway (by decide)
  have hbearer := hagree .bearer (by decide)
  rw [identify_of_not_serviceToken ha, identify_of_not_serviceToken hb]
  rw [Headers.identifier?_congr (hgateway "x-user-id" (by decide))]
  rw [Headers.bearerToken?_congr (hbearer "authorization" (by decide))]
  simp only [Headers.gatewayIdentity_congr hgateway, Headers.bearerIdentity_congr hbearer]

theorem identify_eq_error_iff_of_serviceToken {token : String}
    (htoken : h.present? "x-service-token" = some token)
    : identify claims? verifies trace h = .error .invalidServiceToken
        ↔
      ¬ h.Presents "x-service-name"
        ∨ ∃ service, h.text? "x-service-name" = some service ∧ verifies service token = false := by
  rw [identify_of_serviceToken htoken, Headers.presents_iff_present?]
  cases hname : h.present? "x-service-name" with
  | none => exact iff_of_true rfl (.inl Bool.false_ne_true)
  | some service =>
    have htext := (Headers.present?_eq_some_iff.1 hname).1
    simp only [htext, Option.isSome_some, not_true_eq_false, false_or, Option.some.injEq, exists_eq_left']
    cases verifies service token with
    | true => simp
    | false => simp

theorem identify_ne_error_of_not_serviceToken (htoken : ¬ h.Presents "x-service-token")
    : identify claims? verifies trace h ≠ .error .invalidServiceToken := by
  rw [identify_of_not_serviceToken htoken]
  split
  . exact nofun
  . split
    . exact nofun
    . exact nofun

theorem identify_rejects_iff (claims? : Option String → Option ClaimSet)
    (verifies : String → String → Bool) (trace : TraceId) (h : Headers)
    : (identify claims? verifies trace h = .error .invalidServiceToken
        ↔
      ∃ v token, h.get? "x-service-token" = some v ∧ ¬ v.IsBlank ∧ v.text? = some token
        ∧ (¬ h.Presents "x-service-name"
          ∨ ∃ service, h.text? "x-service-name" = some service ∧ verifies service token = false))
      ∧ ∀ v, h.get? "x-service-token" = some v → v.IsBlank ∨ ¬ v.IsReadable →
        identify claims? verifies trace h = identify claims? verifies trace (h.without "x-service-token") := by
  refine ⟨⟨?_, ?_⟩, ?_⟩
  . intro herror
    have hpresents : h.Presents "x-service-token" := by
      apply Decidable.byContradiction
      intro htoken
      exact identify_ne_error_of_not_serviceToken htoken herror
    rcases Option.isSome_iff_exists.1 (Headers.presents_iff_present?.1 hpresents) with ⟨token, htoken⟩
    rcases Headers.present?_eq_some_iff_get?.1 htoken with ⟨v, hv, htext, hblank⟩
    exact ⟨v, token, hv, hblank, htext, (identify_eq_error_iff_of_serviceToken htoken).1 herror⟩
  . rintro ⟨v, token, hv, hblank, htext, hrefused⟩
    have htoken := Headers.present?_eq_some_iff_get?.2 ⟨v, hv, htext, hblank⟩
    exact (identify_eq_error_iff_of_serviceToken htoken).2 hrefused
  . intro v hv hunusable
    apply identify_congr_of_not_serviceToken
    . exact Headers.not_presents_of_unusable hv hunusable
    . exact Headers.not_presents_without
    . intro name hne
      exact (Headers.text?_without_of_ne hne).symm

theorem identify_rejects_iff_of_unreadable_token
    : let h := Headers.ofList [
        ("X-Service-Token", .ofText "clé"), ("X-Service-Name", .ofText "billing"),
        ("X-User-Id", .ofText "u1")
      ]
      let trace : TraceId := ⟨"t", by decide, by decide⟩
      ∃ v, h.get? "x-service-token" = some v ∧ ¬ v.IsReadable
        ∧ identify (fun _ => none) (fun _ _ => false) trace h
          = identify (fun _ => none) (fun _ _ => false) trace (h.without "x-service-token")
        ∧ identify (fun _ => none) (fun _ _ => false) trace h ≠ .error .invalidServiceToken := by
  intro h trace
  have hv : h.get? "x-service-token" = some (.ofText "clé") := by decide
  have hunreadable : ¬ (HeaderValue.ofText "clé").IsReadable := by decide
  rcases identify_rejects_iff (fun _ => none) (fun _ _ => false) trace h with ⟨herror, hpassed⟩
  refine ⟨_, hv, hunreadable, hpassed _ hv (.inr hunreadable), ?_⟩
  rw [Ne, herror]
  rintro ⟨w, token, hw, _, htext, _⟩
  cases hv.symm.trans hw
  exact hunreadable (HeaderValue.text?_eq_some_iff.1 htext).1

theorem unreadable_service_token_yields_gateway
    : let h := Headers.ofList [
        ("X-Service-Token", .ofText "é"), ("X-User-Id", .ofText "root"), ("X-User-Roles", .ofText "SUPER_ADMIN")
      ]
      let trace : TraceId := ⟨"t", by decide, by decide⟩
      (∃ v, h.get? "x-service-token" = some v ∧ ¬ v.IsBlank) ∧ h.get? "x-service-name" = none
        ∧ ∀ verifies, ∃ i, identify (fun _ => none) verifies trace h = .ok (i, .gateway)
          ∧ Role.superAdmin ∈ i.roles := by
  intro h trace
  refine ⟨⟨.ofText "é", by decide, by decide⟩, by decide, ?_⟩
  intro verifies
  exact ⟨h.gatewayIdentity ⟨"root", by decide, by decide⟩ trace, by rfl, by decide⟩

end TenantAuth
