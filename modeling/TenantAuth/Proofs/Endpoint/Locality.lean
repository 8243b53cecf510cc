import TenantAuth.Proofs.Endpoint.Replay
import TenantAuth.Proofs.Endpoint.Selection

/-!
This module contains the theory of how far a change to one endpoint reaches. The main statement is that it bears
on no request but those for this endpoint (`changes_local`).
-/

namespace TenantAuth

namespace EndpointListing

open EndpointStore (put)

variable {l l' : EndpointListing} {policies : List EndpointPolicy} {method : Method} {path : String}
  {e p q : EndpointPolicy} {keep : EndpointPolicy → Bool}

theorem better_of_specificity_eq (best : Option EndpointPolicy)
    (h : p.pattern.specificity = q.pattern.specificity)
    : better best p = best ∧ better best q = best ∨ better best p = some p ∧ better best q = some q := by
  cases best with
  | none => exact .inr ⟨rfl, rfl⟩
  | some b =>
    rw [better, better, h]
    split
    . exact .inr ⟨rfl, rfl⟩
    . exact .inl ⟨rfl, rfl⟩

theorem foldl_better_of_specificity_eq (h : p.pattern.specificity = q.pattern.specificity)
    : policies.foldl better (some p) = some p
        ∨ policies.foldl better (some p) = policies.foldl better (some q) := by
  induction policies with
  | nil => exact .inl rfl
  | cons r policies ih =>
    rw [List.foldl_cons, List.foldl_cons, better, better, h]
    split
    . exact .inr rfl
    . exact ih

theorem applies_congr (h : q.sameEndpoint p = true)
    : q.pattern = p.pattern ∧ applies method path q = applies method path p := by
  rcases EndpointStore.sameEndpoint_iff.1 h with ⟨hmethod, htext⟩
  have hpattern := Pattern.text_inj htext
  refine ⟨hpattern, ?_⟩
  rw [applies, applies, hmethod, hpattern]

theorem foldl_better_put (best : Option EndpointPolicy) (e : EndpointPolicy) (policies : List EndpointPolicy)
    : ((put e policies).filter (applies method path)).foldl better best
          = (policies.filter (applies method path)).foldl better best
        ∨ applies method path e = true
          ∧ ((put e policies).filter (applies method path)).foldl better best = some e := by
  induction policies generalizing best with
  | nil =>
    rw [put, List.filter_cons, List.filter_nil]
    split
    . next he =>
      rw [List.foldl_cons, List.foldl_nil, List.foldl_nil]
      rcases better_of_specificity_eq best rfl with ⟨hkept, _⟩ | ⟨htaken, _⟩
      . exact .inl hkept
      . exact .inr ⟨he, htaken⟩
    . exact .inl rfl
  | cons q policies ih =>
    rw [put]
    split
    . next hsame =>
      -- What is replaced is for the same requests and as specific, so only the fold behind it can tell.
      rcases applies_congr hsame with ⟨hpattern, happlies⟩
      rw [List.filter_cons, List.filter_cons, happlies]
      split
      . next he =>
        rw [List.foldl_cons, List.foldl_cons]
        have hspecificity : e.pattern.specificity = q.pattern.specificity := by rw [hpattern]
        rcases better_of_specificity_eq best hspecificity with ⟨he', hq'⟩ | ⟨he', hq'⟩
        . rw [he', hq']
          exact .inl rfl
        . rw [he', hq']
          cases foldl_better_of_specificity_eq hspecificity with
          | inl hwins => exact .inr ⟨he, hwins⟩
          | inr hloses => exact .inl hloses
      . exact .inl rfl
    . rw [List.filter_cons, List.filter_cons]
      split
      . exact ih (better best q)
      . exact ih best

theorem resolve_of_put (hl : l'.endpoints = put e l.endpoints)
    : l'.resolve method path = l.resolve method path
        ∨ applies method path e = true ∧ l'.resolve method path = some e := by
  unfold resolve
  rw [hl]
  apply foldl_better_put

theorem resolve_of_filter (hl : l'.endpoints = l.endpoints.filter keep)
    (hkeep : ∀ p ∈ l.endpoints, applies method path p = true → keep p = true)
    : l'.resolve method path = l.resolve method path := by
  unfold resolve
  rw [hl, List.filter_filter]
  congr 1
  apply List.filter_congr
  intro p hp
  rw [Bool.and_eq_left_iff_imp]
  exact hkeep p hp

theorem mem_of_resolve (h : l.resolve method path = some e) : e ∈ l.endpoints := by
  rcases selects_of_resolve h with ⟨before, after, hl, _⟩
  rw [hl]
  exact List.mem_append_right before List.mem_cons_self

end EndpointListing

namespace EndpointStore

open EndpointListing (applies applies_iff)

def Change.Adds (name : String) (method : Method) (pattern : String) : Change → Prop
  | .upsert p => p.service.text = name ∧ p.At method pattern
  | .remove _ _ _ => False
  | .replace service listed =>
    Text.trim service = name ∧ ∃ p ∈ listed, p.service.text = name ∧ p.At method pattern

instance {name : String} {method : Method} {pattern : String}
    : (change : Change) → Decidable (change.Adds name method pattern)
  | .upsert _ => inferInstanceAs (Decidable (_ ∧ _))
  | .remove _ _ _ => inferInstanceAs (Decidable False)
  | .replace _ _ => inferInstanceAs (Decidable (_ ∧ _))

def Lacks (s : EndpointStore) (service : String) (method : Method) (pattern : String) : Prop :=
  ∀ p ∈ (s.listing service).endpoints, ¬ p.At method pattern

variable {s : EndpointStore} {now : Instant} {service raw name pattern : String} {method m : Method}
  {path : String} {e p q : EndpointPolicy} {policies : List EndpointPolicy} {change : Change}
  {changes : List (Instant × Change)}

theorem mem_put (h : q ∈ put p policies) : q = p ∨ q ∈ policies := by
  induction policies with
  | nil => exact .inl (List.mem_singleton.1 h)
  | cons r policies ih =>
    rw [put] at h
    split at h
    . rw [List.mem_cons] at h ⊢
      exact h.imp_right .inr
    . rw [List.mem_cons] at h ⊢
      rcases h with h | h
      . exact .inr (.inl h)
      . exact (ih h).imp_right .inr

theorem apply_upsert : (s.apply now (.upsert e)).2 = (s.upsert now e).2 := rfl

theorem endpoints_upsert (hservice : e.service.text = Text.trim service)
    : ((s.upsert now e).2.listing service).endpoints = put e (s.listing service).endpoints := by
  have hne : Text.trim service ≠ "" := by
    rw [← hservice]
    exact e.service.text_ne
  rw [← apply_upsert, endpoints_apply hne, Change.service, if_pos hservice, put_eq_replay]

theorem resolve_upsert (s : EndpointStore) (now : Instant) (e : EndpointPolicy) (service : String)
    (method : Method) (path : String)
    : ((s.upsert now e).2.listing service).resolve method path = (s.listing service).resolve method path
        ∨ e.service.text = Text.trim service ∧ applies method path e = true
          ∧ ((s.upsert now e).2.listing service).resolve method path = some e := by
  by_cases hservice : e.service.text = Text.trim service
  . cases EndpointListing.resolve_of_put (endpoints_upsert hservice) with
    | inl hkept => exact .inl hkept
    | inr htaken => exact .inr ⟨hservice, htaken⟩
  . have hother : (Change.upsert e).service ≠ Text.trim service := hservice
    rw [← apply_upsert, listing_apply_of_ne hother]
    exact .inl rfl

theorem apply_remove : s.apply now (.remove raw m pattern) = s.remove now raw m pattern := rfl

theorem remove_of_lacks (h : s.Lacks raw m pattern) : s.remove now raw m pattern = (none, s) := by
  rw [← apply_remove]
  apply apply_of_misses
  rw [Change.service, listing_trim]
  exact h

theorem remove_eq_none_iff : (s.remove now raw m pattern).1 = none ↔ s.Lacks raw m pattern := by
  rw [← apply_remove, apply_eq_none_iff, Lacks, Change.Misses, Change.service, listing_trim]

theorem exists_at_of_remove {version : String} (h : (s.remove now raw m pattern).1 = some version)
    : ∃ p ∈ (s.listing raw).endpoints, p.At m pattern := by
  apply Decidable.byContradiction
  intro hnone
  have hlacks : s.Lacks raw m pattern := fun p hp hat => hnone ⟨p, hp, hat⟩
  rw [remove_of_lacks hlacks] at h
  cases h

theorem endpoints_remove (hservice : Text.trim service = Text.trim raw)
    : ((s.remove now raw m pattern).2.listing service).endpoints
        =
      (s.listing service).endpoints.filter fun p => ¬ p.At m pattern := by
  by_cases hblank : Text.trim service = ""
  . rw [listing_of_blank hblank, listing_of_blank hblank]
    rfl
  . rw [← apply_remove, endpoints_apply hblank, Change.service, if_pos hservice.symm, Change.replay]

theorem resolve_remove {removed : Pattern} (hremoved : removed.text = pattern)
    (hother : Text.trim service ≠ Text.trim raw ∨ method ≠ m ∨ path ∉ removed.paths)
    : ((s.remove now raw m pattern).2.listing service).resolve method path
        =
      (s.listing service).resolve method path := by
  by_cases hservice : Text.trim service = Text.trim raw
  . apply EndpointListing.resolve_of_filter (endpoints_remove hservice)
    intro p _ happlies
    rw [decide_eq_true_eq]
    rintro ⟨hmethod, htext⟩
    rcases applies_iff.1 happlies with ⟨hmethod', hpath⟩
    have hpattern : p.pattern = removed := Pattern.text_inj (htext.trans hremoved.symm)
    rw [hpattern] at hpath
    rcases hother with hservice' | hmethod'' | hpath'
    . exact hservice' hservice
    . exact hmethod'' (hmethod'.symm.trans hmethod)
    . exact hpath' hpath
  . have hother' : (Change.remove raw m pattern).service ≠ Text.trim service := Ne.symm hservice
    rw [← apply_remove, listing_apply_of_ne hother']

theorem lacks_replay (h : ∀ p ∈ policies, ¬ p.At method pattern) (hservice : change.service = name)
    (hadds : ¬ change.Adds name method pattern) : ∀ p ∈ change.replay policies, ¬ p.At method pattern := by
  intro p hp hat
  cases change with
  | upsert e =>
    rw [← put_eq_replay] at hp
    cases mem_put hp with
    | inl heq => exact hadds ⟨hservice, heq ▸ hat⟩
    | inr hmem => exact h p hmem hat
  | remove raw m t => exact h p (List.mem_filter.1 hp).1 hat
  | replace raw listed =>
    rcases List.mem_filter.1 hp with ⟨hmem, htext⟩
    exact hadds ⟨hservice, p, hmem, (of_decide_eq_true htext).trans hservice, hat⟩

theorem lacks_of_blank (h : Text.trim service = "") : s.Lacks service method pattern := by
  unfold Lacks
  rw [listing_of_blank h]
  exact List.forall_mem_nil _

theorem Lacks.apply (h : s.Lacks service method pattern) (hadds : ¬ change.Adds (Text.trim service) method pattern)
    : (s.apply now change).2.Lacks service method pattern := by
  by_cases hblank : Text.trim service = ""
  . exact lacks_of_blank hblank
  . unfold Lacks
    rw [endpoints_apply hblank]
    split
    . next hservice => exact lacks_replay h hservice hadds
    . exact h

theorem Lacks.run (h : s.Lacks service method pattern)
    (hadds : ∀ change ∈ changes, ¬ change.2.Adds (Text.trim service) method pattern)
    : (s.run changes).Lacks service method pattern := by
  induction changes generalizing s with
  | nil => exact h
  | cons change changes ih =>
    rw [List.forall_mem_cons] at hadds
    exact ih (h.apply hadds.1) hadds.2

theorem lacks_remove (hservice : Text.trim service = Text.trim raw)
    : (s.remove now raw m pattern).2.Lacks service m pattern := by
  unfold Lacks
  rw [endpoints_remove hservice]
  intro p hp
  exact of_decide_eq_true (List.mem_filter.1 hp).2

theorem changes_local (s : EndpointStore) (now : Instant)
    : (∀ (e : EndpointPolicy) (service : String) (method : Method) (path : String),
        let before := (s.listing service).resolve method path
        let after := ((s.upsert now e).2.listing service).resolve method path
        after ≠ before →
          Text.trim service = e.service.text ∧ method = e.method ∧ path ∈ e.pattern.paths ∧ after = some e)
      ∧ ∀ (raw : String) (m : Method) (pattern version : String),
        let removal := s.remove now raw m pattern
        removal.1 = some version →
          (∃ removed : Pattern, removed.text = pattern
            ∧ ∀ (service : String) (method : Method) (path : String),
              Text.trim service ≠ Text.trim raw ∨ method ≠ m ∨ path ∉ removed.paths →
                (removal.2.listing service).resolve method path = (s.listing service).resolve method path)
          ∧ ∀ changes : List (Instant × Change),
            (∀ change ∈ changes, ¬ change.2.Adds (Text.trim raw) m pattern) →
              ∀ (service : String) (method : Method) (path : String) (e : EndpointPolicy),
                Text.trim service = Text.trim raw →
                  ((removal.2.run changes).listing service).resolve method path = some e → ¬ e.At m pattern := by
  refine ⟨?_, ?_⟩
  . intro e service method path before after hne
    rcases resolve_upsert s now e service method path with hkept | ⟨hservice, happlies, htaken⟩
    . exact absurd hkept hne
    . rcases applies_iff.1 happlies with ⟨hmethod, hpath⟩
      exact ⟨hservice.symm, hmethod.symm, hpath, htaken⟩
  . intro raw m pattern version removal hversion
    rcases exists_at_of_remove hversion with ⟨p, _, hat⟩
    refine ⟨⟨p.pattern, hat.2, fun service method path => resolve_remove hat.2⟩, ?_⟩
    intro changes hadds service method path e hservice hresolve
    rw [← hservice] at hadds
    exact (lacks_remove hservice).run hadds e (EndpointListing.mem_of_resolve hresolve)

theorem changes_local_of_shadowed_endpoint
    : let item : Pattern := ⟨"/users/*", [.literal "users", .single], by decide, by decide⟩
      let all : Pattern := ⟨"/users/**", [.literal "users", .rest], by decide, by decide⟩
      let me : Pattern := ⟨"/users/me", [.literal "users", .literal "me"], by decide, by decide⟩
      let service : ServiceName := ⟨"directory", by decide, by decide⟩
      let opened : EndpointPolicy := { method := .get, pattern := all, service, isPublic := true }
      let guarded : EndpointPolicy := { method := .get, pattern := item, service }
      let own : EndpointPolicy := { method := .get, pattern := me, service }
      let s := empty.run [(⟨0⟩, .replace "directory" [opened, guarded, guarded])]
      let removal := s.remove ⟨0⟩ "directory " .get "/users/*"
      let changes := [(⟨0⟩, .upsert own), (⟨0⟩, .replace "billing" [guarded])]
      ((s.upsert ⟨0⟩ own).2.listing " directory").resolve .get "/users/me"
          ≠ (s.listing " directory").resolve .get "/users/me"
        ∧ ((s.upsert ⟨0⟩ own).2.listing " directory").resolve .get "/users/me" = some own
        ∧ removal.1 = some "1970-01-01T00:00:00.002Z"
        ∧ (removal.2.listing "directory").resolve .post "/users/7" = (s.listing "directory").resolve .post "/users/7"
        ∧ (∀ change ∈ changes, ¬ change.2.Adds "directory" .get "/users/*")
        ∧ ((removal.2.run changes).listing "directory").resolve .get "/users/7" = some opened
        ∧ ¬ opened.At .get "/users/*" := by
  intro item all me service opened guarded own s removal changes
  have hlocal := changes_local s ⟨0⟩
  have hchanged : ((s.upsert ⟨0⟩ own).2.listing " directory").resolve .get "/users/me"
      ≠ (s.listing " directory").resolve .get "/users/me" := by decide
  have hversion : removal.1 = some "1970-01-01T00:00:00.002Z" := by decide
  have hadds : ∀ change ∈ changes, ¬ change.2.Adds "directory" .get "/users/*" := by decide
  have hresolve : ((removal.2.run changes).listing "directory").resolve .get "/users/7" = some opened := by decide
  rcases hlocal.2 "directory " .get "/users/*" _ hversion with ⟨⟨removed, _, hkept⟩, hgone⟩
  exact ⟨hchanged, (hlocal.1 own " directory" .get "/users/me" hchanged).2.2.2, hversion,
    hkept "directory" .post "/users/7" (.inr (.inl (by decide))), hadds, hresolve,
    hgone changes hadds "directory" .get "/users/7" opened (by decide) hresolve⟩

end EndpointStore

end TenantAuth
