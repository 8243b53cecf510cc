import TenantAuth.Proofs.Endpoint.Locality

/-!
This module contains the theory of changes that leave a service alone: those that fail and those that are addressed
to another service. The main statement is that nothing published for the service differs after them, and that an
endpoint which is listed and removed again leaves no trace among the entries (`mutations_isolated`).
-/

namespace TenantAuth

namespace EndpointStore

variable {s : EndpointStore} {now later : Instant} {service raw name pattern : String} {method : Method}
  {p : EndpointPolicy} {policies : List EndpointPolicy} {changes : List (Instant × Change)}

theorem lacks_of_unknown (h : s.table.get? (Text.trim raw) = none) : s.Lacks raw method pattern := by
  unfold Lacks
  rw [listing_of_unknown h]
  exact List.forall_mem_nil _

theorem listing_run_of_ne (hother : ∀ change ∈ changes, change.2.service ≠ Text.trim name)
    : (s.run changes).listing name = s.listing name := by
  induction changes generalizing s with
  | nil => rfl
  | cons change changes ih =>
    rw [List.forall_mem_cons] at hother
    rw [run, List.foldl_cons, ← run, ih hother.2, listing_apply_of_ne hother.1]

theorem put_of_not_at (h : ∀ q ∈ policies, ¬ q.At p.method p.pattern.text)
    : put p policies = policies ++ [p] := by
  have hnone : policies.findIdx? (fun q => q.At p.method p.pattern.text) = none := by
    rw [List.findIdx?_eq_none_iff]
    intro q hq
    exact decide_eq_false (h q hq)
  rw [put_eq_replay, Change.replay, hnone]

theorem remove_upsert (hservice : p.service.text = Text.trim raw) (hlacks : s.Lacks raw p.method p.pattern.text)
    : ((s.upsert now p).2.remove later raw p.method p.pattern.text).1 ≠ none
        ∧ (((s.upsert now p).2.remove later raw p.method p.pattern.text).2.listing raw).endpoints
          = (s.listing raw).endpoints := by
  have hat : p.At p.method p.pattern.text := ⟨rfl, rfl⟩
  have hput : ((s.upsert now p).2.listing raw).endpoints = (s.listing raw).endpoints ++ [p] := by
    rw [endpoints_upsert hservice, put_of_not_at hlacks]
  constructor
  . rw [ne_eq, remove_eq_none_iff, Lacks, hput]
    intro hnone
    exact hnone p (List.mem_append_right _ (List.mem_singleton_self p)) hat
  . have hkept : (s.listing raw).endpoints.filter (fun q => ¬ q.At p.method p.pattern.text)
        = (s.listing raw).endpoints := by
      rw [List.filter_eq_self]
      intro q hq
      exact decide_eq_true (hlacks q hq)
    rw [endpoints_remove rfl, hput, List.filter_append, hkept, List.filter_cons_of_neg (by simpa using hat),
      List.filter_nil, List.append_nil]

theorem mutations_isolated (s : EndpointStore) (now : Instant)
    : (∀ (raw : String) (method : Method) (pattern : String),
        let removal := s.remove now raw method pattern
        (removal.1 = none
            ↔ Text.trim raw = "" ∨ s.table.get? (Text.trim raw) = none ∨ s.Lacks raw method pattern)
          ∧ (removal.1 = none → ∀ name, removal.2.listing name = s.listing name)
          ∧ (s.table.get? (Text.trim raw) = none →
            removal.2.listing raw = ⟨Text.trim raw, EndpointListing.epochVersion, []⟩))
      ∧ (∀ (changes : List (Instant × Change)) (name : String),
        (∀ change ∈ changes, change.2.service ≠ Text.trim name) →
          (s.run changes).listing name = s.listing name)
      ∧ ∀ (p : EndpointPolicy) (raw : String) (later : Instant),
        p.service.text = Text.trim raw → s.Lacks raw p.method p.pattern.text →
          let removal := (s.upsert now p).2.remove later raw p.method p.pattern.text
          removal.1 ≠ none ∧ (removal.2.listing raw).endpoints = (s.listing raw).endpoints := by
  refine ⟨?_, ?_, ?_⟩
  . intro raw method pattern removal
    refine ⟨?_, ?_, ?_⟩
    . constructor
      . intro hnone
        exact .inr (.inr (remove_eq_none_iff.1 hnone))
      . rintro (hblank | hunknown | hlacks)
        . exact remove_eq_none_iff.2 (lacks_of_blank hblank)
        . exact remove_eq_none_iff.2 (lacks_of_unknown hunknown)
        . exact remove_eq_none_iff.2 hlacks
    . intro hnone name
      have hremoval : removal = (none, s) := remove_of_lacks (remove_eq_none_iff.1 hnone)
      rw [hremoval]
    . intro hunknown
      have hremoval : removal = (none, s) := remove_of_lacks (lacks_of_unknown hunknown)
      rw [hremoval, listing_of_unknown hunknown]
      rfl
  . intro changes name hother
    exact listing_run_of_ne hother
  . intro p raw later hservice hlacks removal
    exact remove_upsert hservice hlacks

theorem mutations_isolated_of_unknown_service
    : let users : EndpointPolicy := {
        method := .get
        pattern := ⟨"/users/*", [.literal "users", .single], by decide, rfl⟩
        service := ⟨"directory", by decide, by decide⟩
      }
      let health : EndpointPolicy := { users with pattern := ⟨"/health", [.literal "health"], by decide, rfl⟩ }
      let foreign : EndpointPolicy := { users with service := ⟨"billing", by decide, by decide⟩ }
      let s := empty.run [(⟨0⟩, .replace "directory" [users, users])]
      let changes := [
        (⟨0⟩, .upsert foreign),
        (⟨0⟩, .remove " billing" .get "/users/*"),
        (⟨0⟩, .replace "billing" [users, foreign])
      ]
      let removal := (s.upsert ⟨0⟩ health).2.remove ⟨0⟩ " directory" .get "/health"
      (s.remove ⟨0⟩ "billing" .get "/users/*").1 = none
        ∧ (s.remove ⟨0⟩ "billing" .get "/users/*").2.listing "billing"
          = ⟨"billing", EndpointListing.epochVersion, []⟩
        ∧ (∀ change ∈ changes, change.2.service ≠ Text.trim "directory ")
        ∧ (s.run changes).listing "directory " = s.listing "directory "
        ∧ s.Lacks " directory" .get "/health"
        ∧ removal.1 ≠ none
        ∧ (removal.2.listing " directory").endpoints = [users, users] := by
  intro users health foreign s changes removal
  rcases mutations_isolated s ⟨0⟩ with ⟨hfailed, hforeign, hrestored⟩
  have hunknown : s.table.get? (Text.trim "billing") = none := rfl
  have hother : ∀ change ∈ changes, change.2.service ≠ Text.trim "directory " := by decide
  have hlacks : s.Lacks " directory" .get "/health" := by
    unfold Lacks
    decide
  rcases hfailed "billing" .get "/users/*" with ⟨hnone, _, hepoch⟩
  rcases hrestored health " directory" ⟨0⟩ (by decide) hlacks with ⟨hremoved, hendpoints⟩
  exact ⟨hnone.2 (.inr (.inl hunknown)), hepoch hunknown, hother, hforeign changes "directory " hother, hlacks,
    hremoved, hendpoints.trans (by decide)⟩

end EndpointStore

end TenantAuth
