import Mathlib.Data.List.Induction
import TenantAuth.Endpoint.Listing
import TenantAuth.Proofs.Endpoint.Specificity

/-!
This module contains the theory of the policy that applies to a request: the first one among the most
specific policies that are for its method and its path.
-/

namespace TenantAuth

namespace EndpointListing

variable {l : EndpointListing} {policies : List EndpointPolicy} {method : Method} {path : String}
  {e p q : EndpointPolicy}

theorem applies_iff : applies method path p = true ↔ p.method = method ∧ path ∈ p.pattern.paths := by
  rw [applies, Bool.and_eq_true, beq_iff_eq, Pattern.mem_paths]

/--
What is selected among the first policies of a list. None of them applies if nothing is selected; else
those that apply and come before the selected one are less specific, and no other is more specific.
-/
def Selects (method : Method) (path : String) (policies : List EndpointPolicy) : Option EndpointPolicy → Prop
  | none => ∀ q ∈ policies, ¬ applies method path q = true
  | some e => ∃ before after, policies = before ++ e :: after ∧ applies method path e = true
      ∧ (∀ q ∈ before, applies method path q = true → q.pattern.specificity < e.pattern.specificity)
      ∧ (∀ q ∈ after, applies method path q = true → q.pattern.specificity ≤ e.pattern.specificity)

theorem Selects.skip {best : Option EndpointPolicy} (h : Selects method path policies best)
    (hp : ¬ applies method path p = true) : Selects method path (policies ++ [p]) best := by
  cases best with
  | none =>
    intro q hq
    rw [List.mem_append, List.mem_singleton] at hq
    cases hq with
    | inl hq => exact h q hq
    | inr hq => exact hq ▸ hp
  | some e =>
    rcases h with ⟨before, after, rfl, he, hbefore, hafter⟩
    refine ⟨before, after ++ [p], by simp, he, hbefore, ?_⟩
    intro q hq hqapplies
    rw [List.mem_append, List.mem_singleton] at hq
    cases hq with
    | inl hq => exact hafter q hq hqapplies
    | inr hq => exact absurd (hq ▸ hqapplies) hp

theorem Selects.consider {best : Option EndpointPolicy} (h : Selects method path policies best)
    (hp : applies method path p = true) : Selects method path (policies ++ [p]) (better best p) := by
  cases best with
  | none =>
    refine ⟨policies, [], rfl, hp, ?_, List.forall_mem_nil _⟩
    intro q hq hqapplies
    exact absurd hqapplies (h q hq)
  | some e =>
    rcases h with ⟨before, after, rfl, he, hbefore, hafter⟩
    rw [better]
    split
    . next hlt =>
      refine ⟨before ++ e :: after, [], by simp, hp, ?_, List.forall_mem_nil _⟩
      intro q hq hqapplies
      rw [List.mem_append, List.mem_cons] at hq
      rcases hq with hq | rfl | hq
      . exact lt_trans (hbefore q hq hqapplies) hlt
      . exact hlt
      . exact lt_of_le_of_lt (hafter q hq hqapplies) hlt
    . next hle =>
      refine ⟨before, after ++ [p], by simp, he, hbefore, ?_⟩
      intro q hq hqapplies
      rw [List.mem_append, List.mem_singleton] at hq
      cases hq with
      | inl hq => exact hafter q hq hqapplies
      | inr hq => exact hq ▸ not_lt.1 hle

theorem selects_foldl (method : Method) (path : String) (policies : List EndpointPolicy)
    : Selects method path policies ((policies.filter (applies method path)).foldl better none) := by
  -- The selection goes on from the policies before to the next one, so the induction is from the right.
  induction policies using List.reverseRecOn with
  | nil => exact List.forall_mem_nil _
  | append_singleton policies p ih =>
    rw [List.filter_append, List.foldl_append]
    by_cases hp : applies method path p = true
    . rw [List.filter_cons_of_pos hp, List.filter_nil]
      exact ih.consider hp
    . rw [List.filter_cons_of_neg hp, List.filter_nil]
      exact ih.skip hp

theorem selects_resolve (l : EndpointListing) (method : Method) (path : String)
    : Selects method path l.endpoints (l.resolve method path) :=
  selects_foldl method path l.endpoints

theorem resolve_eq_none_iff
    : l.resolve method path = none ↔ ∀ e ∈ l.endpoints, ¬ (e.method = method ∧ path ∈ e.pattern.paths) := by
  simp only [← applies_iff]
  have h := l.selects_resolve method path
  cases hresolve : l.resolve method path with
  | none =>
    rw [hresolve] at h
    exact iff_of_true rfl h
  | some e =>
    rw [hresolve] at h
    rcases h with ⟨before, after, hl, he, _⟩
    refine iff_of_false nofun ?_
    intro hnone
    exact hnone e (by rw [hl]; simp) he

theorem selects_of_resolve (h : l.resolve method path = some e)
    : Selects method path l.endpoints (some e) :=
  h ▸ l.selects_resolve method path

theorem exists_place_of_resolve (h : l.resolve method path = some e)
    : ∃ i : Nat, l.endpoints[i]? = some e ∧ applies method path e = true
        ∧ ∀ (j : Nat) (q : EndpointPolicy), l.endpoints[j]? = some q → applies method path q = true →
          q.pattern.specificity ≤ e.pattern.specificity
            ∧ (j < i → q.pattern.specificity < e.pattern.specificity) := by
  rcases selects_of_resolve h with ⟨before, after, hl, he, hbefore, hafter⟩
  refine ⟨before.length, by rw [hl]; simp, he, ?_⟩
  intro j q hj hq
  rw [hl] at hj
  by_cases hplace : j < before.length
  . rw [List.getElem?_append_left hplace] at hj
    have hlt := hbefore q (List.mem_of_getElem? hj) hq
    exact ⟨hlt.le, fun _ => hlt⟩
  . rw [List.getElem?_append_right (not_lt.1 hplace)] at hj
    refine ⟨?_, fun h => absurd h hplace⟩
    rcases List.mem_cons.1 (List.mem_of_getElem? hj) with rfl | hmem
    . exact le_refl _
    . exact hafter q hmem hq

end EndpointListing

theorem resolve_most_specific
    : (∀ p q : Pattern, p.paths ⊆ q.paths →
        q.specificity ≤ p.specificity ∧ (q.specificity = p.specificity ↔ p.paths = q.paths))
      ∧ ∀ (l : EndpointListing) (method : Method) (path : String),
        (l.resolve method path = none
            ↔ ∀ e ∈ l.endpoints, ¬ (e.method = method ∧ path ∈ e.pattern.paths))
          ∧ ∀ e, l.resolve method path = some e →
            ∃ i : Nat, l.endpoints[i]? = some e ∧ e.method = method ∧ path ∈ e.pattern.paths
              ∧ ∀ (j : Nat) (q : EndpointPolicy), l.endpoints[j]? = some q → j ≠ i →
                q.method = method → path ∈ q.pattern.paths →
                  ¬ q.pattern.paths ⊂ e.pattern.paths
                    ∧ (q.pattern.specificity = e.pattern.specificity → i < j) := by
  refine ⟨fun p q h => Pattern.specificity_le_of_subset h, ?_⟩
  intro l method path
  refine ⟨EndpointListing.resolve_eq_none_iff, ?_⟩
  intro e he
  rcases EndpointListing.exists_place_of_resolve he with ⟨i, hi, happlies, hothers⟩
  rcases EndpointListing.applies_iff.1 happlies with ⟨hmethod, hpath⟩
  refine ⟨i, hi, hmethod, hpath, ?_⟩
  intro j q hj hne hqmethod hqpath
  rcases hothers j q hj (EndpointListing.applies_iff.2 ⟨hqmethod, hqpath⟩) with ⟨hle, hlt⟩
  refine ⟨Pattern.not_ssubset_of_specificity_le hle, ?_⟩
  intro heq
  rcases Nat.lt_trichotomy j i with hji | hji | hji
  . exact absurd heq (hlt hji).ne
  . exact absurd hji hne
  . exact hji

theorem resolve_most_specific_below_open_end
    : let item : Pattern := ⟨"/users/*", [.literal "users", .single], by decide, by decide⟩
      let all : Pattern := ⟨"/users/**", [.literal "users", .rest], by decide, by decide⟩
      let service : ServiceName := ⟨"directory", by decide, by decide⟩
      let opened : EndpointPolicy := { method := .get, pattern := all, service, isPublic := true }
      let guarded : EndpointPolicy := { method := .get, pattern := item, service }
      let shadowed : EndpointPolicy := { method := .get, pattern := item, service, isPublic := true }
      let l : EndpointListing := ⟨"directory", "v", [opened, guarded, shadowed]⟩
      item.paths ⊆ all.paths
        ∧ all.specificity ≤ item.specificity
        ∧ (all.specificity = item.specificity ↔ item.paths = all.paths)
        ∧ l.resolve .get "/users/7" = some guarded
        ∧ ∃ i : Nat, l.endpoints[i]? = some guarded
          ∧ (l.endpoints[2]? = some shadowed → 2 ≠ i →
            ¬ shadowed.pattern.paths ⊂ guarded.pattern.paths ∧ i < 2) := by
  intro item all service opened guarded shadowed l
  have hsubset : item.paths ⊆ all.paths := Pattern.paths_subset_iff.2 (.literal (.rest _))
  rcases resolve_most_specific.1 item all hsubset with ⟨hle, heq⟩
  have hresolve : l.resolve .get "/users/7" = some guarded := by decide
  rcases (resolve_most_specific.2 l .get "/users/7").2 guarded hresolve with ⟨i, hi, _, hpath, hothers⟩
  refine ⟨hsubset, hle, heq, hresolve, i, hi, ?_⟩
  intro hshadowed hne
  rcases hothers 2 shadowed hshadowed hne rfl hpath with ⟨hssubset, hlater⟩
  exact ⟨hssubset, hlater rfl⟩

end TenantAuth
