import TenantAuth.Proofs.Endpoint.Locality

/-!
This module contains the theory of what the store of endpoint policies holds and what of it can be read. The
main statement is that everything can be read but the list that replacements under a blank name leave
(`all_read_but_blank`).
-/

namespace TenantAuth

theorem Instant.text_ne_epochVersion (t : Instant) : t.text ≠ EndpointListing.epochVersion := by
  have hpoint : '.' ∈ t.text.toList := by
    rw [toList_text]
    simp
  intro h
  rw [h] at hpoint
  exact absurd hpoint (by decide)

namespace EndpointStore

/--
Every list is stored under the trimmed name that its policies carry.
-/
structure Keyed (s : EndpointStore) : Prop where
  trim_name : ∀ name e, s.table.get? name = some e → Text.trim name = name
  service_eq : ∀ name e, s.table.get? name = some e → ∀ p ∈ e.endpoints, p.service.text = name

def Change.ReplacesBlank : Change → Prop
  | .upsert _ => False
  | .remove _ _ _ => False
  | .replace service _ => Text.trim service = ""

variable {s : EndpointStore} {now : Instant} {service name version : String} {e : Entry}
  {policies : List EndpointPolicy} {change : Change} {changes : List (Instant × Change)}

theorem service_of_mem_replay {p : EndpointPolicy} (h : ∀ q ∈ policies, q.service.text = change.service)
    (hp : p ∈ change.replay policies) : p.service.text = change.service := by
  cases change with
  | upsert q =>
    rw [← put_eq_replay] at hp
    cases mem_put hp with
    | inl heq => rw [heq]; rfl
    | inr hmem => exact h p hmem
  | remove raw method pattern => exact h p (List.mem_filter.1 hp).1
  | replace raw listed => exact of_decide_eq_true (List.mem_filter.1 hp).2

theorem Keyed.service_of_mem_listing {p : EndpointPolicy} (h : s.Keyed) (hp : p ∈ (s.listing service).endpoints)
    : p.service.text = Text.trim service := by
  by_cases hblank : Text.trim service = ""
  . rw [listing_of_blank hblank] at hp
    cases hp
  . cases hget : s.table.get? (Text.trim service) with
    | none =>
      rw [listing_of_unknown hget] at hp
      cases hp
    | some e =>
      rw [listing_of_known hblank hget] at hp
      exact h.service_eq _ e hget p hp

theorem keyed_empty : empty.Keyed where
  trim_name := nofun
  service_eq := nofun

theorem Keyed.write (h : s.Keyed) (htrim : Text.trim service = service)
    (hservice : ∀ p ∈ policies, p.service.text = service) : (s.write now service policies).2.Keyed where
  trim_name name e hget := by
    rw [get?_write] at hget
    split at hget
    . next heq => rw [heq, htrim]
    . exact h.trim_name name e hget
  service_eq name e hget := by
    rw [get?_write] at hget
    split at hget
    . next heq =>
      cases hget
      rw [heq]
      exact hservice
    . exact h.service_eq name e hget

theorem Keyed.apply (h : s.Keyed) : (s.apply now change).2.Keyed := by
  by_cases hmisses : change.Misses (s.listing change.service).endpoints
  . rw [apply_of_misses hmisses]
    exact h
  . rw [apply_of_not_misses hmisses]
    have htrim := trim_service change
    have hlisted : ∀ p ∈ (s.listing change.service).endpoints, p.service.text = change.service := by
      intro p hp
      rw [h.service_of_mem_listing hp, htrim]
    exact h.write htrim fun p hp => service_of_mem_replay hlisted hp

theorem Keyed.run (h : s.Keyed) : (s.run changes).Keyed := by
  induction changes generalizing s with
  | nil => exact h
  | cons change changes ih => exact ih h.apply

-- A policy always carries a name, and nothing is ever removed from a list that cannot be read.
theorem replacesBlank_iff
    : change.ReplacesBlank ↔ change.service = "" ∧ ¬ change.Misses (s.listing change.service).endpoints := by
  cases change with
  | upsert p => exact iff_of_false id fun h => p.service.text_ne h.1
  | remove raw method pattern =>
    refine iff_of_false id ?_
    rintro ⟨hblank, hmisses⟩
    apply hmisses
    rw [listing_of_blank ((trim_service _).trans hblank)]
    exact List.forall_mem_nil _
  | replace raw listed => exact (and_iff_left id).symm

theorem holds_blank_apply_iff
    : (∃ e, (s.apply now change).2.table.get? "" = some e)
        ↔
      (∃ e, s.table.get? "" = some e) ∨ change.ReplacesBlank := by
  rw [replacesBlank_iff (s := s)]
  by_cases hmisses : change.Misses (s.listing change.service).endpoints
  . rw [apply_of_misses hmisses]
    simp [hmisses]
  . rw [apply_of_not_misses hmisses]
    simp only [get?_write, hmisses, not_false_eq_true, and_true]
    split
    . next hblank => simp [hblank.symm]
    . next hne => simp [Ne.symm hne]

theorem holds_blank_run_iff
    : (∃ e, (s.run changes).table.get? "" = some e)
        ↔
      (∃ e, s.table.get? "" = some e) ∨ ∃ change ∈ changes, change.2.ReplacesBlank := by
  induction changes generalizing s with
  | nil => simp [run]
  | cons change changes ih =>
    rw [run, List.foldl_cons, ← run, ih, holds_blank_apply_iff, or_assoc]
    simp only [List.mem_cons, exists_eq_or_imp]

theorem listing_eq_entry_iff (h : s.Keyed) (hget : s.table.get? name = some e)
    : s.listing name = ⟨name, e.version.text, e.endpoints⟩ ↔ name ≠ "" := by
  have htrim := h.trim_name name e hget
  constructor
  . intro hlisting hblank
    rw [listing_of_blank (htrim.trans hblank)] at hlisting
    exact e.version.text_ne_epochVersion (congrArg EndpointListing.version hlisting).symm
  . intro hne
    have hlisting := listing_of_known (htrim.symm ▸ hne) (htrim.symm ▸ hget)
    rwa [htrim] at hlisting

theorem version_read_iff (hservice : Text.trim service = change.service)
    (happly : (s.apply now change).1 = some version)
    : ((s.apply now change).2.listing service).version = version ↔ ¬ change.ReplacesBlank := by
  have hmisses : ¬ change.Misses (s.listing change.service).endpoints := by
    intro h
    rw [apply_eq_none_iff.2 h] at happly
    cases happly
  rw [replacesBlank_iff (s := s), and_iff_left hmisses]
  rw [apply_of_not_misses hmisses] at happly ⊢
  rw [← Option.some.inj happly, ← hservice]
  by_cases hblank : Text.trim service = ""
  . rw [listing_of_blank hblank, iff_false_right (not_not_intro hblank)]
    intro h
    exact Instant.text_ne_epochVersion _ h.symm
  . rw [iff_true_right hblank, listing_write_self hblank]

theorem all_read_but_blank (changes : List (Instant × Change))
    : (∀ name e, (empty.run changes).table.get? name = some e →
        Text.trim name = name ∧ (∀ p ∈ e.endpoints, p.service.text = name)
          ∧ ((empty.run changes).listing name = ⟨name, e.version.text, e.endpoints⟩ ↔ name ≠ ""))
      ∧ ((∃ e, (empty.run changes).table.get? "" = some e) ↔ ∃ change ∈ changes, change.2.ReplacesBlank)
      ∧ ∀ now change version, ((empty.run changes).apply now change).1 = some version →
        ∀ service, Text.trim service = change.service →
          ((((empty.run changes).apply now change).2.listing service).version = version
              ↔
            ¬ change.ReplacesBlank) := by
  have hkeyed : (empty.run changes).Keyed := keyed_empty.run
  refine ⟨?_, ?_, ?_⟩
  . intro name e hget
    exact ⟨hkeyed.trim_name name e hget, hkeyed.service_eq name e hget, listing_eq_entry_iff hkeyed hget⟩
  . rw [holds_blank_run_iff]
    exact or_iff_right nofun
  . intro now change version happly service hservice
    exact version_read_iff hservice happly

theorem all_read_but_blank_of_padded_names
    : let users : EndpointPolicy := {
        method := .get
        pattern := ⟨"/users/*", [.literal "users", .single], by decide, rfl⟩
        service := ⟨"directory", by decide, by decide⟩
      }
      let foreign : EndpointPolicy := { users with service := ⟨"billing", by decide, by decide⟩ }
      let changes := [(⟨0⟩, .replace " \t" [users]), (⟨1500000⟩, .replace " directory " [users, foreign])]
      let e : Entry := ⟨⟨1500000⟩, [users]⟩
      let change : Change := .remove " directory" .get "/users/*"
      (empty.run changes).table.get? "directory" = some e
        ∧ Text.trim "directory" = "directory" ∧ (∀ p ∈ e.endpoints, p.service.text = "directory")
        ∧ (empty.run changes).listing "directory" = ⟨"directory", e.version.text, e.endpoints⟩
        ∧ (∃ e, (empty.run changes).table.get? "" = some e)
        ∧ ((empty.run changes).apply ⟨0⟩ change).1 = some "1970-01-01T00:00:00.002Z"
        ∧ Text.trim "\tdirectory" = change.service
        ∧ (((empty.run changes).apply ⟨0⟩ change).2.listing "\tdirectory").version = "1970-01-01T00:00:00.002Z" := by
  intro users foreign changes e change
  rcases all_read_but_blank changes with ⟨hentries, hblank, hversions⟩
  have hget : (empty.run changes).table.get? "directory" = some e := rfl
  have happly : ((empty.run changes).apply ⟨0⟩ change).1 = some "1970-01-01T00:00:00.002Z" := by decide
  have hservice : Text.trim "\tdirectory" = change.service := by decide
  rcases hentries _ _ hget with ⟨htrim, hservices, hlisting⟩
  refine ⟨hget, htrim, hservices, hlisting.2 (by decide), hblank.2 ?_, happly, hservice, ?_⟩
  . exact ⟨(⟨0⟩, .replace " \t" [users]), List.mem_cons_self, show Text.trim " \t" = "" by decide⟩
  . exact (hversions ⟨0⟩ change _ happly _ hservice).2 id

/--
A list under a blank name is stored and answered with a version, but it is never read.
-/
theorem replace_hides_entry
    : let store := empty.run [(.epoch, .replace " " [])]
      store.table.get? "" = some ⟨⟨1000000⟩, []⟩
        ∧ (empty.apply .epoch (.replace " " [])).1 = some "1970-01-01T00:00:00.001Z"
        ∧ store.listing " " = ⟨"", "1970-01-01T00:00:00Z", []⟩
        ∧ store.listing "" = ⟨"", "1970-01-01T00:00:00Z", []⟩ := by
  exact ⟨rfl, by decide, by decide, by decide⟩

end EndpointStore

end TenantAuth
