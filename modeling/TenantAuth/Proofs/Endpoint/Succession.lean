import TenantAuth.Proofs.Endpoint.Replay

/-!
This module contains the theory of the versions that a service's changes are answered with. The main
statement is that each of them, read back as a point in time, is later than all before it
(`versions_increase`), although they are cut to whole milliseconds.
-/

namespace TenantAuth

namespace Instant

def Precedes (a b : String) : Prop :=
  ∃ s t, ofText? a = some s ∧ ofText? b = some t ∧ s < t

variable {s t : Instant} {a b c : String}

theorem precedes_text_iff : Precedes s.text t.text ↔ s.millis < t.millis := by
  have hlt : ofMillis s.millis < ofMillis t.millis ↔ s.millis < t.millis := by
    show s.millis * 1000000 < t.millis * 1000000 ↔ s.millis < t.millis
    omega
  constructor
  . rintro ⟨u, v, hu, hv, huv⟩
    cases (ofText?_text s).symm.trans hu
    cases (ofText?_text t).symm.trans hv
    exact hlt.1 huv
  . intro h
    exact ⟨_, _, ofText?_text s, ofText?_text t, hlt.2 h⟩

theorem Precedes.trans (hab : Precedes a b) (hbc : Precedes b c) : Precedes a c := by
  rcases hab with ⟨s, t, hs, ht, hst⟩
  rcases hbc with ⟨t', u, ht', hu, htu⟩
  cases ht.symm.trans ht'
  exact ⟨s, u, hs, hu, Int.lt_trans hst htu⟩

end Instant

namespace EndpointStore

open Instant (Precedes)

variable {s : EndpointStore} {now : Instant} {name : String} {policies : List EndpointPolicy} {change : Change}
  {changes : List (Instant × Change)}

theorem precedes_epochVersion_iff {version : String}
    : Precedes EndpointListing.epochVersion version ↔ Precedes Instant.epoch.text version := by
  rw [Precedes, Precedes, ofText?_epochVersion, Instant.ofText?_text]
  rfl

theorem precedes_write : Precedes (s.entry name).version.text (s.write now name policies).1 :=
  Instant.precedes_text_iff.2 (millis_lt_nextVersion _ _)

theorem pairwise_precedes_mutations (s : EndpointStore) (name : String) (changes : List (Instant × Change))
    : ((s.entry name).version.text :: (s.mutations name changes).map Prod.snd).Pairwise Precedes := by
  -- The first version of a run follows on the stored one, and takes its place for the rest of the run.
  induction changes generalizing s with
  | nil => exact List.pairwise_singleton _ _
  | cons change changes ih =>
    rcases change with ⟨now, change⟩
    rw [mutations]
    rcases apply_cases s now change with ⟨policies, happly⟩ | happly
    . rw [happly]
      have hrest := ih (s.write now change.service policies).2
      rw [entry_write] at hrest
      dsimp only
      split
      . next hservice =>
        subst hservice
        rw [if_pos rfl] at hrest
        rw [List.map_cons, List.pairwise_cons, List.forall_mem_cons]
        have hfirst : Precedes (s.entry change.service).version.text (s.write now change.service policies).1 :=
          precedes_write
        refine ⟨⟨hfirst, ?_⟩, hrest⟩
        intro version hversion
        exact hfirst.trans ((List.pairwise_cons.1 hrest).1 version hversion)
      . next hother =>
        rw [if_neg (Ne.symm hother)] at hrest
        exact hrest
    . rw [happly]
      exact ih s

theorem versions_increase (changes : List (Instant × Change)) (name : String)
    : (EndpointListing.epochVersion :: (empty.mutations name changes).map Prod.snd).Pairwise Precedes
        ∧ ∀ now change, ((empty.run changes).apply now change).1 = none →
          ((empty.run changes).apply now change).2 = empty.run changes
            ∧ ∃ service method pattern, change = .remove service method pattern := by
  constructor
  . have hincrease := pairwise_precedes_mutations empty name changes
    rw [List.pairwise_cons] at hincrease ⊢
    exact ⟨fun version hversion => precedes_epochVersion_iff.2 (hincrease.1 version hversion), hincrease.2⟩
  . intro now change hnone
    have hmisses := apply_eq_none_iff.1 hnone
    rw [apply_of_misses hmisses]
    refine ⟨rfl, ?_⟩
    cases change with
    | upsert p => exact hmisses.elim
    | remove service method pattern => exact ⟨service, method, pattern, rfl⟩
    | replace service listed => exact hmisses.elim

theorem versions_increase_within_millisecond
    : let users : EndpointPolicy := {
        method := .get
        pattern := ⟨"/users/*", [.literal "users", .single], by decide, rfl⟩
        service := ⟨"directory", by decide, by decide⟩
      }
      let changes := [
        (⟨1999999⟩, .upsert users), (⟨1999999⟩, .upsert { users with isPublic := true }),
        (⟨2000001⟩, .replace " directory" [])
      ]
      let store := empty.run changes
      let removed := store.apply .epoch (.remove "directory" .get "/users/*")
      [
        EndpointListing.epochVersion, "1970-01-01T00:00:00.001Z", "1970-01-01T00:00:00.002Z",
        "1970-01-01T00:00:00.003Z"
      ].Pairwise Precedes
        ∧ removed.1 = none ∧ removed.2.listing "directory" = store.listing "directory" := by
  intro users changes store removed
  have hversions : (empty.mutations "directory" changes).map Prod.snd
      = ["1970-01-01T00:00:00.001Z", "1970-01-01T00:00:00.002Z", "1970-01-01T00:00:00.003Z"] := by
    decide
  have hremoved : removed.1 = none := by decide
  rcases versions_increase changes "directory" with ⟨hincrease, hnone⟩
  rw [hversions] at hincrease
  refine ⟨hincrease, hremoved, ?_⟩
  exact congrArg (EndpointStore.listing · "directory") (hnone _ _ hremoved).1

end EndpointStore

end TenantAuth
