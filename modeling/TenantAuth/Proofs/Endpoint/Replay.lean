import TenantAuth.Proofs.Endpoint.Versions

/-!
This module contains the theory of runs of changes to the store of endpoint policies. The main statement is
that a service's list is what its changes make of an empty list when they are replayed in order
(`listing_replays`). Lists can be read at any time, which leaves the store as it is.
-/

namespace TenantAuth

def EndpointPolicy.At (p : EndpointPolicy) (method : Method) (pattern : String) : Prop :=
  p.method = method ∧ p.pattern.text = pattern

instance {p : EndpointPolicy} {method : Method} {pattern : String} : Decidable (p.At method pattern) :=
  inferInstanceAs (Decidable (_ ∧ _))

namespace EndpointStore

/--
What a change makes of the policies of the service to which it is addressed.
-/
def Change.replay (policies : List EndpointPolicy) : Change → List EndpointPolicy
  | .upsert p =>
    match policies.findIdx? fun q => q.At p.method p.pattern.text with
    | some i => policies.set i p
    | none => policies ++ [p]
  | .remove _ method pattern => policies.filter fun p => ¬ p.At method pattern
  | .replace service listed => listed.filter fun p => p.service.text = Text.trim service

def Change.Misses (policies : List EndpointPolicy) : Change → Prop
  | .upsert _ => False
  | .remove _ method pattern => ∀ p ∈ policies, ¬ p.At method pattern
  | .replace _ _ => False

instance {policies : List EndpointPolicy} : (change : Change) → Decidable (change.Misses policies)
  | .upsert _ => inferInstanceAs (Decidable False)
  | .remove _ method pattern => inferInstanceAs (Decidable (∀ p ∈ policies, ¬ p.At method pattern))
  | .replace _ _ => inferInstanceAs (Decidable False)

/--
The changes of a run that are made to one service, each with the version that it is answered with.
-/
def mutations (s : EndpointStore) (name : String) : List (Instant × Change) → List (Change × String)
  | [] => []
  | (now, change) :: changes =>
    match s.apply now change with
    | (some version, t) =>
      if change.service = name then
        (change, version) :: mutations t name changes
      else
        mutations t name changes
    | (none, t) => mutations t name changes

variable {s : EndpointStore} {now : Instant} {service name pattern : String} {method : Method}
  {p q : EndpointPolicy} {policies : List EndpointPolicy} {change : Change} {changes : List (Instant × Change)}

theorem sameEndpoint_iff : q.sameEndpoint p = true ↔ q.At p.method p.pattern.text := by
  rw [EndpointPolicy.sameEndpoint, Bool.and_eq_true, beq_iff_eq, beq_iff_eq, EndpointPolicy.At]

theorem isFor_iff : isFor method pattern p = true ↔ p.At method pattern := by
  rw [isFor, Bool.and_eq_true, beq_iff_eq, beq_iff_eq, EndpointPolicy.At]

theorem put_eq_replay (p : EndpointPolicy) (policies : List EndpointPolicy)
    : put p policies = (Change.upsert p).replay policies := by
  induction policies with
  | nil => rfl
  | cons q policies ih =>
    simp only [Change.replay] at ih ⊢
    rw [put, List.findIdx?_cons]
    by_cases hsame : q.At p.method p.pattern.text
    . rw [if_pos (sameEndpoint_iff.2 hsame), if_pos (decide_eq_true hsame)]
      rfl
    . rw [if_neg (mt sameEndpoint_iff.1 hsame), if_neg (mt of_decide_eq_true hsame), ih]
      cases policies.findIdx? fun q => q.At p.method p.pattern.text with
      | none => rfl
      | some i => rfl

theorem filter_isFor_eq_replay
    : policies.filter (fun p => !isFor method pattern p)
        =
      (Change.remove service method pattern).replay policies := by
  apply List.filter_congr
  intro p _
  rw [Bool.eq_iff_iff, Bool.not_eq_true', ← Bool.not_eq_true, isFor_iff, decide_eq_true_iff]

theorem serviceName_listing : (s.listing service).serviceName = Text.trim service := by
  unfold listing
  dsimp only
  split
  . split
    . rfl
    . rfl
  . rfl

theorem endpoints_listing (hne : Text.trim service ≠ "")
    : (s.listing service).endpoints = (s.entry (Text.trim service)).endpoints := by
  unfold entry
  cases hget : s.table.get? (Text.trim service) with
  | none => rw [listing_of_unknown hget]; rfl
  | some e => rw [listing_of_known hne hget]; rfl

theorem trim_service (change : Change) : Text.trim change.service = change.service := by
  cases change with
  | upsert p => exact p.service.trim_text
  | remove raw method pattern => exact Text.trim_trim raw
  | replace raw listed => exact Text.trim_trim raw

theorem endpoints_listing_service (s : EndpointStore) (change : Change) (hne : change.service ≠ "")
    : (s.listing change.service).endpoints = (s.entry change.service).endpoints := by
  have htrim := trim_service change
  rw [endpoints_listing (htrim.symm ▸ hne), htrim]

theorem remove_eq_ite {raw : String}
    : s.apply now (.remove raw method pattern)
        =
      if Text.trim raw ≠ "" ∧ ∃ p ∈ (s.entry (Text.trim raw)).endpoints, p.At method pattern then
        (some (s.write now (Text.trim raw)
            ((Change.remove raw method pattern).replay (s.entry (Text.trim raw)).endpoints)).1,
          (s.write now (Text.trim raw)
            ((Change.remove raw method pattern).replay (s.entry (Text.trim raw)).endpoints)).2)
      else
        (none, s) := by
  rw [apply, remove_eq, ← filter_isFor_eq_replay]
  simp only [isFor_iff]

theorem apply_of_misses (h : change.Misses (s.listing change.service).endpoints)
    : s.apply now change = (none, s) := by
  cases change with
  | upsert p => exact h.elim
  | remove raw method pattern =>
    rw [remove_eq_ite]
    apply if_neg
    rintro ⟨hne, p, hp, hat⟩
    have hlisting := endpoints_listing_service s (.remove raw method pattern) hne
    exact h p (hlisting ▸ hp) hat
  | replace raw listed => exact h.elim

theorem apply_of_not_misses (h : ¬ change.Misses (s.listing change.service).endpoints)
    : s.apply now change
        =
      (some (s.write now change.service (change.replay (s.listing change.service).endpoints)).1,
        (s.write now change.service (change.replay (s.listing change.service).endpoints)).2) := by
  cases change with
  | upsert p =>
    rw [endpoints_listing_service s (.upsert p) p.service.text_ne, ← put_eq_replay]
    rfl
  | remove raw method pattern =>
    have hne : Text.trim raw ≠ "" := by
      intro hblank
      apply h
      intro p hp
      have hempty : s.listing (Text.trim raw) = .empty "" := listing_of_blank ((Text.trim_trim raw).trans hblank)
      rw [Change.service, hempty] at hp
      cases hp
    rw [endpoints_listing_service s (.remove raw method pattern) hne] at h ⊢
    rw [remove_eq_ite]
    apply if_pos
    refine ⟨hne, ?_⟩
    simpa [Change.Misses, Change.service] using h
  | replace raw listed => rfl

theorem listing_write_self (hne : Text.trim service ≠ "")
    : (s.write now (Text.trim service) policies).2.listing service
        =
      ⟨Text.trim service, (s.write now (Text.trim service) policies).1, policies⟩ := by
  rw [listing_of_known hne (get?_write.trans (if_pos rfl))]
  rfl

theorem listing_trim : s.listing (Text.trim service) = s.listing service := by
  unfold listing
  rw [Text.trim_trim]

def record (l : EndpointListing) (m : Change × String) : EndpointListing :=
  ⟨l.serviceName, m.2, m.1.replay l.endpoints⟩

theorem listing_write_replay (hne : Text.trim service ≠ "")
    : (s.write now change.service (change.replay (s.listing change.service).endpoints)).2.listing service
        =
      if change.service = Text.trim service then
        record (s.listing service)
          (change, (s.write now change.service (change.replay (s.listing change.service).endpoints)).1)
      else
        s.listing service := by
  split
  . next hservice => rw [hservice, listing_trim, listing_write_self hne, record, serviceName_listing]
  . next hother => rw [listing_write (Ne.symm hother)]

theorem foldl_record (l : EndpointListing) (ms : List (Change × String))
    : ms.foldl record l
        =
      ⟨l.serviceName, (ms.getLast?.map Prod.snd).getD l.version,
        (ms.map Prod.fst).foldl Change.replay l.endpoints⟩ := by
  induction ms generalizing l with
  | nil => rfl
  | cons m ms ih =>
    rw [List.foldl_cons, ih, List.getLast?_cons, List.map_cons, List.foldl_cons]
    cases ms.getLast? with
    | none => rfl
    | some last => rfl

theorem listing_run (hne : Text.trim service ≠ "")
    : (s.run changes).listing service
        =
      (s.mutations (Text.trim service) changes).foldl record (s.listing service) := by
  induction changes generalizing s with
  | nil => rfl
  | cons change changes ih =>
    rcases change with ⟨now, change⟩
    rw [run, List.foldl_cons, ← run, mutations]
    by_cases hmisses : change.Misses (s.listing change.service).endpoints
    . rw [apply_of_misses hmisses]
      exact ih
    . rw [apply_of_not_misses hmisses, ih, listing_write_replay hne]
      dsimp only
      split
      . rw [List.foldl_cons]
      . rfl

theorem replay_of_misses (h : change.Misses policies) : change.replay policies = policies := by
  cases change with
  | upsert p => exact h.elim
  | remove raw method pattern => exact List.filter_eq_self.2 fun p hp => decide_eq_true (h p hp)
  | replace raw listed => exact h.elim

theorem endpoints_apply (hne : Text.trim service ≠ "")
    : ((s.apply now change).2.listing service).endpoints
        =
      if change.service = Text.trim service then
        change.replay (s.listing service).endpoints
      else
        (s.listing service).endpoints := by
  by_cases hmisses : change.Misses (s.listing change.service).endpoints
  . rw [apply_of_misses hmisses]
    split
    . next hservice =>
      rw [hservice, listing_trim] at hmisses
      rw [replay_of_misses hmisses]
    . rfl
  . rw [apply_of_not_misses hmisses]
    dsimp only
    rw [listing_write_replay hne]
    split
    . rfl
    . rfl

theorem apply_eq_none_iff
    : (s.apply now change).1 = none ↔ change.Misses (s.listing change.service).endpoints := by
  constructor
  . intro hnone
    apply Decidable.byContradiction
    intro hmisses
    rw [apply_of_not_misses hmisses] at hnone
    cases hnone
  . intro hmisses
    rw [apply_of_misses hmisses]

theorem listing_replays (changes : List (Instant × Change)) (service : String) (hne : Text.trim service ≠ "")
    : let mutations := empty.mutations (Text.trim service) changes
      (empty.run changes).listing service = {
          serviceName := Text.trim service
          version := (mutations.getLast?.map Prod.snd).getD EndpointListing.epochVersion
          endpoints := (mutations.map Prod.fst).foldl Change.replay []
        }
        ∧ ∀ now change, ((empty.run changes).apply now change).1 = none
          ↔ change.Misses ((empty.run changes).listing change.service).endpoints := by
  refine ⟨?_, fun now change => apply_eq_none_iff⟩
  rw [listing_run hne, foldl_record, listing_of_unknown rfl]
  rfl

theorem listing_replays_of_padded_name
    : let users : EndpointPolicy := {
        method := .get
        pattern := ⟨"/users/*", [.literal "users", .single], by decide, rfl⟩
        service := ⟨"directory", by decide, by decide⟩
      }
      let health : EndpointPolicy := { users with pattern := ⟨"/health", [.literal "health"], by decide, rfl⟩ }
      let foreign : EndpointPolicy := { users with service := ⟨"billing", by decide, by decide⟩ }
      let changes := [
        (⟨0⟩, .replace " directory " [users, foreign]),
        (⟨1500000⟩, .upsert health),
        (⟨1500000⟩, .upsert { users with isPublic := true }),
        (⟨1500000⟩, .remove "directory" .get "/users/**")
      ]
      Text.trim " directory" ≠ ""
        ∧ (empty.run changes).listing " directory"
          = ⟨"directory", "1970-01-01T00:00:00.003Z", [{ users with isPublic := true }, health]⟩
        ∧ ∀ now, ((empty.run changes).apply now (.remove " directory" .get "/users")).1 = none := by
  intro users health foreign changes
  have hne : Text.trim " directory" ≠ "" := by decide
  rcases listing_replays changes " directory" hne with ⟨hlisting, hnone⟩
  refine ⟨hne, hlisting.trans (by decide), ?_⟩
  intro now
  rw [hnone]
  decide

end EndpointStore

end TenantAuth
