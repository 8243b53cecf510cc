import TenantAuth.Endpoint.Store
import TenantAuth.Proofs.Instant.Reading

/-!
This module contains the theory of changes to the store of endpoint policies. The main statement is that
a service's version, read back as a point in time, grows whenever its list is written
(`listing_eq_or_version_lt`), so that equal versions stand for equal lists.
-/

namespace TenantAuth

namespace EndpointStore

def Change.service : Change → String
  | .upsert p => p.service.text
  | .remove service _ _ => Text.trim service
  | .replace service _ => Text.trim service

def run (s : EndpointStore) (changes : List (Instant × Change)) : EndpointStore :=
  changes.foldl (fun s change => (s.apply change.1 change.2).2) s

def versionMillis (s : EndpointStore) (service : String) : Int :=
  if Text.trim service = "" then 0 else (s.entry (Text.trim service)).version.millis

variable {s : EndpointStore} {now last : Instant} {service name : String} {endpoints : List EndpointPolicy}
  {change : Change} {changes : List (Instant × Change)}

theorem apply_cases (s : EndpointStore) (now : Instant) (change : Change)
    : (∃ endpoints, s.apply now change
          = (some (s.write now change.service endpoints).1, (s.write now change.service endpoints).2))
        ∨ s.apply now change = (none, s) := by
  cases change with
  | upsert p => exact .inl ⟨_, rfl⟩
  | remove service method pattern =>
    rw [apply, remove_eq]
    dsimp only
    split
    . exact .inl ⟨_, rfl⟩
    . exact .inr rfl
  | replace service policies => exact .inl ⟨_, rfl⟩

theorem listing_of_blank (h : Text.trim service = "") : s.listing service = .empty "" := by
  simp only [listing, h]
  split
  . rfl
  . rfl

theorem listing_of_unknown (h : s.table.get? (Text.trim service) = none)
    : s.listing service = .empty (Text.trim service) := by
  simp only [listing, h]

theorem listing_of_known {e : Entry} (hne : Text.trim service ≠ "")
    (h : s.table.get? (Text.trim service) = some e)
    : s.listing service = ⟨Text.trim service, e.version.text, e.endpoints⟩ := by
  simp only [listing, h, if_neg hne]

theorem get?_write
    : (s.write now service endpoints).2.table.get? name
        =
      if name = service then some ⟨nextVersion (s.entry service).version now, endpoints⟩ else s.table.get? name := by
  rw [write, Table.get?_insert]

theorem entry_write
    : (s.write now service endpoints).2.entry name
        =
      if name = service then ⟨nextVersion (s.entry service).version now, endpoints⟩ else s.entry name := by
  rw [entry, get?_write]
  split
  . rfl
  . rfl

theorem listing_write (hname : Text.trim name ≠ service)
    : (s.write now service endpoints).2.listing name = s.listing name := by
  unfold listing
  simp only [get?_write, if_neg hname]

theorem listing_apply_of_ne (hother : change.service ≠ Text.trim name)
    : (s.apply now change).2.listing name = s.listing name := by
  rcases apply_cases s now change with ⟨endpoints, happly⟩ | happly
  . rw [happly, listing_write (Ne.symm hother)]
  . rw [happly]

theorem millis_eq_ediv (t : Instant) : t.millis = t.nanos / 1000000 :=
  Int.fdiv_eq_ediv_of_nonneg _ (by decide)

theorem millis_lt_nextVersion (last now : Instant) : last.millis < (nextVersion last now).millis := by
  have hnext : last.nanos + 1 * 1000000 ≤ (nextVersion last now).nanos := by
    unfold nextVersion
    split
    . assumption
    . exact Int.le_refl _
  rw [millis_eq_ediv, millis_eq_ediv]
  omega

theorem ofText?_epochVersion : Instant.ofText? EndpointListing.epochVersion = some (.ofMillis 0) := by
  decide

theorem isPlain_epochVersion : ∀ c ∈ EndpointListing.epochVersion.toList, Instant.IsPlain c := by
  have hall : EndpointListing.epochVersion.toList.all (fun c => decide (Instant.IsPlain c)) = true := by decide
  intro c hc
  exact of_decide_eq_true (List.all_eq_true.1 hall c hc)

theorem version_cases (s : EndpointStore) (service : String)
    : ((s.listing service).version = EndpointListing.epochVersion ∧ s.versionMillis service = 0)
        ∨ ∃ t : Instant, (s.listing service).version = t.text ∧ s.versionMillis service = t.millis := by
  unfold versionMillis
  split
  . next hblank =>
    rw [listing_of_blank hblank]
    exact .inl ⟨rfl, rfl⟩
  . next hne =>
    unfold entry
    cases hget : s.table.get? (Text.trim service) with
    | none =>
      rw [listing_of_unknown hget]
      exact .inl ⟨rfl, rfl⟩
    | some e =>
      rw [listing_of_known hne hget]
      exact .inr ⟨e.version, rfl, rfl⟩

theorem ofText?_version (s : EndpointStore) (service : String)
    : Instant.ofText? (s.listing service).version = some (.ofMillis (s.versionMillis service)) := by
  rcases version_cases s service with ⟨hversion, hmillis⟩ | ⟨t, hversion, hmillis⟩
  . rw [hversion, hmillis, ofText?_epochVersion]
  . rw [hversion, hmillis, Instant.ofText?_text]

theorem isPlain_version (s : EndpointStore) (service : String)
    : ∀ c ∈ (s.listing service).version.toList, Instant.IsPlain c := by
  rcases version_cases s service with ⟨hversion, _⟩ | ⟨t, hversion, _⟩
  . rw [hversion]
    exact isPlain_epochVersion
  . rw [hversion]
    exact t.isPlain_text

theorem versionMillis_eq_of_version_eq {t : EndpointStore}
    (h : (s.listing service).version = (t.listing service).version)
    : s.versionMillis service = t.versionMillis service := by
  have hread := ofText?_version s service
  rw [h, ofText?_version, Option.some.injEq] at hread
  have hnanos : t.versionMillis service * 1000000 = s.versionMillis service * 1000000 :=
    congrArg Instant.nanos hread
  omega

theorem listing_eq_or_version_lt_of_apply (s : EndpointStore) (now : Instant) (change : Change)
    (service : String)
    : ((s.apply now change).2.listing service = s.listing service
          ∧ (s.apply now change).2.versionMillis service = s.versionMillis service)
        ∨ s.versionMillis service < (s.apply now change).2.versionMillis service := by
  rcases apply_cases s now change with ⟨endpoints, happly⟩ | happly
  . rw [happly]
    unfold versionMillis
    by_cases hblank : Text.trim service = ""
    . rw [if_pos hblank, if_pos hblank, listing_of_blank hblank, listing_of_blank hblank]
      exact .inl ⟨rfl, rfl⟩
    . rw [if_neg hblank, if_neg hblank, entry_write]
      split
      . next heq => exact .inr (heq ▸ millis_lt_nextVersion _ now)
      . next hne => exact .inl ⟨listing_write hne, rfl⟩
  . rw [happly]
    exact .inl ⟨rfl, rfl⟩

theorem listing_eq_or_version_lt (s : EndpointStore) (changes : List (Instant × Change)) (service : String)
    : ((s.run changes).listing service = s.listing service
          ∧ (s.run changes).versionMillis service = s.versionMillis service)
        ∨ s.versionMillis service < (s.run changes).versionMillis service := by
  induction changes generalizing s with
  | nil => exact .inl ⟨rfl, rfl⟩
  | cons change changes ih =>
    rw [run, List.foldl_cons, ← run]
    rcases listing_eq_or_version_lt_of_apply s change.1 change.2 service with ⟨hlisting, hversion⟩ | hlt
    . rw [← hlisting, ← hversion]
      exact ih _
    . rcases ih (s.apply change.1 change.2).2 with ⟨_, hversion⟩ | hlt'
      . rw [← hversion] at hlt
        exact .inr hlt
      . exact .inr (Int.lt_trans hlt hlt')

theorem listing_eq_of_version_eq
    (h : ((s.run changes).listing service).version = (s.listing service).version)
    : (s.run changes).listing service = s.listing service := by
  rcases listing_eq_or_version_lt s changes service with ⟨hlisting, _⟩ | hlt
  . exact hlisting
  . rw [versionMillis_eq_of_version_eq h] at hlt
    exact absurd hlt (Int.lt_irrefl _)

end EndpointStore

end TenantAuth
