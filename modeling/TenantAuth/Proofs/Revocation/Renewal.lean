import TenantAuth.Proofs.Revocation.Run

/-!
This module contains the theory of tokens that are revoked more than once. The main statement is that the
last revocation decides (`revoked_until_last_expiry`), also when it ends before an earlier one.
-/

namespace TenantAuth

namespace RevocationList

variable {l : RevocationList} {id j : String} {expiresAt now : Instant} {changes : List Change}

theorem Canonical.isRevoked_blank (hl : l.Canonical) : l.isRevoked now "" = false := by
  rw [Bool.eq_false_iff, Ne, isRevoked_eq_true_iff]
  rintro ⟨expiresAt, hheld, _⟩
  exact (hl "" expiresAt hheld).2 rfl

theorem revoke_of_expiry? {change : Change} (h : change.expiry? j = some expiresAt)
    : ∃ id, change = .revoke id expiresAt ∧ Text.trim id = j := by
  cases change with
  | revoke id e =>
    rw [Change.expiry?, Option.ite_none_right_eq_some] at h
    rcases h with ⟨⟨hid, _⟩, heq⟩
    cases heq
    exact ⟨id, rfl, hid⟩
  | purge t => cases h

/--
The expiry that the last revocation of a token gives to it, where `expiresAt` is the one before `changes`.
-/
def lastExpiry (j : String) (expiresAt : Instant) (changes : List Change) : Instant :=
  (changes.filterMap (Change.expiry? j)).getLastD expiresAt

theorem le_lastExpiry
    (hrenewals : ∀ id e, .revoke id e ∈ changes → Text.trim id = j → expiresAt ≤ e)
    : expiresAt ≤ lastExpiry j expiresAt changes := by
  have hlast : lastExpiry j expiresAt changes ∈ expiresAt :: changes.filterMap (Change.expiry? j) :=
    List.getLastD_mem_cons
  rcases List.mem_cons.1 hlast with heq | hmem
  . rw [heq]
    exact Int.le_refl _
  . rcases List.mem_filterMap.1 hmem with ⟨change, hchange, hexpiry⟩
    rcases revoke_of_expiry? hexpiry with ⟨id, rfl, hid⟩
    exact hrenewals id _ hchange hid

-- Purges do not show, and each later revocation of the token replaces the one before.
theorem isRevoked_iff_lt_lastExpiry (hid : Text.trim id = id) (hne : id ≠ "")
    (hpurges : ∀ t, .purge t ∈ changes → t ≤ now)
    : ((l.revoke id expiresAt).run changes).isRevoked now id = true
        ↔
      now < lastExpiry id expiresAt changes := by
  rw [isRevoked_run hpurges, lastExpiry, List.getLastD_eq_getLast?]
  cases (changes.filterMap (Change.expiry? id)).getLast? with
  | none => rw [Option.elim_none, Option.getD_none, isRevoked_revoke, if_pos ⟨hid, hne⟩]
  | some e => simp

theorem revoked_until_last_expiry (before after : List Change) (hid : Text.trim id = id)
    (hpurges : ∀ t, .purge t ∈ after → t ≤ now)
    : ((((empty.run before).revoke id expiresAt).run after).isRevoked now id = true
          ↔
        id ≠ "" ∧ now < lastExpiry id expiresAt after)
        ∧ (id ≠ "" → (∀ id' e, .revoke id' e ∈ after → Text.trim id' = id → expiresAt ≤ e) →
          now < expiresAt → (((empty.run before).revoke id expiresAt).run after).isRevoked now id = true) := by
  by_cases hne : id = ""
  . have hrevoked : ((empty.run before).apply (.revoke id expiresAt)).Canonical := canonical_empty.run.apply
    have hcanonical : (((empty.run before).revoke id expiresAt).run after).Canonical := hrevoked.run
    rw [hne] at hcanonical ⊢
    simp [hcanonical.isRevoked_blank]
  . rw [isRevoked_iff_lt_lastExpiry hid hne hpurges]
    refine ⟨by simp [hne], ?_⟩
    intro _ hrenewals hnow
    exact Int.lt_of_lt_of_le hnow (le_lastExpiry hrenewals)

theorem revoked_until_last_expiry_of_padded_renewal
    : let before : List Change := [.revoke "j1" (.ofSeconds 5), .purge (.ofSeconds 6)]
      let after : List Change := [.revoke " j1 " (.ofSeconds 9), .purge (.ofSeconds 7), .revoke "j2" (.ofSeconds 3)]
      let l := ((empty.run before).revoke "j1" (.ofSeconds 8)).run after
      Text.trim "j1" = "j1" ∧ (∀ t, .purge t ∈ after → t ≤ .ofSeconds 7)
        ∧ (∀ id e, .revoke id e ∈ after → Text.trim id = "j1" → .ofSeconds 8 ≤ e)
        ∧ l.isRevoked (.ofSeconds 7) "j1" = true ∧ lastExpiry "j1" (.ofSeconds 8) after = .ofSeconds 9 := by
  intro before after l
  have hid : Text.trim "j1" = "j1" := by decide
  have hpurges : ∀ t, .purge t ∈ after → t ≤ .ofSeconds 7 := by
    simp only [after, List.mem_cons, reduceCtorEq, Change.purge.injEq, List.not_mem_nil, false_or, or_false]
    rintro t rfl
    decide
  have hrenewals : ∀ id e, .revoke id e ∈ after → Text.trim id = "j1" → .ofSeconds 8 ≤ e := by
    simp only [after, List.mem_cons, reduceCtorEq, Change.revoke.injEq, List.not_mem_nil, false_or, or_false]
    rintro id e (⟨rfl, rfl⟩ | ⟨rfl, rfl⟩) htrim
    . decide
    . exact absurd htrim (by decide)
  have hkept := (revoked_until_last_expiry before after hid hpurges).2 (by decide) hrenewals (by decide)
  exact ⟨hid, hpurges, hrenewals, hkept, by decide⟩

theorem second_revocation_shortens_first
    : let expiresAt := Instant.ofSeconds 4102444800
      let now := Instant.ofSeconds 1780000000
      Text.trim "j1" = "j1" ∧ now < expiresAt ∧ (empty.revoke "j1" expiresAt).isRevoked now "j1" = true
        ∧ ((empty.revoke "j1" expiresAt).run [.revoke "j1" (.ofSeconds 1000000000)]).isRevoked now "j1" = false := by
  decide

end RevocationList

end TenantAuth
