import TenantAuth.RevocationList

/-!
This module contains runs of changes to a list of revoked tokens. A run is followed for one id at a time
(`get?_run`): of the other ids only the purges in between matter.
-/

namespace TenantAuth

namespace RevocationList

inductive Change where
  | revoke (id : String) (expiresAt : Instant)
  | purge (now : Instant)
deriving DecidableEq

def apply (l : RevocationList) : Change → RevocationList
  | .revoke id expiresAt => l.revoke id expiresAt
  | .purge now => (l.purge now).2

def run (l : RevocationList) (changes : List Change) : RevocationList :=
  changes.foldl apply l

def Change.follow (id : String) (held : Option Instant) : Change → Option Instant
  | .revoke id' expiresAt => if Text.trim id' = id then some expiresAt else held
  | .purge now => held.filter fun expiresAt => now < expiresAt

variable {l : RevocationList} {id j : String} {expiresAt now : Instant} {changes : List Change}

theorem get?_revoke
    : (l.revoke id expiresAt).table.get? j
        =
      if Text.trim id = j ∧ j ≠ "" then some expiresAt else l.table.get? j := by
  unfold revoke
  split
  . next id' hid =>
    rcases Text.normalize?_eq_some_iff.1 hid with ⟨htrim, hne⟩
    rw [Table.get?_insert, htrim]
    by_cases hj : j = id'
    . rw [if_pos hj, if_pos ⟨hj.symm, hj ▸ hne⟩]
    . rw [if_neg hj, if_neg fun h => hj h.1.symm]
  . next hid =>
    rw [if_neg]
    intro h
    exact h.2 (h.1 ▸ Text.normalize?_eq_none_iff.1 hid)

theorem get?_purge
    : (l.purge now).2.table.get? j = (l.table.get? j).filter fun expiresAt => now < expiresAt := by
  apply Table.get?_filter

theorem get?_apply {change : Change} (hj : j ≠ "")
    : (l.apply change).table.get? j = change.follow j (l.table.get? j) := by
  cases change with
  | revoke id expiresAt =>
    rw [apply, Change.follow, get?_revoke]
    simp only [hj, ne_eq, not_false_iff, and_true]
  | purge now => rw [apply, Change.follow, get?_purge]

theorem get?_run (hj : j ≠ "")
    : (l.run changes).table.get? j = changes.foldl (Change.follow j) (l.table.get? j) := by
  unfold run
  induction changes generalizing l with
  | nil => rfl
  | cons change changes ih =>
    rw [List.foldl_cons, List.foldl_cons, ih, get?_apply hj]

theorem follow_eq_some_iff {change : Change} {held : Option Instant}
    (hothers : ∀ id expiresAt, change = .revoke id expiresAt → Text.trim id ≠ j)
    : change.follow j held = some expiresAt
        ↔
      held = some expiresAt ∧ ∀ t, change = .purge t → t < expiresAt := by
  cases change with
  | revoke id expiresAt' =>
    rw [Change.follow, if_neg (hothers id expiresAt' rfl)]
    simp
  | purge now =>
    rw [Change.follow, Option.filter_eq_some_iff, decide_eq_true_eq]
    simp

theorem get?_run_eq_some_iff (hj : j ≠ "")
    (hothers : ∀ id expiresAt, .revoke id expiresAt ∈ changes → Text.trim id ≠ j)
    : (l.run changes).table.get? j = some expiresAt
        ↔
      l.table.get? j = some expiresAt ∧ ∀ t, .purge t ∈ changes → t < expiresAt := by
  rw [get?_run hj]
  generalize l.table.get? j = held
  induction changes generalizing held with
  | nil => simp
  | cons change changes ih =>
    have hfirst : ∀ id expiresAt, change = .revoke id expiresAt → Text.trim id ≠ j := by
      intro id expiresAt h
      exact hothers id expiresAt (h ▸ List.mem_cons_self)
    have hrest : ∀ id expiresAt, .revoke id expiresAt ∈ changes → Text.trim id ≠ j := by
      intro id expiresAt h
      exact hothers id expiresAt (List.mem_cons_of_mem _ h)
    rw [List.foldl_cons, ih hrest, follow_eq_some_iff hfirst]
    simp only [List.mem_cons, eq_comm (a := change)]
    constructor
    . intro h
      rcases h with ⟨⟨hheld, hnow⟩, hpurges⟩
      exact ⟨hheld, fun t ht => ht.elim (hnow t) (hpurges t)⟩
    . intro h
      rcases h with ⟨hheld, hpurges⟩
      exact ⟨⟨hheld, fun t ht => hpurges t (.inl ht)⟩, fun t ht => hpurges t (.inr ht)⟩

theorem isRevoked_eq_true_iff
    : l.isRevoked now j = true ↔ ∃ expiresAt, l.table.get? j = some expiresAt ∧ now < expiresAt := by
  unfold isRevoked
  rw [Option.any_eq_true]
  simp only [decide_eq_true_eq]

theorem isRevoked_revoke
    : (l.revoke id expiresAt).isRevoked now j = true
        ↔
      if Text.trim id = j ∧ j ≠ "" then now < expiresAt else l.isRevoked now j = true := by
  rw [isRevoked_eq_true_iff, get?_revoke]
  split
  . simp
  . rw [isRevoked_eq_true_iff]

-- A revocation is found until it expires, unless a purge comes at its expiry or later.
theorem isRevoked_run_revoke (hj : j ≠ "") (hid : Text.trim id = j)
    (hothers : ∀ id expiresAt, .revoke id expiresAt ∈ changes → Text.trim id ≠ j)
    : ((l.revoke id expiresAt).run changes).isRevoked now j = true
        ↔
      (∀ t, .purge t ∈ changes → t < expiresAt) ∧ now < expiresAt := by
  rw [isRevoked_eq_true_iff]
  simp only [get?_run_eq_some_iff hj hothers, get?_revoke, hid, hj, ne_eq, not_false_iff, and_self, if_true,
    Option.some.injEq]
  constructor
  . intro h
    rcases h with ⟨e, ⟨rfl, hpurges⟩, hnow⟩
    exact ⟨hpurges, hnow⟩
  . intro h
    rcases h with ⟨hpurges, hnow⟩
    exact ⟨expiresAt, ⟨rfl, hpurges⟩, hnow⟩

def Canonical (l : RevocationList) : Prop :=
  ∀ j expiresAt, l.table.get? j = some expiresAt → Text.trim j = j ∧ j ≠ ""

theorem canonical_empty : empty.Canonical := by
  intro j expiresAt h
  cases h

theorem Canonical.apply {change : Change} (hl : l.Canonical) : (l.apply change).Canonical := by
  intro j expiresAt h
  cases change with
  | revoke id expiresAt' =>
    rw [RevocationList.apply, get?_revoke] at h
    split at h
    . next hid =>
      rcases hid with ⟨rfl, hne⟩
      exact ⟨Text.trim_trim id, hne⟩
    . exact hl j expiresAt h
  | purge now =>
    rw [RevocationList.apply, get?_purge, Option.filter_eq_some_iff] at h
    exact hl j expiresAt h.1

theorem Canonical.run (hl : l.Canonical) : (l.run changes).Canonical := by
  unfold RevocationList.run
  induction changes generalizing l with
  | nil => exact hl
  | cons change changes ih =>
    rw [List.foldl_cons]
    apply ih
    exact hl.apply

theorem Canonical.isRevoked_revoke (hl : l.Canonical) (hj : Text.trim j ≠ "") (hnow : now < expiresAt)
    : (l.revoke j expiresAt).isRevoked now j = true ↔ Text.trim j = j := by
  rw [RevocationList.isRevoked_revoke]
  split
  . next h => simp [h.1, hnow]
  . next h =>
    have hpadded : Text.trim j ≠ j := fun htrim => h ⟨htrim, htrim ▸ hj⟩
    simp only [hpadded, iff_false, isRevoked_eq_true_iff]
    intro hheld
    rcases hheld with ⟨expiresAt', hget, _⟩
    exact hpadded (hl j expiresAt' hget).1

def Change.expiry? (j : String) : Change → Option Instant
  | .revoke id expiresAt => if Text.trim id = j ∧ j ≠ "" then some expiresAt else none
  | .purge _ => none

-- What a purge drops would not be found at its time or later, either.
theorem isRevoked_apply {change : Change} (hpurge : ∀ t, change = .purge t → t ≤ now)
    : (l.apply change).isRevoked now j
        =
      (change.expiry? j).elim (l.isRevoked now j) fun expiresAt => decide (now < expiresAt) := by
  rw [Bool.eq_iff_iff]
  cases change with
  | revoke id expiresAt =>
    rw [apply, isRevoked_revoke, Change.expiry?]
    split
    . simp
    . simp
  | purge t =>
    have hle : t ≤ now := hpurge t rfl
    rw [apply, Change.expiry?, Option.elim_none, isRevoked_eq_true_iff, isRevoked_eq_true_iff]
    simp only [get?_purge, Option.filter_eq_some_iff, decide_eq_true_eq]
    constructor
    . rintro ⟨expiresAt, ⟨hheld, _⟩, hnow⟩
      exact ⟨expiresAt, hheld, hnow⟩
    . rintro ⟨expiresAt, hheld, hnow⟩
      exact ⟨expiresAt, ⟨hheld, Int.lt_of_le_of_lt hle hnow⟩, hnow⟩

theorem isRevoked_run (hpurges : ∀ t, .purge t ∈ changes → t ≤ now)
    : (l.run changes).isRevoked now j
        =
      (changes.filterMap (Change.expiry? j)).getLast?.elim (l.isRevoked now j) fun expiresAt =>
        decide (now < expiresAt) := by
  unfold run
  induction changes generalizing l with
  | nil => rfl
  | cons change changes ih =>
    have hfirst : ∀ t, change = .purge t → t ≤ now := fun t h => hpurges t (h ▸ List.mem_cons_self)
    rw [List.foldl_cons, ih fun t h => hpurges t (List.mem_cons_of_mem _ h), isRevoked_apply hfirst]
    cases hexpiry : change.expiry? j with
    | none => rw [List.filterMap_cons_none hexpiry, Option.elim_none]
    | some expiresAt =>
      rw [List.filterMap_cons_some hexpiry, List.getLast?_cons, Option.elim_some, Option.elim_some]
      cases (changes.filterMap (Change.expiry? j)).getLast? <;> rfl

end RevocationList

end TenantAuth
