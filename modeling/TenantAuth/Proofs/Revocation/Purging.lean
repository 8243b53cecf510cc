import Mathlib.Data.Set.Card
import TenantAuth.Proofs.Revocation.Run

/-!
This module contains the theory of purges: what a purge drops and counts, and that no look-up tells whether
there was one (`purges_unseen`).
-/

namespace TenantAuth

namespace Table

variable {α : Type}

theorem encard_dropped (t : Table α) (p : α → Bool)
    : { k | ∃ a, t.get? k = some a ∧ p a = false }.encard = (t.size - (t.filter p).size : Nat) := by
  have hkeys : { k | ∃ a, t.get? k = some a ∧ p a = false }
      = ((t.entries.filter fun e => !p e.2).map Prod.fst).toFinset := by
    ext k
    simp [get?_eq_some_iff]
  have hnodup : ((t.entries.filter fun e => !p e.2).map Prod.fst).Nodup :=
    t.nodup_keys.sublist (List.filter_sublist.map _)
  have hlength := List.length_eq_length_filter_add (l := t.entries) fun e => p e.2
  rw [hkeys, Set.encard_coe_eq_coe_finsetCard, List.toFinset_card_of_nodup hnodup, List.length_map]
  rw [size, size, filter, hlength, Nat.add_sub_cancel_left]

end Table

namespace RevocationList

variable {l l' : RevocationList} {now : Instant}

theorem get?_purge_eq_some_iff {j : String} {expiresAt : Instant}
    : (l.purge now).2.table.get? j = some expiresAt
        ↔
      l.table.get? j = some expiresAt ∧ ¬ expiresAt ≤ now := by
  rw [get?_purge, Option.filter_eq_some_iff, decide_eq_true_eq]
  exact and_congr_right fun _ => Int.not_le.symm

theorem encard_expired
    : { j | ∃ expiresAt, l.table.get? j = some expiresAt ∧ expiresAt ≤ now }.encard = (l.purge now).1 := by
  rw [purge, ← Table.encard_dropped]
  simp only [decide_eq_false_iff_not]
  congr
  ext j
  exact exists_congr fun expiresAt => and_congr_right fun _ => Int.not_lt.symm

theorem purge_purge : ((l.purge now).2.purge now).1 = 0 := by
  have hnone : { j | ∃ expiresAt, (l.purge now).2.table.get? j = some expiresAt ∧ expiresAt ≤ now } = ∅ := by
    rw [Set.eq_empty_iff_forall_notMem]
    rintro j ⟨expiresAt, hheld, hexpired⟩
    exact (get?_purge_eq_some_iff.1 hheld).2 hexpired
  have hcount := @encard_expired (l.purge now).2 now
  rw [hnone, Set.encard_empty] at hcount
  exact_mod_cast hcount.symm

inductive Call where
  | change (c : Change)
  | check (now : Instant) (id : String)
deriving DecidableEq

def answers (l : RevocationList) : List Call → List Bool
  | [] => []
  | .change c :: calls => answers (l.apply c) calls
  | .check now id :: calls => l.isRevoked now id :: answers l calls

namespace Call

def isPurge : Call → Bool
  | change (.purge _) => true
  | _ => false

/--
A purge that comes before a look-up is given no later time.
-/
def InTime (earlier later : Call) : Prop :=
  ∀ t now id, earlier = change (.purge t) → later = check now id → t ≤ now

end Call

variable {calls : List Call}

-- The two lists need not be equal: it is enough that they agree on the look-ups that are still to come.
theorem answers_congr (hagree : ∀ now id, .check now id ∈ calls → l.isRevoked now id = l'.isRevoked now id)
    (hcalls : calls.Pairwise Call.InTime)
    : l.answers calls = l'.answers (calls.filter fun c => !c.isPurge) := by
  induction calls generalizing l l' with
  | nil => rfl
  | cons call calls ih =>
    rcases List.pairwise_cons.1 hcalls with ⟨hintime, htail⟩
    have hrest : ∀ now id, .check now id ∈ calls → l.isRevoked now id = l'.isRevoked now id :=
      fun now id h => hagree now id (List.mem_cons_of_mem _ h)
    cases call with
    | check now id =>
      rw [List.filter_cons_of_pos rfl, answers, answers, hagree now id List.mem_cons_self, ih hrest htail]
    | change c =>
      cases c with
      | revoke id expiresAt =>
        rw [List.filter_cons_of_pos rfl, answers, answers]
        apply ih _ htail
        intro now j h
        have hrevoke : ∀ t, Change.revoke id expiresAt = .purge t → t ≤ now := fun _ heq => nomatch heq
        rw [isRevoked_apply hrevoke, isRevoked_apply hrevoke, hrest now j h]
      | purge t =>
        -- Only the first list is purged; a look-up that follows does not come before `t`.
        rw [List.filter_cons_of_neg Bool.false_ne_true, answers]
        apply ih _ htail
        intro now j h
        have hpurge : ∀ t', Change.purge t = .purge t' → t' ≤ now := by
          intro t' heq
          cases heq
          exact hintime _ h t now j rfl rfl
        rw [isRevoked_apply hpurge, hrest now j h]
        rfl

theorem purges_unseen (l : RevocationList) (calls : List Call) (hcalls : calls.Pairwise Call.InTime)
    : l.answers calls = l.answers (calls.filter fun c => !c.isPurge)
        ∧ ∀ (m : RevocationList) (now : Instant),
          (∀ j expiresAt, (m.purge now).2.table.get? j = some expiresAt
              ↔
            m.table.get? j = some expiresAt ∧ ¬ expiresAt ≤ now)
          ∧ { j | ∃ expiresAt, m.table.get? j = some expiresAt ∧ expiresAt ≤ now }.encard = (m.purge now).1
          ∧ ((m.purge now).2.purge now).1 = 0 := by
  refine ⟨answers_congr (fun _ _ _ => rfl) hcalls, ?_⟩
  intro m now
  exact ⟨fun _ _ => get?_purge_eq_some_iff, encard_expired, purge_purge⟩

theorem purges_unseen_of_renewal
    : let calls : List Call := [
        .change (.revoke "j1" (.ofSeconds 9)), .change (.revoke "j2" (.ofSeconds 5)),
        .change (.purge (.ofSeconds 5)), .check (.ofSeconds 5) "j2", .change (.revoke " j2 " (.ofSeconds 8)),
        .check (.ofSeconds 7) "j2", .check (.ofSeconds 7) "j1"
      ]
      let l := (empty.revoke "j1" (.ofSeconds 9)).revoke "j2" (.ofSeconds 5)
      calls.Pairwise Call.InTime
        ∧ (empty.answers calls = [false, true, true]
          ∧ empty.answers (calls.filter fun c => !c.isPurge) = [false, true, true])
        ∧ ((l.purge (.ofSeconds 5)).1 = 1 ∧ ((l.purge (.ofSeconds 5)).2.purge (.ofSeconds 5)).1 = 0
          ∧ (l.purge (.ofSeconds 5)).2.table.get? "j1" = some (.ofSeconds 9)) := by
  intro calls l
  have hfirst : Instant.ofSeconds 5 ≤ .ofSeconds 5 := by decide
  have hlater : Instant.ofSeconds 5 ≤ .ofSeconds 7 := by decide
  have hcalls : calls.Pairwise Call.InTime := by simp [calls, Call.InTime, hfirst, hlater]
  have hanswers : empty.answers calls = [false, true, true] := by decide
  rcases purges_unseen empty calls hcalls with ⟨hunseen, hpurge⟩
  rcases hpurge l (.ofSeconds 5) with ⟨hkept, _, hagain⟩
  exact ⟨hcalls, ⟨hanswers, hunseen ▸ hanswers⟩, by decide, hagain, (hkept _ _).2 ⟨by decide, by decide⟩⟩

end RevocationList

end TenantAuth
