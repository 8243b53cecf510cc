import TenantAuth.Proofs.Endpoint.Replay
import TenantAuth.Proofs.Latest

/-!
This module contains the theory of endpoints that are listed twice. Inserting and removing policies never
makes a second entry for an endpoint; the main statement is that a list has one exactly if it was put there
by a replacement of the whole list and has been left alone since (`listed_twice_iff`).
-/

namespace TenantAuth

namespace EndpointStore

def countAt (policies : List EndpointPolicy) (method : Method) (pattern : String) : Nat :=
  policies.countP fun p => p.At method pattern

def Change.Repeats (name : String) (method : Method) (pattern : String) : Change → Prop
  | .upsert _ => False
  | .remove _ _ _ => False
  | .replace service listed =>
    Text.trim service = name
      ∧ 2 ≤ countAt (listed.filter fun p => p.service.text = name) method pattern

def Change.Clears (name : String) (method : Method) (pattern : String) : Change → Prop
  | .upsert _ => False
  | .remove service m p => Text.trim service = name ∧ m = method ∧ p = pattern
  | .replace service _ => Text.trim service = name

variable {s : EndpointStore} {now : Instant} {service name pattern : String} {method : Method}
  {p q : EndpointPolicy} {policies : List EndpointPolicy} {change : Change} {changes : List (Instant × Change)}

theorem countAt_cons
    : countAt (p :: policies) method pattern
        =
      countAt policies method pattern + if p.At method pattern then 1 else 0 := by
  simp only [countAt, List.countP_cons, decide_eq_true_eq]

theorem at_congr (h : q.At p.method p.pattern.text) : q.At method pattern ↔ p.At method pattern := by
  rw [EndpointPolicy.At, EndpointPolicy.At, h.1, h.2]

theorem countAt_put (p : EndpointPolicy) (policies : List EndpointPolicy)
    : countAt (put p policies) method pattern
        =
      if p.At method pattern then
        max 1 (countAt policies method pattern)
      else
        countAt policies method pattern := by
  induction policies with
  | nil =>
    rw [put, countAt_cons]
    split
    . rfl
    . rfl
  | cons q policies ih =>
    rw [put]
    by_cases hsame : q.At p.method p.pattern.text
    . rw [if_pos (sameEndpoint_iff.2 hsame), countAt_cons, countAt_cons]
      simp only [at_congr hsame]
      split
      . omega
      . rfl
    . rw [if_neg (mt sameEndpoint_iff.1 hsame), countAt_cons, ih, countAt_cons]
      split
      . next hp =>
        -- An endpoint other than the one of `q` is put, so `q` does not count.
        have hq : ¬ q.At method pattern := fun hq => hsame ⟨hq.1.trans hp.1.symm, hq.2.trans hp.2.symm⟩
        rw [if_neg hq]
        omega
      . rfl

theorem countAt_remove {m : Method} {t : String}
    : countAt ((Change.remove service m t).replay policies) method pattern
        =
      if m = method ∧ t = pattern then 0 else countAt policies method pattern := by
  simp only [countAt, Change.replay, List.countP_filter]
  split
  . next h =>
    rw [h.1, h.2, List.countP_eq_zero]
    simp
  . next h =>
    apply List.countP_congr
    intro p _
    simp only [Bool.and_eq_true, decide_eq_true_eq, and_iff_left_iff_imp]
    exact fun hp hother => h ⟨hother.1.symm.trans hp.1, hother.2.symm.trans hp.2⟩

theorem two_le_countAt_replay (hservice : change.service = name)
    : 2 ≤ countAt (change.replay policies) method pattern
        ↔
      change.Repeats name method pattern
        ∨ 2 ≤ countAt policies method pattern ∧ ¬ change.Clears name method pattern := by
  cases change with
  | upsert p =>
    rw [← put_eq_replay, countAt_put]
    simp only [Change.Repeats, Change.Clears, false_or, not_false_eq_true, and_true]
    split
    . omega
    . rfl
  | remove raw m t =>
    rw [countAt_remove]
    simp only [Change.Repeats, Change.Clears, false_or]
    split
    . next h =>
      refine iff_of_false (by decide) ?_
      rintro ⟨_, hkept⟩
      exact hkept ⟨hservice, h⟩
    . next h => exact (and_iff_left fun hcleared => h hcleared.2).symm
  | replace raw listed =>
    have hraw : Text.trim raw = name := hservice
    simp only [Change.Repeats, Change.Clears, Change.replay, hraw, true_and, not_true_eq_false, and_false,
      or_false]

theorem Change.Repeats.clears (h : change.Repeats name method pattern) : change.Clears name method pattern := by
  cases change with
  | upsert p => exact h
  | remove raw m t => exact h.elim
  | replace raw listed => exact h.1

theorem Change.Clears.service_eq (h : change.Clears name method pattern) : change.service = name := by
  cases change with
  | upsert p => exact h.elim
  | remove raw m t => exact h.1
  | replace raw listed => exact h

theorem not_repeats_blank : ¬ change.Repeats "" method pattern := by
  cases change with
  | upsert p => exact id
  | remove raw m t => exact id
  | replace raw listed =>
    rintro ⟨_, htwo⟩
    have hnone : listed.filter (fun p => p.service.text = "") = [] := by
      rw [List.filter_eq_nil_iff]
      exact fun p _ h => p.service.text_ne (of_decide_eq_true h)
    rw [hnone] at htwo
    exact Nat.not_succ_le_zero 1 htwo

theorem two_le_countAt_apply (hne : Text.trim service ≠ "")
    : 2 ≤ countAt ((s.apply now change).2.listing service).endpoints method pattern
        ↔
      change.Repeats (Text.trim service) method pattern
        ∨ 2 ≤ countAt (s.listing service).endpoints method pattern
          ∧ ¬ change.Clears (Text.trim service) method pattern := by
  rw [endpoints_apply hne]
  split
  . next hservice => exact two_le_countAt_replay hservice
  . next hother =>
    -- What neither repeats nor clears anything in this list leaves the count as it was.
    have hrepeats : ¬ change.Repeats (Text.trim service) method pattern :=
      fun h => hother h.clears.service_eq
    have hclears : ¬ change.Clears (Text.trim service) method pattern :=
      fun h => hother h.service_eq
    rw [or_iff_right hrepeats, and_iff_left hclears]

def RepeatedIn (name : String) (method : Method) (pattern : String) (changes : List (Instant × Change)) : Prop :=
  ∃ before change after, changes = before ++ change :: after ∧ change.2.Repeats name method pattern
    ∧ ∀ later ∈ after, ¬ later.2.Clears name method pattern

theorem repeatedIn_concat {last : Instant × Change}
    : RepeatedIn name method pattern (changes ++ [last])
        ↔
      last.2.Repeats name method pattern
        ∨ RepeatedIn name method pattern changes ∧ ¬ last.2.Clears name method pattern :=
  latest_concat

theorem run_concat (s : EndpointStore) (changes : List (Instant × Change)) (last : Instant × Change)
    : s.run (changes ++ [last]) = ((s.run changes).apply last.1 last.2).2 := by
  rw [run, run, List.foldl_append, List.foldl_cons, List.foldl_nil]

theorem listed_twice_iff (changes : List (Instant × Change)) (service : String) (method : Method)
    (pattern : String)
    : 2 ≤ countAt ((empty.run changes).listing service).endpoints method pattern
        ↔
      RepeatedIn (Text.trim service) method pattern changes := by
  by_cases hblank : Text.trim service = ""
  . rw [listing_of_blank hblank, hblank]
    refine iff_of_false (Nat.not_succ_le_zero 1) ?_
    rintro ⟨_, change, _, _, hrepeats, _⟩
    exact not_repeats_blank hrepeats
  . induction changes using List.reverseRecOn with
    | nil =>
      rw [run, List.foldl_nil, listing_of_unknown rfl]
      refine iff_of_false (Nat.not_succ_le_zero 1) ?_
      rintro ⟨before, change, after, heq, _⟩
      simp at heq
    | append_singleton changes last ih =>
      rw [run_concat, two_le_countAt_apply hblank, ih, repeatedIn_concat]

theorem replace_lists_endpoint_twice
    : let users : EndpointPolicy := {
        method := .get
        pattern := ⟨"/users/*", [.literal "users", .single], by decide, rfl⟩
        service := ⟨"directory", by decide, by decide⟩
      }
      let opened := { users with isPublic := true }
      let replaced := empty.run [(.epoch, .replace "directory" [users, opened])]
      let store := replaced.run [(.epoch, .upsert users)]
      (replaced.listing "directory").endpoints = [users, opened] ∧ users.sameEndpoint opened = true
        ∧ (store.listing "directory").endpoints = [users, opened] := by
  decide

end EndpointStore

end TenantAuth
