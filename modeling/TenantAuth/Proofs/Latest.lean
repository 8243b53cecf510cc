import Mathlib.Data.List.Induction

/-!
This module contains what it means that the latest of several events decides.
-/

namespace TenantAuth

variable {α : Type} {P Q : α → Prop} {events : List α} {last : α}

def Latest (P Q : α → Prop) (events : List α) : Prop :=
  ∃ before event after, events = before ++ event :: after ∧ P event ∧ ∀ later ∈ after, ¬ Q later

theorem not_latest_nil : ¬ Latest P Q [] := by
  rintro ⟨before, event, after, heq, _⟩
  simp at heq

theorem latest_concat : Latest P Q (events ++ [last]) ↔ P last ∨ Latest P Q events ∧ ¬ Q last := by
  constructor
  . rintro ⟨before, event, after, heq, hevent, hkept⟩
    cases after using List.reverseRecOn with
    | nil =>
      rw [List.append_singleton_inj] at heq
      exact .inl (heq.2 ▸ hevent)
    | append_singleton after later =>
      rw [← List.cons_append, ← List.append_assoc, List.append_singleton_inj] at heq
      rcases heq with ⟨rfl, rfl⟩
      rw [List.forall_mem_append, List.forall_mem_singleton] at hkept
      exact .inr ⟨⟨before, event, after, rfl, hevent, hkept.1⟩, hkept.2⟩
  . rintro (hlast | ⟨⟨before, event, after, rfl, hevent, hkept⟩, hlast⟩)
    . exact ⟨events, last, [], rfl, hlast, List.forall_mem_nil _⟩
    . refine ⟨before, event, after ++ [last], by simp, hevent, ?_⟩
      rw [List.forall_mem_append, List.forall_mem_singleton]
      exact ⟨hkept, hlast⟩

end TenantAuth
