import Mathlib.Data.Prod.Lex
import TenantAuth.Proofs.Endpoint.Paths

/-!
This module contains the theory of specificities. They are ordered like the triples of their components,
and a pattern that matches fewer paths than another one is more specific (`specificity_le_of_subset`).
-/

namespace TenantAuth

namespace Specificity

def key (a : Specificity) : Nat ×ₗ Bool ×ₗ Nat :=
  toLex (a.literals, toLex (a.bounded, a.length))

variable {a b c : Specificity} {isLiteral : Bool}

theorem lt_iff
    : a < b
        ↔
      a.literals < b.literals
        ∨ a.literals = b.literals
          ∧ (a.bounded < b.bounded ∨ a.bounded = b.bounded ∧ a.length < b.length) := by
  show lt a b = true ↔ _
  simp only [lt, Bool.or_eq_true, Bool.and_eq_true, decide_eq_true_eq, beq_iff_eq, Bool.not_eq_true',
    Bool.lt_iff]

theorem lt_iff_key_lt : a < b ↔ a.key < b.key := by
  rw [key, key, Prod.Lex.toLex_lt_toLex, Prod.Lex.toLex_lt_toLex, lt_iff]

theorem key_injective : Function.Injective key := by
  intro a b h
  cases a
  cases b
  simpa [key] using h

theorem lt_or_eq_iff_key_le : a < b ∨ a = b ↔ a.key ≤ b.key := by
  rw [le_iff_lt_or_eq, lt_iff_key_lt, key_injective.eq_iff]

instance : LinearOrder Specificity where
  le a b := a < b ∨ a = b
  le_refl a := .inr rfl
  le_trans a b c := by
    rw [lt_or_eq_iff_key_le, lt_or_eq_iff_key_le, lt_or_eq_iff_key_le]
    exact le_trans
  lt_iff_le_not_ge a b := by
    show a < b ↔ (a < b ∨ a = b) ∧ ¬ (b < a ∨ b = a)
    rw [lt_or_eq_iff_key_le, lt_or_eq_iff_key_le, lt_iff_key_lt]
    exact lt_iff_le_not_ge
  le_antisymm a b := by
    rw [lt_or_eq_iff_key_le, lt_or_eq_iff_key_le]
    exact fun hab hba => key_injective (le_antisymm hab hba)
  le_total a b := by
    rw [lt_or_eq_iff_key_le, lt_or_eq_iff_key_le]
    exact le_total a.key b.key
  toDecidableLE a b := inferInstanceAs (Decidable (a < b ∨ a = b))

def ofSegments (p : List Segment) : Specificity where
  literals := (p.filter Segment.isLiteral).length
  bounded := p.getLast? != some .rest
  length := p.length

def extend (a : Specificity) (isLiteral : Bool) : Specificity where
  literals := a.literals + isLiteral.toNat
  bounded := a.bounded
  length := a.length + 1

theorem extend_lt_extend (h : a < b) : a.extend isLiteral < b.extend isLiteral := by
  rw [lt_iff] at h ⊢
  simpa only [extend, Nat.add_lt_add_iff_right, Nat.add_right_cancel_iff] using h

theorem extend_le_extend (h : a ≤ b) : a.extend isLiteral ≤ b.extend isLiteral := by
  cases h with
  | inl hlt => exact .inl (extend_lt_extend hlt)
  | inr heq => rw [heq]

theorem extend_false_lt_extend_true (h : a ≤ b) : a.extend false < b.extend true := by
  have hliterals : a.literals ≤ b.literals := by
    cases h with
    | inl hlt =>
      rcases lt_iff.1 hlt with h | h
      . exact Nat.le_of_lt h
      . exact Nat.le_of_eq h.1
    | inr heq => rw [heq]
  rw [lt_iff]
  exact .inl (Nat.lt_succ_of_le hliterals)

theorem extend_injective (h : a.extend isLiteral = b.extend isLiteral) : a = b := by
  cases a
  cases b
  simpa [extend] using h

end Specificity

namespace Segment

open Specificity

variable {s : Segment} {p q : List Segment}

theorem getLast?_cons_bne_rest (hs : s ≠ .rest)
    : ((s :: p).getLast? != some .rest) = (p.getLast? != some .rest) := by
  cases p with
  | nil =>
    cases s with
    | rest => exact absurd rfl hs
    | single => rfl
    | literal text => rfl
  | cons t p => rw [List.getLast?_cons_cons]

theorem ofSegments_cons (hs : s ≠ .rest) : ofSegments (s :: p) = (ofSegments p).extend s.isLiteral := by
  unfold ofSegments extend
  rw [getLast?_cons_bne_rest hs, List.filter_cons, List.length_cons]
  cases s.isLiteral with
  | true => rfl
  | false => rfl

-- Nothing is less specific than an open end alone.
theorem ofSegments_rest_le
    : ofSegments [.rest] ≤ ofSegments p ∧ (ofSegments [.rest] = ofSegments p → [.rest] = p) := by
  refine ⟨?_, ?_⟩
  . rw [← not_lt, lt_iff]
    intro hlt
    rcases hlt with hliterals | ⟨_, hbounded | ⟨hbounded, hlength⟩⟩
    . exact Nat.not_lt_zero _ hliterals
    . exact absurd (Bool.lt_iff.1 hbounded).2 (by decide)
    . rw [List.length_eq_zero_iff.1 (Nat.lt_one_iff.1 hlength)] at hbounded
      exact absurd hbounded (by decide)
  . intro heq
    have hlength : p.length = 1 := congrArg length heq.symm
    have hbounded : (p.getLast? != some .rest) = false := congrArg bounded heq.symm
    rcases List.length_eq_one_iff.1 hlength with ⟨s, rfl⟩
    rw [bne_eq_false_iff_eq, List.getLast?_singleton, Option.some.injEq] at hbounded
    rw [hbounded]

theorem Covers.specificity_le (h : Covers q p)
    : ofSegments q ≤ ofSegments p ∧ (ofSegments q = ofSegments p → q = p) := by
  induction h with
  | rest p => exact ofSegments_rest_le
  | nil => exact ⟨le_refl _, fun _ => rfl⟩
  | @single s q p hs _ ih =>
    rw [ofSegments_cons hs, ofSegments_cons (s := .single) nofun]
    cases s with
    | rest => exact absurd rfl hs
    | single => exact ⟨extend_le_extend ih.1, fun heq => by rw [ih.2 (extend_injective heq)]⟩
    | literal text =>
      have hlt := extend_false_lt_extend_true ih.1
      exact ⟨.inl hlt, fun heq => absurd heq hlt.ne⟩
  | @literal text q p _ ih =>
    rw [ofSegments_cons (s := .literal text) nofun, ofSegments_cons (s := .literal text) nofun]
    exact ⟨extend_le_extend ih.1, fun heq => by rw [ih.2 (extend_injective heq)]⟩

end Segment

namespace Pattern

variable {p q : Pattern}

theorem specificity_le_of_subset (h : p.paths ⊆ q.paths)
    : q.specificity ≤ p.specificity ∧ (q.specificity = p.specificity ↔ p.paths = q.paths) := by
  rcases (paths_subset_iff.1 h).specificity_le with ⟨hle, heq⟩
  refine ⟨hle, ?_, ?_⟩
  . intro hspecificity
    exact paths_eq_of_segments_eq (heq hspecificity).symm
  . intro hpaths
    exact le_antisymm hle (paths_subset_iff.1 hpaths.ge).specificity_le.1

theorem not_ssubset_of_specificity_le (h : q.specificity ≤ p.specificity) : ¬ q.paths ⊂ p.paths := by
  intro hssubset
  rcases specificity_le_of_subset hssubset.subset with ⟨hle, heq⟩
  exact hssubset.ne (heq.1 (le_antisymm hle h))

end Pattern

end TenantAuth
