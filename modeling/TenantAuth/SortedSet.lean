/-!
This module contains finite sets of values that are told apart and ordered by their text. A set has
one representation only (`ext`), so equal sets are equal values.
-/

namespace TenantAuth

/--
A type whose values are told apart by their text.
-/
class Named (α : Type) where
  text : α → String
  text_inj : ∀ {a b : α}, text a = text b → a = b

/--
A finite set, listed in the order of the code points of its members' texts.
-/
structure SortedSet (α : Type) [Named α] where
  toList : List α
  sorted : toList.Pairwise fun a b => Named.text a < Named.text b
deriving DecidableEq

namespace SortedSet

variable {α : Type} [Named α]

def empty : SortedSet α where
  toList := []
  sorted := .nil

instance : Inhabited (SortedSet α) := ⟨empty⟩

instance : EmptyCollection (SortedSet α) := ⟨empty⟩

instance : Membership α (SortedSet α) := ⟨fun s a => a ∈ s.toList⟩

instance [DecidableEq α] (a : α) (s : SortedSet α) : Decidable (a ∈ s) :=
  inferInstanceAs (Decidable (a ∈ s.toList))

def insertSorted (a : α) : List α → List α
  | [] => [a]
  | b :: bs =>
    if Named.text a < Named.text b then
      a :: b :: bs
    else if Named.text b < Named.text a then
      b :: insertSorted a bs
    else
      b :: bs

theorem eq_of_not_lt {a b : α} (h₁ : ¬ Named.text a < Named.text b)
    (h₂ : ¬ Named.text b < Named.text a) : a = b :=
  Named.text_inj (String.le_antisymm (String.not_lt.1 h₂) (String.not_lt.1 h₁))

theorem mem_insertSorted {a b : α} {l : List α} : b ∈ insertSorted a l ↔ b = a ∨ b ∈ l := by
  induction l with
  | nil => simp [insertSorted]
  | cons c l ih =>
    rw [insertSorted]
    split
    . simp
    . split
      . simp only [List.mem_cons, ih]
        grind
      . rename_i h₁ h₂
        simp [eq_of_not_lt h₁ h₂]

theorem pairwise_insertSorted {a : α} {l : List α}
    (h : l.Pairwise fun a b => Named.text a < Named.text b) :
    (insertSorted a l).Pairwise fun a b => Named.text a < Named.text b := by
  induction l with
  | nil => simp [insertSorted]
  | cons c l ih =>
    rw [List.pairwise_cons] at h
    rw [insertSorted]
    split <;> rename_i hac
    . rw [List.pairwise_cons, List.pairwise_cons]
      refine ⟨fun b hb => ?_, h⟩
      rcases List.mem_cons.1 hb with rfl | hb
      . exact hac
      . exact String.lt_trans hac (h.1 b hb)
    . split <;> rename_i hca
      . rw [List.pairwise_cons]
        refine ⟨fun b hb => ?_, ih h.2⟩
        rcases mem_insertSorted.1 hb with rfl | hb
        . exact hca
        . exact h.1 b hb
      . exact List.pairwise_cons.2 h

def insert (s : SortedSet α) (a : α) : SortedSet α where
  toList := insertSorted a s.toList
  sorted := pairwise_insertSorted s.sorted

def insertMany (s : SortedSet α) (l : List α) : SortedSet α :=
  l.foldl insert s

def ofList (l : List α) : SortedSet α :=
  insertMany empty l

def texts (s : SortedSet α) : List String :=
  s.toList.map Named.text

@[simp]
theorem mem_toList {a : α} {s : SortedSet α} : a ∈ s.toList ↔ a ∈ s := Iff.rfl

@[simp]
theorem not_mem_empty {a : α} : ¬ a ∈ (empty : SortedSet α) := by
  simp [← mem_toList, empty]

@[simp]
theorem mem_insert {a b : α} {s : SortedSet α} : b ∈ s.insert a ↔ b = a ∨ b ∈ s :=
  mem_insertSorted

@[simp]
theorem mem_insertMany {b : α} {s : SortedSet α} {l : List α} :
    b ∈ s.insertMany l ↔ b ∈ s ∨ b ∈ l := by
  induction l generalizing s with
  | nil => simp [insertMany]
  | cons a l ih =>
    rw [insertMany, List.foldl_cons, ← insertMany, ih, mem_insert, List.mem_cons]
    grind

@[simp]
theorem mem_ofList {b : α} {l : List α} : b ∈ ofList l ↔ b ∈ l := by
  simp [ofList]

theorem eq_of_pairwise {l₁ l₂ : List α}
    (h₁ : l₁.Pairwise fun a b => Named.text a < Named.text b)
    (h₂ : l₂.Pairwise fun a b => Named.text a < Named.text b)
    (h : ∀ a, a ∈ l₁ ↔ a ∈ l₂) : l₁ = l₂ := by
  induction l₁ generalizing l₂ with
  | nil =>
    cases l₂ with
    | nil => rfl
    | cons b l₂ => exact absurd ((h b).2 (by simp)) (by simp)
  | cons a l₁ ih =>
    cases l₂ with
    | nil => exact absurd ((h a).1 (by simp)) (by simp)
    | cons b l₂ =>
      rw [List.pairwise_cons] at h₁ h₂
      have hab : a = b := by
        rcases List.mem_cons.1 ((h a).1 (by simp)) with rfl | ha
        . rfl
        rcases List.mem_cons.1 ((h b).2 (by simp)) with rfl | hb
        . rfl
        exact absurd (String.lt_trans (h₁.1 b hb) (h₂.1 a ha)) (String.lt_irrefl _)
      subst hab
      rw [ih h₁.2 h₂.2]
      intro c
      have := h c
      simp only [List.mem_cons] at this
      constructor
      . intro hc
        rcases this.1 (.inr hc) with rfl | hc'
        . exact absurd (h₁.1 c hc) (String.lt_irrefl _)
        . exact hc'
      . intro hc
        rcases this.2 (.inr hc) with rfl | hc'
        . exact absurd (h₂.1 c hc) (String.lt_irrefl _)
        . exact hc'

@[ext]
theorem ext {s₁ s₂ : SortedSet α} (h : ∀ a, a ∈ s₁ ↔ a ∈ s₂) : s₁ = s₂ := by
  cases s₁ with | mk l₁ h₁ =>
  cases s₂ with | mk l₂ h₂ =>
  congr
  exact eq_of_pairwise h₁ h₂ h

@[simp]
theorem ofList_toList (s : SortedSet α) : ofList s.toList = s := by
  apply ext
  simp

end SortedSet

end TenantAuth
