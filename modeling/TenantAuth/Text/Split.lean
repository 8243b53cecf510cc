/-!
This module contains the ways a text is cut at a separator: once at its first occurrence, once at its
last one, or at every one.
-/

namespace TenantAuth.Text

def cut? (sep : Char) : List Char → Option (List Char × List Char)
  | [] => none
  | c :: cs => if c = sep then some ([], cs) else (cut? sep cs).map fun (l, r) => (c :: l, r)

def pieces (sep : Char) : List Char → List (List Char)
  | [] => [[]]
  | c :: cs =>
    if c = sep then
      [] :: pieces sep cs
    else
      match pieces sep cs with
      | [] => [[c]]
      | p :: ps => (c :: p) :: ps

def splitFirst? (sep : Char) (s : String) : Option (String × String) :=
  (cut? sep s.toList).map fun (l, r) => (String.ofList l, String.ofList r)

def splitLast? (sep : Char) (s : String) : Option (String × String) :=
  (cut? sep s.toList.reverse).map fun (l, r) => (String.ofList r.reverse, String.ofList l.reverse)

def split (sep : Char) (s : String) : List String :=
  (pieces sep s.toList).map String.ofList

theorem cut?_eq_some_iff {sep : Char} {cs l r : List Char} :
    cut? sep cs = some (l, r) ↔ cs = l ++ sep :: r ∧ sep ∉ l := by
  induction cs generalizing l with
  | nil => simp [cut?]
  | cons c cs ih =>
    rw [cut?]
    split <;> rename_i h
    · subst h
      simp only [Option.some.injEq, Prod.mk.injEq]
      constructor
      · rintro ⟨rfl, rfl⟩
        simp
      · rintro ⟨h, hl⟩
        cases l with
        | nil => simpa using h
        | cons b l => simp_all
    · simp only [Option.map_eq_some_iff, Prod.exists, Prod.mk.injEq]
      constructor
      · rintro ⟨l', r', h', rfl, rfl⟩
        obtain ⟨rfl, hl⟩ := ih.1 h'
        simp [hl, Ne.symm h]
      · rintro ⟨heq, hl⟩
        cases l with
        | nil => simp at heq; exact absurd heq.1 h
        | cons b l =>
          simp only [List.cons_append, List.cons.injEq] at heq
          exact ⟨l, r, ih.2 ⟨heq.2, by simp_all⟩, by simp [heq.1], rfl⟩

theorem pieces_ne_nil (sep : Char) (cs : List Char) : pieces sep cs ≠ [] := by
  cases cs with
  | nil => simp [pieces]
  | cons c cs =>
    rw [pieces]
    split
    · simp
    · split <;> simp

theorem pieces_eq_splitOn (sep : Char) (cs : List Char) : pieces sep cs = cs.splitOn sep := by
  induction cs with
  | nil => simp [pieces]
  | cons c cs ih =>
    rw [pieces, List.splitOn_cons_eq_if_modifyHead, ← ih]
    by_cases h : c = sep
    · simp [h]
    · rw [if_neg h, if_neg (by simpa using h)]
      split
      · next heq => exact absurd heq (pieces_ne_nil sep cs)
      · next heq => rw [heq, List.modifyHead_cons]

theorem not_mem_of_mem_pieces {sep : Char} {cs p : List Char} (h : p ∈ pieces sep cs) : sep ∉ p := by
  induction cs generalizing p with
  | nil => simp_all [pieces]
  | cons c cs ih =>
    rw [pieces] at h
    split at h
    · cases List.mem_cons.1 h with
      | inl h => simp [h]
      | inr h => exact ih h
    · next hc =>
      split at h
      · next heq => exact absurd heq (pieces_ne_nil sep cs)
      · next q qs heq =>
        cases List.mem_cons.1 h with
        | inl h =>
          have hq : sep ∉ q := ih (by simp [heq])
          rw [h, List.mem_cons, not_or]
          exact ⟨Ne.symm hc, hq⟩
        | inr h => exact ih (by simp [heq, h])

theorem sublist_of_mem_pieces {sep : Char} {cs p : List Char} (h : p ∈ pieces sep cs) : p.Sublist cs := by
  induction cs generalizing p with
  | nil =>
    cases List.mem_singleton.1 h
    exact .refl _
  | cons c cs ih =>
    rw [pieces] at h
    split at h
    · cases List.mem_cons.1 h with
      | inl h => rw [h]; exact List.nil_sublist _
      | inr h => exact (ih h).cons c
    · split at h
      · next heq => exact absurd heq (pieces_ne_nil sep cs)
      · next q qs heq =>
        cases List.mem_cons.1 h with
        | inl h => rw [h]; exact (ih (by simp [heq])).cons_cons c
        | inr h => exact (ih (by simp [heq, h])).cons c

theorem split_intercalate {sep : Char} {l : List String} (hsep : ∀ s ∈ l, sep ∉ s.toList) (hne : l ≠ [])
    : split sep ((String.ofList [sep]).intercalate l) = l := by
  have hpieces : ∀ cs ∈ l.map String.toList, sep ∉ cs := List.forall_mem_map.2 hsep
  have hne' : l.map String.toList ≠ [] := mt List.map_eq_nil_iff.1 hne
  rw [split, pieces_eq_splitOn, String.toList_intercalate, String.toList_ofList,
    List.splitOn_intercalate sep hpieces hne']
  simp

theorem not_mem_of_mem_split {sep : Char} {s piece : String} (h : piece ∈ split sep s) : sep ∉ piece.toList := by
  rcases List.mem_map.1 h with ⟨p, hp, rfl⟩
  rw [String.toList_ofList]
  exact not_mem_of_mem_pieces hp

theorem intercalate_split (sep : Char) (s : String) : (String.ofList [sep]).intercalate (split sep s) = s := by
  have hpieces : (split sep s).map String.toList = s.toList.splitOn sep := by
    rw [split, pieces_eq_splitOn, List.map_map]
    simp [Function.comp_def]
  rw [← String.toList_inj, String.toList_intercalate, String.toList_ofList, hpieces]
  exact List.intercalate_splitOn sep

theorem split_eq_three_iff {sep : Char} {s a b c : String} :
    split sep s = [a, b, c] ↔
      s.toList = a.toList ++ sep :: (b.toList ++ sep :: c.toList)
        ∧ sep ∉ a.toList ∧ sep ∉ b.toList ∧ sep ∉ c.toList := by
  constructor
  · intro h
    have hpieces : pieces sep s.toList = [a.toList, b.toList, c.toList] := by
      have := congrArg (List.map String.toList) h
      simpa [split] using this
    have hjoin : [sep].intercalate (s.toList.splitOn sep) = s.toList := List.intercalate_splitOn sep
    rw [← pieces_eq_splitOn, hpieces] at hjoin
    have hnot : ∀ p ∈ [a.toList, b.toList, c.toList], sep ∉ p := by
      intro p hp
      rw [← hpieces] at hp
      exact not_mem_of_mem_pieces hp
    exact ⟨by simpa [List.intercalate_cons_cons] using hjoin.symm, hnot _ (by simp), hnot _ (by simp),
      hnot _ (by simp)⟩
  · rintro ⟨h, ha, hb, hc⟩
    rw [split, h, pieces_eq_splitOn, List.splitOn_append_cons_self_of_not_mem ha,
      List.splitOn_append_cons_self_of_not_mem hb, List.splitOn_eq_singleton hc]
    simp

theorem split_eq_iff {sep : Char} {s : String} {l : List String}
    : split sep s = l
        ↔
      l ≠ [] ∧ s = (String.ofList [sep]).intercalate l ∧ ∀ piece ∈ l, sep ∉ piece.toList := by
  constructor
  · rintro rfl
    refine ⟨?_, (intercalate_split sep s).symm, ?_⟩
    · rw [split, Ne, List.map_eq_nil_iff]
      exact pieces_ne_nil sep s.toList
    · intro piece hpiece
      exact not_mem_of_mem_split hpiece
  · rintro ⟨hne, rfl, hsep⟩
    exact split_intercalate hsep hne

theorem splitFirst?_eq_some_iff {sep : Char} {s l r : String} :
    splitFirst? sep s = some (l, r) ↔ s.toList = l.toList ++ sep :: r.toList ∧ sep ∉ l.toList := by
  rw [splitFirst?, Option.map_eq_some_iff]
  constructor
  · rintro ⟨⟨l', r'⟩, h, heq⟩
    rw [cut?_eq_some_iff] at h
    cases heq
    simpa using h
  · intro h
    exact ⟨(l.toList, r.toList), cut?_eq_some_iff.2 h, by simp⟩

theorem splitLast?_eq_some_iff {sep : Char} {s l r : String} :
    splitLast? sep s = some (l, r) ↔ s.toList = l.toList ++ sep :: r.toList ∧ sep ∉ r.toList := by
  rw [splitLast?, Option.map_eq_some_iff]
  constructor
  · rintro ⟨⟨r', l'⟩, h, heq⟩
    rw [cut?_eq_some_iff] at h
    cases heq
    have := congrArg List.reverse h.1
    simpa [h.2] using this
  · rintro ⟨h, hr⟩
    refine ⟨(r.toList.reverse, l.toList.reverse), ?_, by simp⟩
    rw [cut?_eq_some_iff, h]
    simpa using hr

end TenantAuth.Text
