/-!
This module contains the white space of Unicode and the removal of white space at the two ends of a
text. The main statements are that trimming leaves no white space at either end (`trim_eq_self_iff`)
and that trimming twice is trimming once (`trim_trim`).
-/

namespace TenantAuth.Text

/--
The characters with the Unicode property `White_Space`.
-/
def isBlank (c : Char) : Bool :=
  let n := c.toNat
  (0x9 ≤ n && n ≤ 0xD) || n == 0x20 || n == 0x85 || n == 0xA0 || n == 0x1680
    || (0x2000 ≤ n && n ≤ 0x200A) || n == 0x2028 || n == 0x2029 || n == 0x202F || n == 0x205F
    || n == 0x3000

def trimChars (cs : List Char) : List Char :=
  ((cs.dropWhile isBlank).reverse.dropWhile isBlank).reverse

def trim (s : String) : String :=
  String.ofList (trimChars s.toList)

def blank (s : String) : Bool :=
  (trim s).isEmpty

def normalize? (s : String) : Option String :=
  if blank s then none else some (trim s)

theorem dropWhile_eq_self_of_head? {p : α → Bool} {l : List α} (h : ∀ a, l.head? = some a → p a = false) :
    l.dropWhile p = l := by
  cases l with
  | nil => rfl
  | cons a l => simp [h a rfl]

theorem head?_dropWhile_false {p : α → Bool} {l : List α} {a : α} (h : (l.dropWhile p).head? = some a) :
    p a = false := by
  induction l with
  | nil => simp at h
  | cons b l ih =>
    by_cases hb : p b
    · exact ih (by simpa [hb] using h)
    · simp [hb] at h
      simpa [h] using hb

theorem exists_append_dropWhile (p : α → Bool) (l : List α) :
    ∃ t, l = t ++ l.dropWhile p ∧ ∀ a ∈ t, p a = true :=
  ⟨l.takeWhile p, by simp, fun a h => by
    induction l with
    | nil => simp at h
    | cons b l ih =>
      by_cases hb : p b
      · simp [hb] at h
        rcases h with rfl | h
        · exact hb
        · exact ih h
      · simp [hb] at h⟩

theorem trimChars_eq_self_iff {cs : List Char} :
    trimChars cs = cs ↔
      (∀ c, cs.head? = some c → isBlank c = false) ∧ (∀ c, cs.getLast? = some c → isBlank c = false) := by
  constructor
  · intro h
    have hlast : ∀ c, cs.getLast? = some c → isBlank c = false := by
      intro c hc
      rw [← h, trimChars, List.getLast?_reverse] at hc
      exact head?_dropWhile_false hc
    refine ⟨fun c hc => ?_, hlast⟩
    obtain ⟨t, ht, _⟩ := exists_append_dropWhile isBlank (cs.dropWhile isBlank).reverse
    have : cs.dropWhile isBlank = cs ++ t.reverse := by
      have := congrArg List.reverse ht
      rw [List.reverse_reverse, List.reverse_append] at this
      rw [this]
      congr 1
    apply head?_dropWhile_false (l := cs)
    rw [this]
    cases cs with
    | nil => simp at hc
    | cons b l => simpa using hc
  · rintro ⟨hhead, hlast⟩
    rw [trimChars, dropWhile_eq_self_of_head? hhead, dropWhile_eq_self_of_head?, List.reverse_reverse]
    intro c hc
    exact hlast c (by simpa using hc)

theorem trimChars_trimChars (cs : List Char) : trimChars (trimChars cs) = trimChars cs := by
  rw [trimChars_eq_self_iff]
  constructor
  · intro c hc
    obtain ⟨t, ht, _⟩ := exists_append_dropWhile isBlank (cs.dropWhile isBlank).reverse
    have : cs.dropWhile isBlank = trimChars cs ++ t.reverse := by
      have := congrArg List.reverse ht
      rwa [List.reverse_reverse, List.reverse_append] at this
    apply head?_dropWhile_false (l := cs)
    rw [this]
    generalize trimChars cs = ds at *
    cases ds with
    | nil => simp at hc
    | cons b l => simpa using hc
  · intro c hc
    rw [trimChars, List.getLast?_reverse] at hc
    exact head?_dropWhile_false hc

@[simp]
theorem toList_trim (s : String) : (trim s).toList = trimChars s.toList := by
  simp [trim]

@[simp]
theorem trim_trim (s : String) : trim (trim s) = trim s := by
  rw [trim, toList_trim, trimChars_trimChars, trim]

theorem trim_sublist (s : String) : (trim s).toList.Sublist s.toList := by
  rw [toList_trim, trimChars]
  have htail := (List.dropWhile_sublist isBlank (l := (s.toList.dropWhile isBlank).reverse)).reverse
  rw [List.reverse_reverse] at htail
  exact htail.trans (List.dropWhile_sublist isBlank)

theorem trim_eq_self_iff {s : String} :
    trim s = s ↔
      (∀ c, s.toList.head? = some c → isBlank c = false)
        ∧ (∀ c, s.toList.getLast? = some c → isBlank c = false) := by
  rw [← trimChars_eq_self_iff, ← String.toList_inj, toList_trim]

theorem trim_eq_self_of_forall {s : String} (h : ∀ c ∈ s.toList, isBlank c = false) : trim s = s := by
  rw [trim_eq_self_iff]
  exact ⟨fun c hc => h c (List.mem_of_head? hc), fun c hc => h c (List.mem_of_getLast? hc)⟩

theorem blank_iff {s : String} : blank s = true ↔ trim s = "" := by
  simp [blank]

theorem trim_eq_empty_iff {s : String} : trim s = "" ↔ ∀ c ∈ s.toList, isBlank c = true := by
  rw [← String.toList_eq_nil_iff, toList_trim, trimChars, List.reverse_eq_nil_iff]
  constructor
  · intro h c hc
    have hrest : (s.toList.dropWhile isBlank).all isBlank = true := by
      rw [← List.all_reverse, ← Bool.not_eq_false', ← List.any_dropWhile, h, List.any_nil]
    rw [← List.takeWhile_append_dropWhile (p := isBlank) (l := s.toList), List.mem_append] at hc
    exact hc.elim (fun hc => List.all_eq_true.1 List.all_takeWhile c hc) (List.all_eq_true.1 hrest c)
  · intro h
    have hdrop : s.toList.dropWhile isBlank = [] := by
      rw [← List.append_nil s.toList, List.dropWhile_append_of_pos h, List.dropWhile_nil]
    rw [hdrop]
    rfl

theorem normalize?_eq_some_iff {s t : String} : normalize? s = some t ↔ trim s = t ∧ t ≠ "" := by
  rw [normalize?]
  split <;> rename_i h
  · rw [blank_iff] at h
    simp only [reduceCtorEq, false_iff, not_and]
    rintro rfl
    simp [h]
  · rw [blank_iff] at h
    simp only [Option.some.injEq, iff_self_and]
    rintro rfl
    exact h

theorem normalize?_eq_none_iff {s : String} : normalize? s = none ↔ trim s = "" := by
  simp [normalize?, blank_iff]

end TenantAuth.Text
