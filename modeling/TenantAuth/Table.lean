/-!
This module contains finite maps from texts to values that keep the order in which keys were first
inserted. What a table means is given by `get?`; the main statements say what each operation does to it.
-/

namespace TenantAuth

/--
A finite map from texts, with every key listed once.
-/
structure Table (α : Type) where
  entries : List (String × α)
  nodup_keys : (entries.map Prod.fst).Nodup := by simp

namespace Table

variable {α : Type}

def empty : Table α where
  entries := []

instance : Inhabited (Table α) := ⟨empty⟩

def keys (t : Table α) : List String :=
  t.entries.map Prod.fst

def size (t : Table α) : Nat :=
  t.entries.length

def isEmpty (t : Table α) : Bool :=
  t.entries.isEmpty

def find (key : String) : List (String × α) → Option α
  | [] => none
  | (k, a) :: es => if k = key then some a else find key es

def get? (t : Table α) (key : String) : Option α :=
  find key t.entries

def put (key : String) (a : α) : List (String × α) → List (String × α)
  | [] => [(key, a)]
  | (k, b) :: es => if k = key then (key, a) :: es else (k, b) :: put key a es

theorem mem_keys_put {key k : String} {a : α} {es : List (String × α)} :
    k ∈ (put key a es).map Prod.fst ↔ k = key ∨ k ∈ es.map Prod.fst := by
  induction es with
  | nil => simp [put]
  | cons e es ih =>
    obtain ⟨k', b⟩ := e
    rw [put]
    split <;> rename_i h
    · subst h
      simp
    · simp only [List.map_cons, List.mem_cons, ih]
      grind

theorem nodup_keys_put {key : String} {a : α} {es : List (String × α)}
    (h : (es.map Prod.fst).Nodup) : ((put key a es).map Prod.fst).Nodup := by
  induction es with
  | nil => simp [put]
  | cons e es ih =>
    obtain ⟨k', b⟩ := e
    rw [put]
    simp only [List.map_cons, List.nodup_cons] at h
    split <;> rename_i hk
    · subst hk
      simpa using h
    · simp only [List.map_cons, List.nodup_cons, mem_keys_put, not_or]
      exact ⟨⟨hk, h.1⟩, ih h.2⟩

def insert (t : Table α) (key : String) (a : α) : Table α where
  entries := put key a t.entries
  nodup_keys := nodup_keys_put t.nodup_keys

theorem put_of_find {key : String} {a : α} {es : List (String × α)} (h : find key es = some a)
    : put key a es = es := by
  induction es with
  | nil => cases h
  | cons e es ih =>
    obtain ⟨k, b⟩ := e
    rw [find] at h
    rw [put]
    split at h
    . next hk =>
      cases h
      rw [if_pos hk, hk]
    . next hk => rw [if_neg hk, ih h]

theorem insert_of_get? {t : Table α} {key : String} {a : α} (h : t.get? key = some a) : t.insert key a = t := by
  cases t with
  | mk entries nodup_keys =>
    unfold insert
    congr
    exact put_of_find h

def filter (t : Table α) (p : α → Bool) : Table α where
  entries := t.entries.filter fun e => p e.2
  nodup_keys := t.nodup_keys.sublist (List.filter_sublist.map _)

theorem find_put {key k : String} {a : α} {es : List (String × α)} :
    find k (put key a es) = if k = key then some a else find k es := by
  induction es with
  | nil => simp [put, find, eq_comm]
  | cons e es ih =>
    obtain ⟨k', b⟩ := e
    rw [put]
    split <;> rename_i h
    · subst h
      simp only [find]
      grind
    · simp only [find, ih]
      grind

@[simp]
theorem get?_empty (k : String) : (empty : Table α).get? k = none := rfl

@[simp]
theorem get?_insert (t : Table α) (key k : String) (a : α) :
    (t.insert key a).get? k = if k = key then some a else t.get? k :=
  find_put

theorem find_eq_none_iff {key : String} {es : List (String × α)} :
    find key es = none ↔ key ∉ es.map Prod.fst := by
  induction es with
  | nil => simp [find]
  | cons e es ih =>
    obtain ⟨k, b⟩ := e
    rw [find]
    split <;> simp_all [eq_comm]

theorem find_eq_some_iff {key : String} {a : α} {es : List (String × α)} (h : (es.map Prod.fst).Nodup) :
    find key es = some a ↔ (key, a) ∈ es := by
  induction es with
  | nil => simp [find]
  | cons e es ih =>
    obtain ⟨k, b⟩ := e
    simp only [List.map_cons, List.nodup_cons] at h
    rw [find, List.mem_cons, Prod.mk.injEq]
    split <;> rename_i hk
    · subst hk
      have hnot : (k, a) ∉ es := fun hmem => h.1 (List.mem_map_of_mem hmem)
      simp [hnot, eq_comm]
    · simp [ih h.2, Ne.symm hk]

theorem get?_eq_some_iff {t : Table α} {k : String} {a : α} : t.get? k = some a ↔ (k, a) ∈ t.entries :=
  find_eq_some_iff t.nodup_keys

theorem find_filter {p : α → Bool} {key : String} {es : List (String × α)}
    (h : (es.map Prod.fst).Nodup) :
    find key (es.filter fun e => p e.2) = (find key es).filter p := by
  induction es with
  | nil => rfl
  | cons e es ih =>
    obtain ⟨k, b⟩ := e
    simp only [List.map_cons, List.nodup_cons] at h
    rw [List.filter_cons]
    by_cases hk : k = key
    · subst hk
      have hnone : find k (es.filter fun e => p e.2) = none := by
        rw [ih h.2, find_eq_none_iff.2 h.1]
        rfl
      by_cases hp : p b <;> simp [find, hp, hnone, Option.filter]
    · by_cases hp : p b <;> simp [find, hp, hk, ih h.2]

@[simp]
theorem get?_filter (t : Table α) (p : α → Bool) (k : String) :
    (t.filter p).get? k = (t.get? k).filter p :=
  find_filter t.nodup_keys

end Table

end TenantAuth
