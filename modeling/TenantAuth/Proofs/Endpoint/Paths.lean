import Mathlib.Data.Set.Lattice
import Mathlib.Order.CompletePartialOrder
import TenantAuth.Endpoint.Pattern

/-!
This module contains the sets of paths that patterns match. The main statement is that one pattern
matches all paths of another one exactly if it covers it segment by segment (`paths_subset_iff`).
-/

namespace TenantAuth

def IsPathSegment (s : String) : Prop :=
  s ≠ "" ∧ '/' ∉ s.toList

def joinSegments (segments : List String) : String :=
  String.ofList ('/' :: segments.flatMap fun s => s.toList ++ ['/'])

theorem isPathSegment_of_mem {path s : String} (h : s ∈ pathSegments path) : IsPathSegment s := by
  rcases List.mem_filter.1 h with ⟨hsplit, hne⟩
  refine ⟨?_, Text.not_mem_of_mem_split hsplit⟩
  intro hempty
  rw [hempty] at hne
  cases hne

theorem head?_joinSegments (segments : List String) : (joinSegments segments).toList.head? = some '/' := by
  rw [joinSegments, String.toList_ofList, List.head?_cons]

theorem pieces_flatMap_slash {segments : List String} (h : ∀ s ∈ segments, IsPathSegment s)
    : Text.pieces '/' (segments.flatMap fun s => s.toList ++ ['/'])
        =
      segments.map String.toList ++ [[]] := by
  induction segments with
  | nil => rfl
  | cons s segments ih =>
    have hs : '/' ∉ s.toList := (h s List.mem_cons_self).2
    rw [List.flatMap_cons, List.append_assoc, Text.pieces_eq_splitOn, List.singleton_append]
    rw [List.splitOn_append_cons_self_of_not_mem hs, ← Text.pieces_eq_splitOn]
    rw [ih fun t ht => h t (List.mem_cons_of_mem s ht)]
    rfl

theorem pathSegments_joinSegments {segments : List String} (h : ∀ s ∈ segments, IsPathSegment s)
    : pathSegments (joinSegments segments) = segments := by
  have hkeep : segments.filter (fun s => !s.isEmpty) = segments := by
    rw [List.filter_eq_self]
    intro s hs
    simpa using (h s hs).1
  have hpieces : Text.pieces '/' ('/' :: segments.flatMap fun s => s.toList ++ ['/'])
      = [] :: (segments.map String.toList ++ [[]]) := by
    rw [Text.pieces, if_pos rfl, pieces_flatMap_slash h]
  rw [pathSegments, Text.split, joinSegments, String.toList_ofList, hpieces]
  simp [List.filter_append, hkeep]

namespace Segment

def Proper : List Segment → Prop
  | [] => True
  | rest :: segments => segments = []
  | single :: segments => Proper segments
  | literal text :: segments => IsPathSegment text ∧ Proper segments

/--
Every path that the second row of segments matches is matched by the first one, as far as the segments
one by one can tell.
-/
inductive Covers : List Segment → List Segment → Prop where
  | rest (p : List Segment) : Covers [.rest] p
  | nil : Covers [] []
  | single {s : Segment} {q p : List Segment} (hs : s ≠ .rest) (h : Covers q p) :
    Covers (.single :: q) (s :: p)
  | literal {text : String} {q p : List Segment} (h : Covers q p) :
    Covers (.literal text :: q) (.literal text :: p)

def Includes (q p : List Segment) : Prop :=
  ∀ path : List String, (∀ s ∈ path, IsPathSegment s) → matchAll p path = true → matchAll q path = true

def witness : Segment → String
  | literal text => text
  | _ => "x"

def sample : List Segment → List String
  | [] => []
  | s :: segments => if s = rest then [] else s.witness :: sample segments

variable {s t : Segment} {p q : List Segment}

theorem proper_ofTexts? {texts : List String} (htexts : ∀ t ∈ texts, IsPathSegment t)
    (h : ofTexts? texts = some p) : Proper p := by
  induction texts generalizing p with
  | nil =>
    cases h
    trivial
  | cons t texts ih =>
    rw [ofTexts?] at h
    split at h
    . split at h
      . cases h
        rfl
      . cases h
    . rcases Option.map_eq_some_iff.1 h with ⟨segments, hsegments, rfl⟩
      have hproper := ih (fun t' ht' => htexts t' (List.mem_cons_of_mem t ht')) hsegments
      have ht := htexts t List.mem_cons_self
      unfold ofText
      split
      . exact hproper
      . split
        . exact hproper
        . exact ⟨ht, hproper⟩

theorem Proper.cons (h : Proper (s :: p)) (hs : s ≠ .rest) : IsPathSegment s.witness ∧ Proper p := by
  cases s with
  | rest => exact absurd rfl hs
  | single => exact ⟨⟨by decide, by decide⟩, h⟩
  | literal text => exact h

theorem matchAll_witness (hs : s ≠ .rest) (path : List String)
    : matchAll (s :: p) (s.witness :: path) = matchAll p path := by
  cases s with
  | rest => exact absurd rfl hs
  | single => rfl
  | literal text => rw [witness, matchAll, beq_self_eq_true, Bool.true_and]

theorem matchAll_tail {text : String} {path : List String} (hs : s ≠ .rest)
    (h : matchAll (s :: p) (text :: path) = true) : matchAll p path = true := by
  cases s with
  | rest => exact absurd rfl hs
  | single => exact h
  | literal text => exact (Bool.and_eq_true_iff.1 h).2

theorem matchAll_nil (hs : s ≠ .rest) : matchAll (s :: p) [] = false := by
  cases s with
  | rest => exact absurd rfl hs
  | single => rfl
  | literal text => rfl

theorem sample_of_proper (h : Proper p)
    : matchAll p (sample p) = true ∧ ∀ s ∈ sample p, IsPathSegment s := by
  induction p with
  | nil => exact ⟨rfl, List.forall_mem_nil _⟩
  | cons s p ih =>
    rw [sample]
    split
    . next hs =>
      rw [hs]
      exact ⟨rfl, List.forall_mem_nil _⟩
    . next hs =>
      rcases h.cons hs with ⟨hwitness, hp⟩
      rcases ih hp with ⟨hmatch, hsegments⟩
      rw [matchAll_witness hs]
      exact ⟨hmatch, List.forall_mem_cons.2 ⟨hwitness, hsegments⟩⟩

theorem Covers.includes (h : Covers q p) : Includes q p := by
  intro path hpath hmatch
  induction h generalizing path with
  | rest => rfl
  | nil => exact hmatch
  | single hs _ ih =>
    cases path with
    | nil =>
      rw [matchAll_nil hs] at hmatch
      cases hmatch
    | cons text path => exact ih path (List.forall_mem_cons.1 hpath).2 (matchAll_tail hs hmatch)
  | literal _ ih =>
    cases path with
    | nil => cases hmatch
    | cons text path =>
      rcases Bool.and_eq_true_iff.1 hmatch with ⟨htext, hmatch⟩
      exact Bool.and_eq_true_iff.2 ⟨htext, ih path (List.forall_mem_cons.1 hpath).2 hmatch⟩

theorem Includes.eq_nil (h : Includes [] p) (hp : Proper p) : p = [] := by
  cases p with
  | nil => rfl
  | cons s p =>
    by_cases hs : s = .rest
    . have hx : ∀ s ∈ ["x"], IsPathSegment s := by
        rw [List.forall_mem_singleton]
        exact ⟨by decide, by decide⟩
      exact absurd (h ["x"] hx (by rw [hs, matchAll])) (by decide)
    . rcases sample_of_proper hp with ⟨hmatch, hsegments⟩
      have hempty := h _ hsegments hmatch
      rw [sample, if_neg hs] at hempty
      cases hempty

-- A row that starts with an open end matches the root, and so does the empty row.
theorem Includes.exists_cons (h : Includes (t :: q) p) (ht : t ≠ .rest)
    : ∃ s p', p = s :: p' ∧ s ≠ .rest := by
  have hroot : matchAll p [] ≠ true := by
    intro hmatch
    have := h [] (List.forall_mem_nil _) hmatch
    rw [matchAll_nil ht] at this
    cases this
  cases p with
  | nil => exact absurd rfl hroot
  | cons s p =>
    refine ⟨s, p, rfl, ?_⟩
    intro hs
    rw [hs] at hroot
    exact hroot rfl

theorem Includes.tail (h : Includes (t :: q) (s :: p)) (ht : t ≠ .rest) (hs : s ≠ .rest)
    (hp : Proper (s :: p)) : Includes q p := by
  intro path hpath hmatch
  apply matchAll_tail ht
  apply h (s.witness :: path)
  . exact List.forall_mem_cons.2 ⟨(hp.cons hs).1, hpath⟩
  . rw [matchAll_witness hs, hmatch]

-- A single wildcard matches a segment that is not the literal; a literal matches only itself.
theorem Includes.eq_literal {text : String} (h : Includes (.literal text :: q) (s :: p)) (hs : s ≠ .rest)
    (hp : Proper (s :: p)) : s = .literal text := by
  have hwitness : ∀ u, IsPathSegment u → matchAll (s :: p) (u :: sample p) = true → text = u := by
    intro u hu hmatch
    have hsegments := (sample_of_proper (hp.cons hs).2).2
    have := h _ (List.forall_mem_cons.2 ⟨hu, hsegments⟩) hmatch
    exact beq_iff_eq.1 (Bool.and_eq_true_iff.1 this).1
  have hsample := (sample_of_proper (hp.cons hs).2).1
  cases s with
  | rest => exact absurd rfl hs
  | single =>
    have hx : text = "x" := hwitness "x" ⟨by decide, by decide⟩ hsample
    have hy : text = "y" := hwitness "y" ⟨by decide, by decide⟩ hsample
    rw [hx] at hy
    exact absurd hy (by decide)
  | literal text' =>
    rw [hwitness text' hp.1 ((matchAll_witness hs _).trans hsample)]

theorem covers_of_includes (h : Includes q p) (hq : Proper q) (hp : Proper p) : Covers q p := by
  induction q generalizing p with
  | nil =>
    rw [h.eq_nil hp]
    exact .nil
  | cons t q ih =>
    by_cases ht : t = .rest
    . rw [ht] at hq ⊢
      cases hq
      exact .rest p
    . rcases h.exists_cons ht with ⟨s, p, rfl, hs⟩
      have hcovers : Covers q p := ih (h.tail ht hs hp) (hq.cons ht).2 (hp.cons hs).2
      cases t with
      | rest => exact absurd rfl ht
      | single => exact .single hs hcovers
      | literal text =>
        rw [h.eq_literal hs hp]
        exact .literal hcovers

end Segment

namespace Pattern

def paths (p : Pattern) : Set String :=
  { path | p.isMatch path = true }

variable {p q : Pattern} {path : String}

@[simp]
theorem mem_paths : path ∈ p.paths ↔ p.isMatch path = true := Iff.rfl

theorem compile_eq_ok_iff {text : String} {segments : List Segment}
    : compile text = .ok segments
        ↔
      text ≠ "" ∧ text.toList.head? = some '/' ∧ text.length ≤ EndpointError.maxPatternLength
        ∧ Segment.ofTexts? (pathSegments text) = some segments := by
  unfold compile
  split
  . next hempty => simp [hempty]
  . next hne =>
    split
    . next hslash => simp [hslash]
    . next hslash =>
      rw [Decidable.not_not] at hslash
      split
      . next hlong => simp [Nat.not_le.2 hlong]
      . next hlength => cases Segment.ofTexts? (pathSegments text) <;> simp_all

theorem proper_segments (p : Pattern) : Segment.Proper p.segments := by
  rcases compile_eq_ok_iff.1 p.compile_text with ⟨_, _, _, hsegments⟩
  exact Segment.proper_ofTexts? (fun _ => isPathSegment_of_mem) hsegments

theorem isMatch_joinSegments {segments : List String} (h : ∀ s ∈ segments, IsPathSegment s)
    : p.isMatch (joinSegments segments) = Segment.matchAll p.segments segments := by
  rw [isMatch, head?_joinSegments, pathSegments_joinSegments h, beq_self_eq_true, Bool.true_and]

theorem paths_subset_iff_includes : p.paths ⊆ q.paths ↔ Segment.Includes q.segments p.segments := by
  constructor
  . intro h segments hsegments hmatch
    rw [← isMatch_joinSegments hsegments] at hmatch ⊢
    exact h hmatch
  . intro h path hmatch
    rcases Bool.and_eq_true_iff.1 hmatch with ⟨hslash, hmatch⟩
    have hsegments : ∀ s ∈ pathSegments path, IsPathSegment s := fun _ => isPathSegment_of_mem
    exact Bool.and_eq_true_iff.2 ⟨hslash, h _ hsegments hmatch⟩

theorem paths_subset_iff : p.paths ⊆ q.paths ↔ Segment.Covers q.segments p.segments := by
  rw [paths_subset_iff_includes]
  constructor
  . intro h
    exact Segment.covers_of_includes h q.proper_segments p.proper_segments
  . exact Segment.Covers.includes

theorem paths_eq_of_segments_eq (h : p.segments = q.segments) : p.paths = q.paths := by
  ext path
  rw [mem_paths, mem_paths, isMatch, isMatch, h]

end Pattern

end TenantAuth
