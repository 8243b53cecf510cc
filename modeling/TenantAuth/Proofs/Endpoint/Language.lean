import Mathlib.Data.List.Forall2
import TenantAuth.Proofs.Endpoint.Paths

/-!
This module contains the grammar of path patterns and the paths that each of them matches, both told by what
stands between the slashes of a text. The main statement is that patterns are read and matched just so
(`pattern_language`): only the segments that are not empty matter, of a pattern as of a path.
-/

namespace TenantAuth

/--
A text consists of pieces without a slash that are joined by slashes; its segments are the pieces that are
not empty.
-/
def HasSegments (text : String) (segments : List String) : Prop :=
  ∃ pieces : List String, (∀ p ∈ pieces, '/' ∉ p.toList) ∧ text = "/".intercalate pieces
    ∧ segments = pieces.filter (· ≠ "")

def SameSegments (a b : String) : Prop :=
  ∃ segments, HasSegments a segments ∧ HasSegments b segments

def IsRooted (text : String) : Prop :=
  ∃ rest, text = "/" ++ rest

theorem hasSegments_iff {text : String} {segments : List String}
    : HasSegments text segments ↔ pathSegments text = segments := by
  have hsegments : ∀ pieces : List String, (pieces.filter fun s => !s.isEmpty) = pieces.filter (· ≠ "") := by
    intro pieces
    apply List.filter_congr
    intro s _
    by_cases hs : s = "" <;> simp [hs]
  rw [pathSegments, hsegments]
  constructor
  . rintro ⟨pieces, hslash, rfl, rfl⟩
    cases pieces with
    | nil => rfl
    | cons p pieces =>
      have hsplit := Text.split_intercalate hslash (List.cons_ne_nil p pieces)
      rw [show String.ofList ['/'] = "/" from rfl] at hsplit
      rw [hsplit]
  . intro h
    rcases Text.split_eq_iff.1 (Eq.refl (Text.split '/' text)) with ⟨_, htext, hslash⟩
    exact ⟨Text.split '/' text, hslash, htext, h.symm⟩

theorem sameSegments_iff {a b : String} : SameSegments a b ↔ pathSegments a = pathSegments b := by
  simp only [SameSegments, hasSegments_iff]
  constructor
  . rintro ⟨segments, ha, hb⟩
    rw [ha, hb]
  . intro h
    exact ⟨_, h, rfl⟩

theorem isRooted_iff {text : String} : IsRooted text ↔ text.toList.head? = some '/' := by
  rw [List.head?_eq_some_iff]
  constructor
  . rintro ⟨rest, rfl⟩
    exact ⟨rest.toList, by simp⟩
  . rintro ⟨rest, h⟩
    refine ⟨String.ofList rest, ?_⟩
    rw [← String.toList_inj, h]
    simp

namespace Segment

def IsPlaceholder (text : String) : Prop :=
  text = "*" ∨ ∃ name, name ≠ "" ∧ text = "\x7b" ++ name ++ "\x7d"

def Fits (text s : String) : Prop :=
  IsPlaceholder text ∨ text = s

/--
The segments of a pattern match those of a path position by position, but for two stars at the end, which
match all segments that remain.
-/
inductive Describes : List String → List String → Prop where
  | closed {texts path : List String} (hlast : texts.getLast? ≠ some "**") (h : List.Forall₂ Fits texts path) :
    Describes texts path
  | opened {texts path : List String} (h : List.Forall₂ Fits texts path) (rest : List String) :
    Describes (texts ++ ["**"]) (path ++ rest)

variable {text s : String} {texts path : List String} {p : List Segment}

-- A text of one or two bytes has no room for a name between its braces.
theorem isBraced_iff
    : 2 < text.utf8ByteSize ∧ text.toList.head? = some '\x7b' ∧ text.toList.getLast? = some '\x7d'
        ↔
      ∃ name, name ≠ "" ∧ text = "\x7b" ++ name ++ "\x7d" := by
  constructor
  . rintro ⟨hsize, hhead, hlast⟩
    rcases List.head?_eq_some_iff.1 hhead with ⟨cs, hcs⟩
    rw [hcs] at hlast
    rcases List.eq_nil_or_concat cs with rfl | ⟨name, c, rfl⟩
    . exact absurd hlast (by decide)
    . rw [List.concat_eq_append] at hcs hlast
      rw [← List.cons_append, List.getLast?_concat, Option.some.injEq] at hlast
      have htext : text = "\x7b" ++ String.ofList name ++ "\x7d" := by
        rw [← String.toList_inj, hcs, hlast]
        simp
      refine ⟨String.ofList name, ?_, htext⟩
      intro hempty
      rw [htext, hempty] at hsize
      exact absurd hsize (by decide)
  . rintro ⟨name, hname, rfl⟩
    have hpos : 0 < name.utf8ByteSize := by
      rw [Nat.pos_iff_ne_zero, Ne, String.utf8ByteSize_eq_zero_iff]
      exact hname
    refine ⟨?_, ?_, ?_⟩
    . rw [String.utf8ByteSize_append, String.utf8ByteSize_append]
      show 2 < 1 + name.utf8ByteSize + 1
      omega
    . simp
    . rw [String.toList_append, show "\x7d".toList = ['\x7d'] from rfl, List.getLast?_concat]

theorem ofText_of_isPlaceholder (h : IsPlaceholder text) : ofText text = .single := by
  unfold ofText
  split
  . rfl
  . next hstar =>
    rcases isBraced_iff.2 (h.resolve_left hstar) with ⟨hsize, hhead, hlast⟩
    simp [hsize, hhead, hlast]

theorem ofText_of_not_isPlaceholder (h : ¬ IsPlaceholder text) : ofText text = .literal text := by
  rcases not_or.1 h with ⟨hstar, hbraced⟩
  rw [← isBraced_iff] at hbraced
  rw [ofText, if_neg hstar, if_neg]
  simpa only [Bool.and_eq_true, decide_eq_true_eq, beq_iff_eq, and_assoc] using hbraced

theorem matchAll_ofText
    : matchAll (ofText text :: p) path = true
        ↔
      ∃ s path', path = s :: path' ∧ Fits text s ∧ matchAll p path' = true := by
  by_cases h : IsPlaceholder text
  . rw [ofText_of_isPlaceholder h]
    cases path with
    | nil => simp [matchAll]
    | cons s path => simp [matchAll, Fits, h]
  . rw [ofText_of_not_isPlaceholder h]
    cases path with
    | nil => simp [matchAll]
    | cons s path => simp [matchAll, Fits, h]

theorem describes_iff
    : Describes texts path
        ↔
      (texts.getLast? ≠ some "**" ∧ List.Forall₂ Fits texts path)
        ∨ ∃ init matched rest, texts = init ++ ["**"] ∧ path = matched ++ rest
          ∧ List.Forall₂ Fits init matched := by
  constructor
  . intro h
    cases h with
    | closed hlast h => exact .inl ⟨hlast, h⟩
    | opened h rest => exact .inr ⟨_, _, rest, rfl, rfl, h⟩
  . rintro (⟨hlast, h⟩ | ⟨init, matched, rest, rfl, rfl, h⟩)
    . exact .closed hlast h
    . exact .opened h rest

theorem describes_nil : Describes [] path ↔ path = [] := by
  simp [describes_iff]

theorem getLast?_cons_ne (h : text ≠ "**")
    : (text :: texts).getLast? ≠ some "**" ↔ texts.getLast? ≠ some "**" := by
  cases texts with
  | nil => simpa using h
  | cons t texts => rw [List.getLast?_cons_cons]

-- A segment that is no open end takes exactly one segment of the path, also before an open end.
theorem describes_cons (htext : text ≠ "**")
    : Describes (text :: texts) path ↔ ∃ s path', path = s :: path' ∧ Fits text s ∧ Describes texts path' := by
  constructor
  . intro hdescribes
    rcases describes_iff.1 hdescribes with ⟨hlast, h⟩ | ⟨init, matched, rest, hinit, rfl, h⟩
    . rcases List.forall₂_cons_left_iff.1 h with ⟨s, path', hfits, hrest, rfl⟩
      exact ⟨s, path', rfl, hfits, .closed ((getLast?_cons_ne htext).1 hlast) hrest⟩
    . cases init with
      | nil => exact absurd (List.cons.inj hinit).1 htext
      | cons t init =>
        rcases List.cons.inj hinit with ⟨rfl, rfl⟩
        rcases List.forall₂_cons_left_iff.1 h with ⟨s, path', hfits, hrest, rfl⟩
        exact ⟨s, path' ++ rest, rfl, hfits, .opened hrest rest⟩
  . rintro ⟨s, path', rfl, hfits, h⟩
    cases h with
    | closed hlast h => exact .closed ((getLast?_cons_ne htext).2 hlast) (.cons hfits h)
    | @opened init matched h rest =>
      have hall : List.Forall₂ Fits (text :: init) (s :: matched) := .cons hfits h
      exact .opened hall rest

theorem matchAll_iff_describes (h : ofTexts? texts = some p) : matchAll p path = true ↔ Describes texts path := by
  induction texts generalizing p path with
  | nil =>
    cases h
    rw [describes_nil, matchAll, List.isEmpty_iff]
  | cons t texts ih =>
    rw [ofTexts?] at h
    split at h
    . next ht =>
      split at h
      . next hempty =>
        cases h
        rw [ht, List.isEmpty_iff.1 hempty]
        exact iff_of_true rfl (.opened .nil path)
      . cases h
    . next ht =>
      rcases Option.map_eq_some_iff.1 h with ⟨q, hq, rfl⟩
      rw [matchAll_ofText, describes_cons ht]
      simp only [ih hq]

-- The last text is never refused, so the induction goes by the first two.
theorem exists_ofTexts?_iff : (∃ p, ofTexts? texts = some p) ↔ "**" ∉ texts.dropLast := by
  induction texts with
  | nil => simp [ofTexts?]
  | cons t texts ih =>
    rw [ofTexts?]
    cases texts with
    | nil => by_cases ht : t = "**" <;> simp [ht, ofTexts?]
    | cons u texts =>
      rw [List.dropLast_cons_cons, List.mem_cons, not_or, ← ih]
      by_cases ht : t = "**"
      . simp [ht]
      . simp [ht, Ne.symm ht]

end Segment

namespace Pattern

structure IsWritten (text : String) : Prop where
  ne_empty : text ≠ ""
  rooted : IsRooted text
  length_le : text.length ≤ 500
  openEnd_last : ∀ segments, HasSegments text segments → "**" ∉ segments.dropLast

variable {p q : Pattern} {raw path : String}

theorem exists_parse_iff : (∃ p, parse raw = .ok p) ↔ IsWritten (Text.trim raw) := by
  constructor
  . rintro ⟨p, hp⟩
    rw [← parse_eq_ok_iff.1 hp]
    rcases compile_eq_ok_iff.1 p.compile_text with ⟨hne, hslash, hlength, hsegments⟩
    refine ⟨hne, isRooted_iff.2 hslash, hlength, ?_⟩
    intro segments h
    rw [← hasSegments_iff.1 h]
    exact Segment.exists_ofTexts?_iff.1 ⟨_, hsegments⟩
  . intro h
    rcases Segment.exists_ofTexts?_iff.2 (h.openEnd_last _ (hasSegments_iff.2 rfl)) with ⟨segments, hsegments⟩
    have hcompile : compile (Text.trim raw) = .ok segments :=
      compile_eq_ok_iff.2 ⟨h.ne_empty, isRooted_iff.1 h.rooted, h.length_le, hsegments⟩
    exact ⟨⟨_, segments, Text.trim_trim raw, hcompile⟩, parse_eq_ok_iff.2 rfl⟩

theorem isMatch_iff
    : p.isMatch path = true
        ↔
      IsRooted path ∧ Segment.Describes (pathSegments p.text) (pathSegments path) := by
  rcases compile_eq_ok_iff.1 p.compile_text with ⟨_, _, _, hsegments⟩
  rw [isMatch, Bool.and_eq_true, beq_iff_eq, isRooted_iff, Segment.matchAll_iff_describes hsegments]

theorem pattern_language (raw : String)
    : ((∃ p, parse raw = .ok p) ↔ IsWritten (Text.trim raw))
        ∧ ∀ p, parse raw = .ok p →
          (∀ path, p.isMatch path = true
              ↔
            IsRooted path ∧ ∃ texts segments, HasSegments (Text.trim raw) texts ∧ HasSegments path segments
              ∧ Segment.Describes texts segments)
          ∧ ∀ raw' q path path', parse raw' = .ok q → SameSegments (Text.trim raw) (Text.trim raw') →
            SameSegments path path' → (IsRooted path ↔ IsRooted path') → p.isMatch path = q.isMatch path' := by
  refine ⟨exists_parse_iff, ?_⟩
  intro p hp
  rw [parse_eq_ok_iff] at hp
  refine ⟨?_, ?_⟩
  . intro path
    simp only [isMatch_iff, hp, hasSegments_iff, exists_and_left, exists_eq_left']
  . intro raw' q path path' hq htexts hpaths hrooted
    rw [parse_eq_ok_iff] at hq
    rw [← hp, ← hq, sameSegments_iff] at htexts
    rw [sameSegments_iff] at hpaths
    rw [Bool.eq_iff_iff, isMatch_iff, isMatch_iff, htexts, hpaths, hrooted]

theorem pattern_language_of_open_end
    : let raw := " /files//\x7bid\x7d/**/ "
      let raw' := "/files/\x7bid\x7d/**"
      let p : Pattern :=
        ⟨"/files//\x7bid\x7d/**/", [.literal "files", .single, .rest], by decide, by decide⟩
      let q : Pattern :=
        ⟨"/files/\x7bid\x7d/**", [.literal "files", .single, .rest], by decide, by decide⟩
      (parse raw = .ok p ∧ IsWritten (Text.trim raw))
        ∧ (p.isMatch "//files/é/a//b" = true ∧ p.isMatch "/files/" = false)
        ∧ (parse raw' = .ok q ∧ SameSegments (Text.trim raw) (Text.trim raw')
          ∧ SameSegments "//files/é/" "/files/é" ∧ p.isMatch "//files/é/" = q.isMatch "/files/é") := by
  intro raw raw' p q
  have hp : parse raw = .ok p := parse_eq_ok_iff.2 (by decide)
  have hq : parse raw' = .ok q := parse_eq_ok_iff.2 (by decide)
  rcases pattern_language raw with ⟨hwritten, hlanguage⟩
  rcases hlanguage p hp with ⟨hmatch, hsame⟩
  have hraw : HasSegments (Text.trim raw) ["files", "\x7bid\x7d", "**"] :=
    ⟨["", "files", "", "\x7bid\x7d", "**", ""], by decide, by decide, by decide⟩
  have hraw' : HasSegments (Text.trim raw') ["files", "\x7bid\x7d", "**"] :=
    ⟨["", "files", "\x7bid\x7d", "**"], by decide, by decide, by decide⟩
  have hpath : HasSegments "//files/é/a//b" (["files", "é"] ++ ["a", "b"]) :=
    ⟨["", "", "files", "é", "a", "", "b"], by decide, by decide, by decide⟩
  have hdescribes : Segment.Describes (["files", "\x7bid\x7d"] ++ ["**"]) (["files", "é"] ++ ["a", "b"]) :=
    .opened (.cons (.inr rfl) (.cons (.inl (.inr ⟨"id", by decide, by decide⟩)) .nil)) _
  have htexts : SameSegments (Text.trim raw) (Text.trim raw') := ⟨_, hraw, hraw'⟩
  have hpaths : SameSegments "//files/é/" "/files/é" :=
    ⟨["files", "é"], ⟨["", "", "files", "é", ""], by decide, by decide, by decide⟩,
      ["", "files", "é"], by decide, by decide, by decide⟩
  have hrooted : IsRooted "//files/é/" ↔ IsRooted "/files/é" :=
    iff_of_true ⟨"/files/é/", by decide⟩ ⟨"files/é", by decide⟩
  refine ⟨⟨hp, hwritten.1 ⟨p, hp⟩⟩, ⟨?_, by decide⟩, hq, htexts, hpaths, hsame _ q _ _ hq htexts hpaths hrooted⟩
  exact (hmatch _).2 ⟨⟨"/files/é/a//b", by decide⟩, _, _, hraw, hpath, hdescribes⟩

end Pattern

end TenantAuth
