import TenantAuth.Identity
import TenantAuth.Proofs.Permission.Covering

/-!
This module contains the theory of names of two segments. The main statement is that reading a name and
writing a key are inverse to each other on the keys whose segments are not empty and have no colon, and that
any other key is written as a name that is not read at all (`PermissionKey.parse_inverts_format`).
-/

namespace TenantAuth

def IsNameSegment (s : String) : Prop :=
  s ≠ "" ∧ ':' ∉ s.toList

namespace PermissionKey

structure IsProper (k : PermissionKey) : Prop where
  resource : IsNameSegment k.resource
  action : IsNameSegment k.action

theorem isProper_iff {resource action : String}
    : IsProper ⟨resource, action⟩ ↔ IsNameSegment resource ∧ IsNameSegment action :=
  ⟨fun h => ⟨h.resource, h.action⟩, fun h => ⟨h.1, h.2⟩⟩

def IsName (name : String) : Prop :=
  ∃ k : PermissionKey, k.IsProper ∧ name = k.format

variable {k l : PermissionKey} {name : String}

theorem toList_format (k : PermissionKey)
    : k.format.toList = k.resource.toList ++ ':' :: k.action.toList := by
  simp [format]

theorem cut?_format (h : ':' ∉ k.resource.toList)
    : Text.cut? ':' k.format.toList = some (k.resource.toList, k.action.toList) :=
  Text.cut?_eq_some_iff.2 ⟨k.toList_format, h⟩

theorem parse?_eq_some_iff : parse? name = some k ↔ name = k.format ∧ k.IsProper := by
  constructor
  . intro h
    unfold parse? at h
    split at h
    . cases h
    . next resource action hcut =>
      rcases Text.cut?_eq_some_iff.1 hcut with ⟨hname, hcolon⟩
      split at h
      . cases h
      . next hsegments =>
        cases h
        simp only [Bool.or_eq_true, not_or, List.isEmpty_iff, List.contains_iff_mem] at hsegments
        rcases hsegments with ⟨⟨hresource, haction⟩, hcolon'⟩
        refine ⟨?_, ⟨?_, ?_⟩, ⟨?_, ?_⟩⟩
        . rw [← String.toList_inj, hname]
          simp [toList_format]
        . simpa using hresource
        . simpa using hcolon
        . simpa using haction
        . simpa using hcolon'
  . rintro ⟨rfl, ⟨hresource, hcolon⟩, haction, hcolon'⟩
    rw [parse?, cut?_format hcolon]
    simp [hresource, haction, hcolon']

theorem parse?_format (h : k.IsProper) : parse? k.format = some k :=
  parse?_eq_some_iff.2 ⟨rfl, h⟩

theorem parse?_eq_none_iff : parse? name = none ↔ ¬ IsName name := by
  simp only [Option.eq_none_iff_forall_ne_some, IsName, not_exists, Ne, parse?_eq_some_iff, and_comm]

theorem count_colon_format_eq_one_iff
    : k.format.toList.count ':' = 1 ↔ ':' ∉ k.resource.toList ∧ ':' ∉ k.action.toList := by
  rw [toList_format, List.count_append, List.count_cons_self, ← List.count_eq_zero, ← List.count_eq_zero]
  omega

-- The name of a proper key has one colon, so the segments of any key with that name have none.
theorem IsProper.eq_of_format_eq (hl : l.IsProper) (h : k.format = l.format) : k = l := by
  have hone : k.format.toList.count ':' = 1 := by
    rw [h]
    exact count_colon_format_eq_one_iff.2 ⟨hl.resource.2, hl.action.2⟩
  have hcut := cut?_format (count_colon_format_eq_one_iff.1 hone).1
  rw [h, cut?_format hl.resource.2, Option.some.injEq, Prod.mk.injEq, String.toList_inj,
    String.toList_inj] at hcut
  cases k
  cases l
  rw [mk.injEq]
  exact ⟨hcut.1.symm, hcut.2.symm⟩

theorem isName_format_iff : IsName k.format ↔ k.IsProper := by
  constructor
  . rintro ⟨l, hl, hname⟩
    rw [hl.eq_of_format_eq hname]
    exact hl
  . intro hk
    exact ⟨k, hk, rfl⟩

end PermissionKey

namespace Permission

variable {granted requested : String}

-- Only names of two segments are covered beyond equality.
theorem grants_iff_eq (h : ¬ PermissionKey.IsName granted ∨ ¬ PermissionKey.IsName requested)
    : (mk granted).grants requested = true ↔ granted = requested := by
  rw [← PermissionKey.parse?_eq_none_iff, ← PermissionKey.parse?_eq_none_iff] at h
  rw [grants_iff, key?]
  rcases h with h | h
  . simp [h]
  . simp [h]

end Permission

theorem Identity.hasPermission_iff_mem {i : Identity} {requested : String} (h : ¬ PermissionKey.IsName requested)
    : i.hasPermission requested = true ↔ ⟨requested⟩ ∈ i.permissions := by
  rw [hasPermission_iff]
  constructor
  . rintro ⟨p, hp, hgrants⟩
    rw [← (Permission.grants_iff_eq (.inr h)).1 hgrants]
    exact hp
  . intro hmem
    exact ⟨_, hmem, Permission.grants_name _⟩

namespace PermissionKey

theorem parse_inverts_format
    : (∀ name resource action : String,
        parse? name = some ⟨resource, action⟩
          ↔
        name = format ⟨resource, action⟩ ∧ IsNameSegment resource ∧ IsNameSegment action)
      ∧ (∀ k : PermissionKey, k.IsProper → parse? k.format = some k)
      ∧ (∀ k : PermissionKey, ¬ k.IsProper → parse? k.format = none)
      ∧ (∀ k l : PermissionKey, k.IsProper → l ≠ k → l.format ≠ k.format)
      ∧ ∀ (i : Identity) (k : PermissionKey), ¬ k.IsProper →
        (i.hasPermission k.format = true ↔ ⟨k.format⟩ ∈ i.permissions) := by
  refine ⟨?_, fun k => parse?_format, ?_, ?_, ?_⟩
  . intro name resource action
    rw [parse?_eq_some_iff, isProper_iff]
  . intro k himproper
    rw [parse?_eq_none_iff, isName_format_iff]
    exact himproper
  . intro k l hk hne hname
    exact hne (hk.eq_of_format_eq hname)
  . intro i k himproper
    exact Identity.hasPermission_iff_mem (mt isName_format_iff.1 himproper)

theorem parse_inverts_format_of_colon_in_action
    : let k : PermissionKey := ⟨"user", "read"⟩
      let l : PermissionKey := ⟨"user", "read:all"⟩
      let m : PermissionKey := ⟨"user:read", "all"⟩
      let i : Identity := { permissions := .ofList [⟨"user:*"⟩, ⟨"*:*"⟩] }
      (k.IsProper ∧ parse? k.format = some k ∧ l ≠ k ∧ l.format ≠ k.format)
        ∧ (¬ l.IsProper ∧ parse? l.format = none ∧ l.format = m.format)
        ∧ i.hasPermission k.format = true ∧ i.hasPermission l.format = false := by
  intro k l m i
  rcases parse_inverts_format with ⟨_, hread, hunread, hunique, hheld⟩
  have hk : k.IsProper := ⟨⟨by decide, by decide⟩, by decide, by decide⟩
  have hl : ¬ l.IsProper := fun h => absurd h.action.2 (by decide)
  have hne : l ≠ k := by decide
  refine ⟨⟨hk, hread k hk, hne, hunique k l hk hne⟩, ⟨hl, hunread l hl, by decide⟩, by decide, ?_⟩
  rw [← Bool.not_eq_true, hheld i l hl]
  decide

end PermissionKey

end TenantAuth
