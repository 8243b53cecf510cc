import TenantAuth.Permission

/-!
This module contains the theory of the relation that says which requests a permission covers. The main
statement is that coverage passes through permissions (`Permission.grants_trans`): who covers a permission
covers everything that this permission covers.
-/

namespace TenantAuth

theorem segmentCovers_iff {granted requested : String}
    : segmentCovers granted requested = true ↔ granted = PermissionKey.wildcard ∨ granted = requested := by
  rw [segmentCovers, Bool.or_eq_true, beq_iff_eq, beq_iff_eq]

theorem segmentCovers_trans {a b c : String} (hab : segmentCovers a b = true)
    (hbc : segmentCovers b c = true) : segmentCovers a c = true := by
  rw [segmentCovers_iff] at *
  rcases hab with hwildcard | rfl
  . exact .inl hwildcard
  . exact hbc

namespace PermissionKey

def Covers (granted requested : PermissionKey) : Prop :=
  segmentCovers granted.resource requested.resource = true
    ∧ segmentCovers granted.action requested.action = true

theorem Covers.trans {a b c : PermissionKey} (hab : a.Covers b) (hbc : b.Covers c) : a.Covers c :=
  ⟨segmentCovers_trans hab.1 hbc.1, segmentCovers_trans hab.2 hbc.2⟩

end PermissionKey

namespace Permission

variable {p q : Permission} {requested : String}

theorem grants_iff
    : p.grants requested = true
        ↔
      p.name = requested
        ∨ ∃ granted key, p.key? = some granted ∧ PermissionKey.parse? requested = some key
          ∧ granted.Covers key := by
  rw [grants, Bool.or_eq_true, beq_iff_eq]
  cases p.key? with
  | none => simp
  | some granted =>
    cases PermissionKey.parse? requested with
    | none => simp
    | some key => simp [PermissionKey.Covers]

@[simp]
theorem grants_name (p : Permission) : p.grants p.name = true :=
  grants_iff.2 (.inl rfl)

theorem grants_trans (hpq : p.grants q.name = true) (hq : q.grants requested = true)
    : p.grants requested = true := by
  rcases grants_iff.1 hq with rfl | ⟨middle, key, hmiddle, hkey, hcovers⟩
  . exact hpq
  . rcases grants_iff.1 hpq with hname | ⟨granted, middle', hgranted, hmiddle', hcovers'⟩
    . have hkey? : p.key? = some middle := by
        rw [key?, hname]
        exact hmiddle
      exact grants_iff.2 (.inr ⟨middle, key, hkey?, hkey, hcovers⟩)
    . cases hmiddle.symm.trans hmiddle'
      exact grants_iff.2 (.inr ⟨granted, key, hgranted, hkey, hcovers'.trans hcovers⟩)

end Permission

end TenantAuth
