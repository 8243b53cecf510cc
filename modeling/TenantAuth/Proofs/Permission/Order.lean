import Mathlib.Order.Defs.Unbundled
import TenantAuth.Proofs.Permission.Names

/-!
This module contains the order of the names of permissions by what they cover. The main statement is that it
is a partial order in which names other than those of two segments are related to themselves only
(`grants_isPartialOrder`).
-/

namespace TenantAuth

theorem segmentCovers_antisymm {a b : String} (hab : segmentCovers a b = true)
    (hba : segmentCovers b a = true) : a = b := by
  rw [segmentCovers_iff] at *
  rcases hab with ha | hab
  . rcases hba with hb | hba
    . rw [ha, hb]
    . exact hba.symm
  . exact hab

namespace PermissionKey

variable {k l : PermissionKey}

theorem Covers.refl (k : PermissionKey) : k.Covers k :=
  ⟨segmentCovers_iff.2 (.inr rfl), segmentCovers_iff.2 (.inr rfl)⟩

theorem Covers.antisymm (hkl : k.Covers l) (hlk : l.Covers k) : k = l := by
  cases k
  cases l
  rw [mk.injEq]
  exact ⟨segmentCovers_antisymm hkl.1 hlk.1, segmentCovers_antisymm hkl.2 hlk.2⟩

end PermissionKey

namespace Permission

variable {p q : Permission} {k l : PermissionKey}

theorem grants_antisymm (hpq : p.grants q.name = true) (hqp : q.grants p.name = true) : p.name = q.name := by
  rcases grants_iff.1 hpq with hname | ⟨k, l, hk, hl, hkl⟩
  . exact hname
  . rcases grants_iff.1 hqp with hname | ⟨l', k', hl', hk', hlk⟩
    . exact hname.symm
    . cases hl.symm.trans hl'
      cases hk.symm.trans hk'
      rw [(PermissionKey.parse?_eq_some_iff.1 hk).1, (PermissionKey.parse?_eq_some_iff.1 hl).1]
      rw [hkl.antisymm hlk]

theorem grants_format_iff (hk : k.IsProper) (hl : l.IsProper)
    : (mk k.format).grants l.format = true ↔ k.Covers l := by
  rw [grants_iff, key?, PermissionKey.parse?_format hk, PermissionKey.parse?_format hl]
  constructor
  . rintro (hname | ⟨k', l', hk', hl', hcovers⟩)
    . rw [hl.eq_of_format_eq hname]
      exact .refl l
    . cases hk'
      cases hl'
      exact hcovers
  . intro hcovers
    exact .inr ⟨k, l, rfl, rfl, hcovers⟩

theorem grants_isPartialOrder
    : IsPartialOrder String (fun p q => (mk p).grants q = true)
        ∧ (∀ p q, ¬ PermissionKey.IsName p ∨ ¬ PermissionKey.IsName q → ((mk p).grants q = true ↔ p = q))
        ∧ (∀ k l : PermissionKey, k.IsProper → l.IsProper →
          ((mk k.format).grants l.format = true
              ↔
            (k.resource = "*" ∨ k.resource = l.resource) ∧ (k.action = "*" ∨ k.action = l.action)))
        ∧ ∀ (i : Identity) (q r : String), i.hasPermission q = true → (mk q).grants r = true →
          i.hasPermission r = true := by
  refine ⟨?_, fun p q => grants_iff_eq, ?_, ?_⟩
  . refine { refl := ?_, trans := ?_, antisymm := ?_ }
    . intro p
      exact grants_name ⟨p⟩
    . intro p q r hpq hqr
      exact grants_trans (q := ⟨q⟩) hpq hqr
    . intro p q hpq hqp
      exact grants_antisymm (p := ⟨p⟩) (q := ⟨q⟩) hpq hqp
  . intro k l hk hl
    rw [grants_format_iff hk hl, PermissionKey.Covers, segmentCovers_iff, segmentCovers_iff,
      PermissionKey.wildcard]
  . intro i q r hq hqr
    rcases Identity.hasPermission_iff.1 hq with ⟨p, hp, hpq⟩
    exact Identity.hasPermission_iff.2 ⟨p, hp, grants_trans (q := ⟨q⟩) hpq hqr⟩

theorem grants_isPartialOrder_of_wildcards
    : let i : Identity := { permissions := .ofList [⟨"*:*"⟩, ⟨"*"⟩] }
      let k : PermissionKey := ⟨"user", "*"⟩
      let l : PermissionKey := ⟨"user", "read"⟩
      (¬ PermissionKey.IsName "user:*:*" ∧ ¬ (mk "user:*:*").grants "user:read" = true)
        ∧ (¬ PermissionKey.IsName "*" ∧ ¬ (mk "*:*").grants "*" = true)
        ∧ (k.IsProper ∧ l.IsProper ∧ (mk k.format).grants l.format = true
          ∧ ¬ (mk l.format).grants k.format = true)
        ∧ (i.hasPermission k.format = true ∧ i.hasPermission l.format = true) := by
  intro i k l
  rcases grants_isPartialOrder with ⟨horder, hothers, hkeys, hheld⟩
  have hlong : ¬ PermissionKey.IsName "user:*:*" := PermissionKey.parse?_eq_none_iff.1 (by decide)
  have hstar : ¬ PermissionKey.IsName "*" := PermissionKey.parse?_eq_none_iff.1 (by decide)
  have hk : k.IsProper := ⟨⟨by decide, by decide⟩, by decide, by decide⟩
  have hl : l.IsProper := ⟨⟨by decide, by decide⟩, by decide, by decide⟩
  have hkl : (mk k.format).grants l.format = true := (hkeys k l hk hl).2 ⟨.inr rfl, .inl rfl⟩
  have hi : i.hasPermission k.format = true := by decide
  refine ⟨⟨hlong, ?_⟩, ⟨hstar, ?_⟩, ⟨hk, hl, hkl, ?_⟩, hi, hheld i _ _ hi hkl⟩
  . rw [hothers _ _ (.inl hlong)]
    decide
  . rw [hothers _ _ (.inr hstar)]
    decide
  . intro hlk
    exact absurd (horder.antisymm _ _ hkl hlk) (by decide)

end Permission

end TenantAuth
