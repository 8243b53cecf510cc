import Mathlib.Data.List.Forall2
import TenantAuth.Guard.Basic
import TenantAuth.Proofs.Reach.Tenants

/-!
This module contains the theory of targets. White space at the ends of a target makes no difference, and a
blank target none to an absent one, whatever is asked about it (`targets_normalised`).
-/

namespace TenantAuth

namespace Text

def Pads (s padded : String) : Prop :=
  ∃ before after, (∀ c ∈ before, isBlank c = true) ∧ (∀ c ∈ after, isBlank c = true)
    ∧ padded.toList = before ++ s.toList ++ after

variable {s t : String} {before after cs : List Char}

theorem trimChars_append (hbefore : ∀ c ∈ before, isBlank c = true) (hafter : ∀ c ∈ after, isBlank c = true)
    : trimChars (before ++ cs ++ after) = trimChars cs := by
  unfold trimChars
  rw [List.append_assoc, List.dropWhile_append_of_pos hbefore, List.dropWhile_append]
  split
  . next hcs =>
    rw [List.isEmpty_iff] at hcs
    rw [hcs, ← List.append_nil after, List.dropWhile_append_of_pos hafter, List.dropWhile_nil]
  . have hreverse : ∀ c ∈ after.reverse, isBlank c = true := by
      intro c hc
      exact hafter c (List.mem_reverse.1 hc)
    rw [List.reverse_append, List.dropWhile_append_of_pos hreverse]

theorem Pads.trim_eq (h : Pads s t) : trim t = trim s := by
  rcases h with ⟨before, after, hbefore, hafter, hlist⟩
  rw [trim, trim, hlist, trimChars_append hbefore hafter]

theorem pads_trim (s : String) : Pads (trim s) s := by
  rcases exists_append_dropWhile isBlank s.toList with ⟨before, hsplit, hbefore⟩
  rcases exists_append_dropWhile isBlank (s.toList.dropWhile isBlank).reverse with ⟨after, hrest, hafter⟩
  refine ⟨before, after.reverse, hbefore, ?_, ?_⟩
  . intro c hc
    exact hafter c (List.mem_reverse.1 hc)
  . have hreverse := congrArg List.reverse hrest
    rw [List.reverse_reverse, List.reverse_append] at hreverse
    rw [toList_trim, trimChars, List.append_assoc, ← hreverse]
    exact hsplit

theorem normalize?_congr (h : trim s = trim t) : normalize? s = normalize? t := by
  rw [normalize?, normalize?, blank, blank, h]

end Text

/--
A target stands for an id: it is the id with white space at its ends. For an empty id it may be absent.
-/
def StandsFor (id : String) : Option String → Prop
  | none => id = ""
  | some t => Text.Pads id t

def SameTarget (t u : Option String) : Prop :=
  ∃ id, StandsFor id t ∧ StandsFor id u

inductive Predicate.SameUpToTargets : Predicate → Predicate → Prop where
  | same (p : Predicate) : SameUpToTargets p p
  | myself {t u : Option String} (h : SameTarget t u) : SameUpToTargets (.myself t) (.myself u)
  | myselfOr {t u : Option String} (permission : String) (h : SameTarget t u) :
    SameUpToTargets (.myselfOr t permission) (.myselfOr u permission)
  | sameTenant {t u : Option String} (h : SameTarget t u) : SameUpToTargets (.sameTenant t) (.sameTenant u)
  | sameOrganization {t u : Option String} (h : SameTarget t u) :
    SameUpToTargets (.sameOrganization t) (.sameOrganization u)
  | resource {t u : Option String} (kind : ResourceKind) (action : String) (h : SameTarget t u) :
    SameUpToTargets (.resource kind t action) (.resource kind u action)

inductive Reach.SameUpToTargets : Reach → Reach → Prop where
  | same (q : Reach) : SameUpToTargets q q
  | tenant {t u : Option String} (h : SameTarget t u) : SameUpToTargets (.tenant t) (.tenant u)
  | organization {o p t u : Option String} (organization : SameTarget o p) (tenant : SameTarget t u) :
    SameUpToTargets (.organization o t) (.organization p u)
  | ownOrganization {o p : Option String} (h : SameTarget o p) :
    SameUpToTargets (.ownOrganization o) (.ownOrganization p)
  | user {v w t u o p : Option String} (user : SameTarget v w) (tenant : SameTarget t u)
    (organization : SameTarget o p) : SameUpToTargets (.user v t o) (.user w u p)

inductive Guard.SameUpToTargets : Guard → Guard → Prop where
  | leaf {p q : Predicate} (h : p.SameUpToTargets q) : SameUpToTargets (.leaf p) (.leaf q)
  | all {gs hs : List Guard} (each : List.Forall₂ SameUpToTargets gs hs) : SameUpToTargets (.all gs) (.all hs)
  | any {gs hs : List Guard} (each : List.Forall₂ SameUpToTargets gs hs) : SameUpToTargets (.any gs) (.any hs)
  | not {g h : Guard} (negated : SameUpToTargets g h) : SameUpToTargets (.not g) (.not h)

variable {t u : Option String}

theorem StandsFor.namedTarget?_eq {id : String} (h : StandsFor id t) : namedTarget? t = Text.normalize? id := by
  cases t with
  | none =>
    rw [show id = "" from h]
    decide
  | some t =>
    rw [namedTarget?, Option.bind_some]
    exact Text.normalize?_congr h.trim_eq

theorem standsFor_namedTarget? (t : Option String) : StandsFor ((namedTarget? t).getD "") t := by
  cases t with
  | none => rfl
  | some t =>
    have hpads := Text.pads_trim t
    rw [namedTarget?, Option.bind_some]
    cases h : Text.normalize? t with
    | none => rwa [Text.normalize?_eq_none_iff.1 h] at hpads
    | some id => rwa [(Text.normalize?_eq_some_iff.1 h).1] at hpads

theorem sameTarget_iff : SameTarget t u ↔ namedTarget? t = namedTarget? u := by
  constructor
  . rintro ⟨id, ht, hu⟩
    rw [ht.namedTarget?_eq, hu.namedTarget?_eq]
  . intro h
    refine ⟨_, standsFor_namedTarget? t, ?_⟩
    rw [h]
    exact standsFor_namedTarget? u

theorem SameTarget.isHeld_eq {kind : IdentifierKind} {held : Option (Identifier kind)} (h : SameTarget t u)
    : isHeld held t = isHeld held u := by
  unfold isHeld
  rw [sameTarget_iff.1 h]

theorem Principal.isolated_congr {a : Principal} {kind : ResourceKind} (h : SameTarget t u)
    : a.isolated kind t = a.isolated kind u := by
  cases kind with
  | tenant | organization | user => exact h.isHeld_eq
  | role | permission => rfl

theorem Predicate.SameUpToTargets.holds_eq {a : Principal} {p q : Predicate} (h : p.SameUpToTargets q)
    : a.holds p = a.holds q := by
  rw [Bool.eq_iff_iff, Principal.holds_iff, Principal.holds_iff]
  cases h with
  | same => rfl
  | myself h => rw [Principal.satisfies, Principal.satisfies, h.isHeld_eq]
  | myselfOr permission h => rw [Principal.satisfies, Principal.satisfies, h.isHeld_eq]
  | sameTenant h => rw [Principal.satisfies, Principal.satisfies, h.isHeld_eq]
  | sameOrganization h => rw [Principal.satisfies, Principal.satisfies, h.isHeld_eq]
  | resource kind action h => rw [Principal.satisfies, Principal.satisfies, Principal.isolated_congr h]

theorem SameTarget.seesTenant_eq {i : Identity} (h : SameTarget t u) : i.seesTenant t = i.seesTenant u := by
  rw [Identity.seesTenant, Identity.seesTenant, h.isHeld_eq]

theorem Reach.SameUpToTargets.reaches_eq {i : Identity} {q r : Reach} (h : q.SameUpToTargets r)
    : i.reaches q = i.reaches r := by
  cases h with
  | same => rfl
  | tenant h => simp only [Identity.reaches, Identity.reachesTenant, sameTarget_iff.1 h, h.isHeld_eq]
  | organization organization tenant =>
    simp only [Identity.reaches, Identity.reachesOrganization, sameTarget_iff.1 organization,
      organization.isHeld_eq, tenant.isHeld_eq]
  | ownOrganization h =>
    simp only [Identity.reaches, Identity.reachesOrganization, sameTarget_iff.1 h, h.isHeld_eq]
  | user user tenant organization =>
    simp only [Identity.reaches, Identity.reachesUser, sameTarget_iff.1 user, user.isHeld_eq,
      tenant.isHeld_eq, organization.isHeld_eq]

theorem map_eq_map_of_forall₂ {α β : Type} {R : α → α → Prop} {f : α → β} {l l' : List α}
    (h : List.Forall₂ R l l') (hf : ∀ a ∈ l, ∀ b, R a b → f a = f b) : l.map f = l'.map f := by
  induction h with
  | nil => rfl
  | cons hab _ ih =>
    rw [List.forall_mem_cons] at hf
    rw [List.map_cons, List.map_cons, hf.1 _ hab, ih hf.2]

theorem Guard.SameUpToTargets.eval_eq {a : Principal} {g h : Guard} (hsame : g.SameUpToTargets h)
    : g.eval a = h.eval a := by
  induction g generalizing h with
  | leaf p =>
    cases hsame with | leaf hp =>
    rw [eval_leaf, eval_leaf, hp.holds_eq]
  | all gs ih =>
    cases hsame with | all each =>
    have hmap := map_eq_map_of_forall₂ each fun g hg h => ih g hg
    have hall := congrArg (List.all · id) hmap
    rw [eval_all, eval_all]
    simpa only [List.all_map, Function.id_comp] using hall
  | any gs ih =>
    cases hsame with | any each =>
    have hmap := map_eq_map_of_forall₂ each fun g hg h => ih g hg
    have hany := congrArg (List.any · id) hmap
    rw [eval_any, eval_any]
    simpa only [List.any_map, Function.id_comp] using hany
  | not g ih =>
    cases hsame with | not negated =>
    rw [eval_not, eval_not, ih negated]

def TrimsLike (raw : String) (target : Option String) : Prop :=
  ∃ t, target = some t ∧ Text.trim t = Text.trim raw

theorem Identifier.exists_namedBy_iff {kind : IdentifierKind} {raw : String} {held : Option (Identifier kind)}
    {id : Identifier kind} (hid : ofText raw = .ok id) (hheld : held = some id)
    : (∃ i, held = some i ∧ i.NamedBy t) ↔ TrimsLike raw t := by
  simp only [hheld, Option.some.injEq, exists_eq_left', NamedBy, TrimsLike, ofText_eq_ok_iff.1 hid]

theorem targets_normalised (i : Identity) (policy : ActionPolicy)
    : (∀ p q : Predicate, p.SameUpToTargets q →
        (Principal.mk i policy).holds p = (Principal.mk i policy).holds q)
      ∧ (∀ q r : Reach, q.SameUpToTargets r → i.reaches q = i.reaches r)
      ∧ (∀ t u, SameTarget t u → i.seesTenant t = i.seesTenant u)
      ∧ (∀ g h : Guard, g.SameUpToTargets h →
        g.eval (Principal.mk i policy) = h.eval (Principal.mk i policy))
      ∧ (∀ kind raw t (id : Identifier kind), Identifier.ofText raw = .ok id →
        (isHeld (some id) t = true ↔ TrimsLike raw t))
      ∧ (Role.superAdmin ∉ i.roles → ∀ raw t,
        (∀ user, Identifier.ofText raw = .ok user → i.userId = some user →
          ((Principal.mk i policy).holds (.myself t) = true ↔ TrimsLike raw t))
        ∧ (∀ tenant, Identifier.ofText raw = .ok tenant → i.tenantId = some tenant →
          ((Principal.mk i policy).holds (.sameTenant t) = true ↔ TrimsLike raw t)
            ∧ (i.reaches (.tenant t) = true ↔ TrimsLike raw t)
            ∧ (i.seesTenant t = true ↔ TrimsLike raw t))
        ∧ ∀ organization, Identifier.ofText raw = .ok organization → i.organizationId = some organization →
          ((Principal.mk i policy).holds (.sameOrganization t) = true ↔ TrimsLike raw t)) := by
  refine ⟨?_, ?_, ?_, ?_, ?_, ?_⟩
  . intro p q h
    exact h.holds_eq
  . intro q r h
    exact h.reaches_eq
  . intro t u h
    exact h.seesTenant_eq
  . intro g h hsame
    exact hsame.eval_eq
  . intro kind raw t id hraw
    exact isHeld_iff.trans (Identifier.exists_namedBy_iff hraw rfl)
  . intro hadmin raw t
    refine ⟨?_, ?_, ?_⟩
    . intro user hraw hheld
      rw [Principal.holds_iff_satisfies hadmin, Principal.satisfies, isHeld_iff]
      exact Identifier.exists_namedBy_iff hraw hheld
    . intro tenant hraw hheld
      have hnamed : i.IsolatedTo t .tenant ↔ TrimsLike raw t := Identifier.exists_namedBy_iff hraw hheld
      refine ⟨?_, ?_, ?_⟩
      . rw [Principal.holds_sameTenant_iff, or_iff_right hadmin, hnamed]
      . have himplied : i.IsolatedTo t .tenant → IsNamed t := by
          rintro ⟨_, _, h⟩
          exact h.isNamed
        rw [Identity.reaches, Identity.reachesTenant_iff, or_iff_right hadmin, and_iff_right_of_imp himplied,
          hnamed]
      . rw [Identity.seesTenant_iff, or_iff_right hadmin, hnamed]
    . intro organization hraw hheld
      rw [Principal.holds_sameOrganization_iff, or_iff_right hadmin]
      exact Identifier.exists_namedBy_iff hraw hheld

theorem targets_normalised_of_wide_spaces
    : let user : UserId := ⟨"u1", by decide, by decide⟩
      let tenant : TenantId := ⟨"t1", by decide, by decide⟩
      let organization : OrganizationId := ⟨"o1", by decide, by decide⟩
      let i : Identity := {
        userId := some user
        tenantId := some tenant
        organizationId := some organization
        roles := .ofList [.tenantAdmin]
      }
      let a : Principal := ⟨i, .ofRules [⟨.user, "delete", .owner⟩]⟩
      let plain : Predicate := .resource .user (some "u1") "delete"
      let padded : Predicate := .resource .user (some "\u3000u1\u00a0") "delete"
      let plainGuard : Guard := .any [.leaf (.sameTenant none), .not (.leaf plain)]
      let paddedGuard : Guard := .any [.leaf (.sameTenant (some " \t")), .not (.leaf padded)]
      let plainReach : Reach := .organization (some "o9") (some "t1")
      let paddedReach : Reach := .organization (some "o9\n") (some "\u2003t1")
      (plain.SameUpToTargets padded ∧ a.holds plain = a.holds padded)
        ∧ (plainReach.SameUpToTargets paddedReach ∧ i.reaches plainReach = i.reaches paddedReach)
        ∧ (SameTarget none (some " \t") ∧ i.seesTenant none = i.seesTenant (some " \t"))
        ∧ (plainGuard.SameUpToTargets paddedGuard ∧ plainGuard.eval a = paddedGuard.eval a)
        ∧ (Identifier.ofText "u1\u0085" = .ok user
          ∧ (isHeld (some user) (some " u1") = true ↔ TrimsLike "u1\u0085" (some " u1")))
        ∧ Role.superAdmin ∉ i.roles
        ∧ (i.userId = some user ∧ (a.holds (.myself (some " u1")) = true ↔ TrimsLike "u1\u0085" (some " u1")))
        ∧ (Identifier.ofText "\u2028t1 " = .ok tenant ∧ i.tenantId = some tenant
          ∧ (i.seesTenant (some "t1") = true ↔ TrimsLike "\u2028t1 " (some "t1")))
        ∧ (Identifier.ofText "o1 " = .ok organization ∧ i.organizationId = some organization
          ∧ (a.holds (.sameOrganization (some "o 1")) = true ↔ TrimsLike "o1 " (some "o 1"))) := by
  intro user tenant organization i a plain padded plainGuard paddedGuard plainReach paddedReach
  have hblank : SameTarget none (some " \t") := sameTarget_iff.2 (by decide)
  have hsameUser : SameTarget (some "u1") (some "\u3000u1\u00a0") := sameTarget_iff.2 (by decide)
  have hsameOrganization : SameTarget (some "o9") (some "o9\n") := sameTarget_iff.2 (by decide)
  have hsameTenant : SameTarget (some "t1") (some "\u2003t1") := sameTarget_iff.2 (by decide)
  have hpredicate : plain.SameUpToTargets padded := .resource .user "delete" hsameUser
  have hguard : plainGuard.SameUpToTargets paddedGuard :=
    .any (.cons (.leaf (.sameTenant hblank)) (.cons (.not (.leaf hpredicate)) .nil))
  have hreach : plainReach.SameUpToTargets paddedReach := .organization hsameOrganization hsameTenant
  have huser : Identifier.ofText "u1\u0085" = .ok user := Identifier.ofText_eq_ok_iff.2 (by decide)
  have htenant : Identifier.ofText "\u2028t1 " = .ok tenant := Identifier.ofText_eq_ok_iff.2 (by decide)
  have horganization : Identifier.ofText "o1 " = .ok organization := Identifier.ofText_eq_ok_iff.2 (by decide)
  have hadmin : Role.superAdmin ∉ i.roles := by decide
  rcases targets_normalised i a.policy with ⟨hpredicates, hreaches, hsees, hguards, hheld, hnamed⟩
  refine ⟨⟨hpredicate, hpredicates _ _ hpredicate⟩, ⟨hreach, hreaches _ _ hreach⟩, ⟨hblank, hsees _ _ hblank⟩,
    ⟨hguard, hguards _ _ hguard⟩, ⟨huser, hheld _ _ _ user huser⟩, hadmin, ⟨rfl, ?_⟩, ⟨htenant, rfl, ?_⟩,
    horganization, rfl, ?_⟩
  . exact (hnamed hadmin _ _).1 user huser rfl
  . exact ((hnamed hadmin _ _).2.1 tenant htenant rfl).2.2
  . exact (hnamed hadmin _ _).2.2 organization horganization rfl

end TenantAuth
