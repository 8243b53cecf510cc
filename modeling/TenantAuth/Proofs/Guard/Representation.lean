import Mathlib.Data.List.Forall2
import TenantAuth.Guard.Json

/-!
This module contains the objects that represent a guard in JSON. A guard is read from every one of them and
written as one of them, so it is read back as it was written (`guard_survives_json`).
-/

namespace TenantAuth

namespace Json

/--
Members hold a value under a name. In place of a `null` there may be no member at all.
-/
def Holds (ms : List (String × Json)) (name : String) (v : Json) : Prop :=
  lookup name ms = some v ∨ v = .null ∧ lookup name ms = none

variable {ms : List (String × Json)} {name s : String} {l : List String} {v : Json}

theorem Holds.lookup_eq (h : Holds ms name v) (hv : v ≠ .null) : lookup name ms = some v := by
  apply Or.resolve_right h
  intro habsent
  exact hv habsent.1

theorem Holds.text (h : Holds ms name (.string s)) : lookup name ms = some (.string s) := by
  apply h.lookup_eq
  exact Json.noConfusion

theorem Holds.texts (h : Holds ms name (ofTexts l)) : lookup name ms = some (ofTexts l) := by
  apply h.lookup_eq
  exact Json.noConfusion

theorem lookup_of_mem (hms : (ms.map Prod.fst).Nodup) (hmem : (name, v) ∈ ms) : lookup name ms = some v := by
  induction ms with
  | nil => cases hmem
  | cons m ms ih =>
    rw [List.map_cons, List.nodup_cons] at hms
    rw [lookup]
    cases hmem with
    | head => rw [if_pos rfl]
    | tail _ htail =>
      have hne : m.1 ≠ name := by
        rintro rfl
        exact hms.1 (List.mem_map.2 ⟨_, htail, rfl⟩)
      rw [if_neg hne]
      exact ih hms.2 htail

end Json

namespace Predicate

variable {ms : List (String × Json)} {name : String} {target : Option String} {p : Predicate}

theorem optionalText?_of_holds (h : Json.Holds ms name (Json.ofText? target))
    : optionalText? ms name = some target := by
  unfold optionalText?
  cases h with
  | inl hfound =>
    rw [hfound]
    exact Json.optional?_text?_ofText? target
  | inr habsent =>
    rw [habsent.2]
    cases target with
    | none => rfl
    | some t => cases habsent.1

theorem ofFields?_of_holds (h : ∀ f ∈ p.toFields.2, Json.Holds ms f.1 f.2)
    : ofFields? p.toFields.1 ms = some p := by
  cases p with
  | authenticated | superAdmin | tenantAdmin | orgAdmin => rfl
  | hasRole _ | hasPermission _ =>
    simp only [toFields, List.forall_mem_singleton] at h
    simp [toFields, ofFields?, h.text]
  | hasAnyRole _ | hasAnyPermission _ | hasAllPermissions _ =>
    simp only [toFields, List.forall_mem_singleton] at h
    simp [toFields, ofFields?, h.texts]
  | myself _ | sameTenant _ | sameOrganization _ =>
    simp only [toFields, List.forall_mem_singleton] at h
    simp [toFields, ofFields?, optionalText?_of_holds h]
  | myselfOr user permission =>
    simp only [toFields, List.forall_mem_cons] at h
    simp [toFields, ofFields?, optionalText?_of_holds h.1, h.2.1.text]
  | resource kind id action =>
    simp only [toFields, List.forall_mem_cons] at h
    simp [toFields, ofFields?, h.1.text, optionalText?_of_holds h.2.1, h.2.2.1.text, Json.innerAlternative?,
      Json.alternative?, ResourceKind.ofName?_name]

theorem nodup_names_toFields (p : Predicate) (v : Json)
    : ((("kind", v) :: p.toFields.2).map Prod.fst).Nodup := by
  cases p with
  | authenticated | superAdmin | tenantAdmin | orgAdmin => simp [toFields]
  | hasRole | hasAnyRole | hasPermission | hasAnyPermission | hasAllPermissions => simp [toFields]
  | myself | myselfOr | sameTenant | sameOrganization | resource => simp [toFields]

end Predicate

namespace Guard

/--
An object represents a guard: the name of the guard's form is under `kind`, and its parts are under names of
their own beside it. The order of the members and further ones do not matter.
-/
inductive Represents : Json → Guard → Prop where
  | leaf {ms : List (String × Json)} {p : Predicate}
    (kind : Json.lookup "kind" ms = some (.string p.toFields.1.name))
    (fields : ∀ f ∈ p.toFields.2, Json.Holds ms f.1 f.2) : Represents (.object ms) (.leaf p)
  | all {ms : List (String × Json)} {es : List Json} {gs : List Guard}
    (kind : Json.lookup "kind" ms = some (.string "all"))
    (guards : Json.lookup "guards" ms = some (.array es)) (each : List.Forall₂ Represents es gs) :
    Represents (.object ms) (.all gs)
  | any {ms : List (String × Json)} {es : List Json} {gs : List Guard}
    (kind : Json.lookup "kind" ms = some (.string "any"))
    (guards : Json.lookup "guards" ms = some (.array es)) (each : List.Forall₂ Represents es gs) :
    Represents (.object ms) (.any gs)
  | not {ms : List (String × Json)} {j : Json} {g : Guard}
    (kind : Json.lookup "kind" ms = some (.string "not"))
    (guard : Json.lookup "guard" ms = some j) (negated : Represents j g) : Represents (.object ms) (.not g)

def ofMembers? (ms : List (String × Json)) : Form → Option Guard
  | .leaf form => (Predicate.ofFields? form ms).map .leaf
  | .all => ((Json.lookup "guards" ms).bind readMany?).map .all
  | .any => ((Json.lookup "guards" ms).bind readMany?).map .any
  | .not => ((Json.lookup "guard" ms).bind (read? true)).map .not

variable {ms : List (String × Json)} {es : List Json} {j : Json} {g : Guard} {gs : List Guard} {name : String}
  {inner : Bool} {f : Form}

theorem form?_name : form? inner (.string f.name) = some f := by
  show (forms.find? fun form => form.name == f.name) = some f
  cases f with
  | leaf form => cases form <;> decide
  | all | any | not => decide

theorem readAt?_eq : readAt? name ms = (Json.lookup name ms).bind (read? true) := by
  induction ms with
  | nil => rw [readAt?, Json.lookup, Option.bind_none]
  | cons m ms ih =>
    rw [readAt?, Json.lookup]
    split
    . rw [Option.bind_some]
    . exact ih

theorem readManyAt?_eq : readManyAt? name ms = (Json.lookup name ms).bind readMany? := by
  induction ms with
  | nil => rw [readManyAt?, Json.lookup, Option.bind_none]
  | cons m ms ih =>
    rw [readManyAt?, Json.lookup]
    split
    . rw [Option.bind_some]
    . exact ih

theorem read?_object (h : Json.lookup "kind" ms = some (.string f.name))
    : read? inner (.object ms) = ofMembers? ms f := by
  rw [read?, h, Option.bind_some, form?_name, readManyAt?_eq, readAt?_eq]
  cases f with
  | leaf form => rfl
  | all | any | not => rfl

theorem readMany?_of_forall₂ {R : Json → Guard → Prop} (h : List.Forall₂ R es gs)
    (hread : ∀ g ∈ gs, ∀ e, R e g → read? true e = some g) : readMany? (.array es) = some gs := by
  rw [readMany?]
  induction h with
  | nil => rw [readElements?]
  | cons hrepresents _ ih =>
    rw [List.forall_mem_cons] at hread
    rw [readElements?, hread.1 _ hrepresents, ih hread.2]

theorem read?_of_represents (h : Represents j g) : read? inner j = some g := by
  induction g generalizing j inner with
  | leaf p =>
    cases h with | leaf kind fields =>
    rw [read?_object (f := .leaf p.toFields.1) kind, ofMembers?, Predicate.ofFields?_of_holds fields]
    rfl
  | all gs ih =>
    cases h with | all kind guards each =>
    have hmany := readMany?_of_forall₂ each fun g hg e => ih g hg
    rw [read?_object (f := .all) kind, ofMembers?, guards, Option.bind_some, hmany]
    rfl
  | any gs ih =>
    cases h with | any kind guards each =>
    have hmany := readMany?_of_forall₂ each fun g hg e => ih g hg
    rw [read?_object (f := .any) kind, ofMembers?, guards, Option.bind_some, hmany]
    rfl
  | not g ih =>
    cases h with | not kind guard negated =>
    rw [read?_object (f := .not) kind, ofMembers?, guard, Option.bind_some, ih negated]
    rfl

theorem toJsonMany_eq : toJsonMany gs = gs.map toJson := by
  induction gs with
  | nil => rw [toJsonMany, List.map_nil]
  | cons g gs ih => rw [toJsonMany, List.map_cons, ih]

theorem forall₂_toJson {R : Json → Guard → Prop} (h : ∀ g ∈ gs, R g.toJson g)
    : List.Forall₂ R (toJsonMany gs) gs := by
  rw [toJsonMany_eq, List.forall₂_map_left_iff, List.forall₂_same]
  exact h

theorem represents_toJson (g : Guard) : Represents g.toJson g := by
  induction g with
  | leaf p =>
    rw [toJson]
    apply Represents.leaf
    . rfl
    . intro f hf
      left
      apply Json.lookup_of_mem
      . apply Predicate.nodup_names_toFields
      . exact List.mem_cons_of_mem _ hf
  | all gs ih =>
    rw [toJson]
    exact .all rfl rfl (forall₂_toJson ih)
  | any gs ih =>
    rw [toJson]
    exact .any rfl rfl (forall₂_toJson ih)
  | not g ih =>
    rw [toJson]
    exact .not rfl rfl ih

theorem ofJson?_toJson (g : Guard) : ofJson? g.toJson = some g :=
  read?_of_represents (represents_toJson g)

end Guard

theorem guard_survives_json
    : (∀ g : Guard, Guard.ofJson? g.toJson = some g
        ∧ ∀ a, (Guard.ofJson? g.toJson).map (Guard.eval a) = some (g.eval a))
      ∧ (∀ g : Guard, Guard.Represents g.toJson g ∧ ∀ j, Guard.Represents j g → Guard.ofJson? j = some g)
      ∧ ∀ j g, Guard.ofJson? j = some g → Guard.ofJson? g.toJson = some g := by
  refine ⟨?_, ?_, ?_⟩
  . intro g
    refine ⟨Guard.ofJson?_toJson g, ?_⟩
    intro a
    rw [Guard.ofJson?_toJson, Option.map_some]
  . intro g
    refine ⟨Guard.represents_toJson g, ?_⟩
    intro j hj
    exact Guard.read?_of_represents hj
  . intro j g _
    exact Guard.ofJson?_toJson g

theorem guard_survives_json_of_reordered_members
    : let g : Guard := .not (.any [.leaf (.myselfOr none "user:read"), .all []])
      let members : Json := .object [
        ("guard", .object [
          ("guards", .array [
            .object [("permission", .string "user:read"), ("kind", .string "myself_or")],
            .object [("kind", .string "all"), ("guards", .array [])]
          ]),
          ("kind", .string "any")
        ]),
        ("user_id", .string "u1"),
        ("kind", .string "not")
      ]
      let elements : Json := .array [.string "not", .array [.int 15, .array [
        .array [.string "myself_or", .null, .string "user:read"], .array [.int 14, .array []]
      ]]]
      (Guard.Represents members g ∧ Guard.ofJson? members = some g)
        ∧ Guard.ofJson? elements = some g ∧ Guard.ofJson? g.toJson = some g := by
  intro g members elements
  rcases guard_survives_json with ⟨_, hrepresents, hread⟩
  have hmembers : Guard.Represents members g := by
    apply Guard.Represents.not rfl rfl
    apply Guard.Represents.any rfl rfl
    refine .cons ?_ (.cons ?_ .nil)
    . apply Guard.Represents.leaf rfl
      simp [Predicate.toFields, Json.Holds, Json.lookup, Json.ofText?]
    . exact .all rfl rfl .nil
  have helements : Guard.ofJson? elements = some g := rfl
  exact ⟨⟨hmembers, (hrepresents g).2 members hmembers⟩, helements, hread elements g helements⟩

end TenantAuth
