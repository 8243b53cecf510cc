import Mathlib.Data.List.Induction
import TenantAuth.Identity

/-!
This module contains the theory of identities that are built by edits. The main statement says what each field
of the result is in terms of the edits alone, and which edits may change places (`last_edits_decide`).
-/

namespace TenantAuth

namespace Identity

inductive Edit.Field where
  | user
  | tenant
  | organization
  | trace
  | requestSource
  | serviceAccount
  | roles
  | permissions
deriving DecidableEq

namespace Edit

def field : Edit → Field
  | .user _ => .user
  | .tenant _ => .tenant
  | .organization _ => .organization
  | .trace _ => .trace
  | .requestSource _ => .requestSource
  | .serviceAccount _ => .serviceAccount
  | .role _ | .roles _ => .roles
  | .permission _ | .permissions _ => .permissions

def user? : Edit → Option (Option UserId)
  | .user id => some id
  | _ => none

def tenant? : Edit → Option (Option TenantId)
  | .tenant id => some id
  | _ => none

def organization? : Edit → Option (Option OrganizationId)
  | .organization id => some id
  | _ => none

def trace? : Edit → Option (Option TraceId)
  | .trace id => some id
  | _ => none

def service? : Edit → Option String
  | .serviceAccount name => some name
  | _ => none

def addedRoles : Edit → List Role
  | .role r => [r]
  | .roles rs => rs
  | _ => []

def addedPermissions : Edit → List Permission
  | .permission p => [p]
  | .permissions ps => ps
  | _ => []

def Compete (a b : Edit) : Prop :=
  a.field = .requestSource ∧ b.field = .serviceAccount ∨ a.field = .serviceAccount ∧ b.field = .requestSource

end Edit

def lastSet {α : Type} (set? : Edit → Option (Option α)) (edits : List Edit) : Option α :=
  (edits.filterMap set?).getLast?.join

def firstService? (edits : List Edit) : Option String :=
  edits.findSome? Edit.service?

/--
The fields of an identity are what edits make of an empty one. Its request source is the one that was set last
if that is not blank, and otherwise the first service that is named after it.
-/
structure BuiltBy (i : Identity) (edits : List Edit) : Prop where
  userId : i.userId = lastSet Edit.user? edits
  tenantId : i.tenantId = lastSet Edit.tenant? edits
  organizationId : i.organizationId = lastSet Edit.organization? edits
  traceId : i.traceId = lastSet Edit.trace? edits
  roles : ∀ r, r ∈ i.roles ↔ ∃ e ∈ edits, r ∈ e.addedRoles
  permissions : ∀ p, p ∈ i.permissions ↔ ∃ e ∈ edits, p ∈ e.addedPermissions
  serviceAccount : i.serviceAccount = true ↔ ∃ name, .serviceAccount name ∈ edits
  requestSource_of_set : ∀ before source after, edits = before ++ .requestSource source :: after →
    (∀ e ∈ after, e.field ≠ .requestSource) →
      i.requestSource = (source.filter fun s => Text.trim s ≠ "").or (firstService? after)
  requestSource_of_unset : (∀ e ∈ edits, e.field ≠ .requestSource) → i.requestSource = firstService? edits

variable {i : Identity} {a b e : Edit} {edits before after : List Edit} {source : Option String}

theorem build_concat : build (edits ++ [e]) = (build edits).edit e := by
  rw [build, build, List.foldl_append, List.foldl_cons, List.foldl_nil]

theorem build_append : build (before ++ after) = after.foldl edit (build before) := by
  rw [build, build, List.foldl_append]

theorem lastSet_concat {α : Type} {set? : Edit → Option (Option α)}
    : lastSet set? (edits ++ [e]) = (set? e).getD (lastSet set? edits) := by
  unfold lastSet
  rw [List.filterMap_append]
  cases hset : set? e with
  | none => rw [List.filterMap_cons_none hset]; simp
  | some a => rw [List.filterMap_cons_some hset]; simp

theorem get_build {α : Type} {get : Identity → Option α} {set? : Edit → Option (Option α)}
    (hstart : get anonymous = none) (hedit : ∀ i e, get (edit i e) = (set? e).getD (get i)) (edits : List Edit)
    : get (build edits) = lastSet set? edits := by
  induction edits using List.reverseRecOn with
  | nil => exact hstart
  | append_singleton edits e ih => rw [build_concat, hedit, ih, lastSet_concat]

theorem holds_build_iff (Holds : Identity → Prop) {Adds : Edit → Prop} (hstart : ¬ Holds anonymous)
    (hedit : ∀ i e, Holds (edit i e) ↔ Holds i ∨ Adds e) (edits : List Edit)
    : Holds (build edits) ↔ ∃ e ∈ edits, Adds e := by
  induction edits using List.reverseRecOn with
  | nil => exact iff_of_false hstart (by simp)
  | append_singleton edits e ih =>
    rw [build_concat, hedit, ih]
    simp [or_and_right, exists_or]

theorem mem_roles_edit {r : Role} : r ∈ (i.edit e).roles ↔ r ∈ i.roles ∨ r ∈ e.addedRoles := by
  cases e <;> simp [edit, Edit.addedRoles, or_comm]

theorem mem_permissions_edit {p : Permission}
    : p ∈ (i.edit e).permissions ↔ p ∈ i.permissions ∨ p ∈ e.addedPermissions := by
  cases e <;> simp [edit, Edit.addedPermissions, or_comm]

theorem serviceAccount_edit
    : (i.edit e).serviceAccount = true ↔ i.serviceAccount = true ∨ ∃ name, e = .serviceAccount name := by
  cases e <;> simp [edit]

theorem requestSource_edit_requestSource
    : (i.edit (.requestSource source)).requestSource = source.filter fun s => Text.trim s ≠ "" := by
  have hblank : ∀ s, (!Text.blank s) = decide (Text.trim s ≠ "") := by
    intro s
    rw [Bool.eq_iff_iff, Bool.not_eq_true', ← Bool.not_eq_true, Text.blank_iff, decide_eq_true_iff]
  simp only [edit, hblank]

theorem requestSource_edit (h : e.field ≠ .requestSource)
    : (i.edit e).requestSource = i.requestSource.or e.service? := by
  cases e <;> simp_all [edit, Edit.field, Edit.service?]

-- Nothing but the first service can fill the request source as long as it is not set.
theorem requestSource_foldl_edit (h : ∀ e ∈ edits, e.field ≠ .requestSource)
    : (edits.foldl edit i).requestSource = i.requestSource.or (firstService? edits) := by
  induction edits generalizing i with
  | nil => simp [firstService?]
  | cons e edits ih =>
    rw [List.forall_mem_cons] at h
    rw [List.foldl_cons, ih h.2, requestSource_edit h.1, Option.or_assoc, firstService?, firstService?,
      List.findSome?_cons]
    cases e.service? with
    | none => rfl
    | some name => rfl

theorem builtBy_build (edits : List Edit) : (build edits).BuiltBy edits where
  userId := get_build rfl (by intro i e; cases e <;> rfl) edits
  tenantId := get_build rfl (by intro i e; cases e <;> rfl) edits
  organizationId := get_build rfl (by intro i e; cases e <;> rfl) edits
  traceId := get_build rfl (by intro i e; cases e <;> rfl) edits
  roles r :=
    holds_build_iff (fun i => r ∈ i.roles) SortedSet.not_mem_empty (fun _ _ => mem_roles_edit) edits
  permissions p :=
    holds_build_iff (fun i => p ∈ i.permissions) SortedSet.not_mem_empty (fun _ _ => mem_permissions_edit) edits
  serviceAccount := by
    have hstart : ¬ anonymous.serviceAccount = true := nofun
    rw [holds_build_iff (fun i => i.serviceAccount = true) hstart (fun _ _ => serviceAccount_edit) edits]
    simp
  requestSource_of_set := by
    rintro before source after rfl hafter
    rw [build_append, List.foldl_cons, requestSource_foldl_edit hafter, requestSource_edit_requestSource]
  requestSource_of_unset hunset := requestSource_foldl_edit hunset

theorem edit_comm (hfield : a.field ≠ b.field) (hcompete : ¬ a.Compete b)
    : (i.edit a).edit b = (i.edit b).edit a := by
  cases a <;> cases b <;> simp_all [edit, Edit.field, Edit.Compete]

theorem edit_requestSource_comm_iff {name : String}
    : (i.edit (.requestSource source)).edit (.serviceAccount name)
          = (i.edit (.serviceAccount name)).edit (.requestSource source)
        ↔
      ∃ s, source = some s ∧ Text.trim s ≠ "" := by
  constructor
  . intro heq
    have hservice : (Edit.serviceAccount name).field ≠ .requestSource := nofun
    have hsource := congrArg requestSource heq
    rw [requestSource_edit hservice, requestSource_edit_requestSource, requestSource_edit_requestSource] at hsource
    cases hfilter : source.filter fun s => Text.trim s ≠ "" with
    | none =>
      rw [hfilter] at hsource
      cases hsource
    | some s =>
      rcases Option.filter_eq_some_iff.1 hfilter with ⟨hs, hne⟩
      exact ⟨s, hs, of_decide_eq_true hne⟩
  . rintro ⟨s, rfl, hne⟩
    have hset : ∀ i : Identity, i.edit (.requestSource (some s)) = { i with requestSource := some s } := by
      intro i
      simp [edit, Text.blank, hne]
    rw [hset, hset]
    rfl

theorem last_edits_decide (edits : List Edit)
    : (build edits).BuiltBy edits
      ∧ (∀ before a b after, a.field ≠ b.field → ¬ a.Compete b →
        build (before ++ a :: b :: after) = build (before ++ b :: a :: after))
      ∧ ∀ before source name,
        (build (before ++ [.requestSource source, .serviceAccount name])
            = build (before ++ [.serviceAccount name, .requestSource source])
          ↔
        ∃ s, source = some s ∧ Text.trim s ≠ "") := by
  refine ⟨builtBy_build edits, ?_, ?_⟩
  . intro before a b after hfield hcompete
    rw [build_append, build_append, List.foldl_cons, List.foldl_cons, edit_comm hfield hcompete, List.foldl_cons,
      List.foldl_cons]
  . intro before source name
    rw [build_append, build_append]
    exact edit_requestSource_comm_iff

theorem last_edits_decide_of_blank_source
    : let before : List Edit := [.serviceAccount "crawler", .role ⟨"USER"⟩]
      let after : List Edit := [.serviceAccount "billing", .user none, .serviceAccount "search", .roles [⟨"ADMIN"⟩]]
      let blank : Edit := .requestSource (some " ")
      let user : Edit := .user (some ⟨"u1", by decide, by decide⟩)
      (∀ e ∈ after, e.field ≠ .requestSource) ∧ (∀ e ∈ before, e.field ≠ .requestSource)
        ∧ (build (before ++ blank :: after)).requestSource = some "billing"
        ∧ (build before).requestSource = some "crawler"
        ∧ blank.field ≠ user.field ∧ ¬ blank.Compete user
        ∧ build (before ++ blank :: user :: after) = build (before ++ user :: blank :: after) := by
  intro before after blank user
  have hafter : ∀ e ∈ after, e.field ≠ .requestSource := by decide
  have hbefore : ∀ e ∈ before, e.field ≠ .requestSource := by decide
  have hfield : blank.field ≠ user.field := by decide
  have hcompete : ¬ blank.Compete user := by
    rintro (h | h)
    . exact absurd h.2 (by decide)
    . exact absurd h.1 (by decide)
  refine ⟨hafter, hbefore, ?_, ?_, hfield, hcompete, ?_⟩
  . rw [(last_edits_decide (before ++ blank :: after)).1.requestSource_of_set before (some " ") after rfl hafter]
    decide
  . rw [(last_edits_decide before).1.requestSource_of_unset hbefore]
    rfl
  . exact (last_edits_decide []).2.1 before blank user after hfield hcompete

end Identity

end TenantAuth
