import Mathlib.Data.List.Induction
import TenantAuth.Binding.Program

/-!
This module contains the theory of nested scopes. What a step gives is decided by where it stands in the
program, that is by the innermost scope around it and by the steps before it there; the bindings that a run
keeps give exactly this, and a scope leaves them as it found them (`Bindings.scopes_nest`).
-/

namespace TenantAuth

namespace Step

/--
A step changes the binding of the scope that it stands in. What a nested scope does to its own binding is no
such change.
-/
def Rebinds : Step → Prop
  | .action (.set _) | .action .clear => True
  | .action (.read _) | .scope _ _ _ _ => False

def rebind (slot : Option Identity) : Step → Option Identity
  | .action (.set i) => some i
  | .action .clear => none
  | .action (.read _) | .scope _ _ _ _ => slot

variable {slot : Option Identity} {s : Step} {steps before after : List Step}

theorem rebind_of_not_rebinds (h : ¬ s.Rebinds) : s.rebind slot = slot := by
  cases s with
  | action a =>
    cases a with
    | read view => rfl
    | set i | clear => exact absurd trivial h
  | scope mode initial steps ending => rfl

theorem foldl_rebind_of_not_rebinds (h : ∀ s ∈ steps, ¬ s.Rebinds) : steps.foldl rebind slot = slot := by
  induction steps with
  | nil => rfl
  | cons s steps ih =>
    rw [List.forall_mem_cons] at h
    rw [List.foldl_cons, rebind_of_not_rebinds h.1, ih h.2]

theorem foldl_rebind_append (kept : ∀ s ∈ after, ¬ s.Rebinds)
    : (before ++ s :: after).foldl rebind slot = s.rebind (before.foldl rebind slot) := by
  rw [List.foldl_append, List.foldl_cons, foldl_rebind_of_not_rebinds kept]

end Step

/--
Where a step of a program stands: the identity that the innermost scope around it was entered with, if there
is such a scope, and the steps before it there.
-/
structure Place where
  initial : Option Identity
  before : List Step

namespace Place

def outside : Place := ⟨none, []⟩

def inside (i : Identity) : Place := ⟨some i, []⟩

def next (p : Place) (s : Step) : Place :=
  { p with before := p.before ++ [s] }

/--
What is bound in a place: the last change in the innermost scope, without a change the identity that the scope
was entered with, and outside every scope the anonymous identity.
-/
inductive Shows : Place → Identity → Prop where
  | outside (before : List Step) : Shows ⟨none, before⟩ .anonymous
  | initial (i : Identity) (before : List Step) (kept : ∀ s ∈ before, ¬ s.Rebinds) : Shows ⟨some i, before⟩ i
  | set (i : Identity) (before : List Step) (j : Identity) (after : List Step)
    (kept : ∀ s ∈ after, ¬ s.Rebinds) : Shows ⟨some i, before ++ .action (.set j) :: after⟩ j
  | cleared (i : Identity) (before after : List Step) (kept : ∀ s ∈ after, ¬ s.Rebinds) :
    Shows ⟨some i, before ++ .action .clear :: after⟩ .anonymous

mutual

inductive Gives : Place → Step → Outcome → Prop where
  | read (p : Place) (view : View) (i : Identity) (shown : p.Shows i) :
    Gives p (.action (.read view)) (.saw view i)
  | set (initial : Identity) (before : List Step) (i : Identity) :
    Gives ⟨some initial, before⟩ (.action (.set i)) .done
  | setOutside (before : List Step) (i : Identity) :
    Gives ⟨none, before⟩ (.action (.set i)) (.failed .noRequestScope)
  | clear (p : Place) : Gives p (.action .clear) .done
  | scope (p : Place) (mode : Mode) (initial : Identity) (steps : List Step) (ending : Ending)
    (outcomes : List Outcome) (within : GivesAll (inside initial) steps outcomes) :
    Gives p (.scope mode initial steps ending) (.scope outcomes ending)

inductive GivesAll : Place → List Step → List Outcome → Prop where
  | nil (p : Place) : GivesAll p [] []
  | cons (p : Place) (s : Step) (steps : List Step) (outcome : Outcome) (outcomes : List Outcome)
    (first : Gives p s outcome) (rest : GivesAll (p.next s) steps outcomes) :
    GivesAll p (s :: steps) (outcome :: outcomes)

end

theorem Shows.next {p : Place} {shown : Identity} {s : Step} (h : p.Shows shown) (hs : ¬ s.Rebinds)
    : (p.next s).Shows shown := by
  have hkept : ∀ steps, (∀ s ∈ steps, ¬ s.Rebinds) → ∀ s' ∈ steps ++ [s], ¬ s'.Rebinds := by
    intro steps kept
    exact List.forall_mem_append.2 ⟨kept, List.forall_mem_singleton.2 hs⟩
  cases h with
  | outside before => exact .outside (before ++ [s])
  | initial i before kept => exact .initial shown _ (hkept before kept)
  | set i before j after kept =>
    rw [Place.next, List.append_assoc, List.cons_append]
    exact .set i before shown _ (hkept after kept)
  | cleared i before after kept =>
    rw [Place.next, List.append_assoc, List.cons_append]
    exact .cleared i before _ (hkept after kept)

end Place

namespace Bindings

variable {b : Bindings} {p : Place} {i : Identity} {outcome : Outcome} {outcomes : List Outcome}

theorem current_push (b : Bindings) (slot : Option Identity) : (b.push slot).current = slot.getD .anonymous := by
  cases slot with
  | none => rfl
  | some i => rfl

variable {initial : Identity} {ending : Ending}

theorem runAtOnce_eq (body : StateM Bindings (List Outcome)) (b : Bindings)
    : runAtOnce initial body ending b
        =
      (.scope (body (b.enter initial)).1 ending, (body (b.enter initial)).2.leave) := by
  cases ending with
  | normal | panic => rfl

theorem runPolled_eq (polls : Option Identity → StateM Bindings (List Outcome × Option Identity)) (b : Bindings)
    : runPolled initial polls ending b
        =
      (.scope (polls (some initial) b).1.1 ending, (polls (some initial) b).2) := by
  cases ending with
  | normal | panic => rfl

mutual

theorem run_push (b : Bindings) (slot : Option Identity) (s : Step)
    : ((b.push slot).run s).2 = b.push (s.rebind slot) := by
  cases s with
  | action a =>
    rw [run]
    cases a with
    | read view | set i | clear => rfl
  | scope mode initial steps ending =>
    cases mode with
    | immediate =>
      rw [run, runAtOnce_eq]
      exact congrArg leave (runAll_push (b.push slot) (some initial) steps)
    | suspended =>
      rw [run, runPolled_eq, pollAll_eq]
      rfl
termination_by structural s

theorem runAll_push (b : Bindings) (slot : Option Identity) (steps : List Step)
    : ((b.push slot).runAll steps).2 = b.push (steps.foldl Step.rebind slot) := by
  cases steps with
  | nil => rfl
  | cons s steps =>
    rw [runAll]
    dsimp only
    rw [run_push, runAll_push, List.foldl_cons]
termination_by structural steps

/--
Steps give the same whether the slot of their scope is held from the first to the last or from poll to poll.
-/
theorem pollAll_eq (b : Bindings) (slot : Option Identity) (steps : List Step)
    : pollAll slot b steps = ((((b.push slot).runAll steps).1, steps.foldl Step.rebind slot), b) := by
  cases steps with
  | nil => rfl
  | cons s steps =>
    have hpoll : poll slot (run · s) b = ((((b.push slot).run s).1, s.rebind slot), b) := by
      rw [poll_eq, run_push]
      rfl
    rw [pollAll, hpoll, runAll]
    dsimp only
    rw [pollAll_eq, run_push, List.foldl_cons]
termination_by structural steps

end

theorem run_scope_eq (b : Bindings) (mode : Mode) (initial : Identity) (steps : List Step) (ending : Ending)
    : b.run (.scope mode initial steps ending) = (.scope ((b.enter initial).runAll steps).1 ending, b) := by
  cases mode with
  | immediate =>
    rw [run, runAtOnce_eq]
    exact congrArg (Prod.mk _ <| leave ·) (runAll_push b (some initial) steps)
  | suspended =>
    rw [run, runPolled_eq, pollAll_eq]
    rfl

theorem run_scope (b : Bindings) (mode : Mode) (initial : Identity) (steps : List Step) (ending : Ending)
    : (b.run (.scope mode initial steps ending)).2 = b :=
  congrArg Prod.snd (run_scope_eq b mode initial steps ending)

theorem run_outside (s : Step) : (outside.run s).2 = outside := by
  cases s with
  | action a =>
    rw [run]
    cases a with
    | read view | set i | clear => rfl
  | scope mode initial steps ending => exact run_scope outside mode initial steps ending

theorem runAll_outside (steps : List Step) : (outside.runAll steps).2 = outside := by
  induction steps with
  | nil => rfl
  | cons s steps ih =>
    rw [runAll]
    dsimp only
    rw [run_outside, ih]

inductive At : Bindings → Place → Prop where
  | outside (before : List Step) : At .outside ⟨none, before⟩
  | within (b : Bindings) (i : Identity) (before : List Step) :
    At (b.push (before.foldl Step.rebind (some i))) ⟨some i, before⟩

namespace At

theorem enter (b : Bindings) (i : Identity) : (b.enter i).At (.inside i) :=
  .within b i []

theorem next (h : b.At p) (s : Step) : (b.run s).2.At (p.next s) := by
  cases h with
  | outside before =>
    rw [run_outside]
    exact .outside (before ++ [s])
  | within b i before =>
    rw [run_push, ← Step.foldl_rebind_append (List.forall_mem_nil _)]
    exact .within b i (before ++ [s])

theorem shows (h : b.At p) : p.Shows b.current := by
  cases h with
  | outside before => exact .outside before
  | within b i before =>
    rw [current_push]
    induction before using List.reverseRecOn with
    | nil => exact .initial i [] (List.forall_mem_nil _)
    | append_singleton before s ih =>
      rw [Step.foldl_rebind_append (List.forall_mem_nil _)]
      cases s with
      | action a =>
        cases a with
        | read view => exact ih.next id
        | set j => exact .set i before j [] (List.forall_mem_nil _)
        | clear => exact .cleared i before [] (List.forall_mem_nil _)
      | scope mode initial steps ending => exact ih.next id

theorem current_eq (h : b.At p) (hshown : p.Shows i) : b.current = i := by
  cases hshown with
  | outside before =>
    cases h with
    | outside => rfl
  | initial i before kept =>
    cases h with
    | within b i before => rw [current_push, Step.foldl_rebind_of_not_rebinds kept, Option.getD_some]
  | set i before j after kept =>
    cases h with
    | within b i before =>
      rw [current_push, Step.foldl_rebind_append kept]
      rfl
  | cleared i before after kept =>
    cases h with
    | within b i before =>
      rw [current_push, Step.foldl_rebind_append kept]
      rfl

theorem act_eq_iff (h : b.At p) (a : Action) : (b.act a).1 = outcome ↔ p.Gives (.action a) outcome := by
  constructor
  . rintro rfl
    cases a with
    | read view => exact .read p view b.current h.shows
    | set i =>
      cases h with
      | outside before => exact .setOutside before i
      | within b initial before => exact .set initial before i
    | clear => exact .clear p
  . intro hgives
    cases hgives with
    | read _ view i hshown => rw [act, h.current_eq hshown]
    | set initial before i =>
      cases h with
      | within b => rfl
    | setOutside before i =>
      cases h with
      | outside => rfl
    | clear => rfl

mutual

theorem run_eq_iff {b : Bindings} {p : Place} (h : b.At p) (s : Step) (outcome : Outcome)
    : (b.run s).1 = outcome ↔ p.Gives s outcome := by
  cases s with
  | action a =>
    rw [run]
    exact h.act_eq_iff a
  | scope mode initial steps ending =>
    have hsteps : ∀ outcomes, ((b.enter initial).runAll steps).1 = outcomes
        ↔ (Place.inside initial).GivesAll steps outcomes :=
      fun outcomes => runAll_eq_iff (At.enter b initial) steps outcomes
    rw [run_scope_eq]
    constructor
    . rintro rfl
      exact .scope p mode initial steps ending _ ((hsteps _).1 rfl)
    . intro hgives
      cases hgives with
      | scope _ _ _ _ _ outcomes hwithin =>
        exact congrArg (Outcome.scope · ending) ((hsteps outcomes).2 hwithin)
termination_by structural s

theorem runAll_eq_iff {b : Bindings} {p : Place} (h : b.At p) (steps : List Step) (outcomes : List Outcome)
    : (b.runAll steps).1 = outcomes ↔ p.GivesAll steps outcomes := by
  cases steps with
  | nil =>
    constructor
    . rintro rfl
      exact .nil p
    . intro hgives
      cases hgives with
      | nil => rfl
  | cons s steps =>
    have hfirst : ∀ outcome, (b.run s).1 = outcome ↔ p.Gives s outcome :=
      fun outcome => run_eq_iff h s outcome
    have hrest : ∀ outcomes, ((b.run s).2.runAll steps).1 = outcomes ↔ (p.next s).GivesAll steps outcomes :=
      fun outcomes => runAll_eq_iff (h.next s) steps outcomes
    rw [runAll]
    constructor
    . rintro rfl
      exact .cons p s steps _ _ ((hfirst _).1 rfl) ((hrest _).1 rfl)
    . intro hgives
      cases hgives with
      | cons _ _ _ outcome outcomes hs hsteps =>
        dsimp only
        rw [(hfirst outcome).2 hs, (hrest outcomes).2 hsteps]
termination_by structural steps

end

end At

theorem scopes_nest (steps : List Step)
    : (∀ outcomes, (outside.runAll steps).1 = outcomes ↔ Place.outside.GivesAll steps outcomes)
      ∧ (outside.runAll steps).2 = outside
      ∧ (∀ b mode initial inner ending, (run b (.scope mode initial inner ending)).2 = b)
      ∧ (∀ b i, (run b (.action (.set i))).1 = .failed .noRequestScope ↔ b = outside)
      ∧ ∀ i, (run outside (.action (.set i))).2 = outside := by
  refine ⟨At.runAll_eq_iff (.outside []) steps, runAll_outside steps, run_scope, ?_,
    fun i => run_outside (.action (.set i))⟩
  intro b i
  rw [run]
  rcases b with ⟨slots⟩
  cases slots with
  | nil => exact iff_of_true rfl rfl
  | cons slot slots => exact iff_of_false nofun nofun

example (alice bob carol : Identity)
    : (outside.runAll [
        .action (.read .identity),
        .scope .immediate alice [
          .action (.set bob),
          .scope .suspended carol [.action .clear, .action (.read .identity)] .panic,
          .action (.read .identity)
        ] .normal,
        .action (.set bob)
      ]).1
        =
      [
        .saw .identity .anonymous,
        .scope [.done, .scope [.done, .saw .identity .anonymous] .panic, .saw .identity bob] .normal,
        .failed .noRequestScope
      ] := rfl

end Bindings

end TenantAuth
