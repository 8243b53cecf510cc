import TenantAuth.Principal

/-!
This module contains guards: expressions that combine predicates, and the refusal of a principal who
does not satisfy one.
-/

namespace TenantAuth

/--
An expression over predicates. An empty conjunction is satisfied, an empty disjunction is not.
-/
inductive Guard where
  | leaf (p : Predicate)
  | all (guards : List Guard)
  | any (guards : List Guard)
  | not (guard : Guard)
deriving BEq, Repr, Inhabited

namespace Guard

/--
Induction over a guard, with the hypothesis for every guard in a list.
-/
@[induction_eliminator]
theorem induct {motive : Guard → Prop} (leaf : ∀ p, motive (.leaf p))
    (all : ∀ gs, (∀ g ∈ gs, motive g) → motive (.all gs))
    (any : ∀ gs, (∀ g ∈ gs, motive g) → motive (.any gs))
    (not : ∀ g, motive g → motive (.not g)) (g : Guard) : motive g := by
  refine @Guard.rec motive (fun gs => ∀ g ∈ gs, motive g) leaf all any not ?_ ?_ g
  . intro g hg
    cases hg
  . intro g gs hg hgs g' hg'
    rcases List.mem_cons.1 hg' with rfl | hmem
    . exact hg
    . exact hgs g' hmem

mutual

def eval (a : Principal) : Guard → Bool
  | .leaf p => a.holds p
  | .all gs => evalAll a gs
  | .any gs => evalAny a gs
  | .not g => !eval a g

def evalAll (a : Principal) : List Guard → Bool
  | [] => true
  | g :: gs => eval a g && evalAll a gs

def evalAny (a : Principal) : List Guard → Bool
  | [] => false
  | g :: gs => eval a g || evalAny a gs

end

@[simp]
theorem eval_leaf {a : Principal} {p : Predicate} : eval a (leaf p) = a.holds p := by
  rw [eval]

@[simp]
theorem eval_all {a : Principal} {gs : List Guard} : eval a (all gs) = gs.all (eval a) := by
  rw [eval]
  induction gs with
  | nil => rfl
  | cons g gs ih => simp [evalAll, ih]

@[simp]
theorem eval_any {a : Principal} {gs : List Guard} : eval a (any gs) = gs.any (eval a) := by
  rw [eval]
  induction gs with
  | nil => rfl
  | cons g gs ih => simp [evalAny, ih]

@[simp]
theorem eval_not {a : Principal} {g : Guard} : eval a (not g) = !eval a g := by
  rw [eval]

end Guard

inductive Denial where
  | unauthenticated
  | forbidden
deriving DecidableEq, Repr

def authorize (a : Principal) (g : Guard) : Except Denial Principal :=
  if g.eval a then .ok a
  else if a.holds .authenticated then .error .forbidden
  else .error .unauthenticated

end TenantAuth
