import TenantAuth.Binding.Basic
import TenantAuth.Principal

/-!
This module contains programs that use the bindings: reads, replacements and clearings of the current
one, and nested scopes.
-/

namespace TenantAuth

inductive View where
  | identifiers
  | identity
  | decisions
deriving DecidableEq, Repr

inductive Action where
  | read (view : View)
  | set (i : Identity)
  | clear

/--
How a scope is run: at once, or as a computation that is polled until it has ended. The slot of a polled
scope is among the bindings only while it is being polled.
-/
inductive Mode where
  | immediate
  | suspended
deriving DecidableEq, Repr

inductive Ending where
  | normal
  | panic
deriving DecidableEq, Repr

/--
A step of a program. The panic of a scope is caught where the scope ends.
-/
inductive Step where
  | action (a : Action)
  | scope (mode : Mode) (initial : Identity) (steps : List Step) (ending : Ending)

inductive Outcome where
  | saw (view : View) (i : Identity)
  | done
  | failed (e : BindingError)
  | scope (outcomes : List Outcome) (ending : Ending)

namespace Bindings

def act (b : Bindings) : Action → Outcome × Bindings
  | .read view => (.saw view b.current, b)
  | .set i => match b.set i with
    | .ok b' => (.done, b')
    | .error e => (.failed e, b)
  | .clear => (.done, b.clear)

structure Panic where
  outcomes : List Outcome

abbrev Unwindable := ExceptT Panic (StateM Bindings)

def finish (outcomes : List Outcome) : Ending → Unwindable (List Outcome)
  | .normal => pure outcomes
  | .panic => throw ⟨outcomes⟩

def caught (scope : Unwindable (List Outcome)) : StateM Bindings Outcome := do
  match ← scope.run with
  | .ok outcomes => return .scope outcomes .normal
  | .error panic => return .scope panic.outcomes .panic

/--
Puts a slot on top of the bindings for the time of a computation, and gives back what the computation has made
of it. The slot is taken off on every exit, also when a panic unwinds the computation; for this the task-local
storage of the runtime is relied on.
-/
def holding [Monad m] [MonadFinally m] [MonadStateOf Bindings m] (slot : Option Identity) (body : m α)
    : m (α × Option Identity) := do
  modify (·.push slot)
  tryFinally' body fun _ => modifyGet fun b => (b.top?.join, b.leave)

def runAtOnce (initial : Identity) (steps : StateM Bindings (List Outcome)) (ending : Ending)
    : StateM Bindings Outcome :=
  caught do
    let (outcomes, _) ← holding (some initial) (do finish (← steps) ending)
    return outcomes

def poll (slot : Option Identity) (step : StateM Bindings Outcome)
    : StateM Bindings (Outcome × Option Identity) :=
  holding slot step

theorem poll_eq (slot : Option Identity) (step : StateM Bindings Outcome) (b : Bindings)
    : poll slot step b
        =
      (((step (b.push slot)).1, (step (b.push slot)).2.top?.join), (step (b.push slot)).2.leave) := rfl

def runPolled (initial : Identity) (polls : Option Identity → StateM Bindings (List Outcome × Option Identity))
    (ending : Ending) : StateM Bindings Outcome :=
  caught do
    let (outcomes, slot) ← polls (some initial)
    let (outcomes, _) ← holding slot (finish outcomes ending)
    return outcomes

mutual

def run (b : Bindings) : Step → Outcome × Bindings
  | .action a => b.act a
  | .scope .immediate initial steps ending => runAtOnce initial (runAll · steps) ending b
  | .scope .suspended initial steps ending => runPolled initial (pollAll · · steps) ending b

def runAll (b : Bindings) : List Step → List Outcome × Bindings
  | [] => ([], b)
  | s :: steps =>
    let (outcome, b) := run b s
    let (outcomes, b) := runAll b steps
    (outcome :: outcomes, b)

def pollAll (slot : Option Identity) (b : Bindings) : List Step → (List Outcome × Option Identity) × Bindings
  | [] => (([], slot), b)
  | s :: steps =>
    let ((outcome, slot), b) := poll slot (run · s) b
    let ((outcomes, slot), b) := pollAll slot b steps
    ((outcome :: outcomes, slot), b)

end

end Bindings

namespace Outcome

def identifiersJson (i : Identity) : Json :=
  .object [
    ("authenticated", .bool i.isAuthenticated),
    ("user_id", Identifier.toJson? i.userId),
    ("tenant_id", Identifier.toJson? i.tenantId),
    ("organization_id", Identifier.toJson? i.organizationId),
    ("trace_id", Identifier.toJson? i.traceId)
  ]

def decisionsJson (i : Identity) : Json :=
  .object [
    ("scope", .string i.scope.name),
    ("authenticated", .bool (Principal.mk i .empty).isAuthenticated),
    ("filter_tenant_id", Identifier.toJson? (i.tenantRestriction?))
  ]

mutual

def toJson : Outcome → Json
  | .saw .identifiers i => identifiersJson i
  | .saw .identity i => i.toJson
  | .saw .decisions i => decisionsJson i
  | .done => .string "ok"
  | .failed e => .object [("error", .string "NoRequestScope"), ("message", .string e.message)]
  | .scope outcomes ending =>
    .object [("steps", .array (toJsonMany outcomes)), ("panicked", .bool (ending == .panic))]

def toJsonMany : List Outcome → List Json
  | [] => []
  | o :: os => toJson o :: toJsonMany os

end

end Outcome

end TenantAuth
