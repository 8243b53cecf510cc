import TenantAuth.Binding.Program

/-!
This module contains a worker that runs several request scopes in turns. All of them share the bindings
of the worker; a scope's slot is among them only while the scope's task is running.
-/

namespace TenantAuth

structure Task where
  slot : Option Identity
  rest : List Action

/--
A worker: its bindings, and its tasks by number. A task that has ended or was dropped is absent.
-/
structure Worker where
  bindings : Bindings := .outside
  tasks : List (Option Task)

inductive Turn where
  | resume (task : Nat)
  | drop (task : Nat)
deriving DecidableEq, Repr

inductive Progress where
  | pending (outcome : Outcome)
  | done
  | gone

inductive TurnLog where
  | resumed (task : Nat) (progress : Progress) (outside : Identity)
  | dropped (task : Nat) (outside : Identity)

namespace Worker

def start (requests : List (Identity × List Action)) : Worker where
  tasks := requests.map fun (i, steps) => some ⟨some i, steps⟩

def resume (w : Worker) (n : Nat) : Progress × Worker :=
  match w.tasks[n]?.join with
  | none => (.gone, w)
  | some ⟨_, []⟩ => (.done, { w with tasks := w.tasks.set n none })
  | some ⟨slot, a :: rest⟩ =>
    let ((outcome, slot), bindings) := Bindings.poll slot (·.act a) w.bindings
    (.pending outcome, { bindings, tasks := w.tasks.set n (some ⟨slot, rest⟩) })

def drop (w : Worker) (n : Nat) : Worker :=
  { w with tasks := w.tasks.set n none }

def turn (w : Worker) : Turn → TurnLog × Worker
  | .resume n =>
    let (progress, w) := w.resume n
    (.resumed n progress w.bindings.current, w)
  | .drop n =>
    let w := w.drop n
    (.dropped n w.bindings.current, w)

def run (w : Worker) : List Turn → List TurnLog × Worker
  | [] => ([], w)
  | t :: turns =>
    let (log, w) := w.turn t
    let (logs, w) := run w turns
    (log :: logs, w)

end Worker

namespace TurnLog

def toJson : TurnLog → Json
  | .resumed n progress outside =>
    let (state, result) := match progress with
      | .pending outcome => ("pending", outcome.toJson)
      | .done => ("done", .null)
      | .gone => ("gone", .null)
    .object [
      ("task", .int n), ("state", .string state), ("result", result),
      ("outside", Outcome.identifiersJson outside)
    ]
  | .dropped n outside =>
    .object [("dropped", .int n), ("outside", Outcome.identifiersJson outside)]

end TurnLog

end TenantAuth
