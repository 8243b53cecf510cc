import TenantAuth.Binding.Worker

/-!
This module contains the theory of request scopes that run in turns on one worker. The main statements are
that a task does what its own turns make of it, whatever runs in between (`Worker.run_task`), and that this
is what its steps give in a scope of their own, up to the turn that drops it (`Worker.scopes_isolated`).
-/

namespace TenantAuth

namespace Bindings

def alone (slot : Option Identity) (steps : List Action) : List Outcome :=
  ((outside.push slot).runAll (steps.map .action)).1

theorem act_push (b : Bindings) (slot : Option Identity) (a : Action)
    : (b.push slot).act a
        =
      (((outside.push slot).act a).1, b.push ((outside.push slot).act a).2.top?.join) := by
  cases a with
  | read view =>
    cases slot with
    | none => rfl
    | some i => rfl
  | set i => rfl
  | clear => rfl

theorem alone_cons (slot : Option Identity) (a : Action) (steps : List Action)
    : alone slot (a :: steps)
        =
      ((outside.push slot).act a).1 :: alone ((outside.push slot).act a).2.top?.join steps := by
  have hpush : ((outside.push slot).act a).2 = outside.push ((outside.push slot).act a).2.top?.join :=
    congrArg Prod.snd (act_push outside slot a)
  rw [alone, List.map_cons, runAll, run]
  dsimp only
  rw [alone, ← hpush]

theorem length_alone (slot : Option Identity) (steps : List Action)
    : (alone slot steps).length = steps.length := by
  induction steps generalizing slot with
  | nil => rfl
  | cons a steps ih => rw [alone_cons, List.length_cons, ih, List.length_cons]

end Bindings

namespace Task

def next : Option Task → Progress × Option Task
  | none => (.gone, none)
  | some ⟨_, []⟩ => (.done, none)
  | some ⟨slot, a :: rest⟩ =>
    let (outcome, bindings) := (Bindings.outside.push slot).act a
    (.pending outcome, some ⟨bindings.top?.join, rest⟩)

def run (n : Nat) (task : Option Task) : List Turn → List Progress × Option Task
  | [] => ([], task)
  | .resume m :: turns =>
    if m = n then
      let (trace, last) := run n (next task).2 turns
      ((next task).1 :: trace, last)
    else
      run n task turns
  | .drop m :: turns => run n (if m = n then none else task) turns

def remaining : Option Task → List Progress
  | none => []
  | some task => (Bindings.alone task.slot task.rest).map .pending ++ [.done]

theorem remaining_some (task : Task)
    : remaining (some task) = (next (some task)).1 :: remaining (next (some task)).2 := by
  rcases task with ⟨slot, rest⟩
  cases rest with
  | nil => rfl
  | cons a rest =>
    rw [remaining, Bindings.alone_cons]
    rfl

end Task

namespace Turn

def resumesBeforeDrop (n : Nat) (turns : List Turn) : Nat :=
  (turns.takeWhile (· != .drop n)).count (.resume n)

/--
A turn of one task, as a turn of the only task of a worker.
-/
def only? (n : Nat) : Turn → Option Turn
  | .resume m => if m = n then some (.resume 0) else none
  | .drop m => if m = n then some (.drop 0) else none

end Turn

namespace Task

open Turn

variable {n : Nat} {task : Option Task} {turns : List Turn}

theorem run_cons (n : Nat) (task : Option Task) (t : Turn) (turns : List Turn)
    : run n task (t :: turns)
        =
      ((run n task [t]).1 ++ (run n (run n task [t]).2 turns).1, (run n (run n task [t]).2 turns).2) := by
  cases t with
  | resume m =>
    by_cases h : m = n
    . simp [run, h]
    . simp [run, h]
  | drop m => rfl

theorem run_filterMap_only : run 0 task (turns.filterMap (only? n)) = run n task turns := by
  induction turns generalizing task with
  | nil => rfl
  | cons turn turns ih =>
    cases turn with
    | resume m =>
      by_cases h : m = n
      . simp [only?, run, h, ih]
      . simp [only?, run, h, ih]
    | drop m =>
      by_cases h : m = n
      . simp [only?, run, h, ih]
      . simp [only?, run, h, ih]

theorem run_eq_rightpad
    : (run n task turns).1
        =
      ((remaining task).take (resumesBeforeDrop n turns)).rightpad (turns.count (.resume n)) .gone := by
  induction turns generalizing task with
  | nil => simp [run, resumesBeforeDrop]
  | cons turn turns ih =>
    cases turn with
    | resume m =>
      by_cases h : m = n
      -- A resume takes the first thing off what remains, or there is nothing left to take.
      . cases task with
        | none => simp [run, next, remaining, ih, h, List.rightpad, List.replicate_succ]
        | some task => simp [run, resumesBeforeDrop, remaining_some, ih, h, List.rightpad]
      . simp [run, resumesBeforeDrop, h, ih]
    | drop m =>
      by_cases h : m = n
      . simp [run, resumesBeforeDrop, h, ih, remaining]
      . simp [run, resumesBeforeDrop, h, ih]

theorem run_eq_none_iff
    : (run n task turns).2 = none
        ↔
      .drop n ∈ turns ∨ (remaining task).length ≤ resumesBeforeDrop n turns := by
  induction turns generalizing task with
  | nil =>
    cases task with
    | none => simp [run, remaining]
    | some task => simp [run, remaining, resumesBeforeDrop]
  | cons turn turns ih =>
    cases turn with
    | resume m =>
      by_cases h : m = n
      . cases task with
        | none => simp [run, next, remaining, ih, h]
        | some task => simp [run, resumesBeforeDrop, remaining_some, ih, h]
      . simp [run, resumesBeforeDrop, h, ih]
    | drop m =>
      by_cases h : m = n
      . simp [run, h, ih, remaining]
      . simp [run, resumesBeforeDrop, h, ih, Ne.symm h]

end Task

namespace TurnLog

def progress? (n : Nat) : TurnLog → Option Progress
  | .resumed m progress _ => if m = n then some progress else none
  | .dropped _ _ => none

def outside : TurnLog → Identity
  | .resumed _ _ outside => outside
  | .dropped _ outside => outside

end TurnLog

namespace Worker

def task? (w : Worker) (n : Nat) : Option Task :=
  w.tasks[n]?.join

def put (w : Worker) (n : Nat) (task : Option Task) : Worker :=
  { w with tasks := w.tasks.set n task }

variable {w : Worker} {n m : Nat} {task : Option Task}

theorem task?_put_of_ne (h : m ≠ n) : (w.put m task).task? n = w.task? n := by
  rw [task?, put, List.getElem?_set_ne h, task?]

theorem task?_put_self (h : w.task? n = none → task = none) : (w.put n task).task? n = task := by
  rw [task?, put, List.getElem?_set_self']
  rw [task?] at h
  cases hget : w.tasks[n]? with
  | none => rw [Option.map_eq_map, Option.map_none, Option.join_none, h (by rw [hget, Option.join_none])]
  | some _ => rfl

theorem put_task? : w.put n (w.task? n) = w := by
  have htasks : w.tasks.set n (w.task? n) = w.tasks := by
    rw [task?]
    cases hget : w.tasks[n]? with
    | none => exact List.set_eq_of_length_le (List.getElem?_eq_none_iff.1 hget)
    | some task =>
      rcases List.getElem?_eq_some_iff.1 hget with ⟨hlt, rfl⟩
      exact List.set_getElem_self hlt
  rw [put, htasks]

theorem resume_of_absent (h : w.task? n = none) : w.resume n = (.gone, w) := by
  unfold resume
  rw [← task?, h]

theorem resume_eq (w : Worker) (n : Nat)
    : w.resume n = ((Task.next (w.task? n)).1, w.put n (Task.next (w.task? n)).2) := by
  cases htask : w.task? n with
  | none =>
    have hput : w.put n none = w := htask ▸ put_task?
    rw [resume_of_absent htask, Task.next, hput]
  | some task =>
    unfold resume
    rw [← task?, htask]
    rcases task with ⟨slot, rest⟩
    cases rest with
    | nil => rfl
    | cons a rest =>
      -- The step runs on top of the worker's own bindings, which are as they were once the slot is gone.
      dsimp only
      rw [Bindings.poll_eq, Bindings.act_push]
      rfl

theorem drop_eq (w : Worker) (n : Nat) : w.drop n = w.put n none := rfl

theorem bindings_turn (w : Worker) (t : Turn) : (w.turn t).2.bindings = w.bindings := by
  cases t with
  | resume m =>
    rw [turn, resume_eq]
    rfl
  | drop m => rfl

theorem bindings_run (w : Worker) (turns : List Turn) : (w.run turns).2.bindings = w.bindings := by
  induction turns generalizing w with
  | nil => rfl
  | cons t turns ih => exact (ih _).trans (bindings_turn w t)

theorem outside_run (w : Worker) (turns : List Turn)
    : ∀ log ∈ (w.run turns).1, log.outside = w.bindings.current := by
  induction turns generalizing w with
  | nil => simp [run]
  | cons t turns ih =>
    rw [run]
    dsimp only
    rw [List.forall_mem_cons]
    refine ⟨?_, ?_⟩
    . rw [← bindings_turn w t]
      cases t with
      | resume m => rfl
      | drop m => rfl
    . have hrun := ih (w.turn t).2
      rwa [bindings_turn] at hrun

theorem turn_task (w : Worker) (n : Nat) (t : Turn)
    : (((w.turn t).1.progress? n).toList, (w.turn t).2.task? n) = Task.run n (w.task? n) [t] := by
  cases t with
  | resume m =>
    rw [turn, resume_eq]
    by_cases h : m = n
    . subst h
      have hput : (w.put m (Task.next (w.task? m)).2).task? m = (Task.next (w.task? m)).2 := by
        apply task?_put_self
        intro hnone
        rw [hnone, Task.next]
      simp [TurnLog.progress?, Task.run, hput]
    . simp [TurnLog.progress?, Task.run, h, task?_put_of_ne]
  | drop m =>
    by_cases h : m = n
    . subst h
      exact Prod.ext rfl ((task?_put_self fun _ => rfl).trans (if_pos rfl).symm)
    . rw [turn, drop_eq]
      simp [TurnLog.progress?, Task.run, h, task?_put_of_ne]

theorem run_task (w : Worker) (n : Nat) (turns : List Turn)
    : ((w.run turns).1.filterMap (TurnLog.progress? n), (w.run turns).2.task? n)
        =
      Task.run n (w.task? n) turns := by
  induction turns generalizing w with
  | nil => rfl
  | cons t turns ih =>
    rw [Task.run_cons, ← turn_task, ← ih, run]
    dsimp only
    rw [List.filterMap_cons]
    cases (w.turn t).1.progress? n with
    | none => rfl
    | some progress => rfl

theorem task?_start (requests : List (Identity × List Action)) (n : Nat)
    : (start requests).task? n = requests[n]?.map fun request => ⟨some request.1, request.2⟩ := by
  rw [task?, start, List.getElem?_map]
  cases requests[n]? with
  | none => rfl
  | some request => rfl

theorem scopes_isolated (requests : List (Identity × List Action)) (schedule : List Turn)
    : let log := ((start requests).run schedule).1
      let w := ((start requests).run schedule).2
      (∀ n i steps, requests[n]? = some (i, steps) →
          log.filterMap (TurnLog.progress? n)
              = (((Bindings.alone (some i) steps).map Progress.pending ++ [Progress.done]).take
                  (Turn.resumesBeforeDrop n schedule)).rightpad (schedule.count (Turn.resume n)) Progress.gone
            ∧ log.filterMap (TurnLog.progress? n)
              = ((start [(i, steps)]).run (schedule.filterMap (Turn.only? n))).1.filterMap (TurnLog.progress? 0)
            ∧ (w.task? n = none ↔ .drop n ∈ schedule ∨ steps.length < Turn.resumesBeforeDrop n schedule))
        ∧ (∀ n, w.task? n = none → w.resume n = (.gone, w))
        ∧ (∀ turn ∈ log, turn.outside = .anonymous)
        ∧ w.bindings = .outside := by
  intro log w
  refine ⟨?_, fun n => resume_of_absent, outside_run (start requests) schedule,
    bindings_run (start requests) schedule⟩
  intro n i steps hn
  have hstart : (start requests).task? n = some ⟨some i, steps⟩ := by
    rw [task?_start, hn]
    rfl
  have hrun := run_task (start requests) n schedule
  have halone := run_task (start [(i, steps)]) 0 (schedule.filterMap (Turn.only? n))
  rw [hstart] at hrun
  rw [Task.run_filterMap_only] at halone
  refine ⟨?_, ?_, ?_⟩
  . exact (congrArg Prod.fst hrun).trans Task.run_eq_rightpad
  . exact congrArg Prod.fst (hrun.trans halone.symm)
  . have hlast : w.task? n = (Task.run n (some ⟨some i, steps⟩) schedule).2 := congrArg Prod.snd hrun
    have hlength : (Task.remaining (some ⟨some i, steps⟩)).length = steps.length + 1 := by
      rw [Task.remaining, List.length_append, List.length_map, Bindings.length_alone, List.length_singleton]
    rw [hlast, Task.run_eq_none_iff, hlength, Nat.succ_le_iff]

theorem scopes_isolated_of_dropped_task
    : let alice : Identity := { userId := some ⟨"alice", by decide, by decide⟩ }
      let bob : Identity := { userId := some ⟨"bob", by decide, by decide⟩ }
      let carol : Identity := { userId := some ⟨"carol", by decide, by decide⟩ }
      let requests : List (Identity × List Action) :=
        [(alice, [.set carol, .read .identity, .clear]), (bob, [.read .identity, .clear, .read .identity])]
      -- Each reads after the other has changed its own binding, and the second after the first was dropped.
      let schedule : List Turn :=
        [.resume 0, .resume 1, .resume 1, .resume 0, .drop 0, .resume 1, .resume 0, .resume 1]
      let log := ((start requests).run schedule).1
      log.filterMap (TurnLog.progress? 0) = [.pending .done, .pending (.saw .identity carol), .gone]
        ∧ log.filterMap (TurnLog.progress? 1) = [.pending (.saw .identity bob), .pending .done,
          .pending (.saw .identity .anonymous), .done]
        ∧ ((start requests).run schedule).2.task? 0 = none
        ∧ ((start requests).run schedule).2.resume 0 = (.gone, ((start requests).run schedule).2) := by
  intro alice bob carol requests schedule log
  have hisolated := scopes_isolated requests schedule
  have halice := hisolated.1 0 alice [.set carol, .read .identity, .clear] rfl
  have hbob := hisolated.1 1 bob [.read .identity, .clear, .read .identity] rfl
  have habsent := halice.2.2.2 (.inl (by decide))
  exact ⟨halice.1, hbob.1, habsent, hisolated.2.1 0 habsent⟩

end Worker

end TenantAuth
