import StagePipeline.Stage.Parse

/-!
# Parsing a batch with workers

The workers are started first, which may fail, and then nothing is done.  After that
every unit is a task, and a worker takes a task forward in small steps: look at
the halt flag, look at the token, open a scope of its own, build the parser,
parse, report what was passed over, close the scope and, after a fatal failure,
raise the halt flag.  `Task.step` is one such step and touches nothing but its
task and what all tasks share, so any interleaving of the workers is a sequence
of steps of tasks.  After the last step the outcomes are gathered in the order
of the batch.

`Task.complete` takes one task to its end, and `Pool.inTurn` completes the tasks
one after the other in an order that depends on the number of workers.  A single
worker takes the units as they come.  Several workers share the batch by halves,
and of all that they may do `turns` has two of them take a half each, a unit at a
time.
-/

namespace StagePipeline

open Program

namespace ParseStage

/-- How the work on a unit ended. -/
inductive Outcome where
  | parsed
  | skipped
  | interrupted (reason : Interrupt)
  | failed (failure : UnitFailure)
  deriving DecidableEq, Repr

/-- How far the work on a unit has come. -/
inductive Progress where
  /-- Nothing has been done. -/
  | waiting
  /-- The halt flag was down. -/
  | admitted
  /-- The token stopped the work, and the halt flag is to be raised. -/
  | stopping (reason : Interrupt)
  /-- The token let the work go on. -/
  | cleared
  /-- The scope is open. -/
  | opened (scope : TimingScope)
  /-- The parser is built. -/
  | built (scope : TimingScope)
  /-- The tree is there, and some diagnostics are still to be reported. -/
  | reporting (scope : TimingScope) (tree : SyntaxTree) (remaining : List Diagnostic)
  /-- The unit has failed or got its tree, and the scope is to be closed. -/
  | closing (scope : TimingScope) (failure : Option UnitFailure)
  /-- The failure was fatal, and the halt flag is to be raised. -/
  | halting (failure : UnitFailure)
  /-- Nothing is left to do. -/
  | done (outcome : Outcome)
  deriving DecidableEq, Repr

namespace Progress

/-- The phases that are still to come. -/
def rank : Progress → Nat
  | .waiting => 8
  | .admitted => 7
  | .cleared => 6
  | .opened _ => 5
  | .built _ => 4
  | .reporting _ _ _ => 3
  | .closing _ _ => 2
  | .stopping _ => 1
  | .halting _ => 1
  | .done _ => 0

/-- The diagnostics that are still to be reported. -/
def backlog : Progress → Nat
  | .reporting _ _ remaining => remaining.length
  | _ => 0

end Progress

/-- A unit and how far the work on it has come. -/
structure Task where
  unit : CompilationUnit
  progress : Progress := .waiting
  deriving DecidableEq, Repr

/-- What the tasks of a batch share. -/
structure Shared where
  services : Services
  halted : Bool := false

/-- Whether a failure of a unit raises the halt flag. -/
def halts (stage : ParseStage) : UnitFailure → Bool
  | .rejected error => stage.isFatal error
  | .unlocatable => true

namespace Task

/-- The task with its work come further. -/
def advance (task : Task) (progress : Progress) : Task :=
  { task with progress := progress }

/-- The next step of the work on a unit. -/
def step (stage : ParseStage) (token : CancelToken) (task : Task) (shared : Shared) :
    Task × Shared :=
  match task.progress with
  | .waiting => (task.advance (if shared.halted then .done .skipped else .admitted), shared)
  | .admitted =>
    let next := match shared.services.poll token with
      | some reason => Progress.stopping reason
      | none => .cleared
    (task.advance next, { shared with services := shared.services.tick })
  | .stopping reason => (task.advance (.done (.interrupted reason)), { shared with halted := true })
  | .cleared =>
    (task.advance (.opened ⟨shared.services.now⟩), { shared with services := shared.services.tick })
  | .opened scope =>
    (task.advance (.built scope),
      { shared with services := stage.build task.unit.source shared.services })
  | .built scope =>
    let next := match stage.attempt (shared.services.poll token) task.unit.source with
      | .ok (tree, diagnostics) => Progress.reporting scope tree diagnostics
      | .error failure => .closing scope (some failure)
    (task.advance next, { shared with services := shared.services.tick })
  | .reporting scope tree (diagnostic :: remaining) =>
    (task.advance (.reporting scope tree remaining),
      { shared with services := shared.services.report diagnostic })
  | .reporting scope tree [] =>
    ({ unit := task.unit.withTree tree, progress := .closing scope none }, shared)
  | .closing scope failure =>
    let next := match failure with
      | none => Progress.done .parsed
      | some failure => if stage.halts failure then .halting failure else .done (.failed failure)
    (task.advance next,
      { shared with
        services := shared.services.finish scope (label task.unit.source failure.isNone) })
  | .halting failure => (task.advance (.done (.failed failure)), { shared with halted := true })
  | .done outcome => (task.advance (.done outcome), shared)

/-- Whether nothing is left to do. -/
def isDone (task : Task) : Bool :=
  match task.progress with
  | .done _ => true
  | _ => false

theorem step_decreases (stage : ParseStage) (token : CancelToken) (task : Task)
    (shared : Shared) (busy : task.isDone = false) :
    Prod.Lex (· < ·) (· < ·)
      ((task.step stage token shared).1.progress.rank,
        (task.step stage token shared).1.progress.backlog)
      (task.progress.rank, task.progress.backlog) := by
  obtain ⟨unit, progress⟩ := task
  cases progress with
  | waiting =>
    simp only [step, advance]
    split <;> exact .left _ _ (by simp [Progress.rank])
  | admitted =>
    simp only [step, advance]
    split <;> exact .left _ _ (by simp [Progress.rank])
  | stopping reason => exact .left _ _ (by simp [step, advance, Progress.rank])
  | cleared => exact .left _ _ (by simp [step, advance, Progress.rank])
  | opened scope => exact .left _ _ (by simp [step, advance, Progress.rank])
  | built scope =>
    simp only [step, advance]
    split <;> exact .left _ _ (by simp [Progress.rank])
  | reporting scope tree remaining =>
    cases remaining with
    | nil => exact .left _ _ (by simp [step, Progress.rank])
    | cons diagnostic rest => exact .right _ (Nat.lt_succ_self _)
  | closing scope failure =>
    simp only [step, advance]
    split
    · exact .left _ _ (by simp [Progress.rank])
    · split <;> exact .left _ _ (by simp [Progress.rank])
  | halting failure => exact .left _ _ (by simp [step, advance, Progress.rank])
  | done outcome => simp [isDone] at busy

/-- Take a task to its end without a pause. -/
def complete (stage : ParseStage) (token : CancelToken) (task : Task) (shared : Shared) :
    Task × Shared :=
  if busy : task.isDone = false then
    have := step_decreases stage token task shared busy
    complete stage token (task.step stage token shared).1 (task.step stage token shared).2
  else (task, shared)
termination_by (task.progress.rank, task.progress.backlog)
decreasing_by exact this

end Task

/-- The tasks of a batch and what they share. -/
structure Pool where
  tasks : List Task
  shared : Shared

namespace Pool

/-- The pool before any work on a batch. -/
def ofUnits (units : List CompilationUnit) (services : Services) : Pool where
  tasks := units.map ({ unit := · })
  shared := { services := services }

/-- The pool after a step of the task at a position. -/
def step (stage : ParseStage) (token : CancelToken) (position : Nat) (pool : Pool) : Pool :=
  match pool.tasks[position]? with
  | none => pool
  | some task =>
    let (task, shared) := task.step stage token pool.shared
    { tasks := pool.tasks.set position task, shared := shared }

/-- Whether no task has anything left to do. -/
def isDone (pool : Pool) : Bool :=
  pool.tasks.all (·.isDone)

/-- The pool after the task at a position has been taken to its end. -/
def completeAt (stage : ParseStage) (token : CancelToken) (pool : Pool) (position : Nat) : Pool :=
  match pool.tasks[position]? with
  | none => pool
  | some task =>
    let (task, shared) := task.complete stage token pool.shared
    { tasks := pool.tasks.set position task, shared := shared }

/-- The pool once the tasks at some positions have been completed one after the other. -/
def inTurn (stage : ParseStage) (token : CancelToken) (order : List Nat) (pool : Pool) : Pool :=
  order.foldl (completeAt stage token) pool

/-- The outcomes of some tasks, gathered in order. -/
def gather (stage : ParseStage) : List Task → Services → Walk
  | [], services => { units := [], services := services }
  | task :: rest, services =>
    match task.progress with
    | .done (.interrupted reason) =>
      { units := task.unit :: rest.map (·.unit), services := services,
        stopped := some (stage.interrupted task.unit.source reason) }
    | .done (.failed failure) =>
      let visited := stage.settle task.unit failure services
      match visited.verdict with
      | .parsed => (gather stage rest visited.services).withUnit visited.unit
      | .collected => (gather stage rest visited.services).withFailure visited.unit
      | .stopped error =>
        { units := visited.unit :: rest.map (·.unit), services := visited.services,
          stopped := some error }
    | _ => (gather stage rest services).withUnit task.unit

/-- What a pool without work left comes to. -/
def conclude (stage : ParseStage) (pool : Pool) : Walk :=
  gather stage pool.tasks pool.shared.services

end Pool

/-- The elements of two lists in turns, beginning with the first list. -/
def alternate {α : Type} : List α → List α → List α
  | [], others => others
  | first :: rest, [] => first :: rest
  | first :: rest, other :: others => first :: other :: alternate rest others

/-- The order in which some workers complete the units of a batch. -/
def turns (workers count : Nat) : List Nat :=
  if workers ≤ 1 then List.range count
  else alternate (List.range (count / 2)) (List.range' (count / 2) (count - count / 2))

/-- Apply the stage to a batch. -/
def apply (stage : ParseStage) (units : List CompilationUnit) (services : Services) : Walk :=
  let token := stage.deadlineToken services.now
  match stage.options.mode with
  | .sequential => stage.walk token units services.tick
  | .parallel =>
    if services.startsWorkers stage.options.workers then
      let order := turns stage.options.workers.toNat units.length
      ((Pool.ofUnits units services.tick).inTurn stage token order).conclude stage
    else .unstarted units services.tick

theorem apply_of_started {stage : ParseStage} {services : Services}
    (parallel : stage.options.mode = .parallel)
    (started : services.startsWorkers stage.options.workers = true)
    (units : List CompilationUnit) :
    stage.apply units services =
      ((Pool.ofUnits units services.tick).inTurn stage (stage.deadlineToken services.now)
        (turns stage.options.workers.toNat units.length)).conclude stage := by
  simp only [apply, parallel, started, if_true]

theorem apply_of_not_started {stage : ParseStage} {services : Services}
    (parallel : stage.options.mode = .parallel)
    (refused : services.startsWorkers stage.options.workers = false)
    (units : List CompilationUnit) :
    stage.apply units services = .unstarted units services.tick := by
  simp only [apply, parallel, refused, Bool.false_eq_true, if_false]

end ParseStage

end StagePipeline
