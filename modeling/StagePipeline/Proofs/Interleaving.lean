import StagePipeline.Stage.Workers

/-!
# Interleavings of the workers

While workers are at a batch, the next thing to happen is a step of one task or
the cancellation of some tokens by somebody else.  A run is a list of such events,
so a statement about all lists of events is one about every number of workers and
every order in which their steps can fall.  `Pool.calls` is the record of a run:
which parsers were called, in which order, and what they answered.

An application whose workers have started comes to the conclusion of a pool in which
nothing is left to do.  `exists_interleaved` says that every run can be continued to
that point, and `exists_interleaved_apply` that the order in which `apply` completes
the units is one of the runs.
-/

namespace StagePipeline

open Program

namespace ParseStage

/-- What can happen next while workers are at a batch. -/
inductive Event where
  /-- A worker takes the next step of the task at a position. -/
  | work (position : Nat)
  /-- Somebody else cancels a family of tokens. -/
  | cancel (family : Nat)
  deriving DecidableEq, Repr

/-- A parser that was called: the position and the source of its unit, and its answer. -/
structure Call where
  position : Nat
  source : SourceFile
  answer : Except SyntaxError ParseOutput

variable (stage : ParseStage) (token : CancelToken)

/-- The answer of the parser of a unit, if the next step of its task is to call it. -/
def Task.answer? (task : Task) (shared : Shared) : Option (Except SyntaxError ParseOutput) :=
  match task.progress with
  | .built _ => some (stage.factory.parse (shared.services.poll token) task.unit.source)
  | _ => none

namespace Pool

/-- The pool after one event. -/
def act (pool : Pool) : Event → Pool
  | .work position => pool.step stage token position
  | .cancel family =>
    { pool with shared.services.cancelled := family :: pool.shared.services.cancelled }

/-- The call that is made at one event, if there is one. -/
def called (pool : Pool) : Event → List Call
  | .work position =>
    match pool.tasks[position]? with
    | none => []
    | some task =>
      (task.answer? stage token pool.shared).toList.map fun answer =>
        ⟨position, task.unit.source, answer⟩
  | .cancel _ => []

/-- The pool after some events. -/
def run (pool : Pool) : List Event → Pool
  | [] => pool
  | event :: rest => (pool.act stage token event).run rest

/-- The calls that are made at some events, in order. -/
def calls (pool : Pool) : List Event → List Call
  | [] => []
  | event :: rest => pool.called stage token event ++ (pool.act stage token event).calls rest

end Pool

/-- What an application comes to whose workers have started, if the events happen in this order. -/
def Interleaved (batch : List CompilationUnit) (services : Services) (events : List Event)
    (walk : Walk) : Prop :=
  let pool := (Pool.ofUnits batch services.tick).run stage (stage.deadlineToken services.now) events
  pool.isDone = true ∧ walk = pool.conclude stage

variable {stage token}

namespace Pool

/-! ### Runs -/

theorem run_append (pool : Pool) (events later : List Event) :
    pool.run stage token (events ++ later) =
      (pool.run stage token events).run stage token later := by
  induction events generalizing pool with
  | nil => rfl
  | cons event rest inductive_hypothesis => exact inductive_hypothesis _

/-- What every event keeps, of a pool and the calls made so far, is kept by a run. -/
theorem run_induction {motive : Pool → List Call → Prop} {events : List Event}
    (keeps : ∀ pool calls, ∀ event ∈ events, motive pool calls →
      motive (pool.act stage token event) (calls ++ pool.called stage token event))
    {pool : Pool} (calls : List Call) (start : motive pool calls) :
    motive (pool.run stage token events) (calls ++ pool.calls stage token events) := by
  induction events generalizing pool calls with
  | nil => simpa [run, Pool.calls] using start
  | cons event rest inductive_hypothesis =>
    rw [run, Pool.calls, ← List.append_assoc]
    apply inductive_hypothesis
    · exact fun pool calls later member => keeps pool calls later (List.mem_cons_of_mem _ member)
    · exact keeps pool calls event List.mem_cons_self start

/-- What every event keeps of a pool is kept by a run. -/
theorem run_invariant {motive : Pool → Prop} {events : List Event}
    (keeps : ∀ pool, ∀ event ∈ events, motive pool → motive (pool.act stage token event))
    {pool : Pool} (start : motive pool) : motive (pool.run stage token events) :=
  run_induction (motive := fun pool _ => motive pool) (fun pool _ => keeps pool) [] start

theorem step_of_getElem? {pool : Pool} {position : Nat} {task : Task}
    (found : pool.tasks[position]? = some task) :
    pool.step stage token position =
      { tasks := pool.tasks.set position (task.step stage token pool.shared).1,
        shared := (task.step stage token pool.shared).2 } := by
  simp only [step, found]

theorem step_of_getElem?_eq_none {pool : Pool} {position : Nat}
    (missing : pool.tasks[position]? = none) : pool.step stage token position = pool := by
  simp only [step, missing]

theorem completeAt_of_getElem? {pool : Pool} {position : Nat} {task : Task}
    (found : pool.tasks[position]? = some task) :
    pool.completeAt stage token position =
      { tasks := pool.tasks.set position (task.complete stage token pool.shared).1,
        shared := (task.complete stage token pool.shared).2 } := by
  simp only [completeAt, found]

theorem getElem?_completeAt_ne {pool : Pool} {position other : Nat} (different : position ≠ other) :
    (pool.completeAt stage token position).tasks[other]? = pool.tasks[other]? := by
  cases found : pool.tasks[position]? with
  | none => simp only [completeAt, found]
  | some task =>
    rw [completeAt_of_getElem? found]
    exact List.getElem?_set_ne different

theorem isDone_iff {pool : Pool} :
    pool.isDone = true ↔
      ∀ (position : Nat) (task : Task), pool.tasks[position]? = some task →
        task.isDone = true := by
  rw [isDone, List.all_eq_true]
  constructor
  · intro all position task found
    exact all task (List.mem_of_getElem? found)
  · intro all task member
    rcases List.mem_iff_getElem?.1 member with ⟨position, found⟩
    exact all position task found

/-! ### Completing tasks is a run -/

theorem complete_isDone (task : Task) (shared : Shared) :
    (task.complete stage token shared).1.isDone = true := by
  induction task, shared using Task.complete.induct stage token with
  | case1 task shared busy _ inductive_hypothesis =>
    rw [Task.complete, dif_pos busy]
    exact inductive_hypothesis
  | case2 task shared done =>
    rw [Task.complete, dif_neg done]
    exact Bool.of_not_eq_false done

-- The induction is on `Task.complete`: each of its steps is one more event in front.
theorem exists_run_complete {task : Task} {shared : Shared} (position : Nat) :
    ∀ tasks : List Task, tasks[position]? = some task →
      ∃ count, Pool.run stage token ⟨tasks, shared⟩ (List.replicate count (.work position)) =
        ⟨tasks.set position (task.complete stage token shared).1,
          (task.complete stage token shared).2⟩ := by
  induction task, shared using Task.complete.induct stage token with
  | case1 task shared busy _ inductive_hypothesis =>
    intro tasks found
    have within : position < tasks.length := (List.getElem?_eq_some_iff.1 found).1
    rcases inductive_hypothesis (tasks.set position (task.step stage token shared).1)
      (List.getElem?_set_self within) with ⟨count, ran⟩
    have stepped : Pool.step stage token position ⟨tasks, shared⟩ =
        ⟨tasks.set position (task.step stage token shared).1,
          (task.step stage token shared).2⟩ := step_of_getElem? found
    refine ⟨count + 1, ?_⟩
    rw [Task.complete, dif_pos busy, List.replicate_succ, run, act, stepped, ran, List.set_set]
  | case2 task shared done =>
    intro tasks found
    refine ⟨0, ?_⟩
    rcases List.getElem?_eq_some_iff.1 found with ⟨within, rfl⟩
    rw [Task.complete, dif_neg done, List.set_getElem_self]
    rfl

theorem exists_run_completeAt (stage : ParseStage) (token : CancelToken) (pool : Pool)
    (position : Nat) :
    ∃ events, (∀ event ∈ events, ∃ position, event = .work position) ∧
      pool.run stage token events = pool.completeAt stage token position := by
  cases found : pool.tasks[position]? with
  | none =>
    refine ⟨[], by simp, ?_⟩
    simp only [completeAt, found]
    rfl
  | some task =>
    rcases exists_run_complete position pool.tasks found with ⟨count, completed⟩
    refine ⟨List.replicate count (.work position), ?_, ?_⟩
    · exact fun event member => ⟨position, List.eq_of_mem_replicate member⟩
    · exact completed.trans (completeAt_of_getElem? found).symm

theorem exists_run_inTurn (stage : ParseStage) (token : CancelToken) (order : List Nat)
    (pool : Pool) :
    ∃ events, (∀ event ∈ events, ∃ position, event = .work position) ∧
      pool.run stage token events = pool.inTurn stage token order := by
  induction order generalizing pool with
  | nil => exact ⟨[], by simp, rfl⟩
  | cons first rest inductive_hypothesis =>
    rcases exists_run_completeAt stage token pool first with ⟨events, work, completed⟩
    rcases inductive_hypothesis (pool.completeAt stage token first) with ⟨later, laterWork, ran⟩
    refine ⟨events ++ later, ?_, ?_⟩
    · intro event member
      rcases List.mem_append.1 member with early | late
      · exact work event early
      · exact laterWork event late
    · rw [run_append, completed, ran]
      rfl

theorem inTurn_append_cons (pool : Pool) (first : List Nat) (position : Nat) (rest : List Nat) :
    pool.inTurn stage token (first ++ position :: rest) =
      ((pool.inTurn stage token first).completeAt stage token position).inTurn stage token
        rest := by
  simp only [inTurn, List.foldl_append, List.foldl_cons]

/-- A task whose turn does not come stays as it is. -/
theorem getElem?_inTurn_of_notMem {order : List Nat} {pool : Pool} {position : Nat}
    (notInTurn : position ∉ order) :
    (pool.inTurn stage token order).tasks[position]? = pool.tasks[position]? := by
  induction order generalizing pool with
  | nil => rfl
  | cons first rest inductive_hypothesis =>
    rcases not_or.1 (mt List.mem_cons.2 notInTurn) with ⟨other, later⟩
    exact (inductive_hypothesis later).trans (getElem?_completeAt_ne (Ne.symm other))

/-- A task whose turn has come is done, and every other one is untouched. -/
theorem tasks_inTurn {order : List Nat} {pool : Pool} {position : Nat} {task : Task}
    (found : (pool.inTurn stage token order).tasks[position]? = some task) :
    position ∈ order ∧ task.isDone = true ∨
      position ∉ order ∧ pool.tasks[position]? = some task := by
  induction order generalizing pool with
  | nil => exact .inr ⟨List.not_mem_nil, found⟩
  | cons first rest inductive_hypothesis =>
    rcases inductive_hypothesis found with ⟨later, done⟩ | ⟨notLater, here⟩
    · exact .inl ⟨List.mem_cons_of_mem _ later, done⟩
    · by_cases same : first = position
      · subst same
        cases turn : pool.tasks[first]? with
        | none =>
          rw [completeAt, turn] at here
          exact absurd (turn.symm.trans here) (Option.some_ne_none task).symm
        | some other =>
          rw [completeAt_of_getElem? turn,
            List.getElem?_set_self (List.getElem?_eq_some_iff.1 turn).1] at here
          rw [← Option.some.inj here]
          exact .inl ⟨List.mem_cons_self, complete_isDone other pool.shared⟩
      · rw [getElem?_completeAt_ne same] at here
        refine .inr ⟨?_, here⟩
        rintro (_ | ⟨_, later⟩)
        · exact same rfl
        · exact notLater later

/-- Once every position has had its turn, nothing is left to do. -/
theorem isDone_inTurn {order : List Nat} {pool : Pool}
    (covers : ∀ position task, pool.tasks[position]? = some task → position ∈ order) :
    (pool.inTurn stage token order).isDone = true := by
  refine isDone_iff.2 fun position task found => ?_
  rcases tasks_inTurn found with ⟨-, done⟩ | ⟨missed, here⟩
  · exact done
  · exact absurd (covers position task here) missed

end Pool

/-! ### Applications -/

theorem mem_alternate {α : Type} {element : α} (first second : List α) :
    element ∈ alternate first second ↔ element ∈ first ∨ element ∈ second := by
  induction first generalizing second with
  | nil => simp [alternate]
  | cons head rest inductive_hypothesis =>
    cases second with
    | nil => simp [alternate]
    | cons other others =>
      simp only [alternate, List.mem_cons, inductive_hypothesis]
      constructor
      · rintro (rfl | rfl | member | member) <;> simp [*]
      · rintro ((rfl | member) | rfl | member) <;> simp [*]

theorem mem_turns {workers count position : Nat} (within : position < count) :
    position ∈ turns workers count := by
  rw [turns]
  split
  · exact List.mem_range.2 within
  · rw [mem_alternate, List.mem_range, List.mem_range'_1]
    omega

variable {batch : List CompilationUnit} {services : Services}

/-- Whatever has happened so far, the workers can come to the end of a batch. -/
theorem exists_interleaved (stage : ParseStage) (batch : List CompilationUnit)
    (services : Services) (events : List Event) :
    ∃ later walk, (∀ event ∈ later, ∃ position, event = .work position) ∧
      stage.Interleaved batch services (events ++ later) walk := by
  let token := stage.deadlineToken services.now
  let pool := (Pool.ofUnits batch services.tick).run stage token events
  rcases Pool.exists_run_inTurn stage token (List.range pool.tasks.length) pool with
    ⟨later, work, ran⟩
  refine ⟨later, _, work, ?_, rfl⟩
  rw [Pool.run_append, ran]
  refine Pool.isDone_inTurn fun position task found => ?_
  exact List.mem_range.2 (List.getElem?_eq_some_iff.1 found).1

/-- If the workers start, the order in which `apply` completes the units is one of the
interleavings. -/
theorem exists_interleaved_apply (parallel : stage.options.mode = .parallel)
    (started : services.startsWorkers stage.options.workers = true) :
    ∃ events, (∀ event ∈ events, ∃ position, event = .work position) ∧
      stage.Interleaved batch services events (stage.apply batch services) := by
  let token := stage.deadlineToken services.now
  let order := turns stage.options.workers.toNat batch.length
  rcases Pool.exists_run_inTurn stage token order (Pool.ofUnits batch services.tick) with
    ⟨events, work, ran⟩
  refine ⟨events, work, ?_, ?_⟩
  · rw [ran]
    refine Pool.isDone_inTurn fun position task found => mem_turns ?_
    simpa [Pool.ofUnits] using (List.getElem?_eq_some_iff.1 found).1
  · rw [ran, apply_of_started parallel started]

end ParseStage

end StagePipeline
