import StagePipeline.Proofs.PoolInvariant

/-!
# What a parallel application accounts for

Outcomes that are skipped leave no trace when the outcomes are gathered, so an
application with workers could pass over a unit and still succeed.  It does not:
a task is skipped only under the halt flag, the flag is up only when some task has
ended fatally, and a fatal end stops the gathering.  Together with the record of
calls this says of every unit what became of it, whatever the workers did and
whoever cancelled in the meantime.
-/

namespace StagePipeline

open Program

namespace ParseStage

variable {stage : ParseStage} {token : CancelToken}

namespace Walk

theorem stopped_of_error? {walk : Walk} {error : StageError}
    (single : ∀ names, error ≠ .failures names) (fails : walk.error? = some error) :
    walk.stopped = some error := by
  rw [error?] at fails
  cases stopped : walk.stopped with
  | some other => rwa [stopped] at fails
  | none =>
    simp only [stopped] at fails
    split at fails
    · exact absurd fails (Option.some_ne_none error).symm
    · exact absurd (Option.some.inj fails).symm (single walk.failed)

theorem failed_of_error? {walk : Walk} {names : List String}
    (collected : walk.stopped ≠ some (.failures names))
    (fails : walk.error? = some (.failures names)) : names = walk.failed := by
  rw [error?] at fails
  cases stopped : walk.stopped with
  | some other =>
    rw [stopped] at fails
    exact absurd (stopped.trans fails) collected
  | none =>
    simp only [stopped] at fails
    split at fails
    · exact absurd fails (Option.some_ne_none _).symm
    · exact (StageError.failures.inj (Option.some.inj fails)).symm

end Walk

/-! ### Gathering -/

namespace Task

/-- What the outcome of one task comes to when the outcomes are gathered. -/
def judged (stage : ParseStage) (task : Task) (services : Services) : Visit :=
  match task.progress with
  | .done (.interrupted reason) =>
    ⟨.stopped (stage.interrupted task.unit.source reason), task.unit, services⟩
  | .done (.failed failure) => stage.settle task.unit failure services
  | _ => ⟨.parsed, task.unit, services⟩

/-- The task came to an end without a tree for its unit, and this is why. -/
def FailedWith (task : Task) (failure : UnitFailure) : Prop :=
  task.progress = .done (.failed failure)

/-- The three ways in which the outcome of a task can be judged. -/
theorem judged_cases (stage : ParseStage) (task : Task) (services : Services) :
    (task.judged stage services = ⟨.parsed, task.unit, services⟩ ∧
      task.isFatal stage = false ∧ ∀ failure, ¬ task.FailedWith failure) ∨
    (∃ failure diagnostic,
      task.judged stage services = ⟨.collected, task.unit, services.report diagnostic⟩ ∧
        task.FailedWith failure ∧ stage.halts failure = false) ∨
    ∃ error, task.judged stage services = ⟨.stopped error, task.unit, services⟩ ∧
      (∀ names, error ≠ .failures names) ∧
      ∀ name problem, error = .parse name problem →
        task.unit.source.name = name ∧ task.FailedWith (.rejected problem) := by
  obtain ⟨unit, progress⟩ := task
  cases progress with
  | done outcome =>
    cases outcome with
    | interrupted reason =>
      exact .inr (.inr ⟨_, rfl, by simp [interrupted], by simp [interrupted]⟩)
    | failed failure =>
      cases failure with
      | unlocatable => exact .inr (.inr ⟨_, rfl, by simp, by simp⟩)
      | rejected error =>
        cases fatal : stage.isFatal error with
        | true =>
          refine .inr (.inr
            ⟨stage.failure unit.source error, by simp [judged, settle, fatal], ?_, ?_⟩)
          · intro names
            cases error <;> simp [failure, SyntaxError.interrupt?, interrupted]
          · intro name problem same
            cases error <;>
              simp_all [failure, SyntaxError.interrupt?, interrupted, FailedWith]
        | false =>
          cases located : stage.diagnostic? unit.source error with
          | none =>
            refine .inr (.inr ⟨.unlocatable unit.source.name, ?_, by simp, by simp⟩)
            simp [judged, settle, fatal, located]
          | some diagnostic =>
            refine .inr (.inl ⟨.rejected error, diagnostic, ?_, rfl, fatal⟩)
            simp [judged, settle, fatal, located]
    | _ => exact .inl ⟨rfl, rfl, by simp [FailedWith]⟩
  | _ => exact .inl ⟨rfl, rfl, by simp [FailedWith]⟩

end Task

namespace Pool

theorem gather_cons (task : Task) (rest : List Task) (services : Services) :
    gather stage (task :: rest) services =
      let visited := task.judged stage services
      match visited.verdict with
      | .parsed => (gather stage rest visited.services).withUnit visited.unit
      | .collected => (gather stage rest visited.services).withFailure visited.unit
      | .stopped error =>
        { units := visited.unit :: rest.map (·.unit), services := visited.services,
          stopped := some error } := by
  obtain ⟨unit, progress⟩ := task
  cases progress with
  | done outcome => cases outcome <;> rfl
  | _ => rfl

/-- What gathering takes from the tasks, and what it cannot pass over. -/
structure Gathered (stage : ParseStage) (tasks : List Task) (services : Services)
    (walk : Walk) : Prop where
  units : walk.units = tasks.map (·.unit)
  grown : ∃ diagnostics, services.Grows walk.services [] diagnostics
  stopped : ∀ name error, walk.stopped = some (.parse name error) →
    ∃ task ∈ tasks, task.unit.source.name = name ∧ task.FailedWith (.rejected error)
  notCollected : ∀ names, walk.stopped ≠ some (.failures names)
  failed : ∀ name ∈ walk.failed,
    ∃ task ∈ tasks, task.unit.source.name = name ∧ ∃ failure, task.FailedWith failure
  complete : walk.error? = none →
    ∀ task ∈ tasks, task.isFatal stage = false ∧ ∀ failure, ¬ task.FailedWith failure

namespace Gathered

variable {tasks : List Task} {task : Task} {services : Services} {walk : Walk}

/-- A task that leaves nothing to be said adds its unit. -/
theorem withUnit (later : Gathered stage tasks services walk)
    (harmless : task.isFatal stage = false) (succeeded : ∀ failure, ¬ task.FailedWith failure) :
    Gathered stage (task :: tasks) services (walk.withUnit task.unit) where
  units := congrArg (task.unit :: ·) later.units
  grown := later.grown
  stopped name error stopped := List.exists_mem_cons_of_exists (later.stopped name error stopped)
  notCollected := later.notCollected
  failed name member := List.exists_mem_cons_of_exists (later.failed name member)
  complete succeeds := List.forall_mem_cons.2 ⟨⟨harmless, succeeded⟩, later.complete succeeds⟩

/-- A failure that is collected is reported, and with it the application does not succeed. -/
theorem withFailure {diagnostic : Diagnostic} {failure : UnitFailure}
    (later : Gathered stage tasks (services.report diagnostic) walk)
    (failed : task.FailedWith failure) :
    Gathered stage (task :: tasks) services (walk.withFailure task.unit) where
  units := congrArg (task.unit :: ·) later.units
  grown := by
    rcases later.grown with ⟨diagnostics, grown⟩
    exact ⟨_, (Services.Grows.report services diagnostic).trans grown⟩
  stopped name error stopped := List.exists_mem_cons_of_exists (later.stopped name error stopped)
  notCollected := later.notCollected
  failed name member := by
    rcases List.mem_cons.1 member with rfl | member
    · exact ⟨task, List.mem_cons_self, rfl, failure, failed⟩
    · exact List.exists_mem_cons_of_exists (later.failed name member)
  complete succeeds := by
    cases stopped : walk.stopped <;> simp [Walk.error?, Walk.withFailure, stopped] at succeeds

/-- A task that ends the gathering is the cause of its error. -/
theorem stopping {error : StageError} (notCollected : ∀ names, error ≠ .failures names)
    (cause : ∀ name problem, error = .parse name problem →
      task.unit.source.name = name ∧ task.FailedWith (.rejected problem)) :
    Gathered stage (task :: tasks) services
      { units := task.unit :: tasks.map (·.unit), services := services, stopped := some error } where
  units := rfl
  grown := ⟨[], .refl services⟩
  stopped name problem stopped :=
    ⟨task, List.mem_cons_self, cause name problem (Option.some.inj stopped)⟩
  notCollected names stopped := notCollected names (Option.some.inj stopped)
  failed _ member := absurd member List.not_mem_nil
  complete succeeds := absurd succeeds (Option.some_ne_none error)

end Gathered

theorem gathered_gather (stage : ParseStage) (tasks : List Task) (services : Services) :
    Gathered stage tasks services (gather stage tasks services) := by
  induction tasks generalizing services with
  | nil =>
    exact ⟨rfl, ⟨[], .refl services⟩, by simp [gather], by simp [gather], by simp [gather], by simp⟩
  | cons task rest inductive_hypothesis =>
    rw [gather_cons]
    rcases task.judged_cases stage services with
      ⟨judged, harmless, succeeded⟩ | ⟨failure, diagnostic, judged, failed, -⟩ |
      ⟨error, judged, notCollected, cause⟩
    · rw [judged]
      exact (inductive_hypothesis services).withUnit harmless succeeded
    · rw [judged]
      exact (inductive_hypothesis (services.report diagnostic)).withFailure failed
    · rw [judged]
      exact .stopping notCollected cause

end Pool

/-! ### A pool in which nothing is left to do -/

theorem Task.Fits.unit_of_isDone {unit : CompilationUnit} {task : Task}
    {answer? : Option (Except SyntaxError ParseOutput)} (fits : task.Fits stage unit answer?)
    (done : task.isDone = true) : task.unit = answer?.elim unit unit.receive := by
  have ended := fits.ended done
  cases answer? with
  | none => rcases ended with rfl | ⟨reason, rfl⟩ <;> rfl
  | some answer => cases answer <;> exact congrArg Task.unit ended

theorem Task.Fits.rejected_of_failedWith {unit : CompilationUnit} {task : Task}
    {answer? : Option (Except SyntaxError ParseOutput)} {failure : UnitFailure}
    (fits : task.Fits stage unit answer?) (failed : task.FailedWith failure) :
    ∃ error, answer? = some (.error error) ∧ failure = .rejected error := by
  obtain ⟨current, progress⟩ := task
  obtain rfl : progress = .done (.failed failure) := failed
  exact fits.2

theorem Task.owes_nothing {task : Task} (done : task.isDone = true) :
    task.owedLabels = [] ∧ task.owedDiagnostics = [] := by
  obtain ⟨unit, progress⟩ := task
  cases progress with
  | done outcome => exact ⟨rfl, rfl⟩
  | _ => simp [Task.isDone] at done

namespace Pool

/-- If no task tells of a failure, then none was skipped, and each has got its tree. -/
theorem HaltsForReason.exists_output {pool : Pool} (halts : pool.HaltsForReason stage)
    (harmless : ∀ task ∈ pool.tasks,
      task.isFatal stage = false ∧ ∀ failure, ¬ task.FailedWith failure)
    {task : Task} (among : task ∈ pool.tasks) {unit : CompilationUnit}
    {answer? : Option (Except SyntaxError ParseOutput)} (ended : task.Ended unit answer?) :
    ∃ output, answer? = some (.ok output) := by
  -- With no fatal task the flag has never been raised, and without it nothing is skipped.
  have down := halts.halted_eq_false fun task member => (harmless task member).1
  cases answer? with
  | none =>
    rcases ended with skipped | ⟨reason, interrupted⟩
    · exact absurd (congrArg Task.progress skipped) (halts.not_skipped down among)
    · have notFatal := (harmless task among).1
      rw [interrupted] at notFatal
      exact absurd notFatal.symm Bool.false_ne_true
  | some answer =>
    cases answer with
    | ok output => exact ⟨output, rfl⟩
    | error error => exact absurd (congrArg Task.progress ended) ((harmless task among).2 _)

section Done

variable {batch : List CompilationUnit} {before : Session} {pool : Pool} {calls : List Call}
  {allowed : SourceFile → Except SyntaxError ParseOutput → Prop}

theorem RecordedBy.exists_error (recorded : pool.RecordedBy allowed stage batch calls) {task : Task}
    {failure : UnitFailure} (member : task ∈ pool.tasks) (failed : task.FailedWith failure) :
    ∃ position unit error, batch[position]? = some unit ∧ unit.source = task.unit.source ∧
      answerAt calls position = some (.error error) ∧ failure = .rejected error := by
  rcases List.mem_iff_getElem?.1 member with ⟨position, found⟩
  rcases recorded.exists_unit found with ⟨unit, here, fits⟩
  rcases fits.rejected_of_failedWith failed with ⟨error, answered, rejected⟩
  exact ⟨position, unit, error, here, fits.source.symm, answered, rejected⟩

variable (done : pool.isDone = true)

include done

theorem RecordedBy.units_eq (recorded : pool.RecordedBy allowed stage batch calls) :
    pool.tasks.map (·.unit) =
      batch.mapIdx (fun position unit => (answerAt calls position).elim unit unit.receive) := by
  apply List.ext_getElem?
  intro position
  rw [List.getElem?_map, List.getElem?_mapIdx]
  cases found : pool.tasks[position]? with
  | none =>
    have beyond := List.getElem?_eq_none_iff.1 found
    rw [List.getElem?_eq_none (recorded.length ▸ beyond)]
    rfl
  | some task =>
    rcases recorded.exists_unit found with ⟨unit, here, fits⟩
    rw [here]
    exact congrArg some (fits.unit_of_isDone (isDone_iff.1 done position task found))

/-- Once nothing is left to do, everything that the calls gain has been recorded. -/
theorem Accounted.of_isDone (accounted : pool.Accounted stage before calls) :
    ∃ labels diagnostics,
      before.Grows pool.shared.services.session labels diagnostics ∧
      labels.Perm (calls.map fun call => label call.source call.answer.isOk) ∧
      diagnostics.Perm (calls.flatMap fun call => stage.recovered call.source call.answer) := by
  rcases accounted with ⟨labels, diagnostics, grown, labelled, reported⟩
  have ended : ∀ task ∈ pool.tasks, task.isDone = true := List.all_eq_true.1 done
  rw [List.flatMap_eq_nil_iff.2 fun task member => (Task.owes_nothing (ended task member)).1,
    List.append_nil] at labelled
  rw [List.flatMap_eq_nil_iff.2 fun task member => (Task.owes_nothing (ended task member)).2,
    List.append_nil] at reported
  exact ⟨labels, diagnostics, grown, labelled, reported⟩

theorem ConsistentBy.exists_output
    (consistent : pool.ConsistentBy allowed stage batch before calls)
    (harmless : ∀ task ∈ pool.tasks,
      task.isFatal stage = false ∧ ∀ failure, ¬ task.FailedWith failure)
    {position : Nat} (within : position < batch.length) :
    ∃ output, answerAt calls position = some (.ok output) := by
  have recorded := consistent.recorded
  have found := List.getElem?_eq_getElem (recorded.length.symm ▸ within)
  have here := List.getElem?_eq_getElem within
  have ended := (recorded.fits position _ _ here found).ended (isDone_iff.1 done _ _ found)
  exact consistent.halts.exists_output harmless (List.mem_of_getElem? found) ended

end Done

end Pool

/-! ### What a run leaves -/

/-- The family was cancelled before the run, by somebody else, or by the building of a parser. -/
def CancelledFor (stage : ParseStage) (batch : List CompilationUnit) (services : Services)
    (events : List Event) (family : Nat) : Prop :=
  family ∈ services.cancelled ∨ .cancel family ∈ events ∨
    family = stage.token.family ∧ ∃ unit ∈ batch, stage.factory.cancels unit.source = true

section Run

variable {batch : List CompilationUnit} {services : Services} {events : List Event} {walk : Walk}
  (placed : ∀ unit ∈ batch, ∀ signal,
    Placed unit.source (stage.factory.parse signal unit.source))

include placed

theorem cancelled_run (token : CancelToken) :
    let after := (Pool.ofUnits batch services).run stage token events
    services.cancelled ⊆ after.shared.services.cancelled ∧
      ∀ family ∈ after.shared.services.cancelled,
        stage.CancelledFor batch services events family := by
  have keeps : ∀ pool calls, ∀ event ∈ events,
      (Pool.Consistent stage batch services.session pool calls ∧
        services.cancelled ⊆ pool.shared.services.cancelled ∧
        ∀ family ∈ pool.shared.services.cancelled,
          stage.CancelledFor batch services events family) →
      (pool.act stage token event).Consistent stage batch services.session
          (calls ++ pool.called stage token event) ∧
        services.cancelled ⊆ (pool.act stage token event).shared.services.cancelled ∧
        ∀ family ∈ (pool.act stage token event).shared.services.cancelled,
          stage.CancelledFor batch services events family := by
    rintro pool calls event among ⟨consistent, kept, allowed⟩
    refine ⟨consistent.act placed event, ?_⟩
    cases event with
    | cancel other =>
      refine ⟨List.subset_cons_of_subset other kept, ?_⟩
      rintro family (_ | ⟨_, member⟩)
      · exact .inr (.inl among)
      · exact allowed family member
    | work position =>
      cases found : pool.tasks[position]? with
      | none =>
        rw [Pool.act, Pool.step_of_getElem?_eq_none found]
        exact ⟨kept, allowed⟩
      | some task =>
        rcases consistent.recorded.exists_unit found with ⟨unit, located, fits⟩
        rw [Pool.act, Pool.step_of_getElem? found]
        dsimp only
        rcases (task.services_step stage token pool.shared).1 with same | ⟨cancels, more⟩
        · rw [same]
          exact ⟨kept, allowed⟩
        · rw [more]
          refine ⟨List.subset_cons_of_subset _ kept, ?_⟩
          rintro family (_ | ⟨_, member⟩)
          · rw [fits.source] at cancels
            exact .inr (.inr ⟨rfl, unit, List.mem_of_getElem? located, cancels⟩)
          · exact allowed family member
  have start : Pool.Consistent stage batch services.session (Pool.ofUnits batch services) [] ∧
      services.cancelled ⊆ services.cancelled ∧
      ∀ family ∈ services.cancelled, stage.CancelledFor batch services events family :=
    ⟨Pool.consistent_ofUnits stage batch services, List.Subset.refl _, fun _ => .inl⟩
  exact (Pool.run_induction keeps [] start).2

/-! ### The account -/

/--
An application with workers, whatever they do and whoever cancels in the meantime,
calls the parser of each unit at most once and accounts for every call.  A unit
that was called for has the tree of the answer, or is unchanged if the answer was
an error, and every other unit is unchanged.  A successful application has called
for every unit and got a tree each time; a unit that it names as not parsed is one
whose parser answered with an error.  Each call leaves one time, under `parsed` or
`failed`, and nothing else does.  The shared scope is never touched, and no token
is cancelled by the stage itself.  What `apply` does with workers that start is one of
these runs, as `exists_interleaved_apply` says.
-/
theorem parallel_accounts_for_every_unit
    (interleaved : stage.Interleaved batch services events walk) :
    let token := stage.deadlineToken services.now
    let start := Pool.ofUnits batch services.tick
    let calls := start.calls stage token events
    (∀ call ∈ calls, call.IsGenuine stage batch) ∧
    (calls.map (·.position)).Nodup ∧
    walk.units = batch.mapIdx
      (fun position unit => (answerAt calls position).elim unit unit.receive) ∧
    (walk.error? = none →
      ∀ position < batch.length, ∃ output, answerAt calls position = some (.ok output)) ∧
    (∀ name error, walk.error? = some (.parse name error) →
      ∃ position unit, batch[position]? = some unit ∧ unit.source.name = name ∧
        answerAt calls position = some (.error error)) ∧
    (∀ names, walk.error? = some (.failures names) → ∀ name ∈ names,
      ∃ position unit error, batch[position]? = some unit ∧ unit.source.name = name ∧
        answerAt calls position = some (.error error)) ∧
    (∃ labels diagnostics,
      services.session.Grows walk.services.session labels diagnostics ∧
      labels.Perm (calls.map fun call => label call.source call.answer.isOk)) ∧
    (∀ count, (start.run stage token (events.take count)).shared.services.session.openedAt =
      services.session.openedAt) ∧
    services.cancelled ⊆ walk.services.cancelled ∧
    ∀ family ∈ walk.services.cancelled, stage.CancelledFor batch services events family := by
  intro token start calls
  rcases interleaved with ⟨finished, rfl⟩
  let pool := start.run stage token events
  have done : pool.isDone = true := finished
  have consistent : pool.Consistent stage batch services.session calls :=
    Pool.consistent_run placed services.tick events
  have recorded := consistent.recorded
  have gathered : Pool.Gathered stage pool.tasks pool.shared.services (pool.conclude stage) :=
    Pool.gathered_gather stage pool.tasks pool.shared.services
  refine ⟨recorded.genuine, recorded.once, ?_, ?_, ?_, ?_, ?_, ?_, ?_⟩
  · exact gathered.units.trans (recorded.units_eq done)
  · intro succeeds position within
    exact consistent.exists_output done (gathered.complete succeeds) within
  · intro name error stopped
    rcases gathered.stopped name error (Walk.stopped_of_error? (by simp) stopped) with
      ⟨task, member, named, failed⟩
    rcases recorded.exists_error member failed with
      ⟨position, unit, _, here, same, answered, rejected⟩
    obtain rfl := UnitFailure.rejected.inj rejected
    exact ⟨position, unit, here, same ▸ named, answered⟩
  · intro names collected name listed
    rw [Walk.failed_of_error? (gathered.notCollected names) collected] at listed
    rcases gathered.failed name listed with ⟨task, member, named, failure, failed⟩
    rcases recorded.exists_error member failed with ⟨position, unit, error, here, same, answered, -⟩
    exact ⟨position, unit, error, here, same ▸ named, answered⟩
  · rcases consistent.accounted.of_isDone done with ⟨labels, diagnostics, grown, labelled, -⟩
    rcases gathered.grown with ⟨collected, more⟩
    refine ⟨labels, diagnostics ++ collected, ?_, labelled⟩
    simpa using grown.trans more.session
  · intro count
    rcases (Pool.consistent_run placed services.tick (events.take count)).accounted with
      ⟨labels, diagnostics, grown, -⟩
    exact grown.scope
  · rcases gathered.grown with ⟨collected, more⟩
    rw [more.cancelled]
    have cancelled : services.tick.cancelled ⊆ pool.shared.services.cancelled ∧
        ∀ family ∈ pool.shared.services.cancelled,
          stage.CancelledFor batch services.tick events family := cancelled_run placed token
    exact cancelled

end Run

/--
Four units under fail-fast.  The second fails while the third is being parsed, the
fourth is skipped, and somebody cancels the token when nothing is left to stop.
-/
theorem parallel_accounts_for_skipped_unit :
    let tree : SyntaxTree := ⟨[.bare (.number 1 (.ofLength 0 1))]⟩
    let parse : SourceFile → Except SyntaxError ParseOutput := fun source =>
      if source.name = "b.st" then .error (.invalid "odd" (.empty 0)) else .ok ⟨tree, []⟩
    let stage : ParseStage :=
      { phase := ⟨"parse", 1⟩, factory := .ofFunction parse, token := ⟨0, none⟩ }
    let batch : List CompilationUnit :=
      [⟨⟨"a.st", "1"⟩, .unparsed⟩, ⟨⟨"b.st", "2"⟩, .parsed tree⟩, ⟨⟨"c.st", "3"⟩, .unparsed⟩,
        ⟨⟨"d.st", "4"⟩, .unparsed⟩]
    let services : Services := {}
    let start := Pool.ofUnits batch services.tick
    let events : List Event :=
      List.replicate 8 (.work 0) ++ List.replicate 5 (.work 2) ++ List.replicate 7 (.work 1) ++
        [.work 3, .cancel 0] ++ List.replicate 3 (.work 2)
    let walk := (start.run stage (stage.deadlineToken services.now) events).conclude stage
    (∀ unit ∈ batch, ∀ signal, Placed unit.source (stage.factory.parse signal unit.source)) ∧
      stage.Interleaved batch services events walk ∧
      walk.error? = some (.parse "b.st" (.invalid "odd" (.empty 0))) ∧
      walk.units = [⟨⟨"a.st", "1"⟩, .parsed tree⟩, ⟨⟨"b.st", "2"⟩, .parsed tree⟩,
        ⟨⟨"c.st", "3"⟩, .parsed tree⟩, ⟨⟨"d.st", "4"⟩, .unparsed⟩] ∧
      walk.services.session.labels.Perm ["parsed a.st", "parsed c.st", "failed b.st"] ∧
      walk.services.session.isTiming = false := by
  intro tree parse stage batch services start events walk
  have atStart : ∀ unit ∈ batch, ∀ error ∈ reportedErrors (parse unit.source),
      error.offset?.getD 0 = 0 := by
    decide +kernel
  have placed : ∀ unit ∈ batch, ∀ signal,
      Placed unit.source (stage.factory.parse signal unit.source) :=
    fun unit member _ => .of_start (atStart unit member)
  have interleaved : stage.Interleaved batch services events walk := by
    constructor
    · decide +kernel
    · rfl
  rcases parallel_accounts_for_every_unit placed interleaved with
    ⟨-, -, units, -, -, -, ⟨labels, diagnostics, grown, labelled⟩, -⟩
  have received : batch.mapIdx (fun position unit =>
      (answerAt (start.calls stage (stage.deadlineToken services.now) events) position).elim unit
        unit.receive) =
      [⟨⟨"a.st", "1"⟩, .parsed tree⟩, ⟨⟨"b.st", "2"⟩, .parsed tree⟩, ⟨⟨"c.st", "3"⟩, .parsed tree⟩,
        ⟨⟨"d.st", "4"⟩, .unparsed⟩] := by
    decide +kernel
  have called : (start.calls stage (stage.deadlineToken services.now) events).map
      (fun call => label call.source call.answer.isOk) =
      ["parsed a.st", "parsed c.st", "failed b.st"] := by
    decide +kernel
  rcases grown.timings with ⟨added, timings, rfl⟩
  rw [called] at labelled
  refine ⟨placed, interleaved, by decide +kernel, units.trans received, ?_, grown.isTiming_eq⟩
  rw [Session.labels, timings]
  exact labelled

end ParseStage

end StagePipeline
