import StagePipeline.Proofs.UndisturbedRun

/-!
# Failing fast in parallel

Under fail-fast the first failure raises the halt flag, and units whose turn has
not come are skipped from then on.  So among the units that do not parse it is the
workers who decide which one is found: whichever of them comes first can be the
one that is reported, and no other failure is ever reported.  The error is that of
the first unit in the order of the batch whatever the workers do exactly if all
such units fail alike; a single worker takes the units in that order.
-/

namespace StagePipeline

open Program

namespace ParseStage

variable {stage : ParseStage} {parse : SourceFile → Except SyntaxError ParseOutput}
  {token : CancelToken} {batch : List CompilationUnit} {services : Services} {walk : Walk}

/-- What the application fails with if the task is the first to have failed. -/
def Task.failure? (stage : ParseStage) (task : Task) : Option StageError :=
  match task.progress with
  | .done (.failed (.rejected error)) => some (stage.failure task.unit.source error)
  | _ => none

theorem Task.exists_failedWith_of_failure? {task : Task} {error : StageError}
    (fails : task.failure? stage = some error) :
    ∃ problem, task.FailedWith (.rejected problem) ∧
      error = stage.failure task.unit.source problem := by
  rw [failure?] at fails
  split at fails
  · rename_i problem ended
    exact ⟨problem, ended, (Option.some.inj fails).symm⟩
  · exact absurd fails (Option.some_ne_none error).symm

/-- The first of some values is found where nothing stands before it. -/
theorem findSome?_eq_of_first {α β : Type} {list : List α} {value? : α → Option β}
    {position : Nat} {element : α} {value : β} (found : list[position]? = some element)
    (gives : value? element = some value)
    (nothing : ∀ earlier < position, ∀ other, list[earlier]? = some other → value? other = none) :
    list.findSome? value? = some value := by
  rcases List.getElem?_eq_some_iff.1 found with ⟨within, rfl⟩
  refine List.findSome?_eq_some_iff.2
    ⟨list.take position, _, list.drop (position + 1), ?_, gives, ?_⟩
  · rw [← List.drop_eq_getElem_cons within, List.take_append_drop]
  · intro other member
    rcases List.mem_take_iff_getElem.1 member with ⟨earlier, bound, rfl⟩
    exact nothing earlier (by omega) _ (List.getElem?_eq_getElem _)

namespace Pool

/-! ### Gathering under fail-fast -/

theorem error?_gather (policy : stage.options.onError = .failFast) {tasks : List Task}
    (free : ∀ task ∈ tasks, task.isInterrupted = false ∧ ¬ task.FailedWith .unlocatable)
    (services : Services) :
    (gather stage tasks services).error? = tasks.findSome? (Task.failure? stage) := by
  induction tasks generalizing services with
  | nil => rfl
  | cons task rest inductive_hypothesis =>
    have later := inductive_hypothesis fun other member =>
      free other (List.mem_cons_of_mem _ member)
    have here := free task List.mem_cons_self
    rw [gather_cons, List.findSome?_cons]
    obtain ⟨unit, progress⟩ := task
    cases progress with
    | done outcome =>
      cases outcome with
      | interrupted reason => exact absurd here.1.symm Bool.false_ne_true
      | failed failure =>
        cases failure with
        | unlocatable => exact absurd rfl here.2
        | rejected error =>
          have stops : (Task.mk unit (.done (.failed (.rejected error)))).judged stage services =
              ⟨.stopped (stage.failure unit.source error), unit, services⟩ :=
            settle_failFast policy error services
          simp only [stops]
          rfl
      | _ => exact later services
    | _ => exact later services

variable {pool : Pool} {calls : List Call} {before : Session}

theorem RecordedBy.exists_of_failure?
    (recorded : pool.RecordedBy stage.factory.Answers stage batch calls)
    (collaborator : stage.factory = .ofFunction parse) {position : Nat} {task : Task}
    {error : StageError} (found : pool.tasks[position]? = some task)
    (fails : task.failure? stage = some error) :
    ∃ unit problem, batch[position]? = some unit ∧ parse unit.source = .error problem ∧
      error = stage.failure unit.source problem := by
  rcases recorded.exists_unit found with ⟨unit, here, fits⟩
  rcases Task.exists_failedWith_of_failure? fails with ⟨problem, failed, rfl⟩
  rcases fits.rejected_of_failedWith failed with ⟨_, answered, same⟩
  obtain rfl := UnitFailure.rejected.inj same
  have rejected := recorded.answer_eq_parse collaborator here answered
  exact ⟨unit, problem, here, rejected.symm, by rw [fits.source]⟩

theorem RecordedBy.error?_conclude
    (recorded : pool.RecordedBy stage.factory.Answers stage batch calls)
    (policy : stage.options.onError = .failFast) (undisturbed : pool.Undisturbed token) :
    (pool.conclude stage).error? = pool.tasks.findSome? (Task.failure? stage) := by
  refine error?_gather policy (fun task member => ⟨undisturbed.free task member, ?_⟩) _
  intro failed
  rcases recorded.exists_error member failed with ⟨position, unit, error, -, -, -, absurdity⟩
  exact UnitFailure.noConfusion absurdity

/-! ### The first to fail -/

/-- The task of a unit whose parser has answered with an error. -/
def rejectedTask (unit : CompilationUnit) (error : SyntaxError) : Task :=
  ⟨unit, .done (.failed (.rejected error))⟩

/-- As long as tasks wait or are done with units that parse, the halt flag is down. -/
theorem Consistent.halted_eq_false (consistent : pool.Consistent stage batch before calls)
    (undisturbed : pool.Undisturbed token) (collaborator : stage.factory = .ofFunction parse)
    (harmless : ∀ (position : Nat) (unit : CompilationUnit) (task : Task),
      batch[position]? = some unit → pool.tasks[position]? = some task →
        task.progress = .waiting ∨ task.isDone = true ∧ parses parse unit = true) :
    pool.shared.halted = false := by
  refine consistent.halts.halted_eq_false fun task member => ?_
  rcases List.mem_iff_getElem?.1 member with ⟨position, found⟩
  rcases consistent.recorded.exists_unit found with ⟨unit, here, -⟩
  rcases harmless position unit task here found with waiting | ⟨done, fits⟩
  · simp only [Task.isFatal, waiting]
  · rcases consistent.recorded.skipped_or_ended collaborator undisturbed here found done with
      ⟨-, rfl⟩ | ⟨-, ended⟩
    · rfl
    · cases answered : parse unit.source with
      | error problem => exact absurd fits (not_parses_of_error answered)
      | ok output =>
        rw [answered] at ended
        obtain rfl : task = _ := ended
        rfl

/-- While the halt flag is down, a unit that does not parse fails when its turn comes. -/
theorem Consistent.completeAt_rejected (consistent : pool.Consistent stage batch before calls)
    (undisturbed : pool.Undisturbed token) (collaborator : stage.factory = .ofFunction parse)
    (policy : stage.options.onError = .failFast)
    (placed : ∀ unit ∈ batch, ∀ signal,
      Placed unit.source (stage.factory.parse signal unit.source))
    (down : pool.shared.halted = false) {position : Nat} {unit : CompilationUnit}
    {error : SyntaxError} (here : batch[position]? = some unit)
    (rejected : parse unit.source = .error error) :
    (pool.completeAt stage token position).tasks[position]? = some (rejectedTask unit error) ∧
      (pool.completeAt stage token position).shared.halted = true := by
  have within : position < pool.tasks.length :=
    consistent.recorded.length.symm ▸ (List.getElem?_eq_some_iff.1 here).1
  have found : pool.tasks[position]? = some pool.tasks[position] := List.getElem?_eq_getElem within
  have turn : (pool.completeAt stage token position).tasks[position]? =
      some (pool.tasks[position].complete stage token pool.shared).1 := by
    rw [completeAt_of_getElem? found]
    exact List.getElem?_set_self within
  -- Taking the task to its end is a run, so all that holds of runs holds afterwards.
  rcases exists_run_completeAt stage token pool position with ⟨events, work, ran⟩
  have later := ran ▸ consistent.run placed events
  have quiet := ran ▸ undisturbed.run collaborator (ne_cancel_of_work work token.family)
  rcases later.recorded.skipped_or_ended collaborator quiet here turn (complete_isDone _ _) with
    ⟨-, skipped⟩ | ⟨-, ended⟩
  · -- Skipping needs a fatal task, and with the flag down there was none before.
    have raised := later.halts.skipped position _ turn (by rw [skipped])
    rcases later.halts.halted.1 raised with ⟨other, culprit, otherFound, fatal⟩
    by_cases same : position = other
    · subst same
      rw [turn, skipped] at otherFound
      rw [← Option.some.inj otherFound] at fatal
      exact absurd fatal Bool.false_ne_true
    · rw [getElem?_completeAt_ne same] at otherFound
      have up := consistent.halts.halted.2 ⟨other, culprit, otherFound, fatal⟩
      rw [down] at up
      exact absurd up Bool.false_ne_true
  · rw [rejected] at ended
    have failed : (pool.completeAt stage token position).tasks[position]? =
        some (rejectedTask unit error) := by
      rw [turn]
      exact congrArg some ended
    have fatal : stage.isFatal error = true := by simp [isFatal, policy]
    exact ⟨failed, later.halts.halted.2 ⟨position, _, failed, fatal⟩⟩

/-- The unit at a position has failed, and no other one has been or will be called for. -/
structure FailedAlone (position : Nat) (failed : Task) (pool : Pool) : Prop where
  halted : pool.shared.halted = true
  found : pool.tasks[position]? = some failed
  others : ∀ other task, position ≠ other → pool.tasks[other]? = some task →
    task.progress = .waiting ∨ task.progress = .done .skipped

theorem FailedAlone.act {position : Nat} {unit : CompilationUnit} {error : SyntaxError}
    (alone : FailedAlone position (rejectedTask unit error) pool) (event : Event) :
    FailedAlone position (rejectedTask unit error) (pool.act stage token event) := by
  cases event with
  | cancel family => exact ⟨alone.halted, alone.found, alone.others⟩
  | work next =>
    cases found : pool.tasks[next]? with
    | none =>
      rw [Pool.act, step_of_getElem?_eq_none found]
      exact alone
    | some task =>
      have within := (List.getElem?_eq_some_iff.1 found).1
      rw [Pool.act, step_of_getElem? found]
      by_cases same : position = next
      · -- The task that has failed has nothing left to do.
        subst same
        obtain rfl := Option.some.inj (found.symm.trans alone.found)
        refine ⟨alone.halted, List.getElem?_set_self within, ?_⟩
        intro other otherTask different otherFound
        rw [List.getElem?_set_ne different] at otherFound
        exact alone.others other otherTask different otherFound
      · obtain ⟨current, progress⟩ := task
        have steps : (Task.mk current progress).step stage token pool.shared =
            (⟨current, .done .skipped⟩, pool.shared) := by
          rcases alone.others next _ same found with waiting | skipped
          · obtain rfl : progress = .waiting := waiting
            simp [Task.step, Task.advance, alone.halted]
          · obtain rfl : progress = .done .skipped := skipped
            rfl
        rw [steps]
        refine ⟨alone.halted, (List.getElem?_set_ne (Ne.symm same)).trans alone.found, ?_⟩
        intro other otherTask different otherFound
        by_cases this : next = other
        · subst this
          rw [List.getElem?_set_self within] at otherFound
          rw [← Option.some.inj otherFound]
          exact .inr rfl
        · rw [List.getElem?_set_ne this] at otherFound
          exact alone.others other otherTask different otherFound

end Pool

/-! ### The results that workers can come to -/

section Results

variable (collaborator : stage.factory = .ofFunction parse)
  (policy : stage.options.onError = .failFast)
  (live : services.Live (stage.deadlineToken services.now))
  (placed : ∀ unit ∈ batch, Placed unit.source (parse unit.source))

include collaborator policy live placed

/-- What is reported is the failure of a unit that does not parse, if there is one at all. -/
theorem CanEndIn.error?_cases (ends : stage.CanEndIn batch services walk) :
    (walk.error? = none ∧ ∀ unit ∈ batch, parses parse unit = true) ∨
      ∃ unit ∈ batch, ∃ error, parse unit.source = .error error ∧
        walk.error? = some (stage.failure unit.source error) := by
  rcases ends.exists_pool collaborator live placed with
    ⟨pool, calls, rfl, done, consistent, undisturbed⟩
  have recorded := consistent.recorded
  have gathered := recorded.error?_conclude policy undisturbed
  cases reported : pool.tasks.findSome? (Task.failure? stage) with
  | some error =>
    rcases List.exists_of_findSome?_eq_some reported with ⟨task, member, fails⟩
    rcases List.mem_iff_getElem?.1 member with ⟨position, found⟩
    rcases recorded.exists_of_failure? collaborator found fails with
      ⟨unit, problem, here, rejected, rfl⟩
    exact .inr ⟨unit, List.mem_of_getElem? here, problem, rejected, gathered.trans reported⟩
  | none =>
    have succeeds : (pool.conclude stage).error? = none := gathered.trans reported
    refine .inl ⟨succeeds, fun unit member => ?_⟩
    rcases List.mem_iff_getElem?.1 member with ⟨position, here⟩
    have harmless := (Pool.gathered_gather stage pool.tasks pool.shared.services).complete succeeds
    rcases consistent.exists_output done harmless (List.getElem?_eq_some_iff.1 here).1 with
      ⟨output, answered⟩
    exact parses_of_ok (recorded.answer_eq_parse collaborator here answered).symm

/-- Every unit that does not parse can be the one whose failure is reported. -/
theorem exists_canEndIn_failure {unit : CompilationUnit} {error : SyntaxError}
    (member : unit ∈ batch) (rejected : parse unit.source = .error error) :
    ∃ walk, stage.CanEndIn batch services walk ∧
      walk.error? = some (stage.failure unit.source error) := by
  rcases List.mem_iff_getElem?.1 member with ⟨position, here⟩
  let token := stage.deadlineToken services.now
  let start := Pool.ofUnits batch services.tick
  have located := placed_factory collaborator placed
  have undisturbed : start.Undisturbed token :=
    Pool.undisturbed_ofUnits batch (live.of_grows (.tick services))
  rcases (Pool.consistent_ofUnits stage batch services.tick).completeAt_rejected undisturbed
    collaborator policy located rfl here rejected with ⟨failed, halted⟩
  have alone : Pool.FailedAlone position (Pool.rejectedTask unit error)
      (start.completeAt stage token position) := by
    refine ⟨halted, failed, ?_⟩
    intro other task different found
    rw [Pool.getElem?_completeAt_ne different] at found
    rcases Pool.getElem?_ofUnits found with ⟨_, -, rfl⟩
    exact .inl rfl
  -- The unit is taken to its end first, and the workers go on from there in some way.
  rcases Pool.exists_run_completeAt stage token start position with ⟨events, work, ran⟩
  rcases exists_interleaved stage batch services events with ⟨later, walk, laterWork, interleaved⟩
  have quiet : ∀ event ∈ events ++ later, event ≠ .cancel stage.token.family := by
    refine ne_cancel_of_work (fun event member => ?_) _
    rcases List.mem_append.1 member with early | late
    · exact work event early
    · exact laterWork event late
  refine ⟨walk, ⟨_, quiet, interleaved⟩, ?_⟩
  rcases consistent_undisturbed_run collaborator live placed quiet with ⟨consistent, calm⟩
  have atEnd : Pool.FailedAlone position (Pool.rejectedTask unit error)
      (start.run stage token (events ++ later)) := by
    rw [Pool.run_append, ran]
    exact Pool.run_invariant (fun _ event _ alone => alone.act event) alone
  rw [interleaved.2, consistent.recorded.error?_conclude policy calm]
  refine findSome?_eq_of_first atEnd.found rfl fun earlier before other found => ?_
  rcases atEnd.others earlier other (Nat.ne_of_gt before) found with waiting | skipped
  · simp only [Task.failure?, waiting]
  · simp only [Task.failure?, skipped]

omit collaborator policy live placed in
theorem range_add_succ (start count : Nat) :
    List.range (start + (count + 1)) =
      List.range start ++ start :: List.range' (start + 1) count := by
  rw [List.range_eq_range', List.range_eq_range', ← List.range'_append_1, Nat.zero_add,
    List.range'_succ]

/-- If the units before it parse, a unit that does not is not skipped when its turn comes. -/
theorem completeAt_inTurn_rejected {position : Nat} {unit : CompilationUnit} {error : SyntaxError}
    (here : batch[position]? = some unit) (rejected : parse unit.source = .error error)
    (parsed : ∀ earlier < position, ∀ other, batch[earlier]? = some other →
      parses parse other = true) :
    (((Pool.ofUnits batch services.tick).inTurn stage (stage.deadlineToken services.now)
      (List.range position)).completeAt stage (stage.deadlineToken services.now)
        position).tasks[position]? = some (Pool.rejectedTask unit error) := by
  rcases consistent_undisturbed_inTurn collaborator live placed (List.range position) with
    ⟨calls, consistent, undisturbed⟩
  refine (consistent.completeAt_rejected undisturbed collaborator policy
    (placed_factory collaborator placed) ?down here rejected).1
  refine consistent.halted_eq_false undisturbed collaborator ?_
  intro other otherUnit task there found
  rcases Pool.tasks_inTurn found with ⟨among, done⟩ | ⟨-, untouched⟩
  · exact .inr ⟨done, parsed other (List.mem_range.1 among) otherUnit there⟩
  · rcases Pool.getElem?_ofUnits untouched with ⟨_, -, rfl⟩
    exact .inl rfl

/-- A single worker comes to the failure of the first unit that does not parse. -/
theorem error?_apply_single (parallel : stage.options.mode = .parallel)
    (started : services.startsWorkers stage.options.workers = true)
    (single : stage.options.workers = 1) {before after : List CompilationUnit}
    {unit : CompilationUnit} {error : SyntaxError} (split : batch = before ++ unit :: after)
    (parsed : ∀ other ∈ before, parses parse other = true)
    (rejected : parse unit.source = .error error) :
    (stage.apply batch services).error? = some (stage.failure unit.source error) := by
  let token := stage.deadlineToken services.now
  let start := Pool.ofUnits batch services.tick
  let position := before.length
  let later := List.range' (position + 1) after.length
  have here : batch[position]? = some unit := by
    rw [split, List.getElem?_append_right (Nat.le_refl _), Nat.sub_self, List.getElem?_cons_zero]
  have parsedBefore : ∀ earlier < position, ∀ other, batch[earlier]? = some other →
      parses parse other = true := by
    intro earlier bound other there
    rw [split, List.getElem?_append_left bound] at there
    exact parsed other (List.mem_of_getElem? there)
  have order : turns stage.options.workers.toNat batch.length =
      List.range position ++ position :: later := by
    rw [single, split, List.length_append, List.length_cons]
    exact range_add_succ before.length after.length
  have applied : stage.apply batch services =
      (start.inTurn stage token (List.range position ++ position :: later)).conclude stage := by
    rw [apply_of_started parallel started, order]
  rcases consistent_undisturbed_inTurn collaborator live placed
    (List.range position ++ position :: later) with ⟨calls, finished, calm⟩
  -- The units after this one do not touch its task any more.
  have atEnd : (start.inTurn stage token
      (List.range position ++ position :: later)).tasks[position]? =
        some (Pool.rejectedTask unit error) := by
    have beyond : position ∉ later := by
      intro among
      have bound := (List.mem_range'_1.1 among).1
      omega
    rw [Pool.inTurn_append_cons, Pool.getElem?_inTurn_of_notMem beyond]
    exact completeAt_inTurn_rejected collaborator policy live placed here rejected parsedBefore
  rw [applied, finished.recorded.error?_conclude policy calm]
  refine findSome?_eq_of_first atEnd rfl fun earlier bound other found => ?_
  by_contra fails
  rcases Option.ne_none_iff_exists'.1 fails with ⟨_, failure⟩
  rcases finished.recorded.exists_of_failure? collaborator found failure with
    ⟨otherUnit, problem, there, rejectedToo, -⟩
  exact not_parses_of_error rejectedToo (parsedBefore earlier bound otherUnit there)

end Results

/-! ### The first in the order of the batch -/

/-- What a stage fails with that stops at the first unit in order that does not parse. -/
def firstFailure? (stage : ParseStage) (parse : SourceFile → Except SyntaxError ParseOutput)
    (batch : List CompilationUnit) : Option StageError :=
  (batch.dropWhile (parses parse)).head?.bind fun unit => stage.stopError? unit (parse unit.source)

theorem firstFailure?_cases (stage : ParseStage)
    (parse : SourceFile → Except SyntaxError ParseOutput) (batch : List CompilationUnit) :
    (stage.firstFailure? parse batch = none ∧ ∀ unit ∈ batch, parses parse unit = true) ∨
      ∃ before unit after error, batch = before ++ unit :: after ∧
        (∀ other ∈ before, parses parse other = true) ∧ parse unit.source = .error error ∧
        stage.firstFailure? parse batch = some (stage.failure unit.source error) := by
  induction batch with
  | nil => exact .inl ⟨rfl, by simp⟩
  | cons unit rest inductive_hypothesis =>
    cases answered : parse unit.source with
    | error error =>
      have stops : ¬ parses parse unit = true := not_parses_of_error answered
      refine .inr ⟨[], unit, rest, error, rfl, by simp, answered, ?_⟩
      rw [firstFailure?, List.dropWhile_cons_of_neg stops, ← stopError?_error, ← answered]
      rfl
    | ok output =>
      have goesOn : parses parse unit = true := parses_of_ok answered
      have same : stage.firstFailure? parse (unit :: rest) = stage.firstFailure? parse rest := by
        rw [firstFailure?, List.dropWhile_cons_of_pos goesOn, firstFailure?]
      rw [same]
      rcases inductive_hypothesis with ⟨nothing, parsed⟩ |
        ⟨before, first, after, error, rfl, parsed, rejected, found⟩
      · exact .inl ⟨nothing, List.forall_mem_cons.2 ⟨goesOn, parsed⟩⟩
      · exact .inr ⟨unit :: before, first, after, error, rfl,
          List.forall_mem_cons.2 ⟨goesOn, parsed⟩, rejected, found⟩

/--
A sequential application under fail-fast reports the first unit in the order of
the batch that does not parse, and so does one with a single worker that starts.
Where the steps of more workers can fall in any order, every such unit can be the
one that is reported, so that what is reported is always the first one exactly if
all of them fail alike: with the same error and under the same name.

Not every order need be possible on a machine.  A scheduler that hands out stretches
of neighbouring units, each to be taken in order, allows fewer, and then a unit with
another failing one before it in its stretch is not the one that is reported.
-/
theorem parallel_failFast_reports_first_iff (collaborator : stage.factory = .ofFunction parse)
    (policy : stage.options.onError = .failFast)
    (live : services.Live (stage.deadlineToken services.now))
    (closed : services.session.isTiming = false)
    (placed : ∀ unit ∈ batch, Placed unit.source (parse unit.source)) :
    let first := stage.firstFailure? parse batch
    (stage.inOrder.apply batch services).error? = first ∧
    (stage.options.mode = .parallel → services.startsWorkers stage.options.workers = true →
      stage.options.workers = 1 → (stage.apply batch services).error? = first) ∧
    ((∀ walk, stage.CanEndIn batch services walk → walk.error? = first) ↔
      ∀ unit ∈ batch, ∀ other ∈ batch, ∀ error otherError, parse unit.source = .error error →
        parse other.source = .error otherError →
          stage.failure unit.source error = stage.failure other.source otherError) := by
  intro first
  have cases_of_first := stage.firstFailure?_cases parse batch
  refine ⟨?_, ?_, ?_, ?_⟩
  · have quiet : services.tick.Live (stage.deadlineToken services.now) :=
      live.of_grows (.tick services)
    have sameFactory : stage.inOrder.factory = .ofFunction parse := collaborator
    have stops : StopsAtFirst stage.inOrder parse batch services.tick
        (stage.inOrder.apply batch services) :=
      stopsAtFirst_walk sameFactory closed quiet placed policy
    exact stops.error?
  · intro parallel started single
    rcases cases_of_first with ⟨nothing, parsed⟩ |
      ⟨before, unit, after, error, split, parsed, rejected, found⟩
    · have ends : stage.CanEndIn batch services (stage.apply batch services) :=
        canEndIn_apply parallel started
      rcases ends.error?_cases collaborator policy live placed with
        ⟨succeeds, -⟩ | ⟨unit, member, error, rejected, -⟩
      · exact succeeds.trans nothing.symm
      · exact absurd (parsed unit member) (not_parses_of_error rejected)
    · exact (error?_apply_single collaborator policy live placed parallel started single split
        parsed rejected).trans found.symm
  · intro always unit member other otherMember error otherError rejected otherRejected
    rcases exists_canEndIn_failure collaborator policy live placed member rejected with
      ⟨walk, ends, reported⟩
    rcases exists_canEndIn_failure collaborator policy live placed otherMember otherRejected with
      ⟨otherWalk, otherEnds, otherReported⟩
    apply Option.some.inj
    calc some (stage.failure unit.source error) = walk.error? := reported.symm
      _ = first := always walk ends
      _ = otherWalk.error? := (always otherWalk otherEnds).symm
      _ = some (stage.failure other.source otherError) := otherReported
  · intro alike walk ends
    rcases ends.error?_cases collaborator policy live placed with
      ⟨succeeds, parsed⟩ | ⟨unit, member, error, rejected, reported⟩
    · rcases cases_of_first with ⟨nothing, -⟩ | ⟨before, unit, after, error, split, -, rejected, -⟩
      · exact succeeds.trans nothing.symm
      · exact absurd (parsed unit (by simp [split])) (not_parses_of_error rejected)
    · rcases cases_of_first with ⟨-, parsed⟩ |
        ⟨before, other, after, otherError, split, -, otherRejected, found⟩
      · exact absurd (parsed unit member) (not_parses_of_error rejected)
      · have otherMember : other ∈ batch := by simp [split]
        rw [reported, alike unit member other otherMember error otherError rejected otherRejected]
        exact found.symm

/-- Two units that parse, and one that does not and is always the one that is reported. -/
theorem parallel_failFast_reports_lone_failure :
    let tree : SyntaxTree := ⟨[.bare (.number 1 (.ofLength 0 1))]⟩
    let error : SyntaxError := .invalid "odd" (.empty 0)
    let parse : SourceFile → Except SyntaxError ParseOutput := fun source =>
      if source.name = "b.st" then .error error else .ok ⟨tree, []⟩
    let stage : ParseStage :=
      { phase := ⟨"parse", 1⟩, factory := .ofFunction parse, token := ⟨0, none⟩,
        options := { mode := .parallel, workers := 2 } }
    let batch : List CompilationUnit :=
      [⟨⟨"a.st", "1"⟩, .unparsed⟩, ⟨⟨"b.st", "?"⟩, .unparsed⟩, ⟨⟨"c.st", "3"⟩, .unparsed⟩]
    let services : Services := {}
    services.Live (stage.deadlineToken services.now) ∧
      (∀ unit ∈ batch, Placed unit.source (parse unit.source)) ∧
      ∀ walk, stage.CanEndIn batch services walk → walk.error? = some (.parse "b.st" error) := by
  intro tree error parse stage batch services
  have live : services.Live (stage.deadlineToken services.now) := fun _ _ => rfl
  have fails : ∀ unit ∈ batch, ∀ problem, parse unit.source = .error problem →
      unit.source.name = "b.st" ∧ problem = error := by
    intro unit _ problem answered
    by_cases second : unit.source.name = "b.st"
    · simp only [parse, second, if_true, Except.error.injEq] at answered
      exact ⟨second, answered.symm⟩
    · simp [parse, second] at answered
  have atStart : ∀ unit ∈ batch, ∀ problem ∈ reportedErrors (parse unit.source),
      problem.offset?.getD 0 = 0 := by
    decide +kernel
  have placed : ∀ unit ∈ batch, Placed unit.source (parse unit.source) :=
    fun unit member => .of_start (atStart unit member)
  refine ⟨live, placed, ?_⟩
  have first : stage.firstFailure? parse batch = some (.parse "b.st" error) := by decide +kernel
  rw [← first]
  refine (parallel_failFast_reports_first_iff rfl rfl live rfl placed).2.2.2 ?_
  intro unit member other otherMember problem otherProblem rejected otherRejected
  rcases fails unit member problem rejected with ⟨named, rfl⟩
  rcases fails other otherMember otherProblem otherRejected with ⟨otherNamed, rfl⟩
  simp only [failure, error, SyntaxError.interrupt?, named, otherNamed]

/--
Two workers take a half of four units each.  The third unit has failed before the
turn of the second one comes, which is then skipped, so that the third is reported
and not the first that does not parse.
-/
theorem parallel_failFast_may_miss_first :
    let tree : SyntaxTree := ⟨[.bare (.number 1 (.ofLength 0 1))]⟩
    let error : SyntaxError := .invalid "odd" (.empty 0)
    let parse : SourceFile → Except SyntaxError ParseOutput := fun source =>
      if source.text = "?" then .error error else .ok ⟨tree, []⟩
    let stage : ParseStage :=
      { phase := ⟨"parse", 1⟩, factory := .ofFunction parse, token := ⟨0, none⟩,
        options := { mode := .parallel, workers := 2 } }
    let batch : List CompilationUnit :=
      [⟨⟨"a.st", "1"⟩, .unparsed⟩, ⟨⟨"b.st", "?"⟩, .unparsed⟩, ⟨⟨"c.st", "?"⟩, .unparsed⟩,
        ⟨⟨"d.st", "4"⟩, .unparsed⟩]
    let services : Services := {}
    let events : List Event :=
      [0, 2, 1, 3].flatMap fun position => List.replicate 7 (.work position)
    let walk := ((Pool.ofUnits batch services.tick).run stage (stage.deadlineToken services.now)
      events).conclude stage
    services.Live (stage.deadlineToken services.now) ∧ services.session.isTiming = false ∧
      (∀ unit ∈ batch, Placed unit.source (parse unit.source)) ∧ error.interrupt? = none ∧
      stage.CanEndIn batch services walk ∧ walk.error? = some (.parse "c.st" error) ∧
      (stage.inOrder.apply batch services).error? = some (.parse "b.st" error) := by
  intro tree error parse stage batch services events walk
  have atStart : ∀ unit ∈ batch, ∀ problem ∈ reportedErrors (parse unit.source),
      problem.offset?.getD 0 = 0 := by
    decide +kernel
  refine ⟨fun _ _ => rfl, rfl, fun unit member => .of_start (atStart unit member), rfl,
    ⟨events, ?_, ?_, rfl⟩, ?_, ?_⟩
  · decide +kernel
  · decide +kernel
  · decide +kernel
  · decide +kernel

end ParseStage

end StagePipeline
