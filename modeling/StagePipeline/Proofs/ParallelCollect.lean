import Mathlib.Data.List.Perm.Basic
import StagePipeline.Proofs.UndisturbedRun

/-!
# Collecting in parallel

Under collect no failure raises the halt flag, so an undisturbed run skips nothing
and calls the parser of every unit exactly once.  The workers report what was
passed over as they go, and the failures are reported when the outcomes are
gathered, while a walk in order reports everything at once.  Since every call is
accounted for, both leave the same times and the same diagnostics, up to their
order.
-/

namespace StagePipeline

open Program

namespace ParseStage

variable {stage : ParseStage} {parse : SourceFile → Except SyntaxError ParseOutput}
  {batch : List CompilationUnit} {services : Services}

/-! ### Reports in two parts -/

/-- The diagnostics of a failure. -/
def refused (stage : ParseStage) (source : SourceFile) :
    Except SyntaxError ParseOutput → List Diagnostic
  | .error error => [stage.diagnosis source error]
  | .ok _ => []

theorem recovered_append_refused (stage : ParseStage) (source : SourceFile)
    (answer : Except SyntaxError ParseOutput) :
    stage.recovered source answer ++ stage.refused source answer = stage.reports source answer := by
  cases answer with
  | error error => rfl
  | ok output => exact List.append_nil _

/-! ### Gathering under collect -/

/-- The task of a unit once its parser has answered and nothing is left to do. -/
def Task.finished (parse : SourceFile → Except SyntaxError ParseOutput)
    (unit : CompilationUnit) : Task where
  unit := unit.receive (parse unit.source)
  progress := .done (match parse unit.source with
    | .ok _ => .parsed
    | .error error => .failed (.rejected error))

theorem Task.Ended.eq_finished {unit : CompilationUnit} {task : Task}
    (ended : task.Ended unit (some (parse unit.source))) : task = .finished parse unit := by
  rw [Task.finished]
  cases answered : parse unit.source <;> rw [answered] at ended <;> exact ended

theorem Pool.collectsAll_gather (policy : stage.options.onError = .collect)
    (placed : ∀ unit ∈ batch, Placed unit.source (parse unit.source))
    (finished : ∀ unit ∈ batch, ∀ error, parse unit.source = .error error →
      error.interrupt? = none) (services : Services) :
    CollectsAll parse batch (gather stage (batch.map (Task.finished parse)) services) ∧
      services.Grows (gather stage (batch.map (Task.finished parse)) services).services []
        (batch.flatMap fun unit => stage.refused unit.source (parse unit.source)) := by
  induction batch generalizing services with
  | nil => exact ⟨⟨rfl, rfl, rfl⟩, .refl services⟩
  | cons unit rest inductive_hypothesis =>
    have here : Placed unit.source (parse unit.source) := placed unit List.mem_cons_self
    have later := inductive_hypothesis
      (fun other member => placed other (List.mem_cons_of_mem _ member))
      (fun other member => finished other (List.mem_cons_of_mem _ member))
    rw [List.map_cons, gather_cons]
    cases answered : parse unit.source with
    | error error =>
      rw [answered] at here
      have settled : (Task.finished parse unit).judged stage services =
          ⟨.collected, unit, services.report (stage.diagnosis unit.source error)⟩ := by
        rw [Task.judged, Task.finished, answered]
        exact settle_collect policy (finished unit List.mem_cons_self error answered) here services
      simp only [settled]
      rcases later (services.report (stage.diagnosis unit.source error)) with ⟨collected, grown⟩
      refine ⟨collected.withFailure answered, ?_⟩
      rw [List.flatMap_cons, answered]
      exact (Services.Grows.report services _).trans grown
    | ok output =>
      have judged : (Task.finished parse unit).judged stage services =
          ⟨.parsed, unit.withTree output.tree, services⟩ := by
        rw [Task.judged, Task.finished, answered]
        rfl
      simp only [judged]
      rcases later services with ⟨collected, grown⟩
      refine ⟨collected.withUnit answered, ?_⟩
      rw [List.flatMap_cons, answered]
      exact grown

/-! ### Every unit is called for -/

/-- Taking the elements of a list position by position takes all of them. -/
theorem flatMap_range_getElem? {α β : Type} (list : List α) (part : α → List β) :
    (List.range list.length).flatMap (fun position => list[position]?.elim [] part) =
      list.flatMap part := by
  induction list with
  | nil => rfl
  | cons head rest inductive_hypothesis =>
    rw [List.length_cons, List.range_succ_eq_map, List.flatMap_cons, List.flatMap_map,
      List.flatMap_cons, ← inductive_hypothesis]
    rfl

namespace Pool

variable {pool : Pool} {calls : List Call}

/-- What the calls come to is what the units come to, when every unit is called for. -/
theorem RecordedBy.perm_flatMap
    (recorded : pool.RecordedBy stage.factory.Answers stage batch calls)
    (collaborator : stage.factory = .ofFunction parse)
    (complete : ∀ position < batch.length, answerAt calls position ≠ none) {β : Type}
    (part : SourceFile → Except SyntaxError ParseOutput → List β) :
    (calls.flatMap fun call => part call.source call.answer).Perm
      (batch.flatMap fun unit => part unit.source (parse unit.source)) := by
  let share (position : Nat) : List β :=
    batch[position]?.elim [] fun unit => part unit.source (parse unit.source)
  have positions : (calls.map (·.position)).Perm (List.range batch.length) := by
    refine (List.perm_ext_iff_of_nodup recorded.once List.nodup_range).2 fun position => ?_
    rw [List.mem_range]
    constructor
    · intro member
      rcases List.mem_map.1 member with ⟨call, among, rfl⟩
      rcases recorded.eq_parse collaborator among with ⟨unit, here, -⟩
      exact (List.getElem?_eq_some_iff.1 here).1
    · intro within
      by_contra absent
      exact complete position within (answerAt_eq_none_iff.2 absent)
  have byPosition : calls.flatMap (fun call => part call.source call.answer) =
      (calls.map (·.position)).flatMap share := by
    rw [List.flatMap_map]
    refine List.flatMap_congr fun call member => ?_
    rcases recorded.eq_parse collaborator member with ⟨unit, here, same, answered⟩
    simp only [share, here, same, answered, Option.elim_some]
  rw [byPosition, ← flatMap_range_getElem? batch]
  exact positions.flatMap_right share

section Undisturbed

variable {before : Session} {token : CancelToken}
  (consistent : pool.Consistent stage batch before calls)
  (collaborator : stage.factory = .ofFunction parse) (policy : stage.options.onError = .collect)
  (finished : ∀ unit ∈ batch, ∀ error, parse unit.source = .error error →
    error.interrupt? = none)
  (done : pool.isDone = true) (undisturbed : pool.Undisturbed token)

include consistent collaborator policy finished done undisturbed

/-- Under collect no undisturbed task ends fatally. -/
theorem Consistent.isFatal_eq_false : ∀ task ∈ pool.tasks, task.isFatal stage = false := by
  intro task member
  rcases List.mem_iff_getElem?.1 member with ⟨position, found⟩
  rcases consistent.recorded.exists_unit found with ⟨unit, here, -⟩
  rcases consistent.recorded.skipped_or_ended collaborator undisturbed here found
    (isDone_iff.1 done position task found) with ⟨-, rfl⟩ | ⟨-, ended⟩
  · rfl
  · rw [ended.eq_finished, Task.isFatal, Task.finished]
    cases answered : parse unit.source with
    | ok output => rfl
    | error error =>
      have noInterrupt := finished unit (List.mem_of_getElem? here) error answered
      have collected : stage.isFatal error = false := by simp [isFatal, policy, noInterrupt]
      exact collected

/-- So none is skipped, and every task has ended as the parser of its unit has answered. -/
theorem Consistent.eq_finished :
    pool.tasks = batch.map (Task.finished parse) ∧
      ∀ position < batch.length, answerAt calls position ≠ none := by
  have recorded := consistent.recorded
  have harmless := consistent.isFatal_eq_false collaborator policy finished done undisturbed
  have down := consistent.halts.halted_eq_false harmless
  have ended : ∀ (position : Nat) (unit : CompilationUnit) (task : Task),
      batch[position]? = some unit → pool.tasks[position]? = some task →
        answerAt calls position ≠ none ∧ task = .finished parse unit := by
    intro position unit task here found
    rcases recorded.skipped_or_ended collaborator undisturbed here found
      (isDone_iff.1 done position task found) with ⟨-, skipped⟩ | ⟨answered, ended⟩
    · exact absurd (congrArg Task.progress skipped)
        (consistent.halts.not_skipped down (List.mem_of_getElem? found))
    · exact ⟨answered ▸ Option.some_ne_none _, ended.eq_finished⟩
  constructor
  · apply List.ext_getElem?
    intro position
    rw [List.getElem?_map]
    cases found : pool.tasks[position]? with
    | none =>
      have beyond := List.getElem?_eq_none_iff.1 found
      rw [List.getElem?_eq_none (recorded.length ▸ beyond)]
      rfl
    | some task =>
      rcases recorded.exists_unit found with ⟨unit, here, -⟩
      rw [here]
      exact congrArg some (ended position unit task here found).2
  · intro position within
    have here := List.getElem?_eq_getElem within
    have found := List.getElem?_eq_getElem (recorded.length.symm ▸ within)
    exact (ended position _ _ here found).1

end Undisturbed

end Pool

/-! ### The comparison -/

/-- Two applications to one batch come to the same, up to the order of times and diagnostics. -/
structure Walk.Matches (before : Session) (walk other : Walk) : Prop where
  error : walk.error? = other.error?
  units : walk.units = other.units
  grown : ∃ labels otherLabels diagnostics otherDiagnostics,
    before.Grows walk.services.session labels diagnostics ∧
    before.Grows other.services.session otherLabels otherDiagnostics ∧
    labels.Perm otherLabels ∧ diagnostics.Perm otherDiagnostics

/--
Under collect, an application with workers that nobody disturbs comes to the same
as one in order, however the steps of the workers fall: it succeeds, or fails with
the names of the units that did not parse in the order of the batch; every unit
ends up with the same body; the same times are added under the same labels and the
same diagnostics, in some order; and the shared scope stays closed.  What `apply`
does is one of these, if its workers start.
-/
theorem parallel_collect_matches_sequential (collaborator : stage.factory = .ofFunction parse)
    (policy : stage.options.onError = .collect)
    (live : services.Live (stage.deadlineToken services.now))
    (closed : services.session.isTiming = false)
    (placed : ∀ unit ∈ batch, Placed unit.source (parse unit.source))
    (finished : ∀ unit ∈ batch, ∀ error, parse unit.source = .error error →
      error.interrupt? = none) :
    let sequential := stage.inOrder.apply batch services
    let failed := (batch.filter fun unit => !parses parse unit).map (·.source.name)
    sequential.error? = (if failed.isEmpty then none else some (.failures failed)) ∧
    sequential.services.session.isTiming = false ∧
    (∀ walk, stage.CanEndIn batch services walk →
      walk.Matches services.session sequential ∧ walk.services.session.isTiming = false) ∧
    (stage.options.mode = .parallel → services.startsWorkers stage.options.workers = true →
      stage.CanEndIn batch services (stage.apply batch services)) := by
  intro sequential failed
  have quiet : services.tick.Live (stage.deadlineToken services.now) :=
    live.of_grows (.tick services)
  have sameFactory : stage.inOrder.factory = .ofFunction parse := collaborator
  have walked : CollectsAll parse batch sequential ∧
      services.tick.Grows sequential.services
        (batch.map fun unit => label unit.source (parses parse unit))
        (batch.flatMap fun unit => stage.reports unit.source (parse unit.source)) :=
    collectsAll_walk sameFactory closed quiet placed policy finished
  rcases walked with ⟨inOrder, grown⟩
  refine ⟨inOrder.error?, grown.session.isTiming_eq.trans closed, ?_, canEndIn_apply⟩
  intro walk ends
  rcases ends.exists_pool collaborator live placed with
    ⟨pool, calls, rfl, done, consistent, undisturbed⟩
  rcases consistent.eq_finished collaborator policy finished done undisturbed with
    ⟨tasks, complete⟩
  rcases Pool.collectsAll_gather policy placed finished pool.shared.services with
    ⟨collected, late⟩
  rw [← tasks] at collected late
  rcases consistent.accounted.of_isDone done with ⟨labels, diagnostics, early, labelled, reported⟩
  have all := early.trans late.session
  refine ⟨⟨?_, ?_, _, _, _, _, all, grown.session, ?_, ?_⟩, all.isTiming_eq.trans closed⟩
  · exact collected.error?.trans inOrder.error?.symm
  · exact collected.units.trans inOrder.units.symm
  · rw [List.append_nil]
    refine labelled.trans ?_
    rw [List.map_eq_flatMap, List.map_eq_flatMap]
    exact consistent.recorded.perm_flatMap collaborator complete
      fun source answer => [label source answer.isOk]
  · have recovered := consistent.recorded.perm_flatMap collaborator complete stage.recovered
    simp only [← recovered_append_refused]
    refine (reported.append_right _).trans ((recovered.append_right _).trans ?_)
    exact List.flatMap_append_perm ..

/-- Of two units, the first fails while the second is being parsed, and is reported after it. -/
theorem parallel_collect_matches_late_report :
    let tree : SyntaxTree := ⟨[.bare (.number 1 (.ofLength 0 1))]⟩
    let error : SyntaxError := .invalid "odd" (.empty 0)
    let parse : SourceFile → Except SyntaxError ParseOutput := fun source =>
      if source.name = "a.st" then .error error else .ok ⟨tree, [error]⟩
    let stage : ParseStage :=
      { phase := ⟨"parse", 1⟩, factory := .ofFunction parse, token := ⟨0, none⟩,
        options := { mode := .parallel, onError := .collect } }
    let batch : List CompilationUnit := [⟨⟨"a.st", "1"⟩, .unparsed⟩, ⟨⟨"b.st", "2"⟩, .unparsed⟩]
    let services : Services := {}
    let events : List Event :=
      List.replicate 5 (.work 1) ++ List.replicate 6 (.work 0) ++ List.replicate 3 (.work 1)
    let walk := ((Pool.ofUnits batch services.tick).run stage (stage.deadlineToken services.now)
      events).conclude stage
    let sequential := stage.inOrder.apply batch services
    services.Live (stage.deadlineToken services.now) ∧
      (∀ unit ∈ batch, Placed unit.source (parse unit.source)) ∧
      stage.CanEndIn batch services walk ∧ walk.Matches services.session sequential ∧
      walk.error? = some (.failures ["a.st"]) ∧
      walk.services.session.diagnostics.map (·.location) = [some "b.st:1:1", some "a.st:1:1"] ∧
      sequential.services.session.diagnostics.map (·.location) =
        [some "a.st:1:1", some "b.st:1:1"] := by
  intro tree error parse stage batch services events walk sequential
  have live : services.Live (stage.deadlineToken services.now) := fun _ _ => rfl
  have atStart : ∀ unit ∈ batch, ∀ problem ∈ reportedErrors (parse unit.source),
      problem.offset?.getD 0 = 0 := by
    decide +kernel
  have placed : ∀ unit ∈ batch, Placed unit.source (parse unit.source) :=
    fun unit member => .of_start (atStart unit member)
  have finished : ∀ unit ∈ batch, ∀ problem, parse unit.source = .error problem →
      problem.interrupt? = none := by
    intro unit _ problem answered
    by_cases first : unit.source.name = "a.st"
    · simp only [parse, first, if_true, Except.error.injEq] at answered
      rw [← answered]
      rfl
    · simp [parse, first] at answered
  have ends : stage.CanEndIn batch services walk := by
    refine ⟨events, ?_, ?_, rfl⟩
    · decide +kernel
    · decide +kernel
  have compared := parallel_collect_matches_sequential rfl rfl live rfl placed finished
  rcases compared.2.2.1 walk ends with ⟨same, -⟩
  refine ⟨live, placed, ends, same, ?_, ?_, ?_⟩
  · rw [same.error]
    exact compared.1
  · decide +kernel
  · decide +kernel

end ParseStage

end StagePipeline
