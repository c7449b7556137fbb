import StagePipeline.Proofs.ParallelCollect
import StagePipeline.Proofs.RunAccount

/-!
# The account of an application with workers

Workers leave the outcomes of their tasks to be gathered in the order of the batch, and
the gathering ends at the first task that ended fatally.  What has been recorded of the
calls until then, in whatever order they were made, and what the gathering adds are
together the account of the application.  `Recorded.account` says that every application,
in order or with workers, has an account.
-/

namespace StagePipeline

open Program

namespace ParseStage

variable {stage : ParseStage} {token : CancelToken}
  {allowed : SourceFile → Except SyntaxError ParseOutput → Prop}
  {unit : CompilationUnit} {services : Services}

/-! ### Outcomes in the order of the batch -/

namespace Task

variable {task : Task} {answer? : Option (Except SyntaxError ParseOutput)}

theorem judged_of_fatal (ended : task.Ended unit answer?) (fatal : task.isFatal stage = true)
    (services : Services) :
    ∃ error, task.judged stage services = ⟨.stopped error, task.unit, services⟩ ∧
      stage.EndsWith unit error answer? ∧ ∀ misuse, error ≠ .session misuse := by
  cases answer? with
  | none =>
    rcases ended with rfl | ⟨reason, rfl⟩
    · exact nomatch fatal
    · exact ⟨_, rfl, .inl ⟨reason, rfl⟩, nofun⟩
  | some answer =>
    cases answer with
    | ok output =>
      rw [ended] at fatal
      exact nomatch fatal
    | error error =>
      rw [ended] at fatal ⊢
      have fatal : stage.isFatal error = true := fatal
      refine ⟨stage.failure unit.source error, ?_, ?_, ?_⟩
      · simp [judged, settle, fatal]
      · simp [EndsWith, verdict, fatal]
      · intro misuse
        cases error <;> simp [failure, SyntaxError.interrupt?, interrupted]

theorem judged_of_harmless (ended : task.Ended unit answer?)
    (placed : ∀ answer ∈ answer?, Placed unit.source answer)
    (harmless : task.isFatal stage = false) (services : Services) :
    ∃ verdict left, task.judged stage services = ⟨verdict, task.unit, left⟩ ∧
      (∀ error, verdict ≠ .stopped error) ∧ (∀ answer ∈ answer?, stage.GoesOn answer) ∧
      services.Grows left [] (answer?.elim [] (stage.collected unit.source)) := by
  cases answer? with
  | none =>
    rcases ended with rfl | ⟨reason, rfl⟩
    · exact ⟨.parsed, services, rfl, nofun, nofun, .refl services⟩
    · exact nomatch harmless
  | some answer =>
    cases answer with
    | ok output =>
      rw [ended]
      refine ⟨.parsed, services, rfl, nofun, ?_, .refl services⟩
      rintro _ ⟨rfl⟩
      exact nofun
    | error error =>
      rw [ended] at harmless ⊢
      have goesOn : stage.GoesOn (.error error) := by
        rintro _ ⟨rfl⟩
        exact harmless
      rcases stage.exists_settle (placed _ rfl) services with ⟨left, settle_eq, grown⟩
      refine ⟨_, left, settle_eq, ?_, ?_, grown⟩
      · rw [verdict_of_goesOn goesOn]
        exact nofun
      · rintro _ ⟨rfl⟩
        exact goesOn

end Task

namespace Pool

/-- Gathering collects the failures before the first task that ended fatally. -/
theorem exists_gather {ends : List (CompilationUnit × Option (Except SyntaxError ParseOutput))}
    {tasks : List Task}
    (ended : List.Forall₂ (fun pair task => task.Ended pair.1 pair.2) ends tasks)
    (placed : ∀ pair ∈ ends, ∀ answer ∈ pair.2, Placed pair.1.source answer)
    (services : Services) :
    ∃ last, services.Grows (gather stage tasks services).services []
        ((ends.take last).flatMap fun pair => pair.2.elim [] (stage.collected pair.1.source)) ∧
      ((last = ends.length ∧ (gather stage tasks services).stopped = none ∧
          (∀ task ∈ tasks, task.isFatal stage = false) ∧
          ∀ pair ∈ ends, ∀ answer ∈ pair.2, stage.GoesOn answer) ∨
        ∃ pair error, ends[last]? = some pair ∧
          (gather stage tasks services).stopped = some error ∧
          stage.EndsWith pair.1 error pair.2 ∧ ∀ misuse, error ≠ .session misuse) := by
  induction ended generalizing services with
  | nil => exact ⟨0, .refl services, .inl ⟨rfl, rfl, nofun, nofun⟩⟩
  | @cons pair task pairs tasks here later inductive_hypothesis =>
    rcases List.forall_mem_cons.1 placed with ⟨placedHere, placedLater⟩
    rw [gather_cons_eq_before]
    cases fatal : task.isFatal stage with
    | true =>
      rcases Task.judged_of_fatal here fatal services with ⟨error, judged, ends⟩
      rw [judged]
      exact ⟨0, .refl services, .inr ⟨pair, error, rfl, rfl, ends⟩⟩
    | false =>
      rcases Task.judged_of_harmless here placedHere fatal services with
        ⟨verdict, left, judged, notStopped, goesOn, grown⟩
      rcases inductive_hypothesis placedLater left with ⟨last, more, ends⟩
      have before_eq : ∀ walk : Walk,
          (Visit.before ⟨verdict, task.unit, left⟩ (tasks.map (·.unit)) walk).services =
              walk.services ∧
            (Visit.before ⟨verdict, task.unit, left⟩ (tasks.map (·.unit)) walk).stopped =
              walk.stopped := by
        intro walk
        cases verdict with
        | stopped error => exact absurd rfl (notStopped error)
        | _ => exact ⟨rfl, rfl⟩
      rw [judged, (before_eq _).1, (before_eq _).2]
      refine ⟨last + 1, ?_, ?_⟩
      · exact grown.trans more
      · rcases ends with ⟨rfl, finished, harmless, others⟩ | ends
        · refine .inl ⟨rfl, finished, ?_, ?_⟩
          · exact List.forall_mem_cons.2 ⟨fatal, harmless⟩
          · exact List.forall_mem_cons.2 ⟨goesOn, others⟩
        · exact .inr ends

section Positions

variable {calls : List Call} {count last : Nat}

theorem find?_position (once : (calls.map (·.position)).Nodup) {call : Call}
    (member : call ∈ calls) :
    calls.find? (·.position == call.position) = some call := by
  cases found : calls.find? (·.position == call.position) with
  | none => exact absurd (BEq.refl call.position) (List.find?_eq_none.1 found call member)
  | some other =>
    have same : other.position = call.position := by simpa using List.find?_some found
    rw [List.inj_on_of_nodup_map once (List.mem_of_find?_eq_some found) member same]

/-- Calls for different units are those found when looking for each unit in turn. -/
theorem perm_by_position (once : (calls.map (·.position)).Nodup)
    (within : ∀ call ∈ calls, call.position < count) :
    calls.Perm ((List.range count).filterMap fun position =>
      calls.find? (·.position == position)) := by
  refine (List.perm_ext_iff_of_nodup (List.Nodup.of_map _ once) ?_).2 ?_
  · refine List.nodup_range.filterMap ?_
    intro position other call here there
    have first : call.position = position := by simpa using List.find?_some here
    have second : call.position = other := by simpa using List.find?_some there
    exact first.symm.trans second
  · intro call
    rw [List.mem_filterMap]
    constructor
    · intro member
      exact ⟨call.position, List.mem_range.2 (within call member), find?_position once member⟩
    · rintro ⟨position, _, found⟩
      exact List.mem_of_find?_eq_some found

theorem flatMap_filterMap {α β γ : Type} (list : List α) (find? : α → Option β)
    (part : β → List γ) :
    (list.filterMap find?).flatMap part =
      list.flatMap fun element => (find? element).elim [] part := by
  induction list with
  | nil => rfl
  | cons head rest inductive_hypothesis =>
    rw [List.flatMap_cons, ← inductive_hypothesis, List.filterMap_cons]
    cases find? head <;> rfl

/-- Taking the first elements of a list position by position. -/
theorem flatMap_take {α β : Type} (list : List α) (last : Nat) (part : α → List β) :
    (list.take last).flatMap part =
      (List.range list.length).flatMap fun position =>
        list[position]?.elim [] fun element => if position < last then part element else [] := by
  induction list generalizing last with
  | nil => rw [List.take_nil, List.length_nil, List.range_zero, List.flatMap_nil, List.flatMap_nil]
  | cons head rest inductive_hypothesis =>
    rw [List.length_cons, List.range_succ_eq_map, List.flatMap_cons, List.flatMap_map]
    cases last with
    | zero =>
      simp only [List.take_zero, List.flatMap_nil, Nat.not_lt_zero, if_false]
      refine (List.flatMap_eq_nil_iff.2 fun position _ => ?_).symm
      cases (head :: rest)[position + 1]? <;> rfl
    | succ last =>
      rw [List.take_succ_cons, List.flatMap_cons, inductive_hypothesis]
      simp

/-- What calls for units before a position come to, in the order of the units. -/
theorem perm_flatMap_take {batch : List CompilationUnit}
    (genuine : ∀ call ∈ calls, call.IsFor allowed batch) (once : (calls.map (·.position)).Nodup)
    {β : Type} (part : SourceFile → Except SyntaxError ParseOutput → List β) (last : Nat) :
    (calls.flatMap fun call =>
        if call.position < last then part call.source call.answer else []).Perm
      (((batch.mapIdx fun position unit => (unit, answerAt calls position)).take last).flatMap
        fun pair => pair.2.elim [] (part pair.1.source)) := by
  have within : ∀ call ∈ calls, call.position < batch.length := by
    intro call member
    rcases genuine call member with ⟨unit, here, -⟩
    exact (List.getElem?_eq_some_iff.1 here).1
  rw [flatMap_take, List.length_mapIdx]
  refine ((perm_by_position once within).flatMap_right _).trans (.of_eq ?_)
  rw [flatMap_filterMap]
  refine List.flatMap_congr fun position member => ?_
  have here := List.getElem?_eq_getElem (List.mem_range.1 member)
  rw [List.getElem?_mapIdx, here, Option.map_some, Option.elim_some]
  cases found : calls.find? (·.position == position) with
  | none =>
    have unanswered : answerAt calls position = none := by rw [answerAt, found, Option.map_none]
    rw [unanswered]
    simp
  | some call =>
    have answered : answerAt calls position = some call.answer := by
      rw [answerAt, found, Option.map_some]
    have there : call.position = position := by simpa using List.find?_some found
    rcases genuine call (List.mem_of_find?_eq_some found) with ⟨unit, located, same, -⟩
    rw [there, here] at located
    rcases Option.some.inj located with rfl
    rw [answered, Option.elim_some, Option.elim_some, there, same]

end Positions

/-! ### With workers -/

section Done

variable {batch : List CompilationUnit} {before : Session} {pool : Pool} {calls : List Call}
  {start : Pool}

theorem RecordedBy.ended (recorded : pool.RecordedBy allowed stage batch calls)
    (done : pool.isDone = true) :
    List.Forall₂ (fun pair task => task.Ended pair.1 pair.2)
      (batch.mapIdx fun position unit => (unit, answerAt calls position)) pool.tasks := by
  refine List.forall₂_iff_get.2 ⟨?_, ?_⟩
  · rw [List.length_mapIdx, recorded.length]
  · intro position inBatch inPool
    have within : position < batch.length := List.length_mapIdx ▸ inBatch
    have here := List.getElem?_eq_getElem within
    have found := List.getElem?_eq_getElem inPool
    simp only [List.get_eq_getElem, List.getElem_mapIdx]
    exact (recorded.fits position _ _ here found).ended (isDone_iff.1 done position _ found)

theorem RecordedBy.placed_ends (recorded : pool.RecordedBy allowed stage batch calls)
    (placed : ∀ source answer, allowed source answer → Placed source answer) :
    ∀ pair ∈ batch.mapIdx fun position unit => (unit, answerAt calls position),
      ∀ answer ∈ pair.2, Placed pair.1.source answer := by
  intro pair member answer given
  rcases List.mem_mapIdx.1 member with ⟨position, within, rfl⟩
  rcases exists_call_of_answerAt given with ⟨call, among, rfl, rfl⟩
  rcases recorded.genuine call among with ⟨unit, here, -, permitted⟩
  rw [List.getElem?_eq_getElem within] at here
  rcases Option.some.inj here with rfl
  exact placed _ _ permitted

theorem RecordedBy.exists_call_of_failedWith (recorded : pool.RecordedBy allowed stage batch calls)
    {task : Task} {failure : UnitFailure} (member : task ∈ pool.tasks)
    (failed : task.FailedWith failure) :
    ∃ call ∈ calls, call.source = task.unit.source ∧ call.answer.isOk = false := by
  rcases recorded.exists_error member failed with ⟨position, unit, error, here, same, given, -⟩
  rcases exists_call_of_answerAt given with ⟨call, among, rfl, rejected⟩
  rcases recorded.genuine call among with ⟨other, there, source, -⟩
  rcases Option.some.inj (here.symm.trans there) with rfl
  refine ⟨call, among, source.trans same, ?_⟩
  rw [rejected]
  rfl

/-- Where no task has ended fatally nothing was skipped, so every unit was called for. -/
theorem ConsistentBy.exists_answer
    (consistent : pool.ConsistentBy allowed stage batch before calls) (done : pool.isDone = true)
    (harmless : ∀ task ∈ pool.tasks, task.isFatal stage = false) {position : Nat}
    (within : position < batch.length) : ∃ answer, answerAt calls position = some answer := by
  have recorded := consistent.recorded
  have down := consistent.halts.halted_eq_false harmless
  have found := List.getElem?_eq_getElem (recorded.length.symm ▸ within)
  have among := List.mem_of_getElem? found
  have ended := (recorded.fits position _ _ (List.getElem?_eq_getElem within) found).ended
    (isDone_iff.1 done position _ found)
  cases given : answerAt calls position with
  | some answer => exact ⟨answer, rfl⟩
  | none =>
    rw [given] at ended
    rcases ended with skipped | ⟨reason, interrupted⟩
    · exact absurd (congrArg Task.progress skipped) (consistent.halts.not_skipped down among)
    · have notFatal := harmless _ among
      rw [interrupted] at notFatal
      exact nomatch notFatal

theorem consistentBy_of_recorded
    (placed : ∀ source answer, allowed source answer → Placed source answer)
    {services : Services}
    (recorded : RecordedPool stage allowed token (ofUnits batch services) pool calls) :
    pool.ConsistentBy allowed stage batch services.session calls := by
  induction recorded with
  | start => exact consistentBy_ofUnits allowed stage batch services
  | act recorded gives event inductive_hypothesis =>
    exact inductive_hypothesis.act gives (fun unit _ answer => placed unit.source answer) event

/-- A pool in which nothing is left to do comes to a walk with an account. -/
theorem ConsistentBy.account (consistent : pool.ConsistentBy allowed stage batch before calls)
    (placed : ∀ source answer, allowed source answer → Placed source answer)
    (done : pool.isDone = true) :
    ∃ last, Account stage allowed batch before (pool.conclude stage) calls last ∧
      ∀ misuse, (pool.conclude stage).stopped ≠ some (.session misuse) := by
  have recorded := consistent.recorded
  have gathered : Gathered stage pool.tasks pool.shared.services (pool.conclude stage) :=
    gathered_gather stage pool.tasks pool.shared.services
  rcases exists_gather (recorded.ended done) (recorded.placed_ends placed) pool.shared.services with
    ⟨last, late, ends⟩
  rcases consistent.accounted.of_isDone done with ⟨labels, diagnostics, early, labelled, reported⟩
  refine ⟨last, ⟨recorded.genuine, recorded.once, gathered.units.trans (recorded.units_eq done),
    ⟨labels ++ [], _, early.trans late.session, ?_, ?_⟩, ?_, ?_⟩, ?_⟩
  · rw [List.append_nil]
    exact labelled
  · have behind := perm_flatMap_take recorded.genuine recorded.once stage.collected last
    refine (reported.append behind.symm).trans ?_
    exact List.flatMap_append_perm ..
  · intro name listed
    rcases gathered.failed name listed with ⟨task, member, named, failure, failed⟩
    rcases recorded.exists_call_of_failedWith member failed with ⟨call, among, same, rejected⟩
    exact ⟨call, among, same ▸ named, rejected⟩
  · rw [List.length_mapIdx] at ends
    rcases ends with ⟨rfl, finished, harmless, goOn⟩ | ⟨pair, error, here, stopped, ends, -⟩
    · refine .inl ⟨rfl, finished, fun position within => ?_⟩
      rcases consistent.exists_answer done harmless within with ⟨answer, given⟩
      refine ⟨answer, given, goOn (batch[position], some answer) ?_ answer rfl⟩
      exact List.mem_mapIdx.2 ⟨position, within, by rw [given]⟩
    · rw [List.getElem?_mapIdx] at here
      rcases Option.map_eq_some_iff.1 here with ⟨unit, there, rfl⟩
      exact .inr ⟨unit, error, there, stopped, ends⟩
  · intro misuse misused
    rcases ends with ⟨-, finished, -⟩ | ⟨pair, error, -, stopped, -, other⟩
    · exact nomatch finished.symm.trans misused
    · exact other misuse (Option.some.inj (stopped.symm.trans misused))

end Done

end Pool

/-- Every application has an account. -/
theorem Recorded.account (placed : ∀ source answer, allowed source answer → Placed source answer)
    {batch : List CompilationUnit} {walk : Walk} {calls : List Call}
    (recorded : stage.Recorded allowed batch services walk calls) :
    ∃ last, Account stage allowed batch services.session walk calls last ∧
      match stage.options.mode with
      | .sequential => ∀ call ∈ calls, call.position ≤ last
      | .parallel => ∀ misuse, walk.stopped ≠ some (.session misuse) := by
  rw [Recorded] at recorded
  cases mode : stage.options.mode with
  | sequential =>
    rw [mode] at recorded
    have walked : RecordedWalk stage allowed _ batch services.tick walk calls := recorded
    exact walked.account placed
  | parallel =>
    rw [mode] at recorded
    rcases recorded with ⟨pool, reached, done, rfl⟩
    exact (Pool.consistentBy_of_recorded placed reached).account placed done

end ParseStage

end StagePipeline
