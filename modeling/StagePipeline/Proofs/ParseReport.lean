import StagePipeline.Proofs.CheckVerdict
import StagePipeline.Proofs.PoolAccount
import StagePipeline.Proofs.SummaryTotals

/-!
# The report on a parse

A report on a parse is put together from what different parts leave behind: the trees
stand in the batch, the times of the units are recorded by the stage and that of the stage
by a plugin, the diagnostics are in the session, and the failure is read off the way in
which the run ended.  They tell one story, since all of them follow from the answers of
the parsers.  If there is a report at all, no answer has ended the work, so every unit was
called for once, and `parse_report_follows_answers` reads the whole report off the answers.
-/

namespace StagePipeline

open Program

namespace ParseStage

variable {stage : ParseStage} {allowed : SourceFile → Except SyntaxError ParseOutput → Prop}
  {batch : List CompilationUnit} {before : Session} {walk : Walk} {calls : List Call} {last : Nat}

/-! ### Applications that are not stopped -/

/-- What has come of an application in which every unit was called for and nothing stopped it. -/
structure Completed (stage : ParseStage)
    (allowed : SourceFile → Except SyntaxError ParseOutput → Prop) (batch : List CompilationUnit)
    (before : Session) (walk : Walk)
    (answers : List (CompilationUnit × Except SyntaxError ParseOutput)) : Prop where
  asked : answers.map (·.1) = batch
  genuine : ∀ answered ∈ answers, allowed answered.1.source answered.2
  units : walk.units = answers.map fun answered => answered.1.receive answered.2
  grown : ∃ labels diagnostics,
    before.Grows walk.services.session labels diagnostics ∧
    labels.Perm (answers.map fun answered => label answered.1.source answered.2.isOk) ∧
    diagnostics.Perm (answers.flatMap fun answered => stage.reports answered.1.source answered.2)
  failed : walk.failed ≠ [] → ∃ answered ∈ answers, answered.2.isOk = false

/-- An answer that lets the work go on is told of in full. -/
theorem recovered_append_collected {source : SourceFile}
    {answer : Except SyntaxError ParseOutput} (goesOn : stage.GoesOn answer) :
    stage.recovered source answer ++ stage.collected source answer =
      stage.reports source answer := by
  cases answer with
  | ok output => exact List.append_nil _
  | error error =>
    have harmless := goesOn error rfl
    simp [collected, harmless, recovered, reports, reportedErrors]

/-- The answers to all units, if every unit has been answered. -/
theorem exists_answers {pairs : List (CompilationUnit × Option (Except SyntaxError ParseOutput))}
    (answered : ∀ pair ∈ pairs, ∃ answer, pair.2 = some answer) :
    ∃ answers : List (CompilationUnit × Except SyntaxError ParseOutput),
      pairs = answers.map fun answered => (answered.1, some answered.2) := by
  induction pairs with
  | nil => exact ⟨[], rfl⟩
  | cons pair rest inductive_hypothesis =>
    rcases List.forall_mem_cons.1 answered with ⟨⟨answer, here⟩, others⟩
    rcases inductive_hypothesis others with ⟨answers, rfl⟩
    exact ⟨(pair.1, answer) :: answers, by rw [List.map_cons, ← here]⟩

theorem map_mapIdx_answerAt {α : Type}
    (part : CompilationUnit × Option (Except SyntaxError ParseOutput) → α)
    (batch : List CompilationUnit) (calls : List Call) :
    (batch.mapIdx fun position unit => (unit, answerAt calls position)).map part =
      batch.mapIdx fun position unit => part (unit, answerAt calls position) :=
  List.ext_getElem? fun position => by simp [Function.comp_def]

namespace Account

variable (account : Account stage allowed batch before walk calls last)
  {answers : List (CompilationUnit × Except SyntaxError ParseOutput)}

include account

section Listed

variable (listed : (batch.mapIdx fun position unit => (unit, answerAt calls position)) =
  answers.map fun answered => (answered.1, some answered.2))

include listed

theorem genuine_of_listed {answered : CompilationUnit × Except SyntaxError ParseOutput}
    (member : answered ∈ answers) : allowed answered.1.source answered.2 := by
  have among : (answered.1, some answered.2) ∈ answers.map _ :=
    List.mem_map_of_mem (f := fun answered => (answered.1, some answered.2)) member
  rw [← listed] at among
  rcases List.mem_mapIdx.1 among with ⟨position, within, same⟩
  rcases Prod.mk.inj same with ⟨unit_eq, given⟩
  rcases exists_call_of_answerAt given with ⟨call, called, rfl, answer_eq⟩
  rcases account.genuine call called with ⟨unit, here, -, permitted⟩
  rcases Option.some.inj ((List.getElem?_eq_getElem within).symm.trans here)
  rw [← unit_eq, ← answer_eq]
  exact permitted

/-- Whatever the calls come to, the answers come to the same in the order of the batch. -/
theorem perm_answers {β : Type} (part : SourceFile → Except SyntaxError ParseOutput → List β) :
    (calls.flatMap fun call => part call.source call.answer).Perm
      (answers.flatMap fun answered => part answered.1.source answered.2) := by
  have taken := Pool.perm_flatMap_take account.genuine account.once part batch.length
  rw [List.take_of_length_le (Nat.le_of_eq List.length_mapIdx), listed, List.flatMap_map] at taken
  refine .trans (.of_eq (List.flatMap_congr fun call member => ?_)) taken
  rcases account.genuine call member with ⟨unit, here, -⟩
  rw [if_pos (List.getElem?_eq_some_iff.1 here).1]

end Listed

theorem completed (finished : walk.stopped = none) :
    ∃ answers, Completed stage allowed batch before walk answers := by
  rcases account.ends with ⟨rfl, -, goOn⟩ | ⟨unit, error, -, stopped, -⟩
  case inr => exact nomatch finished.symm.trans stopped
  have goesOn : ∀ pair ∈ batch.mapIdx fun position unit => (unit, answerAt calls position),
      ∃ answer, pair.2 = some answer ∧ stage.GoesOn answer := by
    intro pair member
    rcases List.mem_mapIdx.1 member with ⟨position, within, rfl⟩
    exact goOn position within
  rcases exists_answers (fun pair member => (goesOn pair member).imp fun _ both => both.1) with
    ⟨answers, listed⟩
  rcases account.grown with ⟨labels, diagnostics, grown, labelled, reported⟩
  refine ⟨answers, ?_, fun answered => account.genuine_of_listed listed, ?_,
    ⟨labels, diagnostics, grown, ?_, ?_⟩, ?_⟩
  · have units_eq := congrArg (List.map (·.1)) listed
    rw [map_mapIdx_answerAt, List.map_map] at units_eq
    exact units_eq.symm.trans (List.ext_getElem? fun position => by simp)
  · have units_eq := congrArg (List.map fun pair => pair.2.elim pair.1 pair.1.receive) listed
    rw [map_mapIdx_answerAt, List.map_map] at units_eq
    exact account.units.trans units_eq
  · have same := account.perm_answers listed fun source answer => [label source answer.isOk]
    rw [← List.map_eq_flatMap, ← List.map_eq_flatMap] at same
    exact labelled.trans same
  · have same := account.perm_answers listed fun source answer =>
      stage.recovered source answer ++ stage.collected source answer
    refine reported.trans (.trans (.of_eq ?_) (same.trans (.of_eq ?_)))
    · refine List.flatMap_congr fun call member => ?_
      rcases account.genuine call member with ⟨unit, here, -⟩
      rw [if_pos (List.getElem?_eq_some_iff.1 here).1]
    · rw [listed] at goesOn
      refine List.flatMap_congr fun answered member => ?_
      rcases goesOn _ (List.mem_map_of_mem member) with ⟨answer, given, onward⟩
      rcases Option.some.inj given with rfl
      exact recovered_append_collected onward
  · intro some_failed
    rcases List.exists_mem_of_ne_nil _ some_failed with ⟨name, member⟩
    rcases account.failed name member with ⟨call, among, -, rejected⟩
    have found := (account.perm_answers listed fun _ answer => [answer]).subset
      (List.mem_flatMap.2 ⟨call, among, List.mem_singleton_self _⟩)
    rcases List.mem_flatMap.1 found with ⟨answered, there, same⟩
    exact ⟨answered, there, List.mem_singleton.1 same ▸ rejected⟩

/-- No error that ends the work counts as reported. -/
theorem reported?_of_stopped {error : StageError} (stopped : walk.stopped = some error) :
    (RunError.stage error).reported? = none := by
  rcases account.ends with ⟨-, finished, -⟩ | ⟨unit, other, -, here, ends⟩
  · cases finished.symm.trans stopped
  · rcases Option.some.inj (stopped.symm.trans here) with rfl
    cases given : answerAt calls last with
    | none =>
      rw [given] at ends
      rcases ends with ⟨reason, rfl⟩ | rfl
      · rfl
      · rfl
    | some answer =>
      rw [given] at ends
      cases answer with
      | ok output => cases ends
      | error problem =>
        rw [EndsWith, verdict] at ends
        split at ends
        · rcases Verdict.stopped.inj ends with rfl
          cases problem <;> rfl
        · cases ends

end Account

end ParseStage

/-! ### Runs of a parse -/

namespace Config

/-- A parse of the configuration may run the pipeline: a check of the parse stage alone may. -/
def MayParseWith (config : Config) (pipeline : Pipeline Compilation) : Prop :=
  { config with stages := [.parse] }.MayCheckWith none pipeline

/-- A parse that runs a given pipeline. -/
def parseWith (pipeline : Pipeline Compilation) (compilation : Compilation) :
    Except OperationError ParseReport :=
  let (error?, after) := pipeline.run compilation
  match RunError.forReport error? with
  | .error error => .error (.run error)
  | .ok failure =>
    match after.parseReport? failure with
    | some report => .ok report
    | none => .error .totalTooLong

theorem parse_eq_parseWith (config : Config) (compilation : Compilation) :
    config.parse compilation = parseWith config.parsePipeline compilation :=
  rfl

theorem mayParseWith_parsePipeline (config : Config) :
    config.MayParseWith config.parsePipeline :=
  mayCheckWith_checkPipeline _ none

variable {config : Config} {pipeline : Pipeline Compilation} {compilation after : Compilation}

/-- A run of a parse is one application of the stage, with a time recorded if it succeeds. -/
theorem MayParseWith.exists_walk (possible : config.MayParseWith pipeline)
    {error? : Option RunError} (ran : pipeline.run compilation = (error?, after)) :
    ∃ walk, (StageKind.parseStage 1 config.settings).Applied
        { recover := config.settings.parse.recover } compilation.units compilation.services.tick
        walk ∧
      error? = walk.error?.map .stage ∧ after.units = walk.units ∧
      walk.services.session.Grows after.session
        (if walk.error? = none then ["stage parse"] else []) [] := by
  rcases pipeline with ⟨stages, plugins⟩
  have installed : plugins = [.timing 0] := possible.plugins
  rcases possible.stages with _ | ⟨⟨apply, applies⟩, _ | _⟩
  rw [installed] at ran
  let begun : Compilation := ((Plugin.timing 0).before ⟨"parse", 1⟩ compilation).2
  rcases applies begun with ⟨walk, applied, applied_eq⟩
  refine ⟨walk, applied, ?_⟩
  have run_eq : Action.inOrder [(Plugin.timing 0).before ⟨"parse", 1⟩, apply,
      (Plugin.timing 0).after ⟨"parse", 1⟩] compilation = (error?, after) := by
    rw [← ran, Pipeline.run_of_ordered rfl]
    rfl
  have before_eq : (Plugin.timing 0).before ⟨"parse", 1⟩ compilation = (none, begun) := rfl
  simp only [Action.inOrder, Action.andThen, before_eq, applied_eq] at run_eq
  cases ended : walk.error? with
  | some error =>
    simp only [ended, Option.map_some] at run_eq
    rcases Prod.mk.inj run_eq with ⟨rfl, rfl⟩
    exact ⟨rfl, rfl, .refl _⟩
  | none =>
    simp only [ended, Option.map_none] at run_eq
    rcases Prod.mk.inj run_eq with ⟨rfl, rfl⟩
    exact ⟨rfl, rfl, .record _ _⟩

theorem exists_failure_of_parseWith {report : ParseReport}
    (parsed : parseWith pipeline compilation = .ok report) :
    ∃ error? after failure summary, pipeline.run compilation = (error?, after) ∧
      RunError.forReport error? = .ok failure ∧ after.session.summary? = some summary ∧
      report =
        { units := after.printedUnits
          timings := after.session.timings
          summary := summary
          diagnostics := after.session.diagnostics
          failure := failure } := by
  rcases ran : pipeline.run compilation with ⟨error?, after⟩
  simp only [parseWith, ran] at parsed
  cases told : RunError.forReport error? with
  | error error =>
    rw [told] at parsed
    exact nomatch parsed
  | ok failure =>
    simp only [told, Compilation.parseReport?] at parsed
    cases added : after.session.summary? with
    | none =>
      rw [added] at parsed
      exact nomatch parsed
    | some summary =>
      rw [added] at parsed
      exact ⟨error?, after, failure, summary, rfl, told, added, (Except.ok.inj parsed).symm⟩

end Config

/-! ### The report -/

theorem CompilationUnit.tree?_receive {unit : CompilationUnit} (fresh : unit.isParsed = false)
    (answer : Except SyntaxError ParseOutput) :
    (unit.receive answer).tree? = answer.toOption.map (·.tree) := by
  cases answer with
  | ok output => rfl
  | error error =>
    rw [isParsed, Option.isSome_eq_false_iff, Option.isNone_iff_eq_none] at fresh
    exact fresh

theorem ParseStage.Completed.error?_eq_none_iff {stage : ParseStage} {options : ParserOptions}
    {batch : List CompilationUnit} {services : Services} {walk : Walk}
    {answers : List (CompilationUnit × Except SyntaxError ParseOutput)}
    (completed : Completed stage options.MayAnswer batch services.session walk answers)
    (applied : stage.Applied options batch services walk) (finished : walk.stopped = none)
    (fresh : ∀ answered ∈ answers, answered.1.isParsed = false) :
    walk.error? = none ↔ ∀ answered ∈ answers, answered.2.toOption.isSome = true := by
  constructor
  · intro succeeds answered member
    have stored := applied.isParsed succeeds (answered.1.receive answered.2)
      (completed.units ▸ List.mem_map_of_mem member)
    rw [CompilationUnit.isParsed, CompilationUnit.tree?_receive (fresh answered member),
      Option.isSome_map] at stored
    exact stored
  · intro all
    refine Walk.error?_eq_none_iff.2 ⟨finished, ?_⟩
    by_contra some_failed
    rcases completed.failed some_failed with ⟨answered, member, rejected⟩
    have given := all answered member
    cases answer : answered.2 with
    | ok output =>
      rw [answer] at rejected
      exact nomatch rejected
    | error error =>
      rw [answer] at given
      exact nomatch given

theorem Config.MayParseWith.exists_completed {config : Config} {pipeline : Pipeline Compilation}
    {compilation after : Compilation} {error? : Option RunError} {failure : Option String}
    (possible : config.MayParseWith pipeline) (ran : pipeline.run compilation = (error?, after))
    (told : RunError.forReport error? = .ok failure)
    (fresh : ∀ unit ∈ compilation.units, unit.isParsed = false) :
    let stage := StageKind.parseStage 1 config.settings
    let options : ParserOptions := { recover := config.settings.parse.recover }
    ∃ walk answers,
      ParseStage.Completed stage options.MayAnswer compilation.units compilation.session walk
        answers ∧
      (failure = none ↔ ∀ answered ∈ answers, answered.2.toOption.isSome = true) ∧
      after.units = walk.units ∧
      walk.services.session.Grows after.session
        (if failure = none then ["stage parse"] else []) [] := by
  intro stage options
  rcases possible.exists_walk ran with ⟨walk, applied, rfl, units_eq, grown⟩
  have workers : walk.stopped ≠ some .workerPool := by
    intro stopped
    rw [ParseStage.Walk.error?, stopped] at told
    cases told
  rcases applied.exists_recorded.resolve_left workers with ⟨calls, recorded⟩
  rcases recorded.account (fun _ _ given => given.placed) with ⟨last, account, -⟩
  -- The report can tell of the end of the run, so nothing has ended the work.
  have finished : walk.stopped = none := by
    cases stopped : walk.stopped with
    | none => rfl
    | some error =>
      have ended : walk.error? = some error := by rw [ParseStage.Walk.error?, stopped]
      rw [ended, Option.map_some, RunError.forReport, account.reported?_of_stopped stopped] at told
      cases told
  have failure_iff : failure = none ↔ walk.error? = none := by
    rcases RunError.forReport_eq_ok told with ⟨unfailed, rfl⟩ | ⟨error, failed, -, told⟩
    · exact iff_of_true rfl (Option.map_eq_none_iff.1 unfailed)
    · refine iff_of_false told fun succeeds => ?_
      rw [succeeds] at failed
      cases failed
  rcases account.completed finished with ⟨answers, completed⟩
  refine ⟨walk, answers, completed, ?_, units_eq, ?_⟩
  · refine failure_iff.trans (completed.error?_eq_none_iff applied finished ?_)
    intro answered member
    exact fresh _ (completed.asked ▸ List.mem_map_of_mem member)
  · simp only [failure_iff]
    exact grown

/-- The label under which a report on a parse has the time of a unit that was fresh. -/
def PrintedUnit.label (unit : PrintedUnit) : String :=
  if unit.tree.isSome then s!"parsed {unit.name}" else s!"failed {unit.name}"

/-- What a report shows of a unit whose parser has answered. -/
def PrintedUnit.ofAnswer (unit : CompilationUnit) (answer : Except SyntaxError ParseOutput) :
    PrintedUnit where
  name := unit.source.name
  tree := answer.toOption.map (·.tree.render)

theorem PrintedUnit.firstWord_label (unit : PrintedUnit) :
    Text.firstWord unit.label = if unit.tree.isSome then "parsed" else "failed" := by
  have split : unit.label.toList =
      (if unit.tree.isSome then "parsed" else "failed").toList ++ ' ' :: unit.name.toList := by
    rw [label]
    cases unit.tree.isSome <;> simp [toString]
  refine Text.firstWord_eq split (by decide) ?_ ?_
  · cases unit.tree.isSome <;> decide
  · cases unit.tree.isSome <;> decide

theorem PrintedUnit.label_ofAnswer (unit : CompilationUnit)
    (answer : Except SyntaxError ParseOutput) :
    (ofAnswer unit answer).label = ParseStage.label unit.source answer.isOk := by
  cases answer <;> rfl

/-- A report shows of each unit what its answer was, if the unit was fresh. -/
theorem ParseStage.Completed.printedUnits {stage : ParseStage}
    {allowed : SourceFile → Except SyntaxError ParseOutput → Prop} {batch : List CompilationUnit}
    {before : Session} {walk : Walk}
    {answers : List (CompilationUnit × Except SyntaxError ParseOutput)}
    (completed : Completed stage allowed batch before walk answers)
    (fresh : ∀ unit ∈ batch, unit.isParsed = false) {after : Compilation}
    (units_eq : after.units = walk.units) :
    after.printedUnits = answers.map fun answered => .ofAnswer answered.1 answered.2 := by
  rw [Compilation.printedUnits, units_eq, completed.units, List.map_map]
  refine List.map_congr_left fun answered member => ?_
  have fresh_here : answered.1.isParsed = false :=
    fresh _ (completed.asked ▸ List.mem_map_of_mem member)
  rw [Function.comp_apply, CompilationUnit.source_receive,
    CompilationUnit.tree?_receive fresh_here, Option.map_map]
  rfl

/-- The groups that the times of a parse fall into. -/
theorem PrintedUnit.group_mem {timings : List Timing} {units : List PrintedUnit}
    {failure : Option String}
    (labelled : (timings.map (·.label)).Perm
      (units.map (·.label) ++ if failure = none then ["stage parse"] else []))
    {group : String} (occurs : group ∈ Session.categories timings) :
    group ∈ ["parsed", "failed", "stage"] := by
  rcases Session.mem_categories_iff.1 occurs with ⟨timing, among, rfl⟩
  rw [Session.category]
  rcases List.mem_append.1 (labelled.subset (List.mem_map_of_mem among)) with here | last
  · rcases List.mem_map.1 here with ⟨unit, -, same⟩
    rw [← same, firstWord_label]
    split
    · exact List.mem_cons_self
    · exact List.mem_cons_of_mem _ List.mem_cons_self
  · split at last
    · rw [List.mem_singleton.1 last]
      decide +kernel
    · exact absurd last List.not_mem_nil

namespace Config

variable {config : Config} {pipeline : Pipeline Compilation} {compilation : Compilation}
  {report : ParseReport}

/--
The report on a parse follows from the answers of the parsers to the units, which were
fresh and are all asked once if there is a report.  The units with a tree are those whose
answer has one.  There is no failure exactly if that is every unit.  The times are one for
each unit, and one for the stage exactly if there is no failure.  The diagnostics are what
the answers tell of, which is one error for a unit without a tree, and the totals add up
the times by the first words of their labels.
-/
theorem parse_report_follows_answers (possible : config.MayParseWith pipeline)
    (unused : compilation.session = {})
    (fresh : ∀ unit ∈ compilation.units, unit.isParsed = false)
    (parsed : parseWith pipeline compilation = .ok report) :
    let stage := StageKind.parseStage 1 config.settings
    let options : ParserOptions := { recover := config.settings.parse.recover }
    ∃ answers : List (CompilationUnit × Except SyntaxError ParseOutput),
      (answers.map (·.1) = compilation.units ∧
        ∀ answered ∈ answers, options.MayAnswer answered.1.source answered.2) ∧
      report.units = answers.map (fun answered => .ofAnswer answered.1 answered.2) ∧
      (report.failure = none ↔ ∀ unit ∈ report.units, unit.tree.isSome = true) ∧
      (report.failure = none ↔ report.parsedCount = compilation.units.length) ∧
      (report.failure = none →
        report.verdict = .preformatted s!"✓ parsed {countUnits compilation.units.length}") ∧
      (report.timings.map (·.label)).Perm
        (report.units.map (·.label) ++ if report.failure = none then ["stage parse"] else []) ∧
      report.diagnostics.Perm
        (answers.flatMap fun answered => stage.reports answered.1.source answered.2) ∧
      (∀ answered ∈ answers, answered.2.toOption = none →
        ∃ error, answered.2 = .error error ∧
          stage.reports answered.1.source answered.2 = [stage.diagnosis answered.1.source error] ∧
          (stage.diagnosis answered.1.source error).severity = .error) ∧
      report.summary.map (·.1) = Session.categories report.timings ∧
      ∀ entry ∈ report.summary, entry.1 ∈ ["parsed", "failed", "stage"] ∧
        entry.2.nanoseconds = Session.spent report.timings entry.1 := by
  intro stage options
  rcases exists_failure_of_parseWith parsed with
    ⟨error?, after, failure, summary, ran, told, added, rfl⟩
  rcases possible.exists_completed ran told fresh with
    ⟨walk, answers, completed, trees_iff, units_eq, grown_after⟩
  have shown := completed.printedUnits fresh units_eq
  have all_shown : failure = none ↔ ∀ unit ∈ after.printedUnits, unit.tree.isSome = true := by
    rw [trees_iff, shown, List.forall_mem_map]
    simp only [PrintedUnit.ofAnswer, Option.isSome_map]
  rcases completed.grown with ⟨labels, diagnostics, grown, labelled, reported⟩
  have whole := grown.trans grown_after
  rw [unused] at whole
  have labels_perm : (after.session.timings.map (·.label)).Perm
      (after.printedUnits.map (·.label) ++ if failure = none then ["stage parse"] else []) := by
    rcases whole.timings with ⟨timings, timings_eq, labels_eq⟩
    rw [List.nil_append] at timings_eq
    rw [timings_eq, labels_eq, shown, List.map_map]
    refine (labelled.trans (.of_eq ?_)).append_right _
    exact List.map_congr_left fun answered _ => (PrintedUnit.label_ofAnswer _ _).symm
  have diagnostics_eq : after.session.diagnostics = diagnostics := by
    rw [whole.diagnostics, List.nil_append, List.append_nil]
  have tallies := Session.tallies_of_totals added
  have counted : failure = none ↔
      after.printedUnits.countP (·.tree.isSome) = compilation.units.length := by
    have same_length : after.printedUnits.length = compilation.units.length := by
      rw [shown, List.length_map, ← completed.asked, List.length_map]
    rw [all_shown, ← same_length, List.countP_eq_length]
  refine ⟨answers, ⟨completed.asked, completed.genuine⟩, shown, all_shown, counted, ?_,
    labels_perm, diagnostics_eq ▸ reported, ?_, tallies.names, ?_⟩
  · rintro rfl
    simp only [ParseReport.verdict, ParseReport.parsedCount, counted.1 rfl]
  · rintro ⟨unit, answer⟩ member treeless
    cases answer with
    | ok output => exact nomatch treeless
    | error error => exact ⟨error, rfl, rfl, rfl⟩
  · intro entry member
    refine ⟨PrintedUnit.group_mem labels_perm ?_, tallies.exact entry member⟩
    exact tallies.names ▸ List.mem_map_of_mem member

/-- The failure of the second of three units is collected. -/
theorem parse_report_follows_answers_failed_unit :
    let config : Config :=
      { settings := { parse := { onError := .collect } } }
    let compilation : Compilation :=
      { units := [⟨⟨"a.st", "let a = 1"⟩, .unparsed⟩, ⟨⟨"b.st", "2 +"⟩, .unparsed⟩,
          ⟨⟨"c.st", "3"⟩, .unparsed⟩]
        services := { clock := { reading := (10 * ·) } } }
    let report : ParseReport :=
      { units := [⟨"a.st", some "(let a 1)\n"⟩, ⟨"b.st", none⟩, ⟨"c.st", some "3\n"⟩]
        timings := [⟨"parsed a.st", ⟨20, by decide⟩⟩, ⟨"failed b.st", ⟨20, by decide⟩⟩,
          ⟨"parsed c.st", ⟨20, by decide⟩⟩]
        summary := [("parsed", ⟨40, by decide⟩), ("failed", ⟨20, by decide⟩)]
        diagnostics :=
          [⟨.error, "parse", "expected an expression, found end of input", some "b.st:1:4"⟩]
        failure := some "1 unit(s) failed to parse: b.st" }
    config.MayParseWith config.parsePipeline ∧ compilation.session = {} ∧
      (∀ unit ∈ compilation.units, unit.isParsed = false) ∧
      config.parse compilation = .ok report ∧
      report.parsedCount ≠ compilation.units.length ∧
      (report.timings.map (·.label)).Perm ["parsed a.st", "failed b.st", "parsed c.st"] ∧
      report.summary.map (·.1) = Session.categories report.timings ∧
      ∀ entry ∈ report.summary, entry.2.nanoseconds = Session.spent report.timings entry.1 := by
  intro config compilation report
  have possible := config.mayParseWith_parsePipeline
  have fresh : ∀ unit ∈ compilation.units, unit.isParsed = false := by decide
  have parsed : config.parse compilation = .ok report := by decide +kernel
  rcases parse_report_follows_answers possible rfl fresh parsed with
    ⟨answers, -, -, -, counted, -, timed, -, -, names, totals⟩
  refine ⟨possible, rfl, fresh, parsed, mt counted.2 (by decide), ?_, names, ?_⟩
  · exact timed.trans (.of_eq (by decide +kernel))
  · exact fun entry member => (totals entry member).2

end Config

end StagePipeline
