import StagePipeline.Proofs.PoolAccount

/-!
# What is reported under collect

Under collect the stage is to report every failure.  In order it does: a failure is
reported before the next unit is looked at.  With workers a failure is reported when the
outcomes are gathered, and the gathering ends at the first unit that was interrupted.  So
a unit may have failed, and the time of it may have been recorded, without a diagnostic,
namely if a unit before it in the batch was interrupted.  `collect_loses_iff_behind_interrupt`
says that this is the only way in which a failure is lost.
-/

namespace StagePipeline

open Program

namespace ParseStage

variable {stage : ParseStage} {batch : List CompilationUnit} {services : Services} {walk : Walk}
  {calls : List Call} {last : Nat}

/-- The error of a call that failed, unless the parser was interrupted. -/
def Call.failure? (call : Call) : Option SyntaxError :=
  match call.answer with
  | .ok _ => none
  | .error error => if error.interrupt?.isSome then none else some error

/-- The diagnostics that a call is to leave: what was passed over, or one for its failure. -/
def due (stage : ParseStage) (call : Call) : List Diagnostic :=
  stage.recovered call.source call.answer ++ call.failure?.toList.map (stage.diagnosis call.source)

theorem collected_eq (policy : stage.options.onError = .collect) (call : Call) :
    stage.collected call.source call.answer =
      call.failure?.toList.map (stage.diagnosis call.source) := by
  rcases call with ⟨position, source, answer⟩
  cases answer with
  | ok output => rfl
  | error error =>
    cases interrupted : error.interrupt?.isSome <;>
      simp [collected, Call.failure?, isFatal, policy, interrupted]

/-- Under collect only an interrupt ends the work. -/
theorem interrupted_of_verdict (policy : stage.options.onError = .collect) {unit : CompilationUnit}
    {answer : Except SyntaxError ParseOutput} {error : StageError}
    (stopped : stage.verdict unit answer = .stopped error) :
    ∃ reason, answer = .error (.interrupted reason) ∧
      error = .interrupted stage.phase.name unit.source.name reason := by
  cases answer with
  | ok output => exact nomatch stopped
  | error problem =>
    cases problem with
    | interrupted reason =>
      refine ⟨reason, rfl, ?_⟩
      have fatal : stage.isFatal (.interrupted reason) = true := by
        simp [isFatal, SyntaxError.interrupt?]
      rw [verdict, if_pos fatal] at stopped
      exact (Verdict.stopped.inj stopped).symm
    | _ => simp [verdict, isFatal, policy, SyntaxError.interrupt?] at stopped

namespace Account

variable {before : Session}
  (account : Account stage Placed batch before walk calls last)
  (policy : stage.options.onError = .collect)

include account policy

/-- The unit at which the application ends has not failed, since it was interrupted. -/
theorem failure?_of_position {call : Call} (member : call ∈ calls) (here : call.position = last) :
    call.failure? = none := by
  rcases account.ends with ⟨beyond, -, -⟩ | ⟨unit, error, -, -, ends⟩
  · rcases account.genuine call member with ⟨unit, within, -⟩
    have bound := (List.getElem?_eq_some_iff.1 within).1
    exact absurd (here.trans beyond) (Nat.ne_of_lt bound)
  · have answered : answerAt calls last = some call.answer := by
      rw [answerAt, ← here, Pool.find?_position account.once member, Option.map_some]
    rw [answered] at ends
    rcases interrupted_of_verdict policy ends with ⟨reason, interrupted, -⟩
    simp [Call.failure?, interrupted, SyntaxError.interrupt?]

theorem ends_cases :
    (last = batch.length ∧ walk.stopped = none) ∨
      (∃ unit reason, batch[last]? = some unit ∧
        walk.error? = some (.interrupted stage.phase.name unit.source.name reason)) ∨
      walk.stopped = some (.session .scopeAlreadyOpen) := by
  rcases account.ends with ⟨beyond, finished, -⟩ | ⟨unit, error, here, stopped, ends⟩
  · exact .inl ⟨beyond, finished⟩
  · have error?_eq : walk.error? = some error := by rw [Walk.error?, stopped]
    cases answered : answerAt calls last with
    | none =>
      rw [answered] at ends
      rcases ends with ⟨reason, rfl⟩ | rfl
      · exact .inr (.inl ⟨unit, reason, here, error?_eq⟩)
      · exact .inr (.inr stopped)
    | some answer =>
      rw [answered] at ends
      rcases interrupted_of_verdict policy ends with ⟨reason, -, rfl⟩
      exact .inr (.inl ⟨unit, reason, here, error?_eq⟩)

end Account

/-- Leaving out some parts leaves out nothing exactly if those parts are empty. -/
theorem perm_flatMap_if_iff {α β : Type} (list : List α) (first second : α → List β)
    (keeps : α → Prop) [DecidablePred keeps] :
    (list.flatMap fun element => first element ++ if keeps element then second element else []).Perm
        (list.flatMap fun element => first element ++ second element) ↔
      ∀ element ∈ list, ¬ keeps element → second element = [] := by
  constructor
  · intro same
    let kept (element : α) : List β := if keeps element then second element else []
    let lost (element : α) : List β := if keeps element then [] else second element
    have split : ∀ element, second element = kept element ++ lost element := by
      intro element
      by_cases stays : keeps element <;> simp [kept, lost, stays]
    have shared : (list.flatMap first ++ list.flatMap kept).Perm
        (list.flatMap first ++ list.flatMap second) :=
      (List.flatMap_append_perm ..).trans (same.trans (List.flatMap_append_perm ..).symm)
    have whole : (list.flatMap kept).Perm (list.flatMap kept ++ list.flatMap lost) := by
      refine ((List.perm_append_left_iff _).1 shared).trans (.trans (.of_eq ?_)
        (List.flatMap_append_perm ..).symm)
      exact List.flatMap_congr fun element _ => split element
    have nothing : list.flatMap lost = [] := by
      have length := whole.length_eq
      rw [List.length_append] at length
      exact List.eq_nil_of_length_eq_zero (Nat.left_eq_add.1 length)
    intro element member leaves
    rw [split element, List.flatMap_eq_nil_iff.1 nothing element member]
    simp [kept, leaves]
  · intro nothing
    refine .of_eq (List.flatMap_congr fun element member => ?_)
    by_cases stays : keeps element
    · rw [if_pos stays]
    · rw [nothing element member stays, if_neg stays]

theorem failure?_eq_none_iff (stage : ParseStage) (call : Call) :
    call.failure?.toList.map (stage.diagnosis call.source) = [] ↔ call.failure? = none := by
  cases call.failure? <;> simp

/--
Under collect, an application, whatever its parsers answer and whoever cancels in the
meantime, records one time for each call and reports of each call what was passed over.
The failures that it reports, each once, are those of the calls before the unit at which
it ends; so it reports every failure exactly if no unit behind that one has failed.  In
order no unit behind it is called for, and with workers an application that does not
reach the end of the batch was interrupted there.  What `apply` does is one of these
applications, unless its workers cannot be started.
-/
theorem collect_loses_iff_behind_interrupt (policy : stage.options.onError = .collect) :
    (∀ walk calls, stage.Recorded Placed batch services walk calls →
      (∀ call ∈ calls, call.IsFor Placed batch) ∧ (calls.map (·.position)).Nodup ∧
      ∃ labels diagnostics last,
        services.session.Grows walk.services.session labels diagnostics ∧
        labels.Perm (calls.map fun call => label call.source call.answer.isOk) ∧
        diagnostics.Perm (calls.flatMap fun call => stage.recovered call.source call.answer ++
          if call.position < last then
            call.failure?.toList.map (stage.diagnosis call.source)
          else []) ∧
        (diagnostics.Perm (calls.flatMap stage.due) ↔
          ∀ call ∈ calls, last < call.position → call.failure? = none) ∧
        (stage.options.mode = .sequential → ∀ call ∈ calls, call.position ≤ last) ∧
        (last = batch.length ∧ walk.stopped = none ∨
          (∃ unit reason, batch[last]? = some unit ∧
            walk.error? = some (.interrupted stage.phase.name unit.source.name reason)) ∨
          stage.options.mode = .sequential ∧
            walk.error? = some (.session .scopeAlreadyOpen))) ∧
    (stage.factory.Gives Placed →
      (stage.options.mode = .parallel →
        services.startsWorkers stage.options.workers = true) →
      ∃ calls, stage.Recorded Placed batch services (stage.apply batch services) calls) := by
  refine ⟨?_, fun gives => recorded_apply gives batch⟩
  intro walk calls recorded
  rcases recorded.account (fun _ _ located => located) with ⟨last, account, ends⟩
  rcases account.grown with ⟨labels, diagnostics, grown, labelled, reported⟩
  simp only [collected_eq policy] at reported
  refine ⟨account.genuine, account.once, labels, diagnostics, last, grown, labelled, reported, ?_,
    ?_, ?_⟩
  · have exact_iff := perm_flatMap_if_iff calls
      (fun call => stage.recovered call.source call.answer)
      (fun call => call.failure?.toList.map (stage.diagnosis call.source))
      (fun call => call.position < last)
    refine (reported.congr_left _).trans (exact_iff.trans ?_)
    constructor
    · intro nothing call member behind
      exact (failure?_eq_none_iff stage call).1 (nothing call member (Nat.not_lt_of_gt behind))
    · intro nothing call member notBefore
      rw [failure?_eq_none_iff]
      rcases Nat.lt_or_eq_of_le (Nat.le_of_not_lt notBefore) with behind | here
      · exact nothing call member behind
      · exact account.failure?_of_position policy member here.symm
  · intro sequential
    rw [sequential] at ends
    exact ends
  · rcases account.ends_cases policy with finished | interrupted | misused
    · exact .inl finished
    · exact .inr (.inl interrupted)
    · cases mode : stage.options.mode with
      | sequential => exact .inr (.inr ⟨rfl, by rw [Walk.error?, misused]⟩)
      | parallel =>
        rw [mode] at ends
        exact absurd misused (ends .scopeAlreadyOpen)

/--
Of three units, the last has got its tree when the building of a parser cancels the token.
The first has failed and is reported.
-/
theorem collect_loses_nothing_before_interrupt :
    let error : SyntaxError := .unexpectedChar '?' (.ofLength 0 1)
    let stage : ParseStage :=
      { phase := ⟨"parse", 1⟩, token := ⟨0, none⟩,
        factory := { ParserFactory.program {} with cancels := (·.name == "b.st") },
        options := { mode := .parallel, workers := 2, onError := .collect } }
    let batch : List CompilationUnit :=
      [⟨⟨"a.st", "?"⟩, .unparsed⟩, ⟨⟨"b.st", "2"⟩, .unparsed⟩, ⟨⟨"c.st", "3"⟩, .unparsed⟩]
    let services : Services := {}
    let events : List Event :=
      [2, 0, 1].flatMap fun position => List.replicate 8 (.work position)
    let start := Pool.ofUnits batch services.tick
    let calls := start.calls stage (stage.deadlineToken services.now) events
    let walk := (start.run stage (stage.deadlineToken services.now) events).conclude stage
    stage.Recorded Placed batch services walk calls ∧
      walk.error? = some (.interrupted "parse" "b.st" .cancelled) ∧
      walk.services.session.diagnostics.Perm [stage.diagnosis ⟨"a.st", "?"⟩ error] := by
  intro error stage batch services events start calls walk
  have gives : stage.factory.Gives Placed := fun signal source =>
    (ParserOptions.mayAnswer_parse {} signal source).placed
  have recorded : stage.Recorded Placed batch services walk calls :=
    Interleaved.recorded rfl gives ⟨by decide +kernel, rfl⟩
  rcases (collect_loses_iff_behind_interrupt rfl).1 walk calls recorded with
    ⟨-, -, labels, diagnostics, last, grown, -, -, complete, -, -⟩
  have only_first : ∀ call ∈ calls, call.failure? ≠ none → call.position = 0 := by decide +kernel
  have due_eq : calls.flatMap stage.due = [stage.diagnosis ⟨"a.st", "?"⟩ error] := by
    decide +kernel
  have reported := complete.2 fun call member behind => by
    by_contra failed
    rw [only_first call member failed] at behind
    exact Nat.not_lt_zero last behind
  refine ⟨recorded, by decide +kernel, ?_⟩
  rw [grown.diagnostics, ← due_eq]
  exact reported

/--
Two workers take a half of four units each.  The third unit has failed when the building
of the parser of the second cancels the token.  Nothing is reported of the third, though
its time is recorded: the gathering has ended before it.
-/
theorem parallel_collect_may_lose_failure :
    let error : SyntaxError := .unexpectedChar '?' (.ofLength 0 1)
    let stage : ParseStage :=
      { phase := ⟨"parse", 1⟩, token := ⟨0, none⟩,
        factory := { ParserFactory.program {} with cancels := (·.name == "b.st") },
        options := { mode := .parallel, workers := 2, onError := .collect } }
    let batch : List CompilationUnit :=
      [⟨⟨"a.st", "?"⟩, .unparsed⟩, ⟨⟨"b.st", "2"⟩, .unparsed⟩, ⟨⟨"c.st", "?"⟩, .unparsed⟩,
        ⟨⟨"d.st", "4"⟩, .unparsed⟩]
    let services : Services := {}
    let events : List Event :=
      [0, 2, 1, 3].flatMap fun position => List.replicate 8 (.work position)
    let start := Pool.ofUnits batch services.tick
    let calls := start.calls stage (stage.deadlineToken services.now) events
    let walk := (start.run stage (stage.deadlineToken services.now) events).conclude stage
    stage.Recorded Placed batch services walk calls ∧
      (∃ call ∈ calls, call.source = ⟨"c.st", "?"⟩ ∧ call.failure? = some error) ∧
      walk.error? = some (.interrupted "parse" "b.st" .cancelled) ∧
      walk.services.session.labels = ["failed a.st", "failed c.st", "failed b.st"] ∧
      walk.services.session.diagnostics = [stage.diagnosis ⟨"a.st", "?"⟩ error] ∧
      stage.diagnosis ⟨"a.st", "?"⟩ error ≠ stage.diagnosis ⟨"c.st", "?"⟩ error := by
  intro error stage batch services events start calls walk
  have gives : stage.factory.Gives Placed := fun signal source =>
    (ParserOptions.mayAnswer_parse {} signal source).placed
  refine ⟨Interleaved.recorded rfl gives ⟨by decide +kernel, rfl⟩, ?_, ?_, ?_, ?_, ?_⟩
  · decide +kernel
  · decide +kernel
  · decide +kernel
  · decide +kernel
  · decide +kernel

end ParseStage

end StagePipeline
