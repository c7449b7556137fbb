import Mathlib.Data.List.Basic
import Mathlib.Data.List.TakeWhile
import StagePipeline.Proofs.SequentialWalk

/-!
# The two policies for failures side by side

Under either policy a walk in order does the same with every unit up to the first that has
no tree, since the policy is asked only once a unit has failed and its time has been
recorded.  From there on fail-fast does nothing more, and collect goes on to the end of
the batch.  So the two applications fail for the same batches, and what fail-fast leaves
behind is a beginning of what collect leaves.
-/

namespace StagePipeline

open Program

namespace ParseStage

/-- The stage with another policy for failures. -/
def withPolicy (stage : ParseStage) (policy : FailurePolicy) : ParseStage :=
  { stage with options := stage.options.withPolicy policy }

variable {stage : ParseStage} {parse : SourceFile → Except SyntaxError ParseOutput}
  {token : CancelToken} {batch : List CompilationUnit} {services : Services}

theorem head?_dropWhile_parses (batch : List CompilationUnit) :
    (batch.dropWhile (parses parse)).head? =
      (batch.filter fun unit => !parses parse unit).head? := by
  induction batch with
  | nil => rfl
  | cons unit rest inductive_hypothesis =>
    cases tree : parses parse unit with
    | false => simp [tree]
    | true => simpa [tree] using inductive_hypothesis

theorem exists_error_of_not_parses {unit : CompilationUnit} (fails : parses parse unit = false) :
    ∃ error, parse unit.source = .error error := by
  cases answered : parse unit.source with
  | error error => exact ⟨error, rfl⟩
  | ok output => exact absurd (parses_of_ok answered) (Bool.eq_false_iff.1 fails)

/-- In the units before the first failure nothing is reported but what was passed over. -/
theorem flatMap_recovered_takeWhile (batch : List CompilationUnit) :
    ((batch.takeWhile (parses parse)).flatMap fun unit =>
        stage.recovered unit.source (parse unit.source)) =
      (batch.takeWhile (parses parse)).flatMap fun unit =>
        stage.reports unit.source (parse unit.source) := by
  refine List.flatMap_congr fun unit member => ?_
  have tree := List.mem_takeWhile_imp member
  cases answered : parse unit.source with
  | error error => exact absurd tree (not_parses_of_error answered)
  | ok output => rfl

section Compared

variable {first all : Walk} (stops : StopsAtFirst stage parse batch services first)

include stops

/-- Without interrupts the walk ends with the error of the parser for the first failing unit. -/
theorem StopsAtFirst.error?_eq_parse
    (finished : ∀ unit ∈ batch, ∀ error, parse unit.source = .error error →
      error.interrupt? = none)
    {unit : CompilationUnit} (head : unit ∈ (batch.filter fun unit => !parses parse unit).head?) :
    ∃ error, parse unit.source = .error error ∧
      first.error? = some (.parse unit.source.name error) := by
  rcases List.mem_filter.1 (List.mem_of_mem_head? head) with ⟨among, fails⟩
  rcases exists_error_of_not_parses (by simpa using fails) with ⟨error, answered⟩
  refine ⟨error, answered, ?_⟩
  rw [stops.error?, head?_dropWhile_parses, Option.mem_def.1 head, Option.bind_some, answered,
    stopError?_error, failure, finished unit among error answered]

theorem StopsAtFirst.error?_eq_none_iff
    (finished : ∀ unit ∈ batch, ∀ error, parse unit.source = .error error →
      error.interrupt? = none)
    (collected : CollectsAll parse batch all) : first.error? = none ↔ all.error? = none := by
  rw [collected.error?]
  cases failing : batch.filter fun unit => !parses parse unit with
  | nil => simp [stops.error?, head?_dropWhile_parses, failing]
  | cons unit others =>
    have head : unit ∈ (batch.filter fun unit => !parses parse unit).head? := by
      rw [failing]
      rfl
    rcases stops.error?_eq_parse finished head with ⟨error, _, failed⟩
    simp [failed]

theorem StopsAtFirst.units_begin_as (collected : CollectsAll parse batch all) :
    let count := (batch.takeWhile (parses parse)).length
    first.units.take count = all.units.take count ∧ first.units.drop count = batch.drop count := by
  intro count
  have whole : batch.takeWhile (parses parse) ++ batch.dropWhile (parses parse) = batch :=
    List.takeWhile_append_dropWhile
  have unitsAll : all.units =
      (batch.takeWhile (parses parse) ++ batch.dropWhile (parses parse)).map fun unit =>
        unit.receive (parse unit.source) := by
    rw [whole, collected.units]
  constructor
  · rw [stops.units, unitsAll, List.map_append, List.take_left' (List.length_map _),
      List.take_left' (List.length_map _)]
  · have dropped : batch.drop count = batch.dropWhile (parses parse) := by
      nth_rewrite 1 [← whole]
      exact List.drop_left
    rw [stops.units, List.drop_left' (List.length_map _), dropped]

end Compared

/-- Up to the first unit without a tree, the two walks read the clock alike. -/
theorem timings_failFast_prefix_collect (collaborator : stage.factory = .ofFunction parse)
    (closed : services.session.isTiming = false) (live : services.Live token)
    (placed : ∀ unit ∈ batch, Placed unit.source (parse unit.source))
    (finished : ∀ unit ∈ batch, ∀ error, parse unit.source = .error error →
      error.interrupt? = none) :
    ((stage.withPolicy .failFast).walk token batch services).services.session.timings <+:
      ((stage.withPolicy .collect).walk token batch services).services.session.timings := by
  have asked : ∀ policy, (stage.withPolicy policy).factory = .ofFunction parse :=
    fun _ => collaborator
  induction batch generalizing services with
  | nil => exact List.prefix_refl _
  | cons unit rest inductive_hypothesis =>
    rcases List.forall_mem_cons.1 placed with ⟨here, others⟩
    rcases List.forall_mem_cons.1 finished with ⟨finishedHere, finishedOthers⟩
    cases answered : parse unit.source with
    | error error =>
      rw [walk_of_error_failFast (asked _) closed live answered rfl,
        walk_of_error_collect (asked _) closed live answered here rfl (finishedHere error answered)]
      -- Fail-fast ends here, and whatever collect does next only adds to the session.
      have reported := (services.grows_visited (label unit.source false) []).trans
        (.report _ (stage.diagnosis unit.source error))
      have onwards := (collectsAll_walk (asked .collect)
        (reported.session.isTiming_eq.trans closed) (live.of_grows reported) others rfl
        finishedOthers).2
      rcases onwards.session.timings with ⟨added, timings, _⟩
      exact ⟨added, timings.symm⟩
    | ok output =>
      have grown := services.grows_visited (label unit.source true)
        (stage.recovered unit.source (.ok output))
      rw [walk_of_ok (asked _) closed live answered here,
        walk_of_ok (asked _) closed live answered here]
      exact inductive_hypothesis (grown.session.isTiming_eq.trans closed) (live.of_grows grown)
        others finishedOthers

/--
Collecting failures against stopping at the first.  An application in order that collects
asks for the tree of every unit: it stores the trees that it gets and leaves the other
units as they were, records one time for each unit in the order of the batch, under
`parsed` or `failed`, and reports what was passed over in a unit or the one error for which
it has no tree.  It succeeds when no unit fails and otherwise names all that do, in the
order of the batch.  Under fail-fast the same application fails for the same batches, with
the error for the first of these names.  The units before that one, the times and the
diagnostics are those of the collecting application as far as they go, which for the times
is up to and with the first failure, and the units from there on are as they were.
-/
theorem sequential_failFast_begins_as_collect
    (collaborator : stage.factory = .ofFunction parse)
    (sequential : stage.options.mode = .sequential)
    (closed : services.session.isTiming = false)
    (live : services.Live (stage.deadlineToken services.now))
    (placed : ∀ unit ∈ batch, Placed unit.source (parse unit.source))
    (finished : ∀ unit ∈ batch, ∀ error, parse unit.source = .error error →
      error.interrupt? = none) :
    let collect := (stage.withPolicy .collect).apply batch services
    let failFast := (stage.withPolicy .failFast).apply batch services
    let failing := batch.filter fun unit => !parses parse unit
    let names := failing.map (·.source.name)
    let before := batch.takeWhile (parses parse)
    collect.units = batch.map (fun unit => unit.receive (parse unit.source)) ∧
    services.session.Grows collect.services.session
      (batch.map fun unit =>
        if parses parse unit then s!"parsed {unit.source.name}" else s!"failed {unit.source.name}")
      (batch.flatMap fun unit => stage.reports unit.source (parse unit.source)) ∧
    collect.error? = (if names.isEmpty then none else some (.failures names)) ∧
    (failFast.error? = none ↔ collect.error? = none) ∧
    (∀ unit ∈ failing.head?, ∃ error, parse unit.source = .error error ∧
      failFast.error? = some (.parse unit.source.name error)) ∧
    failFast.units.take before.length = collect.units.take before.length ∧
    failFast.units.drop before.length = batch.drop before.length ∧
    services.session.Grows failFast.services.session
      (before.map (fun unit => s!"parsed {unit.source.name}") ++
        failing.head?.toList.map fun unit => s!"failed {unit.source.name}")
      (before.flatMap fun unit => stage.reports unit.source (parse unit.source)) ∧
    failFast.services.session.timings <+: collect.services.session.timings ∧
    failFast.services.session.diagnostics <+: collect.services.session.diagnostics := by
  intro collect failFast failing names before
  have quiet : services.tick.Live (stage.deadlineToken services.now) :=
    live.of_grows (.tick services)
  have asked : ∀ policy, (stage.withPolicy policy).factory = .ofFunction parse :=
    fun _ => collaborator
  have applied : ∀ policy, (stage.withPolicy policy).apply batch services =
      (stage.withPolicy policy).walk (stage.deadlineToken services.now) batch services.tick := by
    intro policy
    have inOrder : (stage.withPolicy policy).options.mode = .sequential := sequential
    simp only [apply, inOrder]
    rfl
  have shut : services.tick.session.isTiming = false := closed
  have timings := timings_failFast_prefix_collect collaborator shut quiet placed finished
  have collected := collectsAll_walk (asked .collect) shut quiet placed rfl finished
  have stops := stopsAtFirst_walk (asked .failFast) shut quiet placed rfl
  rw [← applied, ← applied] at timings
  rw [← applied] at collected stops
  rcases collected with ⟨collected, gained⟩
  rcases stops.units_begin_as collected with ⟨same, untouched⟩
  have gainedFirst : services.session.Grows failFast.services.session
      (before.map (fun unit => s!"parsed {unit.source.name}") ++
        failing.head?.toList.map fun unit => s!"failed {unit.source.name}")
      (before.flatMap fun unit => stage.reports unit.source (parse unit.source)) := by
    rw [← head?_dropWhile_parses, ← flatMap_recovered_takeWhile]
    exact stops.grown.session
  refine ⟨collected.units, gained.session, collected.error?,
    stops.error?_eq_none_iff finished collected, fun _ head => stops.error?_eq_parse finished head,
    same, untouched, gainedFirst, timings, ?_⟩
  have whole : before ++ batch.dropWhile (parses parse) = batch :=
    List.takeWhile_append_dropWhile
  rw [gainedFirst.diagnostics, gained.session.diagnostics, ← whole, List.flatMap_append,
    ← List.append_assoc]
  exact List.prefix_append _ _

/--
Five units of which the third and the last fail, while a statement of the second is passed
over.
-/
theorem sequential_failFast_begins_as_collect_two_failures :
    let tree : SyntaxTree := ⟨[.bare (.number 1 (.ofLength 0 1))]⟩
    let odd : SyntaxError := .invalid "odd" (.empty 0)
    let parse : SourceFile → Except SyntaxError ParseOutput := fun source =>
      if source.name = "c.st" ∨ source.name = "e.st" then .error odd
      else .ok ⟨tree, if source.name = "b.st" then [odd] else []⟩
    let stage : ParseStage :=
      { phase := ⟨"parse", 1⟩, factory := .ofFunction parse, token := ⟨0, none⟩ }
    let batch : List CompilationUnit :=
      [⟨⟨"a.st", "1"⟩, .unparsed⟩, ⟨⟨"b.st", "2"⟩, .unparsed⟩, ⟨⟨"c.st", "3"⟩, .unparsed⟩,
        ⟨⟨"d.st", "4"⟩, .unparsed⟩, ⟨⟨"e.st", "5"⟩, .parsed tree⟩]
    let services : Services := { clock := { reading := fun count => count * count } }
    let collect := (stage.withPolicy .collect).apply batch services
    let failFast := (stage.withPolicy .failFast).apply batch services
    services.Live (stage.deadlineToken services.now) ∧
      (∀ unit ∈ batch, Placed unit.source (parse unit.source)) ∧
      (∀ unit ∈ batch, ∀ error, parse unit.source = .error error → error.interrupt? = none) ∧
      collect.error? = some (.failures ["c.st", "e.st"]) ∧
      failFast.error? = some (.parse "c.st" odd) ∧
      collect.units.map (·.isParsed) = [true, true, false, true, true] ∧
      failFast.services.session.labels = ["parsed a.st", "parsed b.st", "failed c.st"] ∧
      failFast.services.session.timings <+: collect.services.session.timings ∧
      collect.services.session.diagnostics =
        [⟨.error, "parse", "odd", some "b.st:1:1"⟩, ⟨.error, "parse", "odd", some "c.st:1:1"⟩,
          ⟨.error, "parse", "odd", some "e.st:1:1"⟩] := by
  intro tree odd parse stage batch services collect failFast
  have live : services.Live (stage.deadlineToken services.now) := fun _ _ => rfl
  have atStart : ∀ unit ∈ batch, ∀ error ∈ reportedErrors (parse unit.source),
      error.offset?.getD 0 = 0 := by
    decide +kernel
  have placed : ∀ unit ∈ batch, Placed unit.source (parse unit.source) :=
    fun unit member => .of_start (atStart unit member)
  have finished : ∀ unit ∈ batch, ∀ error, parse unit.source = .error error →
      error.interrupt? = none := by
    intro unit _ error answered
    simp only [parse] at answered
    split at answered
    · cases answered
      rfl
    · cases answered
  rcases sequential_failFast_begins_as_collect rfl rfl rfl live placed finished with
    ⟨units, gained, collected, -, failed, -, -, gainedFirst, timings, -⟩
  have failing : batch.filter (fun unit => !parses parse unit) =
      [⟨⟨"c.st", "3"⟩, .unparsed⟩, ⟨⟨"e.st", "5"⟩, .parsed tree⟩] := by
    decide +kernel
  have before : batch.takeWhile (parses parse) =
      [⟨⟨"a.st", "1"⟩, .unparsed⟩, ⟨⟨"b.st", "2"⟩, .unparsed⟩] := by
    decide +kernel
  rw [failing] at collected failed gainedFirst
  rw [before] at gainedFirst
  refine ⟨live, placed, finished, collected, ?_, ?_, ?_, timings, ?_⟩
  · rcases failed _ rfl with ⟨error, answered, failed⟩
    cases answered
    exact failed
  · rw [units]
    decide +kernel
  · rcases gainedFirst.timings with ⟨added, added_eq, labels⟩
    rw [Session.labels, added_eq]
    exact labels
  · rw [gained.diagnostics]
    decide +kernel

end ParseStage

end StagePipeline
