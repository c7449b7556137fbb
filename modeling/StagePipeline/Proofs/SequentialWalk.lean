import StagePipeline.Proofs.UnitParse
import StagePipeline.Stage.Workers

/-!
# Walking over a batch in order

What a sequential application of the parse stage comes to, for a parser that is a
function of the source, a token without reason to stop and a closed shared scope.
Under fail-fast the walk goes as far as the units parse, so the batch is split at
the first unit that does not.  Under collect it goes to the end, and every answer
leaves its diagnostics.
-/

namespace StagePipeline

open Program

namespace ParseStage

variable {stage : ParseStage} {parse : SourceFile → Except SyntaxError ParseOutput}
  {token : CancelToken} {batch : List CompilationUnit} {services : Services}

/-- The stage that parses its units one after the other and is otherwise the same. -/
def inOrder (stage : ParseStage) : ParseStage :=
  { stage with options.mode := .sequential }

/-- Whether the parser gives a tree for the source of a unit. -/
def parses (parse : SourceFile → Except SyntaxError ParseOutput) (unit : CompilationUnit) : Bool :=
  (parse unit.source).isOk

theorem parses_of_error {unit : CompilationUnit} {error : SyntaxError}
    (answered : parse unit.source = .error error) : parses parse unit = false := by
  rw [parses, answered]
  rfl

theorem not_parses_of_error {unit : CompilationUnit} {error : SyntaxError}
    (answered : parse unit.source = .error error) : ¬ parses parse unit = true :=
  Bool.eq_false_iff.1 (parses_of_error answered)

theorem parses_of_ok {unit : CompilationUnit} {output : ParseOutput}
    (answered : parse unit.source = .ok output) : parses parse unit = true := by
  rw [parses, answered]
  rfl

/-- An open scope stops a walk that has anything to do, and nothing else happens. -/
theorem walk_of_timing (timing : services.session.isTiming = true) (live : services.Live token)
    (nonempty : batch ≠ []) :
    stage.walk token batch services =
      { units := batch, services := services.tick,
        stopped := some (.session .scopeAlreadyOpen) } := by
  cases batch with
  | nil => exact absurd rfl nonempty
  | cons unit rest => simp [walk, visit_of_timing timing live]

/-! ### What a walk can come to -/

/-- What a walk comes to that ends at the first unit without a tree. -/
structure StopsAtFirst (stage : ParseStage) (parse : SourceFile → Except SyntaxError ParseOutput)
    (batch : List CompilationUnit) (services : Services) (walk : Walk) : Prop where
  units : walk.units =
    (batch.takeWhile (parses parse)).map (fun unit => unit.receive (parse unit.source)) ++
      batch.dropWhile (parses parse)
  failed : walk.failed = []
  stopped : walk.stopped =
    (batch.dropWhile (parses parse)).head?.bind
      fun unit => stage.stopError? unit (parse unit.source)
  grown : services.Grows walk.services
    ((batch.takeWhile (parses parse)).map (label ·.source true) ++
      (batch.dropWhile (parses parse)).head?.toList.map (label ·.source false))
    ((batch.takeWhile (parses parse)).flatMap
      fun unit => stage.recovered unit.source (parse unit.source))

theorem StopsAtFirst.error? {walk : Walk} (stops : StopsAtFirst stage parse batch services walk) :
    walk.error? = (batch.dropWhile (parses parse)).head?.bind
      fun unit => stage.stopError? unit (parse unit.source) := by
  rw [Walk.error?, stops.failed, stops.stopped]
  cases (batch.dropWhile (parses parse)).head?.bind _ <;> rfl

/-- The failures of a whole batch are collected, and nothing stops the walk. -/
structure CollectsAll (parse : SourceFile → Except SyntaxError ParseOutput)
    (batch : List CompilationUnit) (walk : Walk) : Prop where
  units : walk.units = batch.map fun unit => unit.receive (parse unit.source)
  failed : walk.failed = (batch.filter fun unit => !parses parse unit).map (·.source.name)
  stopped : walk.stopped = none

theorem CollectsAll.error? {walk : Walk} (collected : CollectsAll parse batch walk) :
    walk.error? =
      let failed := (batch.filter fun unit => !parses parse unit).map (·.source.name)
      if failed.isEmpty then none else some (.failures failed) := by
  rw [Walk.error?, collected.stopped, collected.failed]

theorem CollectsAll.withUnit {walk : Walk} {unit : CompilationUnit} {output : ParseOutput}
    (answered : parse unit.source = .ok output) (later : CollectsAll parse batch walk) :
    CollectsAll parse (unit :: batch) (walk.withUnit (unit.withTree output.tree)) where
  units := by simp [Walk.withUnit, later.units, answered, CompilationUnit.receive]
  failed := by simp [Walk.withUnit, later.failed, parses_of_ok answered]
  stopped := later.stopped

theorem CollectsAll.withFailure {walk : Walk} {unit : CompilationUnit} {error : SyntaxError}
    (answered : parse unit.source = .error error) (later : CollectsAll parse batch walk) :
    CollectsAll parse (unit :: batch) (walk.withFailure unit) where
  units := by simp [Walk.withFailure, later.units, answered, CompilationUnit.receive]
  failed := by simp [Walk.withFailure, later.failed, parses_of_error answered]
  stopped := later.stopped

section ClosedScope

variable (collaborator : stage.factory = .ofFunction parse)
  (closed : services.session.isTiming = false) (live : services.Live token)

include collaborator closed live

/-! ### One unit of a walk -/

section Step

variable {unit : CompilationUnit} {rest : List CompilationUnit}

theorem walk_of_ok {output : ParseOutput} (answered : parse unit.source = .ok output)
    (here : Placed unit.source (parse unit.source)) :
    stage.walk token (unit :: rest) services =
      (stage.walk token rest (services.visited (label unit.source true)
        (stage.recovered unit.source (.ok output)))).withUnit (unit.withTree output.tree) := by
  rw [answered] at here
  have visited := visit_of_tree unit collaborator closed live (by rw [answered, judge_ok here])
  simp only [walk, visited]

theorem walk_of_error_failFast {error : SyntaxError} (answered : parse unit.source = .error error)
    (policy : stage.options.onError = .failFast) :
    stage.walk token (unit :: rest) services =
      { units := unit :: rest
        services := services.visited (label unit.source false) []
        stopped := some (stage.failure unit.source error) } := by
  have visited := visit_of_failure unit collaborator closed live (by rw [answered, judge_error])
  rw [settle_failFast policy] at visited
  simp only [walk, visited]

theorem walk_of_error_collect {error : SyntaxError} (answered : parse unit.source = .error error)
    (here : Placed unit.source (parse unit.source)) (policy : stage.options.onError = .collect)
    (finished : error.interrupt? = none) :
    stage.walk token (unit :: rest) services =
      (stage.walk token rest ((services.visited (label unit.source false) []).report
        (stage.diagnosis unit.source error))).withFailure unit := by
  rw [answered] at here
  have visited := visit_of_failure unit collaborator closed live (by rw [answered, judge_error])
  rw [settle_collect policy finished here] at visited
  simp only [walk, visited]

end Step

variable (placed : ∀ unit ∈ batch, Placed unit.source (parse unit.source))

include placed

/-! ### Fail-fast -/

theorem stopsAtFirst_walk (policy : stage.options.onError = .failFast) :
    StopsAtFirst stage parse batch services (stage.walk token batch services) := by
  induction batch generalizing services with
  | nil => exact ⟨rfl, rfl, rfl, .refl services⟩
  | cons unit rest inductive_hypothesis =>
    rcases List.forall_mem_cons.1 placed with ⟨here, others⟩
    cases answered : parse unit.source with
    | error error =>
      -- The walk ends here, so the whole batch is what it leaves.
      have stops : ¬ parses parse unit = true := not_parses_of_error answered
      rw [walk_of_error_failFast collaborator closed live answered policy]
      constructor <;>
        simp only [List.takeWhile_cons_of_neg stops, List.dropWhile_cons_of_neg stops]
      · rfl
      · simp [answered, stopError?_error]
      · exact services.grows_visited (label unit.source false) []
    | ok output =>
      have goesOn : parses parse unit = true := parses_of_ok answered
      have grown := services.grows_visited (label unit.source true)
        (stage.recovered unit.source (.ok output))
      rw [walk_of_ok collaborator closed live answered here]
      generalize services.visited _ _ = after at grown ⊢
      have later := inductive_hypothesis (grown.session.isTiming_eq.trans closed)
        (live.of_grows grown) others
      constructor <;>
        simp only [Walk.withUnit, List.takeWhile_cons_of_pos goesOn,
          List.dropWhile_cons_of_pos goesOn]
      · simp [later.units, answered, CompilationUnit.receive]
      · exact later.failed
      · exact later.stopped
      · simpa [answered] using grown.trans later.grown

/-! ### Collect -/

theorem collectsAll_walk (policy : stage.options.onError = .collect)
    (finished : ∀ unit ∈ batch, ∀ error, parse unit.source = .error error →
      error.interrupt? = none) :
    CollectsAll parse batch (stage.walk token batch services) ∧
      services.Grows (stage.walk token batch services).services
        (batch.map fun unit => label unit.source (parses parse unit))
        (batch.flatMap fun unit => stage.reports unit.source (parse unit.source)) := by
  induction batch generalizing services with
  | nil => exact ⟨⟨rfl, rfl, rfl⟩, .refl services⟩
  | cons unit rest inductive_hypothesis =>
    rcases List.forall_mem_cons.1 placed with ⟨here, others⟩
    rcases List.forall_mem_cons.1 finished with ⟨finishedHere, finishedOthers⟩
    have goOn : ∀ {after : Services} {labels : List String} {diagnostics : List Diagnostic},
        services.Grows after labels diagnostics →
          CollectsAll parse rest (stage.walk token rest after) ∧
            after.Grows (stage.walk token rest after).services
              (rest.map fun unit => label unit.source (parses parse unit))
              (rest.flatMap fun unit => stage.reports unit.source (parse unit.source)) := by
      intro after labels diagnostics grown
      apply inductive_hypothesis
      · exact grown.session.isTiming_eq.trans closed
      · exact live.of_grows grown
      · exact others
      · exact finishedOthers
    cases answered : parse unit.source with
    | error error =>
      have reported := (services.grows_visited (label unit.source false) []).trans
        (.report _ (stage.diagnosis unit.source error))
      rw [walk_of_error_collect collaborator closed live answered here policy
        (finishedHere error answered)]
      generalize Services.report _ _ = after at reported ⊢
      rcases goOn reported with ⟨collected, later⟩
      refine ⟨collected.withFailure answered, ?_⟩
      simp only [Walk.withFailure, List.map_cons, List.flatMap_cons, answered,
        parses_of_error answered]
      exact reported.trans later
    | ok output =>
      have grown := services.grows_visited (label unit.source true)
        (stage.recovered unit.source (.ok output))
      rw [walk_of_ok collaborator closed live answered here]
      generalize services.visited _ _ = after at grown ⊢
      rcases goOn grown with ⟨collected, later⟩
      refine ⟨collected.withUnit answered, ?_⟩
      simp only [Walk.withUnit, List.map_cons, List.flatMap_cons, answered, parses_of_ok answered]
      exact grown.trans later

end ClosedScope

/-! ### The contract of a sequential application under fail-fast -/

/--
A sequential application under fail-fast parses the units before the first that
its parser fails for and leaves the others as they were.  It succeeds if there is
no such unit, and otherwise fails with the error for that unit.  Beside the times
of the parsed units and of the failed one it adds the diagnostics of what was
passed over in the parsed units, and it closes the shared scope.  When the scope
has been open all the time, nothing is done to the batch or the session.
-/
theorem sequential_failFast_stops_at_first_failure
    (collaborator : stage.factory = .ofFunction parse)
    (sequential : stage.options.mode = .sequential)
    (policy : stage.options.onError = .failFast)
    (live : services.Live (stage.deadlineToken services.now))
    (placed : ∀ unit ∈ batch, Placed unit.source (parse unit.source)) :
    let walk := stage.apply batch services
    let parsed := batch.takeWhile (parses parse)
    let rest := batch.dropWhile (parses parse)
    (services.session.isTiming = false →
      walk.units = parsed.map (fun unit => unit.receive (parse unit.source)) ++ rest ∧
      walk.units.map (·.source) = batch.map (·.source) ∧
      walk.error? = rest.head?.bind (fun unit => stage.stopError? unit (parse unit.source)) ∧
      services.session.Grows walk.services.session
        (parsed.map (fun unit => s!"parsed {unit.source.name}") ++
          rest.head?.toList.map fun unit => s!"failed {unit.source.name}")
        (parsed.flatMap fun unit => stage.recovered unit.source (parse unit.source)) ∧
      walk.services.session.isTiming = false) ∧
    (services.session.isTiming = true →
      walk.units = batch ∧ walk.services.session = services.session ∧
      walk.error? = if batch.isEmpty then none else some (.session .scopeAlreadyOpen)) := by
  intro walk parsed rest
  have quiet : services.tick.Live (stage.deadlineToken services.now) :=
    live.of_grows (.tick services)
  have applied : walk = stage.walk (stage.deadlineToken services.now) batch services.tick := by
    simp only [walk, apply, sequential]
  constructor
  · intro closed
    have shut : services.tick.session.isTiming = false := closed
    have ends := stopsAtFirst_walk collaborator shut quiet placed policy
    rw [← applied] at ends
    have grown := (Services.Grows.tick services).trans ends.grown
    refine ⟨ends.units, ?_, ends.error?, grown.session, grown.session.isTiming_eq.trans closed⟩
    calc
      walk.units.map (·.source) = (parsed ++ rest).map (·.source) := by
        rw [ends.units, List.map_append, List.map_append, List.map_map]
        simp only [Function.comp_def, CompilationUnit.source_receive, parsed, rest]
      _ = batch.map (·.source) := by rw [List.takeWhile_append_dropWhile]
  · intro timing
    rw [applied]
    cases batch with
    | nil => exact ⟨rfl, rfl, rfl⟩
    | cons unit later =>
      have isOpen : services.tick.session.isTiming = true := timing
      rw [walk_of_timing isOpen quiet (List.cons_ne_nil unit later)]
      exact ⟨rfl, rfl, rfl⟩

/-- Three units, of which the parse of the second is stopped from outside. -/
theorem sequential_failFast_stops_at_interrupt :
    let tree : SyntaxTree := ⟨[.bare (.number 1 (.ofLength 0 1))]⟩
    let parse : SourceFile → Except SyntaxError ParseOutput := fun source =>
      if source.name = "b.st" then .error (.interrupted .deadlineExceeded)
      else .ok ⟨tree, [.invalid "odd" (.empty 0)]⟩
    let stage : ParseStage :=
      { phase := ⟨"parse", 1⟩, factory := .ofFunction parse, token := ⟨0, none⟩ }
    let batch : List CompilationUnit :=
      [⟨⟨"a.st", "1"⟩, .unparsed⟩, ⟨⟨"b.st", "2"⟩, .parsed tree⟩, ⟨⟨"c.st", "3"⟩, .unparsed⟩]
    let services : Services := {}
    let walk := stage.apply batch services
    services.Live (stage.deadlineToken services.now) ∧
      (∀ unit ∈ batch, Placed unit.source (parse unit.source)) ∧
      walk.units = [⟨⟨"a.st", "1"⟩, .parsed tree⟩, ⟨⟨"b.st", "2"⟩, .parsed tree⟩,
        ⟨⟨"c.st", "3"⟩, .unparsed⟩] ∧
      walk.error? = some (.interrupted "parse" "b.st" .deadlineExceeded) ∧
      walk.services.session.labels = ["parsed a.st", "failed b.st"] ∧
      walk.services.session.diagnostics = [⟨.error, "parse", "odd", some "a.st:1:1"⟩] ∧
      walk.services.session.isTiming = false := by
  intro tree parse stage batch services walk
  have live : services.Live (stage.deadlineToken services.now) := fun _ _ => rfl
  have atStart : ∀ unit ∈ batch, ∀ error ∈ reportedErrors (parse unit.source),
      error.offset?.getD 0 = 0 := by
    decide +kernel
  have placed : ∀ unit ∈ batch, Placed unit.source (parse unit.source) :=
    fun unit member => .of_start (atStart unit member)
  rcases (sequential_failFast_stops_at_first_failure rfl rfl rfl live placed).1 rfl with
    ⟨units, -, failed, grown, closed⟩
  have parsed : batch.takeWhile (parses parse) = [⟨⟨"a.st", "1"⟩, .unparsed⟩] := by
    decide +kernel
  have rest : batch.dropWhile (parses parse) =
      [⟨⟨"b.st", "2"⟩, .parsed tree⟩, ⟨⟨"c.st", "3"⟩, .unparsed⟩] := by
    decide +kernel
  rw [parsed, rest] at units grown
  rw [rest] at failed
  refine ⟨live, placed, units, failed, ?_, grown.diagnostics, closed⟩
  rcases grown.timings with ⟨added, timings, labels⟩
  rw [Session.labels, timings]
  exact labels

end ParseStage

end StagePipeline
