import StagePipeline.Proofs.ErrorPlaces
import StagePipeline.Proofs.SessionGrowth
import StagePipeline.Stage.Parse

/-!
# Parsing one unit with a given parser

The parse stage knows nothing of its parser but the answers.  This module has the
parsers that are functions of the source, and what the stage makes of an answer
whose errors all have a position in the source:
a tree for the unit and the diagnostics of what was passed over, or the error of a
stage that is stopped.  `visit_of_tree` and `visit_of_failure` are one step of a
walk in these terms.
-/

namespace StagePipeline

open Program

/-- A search that never fails finds something at every place. -/
theorem mapM_eq_some_map {α β : Type} {search : α → Option β} {found : α → β} {places : List α}
    (finds : ∀ place ∈ places, search place = some (found place)) :
    places.mapM search = some (places.map found) := by
  induction places with
  | nil => rfl
  | cons place rest inductive_hypothesis =>
    have later := inductive_hypothesis fun other member =>
      finds other (List.mem_cons_of_mem _ member)
    rw [List.mapM_cons, later, finds place List.mem_cons_self]
    rfl

namespace ParserFactory

/-- The factory whose parsers look at nothing but their source. -/
def ofFunction (parse : SourceFile → Except SyntaxError ParseOutput) : ParserFactory where
  parse _ source := parse source

end ParserFactory

namespace CompilationUnit

/-- The unit once its parser has answered: the tree is kept if there is one. -/
def receive (unit : CompilationUnit) : Except SyntaxError ParseOutput → CompilationUnit
  | .error _ => unit
  | .ok output => unit.withTree output.tree

@[simp]
theorem source_receive (unit : CompilationUnit) (answer : Except SyntaxError ParseOutput) :
    (unit.receive answer).source = unit.source := by
  cases answer <;> rfl

end CompilationUnit

namespace Services

/--
The services after a unit has been visited.  The clock was read for the first look at the
token, at the start and the end of the shared scope and for the signal of the parser; the
session has the diagnostics of what was passed over and a time under the label.
-/
def visited (services : Services) (label : String) (diagnostics : List Diagnostic) :
    Services :=
  { services.tick.tick.tick.tick with
    session := (services.session.reportAll diagnostics).record
      ⟨label, services.tick.now.elapsed services.tick.tick.tick.now⟩ }

theorem grows_visited (services : Services) (label : String)
    (diagnostics : List Diagnostic) :
    services.Grows (services.visited label diagnostics) [label] diagnostics where
  session := by
    simpa [visited] using (Session.Grows.reportAll services.session diagnostics).trans
      (.record _ ⟨label, services.tick.now.elapsed services.tick.tick.tick.now⟩)
  cancelled := rfl
  reading := rfl
  taken := Nat.le_add_right _ 4

end Services

namespace ParseStage

variable {stage : ParseStage} {source : SourceFile} {unit : CompilationUnit}

/-! ### What the stage makes of an answer -/

/-- The diagnostic of a syntax error: its place is that of its offset, or the whole source. -/
def diagnosis (stage : ParseStage) (source : SourceFile) (error : SyntaxError) : Diagnostic where
  severity := .error
  phase := stage.phase.name
  message := error.message
  location := match error.offset? with
    | some offset => source.location? offset
    | none => some source.name

/-- The diagnostics of what a parser passed over. -/
def recovered (stage : ParseStage) (source : SourceFile) :
    Except SyntaxError ParseOutput → List Diagnostic
  | .error _ => []
  | .ok output => output.errors.map (stage.diagnosis source)

/-- The diagnostics of all that the answer of a parser tells of. -/
def reports (stage : ParseStage) (source : SourceFile)
    (answer : Except SyntaxError ParseOutput) : List Diagnostic :=
  (reportedErrors answer).map (stage.diagnosis source)

/-- What the stage fails with when it is stopped by the answer for a unit. -/
def stopError? (stage : ParseStage) (unit : CompilationUnit) :
    Except SyntaxError ParseOutput → Option StageError
  | .ok _ => none
  | .error (.interrupted reason) =>
    some (.interrupted stage.phase.name unit.source.name reason)
  | .error error => some (.parse unit.source.name error)

theorem stopError?_error (error : SyntaxError) :
    stage.stopError? unit (.error error) = some (stage.failure unit.source error) := by
  cases error <;> rfl

theorem diagnostic?_of_placed {answer : Except SyntaxError ParseOutput}
    (placed : Placed source answer) {error : SyntaxError} (member : error ∈ reportedErrors answer) :
    stage.diagnostic? source error = some (stage.diagnosis source error) := by
  rw [diagnostic?, diagnosis]
  cases pointed : error.offset? with
  | none => rfl
  | some offset =>
    rcases SourceFile.exists_location_of_isBoundary (placed error member offset pointed) with
      ⟨location, found⟩
    simp only [found, Option.map_some]

theorem judge_error (error : SyntaxError) :
    stage.judge source (.error error) = .error (.rejected error) :=
  rfl

theorem judge_ok {output : ParseOutput} (placed : Placed source (.ok output)) :
    stage.judge source (.ok output) = .ok (output.tree, stage.recovered source (.ok output)) := by
  have located : output.errors.mapM (stage.diagnostic? source) = some _ :=
    mapM_eq_some_map fun _ member => diagnostic?_of_placed placed member
  simp only [judge, located, recovered]

/-- Under fail-fast every failure stops the stage. -/
theorem settle_failFast (policy : stage.options.onError = .failFast) (error : SyntaxError)
    (services : Services) :
    stage.settle unit (.rejected error) services =
      ⟨.stopped (stage.failure unit.source error), unit, services⟩ := by
  simp [settle, isFatal, policy]

/-- Under collect a failure that is no interrupt becomes a diagnostic. -/
theorem settle_collect (policy : stage.options.onError = .collect) {error : SyntaxError}
    (finished : error.interrupt? = none) (placed : Placed unit.source (.error error))
    (services : Services) :
    stage.settle unit (.rejected error) services =
      ⟨.collected, unit, services.report (stage.diagnosis unit.source error)⟩ := by
  have located : stage.diagnostic? unit.source error = some _ :=
    diagnostic?_of_placed placed (List.mem_singleton_self error)
  simp [settle, isFatal, policy, finished, located]

/-! ### One step of a walk -/

section Visit

variable {parse : SourceFile → Except SyntaxError ParseOutput} {token : CancelToken}
  {services : Services}

/-- A unit gets its tree, and its time is recorded as that of a parsed unit. -/
theorem visit_of_tree (unit : CompilationUnit)
    (collaborator : stage.factory = .ofFunction parse)
    (closed : services.session.isTiming = false) (live : services.Live token)
    {tree : SyntaxTree} {diagnostics : List Diagnostic}
    (judged : stage.judge unit.source (parse unit.source) = .ok (tree, diagnostics)) :
    stage.visit token unit services =
      ⟨.parsed, unit.withTree tree, services.visited (label unit.source true) diagnostics⟩ := by
  have shut : services.session.openedAt = none := by simpa [Session.isTiming] using closed
  have quiet : services.poll token = none := live.poll_eq_none
  simp [visit, quiet, parseTimed, build, attempt, collaborator, ParserFactory.ofFunction,
    judged, Services.start, Services.stop, Session.start, Session.stop, Services.tick, shut,
    Except.map, Services.reportAll, Session.reportAll, Session.record, Services.visited,
    Services.now, Clock.read]

/-- A unit fails, and the time is recorded as a failed unit's before the failure is settled. -/
theorem visit_of_failure (unit : CompilationUnit)
    (collaborator : stage.factory = .ofFunction parse)
    (closed : services.session.isTiming = false) (live : services.Live token)
    {failure : UnitFailure}
    (judged : stage.judge unit.source (parse unit.source) = .error failure) :
    stage.visit token unit services =
      stage.settle unit failure (services.visited (label unit.source false) []) := by
  have shut : services.session.openedAt = none := by simpa [Session.isTiming] using closed
  have quiet : services.poll token = none := live.poll_eq_none
  simp [visit, quiet, parseTimed, build, attempt, collaborator, ParserFactory.ofFunction,
    judged, Services.start, Services.stop, Session.start, Session.stop, Services.tick, shut,
    Except.map, Session.reportAll, Session.record, Services.visited, Services.now, Clock.read]

/-- An open scope stops the walk before anything is done. -/
theorem visit_of_timing (timing : services.session.isTiming = true) (live : services.Live token) :
    stage.visit token unit services =
      ⟨.stopped (.session .scopeAlreadyOpen), unit, services.tick⟩ := by
  rcases Option.isSome_iff_exists.1 timing with ⟨opened, isOpen⟩
  simp [visit, live.poll_eq_none, Services.start, Session.start, Services.tick, isOpen, Except.map]

end Visit

end ParseStage

end StagePipeline
