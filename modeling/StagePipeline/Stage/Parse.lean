import StagePipeline.Program.Parser
import StagePipeline.Settings
import StagePipeline.Stage.Phase
import StagePipeline.Stage.Services
import StagePipeline.Unit

/-!
# Parsing a batch, one unit after the other

The parse stage asks a parser factory for the tree of every unit.  Walking in
order, it opens the shared timing scope for a unit, parses, stores the tree and
closes the scope under `parsed` or `failed` and the name of the unit.  What
happens at the first failure is for the policy to say; an interrupt stops the
walk under either policy.
-/

namespace StagePipeline

open Program

/-- Builds a parser for each source and runs it. -/
structure ParserFactory where
  /-- What the parser of a source gives under the signal that it is shown. -/
  parse : Option Interrupt → SourceFile → Except SyntaxError ParseOutput
  /-- Whether building the parser of a source cancels the token of the stage. -/
  cancels : SourceFile → Bool := fun _ => false

namespace ParserFactory

/-- The factory of the parser for programs. -/
def program (options : ParserOptions) : ParserFactory where
  parse := Program.parse options

end ParserFactory

/-- The stage that parses every unit. -/
structure ParseStage where
  phase : Phase
  factory : ParserFactory
  options : ParseOptions := {}
  token : CancelToken

/-- Why the parse of one unit gave no tree. -/
inductive UnitFailure where
  | rejected (error : SyntaxError)
  | unlocatable
  deriving DecidableEq, Repr

namespace ParseStage

/-- What the stage does. -/
def description : String :=
  "Parse each unit's source into its syntax tree"

/-- The label of the time that a unit took. -/
def label (source : SourceFile) (parsed : Bool) : String :=
  if parsed then s!"parsed {source.name}" else s!"failed {source.name}"

/-- The diagnostic of a syntax error, unless its offset has no position. -/
def diagnostic? (stage : ParseStage) (source : SourceFile) (error : SyntaxError) :
    Option Diagnostic :=
  let place := match error.offset? with
    | some offset => source.location? offset
    | none => some source.name
  place.map fun location =>
    { severity := .error, phase := stage.phase.name, message := error.message,
      location := some location }

/-- The error of the stage when it is stopped before or inside a unit. -/
def interrupted (stage : ParseStage) (source : SourceFile) (reason : Interrupt) : StageError :=
  .interrupted stage.phase.name source.name reason

/-- The error of the stage when a unit fails and nothing else is to be parsed. -/
def failure (stage : ParseStage) (source : SourceFile) (error : SyntaxError) : StageError :=
  match error.interrupt? with
  | some reason => stage.interrupted source reason
  | none => .parse source.name error

/-- Whether the failure of a unit ends the whole stage. -/
def isFatal (stage : ParseStage) (error : SyntaxError) : Bool :=
  stage.options.onError == .failFast || error.interrupt?.isSome

/-- The services once the parser of a source has been built. -/
def build (stage : ParseStage) (source : SourceFile) (services : Services) : Services :=
  if stage.factory.cancels source then services.cancel stage.token else services

/-- What the answer of a parser comes to: a tree and the diagnostics of what was passed over. -/
def judge (stage : ParseStage) (source : SourceFile) :
    Except SyntaxError ParseOutput → Except UnitFailure (SyntaxTree × List Diagnostic)
  | .error error => .error (.rejected error)
  | .ok output =>
    match output.errors.mapM (stage.diagnostic? source) with
    | none => .error .unlocatable
    | some diagnostics => .ok (output.tree, diagnostics)

/-- The tree of a source and the diagnostics of what was passed over. -/
def attempt (stage : ParseStage) (signal : Option Interrupt) (source : SourceFile) :
    Except UnitFailure (SyntaxTree × List Diagnostic) :=
  stage.judge source (stage.factory.parse signal source)

/-- How a walk goes on after a unit. -/
inductive Verdict where
  | parsed
  | collected
  | stopped (error : StageError)
  deriving DecidableEq, Repr

/-- A unit and the services after the walk has been at the unit. -/
structure Visit where
  verdict : Verdict
  unit : CompilationUnit
  services : Services

/-- What becomes of the failure of a unit after its time has been recorded. -/
def settle (stage : ParseStage) (unit : CompilationUnit) (failure : UnitFailure)
    (services : Services) : Visit :=
  match failure with
  | .unlocatable => ⟨.stopped (.unlocatable unit.source.name), unit, services⟩
  | .rejected error =>
    if stage.isFatal error then ⟨.stopped (stage.failure unit.source error), unit, services⟩
    else match stage.diagnostic? unit.source error with
      | none => ⟨.stopped (.unlocatable unit.source.name), unit, services⟩
      | some diagnostic => ⟨.collected, unit, services.report diagnostic⟩

/-- Parse a unit inside the shared timing scope, which is open. -/
def parseTimed (stage : ParseStage) (token : CancelToken) (unit : CompilationUnit)
    (services : Services) : Visit :=
  let built := stage.build unit.source services
  match stage.attempt (built.poll token) unit.source with
  | .ok (tree, diagnostics) =>
    match (built.tick.reportAll diagnostics).stop (label unit.source true) with
    | .error error => ⟨.stopped (.session error), unit.withTree tree, built.tick⟩
    | .ok services => ⟨.parsed, unit.withTree tree, services⟩
  | .error failure =>
    match built.tick.stop (label unit.source false) with
    | .error error => ⟨.stopped (.session error), unit, built.tick⟩
    | .ok services => stage.settle unit failure services

/-- Visit one unit of the batch. -/
def visit (stage : ParseStage) (token : CancelToken) (unit : CompilationUnit)
    (services : Services) : Visit :=
  match services.poll token with
  | some reason => ⟨.stopped (stage.interrupted unit.source reason), unit, services.tick⟩
  | none =>
    match services.tick.start with
    | .error error => ⟨.stopped (.session error), unit, services.tick⟩
    | .ok services => stage.parseTimed token unit services

/-- A batch and the services after a walk, the units that failed and what stopped the walk. -/
structure Walk where
  units : List CompilationUnit
  services : Services
  failed : List String := []
  stopped : Option StageError := none

namespace Walk

/-- The walk over a batch for which no workers could be started. -/
def unstarted (units : List CompilationUnit) (services : Services) : Walk where
  units := units
  services := services
  stopped := some .workerPool

/-- The walk that was at a unit first. -/
def withUnit (unit : CompilationUnit) (later : Walk) : Walk :=
  { later with units := unit :: later.units }

/-- The walk that collected the failure of a unit first. -/
def withFailure (unit : CompilationUnit) (later : Walk) : Walk :=
  { later with units := unit :: later.units, failed := unit.source.name :: later.failed }

/-- What the stage fails with after the walk, if it fails. -/
def error? (walk : Walk) : Option StageError :=
  match walk.stopped with
  | some error => some error
  | none => if walk.failed.isEmpty then none else some (.failures walk.failed)

end Walk

/-- Walk over a batch in order. -/
def walk (stage : ParseStage) (token : CancelToken) :
    List CompilationUnit → Services → Walk
  | [], services => { units := [], services := services }
  | unit :: rest, services =>
    let visited := stage.visit token unit services
    match visited.verdict with
    | .parsed => (stage.walk token rest visited.services).withUnit visited.unit
    | .collected => (stage.walk token rest visited.services).withFailure visited.unit
    | .stopped error =>
      { units := visited.unit :: rest, services := visited.services, stopped := some error }

/-- The token of one application: that of the stage, narrowed by its time limit. -/
def deadlineToken (stage : ParseStage) (now : Instant) : CancelToken :=
  match stage.options.timeoutMilliseconds with
  | some timeout => stage.token.withTimeout now timeout.toNat
  | none => stage.token

end ParseStage

end StagePipeline
