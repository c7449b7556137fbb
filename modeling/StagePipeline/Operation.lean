import StagePipeline.Config
import StagePipeline.Pipeline.Compilation
import StagePipeline.Report.Check
import StagePipeline.Report.Parse
import StagePipeline.Report.Stages

/-!
# Operations

What can be done with a configuration and a batch: parse the batch, run the
whole pipeline over it, or describe the pipeline.  A run that failed after it
reported every detail still gives a report; any other failure is handed on.
-/

namespace StagePipeline

namespace RunError

/-- The failure in words, if every detail of it has been reported as a diagnostic. -/
def reported? : RunError → Option String
  | .stage (.diagnostics name count) => some (StageError.diagnostics name count).message
  | .stage (.failures failed) => some (StageError.failures failed).message
  | _ => none

/-- The end of a run as far as a report can tell it. -/
def forReport : Option RunError → Except RunError (Option String)
  | none => .ok none
  | some error =>
    match error.reported? with
    | some message => .ok (some message)
    | none => .error error

end RunError

/-- Why an operation gave no report. -/
inductive OperationError where
  | run (error : RunError)
  /-- The times of some category add up to more than a duration holds. -/
  | totalTooLong
  deriving DecidableEq, Repr

namespace Compilation

/-- The units with their printed trees. -/
def printedUnits (compilation : Compilation) : List PrintedUnit :=
  compilation.units.map fun unit => ⟨unit.source.name, unit.tree?.map (·.render)⟩

/-- The report on a parse that has ended. -/
def parseReport? (compilation : Compilation) (failure : Option String) : Option ParseReport :=
  compilation.session.summary?.map fun summary =>
    { units := compilation.printedUnits
      timings := compilation.session.timings
      summary := summary
      diagnostics := compilation.session.diagnostics
      failure := failure }

/-- The messages of a severity, each with its location on a line of its own. -/
def messages (compilation : Compilation) (severity : Severity) : List String :=
  (compilation.session.diagnostics.filter (·.severity == severity)).map fun diagnostic =>
    match diagnostic.location with
    | some location => s!"{diagnostic.message}\n  --> {location}"
    | none => diagnostic.message

/-- The report on a run of some stages that has ended. -/
def checkReport (compilation : Compilation) (stages : List StageKind)
    (failure : Option String) : CheckReport where
  unitCount := compilation.units.length
  stages := stages.map (·.name)
  errors := compilation.messages .error
  warnings := compilation.messages .warning
  infos := compilation.messages .info
  failure := failure

end Compilation

namespace Config

/-- The parse stage alone, with its time recorded. -/
def parsePipeline (config : Config) : Pipeline Compilation :=
  { Pipeline.assemble [.parse] config.settings with plugins := [.timing 0] }

/-- The configured stages with their times recorded, and a snapshot after each of them written to a
folder if there is one. -/
def checkPipeline (config : Config) (folder : Option String) : Pipeline Compilation :=
  { Pipeline.assemble config.stages config.settings with
    plugins := Plugin.timing 0 :: (folder.map Plugin.snapshotFolder).toList }

/-- Parse a batch, whatever stages the configuration names. -/
def parse (config : Config) (compilation : Compilation) : Except OperationError ParseReport :=
  let (error?, after) := config.parsePipeline.run compilation
  match RunError.forReport error? with
  | .error error => .error (.run error)
  | .ok failure =>
    match after.parseReport? failure with
    | some report => .ok report
    | none => .error .totalTooLong

/-- Run the configured stages over a batch; with the compilation afterwards, which holds the files
that were written. -/
def check (config : Config) (folder : Option String) (compilation : Compilation) :
    Except RunError CheckReport × Compilation :=
  let (error?, after) := (config.checkPipeline folder).run compilation
  ((RunError.forReport error?).map (after.checkReport config.stages), after)

/-- Describe the configured pipeline. -/
def describe (config : Config) (path : String) : StagesReport where
  path := path
  stages := (Pipeline.assemble config.stages config.settings).info
  parse := config.settings.parse
  lints :=
    if .check ∈ config.stages then
      (StageKind.checkStage 0 config.settings).lints.map fun lint => ⟨lint.name, lint.description⟩
    else []

end Config

end StagePipeline
