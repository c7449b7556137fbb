import StagePipeline.Program.SyntaxError
import StagePipeline.Session

/-!
# Phases and the ways in which a stage fails

A phase is the identity of a stage: its name and its place in the order of the
pipeline.  A stage that fails says why in a `StageError`.
-/

namespace StagePipeline

open Program

/-- The name of a stage and its place in the pipeline. -/
structure Phase where
  name : String
  id : UInt32
  deriving DecidableEq, Repr

namespace Phase

/-- The phase as it is shown. -/
def render (phase : Phase) : String :=
  s!"{phase.name} (#{phase.id})"

end Phase

/-- Why a stage failed. -/
inductive StageError where
  | parse (unit : String) (error : SyntaxError)
  | failures (failed : List String)
  | interrupted (stage unit : String) (reason : Interrupt)
  | diagnostics (stage : String) (count : Nat)
  | session (error : SessionError)
  /-- The workers of a batch could not be started. -/
  | workerPool
  /-- A problem of a unit has no position in its text. -/
  | unlocatable (unit : String)
  deriving DecidableEq, Repr

namespace StageError

/-- The failure in words. -/
def message : StageError → String
  | .parse unit _ => s!"failed to parse '{unit}'"
  | .failures failed =>
    s!"{failed.length} unit(s) failed to parse: " ++ String.intercalate ", " failed
  | .interrupted stage unit reason => s!"stage '{stage}' stopped before '{unit}': {reason.message}"
  | .diagnostics stage count => s!"{count} error(s) reported by stage '{stage}'"
  | .session error => error.message
  | .workerPool => "failed to start parse workers"
  | .unlocatable unit => s!"a problem in '{unit}' has no position in its text"

end StageError

end StagePipeline
