import StagePipeline.Report

/-!
# Reports on a check

What there is to tell after a pipeline has run over a batch: the messages by
their severity, and whether the batch passed.  It passed when there is no error
and no stage failed.
-/

namespace StagePipeline

/-- What there is to tell after a pipeline has run over a batch. -/
structure CheckReport where
  unitCount : Nat := 0
  /-- The names of the stages, in the order in which they run. -/
  stages : List String := []
  errors : List String := []
  warnings : List String := []
  infos : List String := []
  failure : Option String := none
  deriving DecidableEq, Repr

namespace CheckReport

/-- Whether the batch passed. -/
def isValid (report : CheckReport) : Bool :=
  report.errors.isEmpty && report.failure.isNone

/-- The line for a batch that passed. -/
def passLine (report : CheckReport) : ReportItem :=
  .preformatted
    (s!"✓ {countUnits report.unitCount} passed " ++ String.intercalate " → " report.stages)

/-- How the check ended; errors without a failure speak for themselves. -/
def verdict (report : CheckReport) : Report :=
  match report.failure with
  | some failure => [.warning s!"✗ {failure}"]
  | none => if report.isValid then [report.passLine] else []

/-- The items of the report. -/
def items (report : CheckReport) : Report :=
  report.errors.map (fun message => .warning s!"error: {message}") ++
    report.warnings.map (fun message => .warning s!"warning: {message}") ++
    report.infos.map (fun message => .preformatted s!"info: {message}") ++
    (if report.warnings.isEmpty && report.errors.isEmpty then [] else [.blank]) ++
    report.verdict

end CheckReport

end StagePipeline
