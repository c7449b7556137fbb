import StagePipeline.Pipeline.Run
import StagePipeline.Report
import StagePipeline.Settings

/-!
# Reports on a pipeline

What a configured pipeline is made of: its stages, the options of the parse
stage, and the lints of the check stage if there is one.
-/

namespace StagePipeline

/-- What there is to know about a lint without running it. -/
structure LintInfo where
  name : String
  description : String
  deriving DecidableEq, Repr

/-- What a configured pipeline is made of. -/
structure StagesReport where
  /-- The path of the configuration. -/
  path : String
  stages : List StageInfo := []
  parse : ParseOptions := {}
  lints : List LintInfo := []
  deriving DecidableEq, Repr

namespace StagesReport

/-- How the parse stage walks a batch, in words. -/
def modeText (options : ParseOptions) : String :=
  match options.mode with
  | .sequential => options.mode.name
  | .parallel =>
    if options.workers = 0 then options.mode.name
    else s!"{options.mode.name} ({options.workers} workers)"

/-- The options of the parse stage. -/
def optionItems (options : ParseOptions) : Report :=
  let limit := match options.timeoutMilliseconds with
    | some limit => [.keyValueIndented "Timeout" s!"{limit}ms"]
    | none => []
  [.heading "Parse Options", .keyValueIndented "Mode" (modeText options),
    .keyValueIndented "On error" options.onError.name,
    .keyValueIndented "Recover" (if options.recover then "yes" else "no")] ++ limit

/-- The lints of the check stage. -/
def lintItems (lints : List LintInfo) : Report :=
  if lints.isEmpty then []
  else
    [.blank, .heading "Check Lints"] ++
      lints.map fun lint => .bullet s!"{lint.name}: {lint.description}"

/-- The items of the report. -/
def items (report : StagesReport) : Report :=
  [.title "Strata Pipeline", .blank, .keyValue "Config" report.path, .blank, .heading "Stages"] ++
    report.stages.map
      (fun stage => .numbered stage.id.toNat s!"{stage.name} - {stage.description}") ++
    [.blank] ++ optionItems report.parse ++ lintItems report.lints

end StagesReport

end StagePipeline
