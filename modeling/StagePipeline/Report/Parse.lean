import StagePipeline.Diagnostic
import StagePipeline.Report
import StagePipeline.Session
import StagePipeline.Text.Bytes

/-!
# Reports on a parse

What there is to tell after a batch has been parsed: the diagnostics first, then
the trees and the times if they are asked for, and at the end how many units
have a tree or why the parse failed.
-/

namespace StagePipeline

/-- The name of a unit and its printed tree, if it has one. -/
structure PrintedUnit where
  name : String
  tree : Option String
  deriving DecidableEq, Repr

/-- What there is to tell after a batch has been parsed. -/
structure ParseReport where
  units : List PrintedUnit := []
  timings : List Timing := []
  /-- The total time of each category of timings. -/
  summary : List (String × Duration) := []
  diagnostics : List Diagnostic := []
  failure : Option String := none
  showTrees : Bool := false
  showTimings : Bool := false
  deriving DecidableEq, Repr

namespace ParseReport

/-- How many units have a tree. -/
def parsedCount (report : ParseReport) : Nat :=
  report.units.countP (·.tree.isSome)

/-- The tree of a unit under the name of the unit. -/
def treeItems (unit : PrintedUnit) : Report :=
  match unit.tree with
  | some tree => [.divider unit.name, .preformatted (Text.trimEnd tree)]
  | none => []

/-- The times of the units and their totals. -/
def timingItems (report : ParseReport) : Report :=
  [.heading "Timings"] ++
    report.timings.map (fun timing => .keyValueIndented timing.label timing.elapsed.render) ++
    [.blank, .heading "Summary"] ++
    report.summary.map (fun (category, total) => .keyValueIndented category total.render) ++
    [.blank]

/-- How the parse ended. -/
def verdict (report : ParseReport) : ReportItem :=
  match report.failure with
  | some failure => .warning s!"error: {failure}"
  | none => .preformatted s!"✓ parsed {countUnits report.parsedCount}"

/-- The items of the report. -/
def items (report : ParseReport) : Report :=
  report.diagnostics.map (fun diagnostic => .warning diagnostic.render) ++
    (if report.showTrees then report.units.flatMap treeItems ++ [.blank] else []) ++
    (if report.showTimings then report.timingItems else []) ++
    [report.verdict]

end ParseReport

end StagePipeline
