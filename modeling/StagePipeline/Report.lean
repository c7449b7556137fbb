/-!
# Reports

A report is a list of items that say what is to be shown and not how.  On a
terminal every item is a line or two of text; warnings go to a channel of their
own and everything else to the output.
-/

namespace StagePipeline

/-- One thing that a report shows. -/
inductive ReportItem where
  | title (text : String)
  /-- The heading of a section. -/
  | heading (name : String)
  | keyValue (key value : String)
  | keyValueIndented (key value : String)
  | numbered (number : Nat) (text : String)
  | bullet (text : String)
  | warning (text : String)
  /-- A line with a label. -/
  | divider (label : String)
  | preformatted (text : String)
  | blank
  deriving DecidableEq, Repr

namespace ReportItem

/-- Whether the item is a warning. -/
def isWarning : ReportItem → Bool
  | .warning _ => true
  | _ => false

/-- The item as it is shown on a terminal; a title is underlined by one mark for each byte. -/
def render : ReportItem → String
  | .title text =>
    text ++ "\n" ++ String.ofList (List.replicate text.utf8ByteSize '=') ++ "\n"
  | .heading name => s!"{name}:\n"
  | .keyValue key value => s!"{key}: {value}\n"
  | .keyValueIndented key value => s!"  {key}: {value}\n"
  | .numbered number text => s!"  {number}. {text}\n"
  | .bullet text => s!"  - {text}\n"
  | .warning text => s!"{text}\n"
  | .divider label => s!"── {label} ──\n"
  | .preformatted text => s!"{text}\n"
  | .blank => "\n"

end ReportItem

/-- Items in the order in which they are shown. -/
abbrev Report :=
  List ReportItem

namespace Report

/-- What a terminal shows of a report apart from warnings. -/
def output (report : Report) : String :=
  String.join ((report.filter fun item => !item.isWarning).map (·.render))

/-- The warnings of a report as a terminal shows them. -/
def warnings (report : Report) : String :=
  String.join ((report.filter fun item => item.isWarning).map (·.render))

end Report

/-- A number of units in words. -/
def countUnits (count : Nat) : String :=
  if count = 1 then s!"{count} unit" else s!"{count} units"

end StagePipeline
