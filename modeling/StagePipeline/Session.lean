import StagePipeline.Diagnostic
import StagePipeline.Text.Bytes
import StagePipeline.Time

/-!
# Sessions

A session collects the timings and diagnostics of a run.  It has one shared
timing scope, which is opened and closed in turns, and hands out any number of
independent scopes that record nothing until they are finished.  The summary
adds the timings up by the first word of their labels, in the order in which the
words first occur.
-/

namespace StagePipeline

/-- The time recorded for one labelled scope. -/
structure Timing where
  label : String
  elapsed : Duration
  deriving DecidableEq, Repr

/-- Misuse of the shared timing scope. -/
inductive SessionError where
  | scopeAlreadyOpen
  | noOpenScope (label : String)
  deriving DecidableEq, Repr

namespace SessionError

/-- The misuse in words. -/
def message : SessionError → String
  | .scopeAlreadyOpen =>
    "timing scope already open (started for a previous unit and never stopped)"
  | .noOpenScope label => s!"no timing scope is open to stop (label '{label}')"

end SessionError

/-- The timings and diagnostics of a run, and when its shared scope was opened. -/
structure Session where
  openedAt : Option Instant := none
  timings : List Timing := []
  diagnostics : List Diagnostic := []
  deriving DecidableEq, Repr, Inhabited

/-- An independent timing scope, known by when it was opened. -/
structure TimingScope where
  openedAt : Instant
  deriving DecidableEq, Repr

namespace Session

/-- The session with a timing added. -/
def record (session : Session) (timing : Timing) : Session :=
  { session with timings := session.timings ++ [timing] }

/-- The session with a diagnostic added. -/
def report (session : Session) (diagnostic : Diagnostic) : Session :=
  { session with diagnostics := session.diagnostics ++ [diagnostic] }

/-- The session with several diagnostics added in order. -/
def reportAll (session : Session) (diagnostics : List Diagnostic) : Session :=
  { session with diagnostics := session.diagnostics ++ diagnostics }

/-- Open the shared scope. -/
def start (session : Session) (now : Instant) : Except SessionError Session :=
  match session.openedAt with
  | some _ => .error .scopeAlreadyOpen
  | none => .ok { session with openedAt := some now }

/-- Close the shared scope and record its time under a label. -/
def stop (session : Session) (now : Instant) (label : String) : Except SessionError Session :=
  match session.openedAt with
  | none => .error (.noOpenScope label)
  | some opened =>
    .ok ({ session with openedAt := none }.record ⟨label, opened.elapsed now⟩)

/-- Whether the shared scope is open. -/
def isTiming (session : Session) : Bool :=
  session.openedAt.isSome

/-- Record the time of an independent scope under a label. -/
def finish (session : Session) (scope : TimingScope) (now : Instant) (label : String) : Session :=
  session.record ⟨label, scope.openedAt.elapsed now⟩

/-- The labels of the timings in the order they were recorded. -/
def labels (session : Session) : List String :=
  session.timings.map (·.label)

/-- How many diagnostics have a severity. -/
def count (session : Session) (severity : Severity) : Nat :=
  session.diagnostics.countP (·.severity == severity)

/-- How many errors were reported. -/
def errorCount (session : Session) : Nat :=
  session.count .error

/-- How many warnings were reported. -/
def warningCount (session : Session) : Nat :=
  session.count .warning

/-- Whether any error was reported. -/
def hasErrors (session : Session) : Bool :=
  session.diagnostics.any (·.severity.isError)

/-- The totals with a duration added under a category, unless its total gets too long. -/
def addTo (category : String) (elapsed : Duration) :
    List (String × Duration) → Option (List (String × Duration))
  | [] => some [(category, elapsed)]
  | (name, total) :: rest =>
    if name = category then (total.add? elapsed).map fun sum => (name, sum) :: rest
    else (addTo category elapsed rest).map ((name, total) :: ·)

/-- The category of a timing: the first word of its label. -/
def category (timing : Timing) : String :=
  Text.firstWord timing.label

/-- The total time of each category in first-seen order, unless one gets too long. -/
def totals (timings : List Timing) : Option (List (String × Duration)) :=
  timings.foldlM (fun sums timing => addTo (category timing) timing.elapsed sums) []

/-- The total time of each category of the recorded timings. -/
def summary? (session : Session) : Option (List (String × Duration)) :=
  totals session.timings

end Session

end StagePipeline
