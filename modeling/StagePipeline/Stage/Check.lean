import StagePipeline.Lint
import StagePipeline.Settings
import StagePipeline.Stage.Phase
import StagePipeline.Unit

/-!
# Checking a batch

The check stage runs its lints over the tree of every unit and reports what they
find under its own name.  A unit without a tree is an error.  The stage fails
when it has reported an error, and it changes no unit.
-/

namespace StagePipeline

/-- The stage that runs lints over parsed units. -/
structure CheckStage where
  phase : Phase
  lints : List Lint := []

namespace CheckStage

/-- What the stage does. -/
def description : String :=
  "Lint parsed units and report diagnostics"

/-- The stage with the built-in lints. -/
def builtIn (phase : Phase) (options : CheckOptions) : CheckStage where
  phase := phase
  lints := Lint.builtIn options.maxDepth.toNat

/-- What there is to say about a unit, unless a finding has no position. -/
def findings? (stage : CheckStage) (unit : CompilationUnit) : Option (List Diagnostic) :=
  match unit.tree? with
  | some tree =>
    (stage.lints.mapM fun (lint : Lint) => lint.check unit.source tree).map List.flatten
  | none =>
    some [{ severity := .error, phase := stage.phase.name, message := "unit has not been parsed",
            location := some unit.source.name }]

/-- The diagnostics in the name of the stage. -/
def signed (stage : CheckStage) (diagnostics : List Diagnostic) : List Diagnostic :=
  diagnostics.map fun diagnostic => { diagnostic with phase := stage.phase.name }

/-- The session after the units have been checked, the errors found, and what stopped the check. -/
structure Checked where
  session : Session
  errors : Nat := 0
  stopped : Option StageError := none

/-- Check some units in order, with `errors` found before them. -/
def check (stage : CheckStage) (errors : Nat) :
    List CompilationUnit → Session → Checked
  | [], session => { session := session, errors := errors }
  | unit :: rest, session =>
    match stage.findings? unit with
    | none =>
      { session := session, errors := errors, stopped := some (.unlocatable unit.source.name) }
    | some findings =>
      stage.check (errors + findings.countP (·.severity.isError)) rest
        (session.reportAll (stage.signed findings))

/-- Apply the stage to a batch: what it fails with, if it fails, and the session afterwards. -/
def apply (stage : CheckStage) (units : List CompilationUnit) (session : Session) :
    Option StageError × Session :=
  let checked := stage.check 0 units session
  match checked.stopped with
  | some error => (some error, checked.session)
  | none =>
    if checked.errors = 0 then (none, checked.session)
    else (some (.diagnostics stage.phase.name checked.errors), checked.session)

end CheckStage

end StagePipeline
