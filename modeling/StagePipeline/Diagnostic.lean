/-!
# Diagnostics

What a stage tells about a unit: how bad it is, which phase found it, what is
wrong and, when known, where.
-/

namespace StagePipeline

/-- How bad a diagnostic is. -/
inductive Severity where
  /-- The unit cannot be compiled. -/
  | error
  /-- Suspicious, but compilation goes on. -/
  | warning
  /-- About the course of the compilation. -/
  | info
  deriving DecidableEq, Repr

namespace Severity

/-- The severity as it is written. -/
def name : Severity → String
  | .error => "error"
  | .warning => "warning"
  | .info => "info"

/-- The severity with a given name; every other name stands for information. -/
def ofName : String → Severity
  | "error" => .error
  | "warning" => .warning
  | _ => .info

theorem ofName_name (severity : Severity) : ofName severity.name = severity := by
  cases severity <;> rfl

/-- Whether the severity is that of an error. -/
def isError (severity : Severity) : Bool :=
  severity == .error

/-- Whether the severity is that of a warning. -/
def isWarning (severity : Severity) : Bool :=
  severity == .warning

end Severity

/-- A message about a unit from one phase of the pipeline. -/
structure Diagnostic where
  severity : Severity
  phase : String
  message : String
  /-- Where the problem is, written `name:line:column`. -/
  location : Option String := none
  deriving DecidableEq, Repr

namespace Diagnostic

/-- The severity and message on one line, with the location in parentheses. -/
def render (diagnostic : Diagnostic) : String :=
  let place := match diagnostic.location with
    | some location => s!" (at {location})"
    | none => ""
  s!"{diagnostic.severity.name}: {diagnostic.message}{place}"

end Diagnostic

end StagePipeline
