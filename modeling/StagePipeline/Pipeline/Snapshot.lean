import StagePipeline.Diagnostic
import StagePipeline.Json.Value
import StagePipeline.Stage.Phase
import StagePipeline.Unit

/-!
# Snapshots of a batch

A snapshot holds what the units and the diagnostics were after a stage.  It is
written as JSON to a file that is named for the phase, with the id in at least
two digits.
-/

namespace StagePipeline

open Program

/-- A unit as it was after a stage. -/
structure UnitSnapshot where
  source : String
  body : Body
  deriving DecidableEq, Repr

/-- A batch as it was after a stage. -/
structure StageSnapshot where
  phase : Phase
  units : List UnitSnapshot
  diagnostics : List Diagnostic
  deriving DecidableEq, Repr

namespace StageSnapshot

/-- The batch as it is now. -/
def take (phase : Phase) (units : List CompilationUnit) (diagnostics : List Diagnostic) :
    StageSnapshot where
  phase := phase
  units := units.map fun unit => ⟨unit.source.name, unit.body⟩
  diagnostics := diagnostics

/-- A number in at least two digits. -/
def twoDigits (number : Nat) : String :=
  if number < 10 then "0" ++ toString number else toString number

/-- The name of the file that the snapshot is written to. -/
def fileName (snapshot : StageSnapshot) : String :=
  twoDigits snapshot.phase.id.toNat ++ "-" ++ snapshot.phase.name ++ ".json"

end StageSnapshot

namespace Json

/-- The two offsets of a span. -/
def ofSpan (span : Span) : Json :=
  .object [("start", .number span.start), ("end", .number span.stop)]

/-- A name with its span. -/
def ofIdent (ident : Ident) : Json :=
  .object [("name", .text ident.name), ("span", ofSpan ident.span)]

/-- The word for an operation. -/
def operationName : BinaryOp → String
  | .add => "add"
  | .sub => "sub"
  | .mul => "mul"
  | .div => "div"

/-- An expression with the spans of all its nodes. -/
def ofExpr : Expr → Json
  | .number value span =>
    .object [("kind", .text "number"), ("value", .number value.toInt), ("span", ofSpan span)]
  | .name ident => .object [("kind", .text "name"), ("ident", ofIdent ident)]
  | .negation operand span =>
    .object [("kind", .text "unary"), ("op", .text "neg"), ("operand", ofExpr operand),
      ("span", ofSpan span)]
  | .binary op left right span =>
    .object [("kind", .text "binary"), ("op", .text (operationName op)), ("lhs", ofExpr left),
      ("rhs", ofExpr right), ("span", ofSpan span)]
  | .group inner span =>
    .object [("kind", .text "group"), ("inner", ofExpr inner), ("span", ofSpan span)]

/-- A statement with the spans of all its nodes. -/
def ofStmt : Stmt → Json
  | .binding name value span =>
    .object [("kind", .text "let"), ("name", ofIdent name), ("value", ofExpr value),
      ("span", ofSpan span)]
  | .bare expr => .object [("kind", .text "expr"), ("expr", ofExpr expr)]

/-- A tree as the list of its statements. -/
def ofTree (tree : SyntaxTree) : Json :=
  .object [("statements", .list (tree.statements.map ofStmt))]

/-- A body as its state and, once parsed, its tree. -/
def ofBody : Body → Json
  | .unparsed => .object [("state", .text "unparsed")]
  | .parsed tree => .object [("state", .text "parsed"), ("tree", ofTree tree)]

/-- A diagnostic with all its fields. -/
def ofDiagnostic (diagnostic : Diagnostic) : Json :=
  .object [("severity", .text diagnostic.severity.name), ("phase", .text diagnostic.phase),
    ("message", .text diagnostic.message), ("location", ofOption .text diagnostic.location)]

/-- A snapshot with its phase, units and diagnostics. -/
def ofSnapshot (snapshot : StageSnapshot) : Json :=
  .object [("stage", .text snapshot.phase.name), ("id", .number snapshot.phase.id.toNat),
    ("units", .list (snapshot.units.map fun unit =>
      .object [("source", .text unit.source), ("body", ofBody unit.body)])),
    ("diagnostics", .list (snapshot.diagnostics.map ofDiagnostic))]

end Json

end StagePipeline
