import StagePipeline.Diagnostic
import StagePipeline.Program.Tree
import StagePipeline.Source

/-!
# Lints

A lint looks at the tree of a source and gives diagnostics, unless a finding has
no position in the text.  Three are built in: division by a literal zero, names
read before a binding, and expressions that nest too deep.
-/

namespace StagePipeline

open Program

/-- A named search for problems in a tree. -/
structure Lint where
  name : String
  description : String
  check : SourceFile → SyntaxTree → Option (List Diagnostic)

namespace Lint

/-- A diagnostic at an offset of a source, unless the offset has no position. -/
def finding? (severity : Severity) (phase message : String) (source : SourceFile)
    (offset : Nat) : Option Diagnostic :=
  (source.location? offset).map fun location =>
    { severity := severity, phase := phase, message := message, location := some location }

/-- The bytes of the divisor of a division by a literal zero. -/
def zeroDivisor? : Expr → Option Span
  | .binary .div _ divisor _ => if divisor.constant = some 0 then some divisor.span else none
  | _ => none

/-- The divisions by a literal zero in a tree, each with the bytes of its divisor. -/
def zeroDivisions (tree : SyntaxTree) : List (Expr × Span) :=
  tree.expressions.filterMap fun expr => (zeroDivisor? expr).map fun span => (expr, span)

/-- Finds divisions by a constant zero. -/
def divisionByZero : Lint where
  name := "division-by-zero"
  description := "Detect division by a constant zero"
  check source tree := (zeroDivisions tree).mapM fun (division, divisor) =>
    finding? .error "division-by-zero" s!"division by zero in `{division.render}`" source
      divisor.start

/-- The names read in an expression, in source order. -/
def namesIn (expr : Expr) : List Ident :=
  expr.subexpressions.filterMap fun
    | .name ident => some ident
    | _ => none

/-- The names read in some statements while no binding before has bound them. -/
def unboundNames (bound : List String) : List Stmt → List Ident
  | [] => []
  | statement :: rest =>
    (namesIn statement.expr).filter (fun ident => !bound.contains ident.name) ++
      unboundNames ((statement.bound.map (·.name)).toList ++ bound) rest

/-- Finds names that are read before a binding binds them. -/
def undefinedName : Lint where
  name := "undefined-name"
  description := "Detect names used before they are bound"
  check source tree := (unboundNames [] tree.statements).mapM fun ident =>
    finding? .warning "undefined-name" s!"name '{ident.name}' is used before it is bound" source
      ident.span.start

/-- Finds statements whose expression nests deeper than a limit. -/
def nestingDepth (limit : Nat) : Lint where
  name := "nesting-depth"
  description := "Detect expressions nested deeper than the configured limit"
  check source tree :=
    (tree.statements.filter fun statement => limit < statement.expr.depth).mapM fun statement =>
      finding? .warning "nesting-depth"
        s!"expression nests {statement.expr.depth} levels deep (limit is {limit})" source
        statement.span.start

/-- The built-in lints, in the order in which they run. -/
def builtIn (maxDepth : Nat) : List Lint :=
  [divisionByZero, undefinedName, nestingDepth maxDepth]

end Lint

end StagePipeline
