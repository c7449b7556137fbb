import StagePipeline.Span

/-!
# Syntax trees

A program is a list of statements, each of which holds one expression.  Trees
are printed in prefix form, with parentheses for every operation and none for a
group.  `subexpressions` lists an expression and all those inside it, parents
before children and left before right.
-/

namespace StagePipeline.Program

/-- A name and where it stands. -/
structure Ident where
  name : String
  span : Span
  deriving DecidableEq, Repr

/-- An operation on two values. -/
inductive BinaryOp where
  | add
  | sub
  | mul
  | div
  deriving DecidableEq, Repr

namespace BinaryOp

/-- The sign of the operation. -/
def symbol : BinaryOp → String
  | .add => "+"
  | .sub => "-"
  | .mul => "*"
  | .div => "/"

end BinaryOp

/-- An expression, in which every node knows the bytes it stands for. -/
inductive Expr where
  | number (value : Int64) (span : Span)
  | name (ident : Ident)
  | negation (operand : Expr) (span : Span)
  | binary (op : BinaryOp) (left right : Expr) (span : Span)
  | group (inner : Expr) (span : Span)
  deriving DecidableEq, Repr

/-- The negation of a 64-bit integer, which the least one does not have. -/
def negate? (value : Int64) : Option Int64 :=
  if value = Int64.minValue then none else some (-value)

namespace Expr

/-- The bytes that the expression stands for. -/
def span : Expr → Span
  | .number _ span => span
  | .name ident => ident.span
  | .negation _ span => span
  | .binary _ _ _ span => span
  | .group _ span => span

/-- How deep the expression nests; a leaf has depth one. -/
def depth : Expr → Nat
  | .number _ _ => 1
  | .name _ => 1
  | .negation operand _ => 1 + operand.depth
  | .binary _ left right _ => 1 + max left.depth right.depth
  | .group inner _ => 1 + inner.depth

/-- The value of a literal, seen through groups and negations. -/
def constant : Expr → Option Int64
  | .number value _ => some value
  | .name _ => none
  | .negation operand _ => operand.constant.bind negate?
  | .binary _ _ _ _ => none
  | .group inner _ => inner.constant

/-- The expression and all those inside it, parents first and in source order. -/
def subexpressions : Expr → List Expr
  | .number value span => [.number value span]
  | .name ident => [.name ident]
  | .negation operand span => .negation operand span :: operand.subexpressions
  | .binary op left right span =>
    .binary op left right span :: (left.subexpressions ++ right.subexpressions)
  | .group inner span => .group inner span :: inner.subexpressions

/-- The expression in prefix form. -/
def render : Expr → String
  | .number value _ => toString value.toInt
  | .name ident => ident.name
  | .negation operand _ => s!"(- {operand.render})"
  | .binary op left right _ => s!"({op.symbol} {left.render} {right.render})"
  | .group inner _ => inner.render

end Expr

/-- A statement: a name bound to a value, or a bare expression. -/
inductive Stmt where
  | binding (name : Ident) (value : Expr) (span : Span)
  | bare (expr : Expr)
  deriving DecidableEq, Repr

namespace Stmt

/-- The expression that the statement evaluates. -/
def expr : Stmt → Expr
  | .binding _ value _ => value
  | .bare expr => expr

/-- The bytes that the statement stands for. -/
def span : Stmt → Span
  | .binding _ _ span => span
  | .bare expr => expr.span

/-- The name that the statement binds. -/
def bound : Stmt → Option Ident
  | .binding name _ _ => some name
  | .bare _ => none

/-- The statement in prefix form. -/
def render : Stmt → String
  | .binding name value _ => s!"(let {name.name} {value.render})"
  | .bare expr => expr.render

end Stmt

/-- The parsed body of a compilation unit. -/
structure SyntaxTree where
  statements : List Stmt := []
  deriving DecidableEq, Repr

namespace SyntaxTree

/-- Whether the program has no statement. -/
def isEmpty (tree : SyntaxTree) : Bool :=
  tree.statements.isEmpty

/-- Every expression of the program, parents first and in source order. -/
def expressions (tree : SyntaxTree) : List Expr :=
  tree.statements.flatMap fun statement => statement.expr.subexpressions

/-- The statements in prefix form, one on each line. -/
def render (tree : SyntaxTree) : String :=
  String.join (tree.statements.map fun statement => statement.render ++ "\n")

end SyntaxTree

end StagePipeline.Program
