import StagePipeline.Program.Tree
import StagePipeline.Source

/-!
# Compilation units

A source that goes through the stages, with the tree that the latest parse of it
has stored.
-/

namespace StagePipeline

open Program

/-- The tree of a unit, once a parse has stored one. -/
inductive Body where
  | unparsed
  | parsed (tree : SyntaxTree)
  deriving DecidableEq, Repr

/-- One source on its way through the pipeline. -/
structure CompilationUnit where
  source : SourceFile
  body : Body := .unparsed
  deriving DecidableEq, Repr

namespace CompilationUnit

/-- The tree that the latest parse has stored. -/
def tree? (unit : CompilationUnit) : Option SyntaxTree :=
  match unit.body with
  | .unparsed => none
  | .parsed tree => some tree

/-- Whether a parse has stored a tree. -/
def isParsed (unit : CompilationUnit) : Bool :=
  unit.tree?.isSome

/-- The unit with another tree. -/
def withTree (unit : CompilationUnit) (tree : SyntaxTree) : CompilationUnit :=
  { unit with body := .parsed tree }

end CompilationUnit

end StagePipeline
