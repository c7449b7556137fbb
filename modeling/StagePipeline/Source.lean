import StagePipeline.Span
import StagePipeline.Text.Bytes

/-!
# Source files and positions in them

A source file is a name and a text.  A byte offset is shown as a line and a
column, both counted from one: the line counts the line feeds before the offset
and the column the characters after the last of them.  An offset past the end
stands for the end, and an offset inside a character has no position.
-/

namespace StagePipeline

/-- A line and a column, both counted from one. -/
structure LineColumn where
  line : Nat
  column : Nat
  deriving DecidableEq, Repr

namespace LineColumn

/-- The position as it is written after a file's name. -/
def render (position : LineColumn) : String :=
  s!"{position.line}:{position.column}"

/-- The position just after a run of characters that starts a text. -/
def after (before : List Char) : LineColumn where
  line := before.count '\n' + 1
  column := (before.reverse.takeWhile (· != '\n')).length + 1

end LineColumn

/-- The input of one compilation unit: an identity and its text. -/
structure SourceFile where
  name : String
  text : String
  deriving DecidableEq, Repr, Inhabited

namespace SourceFile

/-- How many bytes the text takes. -/
def size (source : SourceFile) : Nat :=
  Text.width source.text.toList

/-- The line and column of a byte offset, unless it lies inside a character. -/
def lineColumn? (source : SourceFile) (offset : Nat) : Option LineColumn :=
  (Text.splitAt? (min offset source.size) source.text.toList).map
    fun (before, _) => LineColumn.after before

/-- The place of a byte offset, written `name:line:column`. -/
def location? (source : SourceFile) (offset : Nat) : Option String :=
  (source.lineColumn? offset).map fun position => s!"{source.name}:{position.render}"

/-- The bytes of the text that a span covers, unless the span cuts a character. -/
def slice? (source : SourceFile) (span : Span) : Option String := do
  let (_, after) ← Text.splitAt? span.start source.text.toList
  let (covered, _) ← Text.splitAt? span.length after
  return String.ofList covered

end SourceFile

end StagePipeline
