import StagePipeline.Span

/-!
# Tokens

The words of the language with their places.  The end of the input is no token:
where a text for "what comes next" is wanted, `none` stands for the end.
-/

namespace StagePipeline.Program

/-- What a token is. -/
inductive TokenKind where
  | int (value : Int64)
  | ident (name : String)
  | letWord
  | plus
  | minus
  | star
  | slash
  | equals
  | leftParen
  | rightParen
  | semicolon
  | lineEnd
  deriving DecidableEq, Repr

namespace TokenKind

/-- Whether a token of this kind ends a statement. -/
def isSeparator : TokenKind → Bool
  | .semicolon | .lineEnd => true
  | _ => false

/-- What the next token is called in a message. -/
def describe : Option TokenKind → String
  | some (.int value) => s!"integer `{value.toInt}`"
  | some (.ident name) => s!"name `{name}`"
  | some .letWord => "`let`"
  | some .plus => "`+`"
  | some .minus => "`-`"
  | some .star => "`*`"
  | some .slash => "`/`"
  | some .equals => "`=`"
  | some .leftParen => "`(`"
  | some .rightParen => "`)`"
  | some .semicolon => "`;`"
  | some .lineEnd => "end of line"
  | none => "end of input"

end TokenKind

/-- A token and the bytes it stands for. -/
structure Token where
  kind : TokenKind
  span : Span
  deriving DecidableEq, Repr

end StagePipeline.Program
