import StagePipeline.CancelToken
import StagePipeline.Program.Token

/-!
# Syntax errors

Each way in which a text can fail to be a program, with the bytes that show it.
Only an interrupted parse has no place.  Messages, codes, help and labels are
functions of the cause.
-/

namespace StagePipeline.Program

/-- What the parser was waiting for. -/
inductive Expectation where
  | endOfStatement
  | name
  | equals
  | expression
  | closingParen
  deriving DecidableEq, Repr

namespace Expectation

/-- What is expected, as a message names it. -/
def describe : Expectation → String
  | .endOfStatement => "end of statement"
  | .name => "a name"
  | .equals => "`=`"
  | .expression => "an expression"
  | .closingParen => "`)`"

end Expectation

/-- Why a text is not a program, or was not read to its end. -/
inductive SyntaxError where
  | unexpectedChar (found : Char) (span : Span)
  | unexpectedToken (expected : Expectation) (found : Option TokenKind) (span : Span)
  | integerOverflow (literal : String) (span : Span)
  | unclosedParen (span : Span)
  | tooDeep (limit : Nat) (span : Span)
  | invalid (message : String) (span : Span)
  | interrupted (reason : Interrupt)
  deriving DecidableEq, Repr

namespace SyntaxError

/-- The error in words. -/
def message : SyntaxError → String
  | .unexpectedChar found _ => s!"unexpected character '{found}'"
  | .unexpectedToken expected found _ =>
    s!"expected {expected.describe}, found {TokenKind.describe found}"
  | .integerOverflow literal _ => s!"integer literal '{literal}' does not fit in 64 bits"
  | .unclosedParen _ => "unclosed parenthesis"
  | .tooDeep limit _ => s!"expression nests deeper than {limit} levels"
  | .invalid message _ => message
  | .interrupted reason => s!"parsing interrupted: {reason.message}"

/-- The short name of the kind of error. -/
def kind : SyntaxError → String
  | .unexpectedChar _ _ => "unexpected_char"
  | .unexpectedToken _ _ _ => "unexpected_token"
  | .integerOverflow _ _ => "integer_overflow"
  | .unclosedParen _ => "unclosed_paren"
  | .tooDeep _ _ => "too_deep"
  | .invalid _ _ => "invalid"
  | .interrupted _ => "interrupted"

/-- The code under which the kind of error is known. -/
def code : SyntaxError → String
  | .invalid _ _ => "strata::invalid_syntax"
  | error => "strata::" ++ error.kind

/-- What to do about the error, where that can be said in general. -/
def help? : SyntaxError → Option String
  | .unexpectedChar _ _ =>
    some "only digits, names, `let`, `+ - * /`, `=`, `;` and parentheses are allowed"
  | .unclosedParen _ => some "add a matching ')'"
  | .tooDeep _ _ => some "split the expression using `let` bindings"
  | _ => none

/-- What to write beside the bytes that show the error. -/
def label? : SyntaxError → Option String
  | .unexpectedChar _ _ => some "not valid here"
  | .unexpectedToken _ found _ => some s!"unexpected {TokenKind.describe found}"
  | .integerOverflow _ _ => some "too large"
  | .unclosedParen _ => some "opened here"
  | .tooDeep _ _ => some "limit reached here"
  | .invalid message _ => some message
  | .interrupted _ => none

/-- The bytes that show the error. -/
def span? : SyntaxError → Option Span
  | .unexpectedChar _ span => some span
  | .unexpectedToken _ _ span => some span
  | .integerOverflow _ span => some span
  | .unclosedParen span => some span
  | .tooDeep _ span => some span
  | .invalid _ span => some span
  | .interrupted _ => none

/-- The offset that the error points at. -/
def offset? (error : SyntaxError) : Option Nat :=
  error.span?.map (·.start)

/-- Why the parse was stopped, if it was. -/
def interrupt? : SyntaxError → Option Interrupt
  | .interrupted reason => some reason
  | _ => none

/-- Whether one error belongs no later than another: by offset, those without one first. -/
def notAfter (left right : SyntaxError) : Bool :=
  match left.offset?, right.offset? with
  | none, _ => true
  | some _, none => false
  | some leftOffset, some rightOffset => leftOffset ≤ rightOffset

end SyntaxError

end StagePipeline.Program
