import StagePipeline.Program.SyntaxError
import StagePipeline.Source

/-!
# Lexer

The text is cut into lexemes from the left.  `recognise` says what the lexeme at
the front is and how many characters it takes; `scan` repeats that to the end of
the text and keeps the tokens and the errors, each with its bytes.  Blanks,
comments and line ends inside parentheses leave nothing behind, and neither do
the characters of an error, so the tokens can always be parsed.
-/

namespace StagePipeline.Program

open Text

/-- What stands at the front of a text. -/
inductive Lexeme where
  | blank
  | token (kind : TokenKind)
  | tooLarge (digits : List Char)
  | stray (found : Char)
  deriving DecidableEq, Repr

namespace Lexeme

/-- The tokens of one sign. -/
def punctuation? : Char → Option TokenKind
  | '+' => some .plus
  | '-' => some .minus
  | '*' => some .star
  | '/' => some .slash
  | '=' => some .equals
  | ';' => some .semicolon
  | '(' => some .leftParen
  | ')' => some .rightParen
  | _ => none

/-- The number that a run of decimal digits stands for. -/
def decimalValue (digits : List Char) : Nat :=
  digits.foldl (fun value digit => value * 10 + (digit.toNat - '0'.toNat)) 0

/-- A run of digits is a number when its value fits in 64 bits with a sign. -/
def ofDigits (digits : List Char) : Lexeme :=
  if decimalValue digits < Nat.pow 2 63 then .token (.int (Int64.ofNat (decimalValue digits)))
  else .tooLarge digits

/-- A run of letters is a name, unless it is the word that starts a binding. -/
def ofWord (letters : List Char) : Lexeme :=
  if letters = ['l', 'e', 't'] then .token .letWord
  else .token (.ident (String.ofList letters))

/-- The lexeme that begins with `first`, and how many of the characters after it belong to it. -/
def recognise (nesting : Nat) (first : Char) (rest : List Char) : Lexeme × Nat :=
  if first = '\n' then (if nesting = 0 then .token .lineEnd else .blank, 0)
  else if isBlank first then (.blank, 0)
  else if first = '#' then (.blank, (rest.takeWhile (· != '\n')).length)
  else match punctuation? first with
    | some kind => (.token kind, 0)
    | none =>
      if isDigit first then
        (ofDigits (first :: rest.takeWhile isDigit), (rest.takeWhile isDigit).length)
      else if isWordStart first then
        (ofWord (first :: rest.takeWhile isWordPart), (rest.takeWhile isWordPart).length)
      else (.stray first, 0)

/-- How many parentheses are open after a lexeme; a closing one too many counts for nothing. -/
def nestingAfter (nesting : Nat) : Lexeme → Nat
  | .token .leftParen => nesting + 1
  | .token .rightParen => nesting - 1
  | _ => nesting

/-- The token that a lexeme is, at the bytes it takes. -/
def token? (span : Span) : Lexeme → Option Token
  | .token kind => some ⟨kind, span⟩
  | _ => none

/-- The error that a lexeme is, at the bytes it takes. -/
def error? (span : Span) : Lexeme → Option SyntaxError
  | .tooLarge digits => some (.integerOverflow (String.ofList digits) span)
  | .stray found => some (.unexpectedChar found span)
  | _ => none

end Lexeme

/-- The tokens and errors of a text, each in the order of the text. -/
structure Lexed where
  tokens : List Token := []
  errors : List SyntaxError := []
  deriving DecidableEq, Repr

namespace Lexed

/-- Cut the rest of a text that begins at `offset`, inside `nesting` open parentheses. -/
def scan (nesting offset : Nat) (text : List Char) : Lexed :=
  match text with
  | [] => {}
  | first :: rest =>
    let (lexeme, more) := Lexeme.recognise nesting first rest
    let span := Span.ofLength offset (width (first :: rest.take more))
    let later := scan (lexeme.nestingAfter nesting) span.stop (rest.drop more)
    { tokens := (lexeme.token? span).toList ++ later.tokens
      errors := (lexeme.error? span).toList ++ later.errors }
termination_by text.length
decreasing_by
  simp only [List.length_drop, List.length_cons]
  omega

/-- The lexemes of a whole text. -/
def ofText (text : String) : Lexed :=
  scan 0 0 text.toList

/--
The lexemes of a whole text, unless a signal stops the reading.  A signal stays
as it is for the length of one parse, so it is enough to look at it once, before
the first character; a text without characters is never stopped.
-/
def ofText? (signal : Option Interrupt) (text : String) : Except Interrupt Lexed :=
  match signal with
  | some reason => if text.isEmpty then .ok {} else .error reason
  | none => .ok (ofText text)

end Lexed

end StagePipeline.Program
