import StagePipeline.Json.Document

/-!
# Texts in TOML documents

A text stands between quotes, single ones when there are no escapes in it and
double ones when there may be, and between three quotes of a kind when it may
hold line ends.  A line end right after three opening quotes does not belong to
the text, and one or two quotes right before three closing ones do.

Each reader takes the input behind the opening quotes and gives the characters
of the text and the input behind the closing quotes.
-/

namespace StagePipeline.Toml

/-- A character that may stand in a comment or on a line of a text. -/
def isLineCharacter (character : Char) : Bool :=
  character == '\t' || (32 ≤ character.toNat && character.toNat != 127)

/-- A blank on a line. -/
def isSpace (character : Char) : Bool :=
  character == ' ' || character == '\t'

/-- The character with a code, unless there is none. -/
def characterOf? (code : Nat) : Option Char :=
  if valid : code.isValidChar then some (Char.ofNatAux code valid) else none

/-- The character that a letter after a backslash stands for. -/
def escaped? (letter : Char) : Option Char :=
  match letter with
  | '"' => some '"'
  | '\\' => some '\\'
  | 'b' => some '\x08'
  | 'e' => some '\x1b'
  | 'f' => some '\x0c'
  | 'n' => some '\n'
  | 'r' => some '\r'
  | 't' => some '\t'
  | _ => none

/-- How many hexadecimal digits of a code follow a letter after a backslash. -/
def codeLength? (letter : Char) : Option Nat :=
  match letter with
  | 'x' => some 2
  | 'u' => some 4
  | 'U' => some 8
  | _ => none

/-- The character that is written as a code with a fixed number of digits. -/
def coded? (count : Nat) (digits : List Char) : Option Char :=
  if (digits.take count).length = count then
    (Json.Document.hexNumber? (digits.take count)).bind characterOf?
  else none

/-- The rest of a text without escapes on one line. -/
def readLiteral : List Char → Option (List Char × List Char)
  | [] => none
  | '\x27' :: rest => some ([], rest)
  | character :: rest =>
    if isLineCharacter character then
      (readLiteral rest).map fun (found, left) => (character :: found, left)
    else none

/-- The quotes before the end of a text between three quotes, and what follows the end. -/
def readEnd (mark : Char) (rest : List Char) : List Char × List Char :=
  let more := (rest.take 2).takeWhile (· == mark)
  (more, rest.drop more.length)

/-- The rest of a text without escapes on several lines. -/
def readLiteralLines : List Char → Option (List Char × List Char)
  | [] => none
  | '\x27' :: '\x27' :: '\x27' :: rest => some (readEnd '\x27' rest)
  | '\r' :: '\n' :: rest =>
    (readLiteralLines rest).map fun (found, left) => ('\r' :: '\n' :: found, left)
  | character :: rest =>
    if character = '\n' ∨ isLineCharacter character then
      (readLiteralLines rest).map fun (found, left) => (character :: found, left)
    else none

/-- What to do with the characters that follow. -/
inductive Skipping where
  /-- Keep them. -/
  | none
  /-- Pass over some digits of a code. -/
  | digits (count : Nat)
  /-- Pass over blanks up to a line end, which has to come. -/
  | toLineEnd
  /-- Pass over blanks and line ends. -/
  | blanks

/-- Put a character before the text that a reader found. -/
def keep (character : Char) (result : Option (List Char × List Char)) :
    Option (List Char × List Char) :=
  result.map fun (found, left) => (character :: found, left)

/-- The rest of a text with escapes on one line. -/
def readBasic : Nat → List Char → Option (List Char × List Char)
  | _, [] => none
  | count + 1, _ :: rest => readBasic count rest
  | 0, '"' :: rest => some ([], rest)
  | 0, '\\' :: letter :: rest =>
    match escaped? letter, codeLength? letter with
    | some character, _ => keep character (readBasic 0 rest)
    | none, some count =>
      match coded? count rest with
      | some character => keep character (readBasic count rest)
      | none => none
    | none, none => none
  | 0, character :: rest =>
    if isLineCharacter character then keep character (readBasic 0 rest) else none

/-- The rest of a text with escapes on several lines. -/
def readBasicLines : Skipping → List Char → Option (List Char × List Char)
  | _, [] => none
  | .digits (count + 1), _ :: rest => readBasicLines (.digits count) rest
  | .toLineEnd, '\n' :: rest => readBasicLines .blanks rest
  | .toLineEnd, '\r' :: '\n' :: rest => readBasicLines .blanks rest
  | .toLineEnd, character :: rest =>
    if isSpace character then readBasicLines .toLineEnd rest else none
  | .blanks, ' ' :: rest => readBasicLines .blanks rest
  | .blanks, '\t' :: rest => readBasicLines .blanks rest
  | .blanks, '\n' :: rest => readBasicLines .blanks rest
  | .blanks, '\r' :: '\n' :: rest => readBasicLines .blanks rest
  | _, '"' :: '"' :: '"' :: rest => some (readEnd '"' rest)
  | _, '\r' :: '\n' :: rest => keep '\r' (keep '\n' (readBasicLines .none rest))
  | _, '\\' :: letter :: rest =>
    match escaped? letter, codeLength? letter with
    | some character, _ => keep character (readBasicLines .none rest)
    | none, some count =>
      match coded? count rest with
      | some character => keep character (readBasicLines (.digits count) rest)
      | none => none
    | none, none =>
      if letter = '\n' then readBasicLines .blanks rest
      else if isSpace letter ∨ letter = '\r' then readBasicLines .toLineEnd (letter :: rest)
      else none
  | _, character :: rest =>
    if character = '\n' ∨ isLineCharacter character then
      keep character (readBasicLines .none rest)
    else none

/-- The input without a line end that it begins with. -/
def dropLineEnd : List Char → List Char
  | '\n' :: rest => rest
  | '\r' :: '\n' :: rest => rest
  | input => input

/-- The text on one line that an input begins with, quotes included. -/
def readQuoted : List Char → Option (String × List Char)
  | '"' :: rest => (readBasic 0 rest).map fun (found, left) => (String.ofList found, left)
  | '\x27' :: rest => (readLiteral rest).map fun (found, left) => (String.ofList found, left)
  | _ => none

/-- The text on one or several lines that an input begins with, quotes included. -/
def readText : List Char → Option (String × List Char)
  | '"' :: '"' :: '"' :: rest =>
    (readBasicLines .none (dropLineEnd rest)).map fun (found, left) => (String.ofList found, left)
  | '\x27' :: '\x27' :: '\x27' :: rest =>
    (readLiteralLines (dropLineEnd rest)).map fun (found, left) => (String.ofList found, left)
  | input => readQuoted input

end StagePipeline.Toml
