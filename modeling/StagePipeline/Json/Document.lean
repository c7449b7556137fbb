import StagePipeline.Json.Number
import StagePipeline.Text.CharacterClass

/-!
# JSON texts as far as they can be read

A document is a JSON text read from left to right up to the first place where it
is malformed.  Lists and objects that break off keep what was read of them, so
whoever goes through a document in text order meets everything before the fault
first.

`Document.read` gives the rest of the text behind a value, and no rest when the
value breaks off.
-/

namespace StagePipeline.Json

/-- A JSON text as far as it could be read. -/
inductive Document where
  | null
  | boolean (value : Bool)
  | number (value : Number)
  /-- A text, without value when an escape in it stands for no character. -/
  | text (value : Option String)
  | list (items : List Document) (closed : Bool)
  /-- An object; a key is without value as a text is. -/
  | object (entries : List (Option String × Document)) (closed : Bool)
  /-- No value at all. -/
  | broken
  deriving Repr

namespace Document

/-! ### Texts -/

/-- A part of a text: a character or a 16-bit code from an escape. -/
inductive Piece where
  | character (value : Char)
  | unit (code : Nat)
  deriving DecidableEq, Repr

/-- The character that a letter after a backslash stands for. -/
def escaped? (letter : Char) : Option Char :=
  match letter with
  | '"' => some '"'
  | '\\' => some '\\'
  | '/' => some '/'
  | 'b' => some '\x08'
  | 'f' => some '\x0c'
  | 'n' => some '\n'
  | 'r' => some '\r'
  | 't' => some '\t'
  | _ => none

/-- The value of a hexadecimal digit. -/
def hexDigit? (character : Char) : Option Nat :=
  if '0' ≤ character ∧ character ≤ '9' then some (character.toNat - '0'.toNat)
  else if 'a' ≤ character ∧ character ≤ 'f' then some (character.toNat - 'a'.toNat + 10)
  else if 'A' ≤ character ∧ character ≤ 'F' then some (character.toNat - 'A'.toNat + 10)
  else none

/-- The number that some hexadecimal digits stand for. -/
def hexNumber? (digits : List Char) : Option Nat :=
  digits.foldlM (fun number digit => (hexDigit? digit).map (number * 16 + ·)) 0

/-- The pieces of a text up to the quote that ends it, and what follows the quote. -/
def pieces : List Char → Option (List Piece × List Char)
  | [] => none
  | '"' :: rest => some ([], rest)
  | '\\' :: 'u' :: first :: second :: third :: fourth :: rest =>
    match hexNumber? [first, second, third, fourth] with
    | some code => (pieces rest).map fun (more, left) => (.unit code :: more, left)
    | none => none
  | '\\' :: letter :: rest =>
    match escaped? letter with
    | some character => (pieces rest).map fun (more, left) => (.character character :: more, left)
    | none => none
  | character :: rest =>
    if character.toNat < 32 then none
    else (pieces rest).map fun (more, left) => (.character character :: more, left)

/-- The characters of some pieces, unless a code is half of a pair without the other half. -/
def characters : List Piece → Option (List Char)
  | [] => some []
  | .character value :: rest => (characters rest).map (value :: ·)
  | .unit code :: rest =>
    if code < 0xd800 ∨ 0xdfff < code then (characters rest).map (Char.ofNat code :: ·)
    else match rest with
      | .unit low :: rest =>
        if code < 0xdc00 ∧ 0xdc00 ≤ low ∧ low ≤ 0xdfff then
          (characters rest).map
            (Char.ofNat (0x10000 + (code - 0xd800) * 0x400 + (low - 0xdc00)) :: ·)
        else none
      | _ => none

/-- The text that starts behind a quote, and what follows it. -/
def readText (input : List Char) : Option (Option String × List Char) :=
  (pieces input).map fun (found, rest) => ((characters found).map String.ofList, rest)

/-! ### Numbers -/

/-- The digits that a text begins with, and what follows them. -/
def readDigits (input : List Char) : List Nat × List Char :=
  ((input.takeWhile Text.isDigit).map fun digit => digit.toNat - '0'.toNat,
    input.dropWhile Text.isDigit)

/-- The point and the digits after it, if there is a point. -/
def readFraction : List Char → Option (Option (List Nat) × List Char)
  | '.' :: rest =>
    match readDigits rest with
    | ([], _) => none
    | (digits, rest) => some (some digits, rest)
  | input => some (none, input)

/-- The exponent, if there is one. -/
def readExponent : List Char → Option (Option Int × List Char)
  | [] => some (none, [])
  | mark :: input =>
    if mark = 'e' ∨ mark = 'E' then
      let (negative, input) := match input with
        | '-' :: rest => (true, rest)
        | '+' :: rest => (false, rest)
        | rest => (false, rest)
      match readDigits input with
      | ([], _) => none
      | (digits, rest) =>
        let size : Nat := digits.foldl (fun number digit => number * 10 + digit) 0
        some (some (if negative then -size else size), rest)
    else some (none, mark :: input)

/-- A number, whose digits before the point begin with zero only if that is all of them. -/
def readNumeral (input : List Char) : Option (Numeral × List Char) :=
  let (negative, input) := match input with
    | '-' :: rest => (true, rest)
    | rest => (false, rest)
  match readDigits input with
  | ([], _) | (0 :: _ :: _, _) => none
  | (whole, rest) =>
    (readFraction rest).bind fun (fraction, rest) =>
      (readExponent rest).map fun (exponent, rest) =>
        (⟨negative, whole, fraction, exponent⟩, rest)

/-! ### Values -/

/-- A character between the parts of a document. -/
def isSpace (character : Char) : Bool :=
  character == ' ' || character == '\n' || character == '\t' || character == '\r'

/-- The text from its first character that is not a space. -/
def skipSpace (input : List Char) : List Char :=
  input.dropWhile isSpace

mutual

/-- The value that a text begins with, reading at most `fuel` levels and items deep. -/
def readValue : Nat → List Char → Document × Option (List Char)
  | 0, _ => (.broken, none)
  | fuel + 1, input =>
    match skipSpace input with
    | 'n' :: 'u' :: 'l' :: 'l' :: rest => (.null, some rest)
    | 't' :: 'r' :: 'u' :: 'e' :: rest => (.boolean true, some rest)
    | 'f' :: 'a' :: 'l' :: 's' :: 'e' :: rest => (.boolean false, some rest)
    | '"' :: rest =>
      match readText rest with
      | some (value, rest) => (.text value, some rest)
      | none => (.broken, none)
    | '[' :: rest =>
      match skipSpace rest with
      | ']' :: rest => (.list [] true, some rest)
      | rest =>
        let (items, left) := readItems fuel rest
        (.list items left.isSome, left)
    | '\x7b' :: rest =>
      match skipSpace rest with
      | '\x7d' :: rest => (.object [] true, some rest)
      | '"' :: rest =>
        let (entries, left) := readEntries fuel rest
        (.object entries left.isSome, left)
      | _ => (.object [] false, none)
    | rest =>
      match readNumeral rest with
      | some (numeral, rest) => (.number numeral.value, some rest)
      | none => (.broken, none)

/-- The items of a list up to its end. -/
def readItems : Nat → List Char → List Document × Option (List Char)
  | 0, _ => ([], none)
  | fuel + 1, input =>
    match readValue fuel input with
    | (item, none) => ([item], none)
    | (item, some rest) =>
      match skipSpace rest with
      | ']' :: rest => ([item], some rest)
      | ',' :: rest =>
        let (items, left) := readItems fuel rest
        (item :: items, left)
      | _ => ([item], none)

/-- The entries of an object up to its end, from behind the quote of a key. -/
def readEntries : Nat → List Char → List (Option String × Document) × Option (List Char)
  | 0, _ => ([], none)
  | fuel + 1, input =>
    match readText input with
    | some (key, rest) =>
      match skipSpace rest with
      | ':' :: rest =>
        match readValue fuel rest with
        | (value, none) => ([(key, value)], none)
        | (value, some rest) =>
          match skipSpace rest with
          | '\x7d' :: rest => ([(key, value)], some rest)
          | ',' :: rest =>
            match skipSpace rest with
            | '"' :: rest =>
              let (entries, left) := readEntries fuel rest
              ((key, value) :: entries, left)
            | _ => ([(key, value)], none)
          | _ => ([(key, value)], none)
      | _ => ([(key, .broken)], none)
    | none => ([], none)

end

/-- The value that a text begins with, and the text behind it unless the value breaks off. -/
def read (input : List Char) : Document × Option (List Char) :=
  readValue (2 * input.length + 2) input

end Document

end StagePipeline.Json
