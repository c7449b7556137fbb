import StagePipeline.Text.Bytes
import StagePipeline.Toml.Table
import StagePipeline.Toml.Text

/-!
# TOML documents

A document is a sequence of lines, each with an entry, a header or nothing, and
perhaps a comment.  The entries before the first header belong to the root
table.  Lists and tables in braces may go over several lines and stand in each
other up to a fixed depth.

A position in the document is known by the input from there on, and its offset
by how many bytes of the whole document come before that.
-/

namespace StagePipeline.Toml

/-- How deep lists and tables in braces may stand in each other, and how many keys a key with dots
may have. -/
def depthLimit : Nat :=
  80

/-- The input from its first character that is not a blank. -/
def skipSpace (input : List Char) : List Char :=
  input.dropWhile isSpace

/-- The input without the blanks, line ends and comments that it begins with. -/
def skipLines (inComment : Bool) : List Char → List Char
  | [] => []
  | '\n' :: rest => skipLines false rest
  | '\r' :: '\n' :: rest => skipLines false rest
  | character :: rest =>
    if inComment then
      if isLineCharacter character then skipLines true rest else character :: rest
    else if character = '#' then skipLines true rest
    else if isSpace character then skipLines false rest
    else character :: rest

/-- What follows the end of a line, before which there may be blanks and a comment. -/
def endLine? (input : List Char) : Option (List Char) :=
  let input := match skipSpace input with
    | '#' :: rest => rest.dropWhile isLineCharacter
    | rest => rest
  match input with
  | [] => some []
  | '\n' :: rest => some rest
  | '\r' :: '\n' :: rest => some rest
  | _ => none

/-- The span between two positions in a document of some size. -/
def spanBetween (size : Nat) (before after : List Char) : Span :=
  let start := size - Text.width before
  Span.ofLength start (Text.width before - Text.width after)

/-- A character of a key without quotes. -/
def isKeyCharacter (character : Char) : Bool :=
  Text.isDigit character || ('a' ≤ character && character ≤ 'z') ||
    ('A' ≤ character && character ≤ 'Z') || character == '-' || character == '_'

/-- The key that an input begins with. -/
def readKey (size : Nat) (input : List Char) : Option (Key × List Char) :=
  match readQuoted input with
  | some (name, rest) => some (⟨name, spanBetween size input rest⟩, rest)
  | none =>
    let name := input.takeWhile isKeyCharacter
    let rest := input.dropWhile isKeyCharacter
    if name.isEmpty then none
    else some (⟨String.ofList name, spanBetween size input rest⟩, rest)

/-- At most `fuel` keys with dots between them, the last one apart, and what follows the blanks
behind it. -/
def readPath (size : Nat) : Nat → List Char → Option (List Key × Key × List Char)
  | 0, _ => none
  | fuel + 1, input => do
    let (key, rest) ← readKey size input
    match skipSpace rest with
    | '.' :: rest =>
      let (path, last, rest) ← readPath size fuel (skipSpace rest)
      return (key :: path, last, rest)
    | rest => return ([], key, rest)

mutual

/-- The value that an input begins with, with at most `depth` levels in it. -/
def readValue (size depth : Nat) : Nat → List Char → Option (Value × List Char)
  | 0, _ => none
  | fuel + 1, input =>
    match input with
    | '[' :: rest => do
      if depth = 0 then none
      let (items, left) ← readItems size (depth - 1) fuel (skipLines false rest)
      return (.list items false (spanBetween size input left), left)
    | '\x7b' :: rest => do
      if depth = 0 then none
      let (entries, left) ← readEntries size (depth - 1) fuel (skipLines false rest)
      let entries ← addEntries .braces [] entries
      return (.table entries .braces (spanBetween size input left), left)
    | '"' :: _ | '\x27' :: _ => do
      let (text, left) ← readText input
      return (.scalar (.text text) (spanBetween size input left), left)
    | input => do
      let (word, left) := Scalar.splitWord input
      let scalar ← Scalar.ofWord? word
      return (.scalar scalar (spanBetween size input left), left)

/-- The items of a list up to its end. -/
def readItems (size depth : Nat) : Nat → List Char → Option (List Value × List Char)
  | 0, _ => none
  | fuel + 1, input =>
    match input with
    | ']' :: rest => some ([], rest)
    | input => do
      let (item, rest) ← readValue size depth fuel input
      match skipLines false rest with
      | ']' :: rest => return ([item], rest)
      | ',' :: rest =>
        let (items, left) ← readItems size depth fuel (skipLines false rest)
        return (item :: items, left)
      | _ => none

/-- The entries of a table in braces up to its end. -/
def readEntries (size depth : Nat) : Nat → List Char → Option (List Entry × List Char)
  | 0, _ => none
  | fuel + 1, input =>
    match input with
    | '\x7d' :: rest => some ([], rest)
    | input => do
      let (entry, rest) ← readEntry size depth (skipLines false) fuel input
      match skipLines false rest with
      | '\x7d' :: rest => return ([entry], rest)
      | ',' :: rest =>
        let (entries, left) ← readEntries size depth fuel (skipLines false rest)
        return (entry :: entries, left)
      | _ => none

/-- A key and its value; `skip` passes over what may stand around the sign between them. -/
def readEntry (size depth : Nat) (skip : List Char → List Char) :
    Nat → List Char → Option (Entry × List Char)
  | 0, _ => none
  | fuel + 1, input => do
    let (path, key, rest) ← readPath size depthLimit input
    match skip rest with
    | '=' :: rest =>
      let (value, left) ← readValue size depth fuel (skip rest)
      return (⟨path, key, value⟩, left)
    | _ => none

end

/-- What stands on a line, apart from comments. -/
inductive Line where
  | blank
  | entry (entry : Entry)
  | header (header : Header)

/-- How much fuel is enough for a value in an input. -/
def fuelFor (input : List Char) : Nat :=
  4 * input.length + 4

/-- The line that an input begins with, and what follows its end. -/
def readLine (size : Nat) (input : List Char) : Option (Line × List Char) :=
  let start := skipSpace input
  match start with
  | [] | '#' :: _ | '\n' :: _ | '\r' :: _ => (endLine? start).map ((.blank, ·))
  | '[' :: '[' :: rest => do
    let (path, key, rest) ← readPath size depthLimit (skipSpace rest)
    match rest with
    | ']' :: ']' :: rest =>
      let left ← endLine? rest
      return (.header ⟨path, key, true, spanBetween size start rest⟩, left)
    | _ => none
  | '[' :: rest => do
    let (path, key, rest) ← readPath size depthLimit (skipSpace rest)
    match rest with
    | ']' :: rest =>
      let left ← endLine? rest
      return (.header ⟨path, key, false, spanBetween size start rest⟩, left)
    | _ => none
  | start => do
    let (entry, rest) ← readEntry size depthLimit skipSpace (fuelFor start) start
    let left ← endLine? rest
    return (.entry entry, left)

/-- The lines of an input, of which at most `fuel` are read. -/
def readLines (size : Nat) : Nat → List Char → Option (List Line)
  | _, [] => some []
  | 0, _ => none
  | fuel + 1, input => do
    let (line, rest) ← readLine size input
    let lines ← readLines size fuel rest
    return line :: lines

/-- The entries before the first header of some lines, and the sections that follow. -/
def sections : List Line → List Entry × List Section
  | [] => ([], [])
  | .blank :: rest => sections rest
  | .entry entry :: rest =>
    let (entries, parts) := sections rest
    (entry :: entries, parts)
  | .header header :: rest =>
    let (entries, parts) := sections rest
    ([], ⟨header, entries⟩ :: parts)

/-- The mark of the byte order that a document may begin with. -/
def byteOrderMark : Char :=
  '\ufeff'

/-- The root table of a document, unless the document is malformed. -/
def readDocument (document : String) : Option Entries := do
  let input := match document.toList with
    | first :: rest => if first = byteOrderMark then rest else first :: rest
    | [] => []
  let lines ← readLines (Text.width document.toList) (input.length + 1) input
  let (entries, parts) := sections lines
  let root ← addEntries .header [] entries
  parts.foldlM addSection root

end StagePipeline.Toml
