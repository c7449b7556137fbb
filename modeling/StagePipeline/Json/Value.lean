/-!
# JSON values and their text

A JSON value whose objects keep the order of their entries.  `compact` writes a
value without any blank, `pretty` on several lines with two blanks for each
level; an empty list or object takes two characters in both.
-/

namespace StagePipeline

/-- A JSON value with integer numbers. -/
inductive Json where
  | null
  | bool (value : Bool)
  | number (value : Int)
  | text (value : String)
  | list (items : List Json)
  | object (entries : List (String × Json))
  deriving Repr

namespace Json

/-- The value of an option, `null` when there is none. -/
def ofOption {α : Type} (encode : α → Json) : Option α → Json
  | some value => encode value
  | none => .null

/-- The two hexadecimal digits of a code below 256. -/
def hexPair (code : Nat) : List Char :=
  [Nat.digitChar (code / 16), Nat.digitChar (code % 16)]

/-- A character as it is written inside quotes. -/
def escape (character : Char) : List Char :=
  if character = '"' then ['\\', '"']
  else if character = '\\' then ['\\', '\\']
  else if character = '\n' then ['\\', 'n']
  else if character = '\r' then ['\\', 'r']
  else if character = '\t' then ['\\', 't']
  else if character.toNat = 8 then ['\\', 'b']
  else if character.toNat = 12 then ['\\', 'f']
  else if character.toNat < 32 then ['\\', 'u', '0', '0'] ++ hexPair character.toNat
  else [character]

/-- The characters of a text in quotes. -/
def quoteCharacters (text : String) : List Char :=
  '"' :: text.toList.flatMap escape ++ ['"']

/-- A text in quotes. -/
def quote (text : String) : String :=
  String.ofList (quoteCharacters text)

/-- The digits of an integer. -/
def numberCharacters : Int → List Char
  | .ofNat value => Nat.toDigits 10 value
  | .negSucc value => '-' :: Nat.toDigits 10 (value + 1)

mutual

/-- The characters of a value without blanks. -/
def compactCharacters : Json → List Char
  | .null => ['n', 'u', 'l', 'l']
  | .bool true => ['t', 'r', 'u', 'e']
  | .bool false => ['f', 'a', 'l', 's', 'e']
  | .number value => numberCharacters value
  | .text value => quoteCharacters value
  | .list [] => ['[', ']']
  | .list (item :: rest) => '[' :: item.compactCharacters ++ compactItems rest
  | .object [] => ['\x7b', '\x7d']
  | .object ((key, value) :: rest) =>
    '\x7b' :: quoteCharacters key ++ ':' :: value.compactCharacters ++ compactEntries rest

/-- The characters of the items of a list after the first one, and its end. -/
def compactItems : List Json → List Char
  | [] => [']']
  | item :: rest => ',' :: item.compactCharacters ++ compactItems rest

/-- The characters of the entries of an object after the first one, and its end. -/
def compactEntries : List (String × Json) → List Char
  | [] => ['\x7d']
  | (key, value) :: rest =>
    ',' :: quoteCharacters key ++ ':' :: value.compactCharacters ++ compactEntries rest

end

/-- The text of a value without blanks. -/
def compact (json : Json) : String :=
  String.ofList json.compactCharacters

/-- A line feed and the blanks of a level. -/
def lineStart (level : Nat) : String :=
  String.ofList ('\n' :: List.replicate (2 * level) ' ')

/-- Some texts on a line each, one level deeper than the brackets around them. -/
def block (level : Nat) (opening closing : String) (lines : List String) : String :=
  match lines with
  | [] => opening ++ closing
  | lines =>
    opening ++ String.intercalate "," (lines.map (lineStart (level + 1) ++ ·)) ++
      lineStart level ++ closing

mutual

/-- The text of a value on several lines, of which the first stands at `level`. -/
def prettyAt (level : Nat) : Json → String
  | .null => "null"
  | .bool value => if value then "true" else "false"
  | .number value => toString value
  | .text value => quote value
  | .list items => block level "[" "]" (prettyItems (level + 1) items)
  | .object entries => block level "\x7b" "\x7d" (prettyEntries (level + 1) entries)

/-- The texts of some values at `level`. -/
def prettyItems (level : Nat) : List Json → List String
  | [] => []
  | item :: rest => item.prettyAt level :: prettyItems level rest

/-- The texts of some entries at `level`. -/
def prettyEntries (level : Nat) : List (String × Json) → List String
  | [] => []
  | (key, value) :: rest =>
    (quote key ++ ": " ++ value.prettyAt level) :: prettyEntries level rest

end

/-- The text of a value on several lines. -/
def pretty (json : Json) : String :=
  json.prettyAt 0

end Json

end StagePipeline
