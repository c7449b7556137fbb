import StagePipeline.Text.CharacterClass
import StagePipeline.Text.InvisibleRanges

/-!
# Quoted text

A text between double quotes, for messages.  Quotes and backslashes are escaped,
the common control characters have a letter, and every other character that
would not be seen is written by its code point in lower-case hexadecimal.
-/

namespace StagePipeline.Text

/-- A character that has no image of its own. -/
def isInvisible (character : Char) : Bool :=
  inRanges character.toNat invisibleRanges

/-- A character as it is written between quotes. -/
def quotedCharacter (character : Char) : List Char :=
  if character = '\x00' then ['\\', '0']
  else if character = '\t' then ['\\', 't']
  else if character = '\n' then ['\\', 'n']
  else if character = '\r' then ['\\', 'r']
  else if character = '"' then ['\\', '"']
  else if character = '\\' then ['\\', '\\']
  else if isInvisible character then
    ['\\', 'u', '\x7b'] ++ Nat.toDigits 16 character.toNat ++ ['\x7d']
  else [character]

/-- A text between quotes. -/
def quoted (text : String) : String :=
  String.ofList ('"' :: text.toList.flatMap quotedCharacter ++ ['"'])

end StagePipeline.Text
