import StagePipeline.Text.CharacterRanges

/-!
# Character classes

The classes that decide where a word, a number or a blank begins and ends.
Membership in a table is found by walking its increasing ranges and stopping at
the first one that does not end before the code point, so a character below the
first range of a table is settled at once.
-/

namespace StagePipeline.Text

/-- Whether `code` lies in one of the given increasing ranges. -/
def inRanges (code : Nat) : List (Nat × Nat) → Bool
  | [] => false
  | (first, last) :: rest => if last < code then inRanges code rest else first ≤ code

theorem inRanges_eq_false_of_lt {code first last : Nat} {rest : List (Nat × Nat)}
    (below : code < first) (ordered : first ≤ last) :
    inRanges code ((first, last) :: rest) = false := by
  simp only [inRanges]
  rw [if_neg (by omega)]
  simpa using below

/-- A character with the property `White_Space`. -/
def isBlank (character : Char) : Bool :=
  inRanges character.toNat whiteSpaceRanges

/-- A character with the derived property `Alphabetic`. -/
def isAlphabetic (character : Char) : Bool :=
  inRanges character.toNat alphabeticRanges

/-- A character of one of the number categories. -/
def isNumeric (character : Char) : Bool :=
  inRanges character.toNat numberRanges

/-- A character that a word may begin with. -/
def isWordStart (character : Char) : Bool :=
  isAlphabetic character || character == '_'

/-- A character that a word may go on with. -/
def isWordPart (character : Char) : Bool :=
  isAlphabetic character || isNumeric character || character == '_'

/-- One of the ten ASCII digits. -/
def isDigit (character : Char) : Bool :=
  '0' ≤ character && character ≤ '9'

theorem isWordPart_of_isWordStart {character : Char} (start : isWordStart character = true) :
    isWordPart character = true := by
  simp only [isWordStart, isWordPart, Bool.or_eq_true] at start ⊢
  rcases start with alphabetic | underscore
  · exact Or.inl (Or.inl alphabetic)
  · exact Or.inr underscore

end StagePipeline.Text
