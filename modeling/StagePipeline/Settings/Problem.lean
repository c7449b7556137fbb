import StagePipeline.Text.Quoted

/-!
# Documents that do not fit the settings

What can be wrong with the data of a document that is well formed as such, and
the words for it.  A scalar that was found is taken as a word or a truth value
here, so documents of every format complain about it in the same words.
-/

namespace StagePipeline

/-- What was found where a setting was expected. -/
inductive Found where
  | null
  | boolean (value : Bool)
  | integer (value : Int)
  /-- A number with a point or an exponent, in its shortest text. -/
  | fraction (digits : String)
  | text (value : String)
  | list
  | table
  deriving DecidableEq, Repr

namespace Found

/-- The words for what was found. -/
def describe : Found → String
  | .null => "null"
  | .boolean value => s!"boolean `{value}`"
  | .integer value => s!"integer `{value}`"
  | .fraction digits => s!"floating point `{digits}`"
  | .text value => s!"string {Text.quoted value}"
  | .list => "sequence"
  | .table => "map"

end Found

/-- What is wrong with the data of a document. -/
inductive DataProblem where
  | unknownField (name : String) (known : List String)
  | unknownVariant (name : String) (known : List String)
  | duplicateField (name : String)
  | wrongType (found : Found) (expected : String)
  | wrongValue (found : Found) (expected : String)
  | wrongLength (length : Nat) (expected : String)
  /-- Neither a text nor a table where one of some names was expected. -/
  | notAName
  | noEntry
  | severalEntries
  | filledList
  | filledTable
  /-- A scalar of some kind where an empty table was expected. -/
  | notATable (kind : String)
  deriving DecidableEq, Repr

namespace DataProblem

/-- The names that would have been right. -/
def oneOf : List String → String
  | [] => "nothing"
  | [only] => s!"`{only}`"
  | [first, second] => s!"`{first}` or `{second}`"
  | names => "one of " ++ String.intercalate ", " (names.map fun name => s!"`{name}`")

/-- The problem in words. -/
def message : DataProblem → String
  | .unknownField name known => s!"unknown field `{name}`, expected {oneOf known}"
  | .unknownVariant name known => s!"unknown variant `{name}`, expected {oneOf known}"
  | .duplicateField name => s!"duplicate field `{name}`"
  | .wrongType found expected => s!"invalid type: {found.describe}, expected {expected}"
  | .wrongValue found expected => s!"invalid value: {found.describe}, expected {expected}"
  | .wrongLength length expected => s!"invalid length {length}, expected {expected}"
  | .notAName => "wanted string or table"
  | .noEntry => "wanted exactly 1 element, found 0 elements"
  | .severalEntries => "wanted exactly 1 element, more than 1 element"
  | .filledList => "expected empty array"
  | .filledTable => "expected empty table"
  | .notATable kind => s!"expected table, found {kind}"

end DataProblem

namespace Found

/-- A natural number of 64 bits. -/
def word (expected : String) : Found → Except DataProblem UInt64
  | .integer value =>
    if 0 ≤ value ∧ value < Int.pow 2 64 then .ok (UInt64.ofNat value.toNat)
    else .error (.wrongValue (.integer value) expected)
  | found => .error (.wrongType found expected)

/-- A truth value. -/
def truth : Found → Except DataProblem Bool
  | .boolean value => .ok value
  | found => .error (.wrongType found "a boolean")

end Found

/-- One of some names. -/
def knownName (known : List String) (name : String) : Except DataProblem String :=
  if name ∈ known then .ok name else .error (.unknownVariant name known)

theorem word_toNat (expected : String) (value : UInt64) :
    (Found.integer value.toNat).word expected = .ok value := by
  have small := value.toNat_lt
  have limit : Int.pow 2 64 = 18446744073709551616 := rfl
  simp only [Found.word]
  rw [if_pos ⟨by omega, by omega⟩]
  simp

end StagePipeline
