import StagePipeline.Json.Document
import StagePipeline.Settings.Fields

/-!
# Settings from JSON texts

A group of settings is an object with some of its fields in any order, or a list
of its fields in their own order; what is left out keeps its value.  A name is a
text, or an object whose only key is the name and whose value is `null`.

A document is gone through in text order and the first fault counts: a field
that is unknown or repeated at its key, and a place where the text is malformed
when that place is reached.
-/

namespace StagePipeline

/-- Why a JSON text holds no settings. -/
inductive JsonFault where
  /-- The text is malformed, or has more parts than the settings. -/
  | malformed
  | data (problem : DataProblem)
  deriving DecidableEq, Repr

namespace Json.Document

/-- What a document is, unless it is malformed. -/
def found? : Document → Option Found
  | .null => some .null
  | .boolean value => some (.boolean value)
  | .number (.integer value) => some (.integer value)
  | .number (.fraction value) => some (.fraction (NumberLayout.compact.write value))
  | .number .outOfRange => none
  | .text value => value.map .text
  | .list _ _ => some .list
  | .object _ _ => some .table
  | .broken => none

/-- A document taken as what it is. -/
def take {α : Type} (document : Document) (reader : Found → Except DataProblem α) :
    Except JsonFault α :=
  match document.found? with
  | none => .error .malformed
  | some found => (reader found).mapError .data

/-- Complain that a document is not what was expected. -/
def refuse {α : Type} (document : Document) (expected : String) : Except JsonFault α :=
  document.take fun found => .error (.wrongType found expected)

/-- Nothing, as the value of a name that stands as a key. -/
def takeUnit : Document → Except JsonFault Unit
  | .null => .ok ()
  | document => document.refuse "unit"

/-- One of some names. -/
def takeName (known : List String) : Document → Except JsonFault String
  | .text (some name) => (knownName known name).mapError .data
  | .object ((some key, value) :: rest) closed => do
    let name ← (knownName known key).mapError .data
    value.takeUnit
    if rest.isEmpty && closed then .ok name else .error .malformed
  | _ => .error .malformed

/-- How JSON documents hold the values of settings. -/
def scalars : ScalarReader Document JsonFault where
  word expected document := document.take (·.word expected)
  word? expected document :=
    match document with
    | .null => .ok none
    | document => (document.take (·.word expected)).map some
  truth document := document.take (·.truth)
  name := takeName

section

variable {σ : Type}

/-- The values of some entries in text order; `seen` are the fields read before. -/
def takeEntries (fields : List (Field Document JsonFault σ)) (strict : Bool)
    (seen : List String) : List (Option String × Document) → σ → Except JsonFault σ
  | [], group => .ok group
  | (none, _) :: _, _ => .error .malformed
  | (some key, value) :: rest, group =>
    match fields.find? (·.name == key) with
    | none =>
      if strict then .error (.data (.unknownField key (fields.map (·.name))))
      else takeEntries fields strict seen rest group
    | some field =>
      if key ∈ seen then .error (.data (.duplicateField key))
      else
        match field.read value group with
        | .error fault => .error fault
        | .ok group => takeEntries fields strict (key :: seen) rest group

/-- The values of some items for the fields in order. -/
def takeItems : List (Field Document JsonFault σ) → List Document → σ → Except JsonFault σ
  | field :: fields, item :: items, group =>
    match field.read item group with
    | .error fault => .error fault
    | .ok group => takeItems fields items group
  | _, [], group => .ok group
  | [], _ :: _, _ => .error .malformed

/-- A group of settings, in which unknown fields are refused if it is `strict`. -/
def takeGroup (expected : String) (fields : List (Field Document JsonFault σ))
    (strict : Bool) (initial : σ) : Document → Except JsonFault σ
  | .object entries closed => do
    let group ← takeEntries fields strict [] entries initial
    if closed then .ok group else .error .malformed
  | .list items closed => do
    let group ← takeItems fields items initial
    if closed then .ok group else .error .malformed
  | document => document.refuse expected

end

/-- The options of the parse stage. -/
def takeParseOptions : Document → Except JsonFault ParseOptions :=
  takeGroup "struct ParseOptions" (ParseOptions.fields scalars) true {}

/-- The options of the check stage. -/
def takeCheckOptions : Document → Except JsonFault CheckOptions :=
  takeGroup "struct CheckOptions" (CheckOptions.fields scalars) true {}

/-- The fields of the settings of all stages. -/
def settingsFields : List (Field Document JsonFault StageSettings) :=
  [⟨"parse", fun document settings => document.takeParseOptions.map
      fun options => { settings with parse := options }⟩,
   ⟨"check", fun document settings => document.takeCheckOptions.map
      fun options => { settings with check := options }⟩]

/-- The settings of all stages, which may hold fields for others too. -/
def takeSettings : Document → Except JsonFault StageSettings :=
  takeGroup "struct StageSettings" settingsFields false {}

/-- A stage kind. -/
def takeStageKind (document : Document) : Except JsonFault StageKind :=
  (document.takeName StageKind.names).map StageKind.ofName

/-- A whole text taken as one document, with nothing but spaces behind it. -/
def takeText {α : Type} (reader : Document → Except JsonFault α) (text : String) :
    Except JsonFault α := do
  let (document, rest) := read text.toList
  let value ← reader document
  match rest with
  | some rest => if (skipSpace rest).isEmpty then .ok value else .error .malformed
  | none => .error .malformed

end Json.Document

namespace ParseOptions

/-- The options of the parse stage in a JSON text. -/
def ofJson : String → Except JsonFault ParseOptions :=
  Json.Document.takeText Json.Document.takeParseOptions

end ParseOptions

namespace CheckOptions

/-- The options of the check stage in a JSON text. -/
def ofJson : String → Except JsonFault CheckOptions :=
  Json.Document.takeText Json.Document.takeCheckOptions

end CheckOptions

namespace StageSettings

/-- The settings of all stages in a JSON text. -/
def ofJson : String → Except JsonFault StageSettings :=
  Json.Document.takeText Json.Document.takeSettings

end StageSettings

namespace StageKind

/-- A stage kind in a JSON text. -/
def ofJson : String → Except JsonFault StageKind :=
  Json.Document.takeText Json.Document.takeStageKind

end StageKind

end StagePipeline
