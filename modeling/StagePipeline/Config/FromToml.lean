import StagePipeline.Config.Outline
import StagePipeline.Settings.Fields
import StagePipeline.Toml.Document

/-!
# Configurations from TOML documents

The root table has a table with the list of stages and one for the options of
each stage, and all of them may be left out.  The entries of a table are looked
at in the order of their keys, and the first fault counts, with the span of the
key that is unknown or of the value that does not fit.  A group of options may
also be a list of its fields in their own order.

`Toml.decode` is the decoder that the program uses.
-/

namespace StagePipeline

/-- Why a TOML document holds no settings. -/
inductive TomlFault where
  /-- A number without value stands where a value is looked at. -/
  | valueless
  | data (problem : DataProblem) (span : Span)
  deriving DecidableEq, Repr

namespace Toml

/-- The result of a check of what stands at some place. -/
def located {α : Type} (span : Span) (result : Except DataProblem α) : Except TomlFault α :=
  result.mapError (.data · span)

/-- Complain about what stands at some place. -/
def fault {α : Type} (span : Span) (problem : DataProblem) : Except TomlFault α :=
  .error (.data problem span)

namespace Scalar

/-- The word for the kind of a scalar. -/
def kind : Scalar → String
  | .text _ => "string"
  | .integer _ => "integer"
  | .fraction _ | .valueless => "float"
  | .boolean _ => "boolean"
  | .moment => "datetime"

/-- What a scalar is where a setting was expected, if it has a value; a date is made of parts. -/
def found? : Scalar → Option Found
  | .text value => some (.text value)
  | .integer value => some (.integer value)
  | .fraction value => some (.fraction (NumberLayout.plain.write value))
  | .valueless => none
  | .boolean value => some (.boolean value)
  | .moment => some .table

end Scalar

namespace Value

/-- What a value is where a setting was expected, unless it is a number without value. -/
def found? : Value → Option Found
  | .scalar inner _ => inner.found?
  | .list _ _ _ => some .list
  | .table _ _ _ => some .table

/-- A value taken as what it is. -/
def take {α : Type} (value : Value) (reader : Found → Except DataProblem α) :
    Except TomlFault α :=
  match value.found? with
  | none => .error .valueless
  | some found => located value.span (reader found)

/-- Complain that a value is not what was expected. -/
def refuse {α : Type} (value : Value) (expected : String) : Except TomlFault α :=
  value.take fun found => .error (.wrongType found expected)

/-- Nothing, as the value of a name that stands as a key. -/
def takeEmpty : Value → Except TomlFault Unit
  | .list [] _ _ | .table [] _ _ => .ok ()
  | .list _ _ span => fault span .filledList
  | .table _ _ span => fault span .filledTable
  | .scalar inner span => fault span (.notATable inner.kind)

/-- One of some names. -/
def takeName (known : List String) : Value → Except TomlFault String
  | .scalar (.text name) span => located span (knownName known name)
  | .table [] _ span => fault span .noEntry
  | .table [(key, value)] _ _ => do
    let name ← located key.span (knownName known key.name)
    value.takeEmpty
    return name
  | .table _ _ span => fault span .severalEntries
  | .list _ _ span | .scalar _ span => fault span .notAName

/-- How TOML values hold the values of settings. -/
def scalars : ScalarReader Value TomlFault where
  word expected value := value.take (·.word expected)
  word? expected value := (value.take (·.word expected)).map some
  truth value := value.take (·.truth)
  name := takeName

/-- The items of a list, each read in the same way. -/
def takeList {α : Type} (reader : Value → Except TomlFault α) :
    Value → Except TomlFault (List α)
  | .list items _ _ => items.mapM reader
  | value => value.refuse "a sequence"

/-- The key under which the parts of a date are kept. -/
def momentKey : String :=
  "$__toml_private_datetime"

section

variable {σ : Type}

/-- The values of some entries in order. -/
def takeEntries (fields : List (Field Value TomlFault σ)) :
    Entries → σ → Except TomlFault σ
  | [], group => .ok group
  | (key, value) :: rest, group =>
    match fields.find? (·.name == key.name) with
    | none => fault key.span (.unknownField key.name (fields.map (·.name)))
    | some field =>
      match field.read value group with
      | .error found => .error found
      | .ok group => takeEntries fields rest group

/-- The values of some items for the fields in order; items without a field are passed over. -/
def takeItems : List (Field Value TomlFault σ) → List Value → σ → Except TomlFault σ
  | field :: fields, item :: items, group =>
    match field.read item group with
    | .error found => .error found
    | .ok group => takeItems fields items group
  | _, _, group => .ok group

/-- The entries of a table in the order of their keys. -/
def sortedEntries (entries : Entries) : Entries :=
  entries.mergeSort fun left right => decide (left.1.name ≤ right.1.name)

/-- A group of settings. -/
def takeGroup (expected : String) (fields : List (Field Value TomlFault σ)) (initial : σ) :
    Value → Except TomlFault σ
  | .table entries _ _ => takeEntries fields (sortedEntries entries) initial
  | .list items _ _ => takeItems fields items initial
  | .scalar .moment span => fault span (.unknownField momentKey (fields.map (·.name)))
  | value => value.refuse expected

end

end Value

namespace Value

/-- A stage kind with its span. -/
def takeStage (value : Value) : Except TomlFault (Spanned StageKind) :=
  (value.takeName StageKind.names).map fun name => ⟨.ofName name, value.span⟩

/-- A list of stages with its span. -/
def takeStages (value : Value) : Except TomlFault (Spanned (List (Spanned StageKind))) :=
  (value.takeList takeStage).map fun stages => ⟨stages, value.span⟩

/-- The fields of the table about the pipeline. -/
def pipelineFields : List (Field Value TomlFault Config.PipelineOutline) :=
  [⟨"stages", fun value _ => value.takeStages.map fun stages => { stages := some stages }⟩]

/-- The table about the pipeline, which as a list must have an item. -/
def takePipeline : Value → Except TomlFault Config.PipelineOutline
  | .list [] _ span => fault span (.wrongLength 0 "struct RawPipeline with 1 element")
  | value => value.takeGroup "struct RawPipeline" pipelineFields {}

/-- The options of the parse stage. -/
def takeParseOptions : Value → Except TomlFault ParseOptions :=
  takeGroup "struct ParseOptions" (ParseOptions.fields scalars) {}

/-- The options of the check stage. -/
def takeCheckOptions : Value → Except TomlFault CheckOptions :=
  takeGroup "struct CheckOptions" (CheckOptions.fields scalars) {}

/-- The fields of the root table. -/
def rootFields : List (Field Value TomlFault Config.Outline) :=
  [⟨"pipeline", fun value outline => value.takePipeline.map
      fun pipeline => { outline with pipeline := some pipeline }⟩,
   ⟨"parse", fun value outline => value.takeParseOptions.map
      fun options => { outline with parse := options }⟩,
   ⟨"check", fun value outline => value.takeCheckOptions.map
      fun options => { outline with check := options }⟩]

/-- What the root table says. -/
def takeRoot (root : Entries) : Except TomlFault Config.Outline :=
  takeEntries rootFields (sortedEntries root) {}

end Value

mutual

/-- Whether a number in a value does not fit: it has no value, or needs 64 bits without a sign. -/
def Value.isUnfit : Value → Bool
  | .scalar .valueless _ => true
  | .scalar (.integer value) _ => decide (Int.pow 2 63 ≤ value)
  | .scalar _ _ => false
  | .list items _ _ => anyUnfitItem items
  | .table entries _ _ => anyUnfitEntry entries

/-- Whether a number in some values does not fit. -/
def anyUnfitItem : List Value → Bool
  | [] => false
  | item :: rest => item.isUnfit || anyUnfitItem rest

/-- Whether a number in some entries does not fit. -/
def anyUnfitEntry : List (Key × Value) → Bool
  | [] => false
  | (_, value) :: rest => value.isUnfit || anyUnfitEntry rest

end

/-- The outline in a TOML document.  A number that does not fit does no harm where it is an option
that it fits after all, or where nothing looks at it; but when a document with such a number holds
no outline, its data are not what is wrong with it.  Nothing is told of the place at which a text
stops being a document. -/
def decode : Config.Decoder := fun document =>
  match readDocument document with
  | none => .error {}
  | some root =>
    match Value.takeRoot root with
    | .ok outline => .ok outline
    | .error .valueless => .error {}
    | .error (.data problem span) =>
      .error (if anyUnfitEntry root then {} else { problem := some problem, span := some span })

end Toml

/-- The configuration in a TOML document. -/
def Config.ofToml (document : String) : Except ConfigError Config :=
  ofText Toml.decode document

end StagePipeline
