import StagePipeline.Config

/-!
# Outlines of configurations

A decoder takes the outline of a configuration out of a text: the options of the
stages, and the list of stages with the places at which it and its entries stand,
or no list if none is given.  Only then is the list looked at.  It must not be
empty, and no stage may be in it twice; without a list every stage is run.

How the texts are to be written is for the decoder alone to say.
-/

namespace StagePipeline

/-- A value with the place at which it stands in a text. -/
structure Spanned (α : Type) where
  value : α
  span : Span
  deriving DecidableEq, Repr

namespace Config

/-- What a text says about the pipeline. -/
structure PipelineOutline where
  stages : Option (Spanned (List (Spanned StageKind))) := none
  deriving DecidableEq, Repr

/-- What a text says, before the list of stages is looked at. -/
structure Outline where
  pipeline : Option PipelineOutline := none
  parse : ParseOptions := {}
  check : CheckOptions := {}
  deriving DecidableEq, Repr

namespace Outline

/-- The list of stages, if one is given. -/
def stages? (outline : Outline) : Option (Spanned (List (Spanned StageKind))) :=
  outline.pipeline.bind (·.stages)

/-- The options of every stage. -/
def settings (outline : Outline) : StageSettings where
  parse := outline.parse
  check := outline.check

end Outline

/-- A way to take the outline of a configuration out of a text. -/
abbrev Decoder :=
  String → Except DecodeError Outline

/-- The first stage that is the same as one before it, with its span; `seen` came before. -/
def firstRepeated (seen : List StageKind) : List (Spanned StageKind) → Option (Spanned StageKind)
  | [] => none
  | stage :: rest =>
    if stage.value ∈ seen then some stage else firstRepeated (seen ++ [stage.value]) rest

/-- The stages of a list, of which there must be one and no two the same. -/
def checkStages (list : Spanned (List (Spanned StageKind))) :
    Except ConfigError (List StageKind) :=
  if list.value.isEmpty then .error (.noStage list.span)
  else
    match firstRepeated [] list.value with
    | some stage => .error (.repeatedStage stage.value stage.span)
    | none => .ok (list.value.map (·.value))

/-- The configuration that an outline stands for. -/
def ofOutline (outline : Outline) : Except ConfigError Config :=
  match outline.stages? with
  | none => .ok { settings := outline.settings }
  | some list => (checkStages list).map fun stages => ⟨stages, outline.settings⟩

/-- The configuration in a text that is decoded in some way. -/
def ofText (decode : Decoder) (text : String) : Except ConfigError Config :=
  match decode text with
  | .error error => .error (.undecoded error)
  | .ok outline => ofOutline outline

end Config

end StagePipeline
