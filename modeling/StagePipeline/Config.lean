import StagePipeline.FileTree
import StagePipeline.Settings.Encode
import StagePipeline.Settings.Problem
import StagePipeline.Span

/-!
# Configurations

A configuration names the stages of a pipeline in the order in which they run
and holds their settings.  This module says what a configuration is and how one
can be missing: its file cannot be read, the text cannot be decoded, or the list
of stages is empty or names a stage twice.
-/

namespace StagePipeline

/-- The stages to run, in order, and their settings. -/
structure Config where
  stages : List StageKind := StageKind.all
  settings : StageSettings := {}
  deriving DecidableEq, Repr, Inhabited

namespace Config

/-- The file that is looked up when no path is given. -/
def fileName : String :=
  "strata.toml"

end Config

/-- What a decoder says of a text that it cannot decode. -/
structure DecodeError where
  /-- What does not fit, if the text is a document. -/
  problem : Option DataProblem := none
  /-- Where that is, as far as the decoder tells it. -/
  span : Option Span := none
  deriving DecidableEq, Repr

/-- Why there is no configuration. -/
inductive ConfigError where
  | unreadable (path : String) (error : FileError)
  | undecoded (error : DecodeError)
  /-- No stage in a list of stages. -/
  | noStage (span : Span)
  | repeatedStage (kind : StageKind) (span : Span)
  deriving DecidableEq, Repr

namespace ConfigError

/-- The error in words. -/
def message : ConfigError → String
  | .unreadable path _ => s!"failed to read '{path}'"
  | .undecoded _ => "failed to parse config file"
  | .noStage _ => "the pipeline must have at least one stage"
  | .repeatedStage kind _ => s!"stage '{kind.name}' is listed more than once"

/-- The name by which the error can be looked up. -/
def code? : ConfigError → Option String
  | .unreadable _ _ => none
  | .undecoded _ => some "strata::config::parse_error"
  | .noStage _ | .repeatedStage _ _ => some "strata::config::validation_error"

/-- What to do about the error. -/
def help? : ConfigError → Option String
  | .noStage _ | .repeatedStage _ _ =>
    some ("available stages are: " ++ String.intercalate ", " (StageKind.all.map (·.name)))
  | _ => none

/-- Where the error is, as far as that is known. -/
def span? : ConfigError → Option Span
  | .unreadable _ _ => none
  | .undecoded error => error.span
  | .noStage span | .repeatedStage _ span => some span

/-- Whether the file is missing. -/
def isMissing : ConfigError → Bool
  | .unreadable _ .notFound => true
  | _ => false

end ConfigError

namespace Json

/-- A configuration as an object. -/
def ofConfig (config : Config) : Json :=
  .object [("pipeline", .object [("stages", .list (config.stages.map ofStageKind))]),
    ("parse", ofParseOptions config.settings.parse),
    ("check", ofCheckOptions config.settings.check)]

end Json

end StagePipeline
