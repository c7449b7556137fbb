import StagePipeline.Json.Value
import StagePipeline.Settings

/-!
# Settings as JSON

Every option is written, also when it has the value that it would have anyway;
a time limit that is not set is `null`.
-/

namespace StagePipeline.Json

/-- The options of the parse stage as an object. -/
def ofParseOptions (options : ParseOptions) : Json :=
  .object [("mode", .text options.mode.name), ("workers", .number options.workers.toNat),
    ("on_error", .text options.onError.name), ("recover", .bool options.recover),
    ("timeout_ms", ofOption (fun limit => .number limit.toNat) options.timeoutMilliseconds)]

/-- The options of the check stage as an object. -/
def ofCheckOptions (options : CheckOptions) : Json :=
  .object [("max_depth", .number options.maxDepth.toNat)]

/-- The settings of all stages as an object. -/
def ofSettings (settings : StageSettings) : Json :=
  .object [("parse", ofParseOptions settings.parse), ("check", ofCheckOptions settings.check)]

/-- A stage kind as its name. -/
def ofStageKind (kind : StageKind) : Json :=
  .text kind.name

end StagePipeline.Json
