import StagePipeline.Time

/-!
# Stage settings

The options of the two built-in stages, with the values they have when nothing
is said, and the closed set of stages that a pipeline can be assembled from.
-/

namespace StagePipeline

/-- How the parse stage walks a batch. -/
inductive ExecutionMode where
  /-- One unit after the other. -/
  | sequential
  /-- Units spread over workers. -/
  | parallel
  deriving DecidableEq, Repr, Inhabited

namespace ExecutionMode

/-- The mode as it is written. -/
def name : ExecutionMode → String
  | .sequential => "sequential"
  | .parallel => "parallel"

end ExecutionMode

/-- What to do when a unit fails to parse. -/
inductive FailurePolicy where
  /-- Stop at the first failure. -/
  | failFast
  /-- Report every failure, parse the rest and fail in the end. -/
  | collect
  deriving DecidableEq, Repr, Inhabited

namespace FailurePolicy

/-- The policy as it is written. -/
def name : FailurePolicy → String
  | .failFast => "fail-fast"
  | .collect => "collect"

end FailurePolicy

/-- The options of the parse stage. -/
structure ParseOptions where
  mode : ExecutionMode := .sequential
  /-- How many workers a parallel walk has; none means one for each processor. -/
  workers : UInt64 := 0
  onError : FailurePolicy := .failFast
  /-- Whether malformed statements are passed over. -/
  recover : Bool := false
  /-- How long the whole stage may take. -/
  timeoutMilliseconds : Option UInt64 := none
  deriving DecidableEq, Repr, Inhabited

namespace ParseOptions

/-- The options with a parallel walk over some workers. -/
def parallel (options : ParseOptions) (workers : UInt64) : ParseOptions :=
  { options with mode := .parallel, workers := workers }

/-- The options with another policy for failures. -/
def withPolicy (options : ParseOptions) (policy : FailurePolicy) : ParseOptions :=
  { options with onError := policy }

/-- The options with a time limit, in whole milliseconds and at most what 64 bits hold. -/
def withTimeout (options : ParseOptions) (timeout : Duration) : ParseOptions :=
  let milliseconds := min (timeout.nanoseconds / 1000000) (Nat.pow 2 64 - 1)
  { options with timeoutMilliseconds := some (UInt64.ofNat milliseconds) }

end ParseOptions

/-- The options of the check stage. -/
structure CheckOptions where
  /-- The deepest nesting without a warning. -/
  maxDepth : UInt64 := 32
  deriving DecidableEq, Repr, Inhabited

/-- The options of every built-in stage. -/
structure StageSettings where
  parse : ParseOptions := {}
  check : CheckOptions := {}
  deriving DecidableEq, Repr, Inhabited

/-- The stages that a pipeline can be assembled from. -/
inductive StageKind where
  | parse
  | check
  deriving DecidableEq, Repr, Inhabited

namespace StageKind

/-- All kinds, in the order in which they run when nothing is said. -/
def all : List StageKind :=
  [.parse, .check]

/-- The kind as it is written. -/
def name : StageKind → String
  | .parse => "parse"
  | .check => "check"

/-- The kind with a name. -/
def ofName? (name : String) : Option StageKind :=
  all.find? fun kind => kind.name = name

/-- What is wrong with a name that no kind has. -/
def unknownMessage (name : String) : String :=
  s!"unknown stage '{name}' (expected one of: parse, check)"

theorem ofName?_name (kind : StageKind) : ofName? kind.name = some kind := by
  cases kind <;> decide

end StageKind

end StagePipeline
