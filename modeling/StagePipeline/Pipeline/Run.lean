import StagePipeline.FileTree
import StagePipeline.Stage.Phase

/-!
# Running a pipeline

A pipeline has stages and plugins that act on one state.  An action gives the
state it leaves and, if it failed, why; actions in a row end at the first that
fails.  A run first makes sure that the ids of the stages strictly increase.
Then it goes through the stages: for each one the hooks of all plugins before
it, the stage itself, and the hooks of all plugins after it.
-/

namespace StagePipeline

/-- Why a run ended before its last stage. -/
inductive RunError where
  | stage (error : StageError)
  | outOfOrder (phase previous : Phase)
  | files (error : FileError)
  | aborted (message : String)
  deriving DecidableEq, Repr

namespace RunError

/-- The failure in words. -/
def message : RunError → String
  | .stage error => error.message
  | .outOfOrder phase previous =>
    s!"stage '{phase.name}' (#{phase.id}) must come after '{previous.name}' (#{previous.id})"
  | .files _ => "a file could not be written"
  | .aborted message => message

end RunError

/-- A change of a state that may fail, and leaves a state in any case. -/
abbrev Action (σ : Type) :=
  σ → Option RunError × σ

namespace Action

/-- The second action after the first, if that did not fail. -/
def andThen {σ : Type} (first second : Action σ) : Action σ := fun state =>
  match first state with
  | (some error, left) => (some error, left)
  | (none, next) => second next

/-- Some actions in order, up to the first that fails. -/
def inOrder {σ : Type} : List (Action σ) → Action σ
  | [] => fun state => (none, state)
  | first :: rest => first.andThen (inOrder rest)

end Action

/-- A named, numbered step of a pipeline. -/
structure Stage (σ : Type) where
  phase : Phase
  description : String
  apply : Action σ

/-- Hooks that run before and after every stage. -/
structure Plugin (σ : Type) where
  before : Phase → Action σ := fun _ state => (none, state)
  after : Phase → Action σ := fun _ state => (none, state)

/-- What there is to know about a stage without running it. -/
structure StageInfo where
  name : String
  id : UInt32
  description : String
  deriving DecidableEq, Repr

/-- Stages in the order in which they run, and the plugins that follow them. -/
structure Pipeline (σ : Type) where
  stages : List (Stage σ) := []
  plugins : List (Plugin σ) := []

namespace Pipeline

/-- The first phase whose id is not above that of the phase before it, with that phase. -/
def firstOutOfOrder : List Phase → Option (Phase × Phase)
  | previous :: phase :: rest =>
    if phase.id ≤ previous.id then some (phase, previous) else firstOutOfOrder (phase :: rest)
  | _ => none

/-- What is wrong with the order of the stages. -/
def orderError? {σ : Type} (pipeline : Pipeline σ) : Option RunError :=
  (firstOutOfOrder (pipeline.stages.map (·.phase))).map fun (phase, previous) =>
    .outOfOrder phase previous

/-- What there is to know about the stages, in order. -/
def info {σ : Type} (pipeline : Pipeline σ) : List StageInfo :=
  pipeline.stages.map fun stage => ⟨stage.phase.name, stage.phase.id, stage.description⟩

/-- One stage with the hooks around it. -/
def runStage {σ : Type} (pipeline : Pipeline σ) (stage : Stage σ) : Action σ :=
  (Action.inOrder (pipeline.plugins.map (·.before stage.phase))).andThen
    (stage.apply.andThen (Action.inOrder (pipeline.plugins.map (·.after stage.phase))))

/-- The whole pipeline. -/
def run {σ : Type} (pipeline : Pipeline σ) : Action σ := fun state =>
  match pipeline.orderError? with
  | some error => (some error, state)
  | none => Action.inOrder (pipeline.stages.map pipeline.runStage) state

end Pipeline

end StagePipeline
