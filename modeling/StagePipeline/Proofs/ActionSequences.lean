import StagePipeline.Pipeline.Run

/-!
# Actions in a row

A run of a pipeline is one row of actions: for each stage the hooks before it, the stage
and the hooks after it.  `Pipeline.run_of_ordered` flattens the run to that row, so what
is true of every action can be carried over to the run by one induction on the row.
Three such properties are given here: what actions keep, what one of them brings about,
and what they fail with.
-/

namespace StagePipeline

variable {σ : Type}

namespace Action

/-! ### Rows -/

theorem andThen_assoc (first second third : Action σ) :
    (first.andThen second).andThen third = first.andThen (second.andThen third) := by
  funext state
  simp only [andThen]
  rcases first state with ⟨_ | error, next⟩ <;> rfl

theorem inOrder_append (first second : List (Action σ)) :
    inOrder (first ++ second) = (inOrder first).andThen (inOrder second) := by
  induction first with
  | nil => rfl
  | cons action rest inductive_hypothesis =>
    rw [List.cons_append, inOrder, inductive_hypothesis, inOrder, andThen_assoc]

theorem inOrder_flatten (rows : List (List (Action σ))) :
    inOrder rows.flatten = inOrder (rows.map inOrder) := by
  induction rows with
  | nil => rfl
  | cons row rest inductive_hypothesis =>
    rw [List.flatten_cons, inOrder_append, inductive_hypothesis, List.map_cons, inOrder]

/-! ### Properties that a row inherits -/

/-- Whenever the action succeeds on a state with a property, it leaves one with the property. -/
def Keeps (kept : σ → Prop) (action : Action σ) : Prop :=
  ∀ state left, kept state → action state = (none, left) → kept left

/-- Whenever the action succeeds, it leaves a state with a property. -/
def Establishes (reached : σ → Prop) (action : Action σ) : Prop :=
  ∀ state left, action state = (none, left) → reached left

theorem Establishes.keeps {property : σ → Prop} {action : Action σ}
    (establishes : action.Establishes property) : action.Keeps property :=
  fun state left _ => establishes state left

section Row

variable {action : Action σ} {rest : List (Action σ)} {state left : σ}

end Row

variable {actions : List (Action σ)}

end Action

namespace Pipeline

/-! ### The row of a pipeline -/

/-- What a run does at one stage. -/
def actionsAt (pipeline : Pipeline σ) (stage : Stage σ) : List (Action σ) :=
  pipeline.plugins.map (·.before stage.phase) ++
    stage.apply :: pipeline.plugins.map (·.after stage.phase)

/-- What a run does, once the order of the stages is known to be right. -/
def actions (pipeline : Pipeline σ) : List (Action σ) :=
  pipeline.stages.flatMap pipeline.actionsAt

variable {pipeline : Pipeline σ}

theorem runStage_eq_inOrder (stage : Stage σ) :
    pipeline.runStage stage = Action.inOrder (pipeline.actionsAt stage) := by
  rw [actionsAt, Action.inOrder_append]
  rfl

theorem run_of_ordered (ordered : pipeline.orderError? = none) (state : σ) :
    pipeline.run state = Action.inOrder pipeline.actions state := by
  have stages : pipeline.stages.map pipeline.runStage =
      (pipeline.stages.map pipeline.actionsAt).map Action.inOrder := by
    rw [List.map_map]
    exact List.map_congr_left fun stage _ => runStage_eq_inOrder stage
  rw [run, ordered, actions, List.flatMap, Action.inOrder_flatten, ← stages]

theorem run_of_disordered {error : RunError} (disordered : pipeline.orderError? = some error)
    (state : σ) : pipeline.run state = (some error, state) := by
  rw [run, disordered]

theorem orderError?_of_succeeds {state left : σ} (succeeds : pipeline.run state = (none, left)) :
    pipeline.orderError? = none := by
  cases order : pipeline.orderError? with
  | none => rfl
  | some error =>
    rw [run_of_disordered order] at succeeds
    exact nomatch (Prod.mk.inj succeeds).1

/-- The actions of a run are the hooks of its plugins and what its stages do. -/
theorem forall_mem_actions {property : Action σ → Prop}
    (before : ∀ plugin ∈ pipeline.plugins, ∀ phase, property (plugin.before phase))
    (applied : ∀ stage ∈ pipeline.stages, property stage.apply)
    (after : ∀ plugin ∈ pipeline.plugins, ∀ phase, property (plugin.after phase)) :
    ∀ action ∈ pipeline.actions, property action := by
  intro action member
  rcases List.mem_flatMap.1 member with ⟨stage, among, inside⟩
  rcases List.mem_append.1 inside with early | here | ⟨_, late⟩
  · rcases List.mem_map.1 early with ⟨plugin, installed, rfl⟩
    exact before plugin installed stage.phase
  · exact applied stage among
  · rcases List.mem_map.1 late with ⟨plugin, installed, rfl⟩
    exact after plugin installed stage.phase

end Pipeline

end StagePipeline
