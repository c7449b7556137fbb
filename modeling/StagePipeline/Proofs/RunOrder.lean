import Mathlib.Data.List.Chain
import StagePipeline.Pipeline.Compilation
import StagePipeline.Proofs.ActionSequences

/-!
# The order in which a run does things

To see what a run does and in which order, every hook and every stage of a pipeline is
made to write down its own name and how it ended.  `Pipeline.traced` is the pipeline with
these notes, and its runs are runs like any other.  `Pipeline.plan` is all that there is
to do, in order.  The notes of a run always follow the plan up to its end or up to the
first failure, which is what `Follows` says.

The ids of the stages are looked at before anything else.  `firstOutOfOrder` compares
neighbours only; since the order of the ids is transitive, it finds nothing exactly when
they increase over the whole pipeline.
-/

namespace StagePipeline

variable {σ : Type}

/-! ### Notes on a run -/

/-- One thing that a run does; plugins are told apart by their positions. -/
inductive RunEvent where
  /-- The hook of a plugin before a stage. -/
  | before (plugin : Nat) (phase : Phase)
  /-- A stage itself. -/
  | apply (phase : Phase)
  /-- The hook of a plugin after a stage. -/
  | after (plugin : Nat) (phase : Phase)
  deriving DecidableEq, Repr

/-- A state, and what was done to it, each time with the failure if there was one. -/
structure Traced (σ : Type) where
  state : σ
  events : List (RunEvent × Option RunError) := []

/-- The stage that was applied without failure, if that is what the note is on. -/
def RunEvent.applied? : RunEvent × Option RunError → Option Phase
  | (.apply phase, none) => some phase
  | _ => none

/-- The stages that were applied without failure, in order. -/
def Traced.applied (traced : Traced σ) : List Phase :=
  traced.events.filterMap RunEvent.applied?

/-- The action that also writes down that it was done. -/
def Action.traced (event : RunEvent) (action : Action σ) : Action (Traced σ) := fun traced =>
  let (error?, left) := action traced.state
  (error?, { state := left, events := traced.events ++ [(event, error?)] })

/-- The stage that also writes down that it was applied. -/
def Stage.traced (stage : Stage σ) : Stage (Traced σ) where
  phase := stage.phase
  description := stage.description
  apply := stage.apply.traced (.apply stage.phase)

/-- The plugin that also writes down its position whenever it acts. -/
def Plugin.traced (position : Nat) (plugin : Plugin σ) : Plugin (Traced σ) where
  before phase := (plugin.before phase).traced (.before position phase)
  after phase := (plugin.after phase).traced (.after position phase)

namespace Pipeline

/-- The pipeline whose stages and plugins write down what they do. -/
def traced (pipeline : Pipeline σ) : Pipeline (Traced σ) where
  stages := pipeline.stages.map Stage.traced
  plugins := pipeline.plugins.mapIdx Plugin.traced

/-- All that there is to do at a stage. -/
def planAt (pipeline : Pipeline σ) (phase : Phase) : List RunEvent :=
  (List.range pipeline.plugins.length).map (.before · phase) ++
    .apply phase :: (List.range pipeline.plugins.length).map (.after · phase)

/-- All that there is to do, in order. -/
def plan (pipeline : Pipeline σ) : List RunEvent :=
  pipeline.stages.flatMap fun stage => pipeline.planAt stage.phase

end Pipeline

/--
The notes on a run that had some things to do: it did them all without failure, or it
did them up to the first that failed, and ended with the error of that one.
-/
inductive Follows : List RunEvent → Option RunError → List (RunEvent × Option RunError) → Prop
  | nil : Follows [] none []
  | done (event : RunEvent) {plan : List RunEvent} {error? : Option RunError}
    {events : List (RunEvent × Option RunError)} (later : Follows plan error? events) :
    Follows (event :: plan) error? ((event, none) :: events)
  | failed (event : RunEvent) (plan : List RunEvent) (error : RunError) :
    Follows (event :: plan) (some error) [(event, some error)]

namespace Follows

variable {plan : List RunEvent} {error? : Option RunError}
  {events : List (RunEvent × Option RunError)}

theorem isPrefix (follows : Follows plan error? events) : events.map (·.1) <+: plan := by
  induction follows with
  | nil => exact List.prefix_refl []
  | done event _ inductive_hypothesis => exact List.cons_prefix_cons.2 ⟨rfl, inductive_hypothesis⟩
  | failed event plan error => exact ⟨plan, rfl⟩

theorem eq_none_iff (follows : Follows plan error? events) :
    error? = none ↔ events = plan.map fun event => (event, none) := by
  induction follows with
  | nil => simp
  | done event _ inductive_hypothesis => simpa using inductive_hypothesis
  | failed event plan error => simp

/-- A run that failed did so in the last thing it did, and in nothing before that. -/
theorem exists_last {error : RunError} (follows : Follows plan (some error) events) :
    ∃ (performed : List RunEvent) (event : RunEvent),
      events = performed.map (fun done => (done, none)) ++ [(event, some error)] := by
  generalize failed : some error = error? at follows
  induction follows with
  | nil => exact absurd failed (Option.some_ne_none error)
  | done event _ inductive_hypothesis =>
    rcases inductive_hypothesis failed with ⟨performed, last, rfl⟩
    exact ⟨event :: performed, last, rfl⟩
  | failed event plan other =>
    cases failed
    exact ⟨[], event, rfl⟩

end Follows

/-- What one action writes down is the first note on a row that begins with it. -/
theorem Action.follows_inOrder {plan : List RunEvent} {actions : List (Action σ)}
    (same : plan.length = actions.length) (traced : Traced σ) :
    let ran := inOrder (List.zipWith Action.traced plan actions) traced
    (ran.1, ran.2.state) = inOrder actions traced.state ∧
      ∃ events, ran.2.events = traced.events ++ events ∧ Follows plan ran.1 events := by
  induction plan generalizing actions traced with
  | nil =>
    rcases List.length_eq_zero_iff.1 same.symm with rfl
    exact ⟨rfl, [], (List.append_nil _).symm, .nil⟩
  | cons event rest inductive_hypothesis =>
    cases actions with
    | nil => exact absurd same (Nat.succ_ne_zero _)
    | cons action others =>
      rw [List.zipWith_cons_cons]
      simp only [inOrder, andThen, Action.traced]
      rcases acted : action traced.state with ⟨_ | error, left⟩
      · -- The action succeeds, so its note stands before those on the rest.
        rcases inductive_hypothesis (Nat.succ.inj same)
          { state := left, events := traced.events ++ [(event, none)] } with
          ⟨ended, events, noted, follows⟩
        refine ⟨ended, (event, none) :: events, ?_, follows.done event⟩
        rw [noted, List.append_assoc]
        rfl
      · exact ⟨rfl, [(event, some error)], rfl, .failed event rest error⟩

namespace Pipeline

variable {pipeline : Pipeline σ}

theorem length_planAt (stage : Stage σ) :
    (pipeline.planAt stage.phase).length = (pipeline.actionsAt stage).length := by
  simp [planAt, actionsAt]

theorem length_plan (pipeline : Pipeline σ) : pipeline.plan.length = pipeline.actions.length := by
  simp only [plan, actions, List.length_flatMap, length_planAt]

/-- The hooks of the plugins of a traced pipeline are the traced hooks in their order. -/
theorem map_mapIdx_traced (plugins : List (Plugin σ)) (event : Nat → RunEvent)
    (hook : Plugin σ → Action σ) {tracedHook : Plugin (Traced σ) → Action (Traced σ)}
    (hooks : ∀ position plugin,
      tracedHook (Plugin.traced position plugin) = (hook plugin).traced (event position)) :
    (plugins.mapIdx Plugin.traced).map tracedHook =
      List.zipWith Action.traced ((List.range plugins.length).map event) (plugins.map hook) := by
  apply List.ext_getElem
  · simp
  · intro position _ _
    simp [hooks]

theorem actionsAt_traced (stage : Stage σ) :
    pipeline.traced.actionsAt stage.traced =
      List.zipWith Action.traced (pipeline.planAt stage.phase) (pipeline.actionsAt stage) := by
  have before : pipeline.traced.plugins.map (·.before stage.phase) = _ :=
    map_mapIdx_traced pipeline.plugins (.before · stage.phase) (·.before stage.phase)
      fun _ _ => rfl
  have after : pipeline.traced.plugins.map (·.after stage.phase) = _ :=
    map_mapIdx_traced pipeline.plugins (.after · stage.phase) (·.after stage.phase)
      fun _ _ => rfl
  rw [planAt, actionsAt, actionsAt, List.zipWith_append (by simp), List.zipWith_cons_cons,
    ← before, ← after]
  rfl

theorem actions_traced (pipeline : Pipeline σ) :
    pipeline.traced.actions = List.zipWith Action.traced pipeline.plan pipeline.actions := by
  have row : ∀ stages : List (Stage σ),
      (stages.map Stage.traced).flatMap pipeline.traced.actionsAt =
        List.zipWith Action.traced (stages.flatMap fun stage => pipeline.planAt stage.phase)
          (stages.flatMap pipeline.actionsAt) := by
    intro stages
    induction stages with
    | nil => rfl
    | cons stage rest inductive_hypothesis =>
      rw [List.map_cons, List.flatMap_cons, List.flatMap_cons, List.flatMap_cons,
        List.zipWith_append (length_planAt stage), inductive_hypothesis, actionsAt_traced]
  exact row pipeline.stages

theorem orderError?_traced (pipeline : Pipeline σ) :
    pipeline.traced.orderError? = pipeline.orderError? := by
  rw [orderError?, orderError?, traced, List.map_map]
  rfl

/-- The notes on a run follow the plan, and nothing else is changed by writing them down. -/
theorem follows_run (ordered : pipeline.orderError? = none) (state : σ) :
    let ran := pipeline.traced.run { state := state }
    (ran.1, ran.2.state) = pipeline.run state ∧ Follows pipeline.plan ran.1 ran.2.events := by
  have orderedToo : pipeline.traced.orderError? = none :=
    (orderError?_traced pipeline).trans ordered
  rw [run_of_ordered ordered, run_of_ordered orderedToo, actions_traced]
  rcases Action.follows_inOrder (length_plan pipeline) { state := state } with
    ⟨ended, events, noted, follows⟩
  refine ⟨ended, ?_⟩
  rw [noted]
  exact follows

/-- A run that did all there is to do applied every stage. -/
theorem applied_of_done {traced : Traced σ}
    (done : traced.events = pipeline.plan.map fun event => (event, none)) :
    traced.applied = pipeline.stages.map (·.phase) := by
  have here : ∀ phase,
      (pipeline.planAt phase).filterMap (fun event => RunEvent.applied? (event, none)) =
        [phase] := by
    intro phase
    simp [planAt, RunEvent.applied?]
  rw [Traced.applied, done, List.filterMap_map, plan, List.filterMap_flatMap, List.map_eq_flatMap]
  exact List.flatMap_congr fun stage _ => here stage.phase

/-! ### The order of the ids -/

theorem firstOutOfOrder_eq_none_iff {phases : List Phase} :
    firstOutOfOrder phases = none ↔ (phases.map (·.id)).Pairwise (· < ·) := by
  rw [← List.isChain_iff_pairwise]
  induction phases with
  | nil => simp [firstOutOfOrder]
  | cons first rest inductive_hypothesis =>
    cases rest with
    | nil => simp [firstOutOfOrder]
    | cons second others =>
      rw [List.map_cons] at inductive_hypothesis
      rw [firstOutOfOrder, List.map_cons, List.map_cons, List.isChain_cons_cons,
        ← inductive_hypothesis]
      split
      · rename_i above
        simp [UInt32.not_lt.2 above]
      · rename_i below
        simp [UInt32.not_le.1 below]

/-- What is found has an id not above the one before it, and nothing before it has. -/
theorem firstOutOfOrder_eq_some {phases : List Phase} {phase previous : Phase}
    (found : firstOutOfOrder phases = some (phase, previous)) :
    ∃ before after, phases = before ++ previous :: phase :: after ∧
      ((before ++ [previous]).map (·.id)).Pairwise (· < ·) ∧ phase.id ≤ previous.id := by
  induction phases with
  | nil => exact absurd found nofun
  | cons first rest inductive_hypothesis =>
    cases rest with
    | nil => exact absurd found nofun
    | cons second others =>
      rw [firstOutOfOrder] at found
      split at found
      · rename_i above
        cases found
        exact ⟨[], others, rfl, List.pairwise_singleton _ _, above⟩
      · rename_i below
        rcases inductive_hypothesis found with ⟨before, after, split, increasing, above⟩
        refine ⟨first :: before, after, congrArg (first :: ·) split, ?_, above⟩
        rw [← firstOutOfOrder_eq_none_iff] at increasing ⊢
        -- The next phase is the first of the increasing part, whether or not that goes on.
        cases before with
        | nil =>
          rcases List.cons.inj split with ⟨rfl, _⟩
          simp [firstOutOfOrder, below]
        | cons other others =>
          rcases List.cons.inj split with ⟨rfl, _⟩
          simpa [firstOutOfOrder, below] using increasing

theorem orderError?_eq_none_iff :
    pipeline.orderError? = none ↔ (pipeline.stages.map (·.phase.id)).Pairwise (· < ·) := by
  rw [orderError?, Option.map_eq_none_iff, firstOutOfOrder_eq_none_iff, List.map_map]
  rfl

/-! ### Assembled pipelines -/

theorem phase_build (id : UInt32) (settings : StageSettings) (kind : StageKind) :
    (kind.build id settings).phase = ⟨kind.name, id⟩ := by
  cases kind <;> rfl

/-- The stages of an assembled pipeline are numbered from one, whatever their kinds are. -/
theorem phases_assemble (kinds : List StageKind) (settings : StageSettings) :
    (assemble kinds settings).stages.map (·.phase) =
      kinds.mapIdx fun index kind => ⟨kind.name, UInt32.ofNat (index + 1)⟩ := by
  rw [assemble, List.map_map, List.mapIdx_eq_zipIdx_map]
  exact List.map_congr_left fun _ _ => phase_build _ _ _

theorem increasing_assemble {kinds : List StageKind} (few : kinds.length < UInt32.size)
    (settings : StageSettings) :
    ((assemble kinds settings).stages.map (·.phase.id)).Pairwise (· < ·) := by
  have ids : (assemble kinds settings).stages.map (·.phase.id) =
      ((assemble kinds settings).stages.map (·.phase)).map (·.id) := by
    rw [List.map_map]
    rfl
  rw [ids, phases_assemble, List.pairwise_iff_getElem]
  intro first second firstWithin secondWithin earlier
  simp only [List.length_map, List.length_mapIdx] at firstWithin secondWithin
  simp only [List.getElem_map, List.getElem_mapIdx, UInt32.lt_iff_toNat_lt, UInt32.toNat_ofNat']
  have fits : ∀ index < kinds.length, (index + 1) % UInt32.size = index + 1 :=
    fun _ within => Nat.mod_eq_of_lt (Nat.lt_of_le_of_lt within few)
  rw [fits first firstWithin, fits second secondWithin]
  exact Nat.succ_lt_succ earlier

/-! ### Runs -/

/--
The order of a run.  If the ids of the stages do not strictly increase over the whole
pipeline, the run fails with the first phase whose id is not above that of the phase
before it, nothing is done and the state is as it was.  Otherwise what is done is a part
of the plan from its beginning on: for each stage the hooks of all plugins before it in
their order, the stage, and the hooks of all plugins after it.  The run succeeds exactly
when it did all of that and nothing failed.  If it fails, the last thing that it did
failed with the error of the run, and nothing before that failed.  Pipelines that are
assembled from a list of kinds always have increasing ids, as long as there are enough
ids to number them.
-/
theorem run_follows_plan_to_first_failure {σ : Type} (pipeline : Pipeline σ) (state : σ) :
    let ids := pipeline.stages.map (·.phase.id)
    let ran := pipeline.traced.run { state := state }
    (ran.1, ran.2.state) = pipeline.run state ∧
    (¬ ids.Pairwise (· < ·) →
      ran.2 = { state := state, events := [] } ∧
      ∃ before previous phase after,
        pipeline.stages.map (·.phase) = before ++ previous :: phase :: after ∧
        ((before ++ [previous]).map (·.id)).Pairwise (· < ·) ∧ phase.id ≤ previous.id ∧
        ran.1 = some (.outOfOrder phase previous)) ∧
    (ids.Pairwise (· < ·) →
      ran.2.events.map (·.1) <+: pipeline.plan ∧
      (ran.1 = none ↔ ran.2.events = pipeline.plan.map fun event => (event, none)) ∧
      ∀ error, ran.1 = some error →
        ∃ (performed : List RunEvent) (event : RunEvent),
          ran.2.events = performed.map (fun done => (done, none)) ++ [(event, some error)]) ∧
    ∀ kinds settings, kinds.length < UInt32.size - 1 →
      (assemble kinds settings).orderError? = none := by
  intro ids ran
  refine ⟨?_, ?_, ?_, ?_⟩
  · cases order : pipeline.orderError? with
    | none => exact (follows_run order state).1
    | some error =>
      have disordered := (orderError?_traced pipeline).trans order
      simp only [ran, run_of_disordered order, run_of_disordered disordered]
  · intro disordered
    rcases Option.ne_none_iff_exists'.1 (mt orderError?_eq_none_iff.1 disordered) with
      ⟨error, wrong⟩
    have wrongToo := (orderError?_traced pipeline).trans wrong
    rcases Option.map_eq_some_iff.1 wrong with ⟨⟨phase, previous⟩, found, rfl⟩
    rcases firstOutOfOrder_eq_some found with ⟨before, after, split, increasing, above⟩
    simp only [ran, run_of_disordered wrongToo]
    exact ⟨trivial, before, previous, phase, after, split, increasing, above, rfl⟩
  · intro ordered
    have follows : Follows pipeline.plan ran.1 ran.2.events :=
      (follows_run (orderError?_eq_none_iff.2 ordered) state).2
    refine ⟨follows.isPrefix, follows.eq_none_iff, fun error failed => ?_⟩
    rw [failed] at follows
    exact follows.exists_last
  · intro kinds settings few
    exact orderError?_eq_none_iff.2 (increasing_assemble (by omega) settings)

/-- The second plugin aborts the run after the first of two stages. -/
example :
    let abort : Plugin Nat := { after := fun _ state => (some (.aborted "enough"), state) }
    let count (id : UInt32) : Stage Nat :=
      { phase := ⟨"count", id⟩, description := "", apply := fun state => (none, state + 1) }
    let ran := (Pipeline.traced ⟨[count 1, count 2], [{}, abort]⟩).run { state := 0 }
    ran.2.state = 1 ∧
      ran.2.events =
        [(.before 0 ⟨"count", 1⟩, none), (.before 1 ⟨"count", 1⟩, none),
          (.apply ⟨"count", 1⟩, none), (.after 0 ⟨"count", 1⟩, none),
          (.after 1 ⟨"count", 1⟩, some (.aborted "enough"))] := by
  decide

end Pipeline

end StagePipeline
