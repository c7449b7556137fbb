import Mathlib.Data.List.Nodup
import StagePipeline.Proofs.RunOrder

/-!
# The history of a run

The notes of a traced run say what was done and how it ended.  Its history also says in
which state each hook and each stage found things.  `Pipeline.steps` is the plan of a run
together with the actions that carry it out, and `Action.history` goes along such a row up
to the first action that fails; the notes of the traced run are what is left of the history
when the states are forgotten.

In a plan in which nothing occurs twice, something comes to be done exactly when what stands
in front of it was done without failure.
-/

namespace StagePipeline

variable {σ : Type}

/-- One thing that a run did, the state in which it was begun, and the failure if there was one. -/
structure Moment (σ : Type) where
  event : RunEvent
  found : σ
  error? : Option RunError

namespace Moment

/-- The note of a traced run. -/
def note (moment : Moment σ) : RunEvent × Option RunError :=
  (moment.event, moment.error?)

end Moment

namespace Action

/-- What a row of named actions does, up to the first that fails. -/
def history : List (RunEvent × Action σ) → σ → List (Moment σ)
  | [], _ => []
  | (event, action) :: rest, state =>
    match action state with
    | (some error, _) => [⟨event, state, some error⟩]
    | (none, next) => ⟨event, state, none⟩ :: history rest next

variable {event : RunEvent} {action : Action σ} {rest : List (RunEvent × Action σ)}
  {state next left : σ}

theorem history_of_done (done : action state = (none, next)) :
    history ((event, action) :: rest) state = ⟨event, state, none⟩ :: history rest next := by
  rw [history, done]

theorem history_of_failed {error : RunError} (failed : action state = (some error, left)) :
    history ((event, action) :: rest) state = [⟨event, state, some error⟩] := by
  rw [history, failed]

theorem inOrder_of_done {actions : List (Action σ)} (done : action state = (none, next)) :
    inOrder (action :: actions) state = inOrder actions next := by
  rw [inOrder, andThen, done]

theorem inOrder_of_failed {actions : List (Action σ)} {error : RunError}
    (failed : action state = (some error, left)) :
    inOrder (action :: actions) state = (some error, left) := by
  rw [inOrder, andThen, failed]

/-- A traced row writes down the notes of its history. -/
theorem events_inOrder_traced (steps : List (RunEvent × Action σ)) (traced : Traced σ) :
    (inOrder (steps.map fun step => step.2.traced step.1) traced).2.events =
      traced.events ++ (history steps traced.state).map Moment.note := by
  induction steps generalizing traced with
  | nil => exact (List.append_nil _).symm
  | cons step rest inductive_hypothesis =>
    rcases step with ⟨event, action⟩
    rw [List.map_cons]
    rcases acted : action traced.state with ⟨_ | error, left⟩
    · have noted : action.traced event traced =
          (none, ⟨left, traced.events ++ [(event, none)]⟩) := by
        simp only [Action.traced, acted]
      rw [inOrder_of_done noted, inductive_hypothesis, history_of_done acted, List.append_assoc]
      rfl
    · have noted : action.traced event traced =
          (some error, ⟨left, traced.events ++ [(event, some error)]⟩) := by
        simp only [Action.traced, acted]
      rw [inOrder_of_failed noted, history_of_failed acted]
      rfl

/-- A relation between the state before any of the actions and after it orders a history. -/
theorem pairwise_history (related : σ → σ → Prop) (refl : ∀ state, related state state)
    (trans : ∀ first second third, related first second → related second third →
      related first third)
    {steps : List (RunEvent × Action σ)}
    (each : ∀ step ∈ steps, ∀ state, related state (step.2 state).2) (state : σ) :
    (∀ moment ∈ history steps state, related state moment.found) ∧
      (history steps state).Pairwise fun earlier later => related earlier.found later.found := by
  induction steps generalizing state with
  | nil => exact ⟨nofun, .nil⟩
  | cons step rest inductive_hypothesis =>
    rcases step with ⟨event, action⟩
    rcases List.forall_mem_cons.1 each with ⟨first, others⟩
    rcases acted : action state with ⟨_ | error, next⟩
    · have onward : related state (action state).2 := first state
      rw [acted] at onward
      rcases inductive_hypothesis others next with ⟨behind, ordered⟩
      have later : ∀ moment ∈ history rest next, related state moment.found :=
        fun moment member => trans _ _ _ onward (behind moment member)
      rw [history_of_done acted]
      exact ⟨List.forall_mem_cons.2 ⟨refl state, later⟩, List.pairwise_cons.2 ⟨later, ordered⟩⟩
    · rw [history_of_failed acted]
      exact ⟨List.forall_mem_singleton.2 (refl state), List.pairwise_singleton _ _⟩

end Action

namespace Follows

variable {plan before after : List RunEvent} {error? : Option RunError}
  {events : List (RunEvent × Option RunError)} {event previous : RunEvent}

/-- What is planned behind the first thing is noted behind its note. -/
theorem noted_behind {first : RunEvent} {noteOfFirst ended : Option RunError}
    (once : first ∉ plan) (planned : event ∈ plan)
    (noted : (event, ended) ∈ (first, noteOfFirst) :: events) : (event, ended) ∈ events := by
  refine (List.mem_cons.1 noted).resolve_left fun here => once ?_
  rwa [← (Prod.mk.inj here).1]

/-- Before something is done, all that stands in front of it has been done without failure. -/
theorem done_before (follows : Follows plan error? events) (distinct : plan.Nodup)
    (split : plan = before ++ event :: after) {ended : Option RunError}
    (noted : (event, ended) ∈ events) : ∀ earlier ∈ before, (earlier, none) ∈ events := by
  induction follows generalizing before with
  | nil => exact absurd noted List.not_mem_nil
  | @done first plan error? events later inductive_hypothesis =>
    cases before with
    | nil => exact nofun
    | cons other before =>
      rcases List.cons.inj split with ⟨rfl, splitLater⟩
      rcases List.nodup_cons.1 distinct with ⟨once, distinctLater⟩
      have planned : event ∈ plan := splitLater ▸ List.mem_append_right _ List.mem_cons_self
      have behind := noted_behind once planned noted
      have others := inductive_hypothesis distinctLater splitLater behind
      exact List.forall_mem_cons.2
        ⟨List.mem_cons_self, fun earlier member => List.mem_cons_of_mem _ (others earlier member)⟩
  | failed first plan error =>
    cases before with
    | nil => exact nofun
    | cons other before =>
      rcases List.cons.inj split with ⟨rfl, splitLater⟩
      refine absurd ?_ (List.nodup_cons.1 distinct).1
      rw [splitLater, ← (Prod.mk.inj (List.mem_singleton.1 noted)).1]
      exact List.mem_append_right _ List.mem_cons_self

/-- What was done without failure is followed by the next thing in the plan. -/
theorem exists_next (follows : Follows plan error? events) (distinct : plan.Nodup)
    (split : plan = before ++ previous :: event :: after)
    (noted : (previous, none) ∈ events) : ∃ ended, (event, ended) ∈ events := by
  induction follows generalizing before with
  | nil => exact absurd noted List.not_mem_nil
  | @done first plan error? events later inductive_hypothesis =>
    cases before with
    | nil =>
      rcases List.cons.inj split with ⟨rfl, rfl⟩
      cases later with
      | done => exact ⟨none, List.mem_cons_of_mem _ List.mem_cons_self⟩
      | failed _ _ error => exact ⟨some error, List.mem_cons_of_mem _ List.mem_cons_self⟩
    | cons other before =>
      rcases List.cons.inj split with ⟨rfl, splitLater⟩
      rcases List.nodup_cons.1 distinct with ⟨once, distinctLater⟩
      have planned : previous ∈ plan := splitLater ▸ List.mem_append_right _ List.mem_cons_self
      have behind := noted_behind once planned noted
      rcases inductive_hypothesis distinctLater splitLater behind with ⟨ended, member⟩
      exact ⟨ended, List.mem_cons_of_mem _ member⟩
  | failed first plan error =>
    exact absurd (congrArg Prod.snd (List.mem_singleton.1 noted)) nofun

end Follows

/-- The stage that something is done at. -/
def RunEvent.phase : RunEvent → Phase
  | .before _ phase => phase
  | .apply phase => phase
  | .after _ phase => phase

/-- The stage after which the plugin at a position acts, if that is what is done. -/
def RunEvent.afterStage? (position : Nat) : RunEvent → Option Phase
  | .after plugin phase => if plugin = position then some phase else none
  | _ => none

theorem RunEvent.afterStage?_eq_some_iff {position : Nat} {event : RunEvent} {phase : Phase} :
    event.afterStage? position = some phase ↔ event = .after position phase := by
  cases event with
  | before | apply => simp [afterStage?]
  | after plugin other =>
    rw [afterStage?, Option.ite_none_right_eq_some, Option.some.injEq, after.injEq]

namespace Pipeline

variable {pipeline : Pipeline σ}

/-- What a run does at one stage, each action with its name. -/
def stepsAt (pipeline : Pipeline σ) (stage : Stage σ) : List (RunEvent × Action σ) :=
  (pipeline.plugins.mapIdx fun position plugin =>
      (.before position stage.phase, plugin.before stage.phase)) ++
    (.apply stage.phase, stage.apply) ::
      pipeline.plugins.mapIdx fun position plugin =>
        (.after position stage.phase, plugin.after stage.phase)

/-- What a run does, each action with its name. -/
def steps (pipeline : Pipeline σ) : List (RunEvent × Action σ) :=
  pipeline.stages.flatMap pipeline.stepsAt

/-- All that a run does; it does nothing if the ids of the stages do not increase. -/
def history (pipeline : Pipeline σ) (state : σ) : List (Moment σ) :=
  match pipeline.orderError? with
  | some _ => []
  | none => Action.history pipeline.steps state

theorem map_fst_steps (pipeline : Pipeline σ) : pipeline.steps.map (·.1) = pipeline.plan := by
  have hooks : ∀ (event : Nat → RunEvent) (hook : Plugin σ → Action σ),
      (pipeline.plugins.mapIdx fun position plugin => (event position, hook plugin)).map (·.1) =
        (List.range pipeline.plugins.length).map event := by
    intro event hook
    apply List.ext_getElem
    · simp
    · intro index _ _
      simp
  rw [steps, plan, List.map_flatMap]
  refine List.flatMap_congr fun stage _ => ?_
  rw [stepsAt, planAt, List.map_append, List.map_cons, hooks (.before · stage.phase),
    hooks (.after · stage.phase)]

theorem map_snd_steps (pipeline : Pipeline σ) : pipeline.steps.map (·.2) = pipeline.actions := by
  have hooks : ∀ (event : Nat → RunEvent) (hook : Plugin σ → Action σ),
      (pipeline.plugins.mapIdx fun position plugin => (event position, hook plugin)).map (·.2) =
        pipeline.plugins.map hook := by
    intro event hook
    apply List.ext_getElem
    · simp
    · intro index _ _
      simp
  rw [steps, actions, List.map_flatMap]
  refine List.flatMap_congr fun stage _ => ?_
  rw [stepsAt, actionsAt, List.map_append, List.map_cons, hooks, hooks]

/-- The notes of a traced run are its history without the states. -/
theorem events_run_traced (pipeline : Pipeline σ) (state : σ) :
    (pipeline.traced.run { state := state }).2.events =
      (pipeline.history state).map Moment.note := by
  rw [history]
  cases order : pipeline.orderError? with
  | some error => rw [run_of_disordered ((orderError?_traced pipeline).trans order)]; rfl
  | none =>
    rw [run_of_ordered ((orderError?_traced pipeline).trans order), actions_traced,
      ← map_fst_steps, ← map_snd_steps, List.zipWith_map, List.zipWith_self]
    exact Action.events_inOrder_traced pipeline.steps { state := state }

/-! ### Nothing is planned twice -/

theorem phase_of_mem_planAt {phase : Phase} {event : RunEvent}
    (member : event ∈ pipeline.planAt phase) : event.phase = phase := by
  rcases List.mem_append.1 member with early | here | ⟨_, late⟩
  · rcases List.mem_map.1 early with ⟨position, -, rfl⟩
    rfl
  · rfl
  · rcases List.mem_map.1 late with ⟨position, -, rfl⟩
    rfl

theorem nodup_planAt (pipeline : Pipeline σ) (phase : Phase) : (pipeline.planAt phase).Nodup := by
  have before : ((List.range pipeline.plugins.length).map (RunEvent.before · phase)).Nodup :=
    List.nodup_range.map fun _ _ same => (RunEvent.before.inj same).1
  have after : ((List.range pipeline.plugins.length).map (RunEvent.after · phase)).Nodup :=
    List.nodup_range.map fun _ _ same => (RunEvent.after.inj same).1
  rw [planAt, List.nodup_append', List.nodup_cons]
  refine ⟨before, ⟨by simp, after⟩, ?_⟩
  intro event early late
  rcases List.mem_map.1 early with ⟨position, -, rfl⟩
  simp at late

theorem nodup_plan (distinct : (pipeline.stages.map (·.phase)).Nodup) : pipeline.plan.Nodup := by
  rw [plan, List.nodup_flatMap]
  refine ⟨fun stage _ => nodup_planAt pipeline stage.phase, ?_⟩
  refine (List.pairwise_map.1 distinct).imp fun {left right} different => ?_
  intro event here there
  exact different ((phase_of_mem_planAt here).symm.trans (phase_of_mem_planAt there))

theorem nodup_phases (ordered : pipeline.orderError? = none) :
    (pipeline.stages.map (·.phase)).Nodup := by
  have increasing := orderError?_eq_none_iff.1 ordered
  refine List.Nodup.of_map (·.id) ?_
  rw [List.map_map]
  exact increasing.imp fun less => UInt32.ne_of_lt less

/-! ### The hooks of one plugin after the stages -/

/-- The plugin at a position acts after every stage. -/
theorem filterMap_plan {position : Nat} (within : position < pipeline.plugins.length) :
    pipeline.plan.filterMap (RunEvent.afterStage? position) =
      pipeline.stages.map (·.phase) := by
  have once : ∀ phase, ((List.range pipeline.plugins.length).map (RunEvent.after · phase)).filterMap
      (RunEvent.afterStage? position) = [phase] := by
    intro phase
    have here : List.count position (List.range pipeline.plugins.length) = 1 :=
      List.count_eq_one_of_mem List.nodup_range (List.mem_range.2 within)
    have found : (RunEvent.afterStage? position ∘ (RunEvent.after · phase)) =
        fun plugin => (Option.guard (· = position) plugin).map fun _ => phase := by
      funext plugin
      by_cases same : plugin = position <;> simp [RunEvent.afterStage?, Option.guard, same]
    rw [List.filterMap_map, found, ← List.map_filterMap, List.filterMap_eq_filter,
      List.filter_eq, here]
    rfl
  rw [plan, List.filterMap_flatMap, List.map_eq_flatMap]
  refine List.flatMap_congr fun stage _ => ?_
  rw [planAt, List.filterMap_append, List.filterMap_cons, once, List.filterMap_map]
  simp [RunEvent.afterStage?, Function.comp_def]

/-- The plan leads from a stage to the hook after it through the hooks of the plugins before. -/
theorem exists_plan_split {position : Nat} (within : position < pipeline.plugins.length)
    {phase : Phase} (member : phase ∈ pipeline.stages.map (·.phase)) :
    ∃ before after,
      pipeline.plan = before ++ .apply phase :: ((List.range position).map (.after · phase) ++
        .after position phase :: after) := by
  rcases List.mem_map.1 member with ⟨stage, among, rfl⟩
  rcases List.append_of_mem among with ⟨front, back, split⟩
  rcases Nat.exists_eq_add_of_lt within with ⟨more, count⟩
  have hooks : ∃ tail, (List.range pipeline.plugins.length).map (RunEvent.after · stage.phase) =
      (List.range position).map (.after · stage.phase) ++ .after position stage.phase :: tail := by
    rw [count, Nat.add_assoc, List.range_add, List.range_succ_eq_map, List.map_cons,
      List.map_append, List.map_cons]
    exact ⟨_, rfl⟩
  rcases hooks with ⟨tail, hooks⟩
  refine ⟨front.flatMap (fun stage => pipeline.planAt stage.phase) ++
    (List.range pipeline.plugins.length).map (.before · stage.phase),
    tail ++ back.flatMap (fun stage => pipeline.planAt stage.phase), ?_⟩
  rw [plan, split, List.flatMap_append, List.flatMap_cons, planAt, hooks]
  simp only [List.append_assoc, List.cons_append]

section Noted

variable {position : Nat} {phase : Phase}

/--
The hook of a plugin is called after a stage exactly when the stage was applied and the
hooks of the plugins before it were called, all without failure.
-/
theorem exists_moment_iff (within : position < pipeline.plugins.length)
    (member : phase ∈ pipeline.stages.map (·.phase)) (state : σ) :
    (∃ moment ∈ pipeline.history state, moment.event = .after position phase) ↔
      (.apply phase, none) ∈ (pipeline.traced.run { state := state }).2.events ∧
        ∀ earlier < position,
          (.after earlier phase, none) ∈ (pipeline.traced.run { state := state }).2.events := by
  cases order : pipeline.orderError? with
  | some error =>
    have nothing : pipeline.history state = [] := by rw [history, order]
    rw [events_run_traced, nothing]
    simp
  | none =>
    have follows := (follows_run order state).2
    have distinct := nodup_plan (nodup_phases order)
    rcases exists_plan_split within member with ⟨before, after, split⟩
    have called : (∃ moment ∈ pipeline.history state, moment.event = .after position phase) ↔
        ∃ ended, (.after position phase, ended) ∈
          (pipeline.traced.run { state := state }).2.events := by
      rw [events_run_traced]
      constructor
      · rintro ⟨moment, among, same⟩
        exact ⟨moment.error?, same ▸ List.mem_map_of_mem among⟩
      · rintro ⟨ended, noted⟩
        rcases List.mem_map.1 noted with ⟨moment, among, same⟩
        exact ⟨moment, among, (Prod.mk.inj same).1⟩
    rw [called]
    constructor
    · rintro ⟨ended, noted⟩
      have whole : pipeline.plan =
          (before ++ .apply phase :: (List.range position).map (.after · phase)) ++
            .after position phase :: after := by
        rw [split, List.append_assoc, List.cons_append]
      have all := follows.done_before distinct whole noted
      refine ⟨all _ (List.mem_append_right _ List.mem_cons_self), fun earlier less => ?_⟩
      refine all _ (List.mem_append_right _ (List.mem_cons_of_mem _ ?_))
      exact List.mem_map_of_mem (List.mem_range.2 less)
    · rintro ⟨applied, hooks⟩
      -- What stands directly in front of the hook is the stage or the hook of another plugin.
      cases position with
      | zero => exact follows.exists_next distinct split applied
      | succ last =>
        rw [List.range_succ, List.map_append, List.append_assoc, ← List.cons_append,
          ← List.append_assoc] at split
        exact follows.exists_next distinct split (hooks last (Nat.lt_succ_self last))

end Noted

end Pipeline

end StagePipeline
