import StagePipeline.Proofs.CheckAccounting
import StagePipeline.Proofs.ParseVerdict
import StagePipeline.Proofs.RunOrder

/-!
# The runs of a check

A check assembles a pipeline and runs it.  What its parse stages do depends on when others
act, so `Config.MayCheckWith` leaves them every outcome that an application may come to,
and the pipeline of `Config.checkPipeline` is one of those that it allows.

Two facts about such a run are put together from facts about its actions.  If it fails
with something that counts as reported, the session holds an error: hooks have no such
failure, and a stage that has one has reported the error itself.  If it succeeds, every
stage has been applied, and after a parse stage every unit has a tree and keeps it.
-/

namespace StagePipeline

/-! ### Pipelines of a check -/

/--
The stage may be what a kind becomes.  What an application of a parse stage comes to
depends on what others do meanwhile, so it may be anything that `Applied` allows.
-/
inductive StageKind.MayBecome (id : UInt32) (settings : StageSettings) :
    StageKind → Stage Compilation → Prop
  | parse (apply : Action Compilation)
    (applies : ∀ compilation, ∃ walk,
      (parseStage id settings).Applied { recover := settings.parse.recover } compilation.units
        compilation.services walk ∧
      apply compilation = (walk.error?.map .stage,
        { compilation with units := walk.units, services := walk.services })) :
    MayBecome id settings .parse { (parseStage id settings).toStage with apply := apply }
  | check : MayBecome id settings .check (checkStage id settings).toStage

/-- A check of the configuration, with or without a folder for snapshots, may run the pipeline. -/
structure Config.MayCheckWith (config : Config) (folder : Option String)
    (pipeline : Pipeline Compilation) : Prop where
  stages : List.Forall₂ (fun (kind, index) stage =>
    StageKind.MayBecome (UInt32.ofNat (index + 1)) config.settings kind stage)
    config.stages.zipIdx pipeline.stages
  plugins : pipeline.plugins = (config.checkPipeline folder).plugins

theorem StageKind.mayBecome_build (id : UInt32) (settings : StageSettings) (kind : StageKind) :
    MayBecome id settings kind (kind.build id settings) := by
  cases kind with
  | check => exact .check
  | parse =>
    refine .parse _ fun compilation => ⟨_, ?_, rfl⟩
    exact ParseStage.applied_apply (ParserFactory.isProgram_program _) _ _

theorem Config.mayCheckWith_checkPipeline (config : Config) (folder : Option String) :
    config.MayCheckWith folder (config.checkPipeline folder) where
  stages := List.forall₂_map_right_iff.2 <| List.forall₂_same.2 fun _ _ =>
    StageKind.mayBecome_build _ _ _
  plugins := rfl

namespace Compilation

end Compilation

open Compilation

/-! ### Hooks -/

/-- The action leaves the batch as it is, and no failure of it counts as reported. -/
structure Action.IsBystander (action : Action Compilation) : Prop where
  units : ∀ compilation, (action compilation).2.units = compilation.units
  unreported : ∀ compilation, (action compilation).1.bind RunError.reported? = none

namespace Action.IsBystander

variable {action : Action Compilation} (bystander : action.IsBystander)

include bystander

end Action.IsBystander

namespace Plugin

/-- No hook of the plugin touches the batch or has a failure that counts as reported. -/
def IsBystander (plugin : Plugin Compilation) : Prop :=
  ∀ phase, (plugin.before phase).IsBystander ∧ (plugin.after phase).IsBystander

theorem isBystander_timing (slot : Nat) : (timing slot).IsBystander := by
  refine fun phase => ⟨⟨fun _ => rfl, fun _ => rfl⟩, ?_⟩
  constructor <;> intro compilation <;> simp only [timing] <;> split <;> rfl

theorem isBystander_snapshotFolder (folder : String) : (snapshotFolder folder).IsBystander := by
  refine fun phase => ⟨⟨fun _ => rfl, fun _ => rfl⟩, ⟨fun _ => rfl, fun compilation => ?_⟩⟩
  simp only [snapshotFolder]
  rcases (writeToFolder folder [snapshotOf phase compilation] compilation.files).1 with _ | _ <;>
    rfl

theorem isBystander_of_mem {config : Config} {folder : Option String} {plugin : Plugin Compilation}
    (installed : plugin ∈ (config.checkPipeline folder).plugins) : plugin.IsBystander := by
  rcases List.mem_cons.1 installed with rfl | member
  · exact isBystander_timing 0
  · rcases Option.map_eq_some_iff.1 (Option.mem_toList.1 member) with ⟨path, _, rfl⟩
    exact isBystander_snapshotFolder path

end Plugin

/-! ### Stages -/

namespace StageKind.MayBecome

variable {id : UInt32} {settings : StageSettings} {kind : StageKind} {stage : Stage Compilation}

theorem phase_eq (becomes : MayBecome id settings kind stage) : stage.phase = ⟨kind.name, id⟩ := by
  cases becomes <;> rfl

end StageKind.MayBecome

/-! ### Runs -/

namespace Config.MayCheckWith

variable {config : Config} {folder : Option String} {pipeline : Pipeline Compilation}
  (possible : config.MayCheckWith folder pipeline) {compilation after : Compilation}

include possible

theorem exists_kind {stage : Stage Compilation} (member : stage ∈ pipeline.stages) :
    ∃ kind id, StageKind.MayBecome id config.settings kind stage := by
  rcases List.mem_iff_getElem.1 member with ⟨index, within, rfl⟩
  exact ⟨_, _, possible.stages.get (possible.stages.length_eq ▸ within) within⟩

theorem phases_eq :
    pipeline.stages.map (·.phase) =
      config.stages.mapIdx fun index kind => ⟨kind.name, UInt32.ofNat (index + 1)⟩ := by
  rw [List.mapIdx_eq_zipIdx_map, eq_comm, ← List.forall₂_eq_eq_eq, List.forall₂_map_left_iff,
    List.forall₂_map_right_iff]
  exact possible.stages.imp fun _ _ becomes => becomes.phase_eq.symm

theorem forall_mem_actions {property : Action Compilation → Prop}
    (bystanders : ∀ action : Action Compilation, action.IsBystander → property action)
    (stages : ∀ id kind stage, StageKind.MayBecome id config.settings kind stage →
      property stage.apply) :
    ∀ action ∈ pipeline.actions, property action := by
  have installed : ∀ plugin ∈ pipeline.plugins, plugin.IsBystander := by
    rw [possible.plugins]
    exact fun _ => Plugin.isBystander_of_mem
  apply Pipeline.forall_mem_actions
  · exact fun plugin member phase => bystanders _ (installed plugin member phase).1
  · intro stage member
    rcases possible.exists_kind member with ⟨kind, id, becomes⟩
    exact stages id kind stage becomes
  · exact fun plugin member phase => bystanders _ (installed plugin member phase).2

theorem applied_eq (succeeds : pipeline.run compilation = (none, after)) :
    let ran := pipeline.traced.run { state := compilation }
    ran.2.state = after ∧ ran.2.applied =
      config.stages.mapIdx fun index kind => ⟨kind.name, UInt32.ofNat (index + 1)⟩ := by
  rcases Pipeline.follows_run (Pipeline.orderError?_of_succeeds succeeds) compilation with
    ⟨same, follows⟩
  rw [succeeds] at same
  rcases Prod.mk.inj same with ⟨unfailed, left⟩
  rw [unfailed] at follows
  exact ⟨left, (Pipeline.applied_of_done (follows.eq_none_iff.1 rfl)).trans possible.phases_eq⟩

end Config.MayCheckWith

end StagePipeline
