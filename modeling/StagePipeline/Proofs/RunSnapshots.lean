import StagePipeline.Proofs.RunHistory
import StagePipeline.Proofs.TextPlaces

/-!
# The snapshots of a run

A plugin that holds its snapshots in memory takes one whenever its hook after a stage is
called, of the batch and the diagnostics as they are then.  Nobody else touches what it
holds, so what it has gained from a run can be read off the history of the run: one snapshot
for each moment at which its hook was called.

The name of the file of a snapshot begins with the digits of the id and a dash.  No digit is
a dash, so the id can be read off the name, whatever the stages are called; and the ids of a
run increase.
-/

namespace StagePipeline

/-! ### Names of files -/

namespace StageSnapshot

theorem ofDigitChars_twoDigits (number : Nat) :
    Nat.ofDigitChars 10 (twoDigits number).toList 0 = number := by
  have digits : (toString number).toList = Nat.toDigits 10 number := Nat.toList_repr
  rw [twoDigits]
  split
  · rw [String.toList_append, digits]
    exact Nat.ofDigitChars_ten_toDigits
  · rw [digits]
    exact Nat.ofDigitChars_ten_toDigits

theorem dash_notMem_twoDigits (number : Nat) : '-' ∉ (twoDigits number).toList := by
  have digits : '-' ∉ (toString number).toList := by
    intro member
    rw [show (toString number).toList = Nat.toDigits 10 number from Nat.toList_repr] at member
    exact absurd (Text.isDigit_of_mem_toDigits member) (by decide)
  rw [twoDigits]
  split
  · rw [String.toList_append, List.mem_append, not_or]
    exact ⟨by decide, digits⟩
  · exact digits

/-- The id of the phase can be read off the name of the file. -/
theorem id_eq_of_fileName {left right : StageSnapshot} (same : left.fileName = right.fileName) :
    left.phase.id = right.phase.id := by
  have front : ∀ snapshot : StageSnapshot, (snapshot.fileName.toList.splitOn '-').head? =
      some (twoDigits snapshot.phase.id.toNat).toList := by
    intro snapshot
    rw [fileName, String.append_assoc, String.append_assoc, String.toList_append,
      String.toList_append]
    exact congrArg List.head?
      (List.splitOn_append_cons_self_of_not_mem (dash_notMem_twoDigits _) _)
  have digits := front left
  rw [same, front right, Option.some.injEq] at digits
  rw [← UInt32.toNat_inj, ← ofDigitChars_twoDigits left.phase.id.toNat, ← digits,
    ofDigitChars_twoDigits]

/-- Snapshots of phases with different ids are written to different files. -/
theorem nodup_fileNames {snapshots : List StageSnapshot}
    (distinct : (snapshots.map (·.phase.id)).Nodup) : (snapshots.map (·.fileName)).Nodup :=
  List.pairwise_map.2 <| (List.pairwise_map.1 distinct).imp fun different same =>
    different (id_eq_of_fileName same)

end StageSnapshot

/-! ### What a plugin holds -/

/-- The action does not touch the snapshots in a slot. -/
def Action.Spares (slot : Nat) (action : Action Compilation) : Prop :=
  ∀ compilation, (action compilation).2.snapshots slot = compilation.snapshots slot

/-- The action takes no diagnostic away. -/
def Action.OnlyReports (action : Action Compilation) : Prop :=
  ∀ compilation, compilation.session.diagnostics <+: (action compilation).2.session.diagnostics

namespace Plugin

/-- No hook of the plugin touches the snapshots in a slot. -/
def Spares (slot : Nat) (plugin : Plugin Compilation) : Prop :=
  ∀ phase, (plugin.before phase).Spares slot ∧ (plugin.after phase).Spares slot

/-- No hook of the plugin takes a diagnostic away. -/
def OnlyReports (plugin : Plugin Compilation) : Prop :=
  ∀ phase, (plugin.before phase).OnlyReports ∧ (plugin.after phase).OnlyReports

theorem snapshots_after (slot : Nat) (phase : Phase) (compilation : Compilation) :
    ((snapshot slot).after phase compilation).2.snapshots slot =
      compilation.snapshots slot ++ [snapshotOf phase compilation] := by
  simp [snapshot, Compilation.snapshots]

theorem onlyReports_snapshot (slot : Nat) : (snapshot slot).OnlyReports :=
  fun _ => ⟨fun _ => List.prefix_refl _, fun _ => List.prefix_refl _⟩

theorem spares_timing (slot other : Nat) : (timing other).Spares slot := by
  refine fun phase => ⟨fun _ => rfl, fun compilation => ?_⟩
  simp only [timing]
  split <;> rfl

theorem onlyReports_timing (slot : Nat) : (timing slot).OnlyReports := by
  refine fun phase => ⟨fun _ => List.prefix_refl _, fun compilation => ?_⟩
  simp only [timing]
  split <;> exact List.prefix_refl _

end Plugin

/-- The snapshot of the plugin at a position, if its hook after a stage is what is called. -/
def Moment.snapshot? (position : Nat) (moment : Moment Compilation) : Option StageSnapshot :=
  (moment.event.afterStage? position).map (Plugin.snapshotOf · moment.found)

theorem Moment.snapshot?_eq_some_iff {position : Nat} {moment : Moment Compilation}
    {snapshot : StageSnapshot} :
    moment.snapshot? position = some snapshot ↔
      moment.event = .after position snapshot.phase ∧
        snapshot = Plugin.snapshotOf snapshot.phase moment.found := by
  rw [snapshot?, Option.map_eq_some_iff]
  constructor
  · rintro ⟨phase, called, rfl⟩
    exact ⟨RunEvent.afterStage?_eq_some_iff.1 called, rfl⟩
  · rintro ⟨called, taken⟩
    exact ⟨snapshot.phase, RunEvent.afterStage?_eq_some_iff.2 called, taken.symm⟩

/-- Either the hook of the plugin in the slot after a stage, or something that spares the slot. -/
inductive IsStepBeside (slot position : Nat) : RunEvent × Action Compilation → Prop
  | own (phase : Phase) :
    IsStepBeside slot position (.after position phase, (Plugin.snapshot slot).after phase)
  | other {event : RunEvent} {action : Action Compilation}
    (elsewhere : event.afterStage? position = none) (spares : action.Spares slot) :
    IsStepBeside slot position (event, action)

/-- A row of actions adds the snapshots of its history. -/
theorem Action.snapshots_inOrder {slot position : Nat} {steps : List (RunEvent × Action Compilation)}
    (each : ∀ step ∈ steps, IsStepBeside slot position step) (compilation : Compilation) :
    (inOrder (steps.map (·.2)) compilation).2.snapshots slot = compilation.snapshots slot ++
      (history steps compilation).filterMap (Moment.snapshot? position) := by
  induction steps generalizing compilation with
  | nil => exact (List.append_nil _).symm
  | cons step rest inductive_hypothesis =>
    rcases List.forall_mem_cons.1 each with ⟨first, others⟩
    cases first with
    | own phase =>
      have acted : (Plugin.snapshot slot).after phase compilation =
        (none, ((Plugin.snapshot slot).after phase compilation).2) := rfl
      have taken : (⟨.after position phase, compilation, none⟩ : Moment Compilation).snapshot?
          position = some (Plugin.snapshotOf phase compilation) := by
        simp [Moment.snapshot?, RunEvent.afterStage?]
      rw [history_of_done acted, List.filterMap_cons_some taken, List.map_cons,
        inOrder_of_done acted, inductive_hypothesis others, Plugin.snapshots_after,
        List.append_assoc]
      rfl
    | @other event action elsewhere spares =>
      have nothing : ∀ error?, (⟨event, compilation, error?⟩ : Moment Compilation).snapshot?
          position = none := by
        intro error?
        rw [Moment.snapshot?, elsewhere]
        rfl
      have spared := spares compilation
      rw [List.map_cons]
      rcases acted : action compilation with ⟨_ | error, next⟩
      · rw [acted] at spared
        rw [history_of_done acted, List.filterMap_cons_none (nothing none),
          inOrder_of_done acted, inductive_hypothesis others, spared]
      · rw [acted] at spared
        rw [history_of_failed acted, List.filterMap_cons_none (nothing _), List.filterMap_nil,
          List.append_nil, inOrder_of_failed acted]
        exact spared

/-- A plugin in a row with its position is the one at a place or one of the others. -/
theorem mem_mapIdx_append_cons {α β : Type} {numbered : Nat → α → β} {earlier later : List α}
    {here : α} {found : β} (member : found ∈ (earlier ++ here :: later).mapIdx numbered) :
    found = numbered earlier.length here ∨
      ∃ position other, position ≠ earlier.length ∧ other ∈ earlier ++ later ∧
        found = numbered position other := by
  rw [List.mapIdx_append, List.mapIdx_cons] at member
  rcases List.mem_append.1 member with early | same | ⟨_, late⟩
  · rcases List.mem_mapIdx.1 early with ⟨position, within, rfl⟩
    exact .inr ⟨position, _, Nat.ne_of_lt within,
      List.mem_append_left _ (List.getElem_mem within), rfl⟩
  · exact .inl (by rw [Nat.zero_add])
  · rcases List.mem_mapIdx.1 late with ⟨position, within, rfl⟩
    exact .inr ⟨position + 1 + earlier.length, _, by omega,
      List.mem_append_right _ (List.getElem_mem within), rfl⟩

/-- The beginning of a list without repetition is the part whose elements are in it. -/
theorem eq_filter_of_prefix {α : Type} [DecidableEq α] {front whole : List α}
    (begins : front <+: whole) (distinct : whole.Nodup) :
    front = whole.filter (· ∈ front) := by
  rcases begins with ⟨back, rfl⟩
  have apart := (List.nodup_append'.1 distinct).2.2
  have kept : front.filter (· ∈ front) = front :=
    List.filter_eq_self.2 fun _ member => decide_eq_true member
  have dropped : back.filter (· ∈ front) = [] :=
    List.filter_eq_nil_iff.2 fun _ member => by simpa using fun inFront => apart inFront member
  rw [List.filter_append, kept, dropped, List.append_nil]

namespace Pipeline

variable {slot : Nat} {earlier later : List (Plugin Compilation)}
  {stages : List (Stage Compilation)}

section Spared

variable (stagesSpare : ∀ stage ∈ stages, stage.apply.Spares slot)
  (othersSpare : ∀ plugin ∈ earlier ++ later, plugin.Spares slot)
include stagesSpare othersSpare

theorem isStepBeside_of_mem {step : RunEvent × Action Compilation}
    (member : step ∈ (⟨stages, earlier ++ .snapshot slot :: later⟩ : Pipeline Compilation).steps) :
    IsStepBeside slot earlier.length step := by
  rcases List.mem_flatMap.1 member with ⟨stage, among, inside⟩
  rcases List.mem_append.1 inside with early | here | ⟨_, late⟩
  · rcases mem_mapIdx_append_cons early with rfl | ⟨position, other, -, installed, rfl⟩
    · exact .other rfl fun _ => rfl
    · exact .other rfl (othersSpare other installed stage.phase).1
  · exact .other rfl (stagesSpare stage among)
  · rcases mem_mapIdx_append_cons late with rfl | ⟨position, other, elsewhere, installed, rfl⟩
    · exact .own stage.phase
    · refine .other ?_ (othersSpare other installed stage.phase).2
      rw [RunEvent.afterStage?, if_neg elsewhere]

theorem snapshots_run (compilation : Compilation) :
    let pipeline : Pipeline Compilation := ⟨stages, earlier ++ .snapshot slot :: later⟩
    (pipeline.run compilation).2.snapshots slot = compilation.snapshots slot ++
      (pipeline.history compilation).filterMap (Moment.snapshot? earlier.length) := by
  intro pipeline
  rw [history]
  cases order : pipeline.orderError? with
  | some error => rw [run_of_disordered order, List.filterMap_nil, List.append_nil]
  | none =>
    rw [run_of_ordered order, ← map_snd_steps]
    exact Action.snapshots_inOrder
      (fun _ => isStepBeside_of_mem stagesSpare othersSpare) compilation

end Spared

theorem pairwise_snapshots (stagesReport : ∀ stage ∈ stages, stage.apply.OnlyReports)
    (othersReport : ∀ plugin ∈ earlier ++ later, plugin.OnlyReports) (compilation : Compilation) :
    let pipeline : Pipeline Compilation := ⟨stages, earlier ++ .snapshot slot :: later⟩
    ((pipeline.history compilation).filterMap (Moment.snapshot? earlier.length)).Pairwise
      fun first second => first.diagnostics <+: second.diagnostics := by
  intro pipeline
  have installed : ∀ plugin ∈ pipeline.plugins, plugin.OnlyReports := by
    intro plugin member
    rcases List.mem_append.1 member with early | own | ⟨_, late⟩
    · exact othersReport plugin (List.mem_append_left _ early)
    · exact Plugin.onlyReports_snapshot slot
    · exact othersReport plugin (List.mem_append_right _ late)
  have all : ∀ action ∈ pipeline.actions, action.OnlyReports :=
    forall_mem_actions (fun plugin member phase => (installed plugin member phase).1) stagesReport
      fun plugin member phase => (installed plugin member phase).2
  have each : ∀ step ∈ pipeline.steps, step.2.OnlyReports := by
    intro step member
    exact all step.2 (map_snd_steps pipeline ▸ List.mem_map_of_mem member)
  have ordered : (pipeline.history compilation).Pairwise fun first second =>
      first.found.session.diagnostics <+: second.found.session.diagnostics := by
    rw [history]
    split
    · exact .nil
    · exact (Action.pairwise_history
        (fun before after => before.session.diagnostics <+: after.session.diagnostics)
        (fun _ => List.prefix_refl _) (fun _ _ _ => List.IsPrefix.trans) each compilation).2
  refine ordered.filterMap _ fun first second grown early earlyTaken late lateTaken => ?_
  rw [(Moment.snapshot?_eq_some_iff.1 earlyTaken).2, (Moment.snapshot?_eq_some_iff.1 lateTaken).2]
  exact grown

variable {σ : Type} {pipeline : Pipeline σ}

/-- The stages after which the plugin at a position was called. -/
theorem phases_called {position : Nat} (within : position < pipeline.plugins.length) (state : σ) :
    let notes := (pipeline.traced.run { state := state }).2.events
    (pipeline.history state).filterMap (fun moment => moment.event.afterStage? position) =
      (pipeline.stages.map (·.phase)).filter fun phase =>
        (.apply phase, none) ∈ notes ∧ ∀ earlier < position, (.after earlier phase, none) ∈ notes := by
  intro notes
  have called : ∀ phase ∈ pipeline.stages.map (·.phase),
      (phase ∈ (pipeline.history state).filterMap fun moment => moment.event.afterStage? position) ↔
        (.apply phase, none) ∈ notes ∧ ∀ earlier < position, (.after earlier phase, none) ∈ notes := by
    intro phase member
    simp only [List.mem_filterMap, RunEvent.afterStage?_eq_some_iff]
    exact exists_moment_iff within member state
  rw [← List.filter_congr fun phase member => decide_eq_decide.2 (called phase member)]
  cases order : pipeline.orderError? with
  | some error =>
    have nothing : pipeline.history state = [] := by rw [history, order]
    simp [nothing]
  | none =>
    refine eq_filter_of_prefix ?_ (nodup_phases order)
    have begins := (follows_run order state).2.isPrefix.filterMap (RunEvent.afterStage? position)
    rw [filterMap_plan within, events_run_traced, List.map_map, List.filterMap_map] at begins
    exact begins

/-- The ids of the stages after which the plugin at a position was called are all different. -/
theorem nodup_called {position : Nat} (within : position < pipeline.plugins.length) (state : σ) :
    (((pipeline.history state).filterMap fun moment =>
      moment.event.afterStage? position).map (·.id)).Nodup := by
  cases order : pipeline.orderError? with
  | some error =>
    have nothing : pipeline.history state = [] := by rw [history, order]
    simp [nothing]
  | none =>
    have increasing := orderError?_eq_none_iff.1 order
    rw [phases_called within]
    refine List.Nodup.sublist (List.filter_sublist.map _) ?_
    rw [List.map_map]
    exact increasing.imp fun less => UInt32.ne_of_lt less

/--
What a run of a pipeline adds to the snapshots of one of its plugins, whose slot nobody else
touches.  It adds one for each stage that was applied without failure and after which the
hooks of the plugins before it did not fail either, in the order of the stages.  Each holds
the names and bodies of all units and the diagnostics of the session as they were in the
state in which the hook was called.  If no hook and no stage takes a diagnostic away, each
has those of the one before it first.  The names of the files of the snapshots are all
different.
-/
theorem run_adds_snapshots (stagesSpare : ∀ stage ∈ stages, stage.apply.Spares slot)
    (othersSpare : ∀ plugin ∈ earlier ++ later, plugin.Spares slot) (compilation : Compilation) :
    let pipeline : Pipeline Compilation := ⟨stages, earlier ++ .snapshot slot :: later⟩
    let notes := (pipeline.traced.run { state := compilation }).2.events
    (pipeline.history compilation).map (·.note) = notes ∧
    ∃ added : List StageSnapshot,
      (pipeline.run compilation).2.snapshots slot = compilation.snapshots slot ++ added ∧
      (added.map (·.phase) = (stages.map (·.phase)).filter fun phase =>
        (.apply phase, none) ∈ notes ∧
          ∀ position < earlier.length, (.after position phase, none) ∈ notes) ∧
      (∀ snapshot ∈ added, ∃ moment ∈ pipeline.history compilation,
        moment.event = .after earlier.length snapshot.phase ∧
        snapshot.units =
          moment.found.units.map (fun unit => ⟨unit.source.name, unit.body⟩) ∧
        snapshot.diagnostics = moment.found.session.diagnostics) ∧
      ((∀ stage ∈ stages, stage.apply.OnlyReports) →
        (∀ plugin ∈ earlier ++ later, plugin.OnlyReports) →
        added.Pairwise fun first second => first.diagnostics <+: second.diagnostics) ∧
      (added.map (·.fileName)).Nodup := by
  intro pipeline notes
  have within : earlier.length < pipeline.plugins.length := by simp [pipeline]
  have phases : ((pipeline.history compilation).filterMap
      (Moment.snapshot? earlier.length)).map (·.phase) =
        (pipeline.history compilation).filterMap fun moment =>
          moment.event.afterStage? earlier.length := by
    rw [List.map_filterMap]
    refine List.filterMap_congr fun moment _ => ?_
    rw [Moment.snapshot?, Option.map_map]
    exact Option.map_id'
  refine ⟨(events_run_traced pipeline compilation).symm, _,
    snapshots_run stagesSpare othersSpare compilation, ?_, ?_, ?_, ?_⟩
  · exact phases.trans (phases_called within compilation)
  · intro snapshot member
    rcases List.mem_filterMap.1 member with ⟨moment, among, taken⟩
    rcases Moment.snapshot?_eq_some_iff.1 taken with ⟨called, content⟩
    refine ⟨moment, among, called, ?_, ?_⟩
    · rw [content]
      rfl
    · rw [content]
      rfl
  · intro stagesReport othersReport
    exact pairwise_snapshots stagesReport othersReport compilation
  · refine StageSnapshot.nodup_fileNames ?_
    have distinct := nodup_called within compilation
    rw [← phases, List.map_map] at distinct
    exact distinct

/--
Three stages of one name report a warning each, and a plugin in front of the snapshots
aborts the run after the last of them.
-/
theorem run_adds_snapshots_until_abort :
    let report (id : UInt32) : Stage Compilation :=
      { phase := ⟨"report", id⟩
        description := ""
        apply := fun compilation => (none, compilation.withSession
          (compilation.session.report ⟨.warning, "report", "seen", none⟩)) }
    let abort : Plugin Compilation :=
      { after := fun phase compilation =>
          (if phase.id = 9 then some (.aborted "enough") else none, compilation) }
    let stages := [report 1, report 2, report 9]
    let pipeline : Pipeline Compilation := ⟨stages, [abort] ++ .snapshot 7 :: [.timing 7]⟩
    let compilation : Compilation := { units := [⟨⟨"a.st", "x"⟩, .unparsed⟩] }
    (∀ stage ∈ stages, stage.apply.Spares 7 ∧ stage.apply.OnlyReports) ∧
    (∀ plugin ∈ [abort] ++ [Plugin.timing 7], plugin.Spares 7 ∧ plugin.OnlyReports) ∧
    (pipeline.run compilation).1 = some (.aborted "enough") ∧
    ∃ added : List StageSnapshot,
      (pipeline.run compilation).2.snapshots 7 = added ∧
      added.map (·.phase) = [⟨"report", 1⟩, ⟨"report", 2⟩] ∧
      added.map (·.diagnostics.length) = [1, 2] ∧
      (added.Pairwise fun first second => first.diagnostics <+: second.diagnostics) ∧
      (added.map (·.fileName)).Nodup := by
  intro report abort stages pipeline compilation
  have stagesReport : ∀ stage ∈ stages, stage.apply.Spares 7 ∧ stage.apply.OnlyReports := by
    have each : ∀ id, (report id).apply.Spares 7 ∧ (report id).apply.OnlyReports :=
      fun id => ⟨fun _ => rfl, fun _ => List.prefix_append _ _⟩
    exact List.forall_mem_cons.2 ⟨each 1, List.forall_mem_cons.2
      ⟨each 2, List.forall_mem_singleton.2 (each 9)⟩⟩
  have othersReport : ∀ plugin ∈ [abort] ++ [Plugin.timing 7],
      plugin.Spares 7 ∧ plugin.OnlyReports := by
    refine List.forall_mem_cons.2 ⟨⟨?_, ?_⟩, List.forall_mem_singleton.2
      ⟨Plugin.spares_timing 7 7, Plugin.onlyReports_timing 7⟩⟩
    · exact fun _ => ⟨fun _ => rfl, fun _ => rfl⟩
    · exact fun _ => ⟨fun _ => List.prefix_refl _, fun _ => List.prefix_refl _⟩
  rcases run_adds_snapshots (fun stage member => (stagesReport stage member).1)
    (fun plugin member => (othersReport plugin member).1) compilation with
    ⟨-, added, held, phases, -, ordered, names⟩
  have taken : added = (pipeline.run compilation).2.snapshots 7 := held.symm
  refine ⟨stagesReport, othersReport, by decide +kernel, added, held,
    phases.trans (by decide +kernel), ?_, ?_, names⟩
  · rw [taken]
    decide +kernel
  · exact ordered (fun stage member => (stagesReport stage member).2)
      fun plugin member => (othersReport plugin member).2

end Pipeline

end StagePipeline
