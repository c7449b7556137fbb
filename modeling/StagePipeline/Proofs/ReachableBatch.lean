import StagePipeline.Proofs.ProgramStage
import StagePipeline.Stage.Check

/-!
# Batches that stages lead to

A batch goes through parse and check stages, in any order and any number of them.
`BatchStage.Applies` is one application of a stage, and `ReachableBatch` has the batches
that a list of stages may lead to, whoever stops a stage and whatever the session, the
clock and the cancelled tokens are when it begins.  What holds of all these batches
follows by induction on the stages.
-/

namespace StagePipeline

open Program

/-! ### Stages and batches -/

/-- A stage that a batch is put through; a parse stage with the options of its parsers. -/
inductive BatchStage where
  | parse (stage : ParseStage) (options : ParserOptions)
  | check (stage : CheckStage)

namespace BatchStage

/-- A parser of the stage may build the tree from the source. -/
def MayBuild : BatchStage → SourceFile → SyntaxTree → Prop
  | .parse _ options, source, tree => options.MayBuild source tree
  | .check _, _, _ => False

/--
What an application of a stage to some units may leave them as, and what it may fail
with.  The session, the clock and the tokens cancelled before are arbitrary, and a
check stage has built-in lints only.
-/
inductive Applies (units : List CompilationUnit) :
    BatchStage → List CompilationUnit → Option StageError → Prop
  | parse {stage : ParseStage} {options : ParserOptions} {services : Services}
    {walk : ParseStage.Walk} (program : stage.factory = .program options)
    (applied : stage.Applied options units services walk) :
    Applies units (.parse stage options) walk.units walk.error?
  | check {stage : CheckStage}
    (builtIn : ∀ lint ∈ stage.lints, ∃ maxDepth, lint ∈ Lint.builtIn maxDepth)
    (session : Session) : Applies units (.check stage) units (stage.apply units session).1

end BatchStage

/-- The batches that some stages may lead to, one after the other. -/
inductive ReachableBatch (start : List CompilationUnit) :
    List BatchStage → List CompilationUnit → Prop
  | start : ReachableBatch start [] start
  | applied {stages : List BatchStage} {units : List CompilationUnit}
    (reached : ReachableBatch start stages units) {stage : BatchStage}
    {after : List CompilationUnit} {error? : Option StageError}
    (applies : stage.Applies units after error?) : ReachableBatch start (stages ++ [stage]) after

/-! ### Reachable batches -/

theorem CompilationUnit.ReplacedBy.trans_all {made : SourceFile → SyntaxTree → Prop}
    {before middle after : List CompilationUnit}
    (first : List.Forall₂ (CompilationUnit.ReplacedBy made) before middle)
    (second : List.Forall₂ (CompilationUnit.ReplacedBy made) middle after) :
    List.Forall₂ (CompilationUnit.ReplacedBy made) before after := by
  induction first generalizing after with
  | nil => exact second
  | cons here later inductive_hypothesis =>
    cases second with
    | cons there others => exact .cons (here.trans there) (inductive_hypothesis others)

/-- Every position that a stage may look up in the source of the unit is there. -/
structure CompilationUnit.Locatable (unit : CompilationUnit) : Prop where
  lints : ∀ tree, unit.body = .parsed tree → ∀ maxDepth,
    (∀ offset ∈ Lint.lookups maxDepth tree, unit.source.IsBoundary offset) ∧
      ∀ lint ∈ Lint.builtIn maxDepth, ∃ findings, lint.check unit.source tree = some findings
  errors : ∀ options answer, ParserOptions.MayAnswer options unit.source answer →
    ∀ error ∈ reportedErrors answer,
      (∀ offset, error.offset? = some offset → unit.source.IsBoundary offset) ∧
        ∀ stage : ParseStage, ∃ diagnostic,
          stage.diagnostic? unit.source error = some diagnostic

namespace CheckStage

variable {stage : CheckStage}

theorem exists_findings?
    (builtIn : ∀ lint ∈ stage.lints, ∃ maxDepth, lint ∈ Lint.builtIn maxDepth)
    {unit : CompilationUnit} (locatable : unit.Locatable) :
    ∃ findings, stage.findings? unit = some findings := by
  cases body : unit.body with
  | unparsed =>
    rw [findings?, CompilationUnit.tree?, body]
    exact ⟨_, rfl⟩
  | parsed tree =>
    have each : ∀ lint ∈ stage.lints, ∃ found, lint.check unit.source tree = some found := by
      intro lint member
      rcases builtIn lint member with ⟨maxDepth, among⟩
      exact (locatable.lints tree body maxDepth).2 lint among
    rcases Lint.exists_mapM each with ⟨found, all⟩
    rw [findings?, CompilationUnit.tree?, body]
    exact ⟨found.flatten, congrArg (Option.map List.flatten) all⟩

theorem stopped_check {units : List CompilationUnit}
    (found : ∀ unit ∈ units, ∃ findings, stage.findings? unit = some findings) (errors : Nat)
    (session : Session) : (stage.check errors units session).stopped = none := by
  induction units generalizing errors session with
  | nil => rfl
  | cons unit rest inductive_hypothesis =>
    rcases found unit List.mem_cons_self with ⟨findings, here⟩
    rw [check, here]
    exact inductive_hypothesis (fun other member => found other (List.mem_cons_of_mem _ member)) _ _

theorem apply_located {units : List CompilationUnit}
    (found : ∀ unit ∈ units, ∃ findings, stage.findings? unit = some findings)
    (session : Session) (name : String) :
    (stage.apply units session).1 ≠ some (.unlocatable name) := by
  simp only [apply, stopped_check found]
  split <;> exact nofun

end CheckStage

namespace ReachableBatch

variable {start units : List CompilationUnit} {stages : List BatchStage}

/-- Some stage of a list may build the tree from the source. -/
def MayBuild (stages : List BatchStage) (source : SourceFile) (tree : SyntaxTree) : Prop :=
  ∃ stage ∈ stages, stage.MayBuild source tree

theorem replaced (reached : ReachableBatch start stages units) :
    List.Forall₂ (CompilationUnit.ReplacedBy (MayBuild stages)) start units := by
  induction reached with
  | start => exact List.forall₂_same.2 fun unit _ => .refl _ unit
  | @applied stages units reached stage after error? applies inductive_hypothesis =>
    have earlier : List.Forall₂ (CompilationUnit.ReplacedBy (MayBuild (stages ++ [stage]))) start
        units := inductive_hypothesis.imp fun _ _ replaced =>
      replaced.mono fun _ _ ⟨other, member, built⟩ => ⟨other, List.mem_append_left _ member, built⟩
    cases applies with
    | check builtIn session => exact earlier
    | parse program applied =>
      refine CompilationUnit.ReplacedBy.trans_all earlier ?_
      exact applied.sound.replaced.imp fun _ _ replaced => replaced.mono fun _ _ built =>
        ⟨_, List.mem_append_right _ (List.mem_singleton_self _), built⟩

end ReachableBatch

namespace CompilationUnit.ReplacedBy

variable {made : SourceFile → SyntaxTree → Prop} {before after : List CompilationUnit}
  (replaced : List.Forall₂ (CompilationUnit.ReplacedBy made) before after)

include replaced

theorem map_source_eq : after.map (·.source) = before.map (·.source) := by
  induction replaced with
  | nil => rfl
  | cons here later inductive_hypothesis =>
    rw [List.map_cons, List.map_cons, here.source_eq, inductive_hypothesis]

/-- Units that had no tree have one that was made of their source, or none. -/
theorem body_cases (fresh : ∀ unit ∈ before, unit.body = .unparsed) :
    ∀ unit ∈ after, unit.body = .unparsed ∨
      ∃ tree, unit.body = .parsed tree ∧ made unit.source tree := by
  induction replaced with
  | nil => exact nofun
  | cons here later inductive_hypothesis =>
    rcases List.forall_mem_cons.1 fresh with ⟨first, rest⟩
    refine List.forall_mem_cons.2 ⟨?_, inductive_hypothesis rest⟩
    rcases here with rfl | ⟨tree, built, rfl⟩
    · exact .inl first
    · exact .inr ⟨tree, rfl, built⟩

end CompilationUnit.ReplacedBy

namespace ReachableBatch

variable {sources : List SourceFile} {stages : List BatchStage} {units : List CompilationUnit}

/-- Units without a tree of a stage of the list have no tree at all. -/
theorem body_cases (reached : ReachableBatch (sources.map ({ source := · })) stages units) :
    ∀ unit ∈ units, unit.body = .unparsed ∨
      ∃ tree, unit.body = .parsed tree ∧ MayBuild stages unit.source tree := by
  refine CompilationUnit.ReplacedBy.body_cases reached.replaced fun unit member => ?_
  rcases List.mem_map.1 member with ⟨source, _, rfl⟩
  rfl

theorem locatable (reached : ReachableBatch (sources.map ({ source := · })) stages units) :
    ∀ unit ∈ units, unit.Locatable := by
  intro unit member
  constructor
  · intro tree parsed maxDepth
    have begins : tree.BeginsIn unit.source := by
      rcases reached.body_cases unit member with unparsed | ⟨other, same, stage, _, built⟩
      · exact nomatch unparsed.symm.trans parsed
      · rcases Body.parsed.inj (same.symm.trans parsed)
        cases stage with
        | parse stage options => exact ParserOptions.MayBuild.beginsIn built
        | check stage => exact built.elim
    have located : ∀ offset ∈ Lint.lookups maxDepth tree, unit.source.IsBoundary offset :=
      fun _ looked => Lint.isBoundary_of_mem_lookups begins looked
    exact ⟨located, fun lint builtIn => Lint.exists_findings located builtIn⟩
  · intro options answer given error reported
    exact ⟨given.placed error reported, fun stage => stage.exists_diagnostic given reported⟩

theorem located (reached : ReachableBatch (sources.map ({ source := · })) stages units)
    {stage : BatchStage} {after : List CompilationUnit} {error? : Option StageError}
    (applies : stage.Applies units after error?) (name : String) :
    error? ≠ some (.unlocatable name) := by
  cases applies with
  | parse program applied => exact applied.sound.error? name
  | check builtIn session =>
    exact CheckStage.apply_located (fun unit member =>
      CheckStage.exists_findings? builtIn (reached.locatable unit member)) session name

end ReachableBatch

/--
Reachable batches are sound.  Whatever parse and check stages a batch of new units has
been put through, whoever stopped them, each unit has its source, and either no tree
or one that a parser of these stages builds from the source.  A unit that has a tree
keeps having one.  Every position that a lint or a stage may look up is there, at a
boundary of the characters, so no task of a worker ever misses one and no stage ends
for that reason.
-/
theorem reachable_batches_are_sound {sources : List SourceFile} {stages : List BatchStage}
    {units : List CompilationUnit}
    (reached : ReachableBatch (sources.map ({ source := · })) stages units) :
    units.map (·.source) = sources ∧
      (∀ unit ∈ units, unit.body = .unparsed ∨
        ∃ tree, unit.body = .parsed tree ∧ ∃ stage ∈ stages, stage.MayBuild unit.source tree) ∧
      (∀ more later, ReachableBatch units more later →
        List.Forall₂ (fun before after : CompilationUnit =>
          before.isParsed = true → after.isParsed = true) units later) ∧
      (∀ unit ∈ units, unit.Locatable) ∧
      (∀ stage options token services pool,
        ParseStage.Pool.Reaches stage options token (.ofUnits units services) pool →
          ∀ task ∈ pool.tasks, task.progress.failure? ≠ some .unlocatable) ∧
      ∀ stage after error?, BatchStage.Applies units stage after error? →
        ∀ name, error? ≠ some (.unlocatable name) := by
  refine ⟨?_, reached.body_cases, ?_, reached.locatable, ?_, fun _ _ _ applies =>
    reached.located applies⟩
  · rw [CompilationUnit.ReplacedBy.map_source_eq reached.replaced, List.map_map]
    exact List.map_id sources
  · intro more later onwards
    exact onwards.replaced.imp fun _ _ replaced => replaced.isParsed
  · intro stage options token services pool worked task member failed
    rcases ParseStage.Pool.exists_sound worked.sound member with ⟨unit, sound⟩
    rcases sound.rejected failed with ⟨error, same, _⟩
    exact nomatch same

/-- A division by zero and a character that is not allowed, parsed and then checked. -/
theorem reachable_batches_are_sound_checked :
    let sources : List SourceFile := [⟨"a.st", "1 / (0)"⟩, ⟨"b.st", "é ?"⟩]
    let options : ParserOptions := {}
    let parse : ParseStage :=
      { phase := ⟨"parse", 1⟩, factory := .program options,
        options := { onError := .collect }, token := ⟨0, none⟩ }
    let check := CheckStage.builtIn ⟨"check", 2⟩ {}
    let units := (parse.apply (sources.map ({ source := · })) {}).units
    ReachableBatch (sources.map ({ source := · })) [.parse parse options, .check check] units ∧
      units.map (·.isParsed) = [true, false] ∧
      units.map (·.source) = sources ∧
      (∀ unit ∈ units, unit.Locatable) ∧
      ∀ session name, (check.apply units session).1 ≠ some (.unlocatable name) := by
  intro sources options parse check units
  have builtIn : ∀ lint ∈ check.lints, ∃ maxDepth, lint ∈ Lint.builtIn maxDepth :=
    fun lint member => ⟨_, member⟩
  have applied : parse.Applied options (sources.map ({ source := · })) {} _ :=
    ParseStage.applied_apply (ParserFactory.isProgram_program options) _ {}
  have parsed : ReachableBatch (sources.map ({ source := · })) [.parse parse options] units :=
    .applied .start (.parse rfl applied)
  have reached : ReachableBatch (sources.map ({ source := · }))
      [.parse parse options, .check check] units :=
    parsed.applied (.check builtIn {})
  rcases reachable_batches_are_sound reached with ⟨kept, _, _, locatable, _, located⟩
  refine ⟨reached, by decide +kernel, kept, locatable, fun session => ?_⟩
  exact located _ _ _ (.check builtIn session)

end StagePipeline
