import StagePipeline.Pipeline.Run
import StagePipeline.Pipeline.Snapshot
import StagePipeline.Stage.Check
import StagePipeline.Stage.Workers

/-!
# Compilations

The state that the stages and plugins of a compilation act on: the batch, the
services of the run, the files, and what plugins keep for themselves.  A plugin
that keeps something does so in a slot of its own, which is a number.

The parse and check stages become stages of a pipeline here, and a list of stage
kinds becomes a pipeline whose phases are numbered from one.
-/

namespace StagePipeline

/-- A batch of units, the services of their run, the files, and what plugins keep. -/
structure Compilation where
  units : List CompilationUnit := []
  services : Services := {}
  files : FileTree := {}
  /-- Lines that plugins of a caller have written; none of those here writes any. -/
  notes : List String := []
  /-- Snapshots held in memory, each with the slot of the plugin that took it. -/
  kept : List (Nat × StageSnapshot) := []
  /-- When stages began, each with the slot of the plugin that looked at the clock. -/
  begun : List (Nat × Instant) := []

namespace Compilation

/-- The session of the run. -/
def session (compilation : Compilation) : Session :=
  compilation.services.session

/-- The compilation with another session. -/
def withSession (compilation : Compilation) (session : Session) : Compilation :=
  { compilation with services := { compilation.services with session := session } }

/-- How many units have a tree. -/
def parsedCount (compilation : Compilation) : Nat :=
  compilation.units.countP (·.isParsed)

/-- The snapshots that a plugin holds in memory. -/
def snapshots (compilation : Compilation) (slot : Nat) : List StageSnapshot :=
  compilation.kept.filterMap fun (owner, snapshot) =>
    if owner = slot then some snapshot else none

end Compilation

/-- The parse stage as a stage of a pipeline. -/
def ParseStage.toStage (stage : ParseStage) : Stage Compilation where
  phase := stage.phase
  description := ParseStage.description
  apply compilation :=
    let walk := stage.apply compilation.units compilation.services
    (walk.error?.map .stage, { compilation with units := walk.units, services := walk.services })

/-- The check stage as a stage of a pipeline. -/
def CheckStage.toStage (stage : CheckStage) : Stage Compilation where
  phase := stage.phase
  description := CheckStage.description
  apply compilation :=
    let (error?, session) := stage.apply compilation.units compilation.session
    (error?.map .stage, compilation.withSession session)

namespace StageKind

/-- The parse stage of some settings, with a token of the family `id`. -/
def parseStage (id : UInt32) (settings : StageSettings) : ParseStage where
  phase := ⟨StageKind.parse.name, id⟩
  factory := .program { recover := settings.parse.recover }
  options := settings.parse
  token := { family := id.toNat }

/-- The check stage of some settings. -/
def checkStage (id : UInt32) (settings : StageSettings) : CheckStage :=
  .builtIn ⟨StageKind.check.name, id⟩ settings.check

/-- The stage of a kind as the phase number `id`. -/
def build (id : UInt32) (settings : StageSettings) : StageKind → Stage Compilation
  | .parse => (parseStage id settings).toStage
  | .check => (checkStage id settings).toStage

end StageKind

namespace Pipeline

/-- The stages of some kinds, numbered from one in order. -/
def assemble (kinds : List StageKind) (settings : StageSettings) : Pipeline Compilation where
  stages := kinds.zipIdx.map fun (kind, index) => kind.build (UInt32.ofNat (index + 1)) settings

end Pipeline

namespace Plugin

/-- Records how long each stage took, under `stage` and the name of the stage. -/
def timing (slot : Nat) : Plugin Compilation where
  before _ compilation :=
    (none, { compilation with
      services := compilation.services.tick
      begun := (slot, compilation.services.now) ::
        compilation.begun.filter fun (owner, _) => owner != slot })
  after phase compilation :=
    match compilation.begun.lookup slot with
    | none => (none, compilation)
    | some begun =>
      (none, { compilation with
        services := compilation.services.finish ⟨begun⟩ s!"stage {phase.name}"
        begun := compilation.begun.filter fun (owner, _) => owner != slot })

/-- The snapshot of a compilation after a phase. -/
def snapshotOf (phase : Phase) (compilation : Compilation) : StageSnapshot :=
  .take phase compilation.units compilation.session.diagnostics

/-- Holds a snapshot after each stage in memory. -/
def snapshot (slot : Nat) : Plugin Compilation where
  after phase compilation :=
    (none, { compilation with kept := compilation.kept ++ [(slot, snapshotOf phase compilation)] })

/-- Write a snapshot into a folder that exists. -/
def writeSnapshot (folder : String) (snapshot : StageSnapshot) (files : FileTree) :
    Option FileError × FileTree :=
  files.write (FileTree.join folder snapshot.fileName) (Json.ofSnapshot snapshot).pretty.toUTF8

/-- Write some snapshots into a folder that exists, up to the first that cannot be written. -/
def writeSnapshots (folder : String) :
    List StageSnapshot → FileTree → Option FileError × FileTree
  | [], files => (none, files)
  | snapshot :: rest, files =>
    match writeSnapshot folder snapshot files with
    | (some error, left) => (some error, left)
    | (none, files) => writeSnapshots folder rest files

/-- Write some snapshots into a folder, which is made if it is missing. -/
def writeToFolder (folder : String) (snapshots : List StageSnapshot) (files : FileTree) :
    Option FileError × FileTree :=
  match files.makeFolders folder with
  | (some error, left) => (some error, left)
  | (none, files) => writeSnapshots folder snapshots files

/-- Writes a snapshot after each stage into a folder. -/
def snapshotFolder (folder : String) : Plugin Compilation where
  after phase compilation :=
    let (error?, files) :=
      writeToFolder folder [snapshotOf phase compilation] compilation.files
    (error?.map .files, { compilation with files := files })

end Plugin

end StagePipeline
