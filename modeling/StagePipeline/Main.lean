import StagePipeline.Command.Run

/-!
# The program

The program reads what its command line names from the file system into a file
tree, runs the command on that tree, shows what the run gives and writes the
files and folders that the run has added.  The clock of a run is read once, when
the run begins.  Workers take their turns in one thread, so any number of them can
be started.
-/

namespace StagePipeline.Terminal

/-- The path of some names from the root of the file system. -/
def pathOf (names : List String) : String :=
  "/" ++ String.intercalate "/" names

/-- The tree with what stands under some names in the file system; and whether that is a folder. -/
def loadPlace (tree : FileTree) (names : List String) : IO (FileTree × Bool) := do
  let place ← try IO.FS.realPath (pathOf names) catch _ => pure (pathOf names)
  if ← place.isDir then
    return (tree.put names .folder, true)
  else if ← place.pathExists then
    return (tree.put names (.file (← IO.FS.readBinFile place)), false)
  else
    return (tree, false)

/-- The tree with what stands under a path and all folders on the way. -/
def load (tree : FileTree) (path : String) : IO FileTree := do
  let mut tree := tree
  let mut names := if path.startsWith "/" then [] else tree.current
  for name in path.splitOn "/" do
    if name == ".." then
      names := names.dropLast
    else if !name.isEmpty && name != "." then
      names := names ++ [name]
      let (loaded, isFolder) ← loadPlace tree names
      tree := loaded
      if !isFolder then
        break
  return tree

/-- The paths that a command line may make a run look at. -/
def pathsIn (arguments : List String) : List String :=
  match Request.ofArguments? arguments with
  | some (.run config (.parse files _ _)) => config :: files
  | some (.run config (.check files folder)) => config :: files ++ folder.toList
  | some (.run config .stages) => [config]
  | _ => []

/-- Write the entries that a tree has beyond another one. -/
def save (old new : FileTree) : IO Unit := do
  for (names, entry) in new.entries do
    if old.entries.lookup names != some entry then
      match entry with
      | .folder => IO.FS.createDirAll (pathOf names)
      | .file content => IO.FS.writeBinFile (pathOf names) content

/-- Run a command line in the current folder. -/
def run (arguments : List String) : IO UInt32 := do
  let folder ← IO.currentDir
  let here : FileTree := { current := (folder.toString.splitOn "/").filter (!·.isEmpty) }
  let files ← (pathsIn arguments).foldlM load here
  let clock := Clock.standing (← IO.monoNanosNow)
  let outcome := Command.run arguments files clock fun _ => true
  save files outcome.files
  IO.print outcome.output
  IO.eprint outcome.warnings
  return outcome.exitCode

end StagePipeline.Terminal

/-- The program: run the command line and give its exit code. -/
def main (arguments : List String) : IO UInt32 := do
  try
    StagePipeline.Terminal.run arguments
  catch error =>
    IO.eprintln s!"error: {error}"
    return 1
