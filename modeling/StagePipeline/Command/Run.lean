import StagePipeline.Command.Arguments
import StagePipeline.Config.File
import StagePipeline.Operation

/-!
# Running commands

A run looks at a file tree, a clock and a machine that may start workers, and gives
an exit code, what it shows and the files afterwards.  It loads the configuration before the sources, and shows
a report only if it gets one; otherwise it says what is wrong in one line.  The
exit code is 0 for success, 1 for a failure and 2 for an improper command line.
-/

namespace StagePipeline

/-- What a run leaves behind. -/
structure Outcome where
  exitCode : UInt32 := 0
  output : String := ""
  warnings : String := ""
  files : FileTree
  deriving DecidableEq

namespace Outcome

/-- A run that fails for a reason. -/
def failed (files : FileTree) (reason : String) : Outcome where
  exitCode := 1
  warnings := s!"error: {reason}\n"
  files := files

/-- A run that shows a report. -/
def reported (files : FileTree) (report : Report) (success : Bool) : Outcome where
  exitCode := if success then 0 else 1
  output := report.output
  warnings := report.warnings
  files := files

end Outcome

namespace Command

/-- The line that names the program and its version. -/
def versionLine : String :=
  "strata 0.1.0\n"

/-- How the program is used. -/
def usage : String :=
  "Usage: strata [--config PATH] COMMAND\n\n" ++
    "  parse FILES.. [--tree] [--timings]   parse files and print their trees\n" ++
    "  check FILES.. [--snapshot-dir DIR]   run the configured pipeline over files\n" ++
    "  stages                               list the stages of the pipeline\n" ++
    "  completions SHELL                    list the commands for a shell to complete\n"

/-- A unit for each of some files, in order; or the first that cannot be read. -/
def loadUnits (files : FileTree) : List String → Except String (List CompilationUnit)
  | [] => .ok []
  | path :: rest =>
    match files.readText path with
    | .error _ => .error s!"failed to read source '{path}'"
    | .ok text =>
      (loadUnits files rest).map fun units => { source := ⟨path, text⟩ } :: units

/-- The failure of a run in words. -/
def runFailure (error : RunError) : String :=
  match error with
  | .stage (.parse _ cause) => s!"{error.message}: {cause.message}"
  | error => error.message

/-- The compilation of some units on a file tree. -/
def compilation (files : FileTree) (clock : Clock) (startsWorkers : UInt64 → Bool)
    (units : List CompilationUnit) : Compilation where
  units := units
  services := { clock := clock, startsWorkers := startsWorkers }
  files := files

/-- Run a command under a configuration. -/
def runWith (command : Command) (file : ConfigFile) (files : FileTree) (clock : Clock)
    (startsWorkers : UInt64 → Bool) : Outcome :=
  match command with
  | .parse paths showTrees showTimings =>
    match loadUnits files paths with
    | .error reason => .failed files reason
    | .ok units =>
      match file.config.parse (compilation files clock startsWorkers units) with
      | .error (.run error) => .failed files (runFailure error)
      | .error .totalTooLong => .failed files "the times add up to more than can be told"
      | .ok report =>
        let shown := { report with showTrees := showTrees, showTimings := showTimings }
        .reported files shown.items report.failure.isNone
  | .check paths folder =>
    match loadUnits files paths with
    | .error reason => .failed files reason
    | .ok units =>
      match file.config.check folder (compilation files clock startsWorkers units) with
      | (.error error, after) => .failed after.files (runFailure error)
      | (.ok report, after) => .reported after.files report.items report.isValid
  | .stages => .reported files (file.config.describe file.path).items true
  | .completions _ =>
    { files := files, output := String.join (Kind.all.map fun kind => kind.name ++ "\n") }

/-- Run what a command line asks for. -/
def run (arguments : List String) (files : FileTree) (clock : Clock)
    (startsWorkers : UInt64 → Bool) : Outcome :=
  match Request.ofArguments? arguments with
  | none => { exitCode := 2, warnings := usage, files := files }
  | some .version => { output := versionLine, files := files }
  | some .help => { output := usage, files := files }
  | some (.run _ (.completions shell)) =>
    (Command.completions shell).runWith ⟨"", "", {}⟩ files clock startsWorkers
  | some (.run path command) =>
    match ConfigFile.readOrDefault files path with
    | .error error => .failed files error.message
    | .ok file => command.runWith file files clock startsWorkers

end Command

end StagePipeline
