import StagePipeline.Config.FromToml

/-!
# Configuration files

A configuration file is a path together with the text found there and the
configuration in it.  Where there is no file the standard configuration takes
its place, and only then.
-/

namespace StagePipeline

/-- A configuration with the path and the text it comes from. -/
structure ConfigFile where
  path : String
  content : String
  config : Config
  deriving DecidableEq, Repr

namespace ConfigFile

/-- The configuration file under a path. -/
def read (files : FileTree) (path : String) : Except ConfigError ConfigFile :=
  match files.readText path with
  | .error error => .error (.unreadable path error)
  | .ok content => (Config.ofToml content).map fun config => ⟨path, content, config⟩

/-- The configuration file under a path, or the standard configuration if there is no file. -/
def readOrDefault (files : FileTree) (path : String) : Except ConfigError ConfigFile :=
  match read files path with
  | .error error => if error.isMissing then .ok ⟨path, "", {}⟩ else .error error
  | .ok file => .ok file

end ConfigFile

end StagePipeline
