import StagePipeline.Config

/-!
# Command lines

A command line is read word by word.  Before the command there may be an option
for the configuration, or one that asks for the version or for help and settles
the matter at once; after the command come its own options and its operands, and
the option for the configuration again.  `--` ends the options.

An option is given at most once before the command and once after it, where the
second place wins.  A value is not empty, and as a word of its own it begins
with `-` only if that is all of it.
-/

namespace StagePipeline

/-- A command with its operands. -/
inductive Command where
  | parse (files : List String) (showTrees showTimings : Bool)
  | check (files : List String) (folder : Option String)
  | stages
  | completions (shell : String)
  deriving DecidableEq, Repr

/-- What a command line asks for. -/
inductive Request where
  | version
  | help
  | run (configPath : String) (command : Command)
  deriving DecidableEq, Repr

namespace Command

/-- The kinds of commands. -/
inductive Kind where
  | parse
  | check
  | stages
  | completions
  deriving DecidableEq, Repr

namespace Kind

/-- All kinds of commands. -/
def all : List Kind :=
  [.parse, .check, .stages, .completions]

/-- The word for a command. -/
def name : Kind → String
  | .parse => "parse"
  | .check => "check"
  | .stages => "stages"
  | .completions => "completions"

/-- The command with a name. -/
def ofName? (name : String) : Option Kind :=
  all.find? (·.name == name)

end Kind

/-- The shells that completions can be made for. -/
def shells : List String :=
  ["bash", "elvish", "fish", "powershell", "zsh"]

/-- What can be said about a command by options. -/
inductive Setting where
  | config
  | trees
  | timings
  | folder
  deriving DecidableEq, Repr

namespace Setting

/-- Whether the option takes a value. -/
def takesValue : Setting → Bool
  | .config | .folder => true
  | .trees | .timings => false

/-- The name of the option. -/
def name : Setting → String
  | .config => "config"
  | .trees => "tree"
  | .timings => "timings"
  | .folder => "snapshot-dir"

/-- The options of a command, or those before any command. -/
def available : Option Kind → List Setting
  | some .parse => [.config, .trees, .timings]
  | some .check => [.config, .folder]
  | _ => [.config]

end Setting

/-- The options and operands read so far on one side of the command. -/
structure Given where
  settings : List (Setting × String) := []
  operands : List String := []
  deriving DecidableEq, Repr

namespace Given

/-- The value of an option. -/
def value? (given : Given) (setting : Setting) : Option String :=
  given.settings.lookup setting

/-- Whether an option is given. -/
def has (given : Given) (setting : Setting) : Bool :=
  (given.value? setting).isSome

/-- One more option, unless it is there already or has an empty value. -/
def withSetting? (given : Given) (setting : Setting) (value : String) : Option Given :=
  if given.has setting || (setting.takesValue && value.isEmpty) then none
  else some { given with settings := given.settings ++ [(setting, value)] }

/-- One more operand, unless the command has no place for it. -/
def withOperand? (given : Given) (kind : Kind) (operand : String) : Option Given :=
  let fits := match kind with
    | .parse | .check => !operand.isEmpty
    | .stages => false
    | .completions => given.operands.isEmpty && shells.contains operand
  if fits then some { given with operands := given.operands ++ [operand] } else none

end Given

/-- What a word of a command line is. -/
inductive Word where
  /-- `--`. -/
  | terminator
  | askHelp
  | askVersion
  /-- An option, with its value if that is in the same word. -/
  | option (setting : Setting) (value : Option String)
  | operand (text : String)
  /-- No option of the command. -/
  | unknown
  deriving DecidableEq, Repr

namespace Word

/-- The name of a long option and the value behind `=`. -/
def splitLong (letters : List Char) : String × Option String :=
  let name := String.ofList (letters.takeWhile (· != '='))
  match letters.dropWhile (· != '=') with
  | [] => (name, none)
  | _ :: value => (name, some (String.ofList value))

/-- A word that begins with `--`. -/
def ofLong (kind : Option Kind) (letters : List Char) : Word :=
  match splitLong letters with
  | ("help", none) => .askHelp
  | ("version", none) => if kind.isNone then .askVersion else .unknown
  | (name, value) =>
    match (Setting.available kind).find? (·.name == name) with
    | some setting =>
      if setting.takesValue || value.isNone then .option setting value else .unknown
    | none => .unknown

/-- A word that begins with one `-`. -/
def ofShort (kind : Option Kind) (letters : List Char) : Word :=
  match letters with
  | 'h' :: _ => .askHelp
  | 'V' :: _ => if kind.isNone then .askVersion else .unknown
  | ['c'] => .option .config none
  | 'c' :: '=' :: value => .option .config (some (String.ofList value))
  | 'c' :: value => .option .config (some (String.ofList value))
  | _ => .unknown

/-- What a word is while options are still allowed. -/
def ofText (kind : Option Kind) (text : String) : Word :=
  match text.toList with
  | ['-', '-'] => .terminator
  | '-' :: '-' :: letters => ofLong kind letters
  | ['-'] => .operand text
  | '-' :: letters => ofShort kind letters
  | _ => .operand text

/-- Whether a word can be the value of the option before it. -/
def isValue (text : String) : Bool :=
  text == "-" || !text.startsWith "-"

end Word

/-- How reading the words behind a command, or before one, ended. -/
inductive Ending where
  /-- There were no more words. -/
  | finished (given : Given)
  /-- A word is neither an option nor a value, and other words follow. -/
  | command (given : Given) (name : String) (rest : List String)
  | version
  | help
  deriving DecidableEq, Repr

/-- Read the words before a command, or behind a command of some kind.  `waiting` is an option whose
value has to come next, and `open?` says whether there may still be options. -/
def readWords (kind : Option Kind) (open? : Bool) (waiting : Option Setting) (given : Given) :
    List String → Option Ending
  | [] => if waiting.isSome then none else some (.finished given)
  | text :: rest =>
    match waiting with
    | some setting =>
      if Word.isValue text then
        match given.withSetting? setting text with
        | some given => readWords kind open? none given rest
        | none => none
      else none
    | none =>
      match if open? then Word.ofText kind text else .operand text with
      | .terminator => readWords kind false none given rest
      | .askHelp => some .help
      | .askVersion => some .version
      | .unknown => none
      | .option setting value =>
        if setting.takesValue && value.isNone then readWords kind true (some setting) given rest
        else
          match given.withSetting? setting (value.getD "") with
          | some given => readWords kind true none given rest
          | none => none
      | .operand text =>
        match kind with
        | none => if open? then some (.command given text rest) else none
        | some found =>
          match given.withOperand? found text with
          | some given => readWords kind open? none given rest
          | none => none

/-- The command of a kind with what was given for it, unless an operand is missing. -/
def ofGiven? (kind : Kind) (given : Given) : Option Command :=
  match kind, given.operands with
  | .stages, _ => some .stages
  | _, [] => none
  | .parse, files => some (.parse files (given.has .trees) (given.has .timings))
  | .check, files => some (.check files (given.value? .folder))
  | .completions, shell :: _ => some (.completions shell)

end Command

namespace Request

/-- What a command line asks for, unless it is no proper command line. -/
def ofArguments? (arguments : List String) : Option Request :=
  match Command.readWords none true none {} arguments with
  | none => none
  | some .version => some .version
  | some .help => some .help
  | some (.finished _) => none
  | some (.command _ "help" rest) =>
    if rest.all fun name => (Command.Kind.ofName? name).isSome then some .help else none
  | some (.command before name rest) => do
    let kind ← Command.Kind.ofName? name
    match ← Command.readWords (some kind) true none {} rest with
    | .version => none
    | .help => return .help
    | .command _ _ _ => none
    | .finished after =>
      let command ← Command.ofGiven? kind after
      let path := (after.value? .config).getD ((before.value? .config).getD Config.fileName)
      return .run path command

end Request

end StagePipeline
