import StagePipeline.Settings
import StagePipeline.Settings.Problem

/-!
# The fields of the settings

Each group of settings is a list of fields, each with its name and the way its
value changes the group; the order of the list is the order of the fields where
they have no names.  `δ` is a kind of document and `ε` what can be wrong with
one, so the same fields are read from documents of every format.
-/

namespace StagePipeline

/-- A named part of a group `σ` of settings. -/
structure Field (δ ε σ : Type) where
  name : String
  read : δ → σ → Except ε σ

/-- How documents of one format hold the values of settings. -/
structure ScalarReader (δ ε : Type) where
  /-- A natural number of 64 bits, with the words for what was expected. -/
  word : String → δ → Except ε UInt64
  /-- A natural number of 64 bits that may be left out. -/
  word? : String → δ → Except ε (Option UInt64)
  truth : δ → Except ε Bool
  /-- One of some names. -/
  name : List String → δ → Except ε String

namespace ExecutionMode

/-- The names of all modes. -/
def names : List String :=
  [ExecutionMode.sequential.name, ExecutionMode.parallel.name]

/-- The mode with one of the names. -/
def ofName (name : String) : ExecutionMode :=
  if name = ExecutionMode.parallel.name then .parallel else .sequential

theorem ofName_name (mode : ExecutionMode) : ofName mode.name = mode := by
  cases mode <;> decide

end ExecutionMode

namespace FailurePolicy

/-- The names of all policies. -/
def names : List String :=
  [FailurePolicy.failFast.name, FailurePolicy.collect.name]

/-- The policy with one of the names. -/
def ofName (name : String) : FailurePolicy :=
  if name = FailurePolicy.collect.name then .collect else .failFast

theorem ofName_name (policy : FailurePolicy) : ofName policy.name = policy := by
  cases policy <;> decide

end FailurePolicy

namespace StageKind

/-- The names of all kinds. -/
def names : List String :=
  all.map name

/-- The kind with one of the names. -/
def ofName (name : String) : StageKind :=
  if name = StageKind.check.name then .check else .parse

theorem ofName_name (kind : StageKind) : ofName kind.name = kind := by
  cases kind <;> decide

end StageKind

section

variable {δ ε : Type}

/-- The fields of the options of the parse stage. -/
def ParseOptions.fields (reader : ScalarReader δ ε) : List (Field δ ε ParseOptions) :=
  [⟨"mode", fun document options => (reader.name ExecutionMode.names document).map
      fun name => { options with mode := .ofName name }⟩,
   ⟨"workers", fun document options => (reader.word "usize" document).map
      fun workers => { options with workers := workers }⟩,
   ⟨"on_error", fun document options => (reader.name FailurePolicy.names document).map
      fun name => { options with onError := .ofName name }⟩,
   ⟨"recover", fun document options => (reader.truth document).map
      fun recover => { options with recover := recover }⟩,
   ⟨"timeout_ms", fun document options => (reader.word? "u64" document).map
      fun limit => { options with timeoutMilliseconds := limit }⟩]

/-- The fields of the options of the check stage. -/
def CheckOptions.fields (reader : ScalarReader δ ε) : List (Field δ ε CheckOptions) :=
  [⟨"max_depth", fun document options => (reader.word "usize" document).map
      fun depth => { options with maxDepth := depth }⟩]

end

end StagePipeline
