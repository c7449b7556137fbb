import StagePipeline.Span
import StagePipeline.Toml.Scalar

/-!
# Tables of TOML documents

A table holds values under keys that are all different, and every key and value
has the span that it takes in the document.  How a table came about decides what
may still be added to it: a table in braces is complete, one with a header of
its own takes entries from no other place, one that keys with dots pass through
takes more entries by such keys, and one that only headers pass through can
still get a header of its own.

`addEntry` adds the value of a key in some table, and `addSection` what stands
under a header.
-/

namespace StagePipeline.Toml

/-- A key as it is written at some place. -/
structure Key where
  name : String
  span : Span
  deriving DecidableEq, Repr

/-- How a table came about. -/
inductive Origin where
  /-- In braces. -/
  | braces
  /-- With a header of its own. -/
  | header
  /-- On the way to the table of a header. -/
  | headerPath
  /-- On the way to the value of a key with dots. -/
  | keyPath
  deriving DecidableEq, Repr

/-- Whether a table exists only because something passed through it. -/
def Origin.isPassed : Origin → Bool
  | .headerPath | .keyPath => true
  | .braces | .header => false

/-- A value with its span; the items of some lists are tables with headers. -/
inductive Value where
  | scalar (value : Scalar) (span : Span)
  | list (items : List Value) (headers : Bool) (span : Span)
  | table (entries : List (Key × Value)) (origin : Origin) (span : Span)
  deriving Repr

namespace Value

/-- Where a value stands. -/
def span : Value → Span
  | .scalar _ span => span
  | .list _ _ span => span
  | .table _ _ span => span

end Value

/-- The entries of a table in the order in which they were added. -/
abbrev Entries :=
  List (Key × Value)

namespace Entries

/-- The value under a name. -/
def find? (entries : Entries) (name : String) : Option Value :=
  (List.find? (fun entry => entry.1.name == name) entries).map (·.2)

/-- The entries without the one under a name. -/
def erase (entries : Entries) (name : String) : Entries :=
  List.filter (fun entry => entry.1.name != name) entries

/-- The entries with another value under a name that they have. -/
def replace (entries : Entries) (name : String) (value : Value) : Entries :=
  List.map (fun entry => if entry.1.name = name then (entry.1, value) else entry) entries

end Entries

/-- The entries of a table and how the table came about. -/
structure OpenTable where
  entries : Entries
  origin : Origin

/-- A list with its last item changed, unless there is none. -/
def changeLast? {α : Type} (change : α → Option α) : List α → Option (List α)
  | [] => none
  | [last] => (change last).map ([·])
  | first :: rest => (changeLast? change rest).map (first :: ·)

/-- The change of a table that a value is, unless the value is none. -/
def changeTable? (change : OpenTable → Option Entries) : Value → Option Value
  | .table entries origin span =>
    (change ⟨entries, origin⟩).map fun entries => .table entries origin span
  | _ => none

/-- Change the table that some keys lead to, with tables made where there are none.  `dotted` tells
the keys of a key with dots from those of a header. -/
def changeAt? (dotted : Bool) (change : OpenTable → Option Entries) :
    List Key → OpenTable → Option Entries
  | [], table => change table
  | key :: path, table =>
    match table.entries.find? key.name with
    | none =>
      let origin := if dotted then Origin.keyPath else Origin.headerPath
      (changeAt? dotted change path ⟨[], origin⟩).map fun entries =>
        table.entries ++ [(key, .table entries origin key.span)]
    | some (.table entries origin span) =>
      if origin = .braces ∨ (dotted ∧ !origin.isPassed) then none
      else
        (changeAt? dotted change path ⟨entries, origin⟩).map fun entries =>
          table.entries.replace key.name (.table entries origin span)
    | some (.list items true span) =>
      (changeLast? (changeTable? (changeAt? dotted change path)) items).map fun items =>
        table.entries.replace key.name (.list items true span)
    | some _ => none

/-- A key, perhaps with keys before it that lead to its table, and its value. -/
structure Entry where
  path : List Key
  key : Key
  value : Value

/-- The entries of a table with one more, unless there is one under its key. -/
def addEntry (entry : Entry) (table : OpenTable) : Option Entries :=
  let dotted := !entry.path.isEmpty
  let add (target : OpenTable) : Option Entries :=
    if dotted ∧ target.origin ≠ .keyPath then none
    else if (target.entries.find? entry.key.name).isSome then none
    else some (target.entries ++ [(entry.key, entry.value)])
  changeAt? dotted add entry.path table

/-- The entries of a table of some origin with some more. -/
def addEntries (origin : Origin) (entries : Entries) (more : List Entry) : Option Entries :=
  more.foldlM (fun entries entry => addEntry entry ⟨entries, origin⟩) entries

/-- A header in brackets, double ones if the table is the next item of a list. -/
structure Header where
  path : List Key
  key : Key
  isItem : Bool
  span : Span

/-- A header and what stands under it. -/
structure Section where
  header : Header
  entries : List Entry

/-- The entries of the root table with the table of a section. -/
def addSection (root : Entries) (part : Section) : Option Entries :=
  let header := part.header
  let add (parent : OpenTable) : Option Entries := do
    match parent.entries.find? header.key.name, header.isItem with
    | none, isItem =>
      let entries ← addEntries .header [] part.entries
      let table := Value.table entries .header header.span
      return parent.entries ++
        [(header.key, if isItem then .list [table] true header.span else table)]
    | some (.list items true span), true =>
      let entries ← addEntries .header [] part.entries
      let items := items ++ [.table entries .header header.span]
      return parent.entries.replace header.key.name (.list items true span)
    | some (.table old .headerPath _), false =>
      let entries ← addEntries .header old part.entries
      return parent.entries.erase header.key.name ++
        [(header.key, .table entries .header header.span)]
    | some _, _ => none
  changeAt? false add header.path ⟨root, .header⟩

end StagePipeline.Toml
