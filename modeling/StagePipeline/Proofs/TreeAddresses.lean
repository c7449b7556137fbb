import Mathlib.Data.List.Flatten
import Mathlib.Data.List.Lex
import StagePipeline.Program.Tree

/-!
# Addresses in a tree

An address says how to come to a node: a number for each step, which names a part of the
node that has been reached, from left to right; in a program the first number is that of the
statement.  Equal nodes at different places have different addresses, so addresses tell the
occurrences of a name apart whatever its spans are.

Addresses in lexicographic order list the nodes of a tree parents first and from left to
right.  `addressed` is that list, and without the addresses it is the list of expressions
that a search through the tree goes over.
-/

namespace StagePipeline.Program

/-! ### Entries in the order of their addresses -/

/-- The address comes first in lexicographic order: it is a beginning, or goes further left. -/
def Precedes : List Nat → List Nat → Prop :=
  List.Lex (· < ·)

/-- The entries are listed in the order of their addresses, and none is listed twice. -/
def Ascending {α : Type} (entries : List (List Nat × α)) : Prop :=
  entries.Pairwise fun first second => Precedes first.1 second.1

/-- What a search finds in the entries, each with the address of its entry. -/
def selected {α β : Type} (entries : List (List Nat × α)) (select : List Nat → α → Option β) :
    List (List Nat × β) :=
  entries.filterMap fun place => (select place.1 place.2).map fun found => (place.1, found)

section Selected

variable {α β : Type} {entries : List (List Nat × α)} {select : List Nat → α → Option β}

theorem mem_selected_iff {address : List Nat} {found : β} :
    (address, found) ∈ selected entries select ↔
      ∃ entry, (address, entry) ∈ entries ∧ select address entry = some found := by
  constructor
  · intro member
    rcases List.mem_filterMap.1 member with ⟨⟨place, entry⟩, among, finds⟩
    rcases Option.map_eq_some_iff.1 finds with ⟨other, selects, same⟩
    rcases Prod.mk.inj same with ⟨rfl, rfl⟩
    exact ⟨entry, among, selects⟩
  · rintro ⟨entry, among, selects⟩
    exact List.mem_filterMap.2 ⟨(address, entry), among, by rw [selects]; rfl⟩

theorem Ascending.selected (inOrder : Ascending entries)
    (select : List Nat → α → Option β) : Ascending (selected entries select) := by
  refine List.Pairwise.filterMap _ ?_ inOrder
  rintro ⟨address, entry⟩ ⟨other, later⟩ first found finds place reads
  rcases Option.map_eq_some_iff.1 finds with ⟨_, _, rfl⟩
  rcases Option.map_eq_some_iff.1 reads with ⟨_, _, rfl⟩
  exact first

theorem map_snd_selected (entries : List (List Nat × α)) (select : List Nat → α → Option β) :
    (selected entries select).map (·.2) =
      entries.filterMap fun place => select place.1 place.2 := by
  simp [selected, List.map_filterMap, Function.comp_def]

end Selected

/-- Several lists of entries one after the other, each one step further down. -/
def numbered {α : Type} (listings : List (List (List Nat × α))) : List (List Nat × α) :=
  listings.zipIdx.flatMap fun (entries, step) =>
    entries.map fun (path, entry) => (step :: path, entry)

section Numbered

variable {α : Type} {listings : List (List (List Nat × α))}

theorem map_snd_numbered :
    (numbered listings).map (·.2) = listings.flatMap fun entries => entries.map (·.2) := by
  calc
    (numbered listings).map (·.2)
      = listings.zipIdx.flatMap fun listing => listing.1.map (·.2) := by
        simp only [numbered, List.map_flatMap, List.map_map]
        rfl
    _ = (listings.zipIdx.map (·.1)).flatMap fun entries => entries.map (·.2) := by
        rw [List.flatMap_map]
    _ = listings.flatMap fun entries => entries.map (·.2) := by rw [List.zipIdx_map_fst]

theorem mem_numbered_iff {address : List Nat} {entry : α} :
    (address, entry) ∈ numbered listings ↔
      ∃ step path entries, address = step :: path ∧ listings[step]? = some entries ∧
        (path, entry) ∈ entries := by
  constructor
  · intro member
    rcases List.mem_flatMap.1 member with ⟨⟨entries, step⟩, among, inside⟩
    rcases List.mem_map.1 inside with ⟨⟨path, other⟩, found, same⟩
    rcases Prod.mk.inj same with ⟨rfl, rfl⟩
    exact ⟨step, path, entries, rfl, List.mem_zipIdx_iff_getElem?.1 among, found⟩
  · rintro ⟨step, path, entries, rfl, among, found⟩
    exact List.mem_flatMap.2 ⟨(entries, step), List.mem_zipIdx_iff_getElem?.2 among,
      List.mem_map.2 ⟨(path, entry), found, rfl⟩⟩

theorem nil_notMem_numbered {entry : α} : ([], entry) ∉ numbered listings := by
  intro member
  rcases mem_numbered_iff.1 member with ⟨step, path, entries, same, -⟩
  cases same

theorem cons_mem_numbered_map_iff {β : Type} {listing : β → List (List Nat × α)} {parts : List β}
    {step : Nat} {path : List Nat} {entry : α} :
    (step :: path, entry) ∈ numbered (parts.map listing) ↔
      ∃ part, parts[step]? = some part ∧ (path, entry) ∈ listing part := by
  constructor
  · intro member
    rcases mem_numbered_iff.1 member with ⟨_, _, entries, same, among, inside⟩
    rcases List.cons.inj same with ⟨rfl, rfl⟩
    rw [List.getElem?_map, Option.map_eq_some_iff] at among
    rcases among with ⟨part, found, rfl⟩
    exact ⟨part, found, inside⟩
  · rintro ⟨part, found, inside⟩
    exact mem_numbered_iff.2 ⟨step, path, listing part, rfl, by rw [List.getElem?_map, found]; rfl,
      inside⟩

/-- What lies under one step comes before what lies under a later one. -/
theorem ascending_numbered (inOrder : ∀ entries ∈ listings, Ascending entries) :
    Ascending (numbered listings) := by
  refine List.pairwise_flatMap.2 ⟨?_, ?_⟩
  · rintro ⟨entries, step⟩ among
    have member := List.mem_of_getElem? (List.mem_zipIdx_iff_getElem?.1 among)
    exact List.pairwise_map.2 ((inOrder entries member).imp fun first => first.cons)
  · have steps : (listings.zipIdx.map (·.2)).Pairwise (· < ·) := by
      rw [List.zipIdx_map_snd]
      exact List.pairwise_lt_range'
    refine (List.pairwise_map.1 steps).imp ?_
    rintro ⟨entries, step⟩ ⟨later, other⟩ less first inFront second behind
    rcases List.mem_map.1 inFront with ⟨_, _, rfl⟩
    rcases List.mem_map.1 behind with ⟨_, _, rfl⟩
    exact .rel less

end Numbered

/-! ### The nodes of an expression -/

namespace Expr

/-- The parts of the expression, from left to right. -/
def parts : Expr → List Expr
  | .number _ _ => []
  | .name _ => []
  | .negation operand _ => [operand]
  | .binary _ left right _ => [left, right]
  | .group inner _ => [inner]

/-- What every expression gets from its parts, all expressions have. -/
theorem induction_on_parts {motive : Expr → Prop}
    (step : ∀ expr, (∀ part ∈ expr.parts, motive part) → motive expr) (expr : Expr) :
    motive expr := by
  induction expr with
  | number value span => exact step _ nofun
  | name ident => exact step _ nofun
  | negation operand span inductive_hypothesis =>
    exact step _ (List.forall_mem_singleton.2 inductive_hypothesis)
  | binary op left right span inLeft inRight =>
    exact step _ (List.forall_mem_cons.2 ⟨inLeft, List.forall_mem_singleton.2 inRight⟩)
  | group inner span inductive_hypothesis =>
    exact step _ (List.forall_mem_singleton.2 inductive_hypothesis)

/-- The node of the expression at an address. -/
def at? (expr : Expr) : List Nat → Option Expr
  | [] => some expr
  | step :: path => expr.parts[step]?.bind (·.at? path)

/-- The nodes of the expression with their addresses, parents first and from left to right. -/
def addressed : Expr → List (List Nat × Expr)
  | .number value span => [([], .number value span)]
  | .name ident => [([], .name ident)]
  | .negation operand span => ([], .negation operand span) :: numbered [operand.addressed]
  | .binary op left right span =>
    ([], .binary op left right span) :: numbered [left.addressed, right.addressed]
  | .group inner span => ([], .group inner span) :: numbered [inner.addressed]

theorem addressed_eq (expr : Expr) :
    expr.addressed = ([], expr) :: numbered (expr.parts.map addressed) := by
  cases expr <;> rfl

theorem subexpressions_eq (expr : Expr) :
    expr.subexpressions = expr :: expr.parts.flatMap subexpressions := by
  cases expr <;> simp [subexpressions, parts]

theorem map_snd_addressed (expr : Expr) : expr.addressed.map (·.2) = expr.subexpressions := by
  induction expr using induction_on_parts with
  | step expr inductive_hypothesis =>
    rw [addressed_eq, subexpressions_eq, List.map_cons, map_snd_numbered, List.flatMap_map]
    rw [List.flatMap_congr inductive_hypothesis]

/-- The nodes are listed in the order of their addresses. -/
theorem ascending_addressed (expr : Expr) : Ascending expr.addressed := by
  induction expr using induction_on_parts with
  | step expr inductive_hypothesis =>
    rw [addressed_eq]
    refine List.pairwise_cons.2 ⟨?_, ascending_numbered (List.forall_mem_map.2
      inductive_hypothesis)⟩
    rintro ⟨address, node⟩ member
    rcases mem_numbered_iff.1 member with ⟨step, path, entries, rfl, -⟩
    exact .nil

/-- An address leads to a node exactly if the node is listed with it. -/
theorem mem_addressed_iff {expr node : Expr} {path : List Nat} :
    (path, node) ∈ expr.addressed ↔ expr.at? path = some node := by
  induction expr using induction_on_parts generalizing path with
  | step expr inductive_hypothesis =>
    rw [addressed_eq, List.mem_cons]
    cases path with
    | nil =>
      rw [or_iff_left nil_notMem_numbered, at?, Prod.mk.injEq, Option.some.injEq]
      exact ⟨fun same => same.2.symm, fun same => ⟨rfl, same.symm⟩⟩
    | cons step rest =>
      rw [or_iff_right nofun, cons_mem_numbered_map_iff, at?, Option.bind_eq_some_iff]
      refine exists_congr fun part => and_congr_right fun found => ?_
      exact inductive_hypothesis part (List.mem_of_getElem? found)

end Expr

namespace SyntaxTree

/-- The node of the program at an address, which begins with the number of a statement. -/
def at? (tree : SyntaxTree) : List Nat → Option Expr
  | [] => none
  | index :: path => tree.statements[index]?.bind (·.expr.at? path)

/-- The nodes of the program with their addresses, in the order of the statements. -/
def addressed (tree : SyntaxTree) : List (List Nat × Expr) :=
  numbered (tree.statements.map (·.expr.addressed))

theorem map_snd_addressed (tree : SyntaxTree) : tree.addressed.map (·.2) = tree.expressions := by
  rw [addressed, map_snd_numbered, List.flatMap_map, expressions]
  simp only [Expr.map_snd_addressed]

theorem ascending_addressed (tree : SyntaxTree) : Ascending tree.addressed := by
  refine ascending_numbered (List.forall_mem_map.2 fun statement _ => ?_)
  exact statement.expr.ascending_addressed

theorem mem_addressed_iff {tree : SyntaxTree} {node : Expr} {address : List Nat} :
    (address, node) ∈ tree.addressed ↔ tree.at? address = some node := by
  rw [addressed]
  cases address with
  | nil => exact iff_of_false nil_notMem_numbered nofun
  | cons index path =>
    rw [cons_mem_numbered_map_iff, at?, Option.bind_eq_some_iff]
    exact exists_congr fun statement => and_congr_right fun _ => Expr.mem_addressed_iff

end SyntaxTree
end StagePipeline.Program
