import StagePipeline.Lint
import StagePipeline.Proofs.CursorSafety
import StagePipeline.Proofs.SpanFaithfulness
import StagePipeline.Proofs.UnitParse

/-!
# What parsers of programs answer

A parser that runs beside other work may be told to stop at any moment, so for one
source there are many answers.  `ParserOptions.MayAnswer` has them all: those of the
cursor parser under every sequence of signals.  Whatever the answer, its errors point
between characters of the source, and so do the spans of the tree, which are all that
the built-in lints look up.
-/

namespace StagePipeline

namespace Program

variable {options : ParserOptions} {source : SourceFile}

/-! ### Answers -/

/-- A parser may give the answer, depending on what its signal says each time it is asked. -/
def ParserOptions.MayAnswer (options : ParserOptions) (source : SourceFile)
    (answer : Except SyntaxError ParseOutput) : Prop :=
  ∃ signals cursor left, Checked.Yields ⟨source, options, signals⟩ cursor answer left

/-- A parser may build the tree, in the same way. -/
def ParserOptions.MayBuild (options : ParserOptions) (source : SourceFile)
    (tree : SyntaxTree) : Prop :=
  ∃ output, options.MayAnswer source (.ok output) ∧ output.tree = tree

/-- Under a signal that stays as it is the answer is that of the parser. -/
theorem ParserOptions.mayAnswer_parse (options : ParserOptions) (signal : Option Interrupt)
    (source : SourceFile) : options.MayAnswer source (parse options signal source) := by
  let setup : Setup := ⟨source, options, fun _ => signal⟩
  cases signal with
  | none =>
    rcases Checked.exists_yields setup {} with ⟨answer, left, yields, answers⟩
    rw [answers.quiet fun _ => rfl] at yields
    exact ⟨_, _, left, yields⟩
  | some reason =>
    have signalled : ∀ index, setup.signals index = some reason := fun _ => rfl
    rcases Checked.exists_yields_of_signalled signalled {} with ⟨left, yields⟩
    exact ⟨_, _, left, yields⟩

namespace ParserOptions.MayAnswer

theorem exists_answers {answer : Except SyntaxError ParseOutput}
    (given : options.MayAnswer source answer) :
    ∃ signals, Setup.Answers ⟨source, options, signals⟩ answer := by
  rcases given with ⟨signals, cursor, left, yields⟩
  rcases Checked.exists_yields ⟨source, options, signals⟩ cursor with ⟨other, _, same, answers⟩
  rw [yields.unique same]
  exact ⟨signals, answers⟩

theorem placed {answer : Except SyntaxError ParseOutput}
    (given : options.MayAnswer source answer) : Placed source answer := by
  rcases given.exists_answers with ⟨signals, answers⟩
  intro error member offset pointed
  rcases answers.errors error member with lexical | malformed | ⟨_, reason, _, rfl⟩
  · exact (located_of_mem_lexed lexical).isBoundary pointed
  · exact (located_of_mem_malformedRuns malformed).isBoundary pointed
  · exact absurd pointed nofun

theorem exists_standsIn {output : ParseOutput} (given : options.MayAnswer source (.ok output)) :
    ∀ statement ∈ output.tree.statements, ∃ tokens, statement.StandsIn source tokens := by
  rcases given.exists_answers with ⟨signals, answers⟩
  intro statement member
  exact standsIn_of_mem_foundStatements ((answers.statements output rfl).subset member)

end ParserOptions.MayAnswer

/-! ### Trees -/

/-- All spans of the tree begin between characters of the source. -/
structure SyntaxTree.BeginsIn (tree : SyntaxTree) (source : SourceFile) : Prop where
  statements : ∀ statement ∈ tree.statements, source.IsBoundary statement.span.start
  expressions : ∀ expr ∈ tree.expressions, source.IsBoundary expr.span.start

theorem ParserOptions.MayBuild.beginsIn {tree : SyntaxTree}
    (built : options.MayBuild source tree) : tree.BeginsIn source := by
  rcases built with ⟨output, given, rfl⟩
  constructor
  · intro statement member
    rcases given.exists_standsIn statement member with ⟨tokens, stands⟩
    exact stands.covers.starts
  · intro expr member
    rcases List.mem_flatMap.1 member with ⟨statement, among, inside⟩
    rcases given.exists_standsIn statement among with ⟨tokens, stands⟩
    exact (stands.nodes expr inside).1.starts

theorem Expr.mem_subexpressions_trans {inner middle outer : Expr}
    (first : inner ∈ middle.subexpressions) (second : middle ∈ outer.subexpressions) :
    inner ∈ outer.subexpressions := by
  induction outer with
  | number value span =>
    rcases List.mem_singleton.1 second
    exact first
  | name ident =>
    rcases List.mem_singleton.1 second
    exact first
  | negation operand span inductive_hypothesis =>
    rcases List.mem_cons.1 second with rfl | deeper
    · exact first
    · exact List.mem_cons_of_mem _ (inductive_hypothesis deeper)
  | binary op left right span inLeft inRight =>
    rcases List.mem_cons.1 second with rfl | deeper
    · exact first
    · rcases List.mem_append.1 deeper with deeper | deeper
      · exact List.mem_cons_of_mem _ (List.mem_append_left _ (inLeft deeper))
      · exact List.mem_cons_of_mem _ (List.mem_append_right _ (inRight deeper))
  | group operand span inductive_hypothesis =>
    rcases List.mem_cons.1 second with rfl | deeper
    · exact first
    · exact List.mem_cons_of_mem _ (inductive_hypothesis deeper)

end Program

open Program

/-! ### Lints -/

namespace Lint

variable {tree : SyntaxTree} {source : SourceFile}

/-- The offsets that the built-in lints look up in the source of a tree. -/
def lookups (maxDepth : Nat) (tree : SyntaxTree) : List Nat :=
  (zeroDivisions tree).map (·.2.start) ++
    ((unboundNames [] tree.statements).map (·.span.start) ++
      (tree.statements.filter fun statement => maxDepth < statement.expr.depth).map
        (·.span.start))

theorem exists_divisor_of_mem_zeroDivisions {found : Expr × Span}
    (member : found ∈ zeroDivisions tree) :
    ∃ divisor ∈ tree.expressions, divisor.span = found.2 := by
  rcases List.mem_filterMap.1 member with ⟨expr, inTree, divides⟩
  rcases Option.map_eq_some_iff.1 divides with ⟨span, zero, rfl⟩
  rcases List.mem_flatMap.1 inTree with ⟨statement, among, inside⟩
  cases expr with
  | binary op left divisor whole =>
    have within : divisor ∈ (Expr.binary op left divisor whole).subexpressions :=
      List.mem_cons_of_mem _ (List.mem_append_right _ divisor.mem_subexpressions_self)
    cases op with
    | div =>
      rcases Option.ite_none_right_eq_some.1 zero with ⟨_, same⟩
      exact ⟨divisor, List.mem_flatMap.2
        ⟨statement, among, Expr.mem_subexpressions_trans within inside⟩, Option.some.inj same⟩
    | _ => exact absurd zero nofun
  | _ => exact absurd zero nofun

theorem name_mem_of_mem_unboundNames {statements : List Stmt} {bound : List String} {ident : Ident}
    (member : ident ∈ unboundNames bound statements) :
    ∃ statement ∈ statements, Expr.name ident ∈ statement.expr.subexpressions := by
  induction statements generalizing bound with
  | nil => exact absurd member List.not_mem_nil
  | cons statement rest inductive_hypothesis =>
    rcases List.mem_append.1 member with here | later
    · rcases List.mem_filterMap.1 (List.mem_filter.1 here).1 with ⟨expr, inside, named⟩
      cases expr with
      | name other =>
        rcases Option.some.inj named
        exact ⟨statement, List.mem_cons_self, inside⟩
      | _ => exact absurd named nofun
    · rcases inductive_hypothesis later with ⟨other, among, inside⟩
      exact ⟨other, List.mem_cons_of_mem _ among, inside⟩

theorem isBoundary_of_mem_lookups (begins : tree.BeginsIn source) {maxDepth offset : Nat}
    (member : offset ∈ lookups maxDepth tree) : source.IsBoundary offset := by
  rcases List.mem_append.1 member with division | later
  · rcases List.mem_map.1 division with ⟨found, among, rfl⟩
    rcases exists_divisor_of_mem_zeroDivisions among with ⟨divisor, inTree, same⟩
    exact same ▸ begins.expressions divisor inTree
  rcases List.mem_append.1 later with unbound | deep
  · rcases List.mem_map.1 unbound with ⟨ident, among, rfl⟩
    rcases name_mem_of_mem_unboundNames among with ⟨statement, inTree, inside⟩
    exact begins.expressions (.name ident) (List.mem_flatMap.2 ⟨statement, inTree, inside⟩)
  · rcases List.mem_map.1 deep with ⟨statement, among, rfl⟩
    exact begins.statements statement (List.mem_filter.1 among).1

/-- A search finds something everywhere if it never fails. -/
theorem exists_mapM {α β : Type} {search : α → Option β} {places : List α}
    (finds : ∀ place ∈ places, ∃ found, search place = some found) :
    ∃ findings, places.mapM search = some findings := by
  induction places with
  | nil => exact ⟨[], rfl⟩
  | cons place rest inductive_hypothesis =>
    rcases finds place List.mem_cons_self with ⟨found, here⟩
    rcases inductive_hypothesis fun other member => finds other (List.mem_cons_of_mem _ member) with
      ⟨findings, later⟩
    exact ⟨found :: findings, by rw [List.mapM_cons, here, later]; rfl⟩

theorem exists_finding {offset : Nat} (boundary : source.IsBoundary offset) (severity : Severity)
    (phase message : String) :
    ∃ diagnostic, finding? severity phase message source offset = some diagnostic := by
  rcases SourceFile.exists_location_of_isBoundary boundary with ⟨location, found⟩
  exact ⟨_, by rw [finding?, found]; rfl⟩

/-- Where every place has a location, there is a diagnostic for each, in their order. -/
theorem mapM_finding? {α : Type} {places : List α} {offset : α → Nat}
    (located : ∀ place ∈ places, ∃ location, source.location? (offset place) = some location)
    (severity : Severity) (phase : String) (message : α → String) :
    places.mapM (fun place => finding? severity phase (message place) source (offset place)) =
      some (places.map fun place =>
        ⟨severity, phase, message place, source.location? (offset place)⟩) := by
  refine mapM_eq_some_map fun place among => ?_
  rcases located place among with ⟨location, found⟩
  rw [finding?, found]
  rfl

/-- A built-in lint has a position for each of its findings. -/
theorem exists_findings {maxDepth : Nat}
    (located : ∀ offset ∈ lookups maxDepth tree, source.IsBoundary offset) {lint : Lint}
    (builtIn : lint ∈ builtIn maxDepth) :
    ∃ findings, lint.check source tree = some findings := by
  have found := fun offset member severity phase message =>
    exists_finding (located offset member) severity phase message
  rcases List.mem_cons.1 builtIn with rfl | builtIn
  · exact exists_mapM fun place among =>
      found _ (List.mem_append_left _ (List.mem_map_of_mem among)) _ _ _
  rcases List.mem_cons.1 builtIn with rfl | builtIn
  · exact exists_mapM fun place among => found _ (List.mem_append_right _
      (List.mem_append_left _ (List.mem_map_of_mem among))) _ _ _
  · rcases List.mem_singleton.1 builtIn
    exact exists_mapM fun place among => found _ (List.mem_append_right _
      (List.mem_append_right _ (List.mem_map_of_mem among))) _ _ _

end Lint

end StagePipeline
