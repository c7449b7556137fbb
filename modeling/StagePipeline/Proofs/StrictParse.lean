import Mathlib.Data.List.Forall2
import StagePipeline.Proofs.Recovery

/-!
# What a strict parse accepts

With levels to spare, whether a run holds a statement is a question of the
grammar alone: a tree never needs as many levels as it has tokens.  A strict
parse of a text without errors of the lexer therefore succeeds exactly on the
texts whose runs all derive from the grammar, and it gives each run the only
tree of the grammar's shape that the run can have.
-/

namespace StagePipeline.Program

namespace Stmt

/--
The tree of a run of tokens: it has the grammar's shape, it spells the tokens
from the first to the last, and up to spans no other tree of that shape does.
-/
structure IsTreeOf (statement : Stmt) (tokens : List Token) : Prop where
  nested : statement.LeftNested
  spells : statement.Spells tokens
  yields : statement.yield = tokens.map (·.kind)
  unique : ∀ other : Stmt, other.LeftNested → other.yield = tokens.map (·.kind) →
    other.erase = statement.erase

theorem isTreeOf_of_spells {statement : Stmt} {tokens : List Token}
    (nested : statement.LeftNested) (spells : statement.Spells tokens) :
    statement.IsTreeOf tokens where
  nested := nested
  spells := spells
  yields := spells.yield_eq.symm
  unique := by
    intro other otherNested otherYields
    -- Placed at the same tokens, the other tree is read from them as well.
    rcases other.exists_spells_of_yield otherYields.symm with ⟨placed, placedSpells, same⟩
    have placedNested : placed.LeftNested := by
      rw [← leftNested_erase, same, leftNested_erase]
      exact otherNested
    rw [← same, eq_of_spells placedNested nested placedSpells spells]

/-- Within a limit that no tree of the tokens can reach, fitting is a matter of the grammar. -/
theorem exists_fits_iff_derives {bounds : Bounds} {tokens : List Token}
    (deep : tokens.length ≤ bounds.limit) :
    (∃ statement : Stmt, statement.Fits bounds tokens) ↔
      Derives .statement (tokens.map (·.kind)) := by
  rw [derives_statement_iff]
  constructor
  · rintro ⟨statement, fits⟩
    exact ⟨statement, fits.nested, fits.spells.yield_eq.symm⟩
  · rintro ⟨statement, nested, yields⟩
    rcases statement.exists_spells_of_yield yields.symm with ⟨placed, spells, same⟩
    have placedNested : placed.LeftNested := by
      rw [← leftNested_erase, same, leftNested_erase]
      exact nested
    have within : placed.expr.need < tokens.length := by
      rw [← List.length_map (·.kind), spells.yield_eq]
      exact placed.need_lt_length
    exact ⟨placed, spells, placedNested, by omega⟩

end Stmt

namespace Run

variable {bounds : Bounds} {run : Run}

theorem error?_eq_none_iff : run.error? bounds = none ↔ ∃ value, run.result bounds = .ok value := by
  rw [error?]
  cases run.result bounds with
  | ok value => exact iff_of_true rfl ⟨value, rfl⟩
  | error error => simp

/-- A run without an error is one that the grammar derives, if levels are to spare. -/
theorem error?_eq_none_iff_derives (deep : run.body.length ≤ bounds.limit) :
    run.error? bounds = none ↔ Derives .statement (run.body.map (·.kind)) := by
  simp only [error?_eq_none_iff, result_eq_ok_iff, Stmt.exists_fits_iff_derives deep]

theorem statement?_eq_some_of_error?_eq_none (clean : run.error? bounds = none) :
    ∃ value, run.statement? bounds = some value ∧ value.Fits bounds run.body := by
  rcases error?_eq_none_iff.1 clean with ⟨value, read⟩
  have fits := result_eq_ok_iff.1 read
  exact ⟨value, statement?_eq_some_iff.2 fits, fits⟩

end Run

/-- Runs without errors give one statement each, and in their order. -/
theorem statements_fit_runs {bounds : Bounds} {pieces : List Run}
    (clean : ∀ run ∈ pieces, run.error? bounds = none) :
    List.Forall₂ (fun (value : Stmt) run => value.Fits bounds run.body)
      (pieces.filterMap (Run.statement? bounds)) pieces := by
  induction pieces with
  | nil => exact .nil
  | cons run rest inductive_hypothesis =>
    rcases Run.statement?_eq_some_of_error?_eq_none (clean run List.mem_cons_self) with
      ⟨value, found, fits⟩
    rw [List.filterMap_cons_some found]
    exact .cons fits (inductive_hypothesis fun later member =>
      clean later (List.mem_cons_of_mem _ member))

theorem body_length_le_of_mem_runs {tokens : List Token} {run : Run}
    (member : run ∈ runs tokens) : run.body.length ≤ tokens.length := by
  have whole := (suffix_of_mem_runs member).length_le
  rw [List.length_append] at whole
  omega

/-- A text that one statement spells is parsed to that statement, in both modes. -/
theorem parse_of_fits {source : SourceFile} {maxDepth : Nat} {value : Stmt}
    (clean : (Lexed.ofText source.text).errors = [])
    (fits : value.Fits (.ofSource maxDepth source) (Lexed.ofText source.text).tokens)
    (recover : Bool) : parse ⟨recover, maxDepth⟩ none source = .ok ⟨⟨[value]⟩, []⟩ := by
  have nonempty : (Lexed.ofText source.text).tokens ≠ [] := by
    intro none
    have short := value.need_lt_length
    rw [← fits.spells.yield_eq, none] at short
    exact Nat.not_lt_zero _ short
  rcases runs_of_withoutSeparators fits.spells.not_isSeparator nonempty with ⟨run, only, body⟩
  rw [← body] at fits
  have found : foundStatements maxDepth source = [value] := by
    rw [foundStatements, only, List.filterMap_cons_some (Run.statement?_eq_some_iff.2 fits),
      List.filterMap_nil]
  have wellFormed : malformedRuns maxDepth source = [] := by
    rw [malformedRuns_eq_nil_iff, only]
    intro other member
    rw [List.mem_singleton.1 member]
    exact Run.error?_eq_none_iff.2 ⟨value, Run.result_eq_ok_iff.2 fits⟩
  cases recover with
  | false => exact (parse_strict_eq_ok_iff clean).2 ⟨wellFormed, by rw [found]⟩
  | true => rw [parse_recovering, found, clean, wellFormed, List.nil_append, List.mergeSort_nil]

/--
Soundness and completeness for the grammar.  A strict parse of a text without
errors of the lexer, with at least as many levels as the text has tokens,
succeeds exactly when every nonempty piece between the separators derives from
the grammar; and then it gives one statement for each piece, in order, which is
the only tree that the piece has.
-/
theorem strict_parse_iff_derives (source : SourceFile) (maxDepth : Nat)
    (clean : (Lexed.ofText source.text).errors = [])
    (deep : (Lexed.ofText source.text).tokens.length ≤ maxDepth) :
    let pieces := ((Lexed.ofText source.text).tokens.splitOnP (·.kind.isSeparator)).filter (· ≠ [])
    ((∃ output, parse ⟨false, maxDepth⟩ none source = .ok output) ↔
        ∀ piece ∈ pieces, Derives .statement (piece.map (·.kind))) ∧
      ∀ output, parse ⟨false, maxDepth⟩ none source = .ok output →
        List.Forall₂ Stmt.IsTreeOf output.tree.statements pieces := by
  intro pieces
  have bodies : pieces = (runs (Lexed.ofText source.text).tokens).map Run.body :=
    (map_body_runs _).symm
  rw [bodies]
  constructor
  · have derives : ∀ run ∈ runs (Lexed.ofText source.text).tokens,
        (run.error? (.ofSource maxDepth source) = none ↔
          Derives .statement (run.body.map (·.kind))) := by
      intro run member
      exact Run.error?_eq_none_iff_derives (Nat.le_trans (body_length_le_of_mem_runs member) deep)
    simp only [parse_strict_eq_ok_iff clean, exists_and_left, exists_eq, and_true,
      malformedRuns_eq_nil_iff, List.forall_mem_map]
    exact forall₂_congr derives
  · intro output parsed
    rcases (parse_strict_eq_ok_iff clean).1 parsed with ⟨wellFormed, rfl⟩
    rw [List.forall₂_map_right_iff]
    refine (statements_fit_runs (malformedRuns_eq_nil_iff.1 wellFormed)).imp ?_
    intro value run fits
    exact Stmt.isTreeOf_of_spells fits.nested fits.spells

/-- A text of two pieces, with a product inside a difference and both uses of the minus sign. -/
theorem strict_parse_iff_derives_two_pieces :
    let source : SourceFile := ⟨"a.st", "let a=1-2*3;-a"⟩
    let pieces := ((Lexed.ofText source.text).tokens.splitOnP (·.kind.isSeparator)).filter (· ≠ [])
    (Lexed.ofText source.text).errors = [] ∧ (Lexed.ofText source.text).tokens.length ≤ 20 ∧
      pieces.length = 2 ∧ (∀ piece ∈ pieces, Derives .statement (piece.map (·.kind))) ∧
      ∃ output, parse ⟨false, 20⟩ none source = .ok output ∧
        List.Forall₂ Stmt.IsTreeOf output.tree.statements pieces := by
  intro source pieces
  have clean : (Lexed.ofText source.text).errors = [] := by decide +kernel
  have deep : (Lexed.ofText source.text).tokens.length ≤ 20 := by decide +kernel
  have two : pieces.length = 2 := by decide +kernel
  have accepted : (parse ⟨false, 20⟩ none source).isOk = true := by decide +kernel
  rcases strict_parse_iff_derives source 20 clean deep with ⟨accepts, trees⟩
  cases parsed : parse ⟨false, 20⟩ none source with
  | error error => simp [parsed, Except.isOk, Except.toBool] at accepted
  | ok output =>
    exact ⟨clean, deep, two, accepts.1 ⟨output, parsed⟩, output, rfl, trees output parsed⟩

end StagePipeline.Program
