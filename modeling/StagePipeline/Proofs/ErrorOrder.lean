import Mathlib.Data.List.Nodup
import StagePipeline.Proofs.ErrorPlaces

/-!
# The order of all errors

The errors of the lexer and those of the runs are sorted into one list.  No two of them
point at the same offset: an error of the lexer stands where the lexer has left no token,
and the error of a run points at a token or at the end of the text.  So the offsets of the
sorted list increase strictly, and how the sort treats equal offsets never matters.
-/

namespace StagePipeline.Program

open Text

namespace SyntaxError

/-- The two errors have offsets, which differ. -/
def Apart (left right : SyntaxError) : Prop :=
  ∃ first second, left.offset? = some first ∧ right.offset? = some second ∧ first ≠ second

theorem Apart.symm {left right : SyntaxError} (apart : left.Apart right) : right.Apart left := by
  rcases apart with ⟨first, second, leftOffset, rightOffset, differ⟩
  exact ⟨second, first, rightOffset, leftOffset, differ.symm⟩

theorem Before.apart {left right : SyntaxError} (before : left.Before right) :
    left.Apart right := by
  rcases before with ⟨first, second, leftOffset, rightOffset, less⟩
  exact ⟨first, second, leftOffset, rightOffset, Nat.ne_of_lt less⟩

theorem Before.asymm {left right : SyntaxError} (before : left.Before right) :
    ¬ right.notAfter left = true := by
  rcases before with ⟨first, second, leftOffset, rightOffset, less⟩
  intro notAfter
  simp only [SyntaxError.notAfter, leftOffset, rightOffset, decide_eq_true_eq] at notAfter
  exact Nat.not_lt_of_le notAfter less

/-- Errors that differ in their offsets are sorted by them. -/
theorem Apart.before {left right : SyntaxError} (apart : left.Apart right)
    (sorted : left.notAfter right = true) : left.Before right := by
  rcases apart with ⟨first, second, leftOffset, rightOffset, differ⟩
  simp only [notAfter, leftOffset, rightOffset, decide_eq_true_eq] at sorted
  exact ⟨first, second, leftOffset, rightOffset, Nat.lt_of_le_of_ne sorted differ⟩

end SyntaxError

/-! ## Errors of the two kinds -/

theorem Piece.token?_eq_none {piece : Piece} {error : SyntaxError}
    (found : piece.error? = some error) : piece.token? = none := by
  rcases piece with ⟨lexeme, start, characters⟩
  cases lexeme with
  | token kind => exact nomatch found
  | _ => rfl

namespace Lexed

/-- An error of the lexer stands before the end of the text, and at the beginning of no token. -/
theorem error_apart_from_tokens {text : String} {error : SyntaxError}
    (member : error ∈ (ofText text).errors) :
    ∃ span, error.span? = some span ∧ span.start < width text.toList ∧
      ∀ token ∈ (ofText text).tokens, span.start ≠ token.span.start := by
  have inOrder := (tiles_pieces 0 0 text.toList).inOrder
  rw [Nat.zero_add] at inOrder
  rw [ofText, scan_eq_pieces] at member ⊢
  rcases List.mem_filterMap.1 member with ⟨piece, inside, found⟩
  have place : piece.span ∈ (pieces 0 0 text.toList).map Piece.span := List.mem_map_of_mem inside
  refine ⟨piece.span, (Piece.of_error? found).1, ?_, ?_⟩
  · exact Nat.lt_of_lt_of_le (inOrder.nonempty _ place) (inOrder.within _ place)
  · intro token tokenMember same
    rcases List.mem_filterMap.1 tokenMember with ⟨other, otherInside, otherFound⟩
    have starts : ((pieces 0 0 text.toList).map fun piece => piece.span.start).Nodup := by
      have increase := List.pairwise_map.1 inOrder.starts_increase
      exact List.pairwise_map.2 (increase.imp Nat.ne_of_lt)
    rw [Piece.span_of_token? otherFound] at same
    -- Pieces with the same beginning are one piece, which cannot be both.
    rcases List.inj_on_of_nodup_map starts inside otherInside same with rfl
    exact Option.some_ne_none token (otherFound.symm.trans (Piece.token?_eq_none found))

end Lexed

theorem apart_of_mem_errors_of_mem_malformedRuns {maxDepth : Nat} {source : SourceFile}
    {error other : SyntaxError} (lexical : error ∈ (Lexed.ofText source.text).errors)
    (malformed : other ∈ malformedRuns maxDepth source) : error.Apart other := by
  rcases Lexed.error_apart_from_tokens lexical with ⟨span, errorSpan, beforeEnd, apart⟩
  rcases List.mem_filterMap.1 malformed with ⟨run, inRuns, failed⟩
  rcases Run.reaches_of_error? failed with ⟨_, otherSpan, otherErrorSpan, reaches⟩
  have tokens := (suffix_of_mem_runs inRuns).subset
  have differ : span.start ≠ otherSpan.start := by
    rcases reaches with inBody | rfl
    · rcases List.mem_map.1 inBody with ⟨token, member, rfl⟩
      exact apart token (tokens (List.mem_append_left _ member))
    · cases after : run.after with
      | nil => exact Nat.ne_of_lt beforeEnd
      | cons token rest =>
        apply apart token
        apply tokens
        simp [after]
  refine ⟨span.start, otherSpan.start, ?_, ?_, differ⟩
  · rw [SyntaxError.offset?, errorSpan, Option.map_some]
  · rw [SyntaxError.offset?, otherErrorSpan, Option.map_some]

/-- All errors of a recovering parse, in the order in which it gives them. -/
def sortedErrors (maxDepth : Nat) (source : SourceFile) : List SyntaxError :=
  ((Lexed.ofText source.text).errors ++ malformedRuns maxDepth source).mergeSort
    SyntaxError.notAfter

theorem sortedErrors_perm (maxDepth : Nat) (source : SourceFile) :
    (sortedErrors maxDepth source).Perm
      ((Lexed.ofText source.text).errors ++ malformedRuns maxDepth source) :=
  List.mergeSort_perm _ _

theorem mem_sortedErrors_iff {maxDepth : Nat} {source : SourceFile} {error : SyntaxError} :
    error ∈ sortedErrors maxDepth source ↔
      error ∈ (Lexed.ofText source.text).errors ∨ error ∈ malformedRuns maxDepth source := by
  rw [(sortedErrors_perm maxDepth source).mem_iff, List.mem_append]

theorem located_of_mem_sortedErrors {maxDepth : Nat} {source : SourceFile} {error : SyntaxError}
    (member : error ∈ sortedErrors maxDepth source) : error.Located source := by
  rcases mem_sortedErrors_iff.1 member with lexical | malformed
  · exact located_of_mem_lexed lexical
  · exact located_of_mem_malformedRuns malformed

/-- The offsets of the errors of a recovering parse increase strictly. -/
theorem pairwise_sortedErrors (maxDepth : Nat) (source : SourceFile) :
    (sortedErrors maxDepth source).Pairwise SyntaxError.Before := by
  have all : ((Lexed.ofText source.text).errors ++ malformedRuns maxDepth source).Pairwise
      SyntaxError.Apart := by
    apply List.pairwise_append.2
    refine ⟨?_, ?_, ?_⟩
    · exact (Lexed.errors_pairwise_before source.text).imp SyntaxError.Before.apart
    · exact (pairwise_malformedRuns maxDepth source).imp SyntaxError.Before.apart
    · intro error lexical other malformed
      exact apart_of_mem_errors_of_mem_malformedRuns lexical malformed
  have apart : (sortedErrors maxDepth source).Pairwise SyntaxError.Apart :=
    ((sortedErrors_perm maxDepth source).pairwise_iff SyntaxError.Apart.symm).2 all
  have sorted : (sortedErrors maxDepth source).Pairwise fun left right =>
      left.notAfter right = true :=
    List.pairwise_mergeSort SyntaxError.notAfter_trans SyntaxError.notAfter_total _
  exact (apart.and sorted).imp fun both => both.1.before both.2

/-- There is one way to put errors in order. -/
theorem sortedErrors_eq {maxDepth : Nat} {source : SourceFile} {errors : List SyntaxError}
    (same : errors.Perm ((Lexed.ofText source.text).errors ++ malformedRuns maxDepth source))
    (inOrder : errors.Pairwise SyntaxError.Before) : sortedErrors maxDepth source = errors := by
  apply List.Perm.eq_of_pairwise _ (pairwise_sortedErrors maxDepth source) inOrder
    ((sortedErrors_perm maxDepth source).trans same.symm)
  intro left right _ _ before after
  exact absurd after.notAfter before.asymm

/-! ## The whole list -/

namespace Run

variable {bounds : Bounds} {run : Run}

/-- The offsets of the tokens of a run, and that of the separator or the end of the text. -/
def offsets (bounds : Bounds) (run : Run) : List Nat :=
  run.body.map (·.span.start) ++ [(bounds.next run.after).2.start]

/-- The run holds a statement, or its error points at one of its offsets. -/
theorem exists_offset_of_result_error {error : SyntaxError}
    (failed : run.result bounds = .error error) :
    ∃ offset ∈ run.offsets bounds, error.offset? = some offset := by
  have found : run.error? bounds = some error := by rw [error?, failed]
  rcases reaches_of_error? found with ⟨-, span, shown, reaches⟩
  refine ⟨span.start, ?_, by rw [SyntaxError.offset?, shown, Option.map_some]⟩
  rw [offsets, List.mem_append, List.mem_singleton]
  rcases reaches with inBody | next
  · rcases List.mem_map.1 inBody with ⟨token, member, rfl⟩
    exact Or.inl (List.mem_map_of_mem member)
  · exact Or.inr (congrArg Span.start next)

/-- The runs without a statement have one error each, in the same order. -/
theorem errors_of_runs_without_statement (bounds : Bounds) (pieces : List Run) :
    List.Forall₂ (fun run error => run.result bounds = .error error)
      (pieces.filter fun run => (run.statement? bounds).isNone)
      (pieces.filterMap (Run.error? bounds)) := by
  induction pieces with
  | nil => exact .nil
  | cons run rest inductive_hypothesis =>
    cases read : run.result bounds with
    | ok value =>
      have held : (run.statement? bounds).isNone = false := by rw [statement?, read]; rfl
      have clean : run.error? bounds = none := by rw [error?, read]
      rw [List.filter_cons_of_neg (by simp [held]), List.filterMap_cons_none clean]
      exact inductive_hypothesis
    | error error =>
      have empty : (run.statement? bounds).isNone = true := by rw [statement?, read]; rfl
      have failed : run.error? bounds = some error := by rw [error?, read]
      rw [List.filter_cons_of_pos (by simp [empty]), List.filterMap_cons_some failed]
      exact .cons read inductive_hypothesis

end Run

/-- Errors that all have offsets, which increase, have a list of increasing offsets. -/
theorem exists_offsets_of_pairwise_before {errors : List SyntaxError}
    (all : ∀ error ∈ errors, error.offset?.isSome = true)
    (inOrder : errors.Pairwise SyntaxError.Before) :
    ∃ offsets : List Nat, errors.map (·.offset?) = offsets.map some ∧
      offsets.Pairwise (· < ·) := by
  refine ⟨errors.filterMap (·.offset?), ?_, ?_⟩
  · rw [List.map_filterMap]
    induction errors with
    | nil => rfl
    | cons error rest inductive_hypothesis =>
      rcases List.forall_mem_cons.1 all with ⟨here, later⟩
      rcases Option.isSome_iff_exists.1 here with ⟨offset, found⟩
      rw [List.map_cons, found, List.filterMap_cons_some (by rw [found]; rfl),
        inductive_hypothesis later inOrder.of_cons]
  · refine inOrder.filterMap _ ?_
    rintro left right ⟨first, second, leftOffset, rightOffset, less⟩ offset found other otherFound
    rcases Option.some.inj (leftOffset.symm.trans found) with rfl
    rcases Option.some.inj (rightOffset.symm.trans otherFound) with rfl
    exact less

/--
The errors of a recovering parse in order.  Their offsets increase strictly, so no two
errors share one, and they are the errors of the lexer and those that the reading of the
statements has passed over, all of them and no others.  The reading has passed over one
error for each run that holds no statement, which points at a token of this run, or at
the separator or the end of the text behind it.
-/
theorem recovering_parse_lists_errors (maxDepth : Nat) (source : SourceFile) :
    let lexed := Lexed.ofText source.text
    let bounds := Bounds.ofSource maxDepth source
    let passedOver := (Reading.ofTokens bounds true 0 lexed.tokens).errors
    ∃ output, parse ⟨true, maxDepth⟩ none source = .ok output ∧
      (∃ offsets : List Nat, output.errors.map (·.offset?) = offsets.map some ∧
        offsets.Pairwise (· < ·)) ∧
      output.errors.Perm (lexed.errors ++ passedOver) ∧
      List.Forall₂ (fun run error => run.result bounds = .error error ∧
          ∃ offset ∈ run.offsets bounds, error.offset? = some offset)
        ((runs lexed.tokens).filter fun run => (run.statement? bounds).isNone) passedOver := by
  intro lexed bounds passedOver
  have fromRuns : passedOver = malformedRuns maxDepth source :=
    (Reading.ofTokens_recovering bounds 0 lexed.tokens).2.1
  refine ⟨_, parse_recovering maxDepth source, ?increase, ?perm, ?places⟩
  case increase =>
    apply exists_offsets_of_pairwise_before _ (pairwise_sortedErrors maxDepth source)
    intro error member
    rcases located_of_mem_sortedErrors member with ⟨span, shown, -⟩
    rw [SyntaxError.offset?, shown]
    rfl
  case perm =>
    rw [fromRuns]
    exact sortedErrors_perm maxDepth source
  case places =>
    rw [fromRuns]
    exact (Run.errors_of_runs_without_statement bounds _).imp fun run error failed =>
      ⟨failed, Run.exists_offset_of_result_error failed⟩

end StagePipeline.Program
