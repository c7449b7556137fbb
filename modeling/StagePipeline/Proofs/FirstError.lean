import StagePipeline.Proofs.Lexemes
import StagePipeline.Proofs.Recovery

/-!
# The first error

The two modes of the parser agree on which texts have errors, but not always
on which error comes first.  A strict parse looks at the tokens only if the
lexer has nothing to object to, while a recovering parse sorts the errors of
both by their offsets.  Within each kind the order is the same: the errors of
the lexer come in the order of the text, and so do those of the runs, since
what is wrong with a run lies before the next run begins.  On a text without
errors the two modes have the same output.
-/

namespace StagePipeline.Program

/-! ## Where the error of a run lies -/

namespace Run

variable {bounds : Bounds} {run : Run}

/-- A token of the run, or the separator or the end of the text after it. -/
def Reaches (bounds : Bounds) (run : Run) (span : Span) : Prop :=
  span ∈ run.body.map (·.span) ∨ span = (bounds.next run.after).2

theorem split_of_withoutSeparators {consumed rest : List Token}
    (same : run.body ++ run.after = consumed ++ rest) (inside : WithoutSeparators consumed) :
    ∃ left, run.body = consumed ++ left ∧ rest = left ++ run.after := by
  rcases List.append_eq_append_iff.1 same with ⟨more, consumedMore, afterMore⟩ | split
  · -- Whatever were taken beyond the run would begin with a separator.
    cases more with
    | nil => exact ⟨[], by simpa using consumedMore.symm, by simpa using afterMore.symm⟩
    | cons token more =>
      have separates := run.ends
      have opens := inside token (by simp [consumedMore])
      rw [afterMore] at separates
      exact absurd (separates.symm.trans opens) (by simp)
  · exact split

theorem reaches_of_mem {token : Token} (member : token ∈ run.body) :
    run.Reaches bounds token.span :=
  Or.inl (List.mem_map_of_mem member)

theorem reaches_next {left : List Token} (part : ∃ taken, run.body = taken ++ left) :
    run.Reaches bounds (bounds.next (left ++ run.after)).2 := by
  rcases part with ⟨taken, split⟩
  cases left with
  | nil => exact Or.inr rfl
  | cons token left => exact reaches_of_mem (by simp [split])

theorem reaches_of_blames {stuck : Stuck} (blames : Blames bounds (run.body ++ run.after) stuck) :
    stuck.error.isLexical = false ∧
      ∃ span, stuck.error.span? = some span ∧ run.Reaches bounds span := by
  cases blames with
  | unexpected expected depth split inside =>
    rcases split_of_withoutSeparators split inside with ⟨left, body, rfl⟩
    exact ⟨rfl, _, rfl, reaches_next ⟨_, body⟩⟩
  | tooDeep depth split inside =>
    rw [List.append_cons] at split
    rcases split_of_withoutSeparators split inside with ⟨left, body, _⟩
    exact ⟨rfl, _, rfl, reaches_of_mem (by simp [body])⟩
  | unclosed opening depth split inside =>
    rcases split_of_withoutSeparators (List.append_nil _).symm inside with ⟨left, body, nil⟩
    have last : run.after = [] := (List.append_eq_nil_iff.1 nil.symm).2
    rw [last, List.append_nil] at split
    have member : (⟨.leftParen, opening⟩ : Token) ∈ run.body := by simp [split]
    exact ⟨rfl, _, rfl, reaches_of_mem member⟩

theorem reaches_of_error? {error : SyntaxError} (failed : run.error? bounds = some error) :
    error.isLexical = false ∧ ∃ span, error.span? = some span ∧ run.Reaches bounds span := by
  rcases exists_blames_of_error? failed with ⟨stuck, blames, rfl⟩
  exact reaches_of_blames blames

/-! ## The order of the errors of several runs -/

theorem tail_of_suffix {later : Run} {separator : Token} {tail : List Token}
    (separates : separator.kind.isSeparator = true)
    (part : later.body ++ later.after <:+ separator :: tail) :
    later.body ++ later.after <:+ tail := by
  rcases List.suffix_cons_iff.1 part with whole | inner
  · cases body : later.body with
    | nil => exact absurd body later.nonempty
    | cons token rest =>
      have opens := later.inside token (by simp [body])
      have first : token = separator := (List.cons.inj (by simpa [body] using whole)).1
      rw [first, separates] at opens
      exact nomatch opens
  · exact inner

/-- What a run reaches starts no later than the separator that ends the run. -/
theorem start_le_of_reaches {separator : Token} {tail : List Token} {span : Span}
    (found : run.after = separator :: tail)
    (inOrder : SpansInOrder bounds.finish ((run.body ++ run.after).map (·.span)))
    (reaches : run.Reaches bounds span) : span.start ≤ separator.span.start := by
  rw [found] at inOrder
  rcases reaches with inBody | next
  · have apart := inOrder.apart
    rw [List.map_append, List.pairwise_append] at apart
    exact Nat.le_trans span.ordered (apart.2.2 span inBody separator.span (by simp))
  · rw [next, found]
    exact Nat.le_refl _

/-- What a run reaches starts after every token before the run. -/
theorem lt_start_of_reaches {token : Token} {tail : List Token} {span : Span}
    (inOrder : SpansInOrder bounds.finish ((token :: tail).map (·.span)))
    (part : run.body ++ run.after <:+ tail) (reaches : run.Reaches bounds span) :
    token.span.start < span.start := by
  have opening : token.span.start < token.span.stop := inOrder.nonempty _ (by simp)
  have later : ∀ other ∈ tail, token.span.stop ≤ other.span.start := by
    have apart := inOrder.apart
    rw [List.map_cons, List.pairwise_cons, List.forall_mem_map] at apart
    exact apart.1
  refine Nat.lt_of_lt_of_le opening ?_
  rcases reaches with inBody | rfl
  · rcases List.mem_map.1 inBody with ⟨other, member, rfl⟩
    exact later other (part.subset (List.mem_append_left _ member))
  · cases after : run.after with
    | nil => exact inOrder.within _ (by simp)
    | cons other rest => exact later other (part.subset (by simp [after]))

end Run

/-- The errors of the runs come in the order of the runs. -/
theorem pairwise_errors_of_runs {bounds : Bounds} {tokens : List Token}
    (inOrder : SpansInOrder bounds.finish (tokens.map (·.span))) :
    ((runs tokens).filterMap (Run.error? bounds)).Pairwise SyntaxError.Before := by
  refine List.Pairwise.filterMap _ ?_ (List.Pairwise.and_mem.1 (pairwise_runs tokens))
  rintro earlier later ⟨member, _, part⟩ error failed other otherFailed
  rcases Run.reaches_of_error? failed with ⟨_, span, errorSpan, reaches⟩
  rcases Run.reaches_of_error? otherFailed with ⟨_, otherSpan, otherErrorSpan, otherReaches⟩
  apply SyntaxError.Before.of_spans errorSpan otherErrorSpan
  have here := inOrder.sublist ((suffix_of_mem_runs member).sublist.map _)
  cases after : earlier.after with
  | nil =>
    rw [after] at part
    exact absurd (List.append_eq_nil_iff.1 (List.suffix_nil.1 part)).1 later.nonempty
  | cons separator tail =>
    have separates : separator.kind.isSeparator = true := by
      have ends := earlier.ends
      rw [after] at ends
      exact ends
    have there : SpansInOrder bounds.finish ((separator :: tail).map (·.span)) := by
      rw [← after]
      exact here.sublist ((List.sublist_append_right _ _).map _)
    rw [after] at part
    exact Nat.lt_of_le_of_lt (Run.start_le_of_reaches after here reaches)
      (Run.lt_start_of_reaches there (Run.tail_of_suffix separates part) otherReaches)

theorem pairwise_malformedRuns (maxDepth : Nat) (source : SourceFile) :
    (malformedRuns maxDepth source).Pairwise SyntaxError.Before :=
  pairwise_errors_of_runs (Lexed.tokens_inOrder source.text)

theorem not_isLexical_of_mem_malformedRuns {maxDepth : Nat} {source : SourceFile}
    {error : SyntaxError} (member : error ∈ malformedRuns maxDepth source) :
    error.isLexical = false := by
  rcases List.mem_filterMap.1 member with ⟨run, _, failed⟩
  exact (Run.reaches_of_error? failed).1

/-! ## Sorting the errors of both kinds -/

namespace SyntaxError

theorem notAfter_trans (left middle right : SyntaxError) (first : left.notAfter middle = true)
    (second : middle.notAfter right = true) : left.notAfter right = true := by
  unfold notAfter at *
  cases leftOffset : left.offset? with
  | none => rfl
  | some left =>
    cases middleOffset : middle.offset? with
    | none => simp [leftOffset, middleOffset] at first
    | some middle =>
      cases rightOffset : right.offset? with
      | none => simp [middleOffset, rightOffset] at second
      | some right =>
        simp only [leftOffset, middleOffset, rightOffset, decide_eq_true_eq] at first second ⊢
        exact Nat.le_trans first second

theorem notAfter_total (left right : SyntaxError) :
    (left.notAfter right || right.notAfter left) = true := by
  unfold notAfter
  cases left.offset? with
  | none => rfl
  | some left =>
    cases right.offset? with
    | none => rfl
    | some right => simp [Nat.le_total]

end SyntaxError

theorem mergeSort_of_before {errors : List SyntaxError}
    (inOrder : errors.Pairwise SyntaxError.Before) :
    errors.mergeSort SyntaxError.notAfter = errors :=
  List.mergeSort_of_pairwise (inOrder.imp SyntaxError.Before.notAfter)

/-- Sorting leaves the errors of the lexer in their order. -/
theorem filter_isLexical_mergeSort {lexical others : List SyntaxError}
    (inOrder : lexical.Pairwise SyntaxError.Before)
    (yes : ∀ error ∈ lexical, error.isLexical = true)
    (no : ∀ error ∈ others, error.isLexical = false) :
    ((lexical ++ others).mergeSort SyntaxError.notAfter).filter SyntaxError.isLexical =
      lexical := by
  have all : lexical.filter SyntaxError.isLexical = lexical := List.filter_eq_self.2 yes
  have none : others.filter SyntaxError.isLexical = [] := by
    rw [List.filter_eq_nil_iff]
    intro error member
    simp [no error member]
  have chosen : ((lexical ++ others).mergeSort SyntaxError.notAfter).filter SyntaxError.isLexical
      |>.Perm lexical := by
    have same := (List.mergeSort_perm (lexical ++ others) SyntaxError.notAfter).filter
      SyntaxError.isLexical
    rwa [List.filter_append, all, none, List.append_nil] at same
  have kept : lexical.Sublist ((lexical ++ others).mergeSort SyntaxError.notAfter) :=
    List.sublist_mergeSort SyntaxError.notAfter_trans SyntaxError.notAfter_total
      (inOrder.imp SyntaxError.Before.notAfter) (List.sublist_append_left _ _)
  have within := kept.filter SyntaxError.isLexical
  rw [all] at within
  exact (within.eq_of_length chosen.length_eq.symm).symm

/-- The errors of a recovering parse are none exactly if neither kind has any. -/
theorem mergeSort_errors_eq_nil_iff {lexical others : List SyntaxError} :
    (lexical ++ others).mergeSort SyntaxError.notAfter = [] ↔ lexical = [] ∧ others = [] := by
  have sorted := List.mergeSort_perm (lexical ++ others) SyntaxError.notAfter
  constructor
  · intro spotless
    rw [spotless] at sorted
    exact List.append_eq_nil_iff.1 sorted.nil_eq.symm
  · rintro ⟨rfl, rfl⟩
    exact List.mergeSort_nil

/--
The two modes agree on clean texts.  A recovering parse always succeeds, and what a
strict parse accepts is what a recovering parse gives without an error: the same tree
with the same spans.
-/
theorem strict_parse_eq_ok_iff_recovered_clean (source : SourceFile) (maxDepth : Nat) :
    (∃ recovered, parse ⟨true, maxDepth⟩ none source = .ok recovered) ∧
      ∀ output, parse ⟨false, maxDepth⟩ none source = .ok output ↔
        parse ⟨true, maxDepth⟩ none source = .ok output ∧ output.errors = [] := by
  constructor
  · exact ⟨_, parse_recovering maxDepth source⟩
  intro output
  rw [parse_recovering]
  constructor
  · intro accepted
    cases clean : (Lexed.ofText source.text).errors with
    | cons error rest =>
      rw [parse_strict_of_lexer_error clean] at accepted
      exact nomatch accepted
    | nil =>
      rcases (parse_strict_eq_ok_iff clean).1 accepted with ⟨wellFormed, rfl⟩
      constructor
      · rw [wellFormed, List.append_nil, List.mergeSort_nil]
      · rfl
  · rintro ⟨recovered, spotless⟩
    rcases Except.ok.inj recovered with rfl
    -- The whole list is empty, so the lexer has no say and every run holds a statement.
    rcases mergeSort_errors_eq_nil_iff.1 spotless with ⟨clean, wellFormed⟩
    apply (parse_strict_eq_ok_iff clean).2
    constructor
    · exact wellFormed
    · exact congrArg (ParseOutput.mk _) spotless

/--
Strict mode fails whenever a recovering parse reports an error.  It fails with
the first error of the lexer in the sorted list, and with the first error of
the list if none comes from the lexer.
-/
theorem strict_parse_fails_first {source : SourceFile} {maxDepth : Nat} {output : ParseOutput}
    (recovered : parse ⟨true, maxDepth⟩ none source = .ok output) (reports : output.errors ≠ []) :
    ∃ error, parse ⟨false, maxDepth⟩ none source = .error error ∧
      (output.errors.find? SyntaxError.isLexical).or output.errors.head? = some error := by
  rw [parse_recovering] at recovered
  rcases Except.ok.inj recovered with rfl
  have others : ∀ error ∈ malformedRuns maxDepth source, error.isLexical = false :=
    fun _ => not_isLexical_of_mem_malformedRuns
  have lexicalFirst := filter_isLexical_mergeSort (Lexed.errors_pairwise_before source.text)
    (fun _ => Lexed.isLexical_of_mem_errors) others
  simp only [← List.head?_filter, lexicalFirst]
  cases found : (Lexed.ofText source.text).errors with
  | cons error rest => exact ⟨error, parse_strict_of_lexer_error found, rfl⟩
  | nil =>
    rw [parse_strict_of_lexed found]
    simp only [found, List.nil_append, mergeSort_of_before (pairwise_malformedRuns maxDepth source)]
      at reports ⊢
    cases malformed : malformedRuns maxDepth source with
    | nil => exact absurd malformed reports
    | cons error rest => exact ⟨error, rfl, rfl⟩

/-- A statement without an end, and two stray characters after it. -/
theorem strict_parse_fails_first_stray :
    let source : SourceFile := ⟨"a.st", "1 +\n? !"⟩
    ∃ output, parse ⟨true, 1⟩ none source = .ok output ∧ output.errors ≠ [] ∧
      ∃ error, parse ⟨false, 1⟩ none source = .error error ∧
        (output.errors.find? SyntaxError.isLexical).or output.errors.head? = some error := by
  intro source
  have stray :
      SyntaxError.unexpectedChar '?' (.ofLength 4 1) ∈ (Lexed.ofText source.text).errors := by
    decide +kernel
  have recovered := parse_recovering 1 source
  refine ⟨_, recovered, ?reports, strict_parse_fails_first recovered ?reports⟩
  exact List.ne_nil_of_mem (List.mem_mergeSort.2 (List.mem_append_left _ stray))

/-- A statement without an end before a stray character: the lexer's error is not the first. -/
theorem strict_parse_may_skip_first :
    ¬ ∀ (source : SourceFile) (maxDepth : Nat) (output : ParseOutput),
      parse ⟨true, maxDepth⟩ none source = .ok output → output.errors ≠ [] →
        ∃ error, parse ⟨false, maxDepth⟩ none source = .error error ∧
          output.errors.head? = some error := by
  intro first
  let source : SourceFile := ⟨"a.st", "1 +\n?"⟩
  have stray : (Lexed.ofText source.text).errors = [.unexpectedChar '?' (.ofLength 4 1)] := by
    decide +kernel
  have unfinished : malformedRuns 1 source =
      [.unexpectedToken .expression (some .lineEnd) (.ofLength 3 1)] := by
    decide +kernel
  have sorted : ((Lexed.ofText source.text).errors ++ malformedRuns 1 source).mergeSort
      SyntaxError.notAfter = [.unexpectedToken .expression (some .lineEnd) (.ofLength 3 1),
        .unexpectedChar '?' (.ofLength 4 1)] := by
    rw [stray, unfinished]
    simp [List.mergeSort, List.MergeSort.Internal.splitInTwo, SyntaxError.notAfter,
      SyntaxError.offset?, SyntaxError.span?, Span.ofLength]
  rcases first source 1 _ (parse_recovering 1 source) (by simp [sorted]) with ⟨error, failed, head⟩
  rw [parse_strict_of_lexer_error stray] at failed
  rw [← Except.error.inj failed, sorted] at head
  simp at head

end StagePipeline.Program
