import StagePipeline.Proofs.FirstError
import StagePipeline.Proofs.TokenText

/-!
# Where errors point

An error shows the bytes that are to blame: characters that the lexer cannot use, a
token of the run that holds no statement, the separator after that run, or the end of
the text, which takes no bytes.  All of these lie between characters of the text, so
the offset of an error has a line and a column.
-/

namespace StagePipeline.Program

/-- The errors that the answer of a parser tells of. -/
def reportedErrors : Except SyntaxError ParseOutput → List SyntaxError
  | .error error => [error]
  | .ok output => output.errors

/-- Every error of an answer that has an offset points between two characters of the source. -/
def Placed (source : SourceFile) (answer : Except SyntaxError ParseOutput) : Prop :=
  ∀ error ∈ reportedErrors answer, ∀ offset, error.offset? = some offset →
    source.IsBoundary offset

theorem Placed.of_start {source : SourceFile} {answer : Except SyntaxError ParseOutput}
    (atStart : ∀ error ∈ reportedErrors answer, error.offset?.getD 0 = 0) :
    Placed source answer := by
  intro error member offset pointed
  have start := atStart error member
  rw [pointed] at start
  exact ⟨[], source.text.toList, rfl, start.symm⟩

/-- The bytes that show the error lie between characters of the source. -/
def SyntaxError.Located (source : SourceFile) (error : SyntaxError) : Prop :=
  ∃ span, error.span? = some span ∧ source.IsBoundary span.start ∧ source.IsBoundary span.stop

theorem SyntaxError.Located.isBoundary {source : SourceFile} {error : SyntaxError}
    (located : error.Located source) {offset : Nat} (pointed : error.offset? = some offset) :
    source.IsBoundary offset := by
  rcases located with ⟨span, shows, starts, _⟩
  rw [SyntaxError.offset?, shows] at pointed
  exact Option.some.inj pointed ▸ starts

variable {source : SourceFile}

theorem located_of_mem_lexed {error : SyntaxError}
    (member : error ∈ (Lexed.ofText source.text).errors) : error.Located source := by
  rcases Lexed.standsAt_of_mem_errors member with ⟨span, characters, shows, here⟩
  exact ⟨span, shows, here.isBoundary_start, here.isBoundary_stop⟩

theorem isBoundary_of_mem_tokens {token : Token}
    (member : token ∈ (Lexed.ofText source.text).tokens) :
    source.IsBoundary token.span.start ∧ source.IsBoundary token.span.stop := by
  rcases Lexed.standsAt_of_mem_tokens member with ⟨characters, here, _⟩
  exact ⟨here.isBoundary_start, here.isBoundary_stop⟩

theorem located_of_mem_malformedRuns {maxDepth : Nat} {error : SyntaxError}
    (member : error ∈ malformedRuns maxDepth source) : error.Located source := by
  rcases List.mem_filterMap.1 member with ⟨run, inRuns, failed⟩
  have fromText := (suffix_of_mem_runs inRuns).subset
  rcases Run.reaches_of_error? failed with ⟨_, span, shows, inBody | next⟩
  · rcases List.mem_map.1 inBody with ⟨token, inside, rfl⟩
    exact ⟨_, shows, isBoundary_of_mem_tokens (fromText (List.mem_append_left _ inside))⟩
  · subst next
    cases after : run.after with
    | nil =>
      rw [after] at shows
      exact ⟨_, shows, source.isBoundary_size, source.isBoundary_size⟩
    | cons token rest =>
      rw [after] at shows
      have inside : token ∈ run.after := by simp [after]
      exact ⟨_, shows, isBoundary_of_mem_tokens (fromText (List.mem_append_right _ inside))⟩

end StagePipeline.Program
