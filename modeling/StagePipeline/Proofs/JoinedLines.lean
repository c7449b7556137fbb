import StagePipeline.Proofs.CutRuns
import StagePipeline.Proofs.ErrorOrder

/-!
# Two texts on lines of their own

A line end that stands inside no parentheses always cuts a text in two: it ends comments,
numbers and names alike, and it ends the statement before it.  So nothing of the text in
front reaches into the text behind.  The statements of the whole are those of the parts,
and so are the errors.  An error at the end of the text in front now points at the line
end, where the end was.
-/

namespace StagePipeline.Program

open Text

namespace Lexed

theorem parensAfter_tokens (nesting : Nat) (pieces : List Piece) :
    parensAfter nesting (pieces.filterMap Piece.token?) = nestingAfter nesting pieces := by
  induction pieces generalizing nesting with
  | nil => rfl
  | cons piece rest inductive_hypothesis =>
    rcases piece with ⟨lexeme, start, characters⟩
    cases lexeme with
    | token kind => exact inductive_hypothesis _
    | _ => exact inductive_hypothesis nesting

/-- The parentheses that the lexer counts are those of its tokens. -/
theorem openParens_eq (text : String) : openParens text = parensAfter 0 (ofText text).tokens := by
  rw [ofText, scan_eq_pieces, parensAfter_tokens]
  rfl

end Lexed

/-- Without an open parenthesis at its end, a text may be cut there by a separator. -/
theorem cutBy_keeps_of_mem_sortedErrors {maxDepth : Nat} {source : SourceFile}
    (closed : Lexed.openParens source.text = 0) {separator : Token}
    (place : separator.span.start = source.size) {error : SyntaxError}
    (member : error ∈ sortedErrors maxDepth source) :
    (error.cutBy separator).kind = error.kind ∧
      (error.cutBy separator).offset? = error.offset? := by
  rcases mem_sortedErrors_iff.1 member with lexical | malformed
  · rw [SyntaxError.cutBy_lexical (Lexed.isLexical_of_mem_errors lexical)]
    exact ⟨rfl, rfl⟩
  · rcases List.mem_filterMap.1 malformed with ⟨run, inRuns, failed⟩
    rcases suffix_of_mem_runs inRuns with ⟨earlier, split⟩
    rw [Lexed.openParens_eq, ← split] at closed
    rcases Run.exists_blames_of_error? failed with ⟨stuck, blames, rfl⟩
    exact blames.cutBy_keeps place closed

namespace JoinedBy

variable {separator : Char} {kind : TokenKind} {front back joined : SourceFile}

theorem of_lineEnd (text : joined.text = front.text ++ "\n" ++ back.text)
    (closed : Lexed.openParens front.text = 0) : JoinedBy '\n' .lineEnd front back joined where
  text := by
    rw [text]
    simp
  cuts := ⟨by decide, by decide +kernel, .inl rfl⟩
  recognised := by
    intro rest
    rw [closed, Lexeme.recognise, if_pos rfl, if_pos rfl]
  separates := rfl
  narrow := rfl

variable (joins : JoinedBy separator kind front back joined)
  (closed : Lexed.openParens front.text = 0)
include joins closed

theorem malformedRuns_eq (maxDepth : Nat) :
    malformedRuns maxDepth joined =
      (malformedRuns maxDepth front).map (SyntaxError.cutBy (seam front kind)) ++
        (malformedRuns maxDepth back).map (SyntaxError.shift (front.size + 1)) := by
  rcases joins.runs_eq with ⟨later, separates, runs⟩
  have first : Run.error? (.ofSource maxDepth joined) ∘ (Run.before · separates) =
      fun run => (Run.error? (.ofSource maxDepth front) run).map
        (SyntaxError.cutBy (seam front kind)) :=
    funext fun run => run.error?_before separates rfl
  have second : Run.error? (.ofSource maxDepth joined) ∘ Run.shift (front.size + 1) =
      fun run => (Run.error? (.ofSource maxDepth back) run).map
        (SyntaxError.shift (front.size + 1)) := by
    funext run
    rw [Function.comp_apply, Bounds.ofSource, joins.size_eq]
    exact run.error?_shift _ _ _
  rw [malformedRuns, runs, List.filterMap_append, List.filterMap_map, List.filterMap_map,
    first, second, closed, malformedRuns, malformedRuns, List.map_filterMap, List.map_filterMap]
  rfl

theorem errors_eq :
    (Lexed.ofText joined.text).errors =
      (Lexed.ofText front.text).errors.map (SyntaxError.cutBy (seam front kind)) ++
        (Lexed.ofText back.text).errors.map (SyntaxError.shift (front.size + 1)) := by
  have kept : (Lexed.ofText front.text).errors.map (SyntaxError.cutBy (seam front kind)) =
      (Lexed.ofText front.text).errors :=
    calc
      _ = (Lexed.ofText front.text).errors.map id := List.map_congr_left fun _ member =>
        SyntaxError.cutBy_lexical (Lexed.isLexical_of_mem_errors member)
      _ = (Lexed.ofText front.text).errors := List.map_id _
  rw [joins.lexed_eq, closed, kept]
  rfl

/-- The errors of the whole are those of the parts, one part after the other. -/
theorem sortedErrors_eq (maxDepth : Nat) :
    sortedErrors maxDepth joined =
      (sortedErrors maxDepth front).map (SyntaxError.cutBy (seam front kind)) ++
        (sortedErrors maxDepth back).map (SyntaxError.shift (front.size + 1)) := by
  have kept : ∀ error ∈ sortedErrors maxDepth front,
      (error.cutBy (seam front kind)).offset? = error.offset? :=
    fun error member => (cutBy_keeps_of_mem_sortedErrors closed rfl member).2
  apply Program.sortedErrors_eq
  · rw [joins.errors_eq closed, joins.malformedRuns_eq closed]
    have first := (sortedErrors_perm maxDepth front).map (SyntaxError.cutBy (seam front kind))
    have second := (sortedErrors_perm maxDepth back).map (SyntaxError.shift (front.size + 1))
    apply (first.append second).trans
    rw [List.map_append, List.map_append, List.append_assoc]
    rw [List.append_assoc]
    exact (List.perm_append_comm_assoc _ _ _).append_left _
  · apply List.pairwise_append.2
    refine ⟨?_, ?_, ?_⟩
    · apply List.pairwise_map.2
      apply (pairwise_sortedErrors maxDepth front).imp_of_mem
      rintro left right leftMember rightMember ⟨first, second, leftOffset, rightOffset, less⟩
      refine ⟨first, second, ?_, ?_, less⟩
      · rw [kept left leftMember, leftOffset]
      · rw [kept right rightMember, rightOffset]
    · apply List.pairwise_map.2
      exact (pairwise_sortedErrors maxDepth back).imp fun before => before.shift _
    · intro error member other otherMember
      rcases List.mem_map.1 member with ⟨original, inFront, rfl⟩
      rcases List.mem_map.1 otherMember with ⟨moved, inBack, rfl⟩
      rcases located_of_mem_sortedErrors inFront with ⟨span, shows, starts, _⟩
      rcases located_of_mem_sortedErrors inBack with ⟨place, placed, _⟩
      refine ⟨span.start, place.start + (front.size + 1), ?_, ?_, ?_⟩
      · rw [kept original inFront, SyntaxError.offset?, shows, Option.map_some]
      · rw [SyntaxError.offset?_shift, SyntaxError.offset?, placed, Option.map_some,
          Option.map_some]
      · have within := starts.le_size
        omega

end JoinedBy

/--
A line end outside parentheses keeps two texts apart.  If the text in front leaves no
parenthesis open, a recovering parse of both with a line end between them gives the
statements of the text in front and those of the text behind, moved to the right; and it
gives the errors of the two in the same way.  Of the former only those at the end of the
text are put in other words, since the line end now stands there; their kinds and their
offsets stay.
-/
theorem lineEnd_separates_texts {front back joined : SourceFile}
    (text : joined.text = front.text ++ "\n" ++ back.text)
    (closed : Lexed.openParens front.text = 0) (maxDepth : Nat) :
    ∃ whole first second,
      parse ⟨true, maxDepth⟩ none joined = .ok whole ∧
      parse ⟨true, maxDepth⟩ none front = .ok first ∧
      parse ⟨true, maxDepth⟩ none back = .ok second ∧
      whole.tree.statements = first.tree.statements ++
        second.tree.statements.map (Stmt.shift (front.size + 1)) ∧
      whole.errors = first.errors.map (SyntaxError.cutBy (seam front .lineEnd)) ++
        second.errors.map (SyntaxError.shift (front.size + 1)) ∧
      (∀ error ∈ first.errors, (error.cutBy (seam front .lineEnd)).kind = error.kind ∧
        (error.cutBy (seam front .lineEnd)).offset? = error.offset?) ∧
      ∀ error ∈ second.errors, (error.shift (front.size + 1)).kind = error.kind ∧
        (error.shift (front.size + 1)).offset? = error.offset?.map (· + (front.size + 1)) := by
  have joins := JoinedBy.of_lineEnd text closed
  refine ⟨_, _, _, parse_recovering maxDepth joined, parse_recovering maxDepth front,
    parse_recovering maxDepth back, ?_, ?_, ?_, ?_⟩
  · show foundStatements maxDepth joined = foundStatements maxDepth front ++
      (foundStatements maxDepth back).map (Stmt.shift (front.size + 1))
    rw [joins.foundStatements_eq, statementsInside_eq (.inl closed)]
  · exact joins.sortedErrors_eq closed maxDepth
  · intro error member
    exact cutBy_keeps_of_mem_sortedErrors closed rfl member
  · intro error _
    exact ⟨error.kind_shift _, error.offset?_shift _⟩

/--
A comment and a sum without its second operand at the end of the text in front, a stray
character before them, and a parenthesis that the text behind leaves open.
-/
theorem lineEnd_separates_texts_unfinished :
    let front : SourceFile := ⟨"a.st", "?1\n2 + # ä"⟩
    let back : SourceFile := ⟨"a.st", "let x = 3\n(x\n"⟩
    let joined : SourceFile := ⟨"a.st", "?1\n2 + # ä\nlet x = 3\n(x\n"⟩
    joined.text = front.text ++ "\n" ++ back.text ∧ Lexed.openParens front.text = 0 ∧
      ∃ whole first second,
        parse ⟨true, 3⟩ none joined = .ok whole ∧
        parse ⟨true, 3⟩ none front = .ok first ∧
        parse ⟨true, 3⟩ none back = .ok second ∧
        whole.tree.statements.length = 2 ∧
        whole.errors = [.unexpectedChar '?' (.ofLength 0 1),
          .unexpectedToken .expression (some .lineEnd) (.ofLength 11 1),
          .unclosedParen (.ofLength 22 1)] := by
  intro front back joined
  have text : joined.text = front.text ++ "\n" ++ back.text := by decide +kernel
  have closed : Lexed.openParens front.text = 0 := by decide +kernel
  rcases lineEnd_separates_texts text closed 3 with
    ⟨whole, first, second, parsed, firstParsed, secondParsed, statements, errors, -⟩
  rcases Except.ok.inj (firstParsed.symm.trans (parse_recovering 3 front)) with rfl
  rcases Except.ok.inj (secondParsed.symm.trans (parse_recovering 3 back)) with rfl
  have firstStatements : (foundStatements 3 front).length = 1 := by decide +kernel
  have secondStatements : (foundStatements 3 back).length = 1 := by decide +kernel
  have firstAll : (Lexed.ofText front.text).errors ++ malformedRuns 3 front =
      [.unexpectedChar '?' (.ofLength 0 1), .unexpectedToken .expression none (.empty 11)] := by
    decide +kernel
  have secondAll : (Lexed.ofText back.text).errors ++ malformedRuns 3 back =
      [.unclosedParen (.ofLength 10 1)] := by
    decide +kernel
  refine ⟨text, closed, whole, _, _, parsed, firstParsed, secondParsed, ?_, ?_⟩
  · rw [statements, List.length_append, List.length_map, firstStatements, secondStatements]
  · rw [errors, firstAll, secondAll, List.mergeSort_singleton,
      mergeSort_of_before (List.pairwise_pair.2 ⟨0, 11, rfl, rfl, by decide⟩)]
    decide +kernel

end StagePipeline.Program
