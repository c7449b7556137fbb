import StagePipeline.Proofs.DepthLimit
import StagePipeline.Proofs.JoinedLines
import StagePipeline.Proofs.SpanFaithfulness

/-!
# A statement cut out of its text

The span of a statement begins with its first token and ends with its last one.  The lexer
can be started anew at the first and stopped behind the last: where a statement begins no
parenthesis is open, and what a lexeme takes does not depend on the text behind it.  So the
text at the span, read alone, has the tokens of the statement and no others, and all of
them stand as far to the left as the span begins.

Only accepted texts are covered.  Behind a statement that could not be read parentheses
may be open, and a line end that is skipped there is a token at the front of a text.
-/

namespace StagePipeline.Program

open Text

/-! ### Lexemes -/

/-- What passes a test at the front of a text is the same if the text ends no earlier. -/
theorem takeWhile_eq_of_length_le {α : Type} {test : α → Bool} {front back : List α}
    (within : ((front ++ back).takeWhile test).length ≤ front.length) :
    front.takeWhile test = (front ++ back).takeWhile test := by
  rw [List.takeWhile_append] at within ⊢
  split
  · rename_i all
    have nothing : back.takeWhile test = [] := by
      rw [if_pos all, List.length_append] at within
      exact List.length_eq_zero_iff.1 (by omega)
    rw [nothing, List.append_nil]
    exact (List.takeWhile_prefix test).eq_of_length all
  · rfl

namespace Lexeme

/-- A lexeme is the same if the text ends behind it. -/
theorem recognise_of_append {nesting more : Nat} {first : Char} {front back : List Char}
    {lexeme : Lexeme} (found : recognise nesting first (front ++ back) = (lexeme, more))
    (within : more ≤ front.length) : recognise nesting first front = (lexeme, more) := by
  have same : ∀ test : Char → Bool, more = ((front ++ back).takeWhile test).length →
      front.takeWhile test = (front ++ back).takeWhile test :=
    fun test length => takeWhile_eq_of_length_le (length ▸ within)
  rw [recognise] at found ⊢
  split at found
  case isTrue lineEnd => rwa [if_pos lineEnd]
  case isFalse inLine =>
  rw [if_neg inLine]
  split at found
  case isTrue blank => rwa [if_pos blank]
  case isFalse solid =>
  rw [if_neg solid]
  split at found
  case isTrue sign => rwa [if_pos sign, same _ (Prod.mk.inj found).2.symm]
  case isFalse code =>
  rw [if_neg code]
  split at found
  case h_1 kind sign => exact found
  case h_2 noSign =>
  split at found
  case isTrue digit => rwa [if_pos digit, same _ (Prod.mk.inj found).2.symm]
  case isFalse noDigit =>
  rw [if_neg noDigit]
  split at found
  case isTrue letter => rwa [if_pos letter, same _ (Prod.mk.inj found).2.symm]
  case isFalse noLetter => rwa [if_neg noLetter]

end Lexeme

namespace Lexed

/-- Between two pieces a text can be cut: both parts have the pieces they had in the whole. -/
theorem exists_cut {nesting offset : Nat} {text : List Char} {before after : List Piece}
    (cut : pieces nesting offset text = before ++ after) :
    ∃ front back, text = front ++ back ∧ pieces nesting offset front = before ∧
      pieces (nestingAfter nesting before) (offset + width front) back = after := by
  induction before generalizing nesting offset text with
  | nil => exact ⟨[], text, rfl, by rw [pieces], cut⟩
  | cons piece before inductive_hypothesis =>
    cases text with
    | nil =>
      rw [pieces, List.cons_append] at cut
      exact absurd cut.symm (List.cons_ne_nil _ _)
    | cons first rest =>
      cases found : Lexeme.recognise nesting first rest with
      | mk lexeme more =>
        have within : more ≤ rest.length := by
          have length := Lexeme.recognise_snd_le nesting first rest
          rwa [found] at length
        rw [pieces, found] at cut
        rcases List.cons.inj cut with ⟨rfl, later⟩
        rcases inductive_hypothesis later with ⟨front, back, split, inFront, inBack⟩
        have rejoined : rest = (rest.take more ++ front) ++ back := by
          rw [List.append_assoc, ← split, List.take_append_drop]
        have taken : (rest.take more).length = more := List.length_take_of_le within
        have alone : Lexeme.recognise nesting first (rest.take more ++ front) =
            (lexeme, more) := by
          apply Lexeme.recognise_of_append (rejoined ▸ found)
          rw [List.length_append, taken]
          exact Nat.le_add_right _ _
        refine ⟨first :: (rest.take more ++ front), back, ?_, ?_, ?_⟩
        · rw [List.cons_append, ← rejoined]
        · rw [pieces, alone]
          dsimp only
          rw [List.take_left' taken, List.drop_left' taken, inFront]
        · rw [← inBack]
          simp only [Piece.span_stop, width_cons, width_append, Nat.add_assoc]
          rfl

end Lexed

/-! ### The ends of a span -/

theorem Tiles.start_eq {start finish : Nat} {piece : Piece} {later : List Piece}
    (tiles : Tiles start (piece :: later) finish) : piece.span.start = start := by
  cases tiles
  rfl

theorem Tiles.stop_eq {start finish : Nat} {piece : Piece} {earlier : List Piece}
    (tiles : Tiles start (earlier ++ [piece]) finish) : piece.span.stop = finish := by
  induction earlier generalizing start with
  | nil =>
    cases tiles with
    | cons nonempty follows =>
      generalize piece.span.stop = stop at follows ⊢
      cases follows
      rfl
  | cons other earlier inductive_hypothesis =>
    cases tiles with
    | cons nonempty follows => exact inductive_hypothesis follows

/-- The span begins with the first of the tokens and ends with the last of them. -/
structure Spanning (tokens : List Token) (span : Span) : Prop where
  begins : tokens.head?.map (·.span.start) = some span.start
  ends : tokens.getLast?.map (·.span.stop) = some span.stop

namespace Spanning

theorem single (token : Token) : Spanning [token] token.span :=
  ⟨rfl, rfl⟩

/-- Two spans are joined to the span of all tokens from the first to the last. -/
theorem join {source : SourceFile} {before after : List Token} {left right : Span}
    (first : Spanning before left) (middle : List Token) (second : Spanning after right)
    (standIn : StandIn source (before ++ (middle ++ after))) :
    Spanning (before ++ (middle ++ after)) (left.join right) := by
  rcases first with ⟨begins, leftEnds⟩
  rcases second with ⟨rightBegins, ends⟩
  rcases Option.map_eq_some_iff.1 begins with ⟨opening, isFirst, starts⟩
  rcases Option.map_eq_some_iff.1 leftEnds with ⟨last, isLast, leftStops⟩
  rcases Option.map_eq_some_iff.1 rightBegins with ⟨next, isNext, rightStarts⟩
  rcases Option.map_eq_some_iff.1 ends with ⟨closing, isClosing, stops⟩
  have apart : left.stop ≤ right.start := by
    rw [← leftStops, ← rightStarts]
    exact standIn.apart (List.mem_of_getLast? isLast)
      (List.mem_append_right _ (List.mem_of_head? isNext))
  rcases Span.join_of_apart apart with ⟨joinStarts, joinStops⟩
  constructor
  · rw [List.head?_append, isFirst, joinStarts, ← starts]
    rfl
  · rw [List.getLast?_append, List.getLast?_append, isClosing, joinStops, ← stops]
    rfl

end Spanning

theorem Expr.Spells.spanning {source : SourceFile} {expr : Expr} {tokens : List Token}
    (spells : expr.Spells tokens) (standIn : StandIn source tokens) :
    Spanning tokens expr.span := by
  induction spells with
  | number value span => exact .single _
  | name name span => exact .single _
  | negation sign inner inductive_hypothesis =>
    exact (Spanning.single ⟨.minus, sign⟩).join [] (inductive_hypothesis standIn.tail) standIn
  | @binary left right before after op sign first second firstSpans secondSpans =>
    have inFront := firstSpans (standIn.sublist (List.sublist_append_left _ _))
    have behind := secondSpans (standIn.sublist
      ((List.sublist_cons_self _ _).trans (List.sublist_append_right _ _)))
    exact inFront.join [⟨op.sign, sign⟩] behind standIn
  | @group inner tokens opening closing within inductive_hypothesis =>
    exact (Spanning.single ⟨.leftParen, opening⟩).join tokens
      (.single ⟨.rightParen, closing⟩) standIn

/-- The span of a statement is that of its tokens from the first to the last. -/
theorem Stmt.Spells.spanning {source : SourceFile} {statement : Stmt} {tokens : List Token}
    (spells : statement.Spells tokens) (standIn : StandIn source tokens) :
    Spanning tokens statement.span := by
  cases spells with
  | bare value => exact value.spanning standIn
  | binding name start place sign bound =>
    exact (Spanning.single ⟨.letWord, start⟩).join [⟨.ident name, place⟩, ⟨.equals, sign⟩]
      (bound.spanning standIn.tail.tail.tail) standIn

/-! ### Parentheses between statements -/

/-- The tokens close the parentheses that they open, and no others. -/
def Balanced (tokens : List Token) : Prop :=
  ∀ nesting, parensAfter nesting tokens = nesting

namespace Balanced

theorem append {left right : List Token} (first : Balanced left) (second : Balanced right) :
    Balanced (left ++ right) := by
  intro nesting
  rw [parensAfter_append, first, second]

theorem takeWhile_isSeparator (tokens : List Token) :
    Balanced (tokens.takeWhile (·.kind.isSeparator)) := by
  intro nesting
  induction tokens with
  | nil => rfl
  | cons token rest inductive_hypothesis =>
    rw [List.takeWhile_cons]
    split
    · rename_i separates
      have counts : (Lexeme.token token.kind).nestingAfter nesting = nesting := by
        rcases token with ⟨kind, span⟩
        cases kind with
        | semicolon | lineEnd => rfl
        | _ => exact nomatch separates
      rw [parensAfter_cons, counts, inductive_hypothesis]
    · rfl

end Balanced

theorem Stmt.Spells.balanced {statement : Stmt} {tokens : List Token}
    (spells : statement.Spells tokens) : Balanced tokens := by
  intro nesting
  cases spells with
  | bare value => exact value.parensAfter_eq nesting
  | binding name start place sign bound => exact bound.parensAfter_eq nesting

/-- If no run leaves a parenthesis open, none is open in front of any of them. -/
theorem exists_balanced_before {tokens : List Token}
    (balanced : ∀ run ∈ runs tokens, Balanced run.body) :
    ∀ run ∈ runs tokens, ∃ earlier, tokens = earlier ++ (run.body ++ run.after) ∧
      Balanced earlier := by
  induction tokens using runs_induction with
  | without tokens here none =>
    intro run member
    rw [none] at member
    exact absurd member List.not_mem_nil
  | first tokens opening here all inductive_hypothesis =>
    have whole : tokens =
        tokens.takeWhile (·.kind.isSeparator) ++ (opening.body ++ opening.after) := by
      rw [← here, afterSeparators, List.takeWhile_append_dropWhile]
    have skipped := Balanced.takeWhile_isSeparator tokens
    rw [all] at balanced
    rcases List.forall_mem_cons.1 balanced with ⟨opens, others⟩
    intro run member
    rw [all] at member
    rcases List.mem_cons.1 member with rfl | later
    · exact ⟨_, whole, skipped⟩
    · rcases inductive_hypothesis others run later with ⟨earlier, split, closed⟩
      refine ⟨_ ++ (opening.body ++ earlier), ?_, skipped.append (opens.append closed)⟩
      rw [List.append_assoc, List.append_assoc, ← split]
      exact whole

/-! ### The slice at a statement -/

section Selected

variable {α β : Type} {select : α → Option β} {items : List α}

theorem exists_from_first {body : List β} (selected : items.filterMap select = body)
    (nonempty : body ≠ []) :
    ∃ skipped rest, items = skipped ++ rest ∧ skipped.filterMap select = [] ∧
      rest.head?.bind select = body.head? := by
  rcases List.exists_cons_of_ne_nil nonempty with ⟨first, more, rfl⟩
  rcases List.filterMap_eq_cons_iff.1 selected with ⟨skipped, opening, rest, rfl, none, found, -⟩
  exact ⟨skipped, opening :: rest, rfl, List.filterMap_eq_nil_iff.2 none, found⟩

theorem exists_to_last {body : List β} (selected : items.filterMap select = body)
    (nonempty : body ≠ []) :
    ∃ front skipped, items = front ++ skipped ∧ skipped.filterMap select = [] ∧
      front.head? = items.head? ∧ front.getLast?.bind select = body.getLast? := by
  rcases List.eq_nil_or_concat' body with rfl | ⟨more, last, rfl⟩
  · exact absurd rfl nonempty
  rcases List.filterMap_eq_append_iff.1 selected with ⟨inside, rest, rfl, -, atEnd⟩
  rcases List.filterMap_eq_cons_iff.1 atEnd with ⟨between, closing, skipped, rfl, -, found, none⟩
  refine ⟨inside ++ (between ++ [closing]), skipped, by simp, none, ?_, ?_⟩
  · simp only [List.head?_append, List.head?_cons]
  · rw [List.getLast?_append, List.getLast?_append, List.getLast?_singleton,
      List.getLast?_append, List.getLast?_singleton]
    exact found

/-- What is selected in the middle is selected from a part that begins and ends with it. -/
theorem exists_trimmed {earlier body later : List β}
    (selected : items.filterMap select = earlier ++ (body ++ later)) (nonempty : body ≠ []) :
    ∃ before middle behind, items = before ++ (middle ++ behind) ∧
      before.filterMap select = earlier ∧ middle.filterMap select = body ∧
      middle.head?.bind select = body.head? ∧ middle.getLast?.bind select = body.getLast? := by
  rcases List.filterMap_eq_append_iff.1 selected with ⟨front, rest, rfl, inFront, selectedRest⟩
  rcases List.filterMap_eq_append_iff.1 selectedRest with ⟨inside, back, rfl, inInside, -⟩
  rcases exists_from_first inInside nonempty with ⟨skipped, kept, rfl, nothing, first⟩
  rw [List.filterMap_append, nothing, List.nil_append] at inInside
  rcases exists_to_last inInside nonempty with ⟨middle, passed, rfl, none, same, last⟩
  rw [List.filterMap_append, none, List.append_nil] at inInside
  refine ⟨front ++ skipped, middle, passed ++ back, by simp, ?_, inInside, ?_, last⟩
  · rw [List.filterMap_append, inFront, nothing, List.append_nil]
  · rw [same, first]

end Selected

/-- Where no parenthesis is open in front of some tokens, the text at their span has just these. -/
theorem Lexed.exists_slice {source : SourceFile} {earlier body later : List Token} {span : Span}
    (tokens : (ofText source.text).tokens = earlier ++ (body ++ later))
    (balanced : Balanced earlier) (spanning : Spanning body span) :
    ∃ slice, source.slice? span = some slice ∧
      (ofText slice).tokens.map (Token.shift span.start) = body ∧
      ((ofText slice).errors.map (SyntaxError.shift span.start)).Sublist
        (ofText source.text).errors := by
  have nonempty : body ≠ [] := by
    rintro rfl
    exact nomatch spanning.begins
  rw [ofText, scan_eq_pieces] at tokens
  rcases exists_trimmed tokens nonempty with
    ⟨before, middle, behind, split, inFront, inMiddle, first, last⟩
  rcases exists_cut split with ⟨front, rest, text, piecesFront, cutRest⟩
  rcases exists_cut cutRest with ⟨characters, back, rfl, piecesMiddle, -⟩
  have closed : nestingAfter 0 before = 0 := by
    rw [← parensAfter_tokens, inFront]
    exact balanced 0
  rw [closed, Nat.zero_add] at piecesMiddle
  have tiles := tiles_pieces 0 (width front) characters
  rw [piecesMiddle] at tiles
  have starts : width front = span.start := by
    rcases Option.map_eq_some_iff.1 spanning.begins with ⟨token, isFirst, starts⟩
    rw [isFirst] at first
    rcases Option.bind_eq_some_iff.1 first with ⟨piece, opens, found⟩
    rcases List.head?_eq_some_iff.1 opens with ⟨others, rfl⟩
    rw [← starts, Piece.span_of_token? found, tiles.start_eq]
  have stops : width front + width characters = span.stop := by
    rcases Option.map_eq_some_iff.1 spanning.ends with ⟨token, isLast, stops⟩
    rw [isLast] at last
    rcases Option.bind_eq_some_iff.1 last with ⟨piece, closes, found⟩
    rcases List.getLast?_eq_some_iff.1 closes with ⟨others, rfl⟩
    rw [← stops, Piece.span_of_token? found, tiles.stop_eq]
  have stands : StandsAt source.text.toList span characters := ⟨front, back, text, starts, stops⟩
  have moved : (ofText (String.ofList characters)).shift span.start =
      ⟨body, middle.filterMap Piece.error?⟩ := by
    rw [ofText, String.toList_ofList, ← scan_add, ← starts, scan_eq_pieces, piecesMiddle, inMiddle]
  have movedErrors : (ofText (String.ofList characters)).errors.map
      (SyntaxError.shift span.start) = middle.filterMap Piece.error? :=
    congrArg Lexed.errors moved
  refine ⟨String.ofList characters, stands.slice?, congrArg Lexed.tokens moved, ?_⟩
  rw [movedErrors, ofText, scan_eq_pieces]
  apply List.Sublist.filterMap
  rw [split]
  exact (List.sublist_append_left _ _).trans (List.sublist_append_right _ _)

/--
A statement is what its span holds.  If a strict parse accepts a text, then the text at the
span of each of its statements is accepted within the same limit, and it is that statement
and nothing else, with all spans as far to the left as the statement begins.
-/
theorem statement_is_parse_of_slice {source : SourceFile} {maxDepth : Nat} {output : ParseOutput}
    (parsed : parse ⟨false, maxDepth⟩ none source = .ok output) {statement : Stmt}
    (member : statement ∈ output.tree.statements) (name : String) :
    ∃ slice moved, source.slice? statement.span = some slice ∧
      parse ⟨false, maxDepth⟩ none ⟨name, slice⟩ = .ok ⟨⟨[moved]⟩, []⟩ ∧
      moved.shift statement.span.start = statement := by
  have clean : (Lexed.ofText source.text).errors = [] :=
    (parse_strict_eq_ok_iff_need.1 parsed).1.lexed
  have wellFormed : malformedRuns maxDepth source = [] :=
    ((parse_strict_eq_ok_iff clean).1 parsed).1
  have balanced : ∀ run ∈ runs (Lexed.ofText source.text).tokens, Balanced run.body := by
    intro run inRuns
    have noError := malformedRuns_eq_nil_iff.1 wellFormed run inRuns
    rcases Run.statement?_eq_some_of_error?_eq_none noError with ⟨value, -, fits⟩
    exact fits.spells.balanced
  rcases fits_of_parse parsed statement member with ⟨run, inRuns, fits⟩
  rcases exists_balanced_before balanced run inRuns with ⟨earlier, tokens, closed⟩
  have standIn : StandIn source run.body := by
    apply (StandIn.ofText source).sublist
    rw [tokens]
    exact (List.sublist_append_left _ _).trans (List.sublist_append_right _ _)
  have spanning := fits.spells.spanning standIn
  rcases Lexed.exists_slice tokens closed spanning with ⟨slice, found, body, errors⟩
  have sliceClean : (Lexed.ofText slice).errors = [] := by
    rw [clean] at errors
    exact List.map_eq_nil_iff.1 (List.sublist_nil.1 errors)
  have shifted : ∃ moved : Stmt,
      moved.Fits (.ofSource maxDepth ⟨name, slice⟩) (Lexed.ofText slice).tokens ∧
        moved.shift statement.span.start = statement := by
    rw [← body] at fits
    exact fits.exists_shift rfl
  rcases shifted with ⟨moved, movedFits, same⟩
  exact ⟨slice, moved, found, parse_of_fits sliceClean movedFits false, same⟩

/-- A statement over two lines, behind a comment and before a semicolon. -/
theorem statement_is_parse_of_slice_over_lines :
    let source : SourceFile := ⟨"a.st", "let é = (1\n+ 2) # one\n-(x\n* 3); y"⟩
    ∃ output, parse ⟨false, 3⟩ none source = .ok output ∧
      ∃ statement ∈ output.tree.statements, statement.span = .ofLength 23 8 ∧
        ∃ moved, parse ⟨false, 3⟩ none ⟨"b.st", "-(x\n* 3)"⟩ = .ok ⟨⟨[moved]⟩, []⟩ ∧
          moved.shift 23 = statement := by
  intro source
  have clean : (Lexed.ofText source.text).errors = [] := by decide +kernel
  have wellFormed : malformedRuns 3 source = [] := by decide +kernel
  have parsed : parse ⟨false, 3⟩ none source = .ok ⟨⟨foundStatements 3 source⟩, []⟩ :=
    (parse_strict_eq_ok_iff clean).2 ⟨wellFormed, rfl⟩
  have second : (foundStatements 3 source)[1]?.map (·.span) = some (.ofLength 23 8) := by
    decide +kernel
  rcases Option.map_eq_some_iff.1 second with ⟨statement, found, place⟩
  have member : statement ∈ foundStatements 3 source := List.mem_of_getElem? found
  rcases statement_is_parse_of_slice parsed member "b.st" with ⟨slice, moved, cut, alone, same⟩
  have written : source.slice? (.ofLength 23 8) = some "-(x\n* 3)" := by decide +kernel
  rw [place] at cut same
  rcases Option.some.inj (cut.symm.trans written) with rfl
  exact ⟨_, parsed, statement, member, place, moved, alone, same⟩

end StagePipeline.Program
