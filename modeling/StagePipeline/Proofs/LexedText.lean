import StagePipeline.Proofs.SpelledRuns

/-!
# What the lexer says of a text

Tokens and errors are tied to the text alone: `Lexed.AccountsFor` says of two lists that
their spans take all the characters that are not to be skipped and none twice, that each
token is what its own characters are, that the words are those that `WordAt` finds, and
that each number `NumberAt` finds is a token or an error, as its value demands.  The main
result is that the lexer answers so for every text, and that behind the tokens stands one
mark for the end of the text.
-/

namespace StagePipeline.Program

open Text

/-! ### Lexemes by their kind -/

namespace Lexeme

variable {digits letters : List Char}

theorem ofDigits_eq_int_iff {value : Int64} :
    ofDigits digits = .token (.int value) ↔
      placeValue digits < Nat.pow 2 63 ∧ value.toInt = placeValue digits := by
  rw [ofDigits, decimalValue_eq_placeValue]
  by_cases fits : placeValue digits < Nat.pow 2 63
  · have same : (Int64.ofNat (placeValue digits)).toInt = placeValue digits :=
      Int64.toInt_ofNat_of_lt fits
    rw [if_pos fits]
    constructor
    · intro found
      rcases TokenKind.int.inj (token.inj found) with rfl
      exact ⟨fits, same⟩
    · rintro ⟨-, valued⟩
      rw [Int64.toInt_inj.1 (valued.trans same.symm)]
  · rw [if_neg fits]
    refine iff_of_false ?_ fun both => fits both.1
    intro found
    cases found

theorem ofDigits_eq_tooLarge_iff {shown : List Char} :
    ofDigits digits = .tooLarge shown ↔ Nat.pow 2 63 ≤ placeValue digits ∧ digits = shown := by
  rw [ofDigits, decimalValue_eq_placeValue]
  by_cases fits : placeValue digits < Nat.pow 2 63
  · rw [if_pos fits]
    refine iff_of_false ?_ fun both => absurd fits (Nat.not_lt_of_le both.1)
    intro found
    cases found
  · rw [if_neg fits]
    constructor
    · exact fun found => ⟨Nat.le_of_not_lt fits, tooLarge.inj found⟩
    · rintro ⟨-, rfl⟩
      rfl

/-- A word is no number. -/
theorem ofWord_ne (letters digits : List Char) (value : Int64) :
    ofWord letters ≠ .token (.int value) ∧ ofWord letters ≠ .tooLarge digits := by
  rw [ofWord]
  split <;> simp

/-- A number is no word. -/
theorem ofDigits_ne (digits : List Char) (name : String) :
    ofDigits digits ≠ .token .letWord ∧ ofDigits digits ≠ .token (.ident name) := by
  rw [ofDigits]
  split <;> simp

theorem ofWord_eq_letWord_iff :
    ofWord letters = .token .letWord ↔ letters = ['l', 'e', 't'] := by
  rw [ofWord]
  split
  · exact iff_of_true rfl ‹_›
  · refine iff_of_false ?_ ‹_›
    intro found
    cases found

theorem ofWord_eq_ident_iff {name : String} :
    ofWord letters = .token (.ident name) ↔ name ≠ "let" ∧ letters = name.toList := by
  have shown : letters = name.toList ↔ String.ofList letters = name := by
    constructor
    · rintro rfl
      exact String.ofList_toList
    · rintro rfl
      exact String.toList_ofList.symm
  rw [ofWord]
  split
  · rename_i isLet
    refine iff_of_false ?_ ?_
    · intro found
      cases found
    · rintro ⟨other, same⟩
      exact other (String.toList_inj.1 (same.symm.trans isLet))
  · rename_i notLet
    constructor
    · intro found
      rcases TokenKind.ident.inj (token.inj found) with rfl
      refine ⟨fun same => notLet ?_, String.toList_ofList.symm⟩
      rw [← String.toList_ofList (l := letters), same]
      rfl
    · rintro ⟨-, same⟩
      rw [shown.1 same]

end Lexeme

/-! ### Tokens and errors by their piece -/

namespace Lexed

section Membership

variable {text : String} {span : Span}

theorem mem_tokens_iff {kind : TokenKind} :
    ⟨kind, span⟩ ∈ (ofText text).tokens ↔
      ∃ piece ∈ pieces 0 0 text.toList, piece.lexeme = .token kind ∧ piece.span = span := by
  rw [ofText, scan_eq_pieces, List.mem_filterMap]
  refine exists_congr fun piece => and_congr_right fun _ => ?_
  rw [Piece.token?]
  cases piece.lexeme <;> simp [Lexeme.token?]

theorem integerOverflow_mem_errors_iff {shown : String} :
    .integerOverflow shown span ∈ (ofText text).errors ↔
      ∃ piece ∈ pieces 0 0 text.toList, piece.lexeme = .tooLarge shown.toList ∧
        piece.span = span := by
  rw [ofText, scan_eq_pieces, List.mem_filterMap]
  refine exists_congr fun piece => and_congr_right fun _ => ?_
  have same : ∀ digits, String.ofList digits = shown ↔ digits = shown.toList := by
    intro digits
    constructor
    · rintro rfl
      exact String.toList_ofList.symm
    · rintro rfl
      exact String.ofList_toList
  rw [Piece.error?]
  cases piece.lexeme <;> simp [Lexeme.error?, same]

/-- What the lexer takes at a span as a word, and what as a number. -/
theorem exists_piece_iff {lexeme : Lexeme} (run : lexeme.isRun = true) :
    (∃ piece ∈ pieces 0 0 text.toList, piece.lexeme = lexeme ∧ piece.span = span) ↔
      (∃ letters, WordAt text.toList span letters ∧ Lexeme.ofWord letters = lexeme) ∨
        ∃ digits, NumberAt text.toList span digits ∧ Lexeme.ofDigits digits = lexeme := by
  constructor
  · rintro ⟨piece, member, rfl, same⟩
    rcases exists_beginsAt_of_mem member with ⟨front, first, rest, more, place⟩
    have kept : piece.lexeme ≠ .blank := by
      intro skipped
      rw [skipped] at run
      cases run
    rcases place.spelled_or_single kept with spelled | spelled | ⟨-, -, other⟩
    · refine .inr ⟨piece.characters, numberAt_iff.2 ⟨piece, member, spelled, same, rfl⟩,
        spelled.lexeme_eq.symm⟩
    · refine .inl ⟨piece.characters, wordAt_iff.2 ⟨piece, member, spelled, same, rfl⟩,
        spelled.lexeme_eq.symm⟩
    · exact absurd (other.symm.trans run) Bool.false_ne_true
  · rintro (⟨letters, word, rfl⟩ | ⟨digits, number, rfl⟩)
    · rcases wordAt_iff.1 word with ⟨piece, member, spelled, same, rfl⟩
      exact ⟨piece, member, spelled.lexeme_eq, same⟩
    · rcases numberAt_iff.1 number with ⟨piece, member, spelled, same, rfl⟩
      exact ⟨piece, member, spelled.lexeme_eq, same⟩

end Membership

section Runs

variable {text : String} {span : Span}

theorem int_mem_tokens_iff {value : Int64} :
    ⟨.int value, span⟩ ∈ (ofText text).tokens ↔
      ∃ digits, NumberAt text.toList span digits ∧ placeValue digits < Nat.pow 2 63 ∧
        value.toInt = placeValue digits := by
  rw [mem_tokens_iff, exists_piece_iff rfl]
  simp only [(Lexeme.ofWord_ne _ [] value).1, and_false, exists_false, false_or,
    Lexeme.ofDigits_eq_int_iff]

theorem tooLarge_mem_errors_iff {shown : String} :
    .integerOverflow shown span ∈ (ofText text).errors ↔
      NumberAt text.toList span shown.toList ∧ Nat.pow 2 63 ≤ placeValue shown.toList := by
  rw [integerOverflow_mem_errors_iff, exists_piece_iff rfl]
  simp only [(Lexeme.ofWord_ne _ shown.toList 0).2, and_false, exists_false, false_or,
    Lexeme.ofDigits_eq_tooLarge_iff]
  constructor
  · rintro ⟨digits, number, large, rfl⟩
    exact ⟨number, large⟩
  · rintro ⟨number, large⟩
    exact ⟨shown.toList, number, large, rfl⟩

theorem letWord_mem_tokens_iff :
    ⟨.letWord, span⟩ ∈ (ofText text).tokens ↔ WordAt text.toList span ['l', 'e', 't'] := by
  rw [mem_tokens_iff, exists_piece_iff rfl]
  simp only [(Lexeme.ofDigits_ne _ "").1, and_false, exists_false, or_false,
    Lexeme.ofWord_eq_letWord_iff, exists_eq_right]

theorem ident_mem_tokens_iff {name : String} :
    ⟨.ident name, span⟩ ∈ (ofText text).tokens ↔
      name ≠ "let" ∧ WordAt text.toList span name.toList := by
  rw [mem_tokens_iff, exists_piece_iff rfl]
  simp only [(Lexeme.ofDigits_ne _ name).2, and_false, exists_false, or_false,
    Lexeme.ofWord_eq_ident_iff]
  constructor
  · rintro ⟨letters, word, other, rfl⟩
    exact ⟨other, word⟩
  · rintro ⟨other, word⟩
    exact ⟨name.toList, word, other, rfl⟩

end Runs

/-- A token that is cut out of its text and read alone is the same token. -/
theorem ofText_slice {source : SourceFile} {token : Token}
    (member : token ∈ (ofText source.text).tokens) :
    ∃ slice, source.slice? token.span = some slice ∧
      ofText slice = { tokens := [⟨token.kind, .ofLength 0 (width slice.toList)⟩] } := by
  rcases token with ⟨kind, span⟩
  rcases mem_tokens_iff.1 member with ⟨piece, inText, isToken, rfl⟩
  rcases exists_beginsAt_of_mem inText with ⟨front, first, rest, more, place⟩
  have alone := place.begins.recognise_alone isToken
  refine ⟨String.ofList piece.characters, place.standsAt.slice?, ?_⟩
  rw [String.toList_ofList, ofText, String.toList_ofList, place.characters, scan]
  simp only [alone, List.take_length, List.drop_length]
  rw [scan]
  rfl

theorem errors_inOrder (text : String) :
    SpansInOrder (width text.toList) ((ofText text).errors.filterMap (·.span?)) := by
  have tiles := tiles_pieces 0 0 text.toList
  rw [Nat.zero_add] at tiles
  have same : ∀ (piece : Piece) (span : Span), piece.error?.bind (·.span?) = some span →
      id span = piece.span := by
    intro piece span found
    rcases Option.bind_eq_some_iff.1 found with ⟨error, isError, spanned⟩
    exact Option.some.inj (spanned.symm.trans (Piece.of_error? isError).1)
  have part := map_filterMap_sublist same (pieces 0 0 text.toList)
  rw [List.map_id] at part
  rw [ofText, scan_eq_pieces, List.filterMap_filterMap]
  exact tiles.inOrder.sublist part

theorem isSome_span?_of_mem_errors {text : String} {error : SyntaxError}
    (member : error ∈ (ofText text).errors) : error.span?.isSome = true := by
  rcases standsAt_of_mem_errors member with ⟨span, characters, spanned, -⟩
  rw [spanned]
  rfl

end Lexed

/-! ### The whole answer -/

/-- What is true of the tokens and errors of a source, said without a lexer. -/
structure Lexed.AccountsFor (lexed : Lexed) (source : SourceFile) : Prop where
  /-- Every span takes characters of the text, and none of them in part. -/
  covers : ∀ span ∈ lexed.spans, source.Covers span
  /-- No two spans overlap, whether of a token or of an error. -/
  apart : lexed.spans.Pairwise Span.Apart
  tokensInOrder : SpansInOrder source.size (lexed.tokens.map (·.span))
  errorsInOrder : SpansInOrder source.size (lexed.errors.filterMap (·.span?))
  located : ∀ error ∈ lexed.errors, error.span?.isSome = true
  /-- Outside of all spans are comments, blanks and the line ends inside parentheses. -/
  skips : ∀ before character after, source.text.toList = before ++ character :: after →
    ((∀ span ∈ lexed.spans, ¬ span.Contains (width before)) ↔
      EndsInComment (before ++ [character]) ∨ (character ≠ '\n' ∧ isBlank character = true) ∨
        (character = '\n' ∧ 0 < (Outline.ofText before).nesting))
  /-- A token that is cut out of the text and read alone is the same token. -/
  alone : ∀ token ∈ lexed.tokens, ∃ slice, source.slice? token.span = some slice ∧
    ofText slice = { tokens := [⟨token.kind, .ofLength 0 (width slice.toList)⟩] }
  letWords : ∀ span : Span, ⟨.letWord, span⟩ ∈ lexed.tokens ↔
    WordAt source.text.toList span ['l', 'e', 't']
  names : ∀ (name : String) (span : Span), ⟨.ident name, span⟩ ∈ lexed.tokens ↔
    name ≠ "let" ∧ WordAt source.text.toList span name.toList
  /-- A number whose value fits in 64 bits with a sign is a token with that value. -/
  numbers : ∀ (value : Int64) (span : Span), ⟨.int value, span⟩ ∈ lexed.tokens ↔
    ∃ digits, NumberAt source.text.toList span digits ∧ placeValue digits < Nat.pow 2 63 ∧
      value.toInt = placeValue digits
  /-- A number whose value does not fit is an error that shows its digits. -/
  overflows : ∀ (shown : String) (span : Span), .integerOverflow shown span ∈ lexed.errors ↔
    NumberAt source.text.toList span shown.toList ∧ Nat.pow 2 63 ≤ placeValue shown.toList

theorem Lexed.accountsFor_ofText (source : SourceFile) :
    (ofText source.text).AccountsFor source where
  covers _ := covers_of_mem_spans
  apart := spans_apart source.text
  tokensInOrder := tokens_inOrder source.text
  errorsInOrder := errors_inOrder source.text
  located _ := isSome_span?_of_mem_errors
  skips _ _ _ := outside_spans_iff
  alone _ := ofText_slice
  letWords _ := letWord_mem_tokens_iff
  names _ _ := ident_mem_tokens_iff
  numbers _ _ := int_mem_tokens_iff
  overflows _ _ := tooLarge_mem_errors_iff

/--
When nothing stops the reading, the lexer accounts for the text: the tokens stand in the
array before one last mark, at the end of the text, and with the errors they are all that
the text holds outside of comments, blanks and line ends inside parentheses.
-/
theorem lexer_accounts_for_text (setup : Setup) (quiet : setup.Quiet) {fuel : Nat}
    (enough : setup.source.text.length < fuel) (cursor : Cursor) :
    ∃ lexed left, Lexed.ofText? none setup.source.text = .ok lexed ∧
      Checked.scan setup 0 0 (Checked.indexed 0 setup.source.text.toList) [] [] fuel cursor =
        some (.ok (lexed.tokens.map Token.mark ++ [(none, Span.empty setup.source.size)],
          lexed.errors), left) ∧
      lexed.AccountsFor setup.source := by
  rcases Checked.scan_text_eq setup enough cursor with ⟨left, run⟩ | ⟨error, -, -, interrupts⟩
  · exact ⟨Lexed.ofText setup.source.text, left, rfl, run,
      Lexed.accountsFor_ofText setup.source⟩
  · exact absurd interrupts quiet.not_interrupts

/-- A sum over two lines, with a comment and a number too large, and zeros before a number. -/
theorem lexer_accounts_for_text_with_overflow :
    let setup : Setup :=
      ⟨⟨"sum.st", "(1\n+)# one\nlet é2 = 9223372036854775808 007"⟩, {}, fun _ => none⟩
    setup.Quiet ∧ setup.source.text.length < 64 ∧
      ∃ lexed left, Lexed.ofText? none setup.source.text = .ok lexed ∧
        Checked.scan setup 0 0 (Checked.indexed 0 setup.source.text.toList) [] [] 64 {} =
          some (.ok (lexed.tokens.map Token.mark ++ [(none, Span.empty 44)],
            lexed.errors), left) ∧
        lexed.AccountsFor setup.source ∧
        lexed.tokens.map (·.kind) = [.leftParen, .int 1, .plus, .rightParen, .lineEnd, .letWord,
          .ident "é2", .equals, .int 7] ∧
        lexed.errors = [.integerOverflow "9223372036854775808" ⟨21, 40, by decide⟩] := by
  intro setup
  have quiet : setup.Quiet := fun _ => rfl
  have enough : setup.source.text.length < 64 := by decide +kernel
  rcases lexer_accounts_for_text setup quiet enough {} with ⟨lexed, left, found, run, accounts⟩
  have size : setup.source.size = 44 := by decide +kernel
  rw [size] at run
  rcases Except.ok.inj found with rfl
  exact ⟨quiet, enough, _, left, rfl, run, accounts, by decide +kernel, by decide +kernel⟩

end StagePipeline.Program
