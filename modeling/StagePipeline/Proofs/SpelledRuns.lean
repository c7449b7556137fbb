import StagePipeline.Proofs.LexicalCover

/-!
# Numbers and words in a text

The lexer takes digits as long as they come for a number, and letters and digits for a
word.  A run is what cannot be made longer on either side.  The main results say which
runs the lexer takes: for words every run that is not in a comment, and for numbers every
such run that does not lie inside a word.
-/

namespace StagePipeline.Program

open Text

theorem EndsInComment.append_inLine {front : List Char} (ends : EndsInComment front)
    {back : List Char} (single : '\n' ∉ back) : EndsInComment (front ++ back) := by
  rcases ends with ⟨before, comment, rfl, inLine⟩
  refine ⟨before, comment ++ back, by simp, ?_⟩
  rw [List.mem_append, not_or]
  exact ⟨inLine, single⟩

/-- The character at the offset belongs to a comment. -/
def CommentAt (text : List Char) (offset : Nat) : Prop :=
  ∃ before character after, text = before ++ character :: after ∧ width before = offset ∧
    EndsInComment (before ++ [character])

/-! ### Spellings -/

/-- How a lexeme of several characters is spelled: which characters begin it and which go on
with it, all of them parts of words. -/
structure Spelling where
  opens : Char → Bool
  goesOn : Char → Bool
  lexeme : List Char → Lexeme
  goesOn_of_opens : ∀ character, opens character = true → goesOn character = true
  isWordPart_of_goesOn : ∀ character, goesOn character = true → isWordPart character = true

namespace Spelling

/-- A number is spelled with decimal digits. -/
def number : Spelling where
  opens := isDigit
  goesOn := isDigit
  lexeme := .ofDigits
  goesOn_of_opens _ := id
  isWordPart_of_goesOn _ := isWordPart_of_isDigit

/-- A word begins with a letter or an underscore and goes on with digits as well. -/
def word : Spelling where
  opens := isWordStart
  goesOn := isWordPart
  lexeme := .ofWord
  goesOn_of_opens _ := isWordPart_of_isWordStart
  isWordPart_of_goesOn _ := id

/-- The characters can be spelled so. -/
def Fits (spelling : Spelling) (characters : List Char) : Prop :=
  ∃ first rest, characters = first :: rest ∧ spelling.opens first = true ∧
    ∀ character ∈ rest, spelling.goesOn character = true

/-- The characters stand at the span, and they belong to no more that can be spelled so. -/
structure IsRunAt (spelling : Spelling) (text : List Char) (span : Span)
    (characters : List Char) : Prop where
  stands : StandsAt text span characters
  fits : spelling.Fits characters
  widest : ∀ outer more, StandsAt text outer more → spelling.Fits more → span.Within outer →
    outer = span

variable {spelling : Spelling} {characters : List Char}

theorem Fits.goesOn (fits : spelling.Fits characters) :
    ∀ character ∈ characters, spelling.goesOn character = true := by
  rcases fits with ⟨first, rest, rfl, opens, later⟩
  exact List.forall_mem_cons.2 ⟨spelling.goesOn_of_opens first opens, later⟩

theorem Fits.nonempty (fits : spelling.Fits characters) : characters ≠ [] := by
  rcases fits with ⟨first, rest, rfl, -⟩
  exact List.cons_ne_nil first rest

/-- Nothing is both a number and a word. -/
theorem not_fits_word_of_number (fits : number.Fits characters) : ¬ word.Fits characters := by
  rcases fits with ⟨first, rest, rfl, digit, -⟩
  rintro ⟨other, later, same, letter, -⟩
  rcases List.cons.inj same with ⟨rfl, -⟩
  exact Bool.false_ne_true ((isWordStart_of_isDigit digit).symm.trans letter)

end Spelling

/-! ### Pieces that are spelled -/

/-- The piece is a run that the lexer takes from its first character on. -/
def Piece.IsSpelled (piece : Piece) (spelling : Spelling) (text : List Char) : Prop :=
  ∃ front first rest,
    piece.BeginsAt text front first rest (rest.takeWhile spelling.goesOn).length ∧
    spelling.opens first = true ∧ piece.lexeme = spelling.lexeme piece.characters

namespace Piece.IsSpelled

variable {piece : Piece} {spelling : Spelling} {text characters : List Char} {outer : Span}

theorem fits (spelled : piece.IsSpelled spelling text) : spelling.Fits piece.characters := by
  rcases spelled with ⟨front, first, rest, place, opens, -⟩
  refine ⟨first, rest.takeWhile spelling.goesOn, ?_, opens, ?_⟩
  · rw [place.characters, Lexeme.take_length_takeWhile]
  · exact List.all_eq_true.1 List.all_takeWhile

theorem standsAt (spelled : piece.IsSpelled spelling text) :
    StandsAt text piece.span piece.characters := by
  rcases spelled with ⟨front, first, rest, place, -⟩
  exact place.standsAt

theorem lexeme_eq (spelled : piece.IsSpelled spelling text) :
    piece.lexeme = spelling.lexeme piece.characters := by
  rcases spelled with ⟨front, first, rest, -, -, same⟩
  exact same

/-- What begins in the piece and could go on with it ends in the piece. -/
theorem covers (spelled : piece.IsSpelled spelling text) (stands : StandsAt text outer characters)
    (goesOn : ∀ character ∈ characters, spelling.goesOn character = true)
    (contains : piece.span.Contains outer.start) : outer.Within piece.span := by
  rcases spelled with ⟨front, first, rest, place, opens, -⟩
  rcases stands with ⟨before, after, split, starts, stops⟩
  refine ⟨contains.1, ?_⟩
  cases characters with
  | nil => exact Nat.le_of_lt (stops ▸ starts ▸ contains.2)
  | cons character later =>
    rcases place.exists_inside split (starts ▸ contains) with ⟨inside, rfl, part⟩
    have joined : front ++ first :: rest = front ++ ((inside ++ character :: later) ++ after) := by
      rw [← place.split, split]
      simp
    have whole := List.append_cancel_left joined
    have run : first :: rest.takeWhile spelling.goesOn =
        (first :: rest).takeWhile spelling.goesOn := by
      rw [List.takeWhile_cons_of_pos (spelling.goesOn_of_opens first opens)]
    rw [Lexeme.take_length_takeWhile, run] at part
    have all : ∀ other ∈ inside ++ character :: later, spelling.goesOn other = true := by
      intro other member
      rcases List.mem_append.1 member with inFront | inBack
      · exact List.all_eq_true.1 List.all_takeWhile _
          (part.subset (List.mem_append_left _ inFront))
      · exact goesOn other inBack
    have taken : piece.characters =
        (inside ++ character :: later) ++ after.takeWhile spelling.goesOn := by
      rw [place.characters, Lexeme.take_length_takeWhile, run, whole,
        List.takeWhile_append_of_pos all]
    rw [span_stop, place.start, taken, width_append, width_append, ← stops, width_append]
    omega

/-- No comment reaches from before the piece into it. -/
theorem not_commentAt (spelled : piece.IsSpelled spelling text)
    (stands : StandsAt text outer characters)
    (parts : ∀ character ∈ characters, isWordPart character = true)
    (within : piece.span.Within outer) : ¬ CommentAt text outer.start := by
  have own := spelled.standsAt.contains_start spelled.fits.nonempty
  rcases spelled with ⟨front, first, rest, place, opens, -⟩
  have plain := isPlain_of_isWordPart
    (spelling.isWordPart_of_goesOn first (spelling.goesOn_of_opens first opens))
  have contains : outer.Contains (width front) := place.start ▸ within.contains own
  rintro ⟨before, opening, after, split, measured, ends⟩
  rcases stands.exists_inside place.split contains with ⟨same, inside, rfl, starts, part⟩
  have atFront : same <+: text := ⟨inside ++ first :: rest, by rw [place.split]; simp⟩
  rcases eq_of_width_eq atFront ⟨opening :: after, split.symm⟩ (starts.trans measured.symm)
  have joined : before ++ opening :: after = before ++ (inside ++ first :: rest) := by
    rw [← split, place.split, List.append_assoc]
  have follows := List.append_cancel_left joined
  have reached : EndsInComment (before ++ inside ++ [first]) := by
    cases inside with
    | nil =>
      rcases List.cons.inj follows with ⟨rfl, -⟩
      rw [List.append_nil]
      exact ends
    | cons other later =>
      rcases List.cons.inj follows with ⟨rfl, -⟩
      have single : '\n' ∉ later ++ [first] := by
        intro member
        have lineEnd := parts '\n' (part.subset (List.mem_cons_of_mem _ member))
        exact (isPlain_of_isWordPart lineEnd).notLineEnd rfl
      have longer := ends.append_inLine single
      rw [List.append_assoc, List.singleton_append] at longer
      rw [List.append_assoc]
      exact longer
  rcases (endsInComment_concat_iff.1 reached).2 with sign | inFront
  · exact plain.notSign sign
  · exact plain.notLineEnd (place.outside inFront)

end Piece.IsSpelled

/-! ### The piece around a run -/

/-- Whether the lexeme is a number or a word, be the number too large or not. -/
def Lexeme.isRun : Lexeme → Bool
  | .token (.int _) | .token (.ident _) | .token .letWord | .tooLarge _ => true
  | _ => false

theorem Lexeme.isRun_of_punctuation? {first : Char} {kind : TokenKind}
    (sign : punctuation? first = some kind) : (token kind).isRun = false := by
  unfold punctuation? at sign
  split at sign
  case h_9 => cases sign
  all_goals
    rcases Option.some.inj sign with rfl
    rfl

theorem opens_of_isWordPart_eq_false {character : Char} (noPart : isWordPart character = false) :
    isDigit character = false ∧ isWordStart character = false := by
  constructor
  · exact Bool.eq_false_iff.2 fun digit =>
      Bool.false_ne_true (noPart.symm.trans (isWordPart_of_isDigit digit))
  · exact Bool.eq_false_iff.2 fun letter =>
      Bool.false_ne_true (noPart.symm.trans (isWordPart_of_isWordStart letter))

/-- A lexeme that is not skipped is a number, a word or a single other character. -/
theorem Piece.BeginsAt.spelled_or_single {piece : Piece} {text front rest : List Char}
    {first : Char} {more : Nat} (place : piece.BeginsAt text front first rest more)
    (kept : piece.lexeme ≠ .blank) :
    piece.IsSpelled .number text ∨ piece.IsSpelled .word text ∨
      (more = 0 ∧ (isDigit first = false ∧ isWordStart first = false) ∧
        piece.lexeme.isRun = false) := by
  have begins := place.begins
  generalize found : piece.lexeme = lexeme at begins kept
  cases begins with
  | lineEnd ends outside =>
    refine .inr (.inr ⟨rfl, opens_of_isWordPart_eq_false ?_, rfl⟩)
    rw [ends]
    decide +kernel
  | innerLineEnd ends nested => exact absurd rfl kept
  | blank inLine blank => exact absurd rfl kept
  | comment sign => exact absurd rfl kept
  | sign solid code sign =>
    have noPart := Lexeme.isWordPart_of_punctuation? sign
    exact .inr (.inr ⟨rfl, opens_of_isWordPart_eq_false noPart,
      Lexeme.isRun_of_punctuation? sign⟩)
  | number digit =>
    refine .inl ⟨front, first, rest, place, digit, ?_⟩
    rw [found, place.characters, Lexeme.take_length_takeWhile]
    rfl
  | word letter =>
    refine .inr (.inl ⟨front, first, rest, place, letter, ?_⟩)
    rw [found, place.characters, Lexeme.take_length_takeWhile]
    rfl
  | stray solid code noSign noDigit noLetter => exact .inr (.inr ⟨rfl, ⟨noDigit, noLetter⟩, rfl⟩)

/-- Where a digit or a letter stands outside of comments, the lexer takes a number or a word. -/
theorem exists_spelled_at {text before after : List Char} {character : Char}
    (split : text = before ++ character :: after)
    (opens : isDigit character = true ∨ isWordStart character = true)
    (outside : ¬ EndsInComment (before ++ [character])) :
    ∃ piece ∈ Lexed.pieces 0 0 text, piece.span.Contains (width before) ∧
      (piece.IsSpelled .word text ∨
        isDigit character = true ∧ piece.IsSpelled .number text) := by
  have part : isWordPart character = true := opens.elim isWordPart_of_isDigit
    isWordPart_of_isWordStart
  rcases Lexed.exists_piece_at split with ⟨piece, member, contains⟩
  rcases Lexed.exists_beginsAt_of_mem member with ⟨front, first, rest, more, place⟩
  have kept : piece.lexeme ≠ .blank := by
    intro skipped
    rcases (place.lexeme_eq_blank_iff split contains).1 skipped with
      commented | ⟨-, blank⟩ | ⟨lineEnd, -⟩
    · exact outside commented
    · exact Bool.false_ne_true ((isWordPart_of_isBlank blank).symm.trans part)
    · exact (isPlain_of_isWordPart part).notLineEnd lineEnd
  rcases place.exists_inside split contains with ⟨inside, -, within⟩
  refine ⟨piece, member, contains, ?_⟩
  rcases place.spelled_or_single kept with number | word | ⟨rfl, ⟨noDigit, noLetter⟩, -⟩
  · have taken : character ∈ piece.characters := by
      rw [place.characters]
      exact within.subset (List.mem_append_right _ List.mem_cons_self)
    exact .inr ⟨number.fits.goesOn character taken, number⟩
  · exact .inl word
  · rcases Piece.BeginsAt.inside_eq_of_single within with ⟨-, rfl⟩
    rcases opens with digit | letter
    · exact absurd (noDigit.symm.trans digit) Bool.false_ne_true
    · exact absurd (noLetter.symm.trans letter) Bool.false_ne_true

section Runs

variable {text characters : List Char} {span outer : Span} {piece : Piece} {spelling : Spelling}

/-- A word outside of comments lies in a word that the lexer takes. -/
theorem exists_word_around (stands : StandsAt text span characters)
    (fits : Spelling.word.Fits characters) (outside : ¬ CommentAt text span.start) :
    ∃ piece ∈ Lexed.pieces 0 0 text, piece.IsSpelled .word text ∧ span.Within piece.span := by
  have goesOn := fits.goesOn
  rcases fits with ⟨first, rest, rfl, letter, -⟩
  have here := stands
  rcases stands with ⟨before, after, split, starts, -⟩
  rcases exists_spelled_at split (.inr letter)
    (fun ends => outside ⟨before, first, rest ++ after, split, starts, ends⟩) with
    ⟨piece, member, contains, spelled | ⟨digit, -⟩⟩
  · exact ⟨piece, member, spelled, spelled.covers here goesOn (starts ▸ contains)⟩
  · exact absurd ((isWordStart_of_isDigit digit).symm.trans letter) Bool.false_ne_true

/-- A number outside of comments lies in a number or in a word that the lexer takes. -/
theorem exists_run_around (stands : StandsAt text span characters)
    (fits : Spelling.number.Fits characters) (outside : ¬ CommentAt text span.start) :
    ∃ piece ∈ Lexed.pieces 0 0 text,
      (piece.IsSpelled .word text ∨ piece.IsSpelled .number text) ∧ span.Within piece.span := by
  have goesOn := fits.goesOn
  rcases fits with ⟨first, rest, rfl, digit, -⟩
  have here := stands
  rcases stands with ⟨before, after, split, starts, -⟩
  rcases exists_spelled_at split (.inl digit)
    (fun ends => outside ⟨before, first, rest ++ after, split, starts, ends⟩) with
    ⟨piece, member, contains, spelled | ⟨-, spelled⟩⟩
  · have parts : ∀ character ∈ first :: rest, Spelling.word.goesOn character = true :=
      fun character among => isWordPart_of_isDigit (goesOn character among)
    exact ⟨piece, member, .inl spelled, spelled.covers here parts (starts ▸ contains)⟩
  · exact ⟨piece, member, .inr spelled, spelled.covers here goesOn (starts ▸ contains)⟩

/-- A number or a word that contains a run the lexer takes is that run. -/
theorem Piece.IsSpelled.widest (spelled : piece.IsSpelled spelling text)
    (member : piece ∈ Lexed.pieces 0 0 text) (stands : StandsAt text outer characters)
    (fits : Spelling.word.Fits characters ∨ Spelling.number.Fits characters)
    (within : piece.span.Within outer) : outer = piece.span := by
  have parts : ∀ character ∈ characters, isWordPart character = true := by
    intro character among
    rcases fits with word | number
    · exact word.goesOn character among
    · exact isWordPart_of_isDigit (number.goesOn character among)
  have outside := spelled.not_commentAt stands parts within
  have around : ∃ other ∈ Lexed.pieces 0 0 text, outer.Within other.span := by
    rcases fits with word | number
    · rcases exists_word_around stands word outside with ⟨other, among, -, reaches⟩
      exact ⟨other, among, reaches⟩
    · rcases exists_run_around stands number outside with ⟨other, among, -, reaches⟩
      exact ⟨other, among, reaches⟩
  rcases around with ⟨other, among, reaches⟩
  have own := spelled.standsAt.contains_start spelled.fits.nonempty
  rcases (Lexed.tiles_pieces 0 0 text).eq_of_contains member among own
    ((within.trans reaches).contains own)
  exact reaches.antisymm within

/-- What stands at a span when it is a word that is in no comment. -/
structure WordAt (text : List Char) (span : Span) (letters : List Char) : Prop where
  run : Spelling.word.IsRunAt text span letters
  outside : ¬ CommentAt text span.start

/-- What stands at a span when it is a number that is in no comment and in no word. -/
structure NumberAt (text : List Char) (span : Span) (digits : List Char) : Prop where
  run : Spelling.number.IsRunAt text span digits
  outside : ¬ CommentAt text span.start
  apart : ∀ outer letters, StandsAt text outer letters → Spelling.word.Fits letters →
    ¬ span.Within outer

/-- The lexer takes the words that are in no comment. -/
theorem wordAt_iff : WordAt text span characters ↔
    ∃ piece ∈ Lexed.pieces 0 0 text, piece.IsSpelled .word text ∧ piece.span = span ∧
      piece.characters = characters := by
  constructor
  · rintro ⟨run, outside⟩
    rcases exists_word_around run.stands run.fits outside with ⟨piece, member, spelled, reaches⟩
    have same := run.widest piece.span piece.characters spelled.standsAt spelled.fits reaches
    exact ⟨piece, member, spelled, same, spelled.standsAt.unique (same ▸ run.stands)⟩
  · rintro ⟨piece, member, spelled, rfl, rfl⟩
    constructor
    · refine ⟨spelled.standsAt, spelled.fits, fun outer more stands fits within => ?_⟩
      exact spelled.widest member stands (.inl fits) within
    · exact spelled.not_commentAt spelled.standsAt spelled.fits.goesOn
        ⟨Nat.le_refl _, Nat.le_refl _⟩

/-- The lexer takes the numbers that are in no comment and in no word. -/
theorem numberAt_iff : NumberAt text span characters ↔
    ∃ piece ∈ Lexed.pieces 0 0 text, piece.IsSpelled .number text ∧ piece.span = span ∧
      piece.characters = characters := by
  constructor
  · rintro ⟨run, outside, apart⟩
    rcases exists_run_around run.stands run.fits outside with
      ⟨piece, member, word | spelled, reaches⟩
    · exact absurd reaches (apart piece.span piece.characters word.standsAt word.fits)
    · have same := run.widest piece.span piece.characters spelled.standsAt spelled.fits reaches
      exact ⟨piece, member, spelled, same, spelled.standsAt.unique (same ▸ run.stands)⟩
  · rintro ⟨piece, member, spelled, rfl, rfl⟩
    constructor
    · refine ⟨spelled.standsAt, spelled.fits, fun outer more stands fits within => ?_⟩
      exact spelled.widest member stands (.inr fits) within
    · exact spelled.not_commentAt spelled.standsAt
        (fun character among => isWordPart_of_isDigit (spelled.fits.goesOn character among))
        ⟨Nat.le_refl _, Nat.le_refl _⟩
    · intro outer letters stands word within
      have same := spelled.widest member stands (.inl word) within
      rcases stands.unique (same ▸ spelled.standsAt)
      exact Spelling.not_fits_word_of_number spelled.fits word

end Runs

end StagePipeline.Program
