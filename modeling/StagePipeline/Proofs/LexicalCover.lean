import Mathlib.Data.List.Pairwise
import StagePipeline.Proofs.LexemeBeginnings
import StagePipeline.Proofs.TokenText

/-!
# Which characters the lexer skips

Every character of a text belongs to one piece, and the spans of tokens and errors are
those of the pieces that are not skipped.  So they do not overlap, and whether a
character lies in one of them can be read off the text: it does unless it belongs to a
comment, or is a blank inside a line, or is a line end inside parentheses.
-/

namespace StagePipeline

namespace Span

/-- The offset lies in the span. -/
def Contains (span : Span) (offset : Nat) : Prop :=
  span.start ≤ offset ∧ offset < span.stop

/-- The spans do not overlap. -/
def Apart (left right : Span) : Prop :=
  left.stop ≤ right.start ∨ right.stop ≤ left.start

theorem Apart.symm {left right : Span} (apart : left.Apart right) : right.Apart left :=
  Or.symm apart

theorem Within.contains {inner outer : Span} {offset : Nat} (within : inner.Within outer)
    (contains : inner.Contains offset) : outer.Contains offset :=
  ⟨Nat.le_trans within.1 contains.1, Nat.lt_of_lt_of_le contains.2 within.2⟩

/-- Spans that lie inside each other are the same. -/
theorem Within.antisymm {left right : Span} (first : left.Within right)
    (second : right.Within left) : left = right := by
  rcases left with ⟨start, stop, ordered⟩
  rcases right with ⟨begins, ends, follows⟩
  rcases Nat.le_antisymm second.1 first.1
  rcases Nat.le_antisymm first.2 second.2
  rfl

end Span

namespace Text

open Program (width_pos)

variable {text left right : List Char}

theorem eq_nil_of_width (nothing : width text = 0) : text = [] := by
  by_contra nonempty
  exact absurd nothing (Nat.ne_of_gt (width_pos nonempty))

/-- Of two parts at the front of a text, the one with fewer bytes is at the front of the other. -/
theorem prefix_of_width_le (first : left <+: text) (second : right <+: text)
    (fewer : width left ≤ width right) : left <+: right := by
  rcases List.prefix_or_prefix_of_prefix first second with shorter | ⟨tail, rfl⟩
  · exact shorter
  · rw [width_append] at fewer
    have nothing : tail = [] := eq_nil_of_width (by omega)
    exact ⟨[], by simp [nothing]⟩

theorem eq_of_width_eq (first : left <+: text) (second : right <+: text)
    (same : width left = width right) : left = right := by
  rcases prefix_of_width_le first second (Nat.le_of_eq same) with ⟨tail, rfl⟩
  rw [width_append] at same
  rw [eq_nil_of_width (by omega : width tail = 0), List.append_nil]

/-- A part at the front of a text that reaches beyond the start of a character has all of it. -/
theorem concat_prefix_of_width_lt (first : left <+: text) {character : Char} {after : List Char}
    (split : text = right ++ character :: after) (more : width right < width left) :
    right ++ [character] <+: left := by
  have second : right ++ [character] <+: text := ⟨after, by rw [split]; simp⟩
  rcases List.prefix_or_prefix_of_prefix first second with shorter | longer
  · rcases List.prefix_concat_iff.1 shorter with rfl | ⟨tail, rfl⟩
    · exact List.prefix_rfl
    · rw [width_append] at more
      omega
  · exact longer

namespace StandsAt

variable {span : Span} {characters more before after : List Char} {character : Char}

theorem unique (here : StandsAt text span characters) (there : StandsAt text span more) :
    characters = more := by
  rcases here with ⟨before, after, split, starts, stops⟩
  rcases there with ⟨front, back, otherSplit, otherStarts, otherStops⟩
  have first : before <+: text := ⟨characters ++ after, split.symm⟩
  have second : front <+: text := ⟨more ++ back, otherSplit.symm⟩
  rcases eq_of_width_eq first second (by omega) with rfl
  rw [otherSplit] at split
  refine (eq_of_width_eq ⟨back, List.append_cancel_left split⟩ ⟨after, rfl⟩ ?_).symm
  omega

theorem contains_start (here : StandsAt text span characters) (nonempty : characters ≠ []) :
    span.Contains span.start := by
  rcases here with ⟨before, after, split, starts, stops⟩
  have positive := width_pos nonempty
  exact ⟨Nat.le_refl _, by omega⟩

/-- A character in the bytes of a span is one of the characters that stand there. -/
theorem exists_inside (here : StandsAt text span characters)
    (split : text = before ++ character :: after) (contains : span.Contains (width before)) :
    ∃ front inside, before = front ++ inside ∧ width front = span.start ∧
      inside ++ [character] <+: characters := by
  rcases here with ⟨front, back, whole, starts, stops⟩
  have longer : front ++ characters <+: text := ⟨back, by rw [whole, List.append_assoc]⟩
  rcases prefix_of_width_le ⟨characters ++ back, whole.symm⟩ ⟨character :: after, split.symm⟩
    (starts ▸ contains.1) with ⟨inside, rfl⟩
  have less : width (front ++ inside) < width (front ++ characters) := by
    rw [width_append front characters, stops]
    exact contains.2
  have reached := concat_prefix_of_width_lt longer split less
  rw [List.append_assoc] at reached
  exact ⟨front, inside, rfl, starts, List.prefix_append_right_inj front |>.1 reached⟩

end StandsAt

end Text

namespace Program

open Text

/-! ### The piece at a place -/

namespace Tiles

variable {start finish offset : Nat} {pieces : List Piece}

/-- Pieces side by side leave no gap. -/
theorem exists_contains (tiles : Tiles start pieces finish) (least : start ≤ offset)
    (most : offset < finish) : ∃ piece ∈ pieces, piece.span.Contains offset := by
  induction tiles with
  | nil offset => exact absurd (Nat.lt_of_le_of_lt least most) (Nat.lt_irrefl _)
  | @cons piece later finish nonempty follows inductive_hypothesis =>
    rcases Nat.lt_or_ge offset piece.span.stop with inside | behind
    · exact ⟨piece, List.mem_cons_self, least, inside⟩
    · rcases inductive_hypothesis behind most with ⟨other, member, contains⟩
      exact ⟨other, List.mem_cons_of_mem _ member, contains⟩

/-- Only one of them has a given byte. -/
theorem eq_of_contains (tiles : Tiles start pieces finish) {piece other : Piece}
    (member : piece ∈ pieces) (among : other ∈ pieces) (here : piece.span.Contains offset)
    (there : other.span.Contains offset) : piece = other := by
  have apart : pieces.Pairwise fun left right =>
      left.span.Contains offset → right.span.Contains offset → left = right := by
    refine (List.pairwise_map.1 tiles.inOrder.apart).imp fun {left right} ordered first second => ?_
    exact absurd (Nat.lt_of_le_of_lt second.1 first.2) (Nat.not_lt_of_le ordered)
  have flipped := apart.imp fun {left right} same second first => (same first second).symm
  exact apart.forall_of_forall_of_flip (fun _ _ _ _ => rfl) flipped member among here there

end Tiles

theorem not_endsInComment_append {front back : List Char} (code : '#' ∉ back)
    (outside : ¬ EndsInComment front) : ¬ EndsInComment (front ++ back) := by
  induction back using List.reverseRecOn with
  | nil =>
    rw [List.append_nil]
    exact outside
  | append_singleton back character inductive_hypothesis =>
    rw [List.mem_append, not_or, List.mem_singleton] at code
    rw [← List.append_assoc, endsInComment_concat_iff]
    rintro ⟨-, sign | ends⟩
    · exact code.2 sign.symm
    · exact inductive_hypothesis code.1 ends

namespace Piece.BeginsAt

open Lexeme

variable {piece : Piece} {text front rest before after : List Char} {first character : Char}
  {more : Nat}

theorem standsAt (place : piece.BeginsAt text front first rest more) :
    StandsAt text piece.span piece.characters := by
  have start : piece.start = 0 + width front := by rw [place.start, Nat.zero_add]
  exact IsCutFrom.standsAt ⟨front, first, rest, _, more, place.split, start, place.characters,
    place.found⟩

/-- A character in the bytes of a piece is one of its characters. -/
theorem exists_inside (place : piece.BeginsAt text front first rest more)
    (split : text = before ++ character :: after) (contains : piece.span.Contains (width before)) :
    ∃ inside, before = front ++ inside ∧ inside ++ [character] <+: first :: rest.take more := by
  rcases place.standsAt.exists_inside split contains with ⟨other, inside, rfl, starts, part⟩
  have atFront : other <+: text := ⟨inside ++ character :: after, by rw [split]; simp⟩
  rcases eq_of_width_eq atFront ⟨first :: rest, place.split.symm⟩ (starts.trans place.start)
  exact ⟨inside, rfl, place.characters ▸ part⟩

/-- A lexeme of one character has no other. -/
theorem inside_eq_of_single {inside : List Char}
    (part : inside ++ [character] <+: first :: rest.take 0) : inside = [] ∧ character = first := by
  rcases part with ⟨tail, whole⟩
  cases inside with
  | nil => exact ⟨rfl, (List.cons.inj whole).1⟩
  | cons other later =>
    have length := congrArg List.length whole
    simp at length

/-- The characters of a piece that is skipped inside a line are a blank or those of a comment. -/
theorem skips_of_blank (place : piece.BeginsAt text front first rest more)
    (skipped : piece.lexeme = .blank) (inLine : first ≠ '\n') {inside : List Char}
    (part : inside ++ [character] <+: first :: rest.take more) :
    EndsInComment (front ++ inside ++ [character]) ∨
      (character ≠ '\n' ∧ isBlank character = true) := by
  have begins := place.begins
  generalize piece.lexeme = lexeme at begins skipped
  cases begins with
  | lineEnd ends outside => exact absurd ends inLine
  | innerLineEnd ends nested => exact absurd ends inLine
  | blank single blank =>
    rcases inside_eq_of_single part with ⟨-, rfl⟩
    exact .inr ⟨single, blank⟩
  | comment sign =>
    rw [take_length_takeWhile, sign] at part
    rcases List.prefix_cons_iff.1 part with nothing | ⟨comment, whole, inComment⟩
    · simp at nothing
    · refine .inl ⟨front, comment, by rw [List.append_assoc, whole], fun member => ?_⟩
      have passes := List.all_eq_true.1 List.all_takeWhile _ (inComment.subset member)
      exact absurd passes (by decide)
  | sign solid code sign => cases skipped
  | number digit => exact absurd skipped (ofDigits_ne_blank _)
  | word letter => exact absurd skipped (ofWord_ne_blank _)
  | stray solid code noSign noDigit noLetter => cases skipped

/-- A lexeme is skipped if its characters are to be skipped. -/
theorem lexeme_eq_blank_iff (place : piece.BeginsAt text front first rest more)
    (split : text = before ++ character :: after)
    (contains : piece.span.Contains (width before)) :
    piece.lexeme = .blank ↔
      EndsInComment (before ++ [character]) ∨ (character ≠ '\n' ∧ isBlank character = true) ∨
        (character = '\n' ∧ 0 < (Outline.ofText before).nesting) := by
  rcases place.exists_inside split contains with ⟨inside, rfl, part⟩
  by_cases inLine : first = '\n'
  · have found := place.found
    rw [recognise, if_pos inLine] at found
    rcases Prod.mk.inj found with ⟨lexeme_eq, rfl⟩
    rcases inside_eq_of_single part with ⟨rfl, rfl⟩
    rw [List.append_nil, endsInComment_concat_iff, ← lexeme_eq]
    by_cases outside : (Outline.ofText front).nesting = 0
    · simp [outside, inLine]
    · simp [outside, inLine, Nat.pos_iff_ne_zero]
  · by_cases skipped : piece.lexeme = .blank
    · refine iff_of_true skipped ?_
      rcases place.skips_of_blank skipped inLine part with commented | blank
      · exact .inl commented
      · exact .inr (.inl blank)
    · refine iff_of_false skipped ?_
      have solid := place.begins.solid skipped inLine
      have here := solid character (part.subset (List.mem_append_right _ List.mem_cons_self))
      have code : '#' ∉ inside ++ [character] := fun member =>
        (solid '#' (part.subset member)).2 rfl
      have outside : ¬ EndsInComment front := mt place.outside inLine
      rintro (commented | ⟨-, blank⟩ | ⟨rfl, -⟩)
      · rw [List.append_assoc] at commented
        exact not_endsInComment_append code outside commented
      · exact Bool.false_ne_true (here.1.symm.trans blank)
      · exact absurd here.1 (by decide)

end Piece.BeginsAt

/-! ### The spans of a text -/

/-- The spans of the tokens and of the errors. -/
def Lexed.spans (lexed : Lexed) : List Span :=
  lexed.tokens.map (·.span) ++ lexed.errors.filterMap (·.span?)

/-- The piece is a token or an error. -/
def Piece.isKept (piece : Piece) : Bool :=
  piece.lexeme != .blank

theorem Lexed.spans_perm (pieces : List Piece) :
    (Lexed.spans ⟨pieces.filterMap Piece.token?, pieces.filterMap Piece.error?⟩).Perm
      ((pieces.filter Piece.isKept).map Piece.span) := by
  induction pieces with
  | nil => exact .refl []
  | cons piece rest inductive_hypothesis =>
    rcases piece with ⟨lexeme, start, characters⟩
    cases lexeme with
    | blank => exact inductive_hypothesis
    | token kind => exact inductive_hypothesis.cons _
    | tooLarge digits => exact List.perm_middle.trans (inductive_hypothesis.cons _)
    | stray found => exact List.perm_middle.trans (inductive_hypothesis.cons _)

/-- Where a character stands there is a piece. -/
theorem Lexed.exists_piece_at {text before after : List Char} {character : Char}
    (split : text = before ++ character :: after) :
    ∃ piece ∈ pieces 0 0 text, piece.span.Contains (width before) := by
  refine (tiles_pieces 0 0 text).exists_contains (Nat.zero_le _) ?_
  have positive := character.utf8Size_pos
  rw [Nat.zero_add, split, width_append, width_cons]
  omega

section OfText

variable {text : String}

theorem Lexed.spans_ofText_perm (text : String) :
    (ofText text).spans.Perm
      (((pieces 0 0 text.toList).filter Piece.isKept).map Piece.span) := by
  rw [ofText, scan_eq_pieces]
  exact spans_perm _

theorem Lexed.mem_spans_iff {span : Span} :
    span ∈ (ofText text).spans ↔
      ∃ piece ∈ pieces 0 0 text.toList, piece.lexeme ≠ .blank ∧ piece.span = span := by
  rw [(spans_ofText_perm text).mem_iff, List.mem_map]
  simp only [List.mem_filter, Piece.isKept, bne_iff_ne, and_assoc]

theorem Lexed.spans_apart (text : String) : (ofText text).spans.Pairwise Span.Apart := by
  rw [(spans_ofText_perm text).pairwise_iff Span.Apart.symm]
  have tiles := tiles_pieces 0 0 text.toList
  have inOrder := tiles.inOrder.sublist ((List.filter_sublist (p := Piece.isKept)).map Piece.span)
  exact inOrder.apart.imp .inl

theorem Lexed.covers_of_mem_spans {source : SourceFile} {span : Span}
    (member : span ∈ (ofText source.text).spans) : source.Covers span := by
  rcases mem_spans_iff.1 member with ⟨piece, inText, -, rfl⟩
  rcases exists_beginsAt_of_mem inText with ⟨front, first, rest, more, place⟩
  have tiles := tiles_pieces 0 0 source.text.toList
  exact place.standsAt.covers
    (tiles.inOrder.nonempty piece.span (List.mem_map_of_mem inText))

/-- A character lies outside all spans exactly if it is one to be skipped. -/
theorem Lexed.outside_spans_iff {before after : List Char} {character : Char}
    (split : text.toList = before ++ character :: after) :
    (∀ span ∈ (ofText text).spans, ¬ span.Contains (width before)) ↔
      EndsInComment (before ++ [character]) ∨ (character ≠ '\n' ∧ isBlank character = true) ∨
        (character = '\n' ∧ 0 < (Outline.ofText before).nesting) := by
  rcases exists_piece_at split with ⟨piece, inText, contains⟩
  rcases exists_beginsAt_of_mem inText with ⟨front, first, rest, more, place⟩
  rw [← place.lexeme_eq_blank_iff split contains]
  constructor
  · intro outside
    by_contra kept
    exact outside piece.span (mem_spans_iff.2 ⟨piece, inText, kept, rfl⟩) contains
  · intro blank span member inSpan
    rcases mem_spans_iff.1 member with ⟨other, among, kept, rfl⟩
    have tiles := tiles_pieces 0 0 text.toList
    exact kept (tiles.eq_of_contains among inText inSpan contains ▸ blank)

end OfText

end Program

end StagePipeline
