import StagePipeline.Program.Lexer

/-!
# The pieces of a text

The lexer keeps tokens and errors in two lists and nothing at all of blanks.
Here the text is cut into pieces, one for each lexeme, which lie side by side
from the first byte to the last; the two lists of the lexer are selections from
them.  So the spans of each list are nonempty, come from left to right and do
not overlap.
-/

namespace StagePipeline.Program

open Text

/-- A lexeme, the offset at which it begins and the characters it takes. -/
structure Piece where
  lexeme : Lexeme
  start : Nat
  characters : List Char

namespace Piece

/-- The bytes of the piece. -/
def span (piece : Piece) : Span :=
  .ofLength piece.start (width piece.characters)

/-- The token that the piece is. -/
def token? (piece : Piece) : Option Token :=
  piece.lexeme.token? piece.span

/-- The error that the piece is. -/
def error? (piece : Piece) : Option SyntaxError :=
  piece.lexeme.error? piece.span

@[simp]
theorem span_stop (piece : Piece) : piece.span.stop = piece.start + width piece.characters :=
  rfl

end Piece

namespace Lexed

/-- The pieces of the rest of a text that begins at `offset`, inside `nesting` parentheses. -/
def pieces (nesting offset : Nat) (text : List Char) : List Piece :=
  match text with
  | [] => []
  | first :: rest =>
    let (lexeme, more) := Lexeme.recognise nesting first rest
    let piece : Piece := ⟨lexeme, offset, first :: rest.take more⟩
    piece :: pieces (lexeme.nestingAfter nesting) piece.span.stop (rest.drop more)
termination_by text.length
decreasing_by
  simp only [List.length_drop, List.length_cons]
  omega

/-- The lexer selects its tokens and its errors from the pieces. -/
theorem scan_eq_pieces (nesting offset : Nat) (text : List Char) :
    scan nesting offset text =
      ⟨(pieces nesting offset text).filterMap Piece.token?,
        (pieces nesting offset text).filterMap Piece.error?⟩ := by
  fun_induction pieces nesting offset text with
  | case1 nesting offset => rw [scan]; rfl
  | case2 nesting offset first rest lexeme more found piece inductive_hypothesis =>
    rw [scan]
    simp only [found]
    change Lexed.mk (piece.token?.toList ++ (scan _ piece.span.stop _).tokens)
      (piece.error?.toList ++ (scan _ piece.span.stop _).errors) = _
    rw [inductive_hypothesis, List.filterMap_cons, List.filterMap_cons]
    cases piece.token? <;> cases piece.error? <;> rfl

end Lexed

/-! ## Side by side -/

/-- Pieces that follow each other without a gap from one offset to another. -/
inductive Tiles : Nat → List Piece → Nat → Prop where
  | nil (offset : Nat) : Tiles offset [] offset
  | cons {piece : Piece} {later : List Piece} {finish : Nat}
      (nonempty : piece.characters ≠ []) (follows : Tiles piece.span.stop later finish) :
      Tiles piece.start (piece :: later) finish

theorem Lexed.tiles_pieces (nesting offset : Nat) (text : List Char) :
    Tiles offset (pieces nesting offset text) (offset + width text) := by
  fun_induction pieces nesting offset text with
  | case1 nesting offset => exact .nil offset
  | case2 nesting offset first rest lexeme more found piece inductive_hypothesis =>
    have whole : width piece.characters + width (rest.drop more) = width (first :: rest) := by
      rw [← width_append]
      simp [piece]
    rw [Piece.span_stop, Nat.add_assoc, whole] at inductive_hypothesis
    exact .cons (List.cons_ne_nil _ _) inductive_hypothesis

/-- Nonempty spans that do not overlap, from left to right, up to an end. -/
structure SpansInOrder (finish : Nat) (spans : List Span) : Prop where
  apart : spans.Pairwise fun earlier later => earlier.stop ≤ later.start
  nonempty : ∀ span ∈ spans, span.start < span.stop
  within : ∀ span ∈ spans, span.stop ≤ finish

theorem SpansInOrder.sublist {finish : Nat} {spans fewer : List Span}
    (inOrder : SpansInOrder finish spans) (part : fewer.Sublist spans) :
    SpansInOrder finish fewer where
  apart := inOrder.apart.sublist part
  nonempty := fun span member => inOrder.nonempty span (part.subset member)
  within := fun span member => inOrder.within span (part.subset member)

theorem SpansInOrder.starts_increase {finish : Nat} {spans : List Span}
    (inOrder : SpansInOrder finish spans) :
    spans.Pairwise fun earlier later => earlier.start < later.start := by
  refine inOrder.apart.imp_of_mem ?_
  intro earlier later member _ apart
  exact Nat.lt_of_lt_of_le (inOrder.nonempty earlier member) apart

theorem width_pos {text : List Char} (nonempty : text ≠ []) : 0 < width text := by
  cases text with
  | nil => exact absurd rfl nonempty
  | cons character rest =>
    rw [width_cons]
    exact Nat.lt_of_lt_of_le character.utf8Size_pos (Nat.le_add_right _ _)

namespace Tiles

variable {start finish : Nat} {pieces : List Piece}

theorem le (tiles : Tiles start pieces finish) : start ≤ finish := by
  induction tiles with
  | nil offset => exact Nat.le_refl _
  | cons nonempty follows inductive_hypothesis =>
    exact Nat.le_trans (Nat.le_add_right _ _) inductive_hypothesis

theorem start_le (tiles : Tiles start pieces finish) : ∀ piece ∈ pieces, start ≤ piece.start := by
  induction tiles with
  | nil offset => nofun
  | cons nonempty follows inductive_hypothesis =>
    intro other member
    rcases List.mem_cons.1 member with rfl | later
    · exact Nat.le_refl _
    · exact Nat.le_trans (Nat.le_add_right _ _) (inductive_hypothesis other later)

/-- Pieces side by side are in order. -/
theorem inOrder (tiles : Tiles start pieces finish) :
    SpansInOrder finish (pieces.map Piece.span) := by
  induction tiles with
  | nil offset => exact ⟨.nil, nofun, nofun⟩
  | @cons piece later finish nonempty follows inductive_hypothesis =>
    refine ⟨List.pairwise_cons.2 ⟨?_, inductive_hypothesis.apart⟩,
      List.forall_mem_cons.2 ⟨?_, inductive_hypothesis.nonempty⟩,
      List.forall_mem_cons.2 ⟨follows.le, inductive_hypothesis.within⟩⟩
    · exact List.forall_mem_map.2 follows.start_le
    · exact Nat.lt_add_of_pos_right (width_pos nonempty)

end Tiles

/-! ## The tokens and the errors of the lexer -/

/-- What is selected from a list lies in it as the list does, if its values do. -/
theorem map_filterMap_sublist {α β γ : Type} {select : α → Option β} {value : β → γ}
    {original : α → γ} (same : ∀ item selected, select item = some selected →
      value selected = original item) (items : List α) :
    ((items.filterMap select).map value).Sublist (items.map original) := by
  induction items with
  | nil => exact .slnil
  | cons item rest inductive_hypothesis =>
    rw [List.filterMap_cons, List.map_cons]
    cases found : select item with
    | none => exact inductive_hypothesis.cons _
    | some selected =>
      rw [List.map_cons, same item selected found]
      exact inductive_hypothesis.cons_cons _

namespace SyntaxError

/-- One error has a smaller offset than the other. -/
def Before (left right : SyntaxError) : Prop :=
  ∃ first second, left.offset? = some first ∧ right.offset? = some second ∧ first < second

theorem Before.of_spans {left right : SyntaxError} {first second : Span}
    (leftSpan : left.span? = some first) (rightSpan : right.span? = some second)
    (less : first.start < second.start) : left.Before right := by
  refine ⟨first.start, second.start, ?_, ?_, less⟩
  · rw [offset?, leftSpan, Option.map_some]
  · rw [offset?, rightSpan, Option.map_some]

theorem Before.notAfter {left right : SyntaxError} (before : left.Before right) :
    left.notAfter right = true := by
  rcases before with ⟨first, second, leftOffset, rightOffset, less⟩
  simp [SyntaxError.notAfter, leftOffset, rightOffset, Nat.le_of_lt less]

/-- Whether an error comes from the characters of a text rather than from its tokens. -/
def isLexical : SyntaxError → Bool
  | .unexpectedChar _ _ | .integerOverflow _ _ => true
  | _ => false

end SyntaxError

theorem Piece.span_of_token? {piece : Piece} {token : Token}
    (found : piece.token? = some token) : token.span = piece.span := by
  unfold Piece.token? Lexeme.token? at found
  split at found
  · rcases Option.some.inj found with rfl
    rfl
  · exact nomatch found

theorem Piece.of_error? {piece : Piece} {error : SyntaxError}
    (found : piece.error? = some error) :
    error.span? = some piece.span ∧ error.isLexical = true := by
  unfold Piece.error? Lexeme.error? at found
  split at found
  · rcases Option.some.inj found with rfl
    exact ⟨rfl, rfl⟩
  · rcases Option.some.inj found with rfl
    exact ⟨rfl, rfl⟩
  · exact nomatch found

namespace Lexed

theorem tokens_inOrder (text : String) :
    SpansInOrder (width text.toList) ((ofText text).tokens.map (·.span)) := by
  have tiles := tiles_pieces 0 0 text.toList
  rw [Nat.zero_add] at tiles
  rw [ofText, scan_eq_pieces]
  exact tiles.inOrder.sublist (map_filterMap_sublist (fun _ _ => Piece.span_of_token?) _)

theorem errors_pairwise_before (text : String) :
    (ofText text).errors.Pairwise SyntaxError.Before := by
  have increase := (tiles_pieces 0 0 text.toList).inOrder.starts_increase
  rw [ofText, scan_eq_pieces]
  refine List.Pairwise.filterMap _ ?_ (List.pairwise_map.1 increase)
  intro earlier later less first firstFound second secondFound
  exact .of_spans (Piece.of_error? firstFound).1 (Piece.of_error? secondFound).1 less

theorem isLexical_of_mem_errors {text : String} {error : SyntaxError}
    (member : error ∈ (ofText text).errors) : error.isLexical = true := by
  rw [ofText, scan_eq_pieces] at member
  rcases List.mem_filterMap.1 member with ⟨piece, _, found⟩
  exact (Piece.of_error? found).2

end Lexed

end StagePipeline.Program
