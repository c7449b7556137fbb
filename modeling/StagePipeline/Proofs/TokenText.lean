import Mathlib.Data.List.Induction
import Mathlib.Data.Nat.Digits.Defs
import StagePipeline.Proofs.Lexemes
import StagePipeline.Proofs.TextPlaces

/-!
# The characters of a token

`TokenKind.WrittenAs` says with which characters a token may be written: a number
with decimal digits that have its value, a name with its own letters, and every
other token in one way.  The main result says that each token of a text stands in
the text at its span, written so.  What the lexer objects to stands at its span as
well, so the offsets of tokens and of lexical errors are boundaries of the text.
-/

namespace StagePipeline.Program

open Text

/-- The number that a run of decimal digits has by the places of its digits. -/
def placeValue (digits : List Char) : Nat :=
  Nat.ofDigits 10 (digits.reverse.map fun digit => digit.toNat - '0'.toNat)

theorem placeValue_concat (digits : List Char) (digit : Char) :
    placeValue (digits ++ [digit]) = placeValue digits * 10 + (digit.toNat - '0'.toNat) := by
  simp only [placeValue, List.reverse_append, List.reverse_cons, List.reverse_nil,
    List.nil_append, List.cons_append, List.map_cons, Nat.ofDigits_cons]
  omega

theorem Lexeme.decimalValue_eq_placeValue (digits : List Char) :
    decimalValue digits = placeValue digits := by
  induction digits using List.reverseRecOn with
  | nil => rfl
  | append_singleton digits digit inductive_hypothesis =>
    rw [placeValue_concat, ← inductive_hypothesis, decimalValue, List.foldl_append]
    rfl

/-- The characters with which a token of a kind is written. -/
def TokenKind.WrittenAs (kind : TokenKind) (characters : List Char) : Prop :=
  match kind with
  | .int value => characters ≠ [] ∧ (∀ digit ∈ characters, isDigit digit = true) ∧
      (placeValue characters : Int) = value.toInt
  | .ident name => characters = name.toList
  | .letWord => characters = ['l', 'e', 't']
  | .plus => characters = ['+']
  | .minus => characters = ['-']
  | .star => characters = ['*']
  | .slash => characters = ['/']
  | .equals => characters = ['=']
  | .leftParen => characters = ['(']
  | .rightParen => characters = [')']
  | .semicolon => characters = [';']
  | .lineEnd => characters = ['\n']

namespace Lexeme

theorem take_length_takeWhile (test : Char → Bool) (text : List Char) :
    text.take (text.takeWhile test).length = text.takeWhile test :=
  (List.prefix_iff_eq_take.1 (List.takeWhile_prefix test)).symm

theorem writtenAs_of_punctuation? {first : Char} {kind : TokenKind}
    (sign : punctuation? first = some kind) : kind.WrittenAs [first] := by
  unfold punctuation? at sign
  split at sign
  case h_9 => exact nomatch sign
  all_goals
    rcases Option.some.inj sign with rfl
    rfl

theorem writtenAs_of_ofDigits {digits : List Char} {kind : TokenKind} (nonempty : digits ≠ [])
    (decimal : ∀ digit ∈ digits, isDigit digit = true)
    (found : ofDigits digits = .token kind) : kind.WrittenAs digits := by
  unfold ofDigits at found
  split at found
  · rename_i fits
    rcases Lexeme.token.inj found with rfl
    refine ⟨nonempty, decimal, ?_⟩
    rw [← decimalValue_eq_placeValue, Int64.toInt_ofNat_of_lt fits]
  · exact nomatch found

theorem writtenAs_of_ofWord {letters : List Char} {kind : TokenKind}
    (found : ofWord letters = .token kind) : kind.WrittenAs letters := by
  unfold ofWord at found
  split at found
  · rename_i isLet
    rcases Lexeme.token.inj found with rfl
    exact isLet
  · rcases Lexeme.token.inj found with rfl
    exact String.toList_ofList.symm

/-- A token takes just the characters with which it is written. -/
theorem writtenAs_of_recognise {nesting more : Nat} {first : Char} {rest : List Char}
    {kind : TokenKind} (found : recognise nesting first rest = (.token kind, more)) :
    kind.WrittenAs (first :: rest.take more) := by
  unfold recognise at found
  split at found
  · -- A line end, which is a token only outside all parentheses.
    rename_i lineEnd
    rcases Prod.mk.inj found with ⟨lexeme, rfl⟩
    split at lexeme
    · rcases Lexeme.token.inj lexeme with rfl
      exact congrArg (fun character => [character]) lineEnd
    · exact nomatch lexeme
  split at found
  · exact nomatch found
  split at found
  · exact nomatch found
  split at found
  · rename_i sign
    rcases Prod.mk.inj found with ⟨lexeme, rfl⟩
    rcases Lexeme.token.inj lexeme with rfl
    exact writtenAs_of_punctuation? sign
  split at found
  · rename_i opens
    rcases Prod.mk.inj found with ⟨lexeme, rfl⟩
    rw [take_length_takeWhile]
    refine writtenAs_of_ofDigits (List.cons_ne_nil _ _) ?_ lexeme
    exact List.forall_mem_cons.2 ⟨opens, List.all_eq_true.1 List.all_takeWhile⟩
  split at found
  · rcases Prod.mk.inj found with ⟨lexeme, rfl⟩
    rw [take_length_takeWhile]
    exact writtenAs_of_ofWord lexeme
  · exact nomatch found

end Lexeme

/-! ## Pieces in their text -/

namespace Piece

/-- The piece is what is recognised at its place in a text that begins at an offset. -/
def IsCutFrom (offset : Nat) (text : List Char) (piece : Piece) : Prop :=
  ∃ before first rest nesting more, text = before ++ first :: rest ∧
    piece.start = offset + width before ∧ piece.characters = first :: rest.take more ∧
    Lexeme.recognise nesting first rest = (piece.lexeme, more)

theorem IsCutFrom.standsAt {text : List Char} {piece : Piece} (cut : piece.IsCutFrom 0 text) :
    StandsAt text piece.span piece.characters := by
  rcases cut with ⟨before, first, rest, nesting, more, rfl, start, characters, -⟩
  refine ⟨before, rest.drop more, ?_, ?_, ?_⟩
  · rw [characters, List.cons_append, List.take_append_drop]
  · exact ((Nat.zero_add _).symm.trans start.symm)
  · rw [span_stop, start, Nat.zero_add]

end Piece

theorem Lexed.isCutFrom_of_mem_pieces (nesting offset : Nat) (text : List Char) :
    ∀ piece ∈ pieces nesting offset text, piece.IsCutFrom offset text := by
  fun_induction pieces nesting offset text with
  | case1 => exact fun _ member => absurd member List.not_mem_nil
  | case2 nesting offset first rest lexeme more found piece inductive_hypothesis =>
    intro other member
    rcases List.mem_cons.1 member with rfl | later
    · exact ⟨[], first, rest, nesting, more, rfl, rfl, rfl, found⟩
    · rcases inductive_hypothesis other later with
        ⟨before, begin, tail, deeper, further, split, start, characters, recognised⟩
      refine ⟨piece.characters ++ before, begin, tail, deeper, further, ?_, ?_, characters,
        recognised⟩
      · rw [List.append_assoc, ← split]
        simp [piece]
      · rw [start, Piece.span_stop, width_append, Nat.add_assoc]

/-! ## Tokens and lexical errors in their text -/

namespace Lexed

theorem isCutFrom_of_ofText {text : String} {piece : Piece}
    (member : piece ∈ pieces 0 0 text.toList) : piece.IsCutFrom 0 text.toList :=
  isCutFrom_of_mem_pieces 0 0 text.toList piece member

/-- Each token of a text stands in the text at its span. -/
theorem standsAt_of_mem_tokens {text : String} {token : Token}
    (member : token ∈ (ofText text).tokens) :
    ∃ characters, StandsAt text.toList token.span characters ∧
      token.kind.WrittenAs characters := by
  rw [ofText, scan_eq_pieces] at member
  rcases List.mem_filterMap.1 member with ⟨piece, inText, found⟩
  have cut := isCutFrom_of_ofText inText
  refine ⟨piece.characters, Piece.span_of_token? found ▸ cut.standsAt, ?_⟩
  rcases cut with ⟨before, first, rest, nesting, more, -, -, characters, recognised⟩
  rw [characters]
  apply Lexeme.writtenAs_of_recognise
  rw [recognised]
  unfold Piece.token? Lexeme.token? at found
  split at found
  · rename_i kind isToken
    rcases Option.some.inj found with rfl
    rw [isToken]
  · cases found

/-- What the lexer objects to stands in the text at the span of the error. -/
theorem standsAt_of_mem_errors {text : String} {error : SyntaxError}
    (member : error ∈ (ofText text).errors) :
    ∃ span characters, error.span? = some span ∧ StandsAt text.toList span characters := by
  rw [ofText, scan_eq_pieces] at member
  rcases List.mem_filterMap.1 member with ⟨piece, inText, found⟩
  exact ⟨piece.span, piece.characters, (Piece.of_error? found).1,
    (isCutFrom_of_ofText inText).standsAt⟩

end Lexed

end StagePipeline.Program
