import Mathlib.Data.List.Induction
import Mathlib.Data.List.TakeWhile
import StagePipeline.Proofs.CursorSafety
import StagePipeline.Proofs.JoinedTexts

/-!
# Where a lexeme begins

What the lexer takes at the front of a text follows from the first character and from
how many parentheses are open, and both can be said without a lexer: `Outline` goes
through a text character by character and keeps only whether the text ends in a comment
and how many parentheses are open outside of comments.  `Lexeme.Begins` has one case for
each kind of lexeme, and from it follows that the lexer agrees with the outline wherever
a lexeme begins, and that none begins inside a comment.
-/

namespace StagePipeline

namespace Text

/-! ### Classes of characters -/

theorem exists_range_of_inRanges {code : Nat} {ranges : List (Nat × Nat)}
    (inside : inRanges code ranges = true) :
    ∃ range ∈ ranges, range.1 ≤ code ∧ code ≤ range.2 := by
  induction ranges with
  | nil => exact absurd inside Bool.false_ne_true
  | cons range rest inductive_hypothesis =>
    rw [inRanges] at inside
    by_cases beyond : range.2 < code
    · rw [if_pos beyond] at inside
      rcases inductive_hypothesis inside with ⟨other, member, bounds⟩
      exact ⟨other, List.mem_cons_of_mem _ member, bounds⟩
    · rw [if_neg beyond, decide_eq_true_eq] at inside
      exact ⟨range, List.mem_cons_self, inside, Nat.le_of_not_lt beyond⟩

/-- The code points of all blanks. -/
def blankCodes : List Nat :=
  whiteSpaceRanges.flatMap fun range => List.range' range.1 (range.2 + 1 - range.1)

theorem mem_blankCodes {character : Char} (blank : isBlank character = true) :
    character.toNat ∈ blankCodes := by
  rcases exists_range_of_inRanges blank with ⟨range, member, least, most⟩
  refine List.mem_flatMap.2 ⟨range, member, List.mem_range'_1.2 ⟨least, ?_⟩⟩
  omega

/-- No blank belongs to a word. -/
theorem isWordPart_of_isBlank {character : Char} (blank : isBlank character = true) :
    isWordPart character = false := by
  have none_of_them : (blankCodes.all fun code => !inRanges code alphabeticRanges &&
      !inRanges code numberRanges && code != '_'.toNat) = true := by decide +kernel
  have here := List.all_eq_true.1 none_of_them _ (mem_blankCodes blank)
  simp only [Bool.and_eq_true, Bool.not_eq_true', bne_iff_ne] at here
  rcases here with ⟨⟨noLetter, noNumber⟩, other⟩
  have noUnderscore : (character == '_') = false :=
    beq_eq_false_iff_ne.2 fun same => other (congrArg Char.toNat same)
  rw [isWordPart, isAlphabetic, isNumeric, noLetter, noNumber, noUnderscore]
  rfl

section Digit

variable {character : Char} (digit : isDigit character = true)

include digit

theorem toNat_of_isDigit : 48 ≤ character.toNat ∧ character.toNat ≤ 57 := by
  simp only [isDigit, Bool.and_eq_true, decide_eq_true_eq] at digit
  exact ⟨UInt32.le_iff_toNat_le.1 digit.1, UInt32.le_iff_toNat_le.1 digit.2⟩

theorem isWordPart_of_isDigit : isWordPart character = true := by
  have bounds := toNat_of_isDigit digit
  have numeric : isNumeric character = true := by
    rw [isNumeric, numberRanges, inRanges, if_neg (by omega)]
    exact decide_eq_true bounds.1
  rw [isWordPart, numeric, Bool.or_true, Bool.true_or]

theorem isWordStart_of_isDigit : isWordStart character = false := by
  have bounds := toNat_of_isDigit digit
  have noLetter : isAlphabetic character = false := by
    rw [isAlphabetic, alphabeticRanges]
    exact inRanges_eq_false_of_lt (by omega) (by decide)
  have noUnderscore : (character == '_') = false := by
    refine beq_eq_false_iff_ne.2 fun same => ?_
    rw [same] at bounds
    exact absurd bounds.2 (by decide)
  rw [isWordStart, noLetter, noUnderscore]
  rfl

end Digit

/-- The character neither ends a comment nor begins one and is no parenthesis. -/
structure IsPlain (character : Char) : Prop where
  notLineEnd : character ≠ '\n'
  notSign : character ≠ '#'
  notOpening : character ≠ '('
  notClosing : character ≠ ')'

theorem isPlain_of_isWordPart {character : Char} (part : isWordPart character = true) :
    IsPlain character := by
  have differs : ∀ other, isWordPart other = false → character ≠ other := by
    rintro other outside rfl
    exact Bool.false_ne_true (outside.symm.trans part)
  constructor
  · exact differs '\n' (by decide +kernel)
  · exact differs '#' (by decide +kernel)
  · exact differs '(' (by decide +kernel)
  · exact differs ')' (by decide +kernel)

theorem isPlain_of_isBlank {character : Char} (inLine : character ≠ '\n')
    (blank : isBlank character = true) : IsPlain character := by
  have differs : ∀ other, isBlank other = false → character ≠ other := by
    rintro other solid rfl
    exact Bool.false_ne_true (solid.symm.trans blank)
  constructor
  · exact inLine
  · exact differs '#' (by decide)
  · exact differs '(' (by decide)
  · exact differs ')' (by decide)

end Text

namespace Program

open Text

/-! ### Comments and parentheses -/

/-- Whether a text ends in a comment, and how many parentheses it leaves open. -/
structure Outline where
  comment : Bool := false
  nesting : Nat := 0
  deriving DecidableEq, Repr

namespace Outline

/-- One more character: a comment lasts to the next line end, and what is in it counts for
nothing; neither does a closing parenthesis too many. -/
def add (outline : Outline) (character : Char) : Outline :=
  if character = '\n' then { outline with comment := false }
  else if outline.comment then outline
  else if character = '#' then { outline with comment := true }
  else if character = '(' then { outline with nesting := outline.nesting + 1 }
  else if character = ')' then { outline with nesting := outline.nesting - 1 }
  else outline

/-- The outline of a whole text. -/
def ofText (text : List Char) : Outline :=
  text.foldl add {}

theorem ofText_append (front back : List Char) :
    ofText (front ++ back) = back.foldl add (ofText front) :=
  List.foldl_append

theorem foldl_plain {characters : List Char} (plain : ∀ character ∈ characters, IsPlain character)
    (outline : Outline) : characters.foldl add outline = outline := by
  induction characters with
  | nil => rfl
  | cons first rest inductive_hypothesis =>
    rcases List.forall_mem_cons.1 plain with ⟨here, later⟩
    have same : outline.add first = outline := by
      rw [add, if_neg here.notLineEnd, if_neg here.notSign, if_neg here.notOpening,
        if_neg here.notClosing, ite_self]
    rw [List.foldl_cons, same]
    exact inductive_hypothesis later

theorem foldl_comment {characters : List Char} (single : '\n' ∉ characters) (nesting : Nat) :
    characters.foldl add ⟨true, nesting⟩ = ⟨true, nesting⟩ := by
  induction characters with
  | nil => rfl
  | cons first rest inductive_hypothesis =>
    rw [List.mem_cons, not_or] at single
    have same : add ⟨true, nesting⟩ first = ⟨true, nesting⟩ := by
      rw [add, if_neg (Ne.symm single.1), if_pos rfl]
    rw [List.foldl_cons, same]
    exact inductive_hypothesis single.2

end Outline

theorem endsInComment_concat_iff {text : List Char} {character : Char} :
    EndsInComment (text ++ [character]) ↔
      character ≠ '\n' ∧ (character = '#' ∨ EndsInComment text) := by
  constructor
  · rintro ⟨before, comment, split, single⟩
    rcases List.eq_nil_or_concat comment with rfl | ⟨front, last, rfl⟩
    · rcases List.append_inj' split rfl with ⟨-, same⟩
      rcases List.singleton_inj.1 same
      exact ⟨by decide, .inl rfl⟩
    · rw [List.concat_eq_append, ← List.cons_append, ← List.append_assoc] at split
      rcases List.append_inj' split rfl with ⟨rfl, same⟩
      rcases List.singleton_inj.1 same
      rw [List.concat_eq_append, List.mem_append, not_or, List.mem_singleton] at single
      exact ⟨Ne.symm single.2, .inr ⟨before, front, rfl, single.1⟩⟩
  · rintro ⟨inLine, rfl | ⟨before, comment, rfl, single⟩⟩
    · exact ⟨text, [], rfl, List.not_mem_nil⟩
    · refine ⟨before, comment ++ [character], by simp, ?_⟩
      rw [List.mem_append, not_or, List.mem_singleton]
      exact ⟨single, Ne.symm inLine⟩

theorem Outline.comment_add_iff {outline : Outline} {character : Char} :
    (outline.add character).comment = true ↔
      character ≠ '\n' ∧ (character = '#' ∨ outline.comment = true) := by
  rcases outline with ⟨comment, nesting⟩
  rw [add]
  by_cases lineEnd : character = '\n'
  · simp [lineEnd]
  by_cases sign : character = '#'
  · cases comment <;> simp [sign]
  · cases comment with
    | true => simp [lineEnd]
    | false =>
      rw [if_neg lineEnd, if_neg Bool.false_ne_true, if_neg sign]
      split
      · simp [sign]
      · split <;> simp [sign]

/-- The outline says whether the text ends in a comment. -/
theorem Outline.comment_ofText_iff {text : List Char} :
    (ofText text).comment = true ↔ EndsInComment text := by
  induction text using List.reverseRecOn with
  | nil =>
    refine iff_of_false Bool.false_ne_true ?_
    rintro ⟨before, comment, split, -⟩
    exact List.append_ne_nil_of_right_ne_nil before (List.cons_ne_nil '#' comment) split.symm
  | append_singleton text character inductive_hypothesis =>
    rw [endsInComment_concat_iff, ← inductive_hypothesis, ofText_append]
    exact comment_add_iff

/-! ### Beginnings -/

namespace Lexeme

/--
The lexeme that begins with a character when some parentheses are open and a text follows,
and how many characters of that text belong to it.
-/
inductive Begins (nesting : Nat) (first : Char) (rest : List Char) : Lexeme → Nat → Prop
  | lineEnd (ends : first = '\n') (outside : nesting = 0) :
    Begins nesting first rest (.token .lineEnd) 0
  | innerLineEnd (ends : first = '\n') (inside : 0 < nesting) : Begins nesting first rest .blank 0
  | blank (inLine : first ≠ '\n') (blank : isBlank first = true) :
    Begins nesting first rest .blank 0
  | comment (sign : first = '#') :
    Begins nesting first rest .blank (rest.takeWhile (· != '\n')).length
  | sign {kind : TokenKind} (solid : isBlank first = false) (code : first ≠ '#')
    (sign : punctuation? first = some kind) : Begins nesting first rest (.token kind) 0
  | number (digit : isDigit first = true) :
    Begins nesting first rest (ofDigits (first :: rest.takeWhile isDigit))
      (rest.takeWhile isDigit).length
  | word (letter : isWordStart first = true) :
    Begins nesting first rest (ofWord (first :: rest.takeWhile isWordPart))
      (rest.takeWhile isWordPart).length
  | stray (solid : isBlank first = false) (code : first ≠ '#') (noSign : punctuation? first = none)
    (noDigit : isDigit first = false) (noLetter : isWordStart first = false) :
    Begins nesting first rest (.stray first) 0

theorem begins_recognise (nesting : Nat) (first : Char) (rest : List Char) :
    Begins nesting first rest (recognise nesting first rest).1
      (recognise nesting first rest).2 := by
  rw [recognise]
  split
  case isTrue ends =>
    split
    · rename_i outside
      exact .lineEnd ends outside
    · rename_i inside
      exact .innerLineEnd ends (Nat.pos_of_ne_zero inside)
  case isFalse inLine =>
  split
  case isTrue blank => exact .blank inLine blank
  case isFalse solid =>
  split
  case isTrue sign => exact .comment sign
  case isFalse code =>
  split
  case h_1 kind sign => exact .sign (Bool.eq_false_iff.2 solid) code sign
  case h_2 noSign =>
  split
  case isTrue digit => exact .number digit
  case isFalse noDigit =>
  split
  case isTrue letter => exact .word letter
  case isFalse noLetter =>
    exact .stray (Bool.eq_false_iff.2 solid) code noSign (Bool.eq_false_iff.2 noDigit)
      (Bool.eq_false_iff.2 noLetter)

theorem isWordPart_of_punctuation? {first : Char} {kind : TokenKind}
    (sign : punctuation? first = some kind) : isWordPart first = false := by
  unfold punctuation? at sign
  split at sign
  case h_9 => cases sign
  all_goals decide +kernel

section Branches

variable {first : Char} (nesting : Nat) (rest : List Char)

theorem recognise_of_isWordPart (part : isWordPart first = true) :
    recognise nesting first rest =
      if isDigit first then
        (ofDigits (first :: rest.takeWhile isDigit), (rest.takeWhile isDigit).length)
      else if isWordStart first then
        (ofWord (first :: rest.takeWhile isWordPart), (rest.takeWhile isWordPart).length)
      else (.stray first, 0) := by
  have plain := isPlain_of_isWordPart part
  have solid : ¬ isBlank first = true := fun blank =>
    Bool.false_ne_true ((isWordPart_of_isBlank blank).symm.trans part)
  have noSign : punctuation? first = none := by
    cases sign : punctuation? first with
    | none => rfl
    | some kind => exact absurd ((isWordPart_of_punctuation? sign).symm.trans part) (by decide)
  rw [recognise, if_neg plain.notLineEnd, if_neg solid, if_neg plain.notSign, noSign]

theorem recognise_number (digit : isDigit first = true) :
    recognise nesting first rest =
      (ofDigits (first :: rest.takeWhile isDigit), (rest.takeWhile isDigit).length) := by
  rw [recognise_of_isWordPart nesting rest (isWordPart_of_isDigit digit), if_pos digit]

theorem recognise_word (letter : isWordStart first = true) :
    recognise nesting first rest =
      (ofWord (first :: rest.takeWhile isWordPart), (rest.takeWhile isWordPart).length) := by
  have noDigit : ¬ isDigit first = true := fun digit =>
    Bool.false_ne_true ((isWordStart_of_isDigit digit).symm.trans letter)
  rw [recognise_of_isWordPart nesting rest (isWordPart_of_isWordStart letter), if_neg noDigit,
    if_pos letter]

theorem recognise_sign {kind : TokenKind} (solid : isBlank first = false) (code : first ≠ '#')
    (sign : punctuation? first = some kind) :
    recognise nesting first rest = (.token kind, 0) := by
  have inLine : first ≠ '\n' := by
    rintro rfl
    cases sign
  rw [recognise, if_neg inLine, solid, if_neg Bool.false_ne_true, if_neg code, sign]

end Branches

theorem nestingAfter_ofDigits (nesting : Nat) (digits : List Char) :
    (ofDigits digits).nestingAfter nesting = nesting := by
  rw [ofDigits]
  split <;> rfl

theorem nestingAfter_ofWord (nesting : Nat) (letters : List Char) :
    (ofWord letters).nestingAfter nesting = nesting := by
  rw [ofWord]
  split <;> rfl

theorem ofDigits_ne_blank (digits : List Char) : ofDigits digits ≠ .blank := by
  rw [ofDigits]
  split <;> simp

theorem ofWord_ne_blank (letters : List Char) : ofWord letters ≠ .blank := by
  rw [ofWord]
  split <;> simp

theorem nestingAfter_sign {first : Char} {kind : TokenKind}
    (sign : punctuation? first = some kind) (nesting : Nat) :
    Outline.add ⟨false, nesting⟩ first = ⟨false, nestingAfter nesting (.token kind)⟩ := by
  unfold punctuation? at sign
  split at sign
  case h_9 => cases sign
  all_goals
    rcases Option.some.inj sign with rfl
    rfl

namespace Begins

variable {nesting more : Nat} {first : Char} {rest : List Char} {lexeme : Lexeme}

theorem of_recognise (found : recognise nesting first rest = (lexeme, more)) :
    Begins nesting first rest lexeme more := by
  have begins := begins_recognise nesting first rest
  rw [found] at begins
  exact begins

/-- A run of characters that all belong to words. -/
theorem isWordPart_of_mem_run (rest : List Char) {test : Char → Bool}
    (parts : ∀ character, test character = true → isWordPart character = true)
    (opens : isWordPart first = true) :
    ∀ character ∈ first :: rest.take (rest.takeWhile test).length,
      isWordPart character = true := by
  rw [take_length_takeWhile]
  refine List.forall_mem_cons.2 ⟨opens, fun character member => ?_⟩
  exact parts character (List.all_eq_true.1 List.all_takeWhile _ member)

/-- All characters of a lexeme that is not skipped are visible, except a line end. -/
theorem solid (begins : Begins nesting first rest lexeme more) (kept : lexeme ≠ .blank)
    (inLine : first ≠ '\n') :
    ∀ character ∈ first :: rest.take more, isBlank character = false ∧ character ≠ '#' := by
  have part : ∀ character, isWordPart character = true →
      isBlank character = false ∧ character ≠ '#' := by
    intro character part
    refine ⟨?_, (isPlain_of_isWordPart part).notSign⟩
    cases blank : isBlank character with
    | false => rfl
    | true => exact absurd ((isWordPart_of_isBlank blank).symm.trans part) (by decide)
  cases begins with
  | lineEnd ends outside => exact absurd ends inLine
  | innerLineEnd ends inside => exact absurd rfl kept
  | blank single blank => exact absurd rfl kept
  | comment sign => exact absurd rfl kept
  | sign solid code sign =>
    rw [List.take_zero, List.forall_mem_singleton]
    exact ⟨solid, code⟩
  | number digit =>
    have parts := isWordPart_of_mem_run rest (fun _ => isWordPart_of_isDigit)
      (isWordPart_of_isDigit digit)
    exact fun character member => part character (parts character member)
  | word letter =>
    have parts := isWordPart_of_mem_run rest (fun _ => id) (isWordPart_of_isWordStart letter)
    exact fun character member => part character (parts character member)
  | stray solid code noSign noDigit noLetter =>
    rw [List.take_zero, List.forall_mem_singleton]
    exact ⟨solid, code⟩

section Outlines

variable {comment : Bool} (outside : comment = true → first = '\n')

include outside

/-- Within a line nothing begins in a comment. -/
theorem comment_eq_false (inLine : first ≠ '\n') : comment = false := by
  cases comment with
  | false => rfl
  | true => exact absurd (outside rfl) inLine

theorem foldl_add_of_plain
    (plain : ∀ character ∈ first :: rest.take more, IsPlain character) :
    (first :: rest.take more).foldl Outline.add ⟨comment, nesting⟩ = ⟨false, nesting⟩ := by
  rw [comment_eq_false outside (plain first List.mem_cons_self).notLineEnd]
  exact Outline.foldl_plain plain _

/-- Behind a lexeme the outline counts the parentheses that the lexer counts, and a comment
has come to its end. -/
theorem foldl_add (begins : Begins nesting first rest lexeme more) :
    ∃ commented, (first :: rest.take more).foldl Outline.add ⟨comment, nesting⟩ =
        ⟨commented, lexeme.nestingAfter nesting⟩ ∧
      (commented = true → ∀ next ∈ (rest.drop more).head?, next = '\n') := by
  cases begins with
  | lineEnd ends outside =>
    refine ⟨false, ?_, nofun⟩
    rw [ends]
    rfl
  | innerLineEnd ends inside =>
    refine ⟨false, ?_, nofun⟩
    rw [ends]
    rfl
  | blank inLine blank =>
    refine ⟨false, foldl_add_of_plain outside ?_, nofun⟩
    exact List.forall_mem_singleton.2 (isPlain_of_isBlank inLine blank)
  | comment sign =>
    have single : '\n' ∉ rest.takeWhile (· != '\n') := by
      intro member
      exact absurd (List.all_eq_true.1 List.all_takeWhile _ member) (by decide)
    refine ⟨true, ?_, fun _ next member => ?_⟩
    · rw [comment_eq_false outside (by rw [sign]; decide), sign, take_length_takeWhile]
      exact Outline.foldl_comment single nesting
    · rw [drop_length_takeWhile] at member
      have stops := List.head?_dropWhile_not (· != '\n') rest
      rw [Option.mem_def.1 member] at stops
      simpa using stops
  | @sign kind solid code sign =>
    have inLine : first ≠ '\n' := by
      rintro rfl
      cases sign
    refine ⟨false, ?_, nofun⟩
    rw [comment_eq_false outside inLine, List.take_zero]
    exact nestingAfter_sign sign nesting
  | number digit =>
    have parts := isWordPart_of_mem_run rest (fun _ => isWordPart_of_isDigit)
      (isWordPart_of_isDigit digit)
    rw [nestingAfter_ofDigits]
    exact ⟨false, foldl_add_of_plain outside fun character member =>
      isPlain_of_isWordPart (parts character member), nofun⟩
  | word letter =>
    have parts := isWordPart_of_mem_run rest (fun _ => id) (isWordPart_of_isWordStart letter)
    rw [nestingAfter_ofWord]
    exact ⟨false, foldl_add_of_plain outside fun character member =>
      isPlain_of_isWordPart (parts character member), nofun⟩
  | stray solid code noSign noDigit noLetter =>
    have plain : IsPlain first := by
      refine ⟨?_, code, ?_, ?_⟩
      · rintro rfl
        exact absurd solid (by decide)
      · rintro rfl
        exact absurd noSign (by decide)
      · rintro rfl
        exact absurd noSign (by decide)
    exact ⟨false, foldl_add_of_plain outside (List.forall_mem_singleton.2 plain), nofun⟩

end Outlines

/-- A token that is cut off alone is the same token. -/
theorem recognise_alone (begins : Begins nesting first rest lexeme more) {kind : TokenKind}
    (isToken : lexeme = .token kind) :
    recognise 0 first (rest.take more) = (.token kind, (rest.take more).length) := by
  cases begins with
  | lineEnd ends outside =>
    rw [← isToken, ends]
    rfl
  | innerLineEnd ends inside => cases isToken
  | blank inLine blank => cases isToken
  | comment sign => cases isToken
  | sign solid code sign =>
    rw [recognise_sign 0 _ solid code sign, ← isToken]
    rfl
  | number digit =>
    rw [recognise_number 0 _ digit, take_length_takeWhile,
      List.takeWhile_eq_self_iff.2 (List.all_eq_true.1 List.all_takeWhile), isToken]
  | word letter =>
    rw [recognise_word 0 _ letter, take_length_takeWhile,
      List.takeWhile_eq_self_iff.2 (List.all_eq_true.1 List.all_takeWhile), isToken]
  | stray solid code noSign noDigit noLetter => cases isToken

end Begins

end Lexeme

/-! ### Pieces -/

/-- The piece takes what begins behind a part of the text, which leaves no comment open there. -/
structure Piece.BeginsAt (piece : Piece) (text front : List Char) (first : Char)
    (rest : List Char) (more : Nat) : Prop where
  split : text = front ++ first :: rest
  start : piece.start = width front
  characters : piece.characters = first :: rest.take more
  found : Lexeme.recognise (Outline.ofText front).nesting first rest = (piece.lexeme, more)
  outside : EndsInComment front → first = '\n'

theorem Piece.BeginsAt.begins {piece : Piece} {text front rest : List Char} {first : Char}
    {more : Nat} (place : piece.BeginsAt text front first rest more) :
    Lexeme.Begins (Outline.ofText front).nesting first rest piece.lexeme more :=
  .of_recognise place.found

/-- The lexer counts parentheses as the outline does, and no lexeme begins inside a comment. -/
theorem Lexed.exists_beginsAt (nesting offset : Nat) (text : List Char) :
    ∀ front, offset = width front → (Outline.ofText front).nesting = nesting →
      ((Outline.ofText front).comment = true → ∀ next ∈ text.head?, next = '\n') →
      ∀ piece ∈ pieces nesting offset text, ∃ before first rest more,
        piece.BeginsAt (front ++ text) before first rest more := by
  fun_induction pieces nesting offset text with
  | case1 => exact fun _ _ _ _ _ member => absurd member List.not_mem_nil
  | case2 nesting offset first rest lexeme more found piece inductive_hypothesis =>
    intro front measured counted ended other member
    have begins := Lexeme.Begins.of_recognise found
    have opens : (Outline.ofText front).comment = true → first = '\n' :=
      fun commented => ended commented first rfl
    rcases List.mem_cons.1 member with rfl | later
    · have outside := fun ends => opens (Outline.comment_ofText_iff.2 ends)
      exact ⟨front, first, rest, more, rfl, measured, rfl, counted ▸ found, outside⟩
    · rcases Lexeme.Begins.foldl_add opens begins with ⟨commented, outline_eq, behind⟩
      have joined : Outline.ofText (front ++ piece.characters) =
          ⟨commented, lexeme.nestingAfter nesting⟩ := by
        rw [Outline.ofText_append, ← outline_eq, ← counted]
      have split : front ++ first :: rest = (front ++ piece.characters) ++ rest.drop more := by
        simp [piece]
      rw [split]
      refine inductive_hypothesis _ ?_ ?_ ?_ other later
      · rw [Piece.span_stop, width_append]
        exact congrArg (· + width piece.characters) measured
      · rw [joined]
      · rw [joined]
        exact behind

theorem Lexed.exists_beginsAt_of_mem {text : List Char} {piece : Piece}
    (member : piece ∈ pieces 0 0 text) :
    ∃ front first rest more, piece.BeginsAt text front first rest more :=
  exists_beginsAt 0 0 text [] rfl rfl nofun piece member

end Program

end StagePipeline
