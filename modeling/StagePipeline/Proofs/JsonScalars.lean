import Mathlib.Data.List.TakeWhile
import StagePipeline.Json.Document
import StagePipeline.Json.Value
import StagePipeline.Proofs.TextPlaces

/-!
# Texts and numbers in JSON texts

The reader takes each character of a written text as one piece, which stands for that
character again.  The digits of a written integer begin with zero only if it is zero, so the
reader takes them all, up to something that does not continue a number.
-/

namespace StagePipeline.Json

/-- A character is written as a backslash and a letter, as a code or as itself. -/
theorem escape_cases (character : Char) :
    (∃ letter, escape character = ['\\', letter] ∧ letter ≠ 'u' ∧
      Document.escaped? letter = some character) ∨
    (escape character = '\\' :: 'u' :: '0' :: '0' :: hexPair character.toNat ∧
      character.toNat < 32) ∨
    (escape character = [character] ∧ ¬ character.toNat < 32 ∧
      character ≠ '"' ∧ character ≠ '\\') := by
  rw [escape]
  split_ifs with quote backslash lineFeed carriageReturn tab backspace formFeed control
  · exact .inl ⟨_, rfl, by decide, by rw [quote]; rfl⟩
  · exact .inl ⟨_, rfl, by decide, by rw [backslash]; rfl⟩
  · exact .inl ⟨_, rfl, by decide, by rw [lineFeed]; rfl⟩
  · exact .inl ⟨_, rfl, by decide, by rw [carriageReturn]; rfl⟩
  · exact .inl ⟨_, rfl, by decide, by rw [tab]; rfl⟩
  · exact .inl ⟨_, rfl, by decide, congrArg some (Char.toNat_inj.1 backspace.symm)⟩
  · exact .inl ⟨_, rfl, by decide, congrArg some (Char.toNat_inj.1 formFeed.symm)⟩
  · exact .inr (.inl ⟨rfl, control⟩)
  · exact .inr (.inr ⟨rfl, control, quote, backslash⟩)

/-! ### The digits of a number -/

namespace Numeral

/-- The decimal digits of a number. -/
def digitsOf (number : Nat) : List Nat :=
  (Nat.toDigits 10 number).map fun digit => digit.toNat - '0'.toNat

theorem digitsOf_of_lt {number : Nat} (small : number < 10) : digitsOf number = [number] := by
  have single : [number.digitChar.toNat - '0'.toNat] = [number] := by
    revert number
    decide
  rw [digitsOf, Nat.toDigits_of_lt_base small]
  exact single

theorem digitsOf_of_le {number : Nat} (large : 10 ≤ number) :
    digitsOf number = digitsOf (number / 10) ++ [number % 10] := by
  have last := digitsOf_of_lt (Nat.mod_lt number (by decide : 0 < 10))
  rw [digitsOf, Nat.toDigits_of_lt_base (Nat.mod_lt number (by decide))] at last
  rw [digitsOf, Nat.toDigits_of_base_le (by decide) large, List.map_append, last, digitsOf]

theorem digitsOf_ne_nil (number : Nat) : digitsOf number ≠ [] :=
  mt List.map_eq_nil_iff.1 Nat.toDigits_ne_nil

/-- Only zero begins with the digit zero. -/
theorem eq_zero_of_digitsOf {number : Nat} {rest : List Nat}
    (leading : digitsOf number = 0 :: rest) : number = 0 := by
  induction number using Nat.strongRecOn generalizing rest with
  | _ number inductive_hypothesis =>
    rcases Nat.lt_or_ge number 10 with small | large
    · rw [digitsOf_of_lt small] at leading
      exact (List.cons.inj leading).1
    · rcases List.exists_cons_of_ne_nil (digitsOf_ne_nil (number / 10)) with
        ⟨first, others, front⟩
      rw [digitsOf_of_le large, front] at leading
      rcases (List.cons.inj leading).1 with rfl
      have quotient := inductive_hypothesis (number / 10) (by omega) front
      omega

theorem digitsOf_ne_leading {number second : Nat} {rest : List Nat} :
    digitsOf number ≠ 0 :: second :: rest := by
  intro leading
  rcases eq_zero_of_digitsOf leading with rfl
  exact absurd leading nofun

theorem gather_append {significand value : Nat} {front : List Nat}
    (gathered : gather significand front = (value, [])) (rest : List Nat) :
    gather significand (front ++ rest) = gather value rest := by
  induction front generalizing significand with
  | nil =>
    rcases Prod.mk.inj gathered with ⟨rfl, -⟩
    rfl
  | cons digit later inductive_hypothesis =>
    rw [gather] at gathered
    split at gathered
    case isTrue fits =>
      rw [List.cons_append, gather, if_pos fits]
      exact inductive_hypothesis gathered
    case isFalse => exact absurd (Prod.mk.inj gathered).2 nofun

theorem gather_digitsOf {number : Nat} (fits : number < Nat.pow 2 64) :
    gather 0 (digitsOf number) = (number, []) := by
  induction number using Nat.strongRecOn with
  | _ number inductive_hypothesis =>
    rcases Nat.lt_or_ge number 10 with small | large
    · rw [digitsOf_of_lt small, gather, Nat.zero_mul, Nat.zero_add, if_pos fits]
      rfl
    · have front := inductive_hypothesis (number / 10) (by omega) (by omega)
      have whole : number / 10 * 10 + number % 10 = number := Nat.div_add_mod' number 10
      rw [digitsOf_of_le large, gather_append front, gather, whole, if_pos fits]
      rfl

/-- The parts of an integer as it is written. -/
def ofInt : Int → Numeral
  | .ofNat size => ⟨false, digitsOf size, none, none⟩
  | .negSucc size => ⟨true, digitsOf (size + 1), none, none⟩

theorem value_ofInt {number : Nat} (fits : number < Nat.pow 2 64) :
    (ofInt number).value = .integer number := by
  have integer : (ofInt number).integer? = some (number : Int) := by
    change integer? ⟨false, digitsOf number, none, none⟩ = _
    rw [integer?, gather_digitsOf fits]
    rfl
  rw [value, integer]

end Numeral

namespace Document

/-! ### Texts -/

theorem hexNumber?_hexPair {code : Nat} (small : code < 32) :
    hexNumber? ('0' :: '0' :: hexPair code) = some code := by
  revert code
  decide

theorem characters_unit {code : Nat} (small : code < 0xd800) (more : List Piece) :
    characters (.unit code :: more) = (characters more).map (Char.ofNat code :: ·) := by
  rw [characters.eq_def]
  exact if_pos (.inl small)

/-- The reader takes a written character as one piece, which stands for the character. -/
theorem exists_piece (character : Char) : ∃ piece,
    (∀ rest, pieces (escape character ++ rest) =
      (pieces rest).map fun (more, left) => (piece :: more, left)) ∧
    ∀ more, characters (piece :: more) = (characters more).map (character :: ·) := by
  rcases escape_cases character with
    ⟨letter, written, notCode, stands⟩ | ⟨written, control⟩ | ⟨written, plain, notQuote, notEscape⟩
  · refine ⟨.character character, fun rest => ?_, fun more => by rw [characters]⟩
    rw [written]
    change pieces ('\\' :: letter :: rest) = _
    rw [pieces, stands]
    exact fun _ _ _ _ _ code => absurd code notCode
  · refine ⟨.unit character.toNat, fun rest => ?_, fun more => ?_⟩
    · rw [written]
      change pieces ('\\' :: 'u' :: '0' :: '0' :: _ :: _ :: rest) = _
      rw [pieces, ← hexPair, hexNumber?_hexPair control]
    · rw [characters_unit (by omega), Char.ofNat_toNat]
  · refine ⟨.character character, fun rest => ?_, fun more => by rw [characters]⟩
    rw [written]
    change pieces (character :: rest) = _
    rw [pieces, if_neg plain]
    · exact notQuote
    · exact fun _ _ _ _ _ backslash _ => notEscape backslash
    · exact fun _ _ backslash _ => notEscape backslash

theorem exists_pieces (text rest : List Char) : ∃ found,
    pieces (text.flatMap escape ++ '"' :: rest) = some (found, rest) ∧
      characters found = some text := by
  induction text with
  | nil => exact ⟨[], rfl, rfl⟩
  | cons first later inductive_hypothesis =>
    rcases inductive_hypothesis with ⟨found, read, stand⟩
    rcases exists_piece first with ⟨piece, readFirst, standsFirst⟩
    refine ⟨piece :: found, ?_, ?_⟩
    · rw [List.flatMap_cons, List.append_assoc, readFirst, read]
      rfl
    · rw [standsFirst, stand]
      rfl

/-- The reader finds a written text, from behind its first quote. -/
theorem readText_escaped (text : String) (rest : List Char) :
    readText (text.toList.flatMap escape ++ '"' :: rest) = some (some text, rest) := by
  rcases exists_pieces text.toList rest with ⟨found, read, stand⟩
  rw [readText, read, Option.map_some]
  change some ((characters found).map String.ofList, rest) = _
  rw [stand, Option.map_some, String.ofList_toList]

/-! ### Numbers -/

/-- What can follow the digits of a number and belongs to it. -/
def continuesNumber (character : Char) : Bool :=
  Text.isDigit character || character == '.' || character == 'e' || character == 'E'

/-- What follows does not continue a number. -/
def EndsNumber (rest : List Char) : Prop :=
  ∀ character ∈ rest.head?, continuesNumber character = false

theorem readDigits_append {digits rest : List Char}
    (decimal : ∀ digit ∈ digits, Text.isDigit digit = true) (ends : EndsNumber rest) :
    readDigits (digits ++ rest) =
      (digits.map fun digit => digit.toNat - '0'.toNat, rest) := by
  have stops : rest.takeWhile Text.isDigit = [] ∧ rest.dropWhile Text.isDigit = rest := by
    cases rest with
    | nil => exact ⟨rfl, rfl⟩
    | cons first later =>
      have other : Text.isDigit first = false := by
        have ended := ends first rfl
        simp only [continuesNumber, Bool.or_eq_false_iff] at ended
        exact ended.1.1.1
      exact ⟨List.takeWhile_cons_of_neg (by rw [other]; nofun),
        List.dropWhile_cons_of_neg (by rw [other]; nofun)⟩
  rw [readDigits, List.takeWhile_append_of_pos decimal, List.dropWhile_append_of_pos decimal,
    stops.1, stops.2, List.append_nil]

theorem readFraction_of_endsNumber {rest : List Char} (ends : EndsNumber rest) :
    readFraction rest = some (none, rest) := by
  rw [readFraction.eq_def]
  split
  case h_1 later => exact absurd (ends '.' rfl) (by decide)
  case h_2 => rfl

theorem readExponent_of_endsNumber {rest : List Char} (ends : EndsNumber rest) :
    readExponent rest = some (none, rest) := by
  cases rest with
  | nil => rfl
  | cons mark later =>
    have other : ¬ (mark = 'e' ∨ mark = 'E') := by
      rintro (rfl | rfl) <;> exact absurd (ends _ rfl) (by decide)
    rw [readExponent.eq_def]
    exact if_neg other

/-- A number from behind its sign. -/
def readUnsigned (negative : Bool) (input : List Char) : Option (Numeral × List Char) :=
  match readDigits input with
  | ([], _) | (0 :: _ :: _, _) => none
  | (whole, rest) =>
    (readFraction rest).bind fun (fraction, rest) =>
      (readExponent rest).map fun (exponent, rest) =>
        (⟨negative, whole, fraction, exponent⟩, rest)

theorem readNumeral_minus (input : List Char) :
    readNumeral ('-' :: input) = readUnsigned true input := rfl

theorem readNumeral_of_ne_minus {input : List Char} (unsigned : input.head? ≠ some '-') :
    readNumeral input = readUnsigned false input := by
  rw [readNumeral.eq_def]
  split
  rename_i sign
  split at sign
  · exact absurd rfl unsigned
  · cases sign
    rfl

theorem readUnsigned_digits (negative : Bool) (number : Nat) {rest : List Char}
    (ends : EndsNumber rest) :
    readUnsigned negative (Nat.toDigits 10 number ++ rest) =
      some (⟨negative, Numeral.digitsOf number, none, none⟩, rest) := by
  rw [readUnsigned, readDigits_append (fun _ => Text.isDigit_of_mem_toDigits) ends,
    ← Numeral.digitsOf]
  split
  case h_1 empty => exact absurd (Prod.mk.inj empty).1 (Numeral.digitsOf_ne_nil number)
  case h_2 leading => exact absurd (Prod.mk.inj leading).1 Numeral.digitsOf_ne_leading
  case h_3 found =>
    rcases Prod.mk.inj found with ⟨rfl, rfl⟩
    rw [readFraction_of_endsNumber ends, Option.bind_some]
    change (readExponent rest).map _ = _
    rw [readExponent_of_endsNumber ends]
    rfl

/-- The first character of a written integer is a digit or its sign. -/
theorem exists_first_numberCharacters (value : Int) : ∃ first later,
    numberCharacters value = first :: later ∧ (Text.isDigit first = true ∨ first = '-') := by
  cases value with
  | ofNat number =>
    rcases List.exists_cons_of_ne_nil (Nat.toDigits_ne_nil (n := number) (b := 10)) with
      ⟨first, later, digits⟩
    have member : first ∈ Nat.toDigits 10 number := digits ▸ List.mem_cons_self
    exact ⟨first, later, digits, .inl (Text.isDigit_of_mem_toDigits member)⟩
  | negSucc number => exact ⟨_, _, rfl, .inr rfl⟩

/-- The reader finds the parts of a written integer. -/
theorem readNumeral_numberCharacters (value : Int) {rest : List Char} (ends : EndsNumber rest) :
    readNumeral (numberCharacters value ++ rest) = some (.ofInt value, rest) := by
  cases value with
  | ofNat number =>
    rcases List.exists_cons_of_ne_nil (Nat.toDigits_ne_nil (n := number) (b := 10)) with
      ⟨first, later, digits⟩
    have unsigned : (Nat.toDigits 10 number ++ rest).head? ≠ some '-' := by
      rw [digits]
      rintro ⟨⟩
      have member : '-' ∈ Nat.toDigits 10 number := digits ▸ List.mem_cons_self
      exact absurd (Text.isDigit_of_mem_toDigits member) (by decide)
    rw [numberCharacters, readNumeral_of_ne_minus unsigned, readUnsigned_digits _ _ ends]
    rfl
  | negSucc number =>
    rw [numberCharacters, List.cons_append, readNumeral_minus, readUnsigned_digits _ _ ends]
    rfl

end Document

end StagePipeline.Json
