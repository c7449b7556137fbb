import StagePipeline.Json.Document

/-!
# Scalars in TOML documents

A scalar without quotes is a single word, apart from a date and a time with a
blank between them.  What a word stands for is decided by its form alone:
numbers may have single underscores between their digits, a number with a point
or an exponent is rounded to the nearest number of the binary format, and dates
and times have to exist.  A number without value, because it is too large, has a
base and no digits, or begins with digits in groups and does not go on with
digits, is kept as such: it only matters to whoever looks at the value.
-/

namespace StagePipeline.Toml

open StagePipeline.Json.Document (hexDigit?)

/-- A value without parts. -/
inductive Scalar where
  | text (value : String)
  | integer (value : Int)
  | fraction (value : Binary64)
  /-- A number without value. -/
  | valueless
  | boolean (value : Bool)
  /-- A date, a time, or both. -/
  | moment
  deriving DecidableEq, Repr

namespace Scalar

/-! ### Numbers -/

/-- The value of a digit below a base. -/
def digitBelow? (base : Nat) (character : Char) : Option Nat :=
  (hexDigit? character).filter (· < base)

/-- Digits with perhaps an underscore between two of them. -/
def groupedDigits? (base : Nat) : List Char → Option (List Nat)
  | [] => none
  | [last] => (digitBelow? base last).map ([·])
  | first :: '_' :: rest => do
    let digit ← digitBelow? base first
    let digits ← groupedDigits? base rest
    return digit :: digits
  | first :: rest => do
    let digit ← digitBelow? base first
    let digits ← groupedDigits? base rest
    return digit :: digits

/-- The natural that some digits stand for. -/
def ofDigits (base : Nat) (digits : List Nat) : Nat :=
  digits.foldl (fun number digit => number * base + digit) 0

/-- Decimal digits of which the first is zero only if it is the only one. -/
def wholeDigits? (word : List Char) : Option (List Nat) :=
  match groupedDigits? 10 word with
  | some (0 :: _ :: _) => none
  | digits => digits

/-- Whether the sign of a word is negative, and what follows the sign. -/
def splitSign : List Char → Bool × List Char
  | '-' :: rest => (true, rest)
  | '+' :: rest => (false, rest)
  | word => (false, word)

/-- The integer that decimal digits with a sign stand for. -/
def signed (negative : Bool) (digits : List Nat) : Int :=
  if negative then -(ofDigits 10 digits : Int) else ofDigits 10 digits

/-- An integer in one of four bases. -/
def integer? (word : List Char) : Option Int :=
  match word with
  | '0' :: 'x' :: digits => (groupedDigits? 16 digits).map fun digits => ofDigits 16 digits
  | '0' :: 'o' :: digits => (groupedDigits? 8 digits).map fun digits => ofDigits 8 digits
  | '0' :: 'b' :: digits => (groupedDigits? 2 digits).map fun digits => ofDigits 2 digits
  | word =>
    let (negative, digits) := splitSign word
    (wholeDigits? digits).map (signed negative)

/-- The parts of a word before and after the first character of some kind. -/
def splitAtFirst (isMark : Char → Bool) (word : List Char) : List Char × Option (List Char) :=
  match word.dropWhile fun character => !isMark character with
  | [] => (word, none)
  | _ :: rest => (word.takeWhile fun character => !isMark character, some rest)

/-- The exponent of a number, which is nothing when it is not written. -/
def exponent? : Option (List Char) → Option Int
  | none => some 0
  | some word =>
    let (negative, digits) := splitSign word
    (groupedDigits? 10 digits).map (signed negative)

/-- The digits after a point, which are none when there is no point. -/
def places? : Option (List Char) → Option (List Nat)
  | none => some []
  | some word => groupedDigits? 10 word

/-- A number with a point or an exponent, which has no value if it is too large. -/
def fraction? (word : List Char) : Option Scalar := do
  let (negative, word) := splitSign word
  let (mantissa, power) := splitAtFirst (fun character => character == 'e' || character == 'E') word
  let (whole, after) := splitAtFirst (· == '.') mantissa
  if power.isNone && after.isNone then none
  let digits ← wholeDigits? whole
  let places ← places? after
  let exponent ← exponent? power
  match Magnitude.ofDecimal? (ofDigits 10 (digits ++ places)) (exponent - places.length) with
  | some magnitude => return .fraction (.finite negative magnitude)
  | none => return .valueless

/-- A number that has a name. -/
def named? (word : List Char) : Option Binary64 :=
  let (negative, name) := splitSign word
  if name = ['i', 'n', 'f'] then some (.infinite negative)
  else if name = ['n', 'a', 'n'] then some .notNumber
  else none

/-! ### Dates and times -/

/-- The number that a word begins with, in a fixed number of digits, and what follows it. -/
def fixedDigits? (count : Nat) (word : List Char) : Option (Nat × List Char) :=
  if (word.take count).length = count then
    ((word.take count).mapM (digitBelow? 10)).map fun digits =>
      (ofDigits 10 digits, word.drop count)
  else none

/-- What follows a character that has to come. -/
def after? (mark : Char) : List Char → Option (List Char)
  | character :: rest => if character = mark then some rest else none
  | [] => none

/-- How many days a month has. -/
def daysIn (year month : Nat) : Nat :=
  if month = 2 then
    if year % 4 = 0 ∧ (year % 100 ≠ 0 ∨ year % 400 = 0) then 29 else 28
  else if month = 4 ∨ month = 6 ∨ month = 9 ∨ month = 11 then 30
  else 31

/-- What follows a date that exists. -/
def afterDate? (word : List Char) : Option (List Char) := do
  let (year, word) ← fixedDigits? 4 word
  let word ← after? '-' word
  let (month, word) ← fixedDigits? 2 word
  let word ← after? '-' word
  let (day, word) ← fixedDigits? 2 word
  if 1 ≤ month ∧ month ≤ 12 ∧ 1 ≤ day ∧ day ≤ daysIn year month then some word else none

/-- What follows the parts of a second after a point, of which there is at least one digit. -/
def afterSecondParts? : List Char → Option (List Char)
  | '.' :: first :: rest =>
    if Text.isDigit first then some (rest.dropWhile Text.isDigit) else none
  | '.' :: [] => none
  | word => some word

/-- What follows a time that exists, with or without seconds. -/
def afterTime? (word : List Char) : Option (List Char) := do
  let (hour, word) ← fixedDigits? 2 word
  let word ← after? ':' word
  let (minute, word) ← fixedDigits? 2 word
  if 23 < hour ∨ 59 < minute then none
  match word with
  | ':' :: word =>
    let (second, word) ← fixedDigits? 2 word
    if 60 < second then none
    afterSecondParts? word
  | word => some word

/-- Whether a word is nothing or the distance from universal time. -/
def isOffset (word : List Char) : Bool :=
  match word with
  | [] | ['Z'] | ['z'] => true
  | sign :: word =>
    (sign == '+' || sign == '-') && Option.isSome do
      let (hour, word) ← fixedDigits? 2 word
      let word ← after? ':' word
      let (minute, word) ← fixedDigits? 2 word
      if word.isEmpty ∧ hour ≤ 23 ∧ minute ≤ 59 then some () else none

/-- Whether a word is a date. -/
def isDate (word : List Char) : Bool :=
  afterDate? word == some []

/-- Whether a word is a date, a time, or both. -/
def isMoment (word : List Char) : Bool :=
  match afterDate? word with
  | some [] => true
  | some (mark :: word) =>
    (mark == 'T' || mark == 't' || mark == ' ') && ((afterTime? word).any isOffset)
  | none => afterTime? word == some []

/-! ### Words -/

/-- A character of a scalar without quotes, which is any but those that end it. -/
def isWordCharacter (character : Char) : Bool :=
  !(['=', ',', '[', ']', '\x7b', '\x7d', ' ', '\t', '#', '\r', '\n'].contains character)

/-- Whether a word is a base without digits. -/
def isBareBase (word : List Char) : Bool :=
  word == ['0', 'x'] || word == ['0', 'o'] || word == ['0', 'b']

/-- Whether every underscore in a word stands between two digits of some base, where `before` comes
before the word. -/
def isGrouped (before : Char) : List Char → Bool
  | [] => true
  | ['_'] => false
  | '_' :: next :: rest =>
    (hexDigit? before).isSome && (hexDigit? next).isSome && isGrouped next rest
  | next :: rest => isGrouped next rest

/-- Whether a word begins with decimal digits and an underscore, perhaps behind a sign, and whatever
follows is grouped too.  The first digit is not zero, and there is no point or exponent. -/
def isGroupedNumber (word : List Char) : Bool :=
  match (splitSign word).2 with
  | [] => false
  | first :: rest =>
    Text.isDigit first && first != '0' && (rest.dropWhile Text.isDigit).head? == some '_' &&
      isGrouped first rest && rest.all fun character => !(['.', 'e', 'E'].contains character)

/-- The scalar that a word stands for. -/
def ofWord? (word : List Char) : Option Scalar :=
  if word = ['t', 'r', 'u', 'e'] then some (.boolean true)
  else if word = ['f', 'a', 'l', 's', 'e'] then some (.boolean false)
  else if isMoment word then some .moment
  else if isBareBase word then some .valueless
  else
    match integer? word with
    | some value =>
      some (if -(Int.pow 2 63) ≤ value ∧ value < Int.pow 2 64 then .integer value else .valueless)
    | none =>
      match named? word with
      | some value => some (.fraction value)
      | none => if isGroupedNumber word then some .valueless else fraction? word

/-- The word that an input begins with, and what follows it. -/
def splitWord (input : List Char) : List Char × List Char :=
  let word := input.takeWhile isWordCharacter
  let rest := input.dropWhile isWordCharacter
  match rest with
  | ' ' :: next :: more =>
    if isDate word && Text.isDigit next then
      (word ++ ' ' :: (next :: more).takeWhile isWordCharacter,
        (next :: more).dropWhile isWordCharacter)
    else (word, rest)
  | _ => (word, rest)

end Scalar

end StagePipeline.Toml
