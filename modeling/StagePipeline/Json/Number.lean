import StagePipeline.Number.Shortest

/-!
# Numbers in JSON texts

A number is a sign, digits, and perhaps more digits after a point and an
exponent.  Without point and exponent it is an integer if it fits in 64 bits,
signed when it is negative; all other numbers are rounded to the binary format.
For that only as many leading digits count as fit in 64 bits, and the power of
ten is multiplied or divided in afterwards, so the result need not be the
nearest number.
-/

namespace StagePipeline.Json

/-- The parts of a number as it is written. -/
structure Numeral where
  negative : Bool
  whole : List Nat
  /-- The digits after the point, when there is one. -/
  fraction : Option (List Nat) := none
  exponent : Option Int := none
  deriving DecidableEq, Repr

/-- What a number stands for. -/
inductive Number where
  | integer (value : Int)
  | fraction (value : Binary64)
  /-- Larger than every number of the binary format. -/
  | outOfRange
  deriving DecidableEq, Repr

namespace Numeral

/-- Add digits to a significand for as long as it fits in 64 bits; with the digits left over. -/
def gather (significand : Nat) : List Nat → Nat × List Nat
  | [] => (significand, [])
  | digit :: rest =>
    if significand * 10 + digit < Nat.pow 2 64 then gather (significand * 10 + digit) rest
    else (significand, digit :: rest)

/-- The power of ten, for exponents between -308 and 308. -/
def powerOfTen (exponent : Nat) : Magnitude :=
  (Magnitude.ofDecimal? 1 exponent).getD .zero

/-- A magnitude divided by `10 ^ 308` some times over. -/
def divideRepeatedly (magnitude : Magnitude) : Nat → Option Magnitude
  | 0 => some magnitude
  | count + 1 =>
    if magnitude.isZero then some magnitude
    else (magnitude.div? (powerOfTen 308)).bind (divideRepeatedly · count)

/-- A magnitude divided by a power of ten, in steps of at most `10 ^ 308`. -/
def divide (magnitude : Magnitude) (exponent : Nat) : Option Magnitude :=
  let count := (exponent - 1) / 308
  (divideRepeatedly magnitude count).bind (·.div? (powerOfTen (exponent - 308 * count)))

/-- A magnitude times a power of ten. -/
def multiply (magnitude : Magnitude) (exponent : Nat) : Option Magnitude :=
  if exponent ≤ 308 then magnitude.mul? (powerOfTen exponent)
  else if magnitude.isZero then some magnitude
  else none

/-- The number with a significand of 64 bits and a power of ten. -/
def round (negative : Bool) (significand : Nat) (exponent : Int) : Number :=
  let rounded := (Magnitude.ofRatio? significand 1).bind fun magnitude =>
    if 0 ≤ exponent then multiply magnitude exponent.toNat
    else divide magnitude (-exponent).toNat
  match rounded with
  | some magnitude => .fraction (.finite negative magnitude)
  | none => .outOfRange

/-- The integer that the digits stand for, if it fits in 64 bits. -/
def integer? (numeral : Numeral) : Option Int :=
  let (value, left) := gather 0 numeral.whole
  if !left.isEmpty || numeral.fraction.isSome || numeral.exponent.isSome then none
  else if !numeral.negative then some value
  else if 0 < value ∧ value ≤ Nat.pow 2 63 then some (-value)
  else none

/-- What the numeral stands for. -/
def value (numeral : Numeral) : Number :=
  match numeral.integer? with
  | some integer => .integer integer
  | none =>
    let (whole, skipped) := gather 0 numeral.whole
    let places := numeral.fraction.getD []
    let (significand, unused) := gather whole places
    round numeral.negative significand
      (skipped.length - (places.length - unused.length) + numeral.exponent.getD 0)

end Numeral

end StagePipeline.Json
