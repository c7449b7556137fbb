/-!
# Binary floating point numbers

The finite magnitudes of the 64-bit format are `significand * 2 ^ exponent` with
a significand below `2 ^ 53` and an exponent between -1074 and 971; below
`2 ^ 52` the exponent is always -1074.  Every operation rounds an exact quotient
of two naturals to the nearest magnitude, and a tie to the even significand.
-/

namespace StagePipeline

/-- A finite magnitude of the 64-bit format. -/
structure Magnitude where
  significand : Nat
  exponent : Int
  deriving DecidableEq, Repr

namespace Magnitude

/-- The exponent of the smallest magnitudes. -/
def leastExponent : Int :=
  -1074

/-- The exponent of the largest magnitudes. -/
def greatestExponent : Int :=
  971

/-- Nothing. -/
def zero : Magnitude :=
  ⟨0, leastExponent⟩

instance : Inhabited Magnitude :=
  ⟨zero⟩

/-- Whether the magnitude is nothing. -/
def isZero (magnitude : Magnitude) : Bool :=
  magnitude.significand == 0

/-- The natural nearest to a quotient, and the even one of two that are equally near. -/
def nearest (numerator denominator : Nat) : Nat :=
  let whole := numerator / denominator
  let twice := 2 * (numerator % denominator)
  if twice < denominator then whole
  else if denominator < twice then whole + 1
  else whole + whole % 2

/-- A quotient divided by `2 ^ exponent`, as numerator and denominator. -/
def scale (numerator denominator : Nat) (exponent : Int) : Nat × Nat :=
  (numerator * Nat.pow 2 (-exponent).toNat, denominator * Nat.pow 2 exponent.toNat)

/-- The exponent at which a positive quotient has a whole part of 53 bits, or the least one. -/
def exponentFor (numerator denominator : Nat) : Int :=
  let guess : Int := numerator.log2 - denominator.log2 - 53
  let scaled := scale numerator denominator guess
  max leastExponent (if scaled.1 / scaled.2 < Nat.pow 2 53 then guess else guess + 1)

/-- The magnitude nearest to a quotient, unless that is too large. -/
def ofRatio? (numerator denominator : Nat) : Option Magnitude :=
  if numerator = 0 then some zero
  else
    let exponent := exponentFor numerator denominator
    let scaled := scale numerator denominator exponent
    let significand := nearest scaled.1 scaled.2
    let rounded : Magnitude :=
      if significand < Nat.pow 2 53 then ⟨significand, exponent⟩ else ⟨Nat.pow 2 52, exponent + 1⟩
    if rounded.exponent ≤ greatestExponent then some rounded else none

/-- The magnitude nearest to `digits * 10 ^ exponent`, unless that is too large. -/
def ofDecimal? (digits : Nat) (exponent : Int) : Option Magnitude :=
  if digits = 0 then some zero
  else if 400 < exponent then none
  else if digits.log2 + 1080 < -3 * exponent then some zero
  else ofRatio? (digits * Nat.pow 10 exponent.toNat) (Nat.pow 10 (-exponent).toNat)

/-- The magnitude as a quotient. -/
def ratio (magnitude : Magnitude) : Nat × Nat :=
  (magnitude.significand * Nat.pow 2 magnitude.exponent.toNat, Nat.pow 2 (-magnitude.exponent).toNat)

/-- The product of two magnitudes, unless it is too large. -/
def mul? (left right : Magnitude) : Option Magnitude :=
  ofRatio? (left.ratio.1 * right.ratio.1) (left.ratio.2 * right.ratio.2)

/-- The quotient of two magnitudes, unless it is too large. -/
def div? (left right : Magnitude) : Option Magnitude :=
  ofRatio? (left.ratio.1 * right.ratio.2) (left.ratio.2 * right.ratio.1)

end Magnitude

/-- A number of the 64-bit format. -/
inductive Binary64 where
  | finite (negative : Bool) (magnitude : Magnitude)
  | infinite (negative : Bool)
  | notNumber
  deriving DecidableEq, Repr

end StagePipeline
