import StagePipeline.Number.Binary64

/-!
# The shortest decimal text of a number

The decimals that round to a magnitude fill an interval around it, the ends of
which belong to it when the significand is even.  The digits of the shortest
text are those of a point of the coarsest decimal grid with a point in that
interval: one of the two grid points next to the magnitude, and the nearer one
if both lie in the interval.  A layout decides how the digits are written.
-/

namespace StagePipeline

/-- The decimal `digits * 10 ^ exponent`. -/
structure Decimal where
  digits : Nat
  exponent : Int
  deriving DecidableEq, Repr

namespace Magnitude

/-- The distances down and up to the ends of the interval, in quarters of a unit. -/
def quarters (magnitude : Magnitude) : Nat × Nat :=
  if magnitude.significand = Nat.pow 2 52 ∧ leastExponent < magnitude.exponent then (1, 2) else (2, 2)

/-- The points of a decimal grid next to a positive magnitude that lie in its interval. -/
def gridPoint? (tiesUp : Bool) (magnitude : Magnitude) (grid : Int) : Option Nat :=
  let quarter := Nat.pow 2 (magnitude.exponent - 2).toNat * Nat.pow 10 (-grid).toNat
  let step := Nat.pow 2 (2 - magnitude.exponent).toNat * Nat.pow 10 grid.toNat
  let value := 4 * magnitude.significand * quarter
  let low := value - magnitude.quarters.1 * quarter
  let high := value + magnitude.quarters.2 * quarter
  let closed := magnitude.significand % 2 == 0
  let below := value / step
  let above := below + 1
  let holdsBelow := if closed then low ≤ below * step else low < below * step
  let holdsAbove := if closed then above * step ≤ high else above * step < high
  let twice := 2 * (value - below * step)
  let nearer :=
    if twice < step then below
    else if step < twice then above
    else if tiesUp || below % 2 == 1 then above
    else below
  if holdsBelow ∧ holdsAbove then some nearer
  else if holdsBelow then some below
  else if holdsAbove then some above
  else none

/-- A power of ten above a positive magnitude. -/
def topGrid (magnitude : Magnitude) : Int :=
  (magnitude.significand.log2 + 1 + magnitude.exponent) * 1233 / 4096 + 1

/-- The point of the first of some grids that has one, each grid ten times finer than the last. -/
def firstPoint (tiesUp : Bool) (magnitude : Magnitude) (grid : Int) : Nat → Decimal
  | 0 => ⟨0, grid⟩
  | count + 1 =>
    match magnitude.gridPoint? tiesUp grid with
    | some digits => ⟨digits, grid⟩
    | none => firstPoint tiesUp magnitude (grid - 1) count

/-- The shortest decimal that rounds to a positive magnitude. -/
def shortest (tiesUp : Bool) (magnitude : Magnitude) : Decimal :=
  magnitude.firstPoint tiesUp magnitude.topGrid 24

end Magnitude

/-- How the digits of a number are written. -/
structure NumberLayout where
  /-- Whether of two texts that are equally near the larger one is taken. -/
  tiesUp : Bool
  /-- Whether a number with so many digits before its point has no exponent. -/
  isPlain : Int → Bool

namespace NumberLayout

/-- Never with an exponent. -/
def plain : NumberLayout where
  tiesUp := true
  isPlain _ := true

/-- With an exponent outside of `10 ^ -5` to `10 ^ 16`. -/
def compact : NumberLayout where
  tiesUp := false
  isPlain before := -5 < before && before ≤ 16

/-- Some zeros. -/
def zeros (count : Nat) : String :=
  String.ofList (List.replicate count '0')

/-- The digits of a decimal with a point and at least one digit on either side of it. -/
def writePlain (digits : List Char) (exponent : Int) : String :=
  let before := digits.length + exponent
  if 0 ≤ exponent then String.ofList digits ++ zeros exponent.toNat ++ ".0"
  else if 0 < before then
    String.ofList (digits.take before.toNat) ++ "." ++ String.ofList (digits.drop before.toNat)
  else "0." ++ zeros (-before).toNat ++ String.ofList digits

/-- A power of ten with its sign. -/
def writePower (power : Int) : String :=
  if 0 ≤ power then s!"e+{power}" else s!"e{power}"

/-- The digits of a decimal with a point after the first one and an exponent with its sign. -/
def writeScientific (digits : List Char) (exponent : Int) : String :=
  let power := writePower (digits.length + exponent - 1)
  match digits with
  | first :: second :: rest => String.ofList (first :: '.' :: second :: rest) ++ power
  | digits => String.ofList digits ++ power

/-- The text of a decimal. -/
def writeDecimal (layout : NumberLayout) (decimal : Decimal) : String :=
  let digits := (toString decimal.digits).toList
  if layout.isPlain (digits.length + decimal.exponent) then writePlain digits decimal.exponent
  else writeScientific digits decimal.exponent

/-- The text of a number. -/
def write (layout : NumberLayout) : Binary64 → String
  | .finite negative magnitude =>
    (if negative then "-" else "") ++
      (if magnitude.isZero then "0.0" else layout.writeDecimal (magnitude.shortest layout.tiesUp))
  | .infinite negative => if negative then "-inf" else "inf"
  | .notNumber => "NaN"

end NumberLayout

end StagePipeline
