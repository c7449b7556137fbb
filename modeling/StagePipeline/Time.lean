/-!
# Durations, instants and clocks

A duration is a whole number of nanoseconds whose seconds fit in 64 bits, and a
sum of durations is refused exactly when it leaves that range.  A clock is a
sequence of readings together with how many have been taken, so everything that
looks at the time is a function of the clock it is given.
-/

namespace StagePipeline

/-- How many nanoseconds make a second. -/
def nanosecondsPerSecond : Nat :=
  1000000000

/-- The first number of nanoseconds whose seconds need more than 64 bits. -/
def durationLimit : Nat :=
  Nat.pow 2 64 * nanosecondsPerSecond

/-- A length of time, in nanoseconds. -/
structure Duration where
  nanoseconds : Nat
  inRange : nanoseconds < durationLimit := by decide
  deriving DecidableEq, Repr

namespace Duration

/-- The duration of a number of nanoseconds, unless it is too long. -/
def ofNanoseconds? (nanoseconds : Nat) : Option Duration :=
  if inRange : nanoseconds < durationLimit then some ⟨nanoseconds, inRange⟩ else none

/-- The duration of some seconds and nanoseconds, unless it is too long. -/
def ofParts? (seconds nanoseconds : Nat) : Option Duration :=
  ofNanoseconds? (seconds * nanosecondsPerSecond + nanoseconds)

/-- No time at all. -/
def zero : Duration where
  nanoseconds := 0

instance : Inhabited Duration :=
  ⟨zero⟩

/-- The whole seconds of a duration. -/
def wholeSeconds (duration : Duration) : Nat :=
  duration.nanoseconds / nanosecondsPerSecond

/-- The nanoseconds of a duration beyond its whole seconds. -/
def restNanoseconds (duration : Duration) : Nat :=
  duration.nanoseconds % nanosecondsPerSecond

/-- The sum of two durations, unless it is too long. -/
def add? (left right : Duration) : Option Duration :=
  ofNanoseconds? (left.nanoseconds + right.nanoseconds)

theorem ofNanoseconds?_eq_none {nanoseconds : Nat} :
    ofNanoseconds? nanoseconds = none ↔ durationLimit ≤ nanoseconds := by
  simp only [ofNanoseconds?]
  split <;> simp_all

/-- The digits after the point of `rest / 10 ^ places`, without trailing zeros. -/
def fractionDigits (rest : Nat) : Nat → List Char
  | 0 => []
  | places + 1 =>
    if rest = 0 then []
    else Nat.digitChar (rest / Nat.pow 10 places) :: fractionDigits (rest % Nat.pow 10 places) places

/-- A count of units of `10 ^ places` nanoseconds, exact and without trailing zeros. -/
def renderIn (places : Nat) (symbol : String) (nanoseconds : Nat) : String :=
  let whole := toString (nanoseconds / Nat.pow 10 places)
  match fractionDigits (nanoseconds % Nat.pow 10 places) places with
  | [] => whole ++ symbol
  | digits => whole ++ "." ++ String.ofList digits ++ symbol

/-- The duration in the largest unit of which it holds at least one. -/
def render (duration : Duration) : String :=
  if Nat.pow 10 9 ≤ duration.nanoseconds then renderIn 9 "s" duration.nanoseconds
  else if Nat.pow 10 6 ≤ duration.nanoseconds then renderIn 6 "ms" duration.nanoseconds
  else if Nat.pow 10 3 ≤ duration.nanoseconds then renderIn 3 "µs" duration.nanoseconds
  else renderIn 0 "ns" duration.nanoseconds

end Duration

/-- A point in time, in nanoseconds since a clock's origin. -/
abbrev Instant := Nat

namespace Instant

/-- The time from one instant to another, which is none when they come in the wrong order. -/
def elapsed (start now : Instant) : Duration :=
  ⟨min (now - start) (durationLimit - 1),
    Nat.lt_of_le_of_lt (Nat.min_le_right _ _) (by decide)⟩

/-- The instant some milliseconds after another. -/
def afterMilliseconds (start : Instant) (milliseconds : Nat) : Instant :=
  start + milliseconds * 1000000

end Instant

/-- The readings that a clock will show, and how many of them have been taken. -/
structure Clock where
  reading : Nat → Instant
  taken : Nat := 0

namespace Clock

/-- The next reading, and the clock once it has been taken. -/
def read (clock : Clock) : Instant × Clock :=
  (clock.reading clock.taken, { clock with taken := clock.taken + 1 })

/-- The clock that shows one instant for ever. -/
def standing (instant : Instant) : Clock where
  reading _ := instant

end Clock

end StagePipeline
