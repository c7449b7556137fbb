/-!
# Byte ranges of a text

A span never ends before it starts: the order is a field of the type, and
`ofBounds?` is the one way in from two unchecked numbers.  Joining two spans
gives the smallest span that covers both.
-/

namespace StagePipeline

/-- A range of byte offsets, from `start` up to but not including `stop`. -/
structure Span where
  start : Nat
  stop : Nat
  ordered : start ≤ stop := by omega
  deriving DecidableEq, Repr

namespace Span

/-- The span between two offsets, unless they come in the wrong order. -/
def ofBounds? (start stop : Nat) : Option Span :=
  if ordered : start ≤ stop then some ⟨start, stop, ordered⟩ else none

/-- The span that starts at `start` and takes `length` bytes. -/
def ofLength (start length : Nat) : Span :=
  ⟨start, start + length, Nat.le_add_right start length⟩

/-- The span without bytes at an offset. -/
def empty (offset : Nat) : Span :=
  ⟨offset, offset, Nat.le_refl offset⟩

instance : Inhabited Span :=
  ⟨empty 0⟩

/-- How many bytes the span covers. -/
def length (span : Span) : Nat :=
  span.stop - span.start

/-- Whether the span covers no byte. -/
def isEmpty (span : Span) : Bool :=
  span.start == span.stop

/-- The smallest span that covers both spans. -/
def join (left right : Span) : Span :=
  ⟨min left.start right.start, max left.stop right.stop,
    Nat.le_trans (Nat.min_le_left _ _) (Nat.le_trans left.ordered (Nat.le_max_left _ _))⟩

/-- The span moved `distance` bytes to the right. -/
def shift (distance : Nat) (span : Span) : Span :=
  ⟨span.start + distance, span.stop + distance, Nat.add_le_add_right span.ordered distance⟩

theorem isSome_ofBounds? (start stop : Nat) :
    (ofBounds? start stop).isSome = true ↔ start ≤ stop := by
  simp only [ofBounds?]
  split <;> simp_all

end Span

end StagePipeline
