import StagePipeline.Source
import StagePipeline.Text.CharacterClass

/-!
# Places in a text

An offset is a boundary of a text when it lies before, between or after the
characters, and then it has a line and a column.  Characters stand at a span
when the text holds just these between the two offsets, which are then
boundaries.  Of characters that stand at two spans, one after the other, the
span that covers both begins and ends with them.
-/

namespace StagePipeline

namespace Span

/-- One span lies inside another. -/
def Within (inner outer : Span) : Prop :=
  outer.start ≤ inner.start ∧ inner.stop ≤ outer.stop

theorem Within.trans {inner middle outer : Span} (first : inner.Within middle)
    (second : middle.Within outer) : inner.Within outer :=
  ⟨Nat.le_trans second.1 first.1, Nat.le_trans first.2 second.2⟩

theorem within_join_left (left right : Span) : left.Within (left.join right) :=
  ⟨Nat.min_le_left _ _, Nat.le_max_left _ _⟩

theorem within_join_right (left right : Span) : right.Within (left.join right) :=
  ⟨Nat.min_le_right _ _, Nat.le_max_right _ _⟩

/-- Two spans that do not overlap are joined from the start of one to the end of the other. -/
theorem join_of_apart {left right : Span} (apart : left.stop ≤ right.start) :
    (left.join right).start = left.start ∧ (left.join right).stop = right.stop :=
  ⟨Nat.min_eq_left (Nat.le_trans left.ordered apart),
    Nat.max_eq_right (Nat.le_trans apart right.ordered)⟩

end Span

namespace Text

/-- The text holds these characters between the two offsets of the span. -/
def StandsAt (text : List Char) (span : Span) (characters : List Char) : Prop :=
  ∃ before after, text = before ++ (characters ++ after) ∧ width before = span.start ∧
    width before + width characters = span.stop

/-- What stands at two spans stands at the ends of the span that covers both. -/
theorem StandsAt.join {text first second : List Char} {left right : Span}
    (here : StandsAt text left first) (there : StandsAt text right second)
    (apart : left.stop ≤ right.start) :
    ∃ middle, StandsAt text (left.join right) (first ++ (middle ++ second)) := by
  rcases here with ⟨before, rest, split, starts, stops⟩
  rcases there with ⟨front, after, otherSplit, otherStarts, otherStops⟩
  have same : (before ++ first) ++ rest = front ++ (second ++ after) := by
    rw [List.append_assoc, ← split, otherSplit]
  rcases List.append_eq_append_iff.1 same with ⟨middle, rfl, -⟩ | ⟨back, cut, follows⟩
  · refine ⟨middle, before, after, by simp [otherSplit], ?_, ?_⟩
    · rw [(Span.join_of_apart apart).1, starts]
    · rw [(Span.join_of_apart apart).2, ← otherStops]
      simp only [width_append]
      omega
  · -- The second span cannot begin inside the first, so nothing lies between them.
    have measured : width before + width first = width front + width back := by
      rw [← width_append, cut, width_append]
    have nothing : width back = 0 := by omega
    have empty : back = [] := by
      cases back with
      | nil => rfl
      | cons character later =>
        have positive := character.utf8Size_pos
        rw [width_cons] at nothing
        omega
    subst empty
    rw [List.append_nil] at cut
    refine ⟨[], before, after, ?_, ?_, ?_⟩
    · rw [otherSplit, ← cut]
      simp
    · rw [(Span.join_of_apart apart).1, starts]
    · rw [(Span.join_of_apart apart).2, ← otherStops, ← cut]
      simp only [width_append, List.nil_append]
      omega

theorem isDigit_of_mem_toDigits {number : Nat} {digit : Char}
    (member : digit ∈ Nat.toDigits 10 number) : isDigit digit = true := by
  have found := Nat.isDigit_of_mem_toDigits (by decide) (by decide) member
  simpa [isDigit, Char.isDigit, Char.le_def] using found

/-- The decimal digits of a number tell which number it is. -/
theorem eq_of_toDigits_eq {left right : Nat}
    (same : Nat.toDigits 10 left = Nat.toDigits 10 right) : left = right :=
  calc
    left = Nat.ofDigitChars 10 (Nat.toDigits 10 left) 0 := Nat.ofDigitChars_ten_toDigits.symm
    _ = Nat.ofDigitChars 10 (Nat.toDigits 10 right) 0 := by rw [same]
    _ = right := Nat.ofDigitChars_ten_toDigits

end Text

namespace SourceFile

variable {source : SourceFile}

/-- The offset lies before, between or after the characters of the text. -/
def IsBoundary (source : SourceFile) (offset : Nat) : Prop :=
  ∃ before after, source.text.toList = before ++ after ∧ Text.width before = offset

theorem exists_location_of_isBoundary {source : SourceFile} {offset : Nat}
    (boundary : source.IsBoundary offset) :
    ∃ location, source.location? offset = some location := by
  rcases boundary with ⟨before, after, text, rfl⟩
  have within : min (Text.width before) source.size = Text.width before := by
    rw [size, text, Text.width_append]
    exact Nat.min_eq_left (Nat.le_add_right _ _)
  rw [location?, lineColumn?, within, text, Text.splitAt?_width]
  exact ⟨_, rfl⟩

theorem IsBoundary.le_size {offset : Nat} (boundary : source.IsBoundary offset) :
    offset ≤ source.size := by
  rcases boundary with ⟨before, after, text, rfl⟩
  rw [size, text, Text.width_append]
  exact Nat.le_add_right _ _

theorem isBoundary_size (source : SourceFile) : source.IsBoundary source.size :=
  ⟨source.text.toList, [], (List.append_nil _).symm, rfl⟩

/-- The span takes characters of the text, and none of them in part. -/
structure Covers (source : SourceFile) (span : Span) : Prop where
  nonempty : span.start < span.stop
  starts : source.IsBoundary span.start
  stops : source.IsBoundary span.stop
  within : span.stop ≤ source.size

end SourceFile

namespace Text.StandsAt

variable {source : SourceFile} {span : Span} {characters : List Char}

theorem isBoundary_start (here : StandsAt source.text.toList span characters) :
    source.IsBoundary span.start := by
  rcases here with ⟨before, after, split, starts, -⟩
  exact ⟨before, characters ++ after, split, starts⟩

theorem isBoundary_stop (here : StandsAt source.text.toList span characters) :
    source.IsBoundary span.stop := by
  rcases here with ⟨before, after, split, -, stops⟩
  exact ⟨before ++ characters, after, by simp [split], by rw [width_append, stops]⟩

theorem covers (here : StandsAt source.text.toList span characters)
    (nonempty : span.start < span.stop) : source.Covers span :=
  ⟨nonempty, here.isBoundary_start, here.isBoundary_stop, here.isBoundary_stop.le_size⟩

/-- What stands at a span is what a slice of the text gives there. -/
theorem slice? (here : StandsAt source.text.toList span characters) :
    source.slice? span = some (String.ofList characters) := by
  rcases here with ⟨before, after, split, starts, stops⟩
  have length : span.length = width characters := by
    rw [Span.length]
    omega
  rw [SourceFile.slice?, split, ← starts, splitAt?_width]
  simp only [Option.bind_eq_bind, Option.bind_some, length, splitAt?_width]
  rfl

theorem slice?_append {first second : List Char}
    (here : StandsAt source.text.toList span (first ++ second)) :
    source.slice? span = some (String.ofList first ++ String.ofList second) := by
  rw [here.slice?, String.ofList_append]

end Text.StandsAt

end StagePipeline
