import Mathlib.Data.List.Induction
import StagePipeline.Proofs.TextPlaces

/-!
# Lines and columns against offsets

A text is cut into lines at its line feeds.  The line and column of an offset are found by
counting line feeds and characters; here they are read back in the lines of the text, where
`SourceFile.offsetAt?` finds the offset of a position.  Both go along a text character by
character, so each boundary of the text has a position of its own, and further to the right
the positions are later.
-/

namespace StagePipeline

namespace LineColumn

/-! ### The order of positions -/

/-- The position is on an earlier line, or on the same line and further to the left. -/
def Before (left right : LineColumn) : Prop :=
  left.line < right.line ∨ left.line = right.line ∧ left.column < right.column

theorem Before.trans {left middle right : LineColumn} (first : left.Before middle)
    (second : middle.Before right) : left.Before right := by
  simp only [Before] at *
  omega

/-- Behind a line feed a new line begins. -/
theorem after_lineFeed (front : List Char) :
    after (front ++ ['\n']) = ⟨(after front).line + 1, 1⟩ := by
  simp [after]

/-- Behind any other character stands the next column. -/
theorem after_concat {character : Char} (inLine : character ≠ '\n') (front : List Char) :
    after (front ++ [character]) = ⟨(after front).line, (after front).column + 1⟩ := by
  simp [after, inLine]

theorem before_after_concat (front : List Char) (character : Char) :
    (after front).Before (after (front ++ [character])) := by
  by_cases feeds : character = '\n'
  · rw [feeds, after_lineFeed]
    exact Or.inl (Nat.lt_succ_self _)
  · rw [after_concat feeds]
    exact Or.inr ⟨rfl, Nat.lt_succ_self _⟩

/-- Positions get later with every character, and so with any number of them. -/
theorem before_after_append (front : List Char) (first : Char) (rest : List Char) :
    (after front).Before (after (front ++ first :: rest)) := by
  induction rest generalizing front first with
  | nil => exact before_after_concat front first
  | cons second rest inductive_hypothesis =>
    have later := inductive_hypothesis (front ++ [first]) second
    rw [List.append_assoc] at later
    exact (before_after_concat front first).trans later

/-! ### The text of a position -/

theorem colon_notMem_repr (number : Nat) : ':' ∉ number.repr.toList := by
  intro member
  rw [Nat.toList_repr] at member
  exact absurd (Nat.isDigit_of_mem_toDigits (by decide) (by decide) member) (by decide)

/-- The text of a position has its line in front of the colon and its column behind. -/
theorem eq_of_render {left right : LineColumn} (same : left.render = right.render) :
    left = right := by
  have split : ∀ position : LineColumn, position.render.toList.splitOn ':' =
      [position.line.repr.toList, position.column.repr.toList] := by
    intro position
    change (position.line.repr ++ ":" ++ position.column.repr).toList.splitOn ':' = _
    rw [String.toList_append, String.toList_append, List.append_assoc]
    exact (List.splitOn_append_cons_self_of_not_mem (colon_notMem_repr _) _).trans
      (congrArg _ (List.splitOn_eq_singleton (colon_notMem_repr _)))
  have parts := split left
  rw [same, split right, List.cons.injEq, List.cons.injEq] at parts
  rcases parts with ⟨lines, columns, -⟩
  rcases left with ⟨line, column⟩
  rcases right with ⟨otherLine, otherColumn⟩
  rw [Nat.toList_repr, Nat.toList_repr] at lines columns
  rw [mk.injEq]
  exact ⟨Text.eq_of_toDigits_eq lines.symm, Text.eq_of_toDigits_eq columns.symm⟩

end LineColumn

/-! ### Offsets in lines -/

namespace Text

/-- Lines one after the other, each with its line feed. -/
def closed (lines : List (List Char)) : List Char :=
  (lines.map (· ++ ['\n'])).flatten

/--
The offset of a column in a line of some lines, both counted from zero.  In front of it are
the lines before, with their line feeds, and characters of the line.
-/
def offsetIn? (lines : List (List Char)) (line column : Nat) : Option Nat :=
  (lines[line]?).bind fun characters =>
    if column ≤ characters.length then
      some (width (closed (lines.take line)) + width (characters.take column))
    else none

/-- What stands before an offset is some whole lines and the beginning of a line. -/
theorem exists_closed_append (front : List Char) :
    ∃ whole current, front = closed whole ++ current ∧ (∀ line ∈ whole, '\n' ∉ line) ∧
      '\n' ∉ current ∧ LineColumn.after front = ⟨whole.length + 1, current.length + 1⟩ := by
  induction front using List.reverseRecOn with
  | nil => exact ⟨[], [], rfl, nofun, nofun, rfl⟩
  | append_singleton front character inductive_hypothesis =>
    rcases inductive_hypothesis with ⟨whole, current, split, noFeeds, noFeed, position⟩
    -- A line feed closes the current line; any other character goes on with it.
    by_cases feeds : character = '\n'
    · refine ⟨whole ++ [current], [], ?_, ?_, nofun, ?_⟩
      · rw [split, feeds]
        simp [closed]
      · exact List.forall_mem_append.2 ⟨noFeeds, List.forall_mem_singleton.2 noFeed⟩
      · rw [feeds, LineColumn.after_lineFeed, position, List.length_append]
        rfl
    · refine ⟨whole, current ++ [character], ?_, noFeeds, ?_, ?_⟩
      · rw [split, List.append_assoc]
      · simpa [noFeed] using Ne.symm feeds
      · rw [LineColumn.after_concat feeds, position, List.length_append]
        rfl

theorem splitOn_closed_append {whole : List (List Char)}
    (noFeeds : ∀ line ∈ whole, '\n' ∉ line) (rest : List Char) :
    (closed whole ++ rest).splitOn '\n' = whole ++ rest.splitOn '\n' := by
  induction whole with
  | nil => rfl
  | cons line later inductive_hypothesis =>
    rcases List.forall_mem_cons.1 noFeeds with ⟨noFeed, behind⟩
    have split : closed (line :: later) ++ rest = line ++ '\n' :: (closed later ++ rest) := by
      simp [closed]
    rw [split, List.splitOn_append_cons_self_of_not_mem noFeed, inductive_hypothesis behind]
    rfl

theorem splitOn_append_of_notMem {current : List Char} (noFeed : '\n' ∉ current)
    (back : List Char) :
    (current ++ back).splitOn '\n' = (back.splitOn '\n').modifyHead (current ++ ·) := by
  induction current with
  | nil => exact (congrFun List.modifyHead_id _).symm
  | cons character rest inductive_hypothesis =>
    rcases not_or.1 (mt List.mem_cons.2 noFeed) with ⟨other, behind⟩
    rw [List.cons_append, List.splitOn_cons_eq_if_modifyHead, inductive_hypothesis behind,
      if_neg (by simpa using Ne.symm other), List.modifyHead_modifyHead]
    rfl

/-- The position behind the characters in front of an offset leads back to the offset. -/
theorem offsetIn?_splitOn {whole : List (List Char)} {current : List Char}
    (noFeeds : ∀ line ∈ whole, '\n' ∉ line) (noFeed : '\n' ∉ current) (back : List Char) :
    offsetIn? ((closed whole ++ current ++ back).splitOn '\n') whole.length current.length =
      some (width (closed whole ++ current)) := by
  rcases List.exists_cons_of_ne_nil (List.splitOn_ne_nil '\n' back) with ⟨first, later, split⟩
  rw [List.append_assoc, splitOn_closed_append noFeeds, splitOn_append_of_notMem noFeed, split]
  simp [offsetIn?]

end Text

namespace SourceFile

/-- The lines of the text, without the line feeds between them. -/
def lines (source : SourceFile) : List (List Char) :=
  source.text.toList.splitOn '\n'

/-- The offset at which a character position of a line starts, both counted from one. -/
def offsetAt? (source : SourceFile) (position : LineColumn) : Option Nat :=
  match position.line, position.column with
  | line + 1, column + 1 => Text.offsetIn? source.lines line column
  | _, _ => none

variable {source : SourceFile}

theorem lineColumn?_width {front back : List Char} (text : source.text.toList = front ++ back) :
    source.lineColumn? (Text.width front) = some (.after front) := by
  have within : min (Text.width front) source.size = Text.width front := by
    rw [size, text, Text.width_append]
    exact Nat.min_eq_left (Nat.le_add_right _ _)
  rw [lineColumn?, within, text, Text.splitAt?_width]
  rfl

theorem offsetAt?_after {front back : List Char} (text : source.text.toList = front ++ back) :
    source.offsetAt? (.after front) = some (Text.width front) := by
  rcases Text.exists_closed_append front with ⟨whole, current, rfl, noFeeds, noFeed, position⟩
  rw [position, offsetAt?, lines, text]
  exact Text.offsetIn?_splitOn noFeeds noFeed back

theorem lineColumn?_of_size_le {offset : Nat} (beyond : source.size ≤ offset) :
    source.lineColumn? offset = source.lineColumn? source.size := by
  rw [lineColumn?, lineColumn?, Nat.min_eq_right beyond, Nat.min_self]

end SourceFile

/-- Positions in a text are in the order of the offsets. -/
theorem SourceFile.IsBoundary.before {source : SourceFile} {earlier later : Nat}
    (first : source.IsBoundary earlier) (second : source.IsBoundary later)
    (less : earlier < later) :
    ∃ left right, source.lineColumn? earlier = some left ∧
      source.lineColumn? later = some right ∧ left.Before right := by
  rcases first with ⟨front, back, text, rfl⟩
  rcases second with ⟨longer, rest, other, rfl⟩
  refine ⟨_, _, lineColumn?_width text, lineColumn?_width other, ?_⟩
  rcases List.append_eq_append_iff.1 (text.symm.trans other) with
    ⟨middle, rfl, -⟩ | ⟨middle, rfl, -⟩
  · cases middle with
    | nil => simp at less
    | cons character more => exact LineColumn.before_after_append front character more
  · rw [Text.width_append] at less
    omega

/--
Lines and columns order the positions of a text and tell them apart.  Of two offsets between
characters, the one further to the right has the later position.  Every offset beyond the end
has the position of the end.  In the lines of the text a position leads back to its offset,
so two offsets between characters never share a location.
-/
theorem lineColumn_orders_and_identifies (source : SourceFile) :
    (∀ earlier later, source.IsBoundary earlier → source.IsBoundary later → earlier < later →
      ∃ left right, source.lineColumn? earlier = some left ∧
        source.lineColumn? later = some right ∧
        (left.line < right.line ∨ left.line = right.line ∧ left.column < right.column)) ∧
      (∀ offset, source.size < offset → ∃ position, source.lineColumn? offset = some position ∧
        source.lineColumn? source.size = some position) ∧
      (∀ offset, source.IsBoundary offset → ∃ position,
        source.lineColumn? offset = some position ∧ source.offsetAt? position = some offset) ∧
      ∀ offset other, source.IsBoundary offset → source.IsBoundary other →
        source.location? offset = source.location? other → offset = other := by
  have recovered : ∀ offset, source.IsBoundary offset → ∃ position,
      source.lineColumn? offset = some position ∧ source.offsetAt? position = some offset := by
    rintro offset ⟨front, back, text, rfl⟩
    exact ⟨_, source.lineColumn?_width text, source.offsetAt?_after text⟩
  refine ⟨fun earlier later => SourceFile.IsBoundary.before, ?_, recovered, ?_⟩
  · intro offset beyond
    rcases recovered source.size source.isBoundary_size with ⟨position, atEnd, -⟩
    exact ⟨position, (source.lineColumn?_of_size_le (Nat.le_of_lt beyond)).trans atEnd, atEnd⟩
  · intro offset other boundary otherBoundary shared
    rcases recovered offset boundary with ⟨position, found, back⟩
    rcases recovered other otherBoundary with ⟨place, otherFound, otherBack⟩
    rw [SourceFile.location?, SourceFile.location?, found, otherFound] at shared
    have same : source.name ++ ":" ++ position.render = source.name ++ ":" ++ place.render :=
      Option.some.inj shared
    rw [← String.toList_inj, String.toList_append, String.toList_append (t := place.render),
      List.append_cancel_left_eq, String.toList_inj] at same
    rw [LineColumn.eq_of_render same, otherBack] at back
    exact (Option.some.inj back).symm

/-- Behind a letter of two bytes, a line feed and another such letter. -/
example :
    let source : SourceFile := ⟨"a.st", "é\nßx"⟩
    source.lineColumn? 5 = some ⟨2, 2⟩ ∧ source.offsetAt? ⟨2, 2⟩ = some 5 := by
  decide +kernel

end StagePipeline
