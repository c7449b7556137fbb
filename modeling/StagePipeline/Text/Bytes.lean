import StagePipeline.Text.CharacterClass

/-!
# Text measured in bytes

Offsets into a text count the bytes of its UTF-8 form.  `width` is the length of
a run of characters in that measure, and `splitAt?` cuts a run at an offset,
which it refuses exactly when the offset lies inside a character or past the
end.  The other functions are the cuts at blanks that labels and printed trees
need.
-/

namespace StagePipeline.Text

/-- How many bytes a run of characters takes. -/
def width : List Char → Nat
  | [] => 0
  | character :: rest => character.utf8Size + width rest

@[simp]
theorem width_nil : width [] = 0 :=
  rfl

@[simp]
theorem width_cons (character : Char) (rest : List Char) :
    width (character :: rest) = character.utf8Size + width rest :=
  rfl

@[simp]
theorem width_append (left right : List Char) :
    width (left ++ right) = width left + width right := by
  induction left with
  | nil => simp
  | cons character rest inductive_hypothesis =>
    simp [inductive_hypothesis, Nat.add_assoc]

/-- Cut a run of characters at a byte offset. -/
def splitAt? (offset : Nat) : List Char → Option (List Char × List Char)
  | [] => if offset = 0 then some ([], []) else none
  | character :: rest =>
    if offset = 0 then some ([], character :: rest)
    else if offset < character.utf8Size then none
    else (splitAt? (offset - character.utf8Size) rest).map
      fun (before, after) => (character :: before, after)

theorem append_of_splitAt? {offset : Nat} {text before after : List Char}
    (cut : splitAt? offset text = some (before, after)) :
    before ++ after = text ∧ width before = offset := by
  induction text generalizing offset before with
  | nil =>
    simp only [splitAt?] at cut
    split at cut
    · simp_all
    · simp at cut
  | cons character rest inductive_hypothesis =>
    simp only [splitAt?] at cut
    split at cut
    · simp_all
    · split at cut
      · simp at cut
      · obtain ⟨⟨front, back⟩, inner, equal⟩ := Option.map_eq_some_iff.1 cut
        obtain ⟨rfl, rfl⟩ := Prod.mk.inj equal
        obtain ⟨joined, measured⟩ := inductive_hypothesis inner
        refine ⟨by simp [joined], ?_⟩
        simp only [width_cons, measured]
        omega

theorem splitAt?_width (before after : List Char) :
    splitAt? (width before) (before ++ after) = some (before, after) := by
  induction before with
  | nil => cases after <;> simp [splitAt?]
  | cons character rest inductive_hypothesis =>
    have positive := character.utf8Size_pos
    simp only [List.cons_append, width_cons, splitAt?]
    rw [if_neg (by omega), if_neg (by omega), Nat.add_sub_cancel_left,
      inductive_hypothesis]
    rfl

/-- The text without the blanks it ends in. -/
def trimEnd (text : String) : String :=
  String.ofList (text.toList.reverse.dropWhile isBlank).reverse

/-- The first word of a text, which is empty when there is none. -/
def firstWord (text : String) : String :=
  String.ofList ((text.toList.dropWhile isBlank).takeWhile fun character => !isBlank character)

end StagePipeline.Text
