import StagePipeline.Proofs.JsonScalars

/-!
# Written JSON texts read again

The reader finds in a written text the value that was written, whatever text follows it;
only behind a number must something follow that does not continue the number.  In an object
the reader comes to one entry after the other, so it has found all entries in front of a
place before it looks at what follows there.
-/

namespace StagePipeline.Json

/-! ### Values as documents -/

mutual

/-- What the reader finds where a value is written. -/
def document : Json → Document
  | .null => .null
  | .bool value => .boolean value
  | .number value => .number (Numeral.ofInt value).value
  | .text value => .text (some value)
  | .list items => .list (itemDocuments items) true
  | .object entries => .object (entryDocuments entries) true

/-- What the reader finds for the items of a list. -/
def itemDocuments : List Json → List Document
  | [] => []
  | item :: rest => document item :: itemDocuments rest

/-- What the reader finds for the entries of an object. -/
def entryDocuments : List (String × Json) → List (Option String × Document)
  | [] => []
  | (key, value) :: rest => (some key, document value) :: entryDocuments rest

end

namespace Document

/-! ### Values -/

/-- Where the characters stand the reader finds the document, whatever follows them. -/
def Spells (characters : List Char) (document : Document) : Prop :=
  ∀ fuel rest, characters.length ≤ fuel → EndsNumber rest →
    readValue fuel (characters ++ rest) = (document, some rest)

theorem spells_of_succ {characters : List Char} {document : Document}
    (nonempty : characters ≠ [])
    (reads : ∀ fuel rest, characters.length ≤ fuel + 1 → EndsNumber rest →
      readValue (fuel + 1) (characters ++ rest) = (document, some rest)) :
    Spells characters document := by
  rintro (_ | fuel) rest enough ends
  · exact absurd (List.length_eq_zero_iff.1 (Nat.le_zero.1 enough)) nonempty
  · exact reads fuel rest enough ends

/-! #### Values without parts -/

theorem spells_null : Spells ['n', 'u', 'l', 'l'] .null :=
  spells_of_succ (by decide) fun _ _ _ _ => by rw [readValue]; rfl

theorem spells_true : Spells ['t', 'r', 'u', 'e'] (.boolean true) :=
  spells_of_succ (by decide) fun _ _ _ _ => by rw [readValue]; rfl

theorem spells_false : Spells ['f', 'a', 'l', 's', 'e'] (.boolean false) :=
  spells_of_succ (by decide) fun _ _ _ _ => by rw [readValue]; rfl

theorem readValue_quote (fuel : Nat) (rest : List Char) :
    readValue (fuel + 1) ('"' :: rest) =
      match readText rest with
      | some (value, rest) => (.text value, some rest)
      | none => (.broken, none) := by
  rw [readValue]
  rfl

theorem quoteCharacters_append (text : String) (rest : List Char) :
    quoteCharacters text ++ rest = '"' :: (text.toList.flatMap escape ++ '"' :: rest) := by
  simp only [quoteCharacters, List.cons_append, List.append_assoc, List.nil_append]

theorem spells_quote (text : String) : Spells (quoteCharacters text) (.text (some text)) :=
  spells_of_succ nofun fun fuel rest _ _ => by
    rw [quoteCharacters_append, readValue_quote, readText_escaped]

/-- A digit or a sign opens nothing but a number. -/
theorem readValue_of_opensNumber {first : Char} (opens : Text.isDigit first = true ∨ first = '-')
    (fuel : Nat) (later : List Char) :
    readValue (fuel + 1) (first :: later) =
      match readNumeral (first :: later) with
      | some (numeral, rest) => (.number numeral.value, some rest)
      | none => (.broken, none) := by
  have unspaced : skipSpace (first :: later) = first :: later := by
    refine List.dropWhile_cons_of_neg fun space => ?_
    simp only [isSpace, Bool.or_eq_true, beq_iff_eq] at space
    rcases space with ((rfl | rfl) | rfl) | rfl <;> exact absurd opens (by decide)
  rw [readValue, unspaced]
  split
  case h_7 => rfl
  all_goals
    rename_i same
    rcases (List.cons.inj same).1 with rfl
    exact absurd opens (by decide)

theorem spells_number (value : Int) :
    Spells (numberCharacters value) (.number (Numeral.ofInt value).value) := by
  rcases exists_first_numberCharacters value with ⟨first, later, written, opens⟩
  refine spells_of_succ (by rw [written]; nofun) fun fuel rest _ ends => ?_
  have found := readNumeral_numberCharacters value ends
  rw [written, List.cons_append] at found ⊢
  rw [readValue_of_opensNumber opens, found]

/-! #### Objects -/

/-- A key from behind its first quote, and what follows it. -/
def keyed (key : String) (rest : List Char) : List Char :=
  key.toList.flatMap escape ++ '"' :: ':' :: rest

theorem length_keyed (key : String) (rest : List Char) :
    rest.length < (keyed key rest).length := by
  rw [keyed, List.length_append, List.length_cons, List.length_cons]
  omega

theorem readValue_object (fuel : Nat) (rest : List Char) :
    readValue (fuel + 1) ('\x7b' :: '"' :: rest) =
      (.object (readEntries fuel rest).1 (readEntries fuel rest).2.isSome,
        (readEntries fuel rest).2) := by
  rw [readValue]
  rfl

theorem readEntries_key (fuel : Nat) (key : String) (rest : List Char) :
    readEntries (fuel + 1) (keyed key rest) =
      match readValue fuel rest with
      | (value, none) => ([(some key, value)], none)
      | (value, some rest) =>
        match skipSpace rest with
        | '\x7d' :: rest => ([(some key, value)], some rest)
        | ',' :: rest =>
          match skipSpace rest with
          | '"' :: rest =>
            let (entries, left) := readEntries fuel rest
            ((some key, value) :: entries, left)
          | _ => ([(some key, value)], none)
        | _ => ([(some key, value)], none) := by
  rw [readEntries, keyed, readText_escaped]
  rfl

variable {characters : List Char} {document : Document}

/-- The reader takes an entry and goes on behind the comma. -/
theorem readEntries_next (spells : Spells characters document) {fuel : Nat}
    (enough : characters.length ≤ fuel) (key : String) (rest : List Char) :
    readEntries (fuel + 1) (keyed key (characters ++ ',' :: '"' :: rest)) =
      ((some key, document) :: (readEntries fuel rest).1, (readEntries fuel rest).2) := by
  rw [readEntries_key, spells fuel _ enough (by rintro _ ⟨⟩; decide)]
  rfl

/-- The reader takes an entry and stops behind the brace. -/
theorem readEntries_last (spells : Spells characters document) {fuel : Nat}
    (enough : characters.length ≤ fuel) (key : String) (rest : List Char) :
    readEntries (fuel + 1) (keyed key (characters ++ '\x7d' :: rest)) =
      ([(some key, document)], some rest) := by
  rw [readEntries_key, spells fuel _ enough (by rintro _ ⟨⟩; decide)]
  rfl

/-- A value begins neither with a space nor with the end of a list. -/
theorem exists_first_compactCharacters (json : Json) : ∃ first later,
    json.compactCharacters = first :: later ∧ isSpace first = false ∧ first ≠ ']' := by
  rcases json with _ | (_ | _) | value | text | (_ | ⟨item, more⟩) | (_ | ⟨⟨key, value⟩, more⟩)
  case number =>
    rcases exists_first_numberCharacters value with ⟨first, later, written, opens⟩
    refine ⟨first, later, by rw [compactCharacters, written], ?_, ?_⟩
    · refine Bool.eq_false_iff.2 fun space => ?_
      simp only [isSpace, Bool.or_eq_true, beq_iff_eq] at space
      rcases space with ((rfl | rfl) | rfl) | rfl <;> exact absurd opens (by decide)
    · rintro rfl
      exact absurd opens (by decide)
  all_goals
    rw [compactCharacters]
    exact ⟨_, _, rfl, by decide, by decide⟩

theorem readValue_list {first : Char} (unspaced : isSpace first = false) (notEnd : first ≠ ']')
    (fuel : Nat) (rest : List Char) :
    readValue (fuel + 1) ('[' :: first :: rest) =
      (.list (readItems fuel (first :: rest)).1 (readItems fuel (first :: rest)).2.isSome,
        (readItems fuel (first :: rest)).2) := by
  have skipped : skipSpace (first :: rest) = first :: rest :=
    List.dropWhile_cons_of_neg (by rw [unspaced]; nofun)
  have bracket : skipSpace ('[' :: first :: rest) = '[' :: first :: rest := rfl
  rw [readValue, bracket]
  simp only [skipped]
  split
  case h_1 same => exact absurd (List.cons.inj same).1 notEnd
  case h_2 => rfl

theorem readItems_next (spells : Spells characters document) {fuel : Nat}
    (enough : characters.length ≤ fuel) (rest : List Char) :
    readItems (fuel + 1) (characters ++ ',' :: rest) =
      (document :: (readItems fuel rest).1, (readItems fuel rest).2) := by
  rw [readItems, spells fuel _ enough (by rintro _ ⟨⟩; decide)]
  rfl

theorem readItems_last (spells : Spells characters document) {fuel : Nat}
    (enough : characters.length ≤ fuel) (rest : List Char) :
    readItems (fuel + 1) (characters ++ ']' :: rest) = ([document], some rest) := by
  rw [readItems, spells fuel _ enough (by rintro _ ⟨⟩; decide)]
  rfl

/-! #### Every value -/

theorem compactEntries_cons (key : String) (value : Json) (more : List (String × Json))
    (rest : List Char) :
    compactEntries ((key, value) :: more) ++ rest =
      ',' :: '"' :: keyed key (value.compactCharacters ++ (compactEntries more ++ rest)) := by
  simp only [compactEntries, quoteCharacters, keyed, List.cons_append, List.append_assoc,
    List.nil_append]

theorem compactCharacters_object (key : String) (value : Json) (more : List (String × Json))
    (rest : List Char) :
    (Json.object ((key, value) :: more)).compactCharacters ++ rest =
      '\x7b' :: '"' :: keyed key (value.compactCharacters ++ (compactEntries more ++ rest)) := by
  simp only [compactCharacters, quoteCharacters, keyed, List.cons_append, List.append_assoc,
    List.nil_append]

mutual

/-- The reader finds every value where it is written. -/
theorem spells_compactCharacters : ∀ json : Json, Spells json.compactCharacters json.document
  | .null => spells_null
  | .bool true => spells_true
  | .bool false => spells_false
  | .number size => by
    rw [compactCharacters]
    exact spells_number size
  | .text content => spells_quote content
  | .list [] => spells_of_succ nofun fun _ _ _ _ => by rw [readValue]; rfl
  | .list (item :: more) => by
    refine spells_of_succ nofun fun fuel rest enough _ => ?_
    have items := readItems_compactItems more (spells_compactCharacters item) fuel rest
    rcases exists_first_compactCharacters item with ⟨first, later, written, unspaced, notEnd⟩
    have within : (item.compactCharacters ++ compactItems more).length ≤ fuel :=
      Nat.le_of_succ_le_succ enough
    have opened := readValue_list unspaced notEnd fuel (later ++ (compactItems more ++ rest))
    rw [← List.cons_append, ← written, items within] at opened
    rw [compactCharacters, List.cons_append, List.cons_append, List.append_assoc]
    exact opened
  | .object [] => spells_of_succ nofun fun _ _ _ _ => by rw [readValue]; rfl
  | .object ((key, value) :: more) => by
    refine spells_of_succ nofun fun fuel rest enough _ => ?_
    have entries := readEntries_compactEntries more key (spells_compactCharacters value) fuel rest
    rw [compactCharacters_object, readValue_object, entries]
    · rfl
    · have written := congrArg List.length (compactCharacters_object key value more [])
      have shorter := length_keyed key (value.compactCharacters ++ (compactEntries more ++ []))
      simp only [List.append_nil, List.length_cons] at written shorter enough
      omega

/-- The reader finds the items of a list. -/
theorem readItems_compactItems : ∀ (more : List Json) {characters : List Char}
    {document : Document}, Spells characters document → ∀ (fuel : Nat) (rest : List Char),
      (characters ++ compactItems more).length ≤ fuel →
        readItems fuel (characters ++ (compactItems more ++ rest)) =
          (document :: itemDocuments more, some rest)
  | more, characters, document, spells, 0, rest, enough => by
    cases more <;> simp [compactItems] at enough
  | [], characters, document, spells, fuel + 1, rest, enough => by
    rw [compactItems, List.length_append, List.length_singleton] at enough
    exact readItems_last spells (by omega) rest
  | item :: later, characters, document, spells, fuel + 1, rest, enough => by
    have others := readItems_compactItems later (spells_compactCharacters item) fuel rest
    simp only [compactItems, List.cons_append, List.length_append, List.length_cons] at enough
    rw [compactItems, List.cons_append, List.cons_append, List.append_assoc,
      readItems_next spells (by omega), others]
    · rfl
    · rw [List.length_append]
      omega

/-- The reader finds the entries of an object, from behind the quote of the first key. -/
theorem readEntries_compactEntries : ∀ (more : List (String × Json)) (key : String)
    {characters : List Char} {document : Document}, Spells characters document →
      ∀ (fuel : Nat) (rest : List Char), (characters ++ compactEntries more).length ≤ fuel →
        readEntries fuel (keyed key (characters ++ (compactEntries more ++ rest))) =
          ((some key, document) :: entryDocuments more, some rest)
  | more, key, characters, document, spells, 0, rest, enough => by
    rcases more with _ | ⟨⟨next, value⟩, later⟩ <;> simp [compactEntries] at enough
  | [], key, characters, document, spells, fuel + 1, rest, enough => by
    rw [compactEntries, List.length_append, List.length_singleton] at enough
    exact readEntries_last spells (by omega) key rest
  | (next, value) :: later, key, characters, document, spells, fuel + 1, rest, enough => by
    have written := congrArg List.length (compactEntries_cons next value later [])
    have shorter := length_keyed next (value.compactCharacters ++ (compactEntries later ++ []))
    simp only [List.append_nil, List.length_cons, List.length_append] at written shorter enough
    have others := readEntries_compactEntries later next (spells_compactCharacters value) fuel rest
    rw [compactEntries_cons, readEntries_next spells (by omega), others]
    · rfl
    · rw [List.length_append]
      omega

end

/-- Some entries with a comma behind each, from behind the first quote to behind the next. -/
def front (entries : List (String × Json)) (rest : List Char) : List Char :=
  entries.foldr (fun (key, value) rest =>
    keyed key (value.compactCharacters ++ ',' :: '"' :: rest)) rest

/-- An object up to the colon behind a key, and what follows. -/
def opening (before : List (String × Json)) (key : String) (rest : List Char) : List Char :=
  '\x7b' :: '"' :: front before (keyed key rest)

end Document

/-! ### Objects with any text as a value -/

/-- A key and the text of its value. -/
def memberText (member : String × String) : String :=
  quote member.1 ++ ":" ++ member.2

/-- The characters of some members with commas between them, and what follows. -/
def joined (parts : List (String × String)) (rest : List Char) : List Char :=
  [','].intercalate (parts.map fun part => (memberText part).toList) ++ rest

end StagePipeline.Json
