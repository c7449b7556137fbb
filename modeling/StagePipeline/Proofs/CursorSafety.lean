import StagePipeline.Proofs.CursorSimulation
import StagePipeline.Proofs.CursorRuns
import StagePipeline.Proofs.ErrorPlaces

/-!
# A parse never goes wrong

The lexer with a cursor cuts words between offsets at which characters begin, so no cut
goes wrong and the tokens and errors are those of the lexer.  With the loop over the
statements this gives the main result: whatever the source, the options and the answers
of the signal, a parse with a cursor neither goes wrong nor runs forever, since fuel in
proportion to the length of the text is enough; while the signal stays the same its
answer is that of the parser; and whatever it reports but an interrupt points between
two characters of the text.
-/

namespace StagePipeline.Program

open Text

/-! ## The lexer -/

theorem Lexeme.drop_length_takeWhile (test : Char → Bool) (text : List Char) :
    text.drop (text.takeWhile test).length = text.dropWhile test :=
  calc text.drop (text.takeWhile test).length
      = (text.takeWhile test ++ text.dropWhile test).drop (text.takeWhile test).length := by
        rw [List.takeWhile_append_dropWhile]
    _ = text.dropWhile test := List.drop_left

theorem utf8Size_of_isDigit {character : Char} (digit : isDigit character = true) :
    character.utf8Size = 1 := by
  simp only [isDigit, Bool.and_eq_true, decide_eq_true_eq] at digit
  have small : character.val ≤ 127 := UInt32.le_trans digit.2 (by decide)
  exact if_pos small

/-- Every token takes a character at least. -/
theorem Lexed.length_tokens_scan_le (nesting offset : Nat) (text : List Char) :
    (scan nesting offset text).tokens.length ≤ text.length := by
  fun_induction scan nesting offset text with
  | case1 => exact Nat.le_refl 0
  | case2 nesting offset first rest lexeme more recognised span later inductive_hypothesis =>
    have single : (lexeme.token? span).toList.length ≤ 1 := by
      cases lexeme.token? span <;> simp
    have dropped : (rest.drop more).length ≤ rest.length :=
      (List.drop_suffix more rest).length_le
    have rest_le : later.tokens.length ≤ (rest.drop more).length := inductive_hypothesis
    rw [List.length_append, List.length_cons]
    omega

namespace Checked

variable {setup : Setup} {source : SourceFile} {cursor : Cursor}

theorem passWhile_eq (test : Char → Bool) (stop : Nat) (text : List Char) :
    passWhile test stop (indexed stop text) =
      (stop + width (text.takeWhile test),
        indexed (stop + width (text.takeWhile test)) (text.dropWhile test)) := by
  induction text generalizing stop with
  | nil => rfl
  | cons character rest inductive_hypothesis =>
    rw [indexed, passWhile]
    by_cases passes : test character = true
    · rw [if_pos passes, inductive_hypothesis, List.takeWhile_cons_of_pos passes,
        List.dropWhile_cons_of_pos passes, width_cons, Nat.add_assoc]
    · rw [if_neg passes, List.takeWhile_cons_of_neg passes, List.dropWhile_cons_of_neg passes]
      rfl

/-- A cut at the ends of characters that stand in the text never goes wrong. -/
theorem cut_eq {before characters after : List Char}
    (split : source.text.toList = before ++ (characters ++ after)) (cursor : Cursor) :
    cut source (width before) (width before + width characters) cursor =
      some (.ok (String.ofList characters), cursor) := by
  have here : StandsAt source.text.toList (.ofLength (width before) (width characters))
      characters := ⟨before, after, split, rfl, rfl⟩
  have ordered : Span.ofBounds? (width before) (width before + width characters) =
      some (.ofLength (width before) (width characters)) :=
    dif_pos (Nat.le_add_right _ _)
  rw [cut, ordered, bind_of_ok rfl, here.slice?]
  rfl

/-- The run of characters that begin with one and go on while they pass a test. -/
theorem cut_run_eq {before rest : List Char} {first : Char}
    (split : source.text.toList = before ++ first :: rest) (test : Char → Bool)
    (cursor : Cursor) :
    cut source (width before)
        (width before + first.utf8Size + width (rest.takeWhile test)) cursor =
      some (.ok (String.ofList (first :: rest.takeWhile test)), cursor) := by
  have whole : source.text.toList =
      before ++ ((first :: rest.takeWhile test) ++ rest.dropWhile test) := by
    rw [split, List.cons_append, List.takeWhile_append_dropWhile]
  rw [Nat.add_assoc, ← width_cons]
  exact cut_eq whole cursor

/-- The lexeme at a place of the text, its end and the characters after it. -/
theorem lexeme_eq {before rest : List Char} {first : Char}
    (split : source.text.toList = before ++ first :: rest) (nesting : Nat) (cursor : Cursor) :
    lexeme source nesting (width before) first
        (indexed (width before + first.utf8Size) rest) cursor =
      let (found, more) := Lexeme.recognise nesting first rest
      let stop := width before + width (first :: rest.take more)
      some (.ok (found, stop, indexed stop (rest.drop more)), cursor) := by
  have single : width before + width [first] = width before + first.utf8Size := rfl
  rw [lexeme, Lexeme.recognise]
  split
  · rfl
  split
  · rfl
  split
  · dsimp only
    rw [passWhile_eq, Lexeme.take_length_takeWhile, Lexeme.drop_length_takeWhile, width_cons,
      ← Nat.add_assoc]
    rfl
  cases sign : Lexeme.punctuation? first with
  | some kind => rfl
  | none =>
    dsimp only
    by_cases digit : isDigit first = true
    · have run := cut_run_eq split isDigit cursor
      rw [if_pos digit, if_pos digit, ← utf8Size_of_isDigit digit, passWhile_eq]
      dsimp only
      rw [bind_of_ok run, Lexeme.take_length_takeWhile, Lexeme.drop_length_takeWhile, width_cons,
        ← Nat.add_assoc, String.toList_ofList]
      rfl
    rw [if_neg digit, if_neg digit]
    by_cases word : isWordStart first = true
    · have run := cut_run_eq split isWordPart cursor
      rw [if_pos word, if_pos word, passWhile_eq]
      dsimp only
      rw [bind_of_ok run, Lexeme.take_length_takeWhile, Lexeme.drop_length_takeWhile, width_cons,
        ← Nat.add_assoc, String.toList_ofList]
      rfl
    · rw [if_neg word, if_neg word]
      rfl

theorem pollAt_eq (setup : Setup) (scanned : Nat) (cursor : Cursor) :
    (∃ left, pollAt setup scanned cursor = some (.ok (), left)) ∨
      ∃ error left, pollAt setup scanned cursor = some (.error error, left) ∧
        setup.Interrupts error := by
  rw [pollAt]
  split
  · have asked := poll_eq setup cursor
    cases signal : setup.signals cursor.polls with
    | none =>
      rw [signal] at asked
      exact Or.inl ⟨_, asked⟩
    | some reason =>
      rw [signal] at asked
      exact Or.inr ⟨_, _, asked, _, reason, signal, rfl⟩
  · exact Or.inl ⟨cursor, rfl⟩

theorem array_append (marks : List Mark) (token : Option Token) (later : List Token)
    (finish : Nat) :
    (marks ++ (token.map Token.mark).toList) ++ Mark.array later finish =
      marks ++ Mark.array (token.toList ++ later) finish := by
  cases token <;> simp [Mark.array]

/-- Scanning gives the array of the tokens and the errors of the lexer, or is interrupted. -/
theorem scan_eq (fuel : Nat) (text before : List Char)
    (split : setup.source.text.toList = before ++ text) (enough : text.length < fuel)
    (nesting scanned : Nat) (marks : List Mark) (errors : List SyntaxError) (cursor : Cursor) :
    (∃ left, scan setup nesting scanned (indexed (width before) text) marks errors fuel cursor =
      some (.ok (marks ++ Mark.array (Lexed.scan nesting (width before) text).tokens
          setup.source.size,
        errors ++ (Lexed.scan nesting (width before) text).errors), left)) ∨
      ∃ error left,
        scan setup nesting scanned (indexed (width before) text) marks errors fuel cursor =
          some (.error error, left) ∧ setup.Interrupts error := by
  induction fuel generalizing text before nesting scanned marks errors cursor with
  | zero => exact absurd enough (Nat.not_lt_zero _)
  | succ fuel inductive_hypothesis =>
    cases text with
    | nil =>
      refine Or.inl ⟨cursor, ?_⟩
      rw [indexed, scan, Lexed.scan, List.append_nil]
      rfl
    | cons first rest =>
      have here := fun cursor => lexeme_eq split nesting cursor
      rcases recognised : Lexeme.recognise nesting first rest with ⟨found, more⟩
      simp only [recognised] at here
      rw [indexed, scan, Lexed.scan]
      rcases pollAt_eq setup scanned cursor with
        ⟨polled, asked⟩ | ⟨error, left, stopped, interrupts⟩
      · have ordered : Span.ofBounds? (width before)
            (width before + width (first :: rest.take more)) =
            some (.ofLength (width before) (width (first :: rest.take more))) :=
          dif_pos (Nat.le_add_right _ _)
        have after : setup.source.text.toList =
            (before ++ first :: rest.take more) ++ rest.drop more := by
          rw [split, List.append_assoc, List.cons_append, List.take_append_drop]
        rw [bind_of_ok asked, bind_of_ok (here polled)]
        dsimp only
        rw [ordered, bind_of_ok rfl]
        simp only [recognised]
        have fewer : (rest.drop more).length < fuel := by
          rw [List.length_cons] at enough
          rw [List.length_drop]
          omega
        rcases inductive_hypothesis (rest.drop more) _ after fewer (found.nestingAfter nesting)
          (scanned + 1) _ _ polled with ⟨left, run⟩ | ⟨error, left, run, interrupts⟩
        · rw [width_append] at run
          refine Or.inl ⟨left, run.trans ?_⟩
          rw [array_append, List.append_assoc]
          rfl
        · rw [width_append] at run
          exact Or.inr ⟨error, left, run, interrupts⟩
      · exact Or.inr ⟨error, left, bind_of_error stopped, interrupts⟩

theorem scan_stopped {reason : Interrupt} (signal : setup.signals cursor.polls = some reason)
    (nesting fuel : Nat) (first : Nat × Char) (rest : List (Nat × Char)) (marks : List Mark)
    (errors : List SyntaxError) :
    ∃ left, scan setup nesting 0 (first :: rest) marks errors (fuel + 1) cursor =
      some (.error (.interrupted reason), left) := by
  have asked := poll_eq setup cursor
  rw [signal] at asked
  refine ⟨cursor.polled, ?_⟩
  rw [scan, pollAt, if_pos (Nat.zero_mod _)]
  exact bind_of_error asked

/-- The array and the errors that a parse begins with. -/
theorem scan_text_eq (setup : Setup) {fuel : Nat} (enough : setup.source.text.length < fuel)
    (cursor : Cursor) :
    (∃ left, scan setup 0 0 (indexed 0 setup.source.text.toList) [] [] fuel cursor =
      some (.ok (Mark.array (Lexed.ofText setup.source.text).tokens setup.bounds.finish,
        (Lexed.ofText setup.source.text).errors), left)) ∨
      ∃ error left, scan setup 0 0 (indexed 0 setup.source.text.toList) [] [] fuel cursor =
        some (.error error, left) ∧ setup.Interrupts error := by
  rw [← String.length_toList] at enough
  have scanned := scan_eq fuel setup.source.text.toList [] rfl enough 0 0 [] [] cursor
  rw [width_nil, List.nil_append, List.nil_append] at scanned
  exact scanned

end Checked

/-! ## Whole parses -/

/-- What the answer of a parse with a cursor may be. -/
structure Setup.Answers (setup : Setup) (answer : Except SyntaxError ParseOutput) : Prop where
  errors : ∀ error ∈ reportedErrors answer, error ∈ (Lexed.ofText setup.source.text).errors ∨
    error ∈ malformedRuns setup.options.maxDepth setup.source ∨ setup.Interrupts error
  statements : ∀ output, answer = .ok output →
    output.tree.statements.Sublist (foundStatements setup.options.maxDepth setup.source)
  quiet : setup.Quiet → answer = parse setup.options none setup.source

namespace Setup.Answers

variable {setup : Setup}

theorem interrupted {error : SyntaxError} (interrupts : setup.Interrupts error) :
    setup.Answers (.error error) where
  errors := fun _ member => Or.inr (Or.inr (by rwa [List.mem_singleton.1 member]))
  statements := nofun
  quiet := fun quiet => absurd interrupts quiet.not_interrupts

theorem lexical {error : SyntaxError} {rest : List SyntaxError}
    (strict : setup.options.recover = false)
    (found : (Lexed.ofText setup.source.text).errors = error :: rest) :
    setup.Answers (.error error) where
  errors := fun _ member => Or.inl (by
    rw [List.mem_singleton.1 member, found]
    exact List.mem_cons_self)
  statements := nofun
  quiet := fun _ => by
    have options : setup.options = ⟨false, setup.options.maxDepth⟩ := by rw [← strict]
    rw [options, parse_strict_of_lexer_error found]

/-- The answer of a reading of the runs of the text. -/
theorem ofReading {reading : Reading}
    (goesOn : setup.options.recover = true ∨ (Lexed.ofText setup.source.text).errors = [])
    (reads : ReadsRuns setup (Lexed.ofText setup.source.text).tokens 0 reading) :
    setup.Answers (reading.answer [] (Lexed.ofText setup.source.text).errors) where
  errors := by
    intro error member
    rw [Reading.answer] at member
    cases failure : reading.failure with
    | some other =>
      rw [failure] at member
      rw [List.mem_singleton.1 member]
      exact Or.inr (reads.errors other (by simp [failure]))
    | none =>
      rw [failure] at member
      rcases List.mem_append.1 (List.mem_mergeSort.1 member) with lexical | read
      · exact Or.inl lexical
      · exact Or.inr (reads.errors error (List.mem_append_left _ read))
  statements := by
    intro output same
    rw [Reading.answer] at same
    cases failure : reading.failure with
    | some other =>
      rw [failure] at same
      cases same
    | none =>
      rw [failure] at same
      rcases Except.ok.inj same with rfl
      exact reads.statements
  quiet := fun quiet => by
    have options : setup.options = ⟨setup.options.recover, setup.options.maxDepth⟩ := rfl
    rw [options, parse_eq_reading goesOn, reads.quiet quiet]
    rfl

end Setup.Answers

namespace Checked

/-- As much fuel as a parse ever takes. -/
def sufficientFuel (setup : Setup) : Nat :=
  6 * setup.source.text.length + 7

/-- A parse from the cursor comes to the answer, however much fuel it has if that is enough. -/
def Yields (setup : Setup) (cursor : Cursor) (answer : Except SyntaxError ParseOutput)
    (left : Cursor) : Prop :=
  ∀ fuel, sufficientFuel setup ≤ fuel → parse setup fuel cursor = some (answer, left)

namespace Yields

variable {answer other : Except SyntaxError ParseOutput} {left last : Cursor}

theorem of_run (run : parse setup (sufficientFuel setup) cursor = some (answer, left)) :
    Yields setup cursor answer left :=
  fun _ enough => parse_extends setup enough cursor _ run

theorem unique (first : Yields setup cursor answer left)
    (second : Yields setup cursor other last) : answer = other := by
  have same := (first _ (Nat.le_refl _)).symm.trans (second _ (Nat.le_refl _))
  exact (Prod.mk.inj (Option.some.inj same)).1

end Yields

/-- A parse that goes on to the tokens reads the statements from the first of them. -/
theorem parse_of_scan {fuel : Nat} {cursor scanned : Cursor} {marks : List Mark}
    {errors : List SyntaxError}
    (run : scan setup 0 0 (indexed 0 setup.source.text.toList) [] [] fuel cursor =
      some (.ok (marks, errors), scanned))
    (goesOn : setup.options.recover = true ∨ errors = []) :
    parse setup fuel cursor =
      statements setup [] errors fuel (scanned.atStart marks) := by
  rw [parse, bind_of_ok run]
  rcases goesOn with recover | clean
  · rw [recover]
    exact bind_of_ok rfl
  · rw [clean]
    cases setup.options.recover <;> exact bind_of_ok rfl

theorem length_lt_sufficientFuel (setup : Setup) :
    setup.source.text.length < sufficientFuel setup := by
  rw [sufficientFuel]
  omega

theorem tokens_lt_sufficientFuel (setup : Setup) :
    6 * (Lexed.ofText setup.source.text).tokens.length + 6 < sufficientFuel setup := by
  have bound := Lexed.length_tokens_scan_le 0 0 setup.source.text.toList
  rw [String.length_toList] at bound
  rw [sufficientFuel, Lexed.ofText]
  omega

/-- A parse comes to an answer whatever its signal says, and to one that it may come to. -/
theorem exists_yields (setup : Setup) (cursor : Cursor) :
    ∃ answer left, Yields setup cursor answer left ∧ setup.Answers answer := by
  rcases scan_text_eq setup (length_lt_sufficientFuel setup) cursor with
    ⟨scanned, run⟩ | ⟨error, left, run, interrupts⟩
  · by_cases goesOn : setup.options.recover = true ∨ (Lexed.ofText setup.source.text).errors = []
    · have start : Cursor.Before (Lexed.ofText setup.source.text).tokens setup.bounds.finish
          (scanned.atStart
            (Mark.array (Lexed.ofText setup.source.text).tokens setup.bounds.finish))
          (Lexed.ofText setup.source.text).tokens :=
        ⟨rfl, List.suffix_refl _, Nat.zero_add _⟩
      rcases statements_eq _ _ (tokens_lt_sufficientFuel setup) _ []
        (Lexed.ofText setup.source.text).errors 0 start with ⟨reading, left, read, reads⟩
      exact ⟨_, left, .of_run ((parse_of_scan run goesOn).trans read), .ofReading goesOn reads⟩
    · rcases not_or.1 goesOn with ⟨strict, unclean⟩
      rcases List.exists_cons_of_ne_nil unclean with ⟨error, rest, found⟩
      refine ⟨.error error, scanned, .of_run ?_, .lexical (by simpa using strict) found⟩
      rw [parse, bind_of_ok run, found, show setup.options.recover = false by simpa using strict]
      rfl
  · refine ⟨.error error, left, .of_run ?_, .interrupted interrupts⟩
    rw [parse]
    exact bind_of_error run

/-- A signal that stops everything stops a parse before its first character, if there is one. -/
theorem exists_yields_of_signalled {reason : Interrupt}
    (signalled : ∀ index, setup.signals index = some reason) (cursor : Cursor) :
    ∃ left, Yields setup cursor (Program.parse setup.options (some reason) setup.source) left := by
  rw [parse_signalled]
  cases characters : setup.source.text.toList with
  | nil =>
    have run : scan setup 0 0 (indexed 0 setup.source.text.toList) [] [] (sufficientFuel setup)
        cursor = some (.ok (Mark.array [] setup.bounds.finish, []), cursor) := by
      rw [characters, indexed, sufficientFuel, scan]
      rfl
    have start : Cursor.Before [] setup.bounds.finish
        (cursor.atStart (Mark.array [] setup.bounds.finish)) [] :=
      ⟨rfl, List.suffix_refl _, rfl⟩
    rcases statements_eq_of_nil (Nat.succ_pos (6 * setup.source.text.length + 5)) rfl start [] []
      with ⟨left, ended⟩
    refine ⟨left, .of_run ((parse_of_scan run (Or.inr rfl)).trans ?_)⟩
    rw [sufficientFuel, ended,
      if_pos (String.isEmpty_iff.2 (String.toList_eq_nil_iff.1 characters)), List.mergeSort_nil]
  | cons first rest =>
    have nonempty : setup.source.text.isEmpty ≠ true := by
      intro empty
      rw [String.isEmpty_iff.1 empty] at characters
      cases characters
    rcases scan_stopped (signalled cursor.polls) 0 (6 * setup.source.text.length + 6) (0, first)
      (indexed (0 + first.utf8Size) rest) [] [] with ⟨left, stopped⟩
    refine ⟨left, .of_run ?_⟩
    rw [if_neg nonempty, parse, characters, indexed, sufficientFuel]
    exact bind_of_error stopped

end Checked

/--
A parse never goes wrong and always ends, whatever the source, the options and the
answers of the signal, and wherever earlier runs have left the cursor.  If the signal
always answers the same, the result is that of the parser; and all that is reported
but interrupts points between two characters of the source, where there is a location.
-/
theorem checked_parse_never_goes_wrong (setup : Setup) (cursor : Cursor) :
    ∃ answer left, Checked.Yields setup cursor answer left ∧
      (∀ signal, (∀ index, setup.signals index = signal) →
        answer = parse setup.options signal setup.source) ∧
      ∀ error ∈ reportedErrors answer, setup.Interrupts error ∨
        ∃ span, error.span? = some span ∧ span.stop ≤ setup.source.size ∧
          setup.source.IsBoundary span.start ∧ setup.source.IsBoundary span.stop ∧
          ∃ location, setup.source.location? span.start = some location := by
  rcases Checked.exists_yields setup cursor with ⟨answer, left, yields, answers⟩
  refine ⟨answer, left, yields, ?_, ?_⟩
  · intro signal steady
    cases signal with
    | none => exact answers.quiet steady
    | some reason =>
      rcases Checked.exists_yields_of_signalled steady cursor with ⟨_, same⟩
      exact yields.unique same
  · intro error member
    have located : error.Located setup.source ∨ setup.Interrupts error := by
      rcases answers.errors error member with lexical | malformed | interrupts
      · exact Or.inl (located_of_mem_lexed lexical)
      · exact Or.inl (located_of_mem_malformedRuns malformed)
      · exact Or.inr interrupts
    rcases located with ⟨span, shows, starts, stops⟩ | interrupts
    · exact Or.inr ⟨span, shows, stops.le_size, starts, stops,
        SourceFile.exists_location_of_isBoundary starts⟩
    · exact Or.inl interrupts

end StagePipeline.Program
