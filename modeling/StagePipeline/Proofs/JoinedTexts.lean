import StagePipeline.Proofs.ShiftedText

/-!
# Two texts with a separator between them

A character that belongs to no number, word or comment cuts a text in two: what stands
before it is cut into lexemes as if it were the whole text, and the lexer goes on
behind it with the parentheses that are still open.  In the tokens a separator ends
the run before it in the same way, so the statements of the whole are those of the
text in front and those of the text behind, moved to the right.

The text behind is not read as it would be alone: while parentheses are open no line
end is a separator, and a semicolon closes none of them.  `statementsInside` says what
is read under open parentheses, and `statementsInside_eq` when that is what is read
without them.
-/

namespace StagePipeline.Program

open Text

/-! ### Lexemes -/

/-- The last line of the text has a comment. -/
def EndsInComment (text : List Char) : Prop :=
  ∃ before comment, text = before ++ '#' :: comment ∧ '\n' ∉ comment

theorem EndsInComment.append {text : List Char} (ends : EndsInComment text)
    (front : List Char) : EndsInComment (front ++ text) := by
  rcases ends with ⟨before, comment, rfl, single⟩
  exact ⟨front ++ before, comment, (List.append_assoc ..).symm, single⟩

/-- The character belongs to nothing that the text before it may end in. -/
structure CutsOff (text : List Char) (separator : Char) : Prop where
  digit : isDigit separator = false
  word : isWordPart separator = false
  comment : separator = '\n' ∨ ¬ EndsInComment text

theorem CutsOff.of_append {front text : List Char} {separator : Char}
    (cuts : CutsOff (front ++ text) separator) : CutsOff text separator where
  digit := cuts.digit
  word := cuts.word
  comment := cuts.comment.imp_right fun open? ends => open? (ends.append front)

section Cut

variable {α : Type} (test : α → Bool) {stop : α} (fails : test stop = false)

include fails

/-- What passes a test at the front ends before something that does not, whatever follows. -/
theorem takeWhile_append_cons (front back : List α) :
    (front ++ stop :: back).takeWhile test = front.takeWhile test := by
  induction front with
  | nil => simp [fails]
  | cons first rest inductive_hypothesis =>
    rw [List.cons_append, List.takeWhile_cons, List.takeWhile_cons, inductive_hypothesis]

theorem dropWhile_append_cons (front back : List α) :
    (front ++ stop :: back).dropWhile test = front.dropWhile test ++ stop :: back := by
  induction front with
  | nil => simp [fails]
  | cons first rest inductive_hypothesis =>
    rw [List.cons_append, List.dropWhile_cons, List.dropWhile_cons, inductive_hypothesis]
    split <;> rfl

theorem takeWhile_append_of_mem {front : List α} (member : stop ∈ front) (back : List α) :
    (front ++ back).takeWhile test = front.takeWhile test := by
  rcases List.append_of_mem member with ⟨before, after, rfl⟩
  rw [List.append_assoc, List.cons_append, takeWhile_append_cons test fails,
    takeWhile_append_cons test fails]

end Cut

namespace Lexeme

theorem recognise_snd_le (nesting : Nat) (first : Char) (rest : List Char) :
    (recognise nesting first rest).2 ≤ rest.length := by
  have taken : ∀ test : Char → Bool, (rest.takeWhile test).length ≤ rest.length :=
    fun test => (List.takeWhile_prefix test).length_le
  rw [recognise]
  split
  · exact Nat.zero_le _
  split
  · exact Nat.zero_le _
  split
  · exact taken _
  split
  · exact Nat.zero_le _
  split
  · exact taken _
  split
  · exact taken _
  · exact Nat.zero_le _

/-- What stands at the front of a text is the same if more follows behind a separator. -/
theorem recognise_append {first separator : Char} {rest : List Char}
    (cuts : CutsOff (first :: rest) separator) (nesting : Nat) (back : List Char) :
    recognise nesting first (rest ++ separator :: back) = recognise nesting first rest := by
  have comment : first = '#' → (rest ++ separator :: back).takeWhile (· != '\n') =
      rest.takeWhile (· != '\n') := by
    intro sign
    rcases cuts.comment with lineEnd | ended
    · exact takeWhile_append_cons (· != '\n') (by simp [lineEnd]) rest back
    · have inside : '\n' ∈ rest := Classical.byContradiction fun single =>
        ended ⟨[], rest, by rw [sign]; rfl, single⟩
      exact takeWhile_append_of_mem (· != '\n') (by simp) inside _
  rw [recognise, recognise, takeWhile_append_cons isDigit cuts.digit,
    takeWhile_append_cons isWordPart cuts.word]
  by_cases sign : first = '#'
  · rw [comment sign]
  · rw [if_neg sign, if_neg sign]

end Lexeme

namespace Lexed

/-- How many parentheses are open after some pieces. -/
def nestingAfter (nesting : Nat) (pieces : List Piece) : Nat :=
  pieces.foldl (fun nesting piece => piece.lexeme.nestingAfter nesting) nesting

theorem pieces_append {front : List Char} {separator : Char} (cuts : CutsOff front separator)
    (nesting offset : Nat) (back : List Char) :
    pieces nesting offset (front ++ separator :: back) =
      pieces nesting offset front ++
        pieces (nestingAfter nesting (pieces nesting offset front)) (offset + width front)
          (separator :: back) := by
  fun_induction pieces nesting offset front with
  | case1 => rfl
  | case2 nesting offset first rest lexeme more found piece inductive_hypothesis =>
    have within := Lexeme.recognise_snd_le nesting first rest
    rw [found] at within
    have later : CutsOff (rest.drop more) separator := by
      have split : first :: rest = (first :: rest.take more) ++ rest.drop more := by
        rw [List.cons_append, List.take_append_drop]
      rw [split] at cuts
      exact cuts.of_append
    have measured : offset + width (first :: rest) =
        piece.span.stop + width (rest.drop more) := by
      rw [Piece.span_stop, Nat.add_assoc, ← width_append, List.cons_append,
        List.take_append_drop]
    rw [List.cons_append, pieces, Lexeme.recognise_append cuts, found]
    dsimp only
    rw [List.take_append_of_le_length within, List.drop_append_of_le_length within, measured,
      List.cons_append, inductive_hypothesis later]
    rfl

theorem scan_append {front : List Char} {separator : Char}
    (cuts : CutsOff front separator) (nesting offset : Nat) (back : List Char) :
    scan nesting offset (front ++ separator :: back) =
      let first := scan nesting offset front
      let second := scan (nestingAfter nesting (pieces nesting offset front))
        (offset + width front) (separator :: back)
      ⟨first.tokens ++ second.tokens, first.errors ++ second.errors⟩ := by
  simp only [scan_eq_pieces, pieces_append cuts, List.filterMap_append]

/-- How many parentheses the lexer counts as open at the end of a text. -/
def openParens (text : String) : Nat :=
  nestingAfter 0 (pieces 0 0 text.toList)

end Lexed

/-! ### Runs -/

/-- The run with more tokens behind it. -/
def Run.before (run : Run) {rest : List Token} (ends : endsStatement rest = true) : Run where
  body := run.body
  after := run.after ++ rest
  nonempty := run.nonempty
  inside := run.inside
  ends := by
    cases found : run.after with
    | nil => exact ends
    | cons token later =>
      have closed := run.ends
      rw [found] at closed
      exact closed

theorem runs_append {separator : Token} {rest : List Token}
    (separates : endsStatement (separator :: rest) = true) (tokens : List Token) :
    runs (tokens ++ separator :: rest) =
      (runs tokens).map (·.before separates) ++ runs rest := by
  induction tokens using runs.induct with
  | case1 => rw [List.nil_append, runs_nil, runs_separator separates]; rfl
  | case2 token later opens inductive_hypothesis =>
    have closes : (!separator.kind.isSeparator) = false := by
      have ends : separator.kind.isSeparator = true := separates
      rw [ends]
      rfl
    let inside : Token → Bool := fun token => !token.kind.isSeparator
    have others : fromSeparator (later ++ separator :: rest) =
        fromSeparator later ++ separator :: rest :=
      dropWhile_append_cons inside closes later rest
    have first : Run.startingWith token opens (later ++ separator :: rest) =
        (Run.startingWith token opens later).before separates :=
      Run.eq_of (congrArg (token :: ·)
        (takeWhile_append_cons inside closes later rest)) others
    rw [List.cons_append, runs_opening opens, runs_opening opens, first, others,
      inductive_hypothesis, List.map_cons, List.cons_append]
  | case3 token later separated inductive_hypothesis =>
    have skipped : token.kind.isSeparator = true := by simpa using separated
    rw [List.cons_append, runs_separator skipped, runs_separator skipped]
    exact inductive_hypothesis

theorem Run.statement?_eq_of_body {run other : Run} {bounds others : Bounds}
    (bodies : run.body = other.body) (limits : bounds.limit = others.limit) :
    run.statement? bounds = other.statement? others := by
  ext statement
  rw [statement?_eq_some_iff, statement?_eq_some_iff, bodies]
  constructor
  · exact fun fits => ⟨fits.spells, fits.nested, limits ▸ fits.shallow⟩
  · exact fun fits => ⟨fits.spells, fits.nested, limits ▸ fits.shallow⟩

/-! ### Statements -/

/-- The statements that are read from a text which stands inside open parentheses. -/
def statementsInside (nesting maxDepth : Nat) (source : SourceFile) : List Stmt :=
  (runs (Lexed.scan nesting 0 source.text.toList).tokens).filterMap
    (Run.statement? (.ofSource maxDepth source))

theorem Lexeme.recognise_eq_of_ne {first : Char} (single : first ≠ '\n') (nesting other : Nat)
    (rest : List Char) : recognise nesting first rest = recognise other first rest := by
  rw [recognise, recognise, if_neg single, if_neg single]

/-- On one line it makes no difference how many parentheses are open. -/
theorem Lexed.pieces_eq_of_single {text : List Char} (single : '\n' ∉ text)
    (nesting other offset : Nat) : pieces nesting offset text = pieces other offset text := by
  fun_induction pieces nesting offset text generalizing other with
  | case1 => rw [pieces]
  | case2 nesting offset first rest lexeme more found piece inductive_hypothesis =>
    have here : first ≠ '\n' := fun same => single (same ▸ List.mem_cons_self)
    have later : '\n' ∉ rest.drop more :=
      fun member => single (List.mem_cons_of_mem _ (List.mem_of_mem_drop member))
    rw [pieces, Lexeme.recognise_eq_of_ne here other nesting, found]
    exact congrArg (piece :: ·) (inductive_hypothesis later (lexeme.nestingAfter other))

theorem statementsInside_eq {nesting : Nat} {source : SourceFile}
    (unaffected : nesting = 0 ∨ '\n' ∉ source.text.toList) (maxDepth : Nat) :
    statementsInside nesting maxDepth source = foundStatements maxDepth source := by
  rcases unaffected with rfl | single
  · rfl
  · rw [statementsInside, foundStatements, Lexed.ofText, Lexed.scan_eq_pieces,
      Lexed.scan_eq_pieces, Lexed.pieces_eq_of_single single nesting 0]

theorem Lexeme.recognise_semicolon (nesting : Nat) (rest : List Char) :
    recognise nesting ';' rest = (.token .semicolon, 0) := by
  rw [recognise, if_neg (by decide), if_neg (by decide +kernel), if_neg (by decide)]
  rfl

theorem cutsOff_semicolon {text : List Char} (ended : ¬ EndsInComment text) :
    CutsOff text ';' :=
  ⟨by decide, by decide +kernel, Or.inr ended⟩

/--
The joined text is the two others with a character between them, which belongs to
nothing of the text in front and is a separator to the lexer where it stands.
-/
structure JoinedBy (separator : Char) (kind : TokenKind) (front back joined : SourceFile) :
    Prop where
  text : joined.text.toList = front.text.toList ++ separator :: back.text.toList
  cuts : CutsOff front.text.toList separator
  recognised : ∀ rest, Lexeme.recognise (Lexed.openParens front.text) separator rest =
    (.token kind, 0)
  separates : kind.isSeparator = true
  narrow : separator.utf8Size = 1

/-- The separator behind the text in front. -/
def seam (front : SourceFile) (kind : TokenKind) : Token :=
  ⟨kind, .ofLength front.size 1⟩

namespace JoinedBy

variable {separator : Char} {kind : TokenKind} {front back joined : SourceFile}

theorem of_semicolon (text : joined.text = front.text ++ ";" ++ back.text)
    (ended : ¬ EndsInComment front.text.toList) :
    JoinedBy ';' .semicolon front back joined where
  text := by
    rw [text]
    simp
  cuts := cutsOff_semicolon ended
  recognised := Lexeme.recognise_semicolon _
  separates := rfl
  narrow := rfl

variable (joins : JoinedBy separator kind front back joined)
include joins

theorem size_eq : joined.size = back.size + (front.size + 1) := by
  simp only [SourceFile.size, joins.text, width_append, width_cons, joins.narrow]
  omega

theorem lexed_eq :
    Lexed.ofText joined.text =
      let first := Lexed.ofText front.text
      let second := (Lexed.scan (Lexed.openParens front.text) 0 back.text.toList).shift
        (front.size + 1)
      ⟨first.tokens ++ seam front kind :: second.tokens, first.errors ++ second.errors⟩ := by
  have counts : (Lexeme.token kind).nestingAfter (Lexed.openParens front.text) =
      Lexed.openParens front.text := by
    have separates := joins.separates
    cases kind with
    | leftParen | rightParen => exact nomatch separates
    | _ => rfl
  have behind : Lexed.scan (Lexed.openParens front.text) (0 + width front.text.toList)
      (separator :: back.text.toList) =
        let second := (Lexed.scan (Lexed.openParens front.text) 0 back.text.toList).shift
          (front.size + 1)
        ⟨seam front kind :: second.tokens, second.errors⟩ := by
    rw [Lexed.scan, joins.recognised, ← Lexed.scan_add]
    dsimp only
    rw [counts, List.take_zero, List.drop_zero, width_cons, width_nil, joins.narrow, Nat.zero_add]
    rfl
  rw [Lexed.ofText, joins.text, Lexed.scan_append joins.cuts]
  dsimp only
  rw [show Lexed.nestingAfter 0 (Lexed.pieces 0 0 front.text.toList) =
    Lexed.openParens front.text from rfl, behind]
  rfl

/-- The runs of the text in front end before those of the text behind begin. -/
theorem runs_eq :
    ∃ (later : List Token) (separates : endsStatement (seam front kind :: later) = true),
      runs (Lexed.ofText joined.text).tokens =
      (runs (Lexed.ofText front.text).tokens).map (Run.before · separates) ++
        (runs (Lexed.scan (Lexed.openParens front.text) 0 back.text.toList).tokens).map
          (Run.shift (front.size + 1)) := by
  have separates : endsStatement (seam front kind ::
      (Lexed.scan (Lexed.openParens front.text) 0 back.text.toList).tokens.map
        (Token.shift (front.size + 1))) = true := joins.separates
  refine ⟨_, separates, ?_⟩
  rw [joins.lexed_eq, ← runs_map_shift]
  exact runs_append separates _

theorem foundStatements_eq (maxDepth : Nat) :
    foundStatements maxDepth joined =
      foundStatements maxDepth front ++
        (statementsInside (Lexed.openParens front.text) maxDepth back).map
          (Stmt.shift (front.size + 1)) := by
  rcases joins.runs_eq with ⟨later, separates, runs⟩
  have first : Run.statement? (.ofSource maxDepth joined) ∘ (Run.before · separates) =
      Run.statement? (.ofSource maxDepth front) :=
    funext fun run => Run.statement?_eq_of_body rfl rfl
  have second : Run.statement? (.ofSource maxDepth joined) ∘ Run.shift (front.size + 1) =
      fun run => (Run.statement? (.ofSource maxDepth back) run).map
        (Stmt.shift (front.size + 1)) := by
    funext run
    rw [Function.comp_apply, Bounds.ofSource, joins.size_eq]
    exact run.statement?_shift _ _ _
  rw [foundStatements, runs, List.filterMap_append, List.filterMap_map, List.filterMap_map,
    first, second, statementsInside, List.map_filterMap]
  rfl

end JoinedBy

/--
A semicolon ends a statement.  Whatever errors the text in front of it has, if it does
not end in a comment, a recovering parse of both texts finds the statements of the text
in front and those of the text behind, moved to the right.  The text behind is read
with the parentheses still open that the text in front leaves open; if there are none,
or if the text behind is a single line, its statements are those of its own parse.
-/
theorem semicolon_ends_statement {front back joined : SourceFile}
    (text : joined.text = front.text ++ ";" ++ back.text)
    (ended : ¬ EndsInComment front.text.toList) (maxDepth : Nat) :
    ∃ whole first second,
      parse ⟨true, maxDepth⟩ none joined = .ok whole ∧
      parse ⟨true, maxDepth⟩ none front = .ok first ∧
      parse ⟨true, maxDepth⟩ none back = .ok second ∧
      whole.tree.statements = first.tree.statements ++
        (statementsInside (Lexed.openParens front.text) maxDepth back).map
          (Stmt.shift (front.size + 1)) ∧
      (Lexed.openParens front.text = 0 ∨ '\n' ∉ back.text.toList →
        statementsInside (Lexed.openParens front.text) maxDepth back =
          second.tree.statements) := by
  refine ⟨_, _, _, parse_recovering maxDepth joined, parse_recovering maxDepth front,
    parse_recovering maxDepth back, ?_, ?_⟩
  · exact (JoinedBy.of_semicolon text ended).foundStatements_eq maxDepth
  · exact fun unaffected => statementsInside_eq unaffected maxDepth

/-- Behind a binding that lacks its value and an open parenthesis, two lines are one statement. -/
theorem semicolon_ends_statement_inside_parens :
    let front : SourceFile := ⟨"a.st", "1; let ä = ("⟩
    let back : SourceFile := ⟨"a.st", "x\n+ 2"⟩
    let joined : SourceFile := ⟨"a.st", "1; let ä = (;x\n+ 2"⟩
    joined.text = front.text ++ ";" ++ back.text ∧ ¬ EndsInComment front.text.toList ∧
      Lexed.openParens front.text = 1 ∧
      ∃ whole first, parse ⟨true, 3⟩ none joined = .ok whole ∧
        parse ⟨true, 3⟩ none front = .ok first ∧ first.tree.statements.length = 1 ∧
        whole.tree.statements.length = 2 ∧
        whole.tree.statements = first.tree.statements ++
          (statementsInside 1 3 back).map (Stmt.shift (front.size + 1)) := by
  intro front back joined
  have text : joined.text = front.text ++ ";" ++ back.text := by decide +kernel
  have noSign : '#' ∉ front.text.toList := by decide +kernel
  have ended : ¬ EndsInComment front.text.toList := by
    rintro ⟨before, comment, split, -⟩
    exact noSign (by simp [split])
  have parens : Lexed.openParens front.text = 1 := by decide +kernel
  rcases semicolon_ends_statement text ended 3 with
    ⟨whole, first, second, parsed, firstParsed, secondParsed, statements, -⟩
  rw [parens] at statements
  have one : (foundStatements 3 front).length = 1 := by decide +kernel
  have inside : (statementsInside 1 3 back).length = 1 := by decide +kernel
  have found : first.tree.statements = foundStatements 3 front :=
    congrArg (·.tree.statements) (Except.ok.inj (firstParsed.symm.trans (parse_recovering 3 front)))
  refine ⟨text, ended, parens, whole, first, parsed, firstParsed, ?_, ?_, statements⟩
  · rw [found, one]
  · rw [statements, found, List.length_append, List.length_map, one, inside]

/-- A semicolon closes no parenthesis, so the two lines behind it are not two statements. -/
theorem semicolon_closes_no_parens :
    let front : SourceFile := ⟨"a.st", "("⟩
    let back : SourceFile := ⟨"a.st", "1\n2"⟩
    let joined : SourceFile := ⟨"a.st", "(;1\n2"⟩
    joined.text = front.text ++ ";" ++ back.text ∧ ¬ EndsInComment front.text.toList ∧
      ∃ whole first second,
        parse ⟨true, 256⟩ none joined = .ok whole ∧
        parse ⟨true, 256⟩ none front = .ok first ∧
        parse ⟨true, 256⟩ none back = .ok second ∧
        whole.tree.statements ≠
          first.tree.statements ++ second.tree.statements.map (Stmt.shift (front.size + 1)) := by
  intro front back joined
  have noSign : '#' ∉ front.text.toList := by decide +kernel
  refine ⟨by decide +kernel, ?_, _, _, _, parse_recovering 256 joined,
    parse_recovering 256 front, parse_recovering 256 back, ?_⟩
  · rintro ⟨before, comment, split, -⟩
    exact noSign (by simp [split])
  · change foundStatements 256 joined ≠ foundStatements 256 front ++
      (foundStatements 256 back).map (Stmt.shift (front.size + 1))
    decide +kernel

end StagePipeline.Program
