import StagePipeline.Proofs.Runs

/-!
# Parsing a text run by run

Both modes of the parser are given here as functions of the errors of the
lexer and of the runs of the tokens.  A recovering parse keeps what can be read
from each run and one error for each of the others; a strict parse fails with
the first of the same errors, those of the lexer before those of the runs.
-/

namespace StagePipeline.Program

/-- The bounds within which the statements of a source are read. -/
def Bounds.ofSource (maxDepth : Nat) (source : SourceFile) : Bounds where
  limit := maxDepth
  finish := source.size

/-- The statements that can be read from the runs of a source. -/
def foundStatements (maxDepth : Nat) (source : SourceFile) : List Stmt :=
  (runs (Lexed.ofText source.text).tokens).filterMap
    (Run.statement? (.ofSource maxDepth source))

/-- One error for each run of a source that holds no statement. -/
def malformedRuns (maxDepth : Nat) (source : SourceFile) : List SyntaxError :=
  (runs (Lexed.ofText source.text).tokens).filterMap
    (Run.error? (.ofSource maxDepth source))

/-- An error of the lexer is what a strict parse fails with. -/
theorem parse_strict_of_lexer_error {maxDepth : Nat} {source : SourceFile}
    {error : SyntaxError} {rest : List SyntaxError}
    (found : (Lexed.ofText source.text).errors = error :: rest) :
    parse ⟨false, maxDepth⟩ none source = .error error := by
  simp only [parse, Parser.parse, Lexed.ofText?, found]

/-- A parse that the lexer does not end is a reading of all the tokens. -/
theorem parse_eq_reading {recover : Bool} {source : SourceFile}
    (goesOn : recover = true ∨ (Lexed.ofText source.text).errors = []) (maxDepth : Nat) :
    parse ⟨recover, maxDepth⟩ none source =
      let reading := Reading.ofTokens (.ofSource maxDepth source) recover 0
        (Lexed.ofText source.text).tokens
      match reading.failure with
      | some error => .error error
      | none => .ok ⟨⟨reading.statements⟩,
          ((Lexed.ofText source.text).errors ++ reading.errors).mergeSort
            SyntaxError.notAfter⟩ := by
  simp only [parse, Parser.parse, Lexed.ofText?, Parser.bounds]
  change _ = match (Reading.ofTokens ⟨maxDepth, source.size⟩ recover 0 _).failure with
    | some error => _
    | none => _
  cases recover with
  | true =>
    dsimp only
    cases (Reading.ofTokens ⟨maxDepth, source.size⟩ true 0
      (Lexed.ofText source.text).tokens).failure <;> rfl
  | false =>
    have clean : (Lexed.ofText source.text).errors = [] := by simpa using goesOn
    simp only [clean]
    cases (Reading.ofTokens ⟨maxDepth, source.size⟩ false 0
      (Lexed.ofText source.text).tokens).failure <;> rfl

/-- A recovering parse always succeeds, with all that its runs hold. -/
theorem parse_recovering (maxDepth : Nat) (source : SourceFile) :
    parse ⟨true, maxDepth⟩ none source =
      .ok ⟨⟨foundStatements maxDepth source⟩,
        ((Lexed.ofText source.text).errors ++ malformedRuns maxDepth source).mergeSort
          SyntaxError.notAfter⟩ := by
  rcases Reading.ofTokens_recovering (.ofSource maxDepth source) 0
    (Lexed.ofText source.text).tokens with ⟨statements, errors, failure⟩
  rw [parse_eq_reading (Or.inl rfl)]
  simp only [failure, statements, errors]
  rfl

/-- What a reading finds does not depend on the depth left by what came before. -/
theorem Reading.ofTokens_eq_of_depth (bounds : Bounds) (recover : Bool) (depth other : Nat)
    (input : List Token) :
    ofTokens bounds recover depth input = ofTokens bounds recover other input ∨
      ofTokens bounds recover depth input = { depth := depth } ∧
        ofTokens bounds recover other input = { depth := other } := by
  cases here : afterSeparators input with
  | nil => exact Or.inr ⟨ofTokens_of_nil here, ofTokens_of_nil here⟩
  | cons first rest =>
    left
    cases read : statement bounds (first :: rest) with
    | ok taken =>
      rw [ofTokens_of_ok here (List.cons_ne_nil _ _) read,
        ofTokens_of_ok here (List.cons_ne_nil _ _) read]
    | error stuck =>
      rw [ofTokens_of_error here (List.cons_ne_nil _ _) read,
        ofTokens_of_error here (List.cons_ne_nil _ _) read]

/-- Whatever earlier runs have left behind, a parser answers as a fresh one does. -/
theorem Parser.parse_fst (parser : Parser) :
    parser.parse.1 = Program.parse parser.options parser.signal parser.source := by
  simp only [Program.parse, Parser.parse, Parser.bounds]
  cases Lexed.ofText? parser.signal parser.source.text with
  | error reason => rfl
  | ok lexed =>
    dsimp only
    split
    · rfl
    · rcases Reading.ofTokens_eq_of_depth ⟨parser.options.maxDepth, parser.source.size⟩
        parser.options.recover parser.depth 0 lexed.tokens with same | ⟨here, fresh⟩
      · simp only [same]
      · simp only [here, fresh]

/-- Without errors of the lexer a strict parse fails with the first malformed run. -/
theorem parse_strict_of_lexed {source : SourceFile}
    (clean : (Lexed.ofText source.text).errors = []) (maxDepth : Nat) :
    parse ⟨false, maxDepth⟩ none source =
      match malformedRuns maxDepth source with
      | error :: _ => .error error
      | [] => .ok ⟨⟨foundStatements maxDepth source⟩, []⟩ := by
  rcases Reading.ofTokens_strict (.ofSource maxDepth source) 0
    (Lexed.ofText source.text).tokens with ⟨failure, errors, statements⟩
  rw [parse_eq_reading (Or.inr clean)]
  simp only [failure, errors, clean]
  change (match (malformedRuns maxDepth source).head? with
    | some error => Except.error error
    | none => _) = _
  cases found : malformedRuns maxDepth source with
  | nil => simp [statements found, foundStatements]
  | cons error rest => rfl

theorem malformedRuns_eq_nil_iff {maxDepth : Nat} {source : SourceFile} :
    malformedRuns maxDepth source = [] ↔
      ∀ run ∈ runs (Lexed.ofText source.text).tokens,
        run.error? (.ofSource maxDepth source) = none :=
  List.filterMap_eq_nil_iff

/-- Without errors of the lexer a strict parse succeeds exactly if no run is malformed. -/
theorem parse_strict_eq_ok_iff {source : SourceFile}
    (clean : (Lexed.ofText source.text).errors = []) {maxDepth : Nat} {output : ParseOutput} :
    parse ⟨false, maxDepth⟩ none source = .ok output ↔
      malformedRuns maxDepth source = [] ∧ output = ⟨⟨foundStatements maxDepth source⟩, []⟩ := by
  rw [parse_strict_of_lexed clean]
  cases malformedRuns maxDepth source with
  | nil => simp [eq_comm]
  | cons error rest => simp

/-- A signal stops every parse but that of a text without characters. -/
theorem parse_signalled (options : ParserOptions) (reason : Interrupt) (source : SourceFile) :
    parse options (some reason) source =
      if source.text.isEmpty then .ok {} else .error (.interrupted reason) := by
  simp only [parse, Parser.parse, Lexed.ofText?]
  by_cases empty : source.text.isEmpty = true
  · rw [if_pos empty, if_pos empty]
    have nothing : ∀ bounds recover, Reading.ofTokens bounds recover 0 [] = {} :=
      fun _ _ => Reading.ofTokens_of_nil rfl
    cases options.recover <;> simp [nothing]
  · rw [if_neg empty, if_neg empty]

theorem fits_of_mem_foundStatements {maxDepth : Nat} {source : SourceFile} {statement : Stmt}
    (member : statement ∈ foundStatements maxDepth source) :
    ∃ run ∈ runs (Lexed.ofText source.text).tokens,
      statement.Fits (.ofSource maxDepth source) run.body := by
  rcases List.mem_filterMap.1 member with ⟨run, inRuns, read⟩
  exact ⟨run, inRuns, Run.statement?_eq_some_iff.1 read⟩

/-- Whatever the options and the signal, a parse keeps statements that can be read from runs. -/
theorem statements_sublist_of_parse {options : ParserOptions} {signal : Option Interrupt}
    {source : SourceFile} {output : ParseOutput}
    (parsed : parse options signal source = .ok output) :
    output.tree.statements.Sublist (foundStatements options.maxDepth source) := by
  rcases options with ⟨recover, maxDepth⟩
  cases signal with
  | some reason =>
    rw [parse_signalled] at parsed
    split at parsed
    · rcases Except.ok.inj parsed with rfl
      exact List.nil_sublist _
    · exact nomatch parsed
  | none =>
    cases recover with
    | true =>
      rw [parse_recovering] at parsed
      rcases Except.ok.inj parsed with rfl
      exact List.Sublist.refl _
    | false =>
      cases clean : (Lexed.ofText source.text).errors with
      | nil =>
        rcases (parse_strict_eq_ok_iff clean).1 parsed with ⟨_, rfl⟩
        exact List.Sublist.refl _
      | cons error rest =>
        rw [parse_strict_of_lexer_error clean] at parsed
        exact nomatch parsed

theorem fits_of_parse {options : ParserOptions} {signal : Option Interrupt} {source : SourceFile}
    {output : ParseOutput} (parsed : parse options signal source = .ok output) :
    ∀ statement ∈ output.tree.statements, ∃ run ∈ runs (Lexed.ofText source.text).tokens,
      statement.Fits (.ofSource options.maxDepth source) run.body :=
  fun _ member => fits_of_mem_foundStatements ((statements_sublist_of_parse parsed).subset member)

/--
Recovery is local to a statement.  A recovering parse reads the nonempty pieces
between the separators, each from its first token and none of them twice; it
keeps the statements of those that hold one and one error for each of the
others.  What a piece gives depends on its own tokens and on the token that
ends it, and on nothing else.
-/
theorem recovering_parse_reads_runs_apart (maxDepth : Nat) (source : SourceFile) :
    let tokens := (Lexed.ofText source.text).tokens
    let bounds := Bounds.ofSource maxDepth source
    (∃ output, parse ⟨true, maxDepth⟩ none source = .ok output ∧
      output.tree.statements = (runs tokens).filterMap (Run.statement? bounds) ∧
      output.errors = ((Lexed.ofText source.text).errors ++
        (runs tokens).filterMap (Run.error? bounds)).mergeSort SyntaxError.notAfter) ∧
      (runs tokens).map Run.body =
        (tokens.splitOnP (·.kind.isSeparator)).filter (· ≠ []) ∧
      (∀ run ∈ runs tokens, run.body ++ run.after <:+ tokens) ∧
      (runs tokens).Pairwise (fun earlier later => later.body ++ later.after <:+ earlier.after) ∧
      ∀ run ∈ runs tokens, ∀ other : Run, other.body = run.body →
        other.after.head? = run.after.head? → other.result bounds = run.result bounds := by
  intro tokens bounds
  refine ⟨⟨_, parse_recovering maxDepth source, rfl, rfl⟩, map_body_runs tokens,
    fun run member => suffix_of_mem_runs member, pairwise_runs tokens, ?_⟩
  intro run _ other bodies heads
  exact Run.result_eq_of_body_eq bodies heads

end StagePipeline.Program
