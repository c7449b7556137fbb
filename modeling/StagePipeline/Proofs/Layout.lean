import Mathlib.Data.List.Forall2
import StagePipeline.Proofs.FirstError
import StagePipeline.Proofs.ShiftedText

/-!
# Layout

Two texts that the lexer cuts into tokens of the same kinds differ in their layout alone: in
blanks, in comments and in line ends inside parentheses.  A reading looks at nothing but the
kinds and takes over the spans, so what a parse gives is the same for both texts once the
spans are forgotten.  The errors need no more care than the trees, since the order in which
a parse gives them is that of the runs, whatever their offsets are.
-/

namespace StagePipeline.Program

/-! ### Forgetting spans -/

/-- The second span is the one that stands for all spans. -/
def Forgotten (_ forgotten : Span) : Prop :=
  forgotten = Span.empty 0

theorem JoinRespecting.forgotten : JoinRespecting Forgotten where
  join starts stops := by
    rw [starts, stops]
    rfl

theorem Expr.Alike.eq_erase {expr other : Expr} (alike : expr.Alike Forgotten other) :
    other = expr.erase := by
  induction alike with
  | number value places => rw [places, Expr.erase]
  | name name places => rw [places, Expr.erase]
  | negation operands places inductive_hypothesis => rw [places, inductive_hypothesis, Expr.erase]
  | binary op firsts seconds places firstSame secondSame =>
    rw [places, firstSame, secondSame, Expr.erase]
  | group inners places inductive_hypothesis => rw [places, inductive_hypothesis, Expr.erase]

theorem Stmt.Alike.eq_erase {statement other : Stmt}
    (alike : statement.Alike Forgotten other) : other = statement.erase := by
  cases alike with
  | bare values => rw [values.eq_erase, Stmt.erase]
  | binding name names values places => rw [names, values.eq_erase, places, Stmt.erase]

namespace SyntaxError

/-- The error with its span, if it has one, forgotten. -/
def erase : SyntaxError → SyntaxError
  | .unexpectedChar found _ => .unexpectedChar found (Span.empty 0)
  | .unexpectedToken expected found _ => .unexpectedToken expected found (Span.empty 0)
  | .integerOverflow literal _ => .integerOverflow literal (Span.empty 0)
  | .unclosedParen _ => .unclosedParen (Span.empty 0)
  | .tooDeep limit _ => .tooDeep limit (Span.empty 0)
  | .invalid message _ => .invalid message (Span.empty 0)
  | .interrupted reason => .interrupted reason

theorem Alike.eq_erase {error other : SyntaxError} (alike : error.Alike Forgotten other) :
    other = error.erase := by
  cases alike with
  | unexpectedToken expected found places => rw [places, erase]
  | unclosedParen places => rw [places, erase]
  | tooDeep limit places => rw [places, erase]

/-- The two errors are of one variant and have one message. -/
structure AgreesWith (error other : SyntaxError) : Prop where
  kind : error.kind = other.kind
  message : error.message = other.message

/-- Neither the variant of an error nor its message depends on its span. -/
theorem agreesWith_erase (error : SyntaxError) : error.erase.AgreesWith error := by
  cases error <;> exact ⟨rfl, rfl⟩

theorem AgreesWith.of_erase {error other : SyntaxError} (same : error.erase = other.erase) :
    error.AgreesWith other where
  kind := by rw [← error.agreesWith_erase.kind, same, other.agreesWith_erase.kind]
  message := by rw [← error.agreesWith_erase.message, same, other.agreesWith_erase.message]

end SyntaxError

/-- The token with its span forgotten. -/
def Token.erase (token : Token) : Token :=
  ⟨token.kind, Span.empty 0⟩

theorem Token.kind_erase (token : Token) : token.erase.kind = token.kind :=
  rfl

/-- Tokens without spans are their kinds. -/
theorem map_erase_eq_of_kinds {tokens others : List Token}
    (same : tokens.map (·.kind) = others.map (·.kind)) :
    tokens.map Token.erase = others.map Token.erase := by
  have fromKinds : ∀ list : List Token,
      list.map Token.erase = (list.map (·.kind)).map fun kind => ⟨kind, Span.empty 0⟩ := by
    intro list
    rw [List.map_map]
    rfl
  rw [fromKinds, fromKinds, same]

/-! ### Readings without spans -/

theorem alikeRuns_map_erase (finish : Nat) (tokens : List Token) :
    AlikeRuns Forgotten finish 0 tokens (tokens.map Token.erase) := by
  induction tokens with
  | nil => exact .finish rfl
  | cons token rest inductive_hypothesis => exact .token token.kind rfl inductive_hypothesis

namespace Run

/-- The run with all spans forgotten. -/
def erase (run : Run) : Run :=
  run.map Token.erase Token.kind_erase

/-- What a run gives without spans is what it gives, with its spans forgotten. -/
theorem result_erase (limit finish : Nat) (run : Run) :
    run.erase.result ⟨limit, 0⟩ =
      ((run.result ⟨limit, finish⟩).map Stmt.erase).mapError SyntaxError.erase := by
  have same : AlikeBounds Forgotten ⟨limit, finish⟩ ⟨limit, 0⟩ := ⟨rfl, .forgotten⟩
  have alike := readStatement_alike same (alikeRuns_map_erase finish (run.body ++ run.after))
  rw [List.map_append] at alike
  rw [result_eq, result_eq]
  change AlikeOutcomes _ _ _ _ _
    (Bounds.readStatement _ (run.erase.body ++ run.erase.after)) at alike
  generalize Bounds.readStatement _ (run.body ++ run.after) = here at alike ⊢
  generalize Bounds.readStatement _ (run.erase.body ++ run.erase.after) = there at alike ⊢
  cases alike with
  | ok values rests => exact congrArg Except.ok values.eq_erase
  | error depth errors rests => exact congrArg Except.error errors.eq_erase

theorem statement?_erase (limit finish : Nat) (run : Run) :
    run.erase.statement? ⟨limit, 0⟩ = (run.statement? ⟨limit, finish⟩).map Stmt.erase := by
  rw [statement?, statement?, result_erase limit finish]
  cases run.result ⟨limit, finish⟩ <;> rfl

theorem error?_erase (limit finish : Nat) (run : Run) :
    run.erase.error? ⟨limit, 0⟩ = (run.error? ⟨limit, finish⟩).map SyntaxError.erase := by
  rw [error?, error?, result_erase limit finish]
  cases run.result ⟨limit, finish⟩ <;> rfl

end Run

/-! ### Texts with the same tokens -/

section SameKinds

variable {source other : SourceFile}
  (kinds : (Lexed.ofText source.text).tokens.map (·.kind) =
    (Lexed.ofText other.text).tokens.map (·.kind))

include kinds

theorem runs_erase_eq :
    (runs (Lexed.ofText source.text).tokens).map Run.erase =
      (runs (Lexed.ofText other.text).tokens).map Run.erase := by
  have same := congrArg runs (map_erase_eq_of_kinds kinds)
  rw [runs_map Token.kind_erase, runs_map Token.kind_erase] at same
  exact same

theorem foundStatements_erase_eq (maxDepth : Nat) :
    (foundStatements maxDepth source).map Stmt.erase =
      (foundStatements maxDepth other).map Stmt.erase := by
  have forgotten : ∀ source : SourceFile, (foundStatements maxDepth source).map Stmt.erase =
      ((runs (Lexed.ofText source.text).tokens).map Run.erase).filterMap
        (Run.statement? ⟨maxDepth, 0⟩) := by
    intro source
    rw [foundStatements, List.map_filterMap, List.filterMap_map]
    exact congrArg (List.filterMap · _)
      (funext fun run => (run.statement?_erase maxDepth source.size).symm)
  rw [forgotten, forgotten, runs_erase_eq kinds]

theorem malformedRuns_erase_eq (maxDepth : Nat) :
    (malformedRuns maxDepth source).map SyntaxError.erase =
      (malformedRuns maxDepth other).map SyntaxError.erase := by
  have forgotten : ∀ source : SourceFile, (malformedRuns maxDepth source).map SyntaxError.erase =
      ((runs (Lexed.ofText source.text).tokens).map Run.erase).filterMap
        (Run.error? ⟨maxDepth, 0⟩) := by
    intro source
    rw [malformedRuns, List.map_filterMap, List.filterMap_map]
    exact congrArg (List.filterMap · _)
      (funext fun run => (run.error?_erase maxDepth source.size).symm)
  rw [forgotten, forgotten, runs_erase_eq kinds]

theorem malformedRuns_agree (maxDepth : Nat) :
    List.Forall₂ SyntaxError.AgreesWith (malformedRuns maxDepth source)
      (malformedRuns maxDepth other) := by
  have same := malformedRuns_erase_eq kinds maxDepth
  rw [← List.forall₂_eq_eq_eq, List.forall₂_map_left_iff, List.forall₂_map_right_iff] at same
  exact same.imp fun _ _ => SyntaxError.AgreesWith.of_erase

end SameKinds

/-- Two answers of a parser that differ in their spans alone. -/
inductive SameBesidesSpans :
    Except SyntaxError ParseOutput → Except SyntaxError ParseOutput → Prop where
  | ok {output other : ParseOutput} (trees : output.tree.erase = other.tree.erase)
      (errors : List.Forall₂ SyntaxError.AgreesWith output.errors other.errors) :
      SameBesidesSpans (.ok output) (.ok other)
  | error {error other : SyntaxError} (agree : error.AgreesWith other) :
      SameBesidesSpans (.error error) (.error other)

/--
Layout does not matter.  If the lexer finds nothing wrong with two texts and cuts them into
tokens of the same kinds, then with any options they are parsed alike: either both parses
succeed, with trees that are equal once their spans are forgotten and with errors that agree
one by one in variant and message; or both fail with errors that agree so.
-/
theorem parse_eq_besides_layout {source other : SourceFile}
    (clean : (Lexed.ofText source.text).errors = [])
    (otherClean : (Lexed.ofText other.text).errors = [])
    (kinds : (Lexed.ofText source.text).tokens.map (·.kind) =
      (Lexed.ofText other.text).tokens.map (·.kind)) (options : ParserOptions) :
    SameBesidesSpans (parse options none source) (parse options none other) := by
  rcases options with ⟨recover, maxDepth⟩
  have trees : (⟨foundStatements maxDepth source⟩ : SyntaxTree).erase =
      (⟨foundStatements maxDepth other⟩ : SyntaxTree).erase :=
    congrArg SyntaxTree.mk (foundStatements_erase_eq kinds maxDepth)
  have errors := malformedRuns_agree kinds maxDepth
  cases recover with
  | true =>
    -- Each list is sorted by its own offsets, and comes from the runs in that order already.
    rw [parse_recovering, parse_recovering, clean, otherClean, List.nil_append, List.nil_append,
      mergeSort_of_before (pairwise_malformedRuns maxDepth source),
      mergeSort_of_before (pairwise_malformedRuns maxDepth other)]
    exact .ok trees errors
  | false =>
    rw [parse_strict_of_lexed clean, parse_strict_of_lexed otherClean]
    generalize malformedRuns maxDepth source = first at errors
    generalize malformedRuns maxDepth other = second at errors
    cases errors with
    | nil => exact .ok trees .nil
    | cons agree later => exact .error agree

/-- A sum over two lines with a comment and the same sum on one line, beside a lone sign. -/
theorem parse_eq_besides_layout_of_sums :
    let source : SourceFile := ⟨"a.st", "let x=(1+y);*"⟩
    let other : SourceFile := ⟨"b.st", "let x = ( 1 # one\n  + y );  * # no value"⟩
    (Lexed.ofText source.text).errors = [] ∧ (Lexed.ofText other.text).errors = [] ∧
      (Lexed.ofText source.text).tokens.map (·.kind) =
        (Lexed.ofText other.text).tokens.map (·.kind) ∧
      SameBesidesSpans (parse ⟨true, 2⟩ none source) (parse ⟨true, 2⟩ none other) ∧
      SameBesidesSpans (parse ⟨false, 2⟩ none source) (parse ⟨false, 2⟩ none other) := by
  intro source other
  have clean : (Lexed.ofText source.text).errors = [] := by decide +kernel
  have otherClean : (Lexed.ofText other.text).errors = [] := by decide +kernel
  have kinds : (Lexed.ofText source.text).tokens.map (·.kind) =
      (Lexed.ofText other.text).tokens.map (·.kind) := by decide +kernel
  exact ⟨clean, otherClean, kinds, parse_eq_besides_layout clean otherClean kinds ⟨true, 2⟩,
    parse_eq_besides_layout clean otherClean kinds ⟨false, 2⟩⟩

end StagePipeline.Program
