import StagePipeline.Proofs.Lexemes
import StagePipeline.Proofs.Recovery

/-!
# A text further to the right

A text that stands behind another is cut into the same lexemes as on its own, and the
same statements and errors are read from it; only the spans lie further to the right.
Moving is first defined for trees, errors and tokens.  A reading moves with its tokens
because the spans of a tree are joined from theirs, and joining respects moving.
-/

namespace StagePipeline

theorem Span.shift_join (distance : Nat) (left right : Span) :
    (left.join right).shift distance = (left.shift distance).join (right.shift distance) := by
  simp only [Span.shift, Span.join, Nat.add_min_add_right, Nat.add_max_add_right]

namespace Program

open Text

/-! ### Trees -/

/-- The name with its span moved to the right. -/
def Ident.shift (distance : Nat) (ident : Ident) : Ident :=
  { ident with span := ident.span.shift distance }

/-- The expression with all its spans moved to the right. -/
def Expr.shift (distance : Nat) : Expr → Expr
  | .number value span => .number value (span.shift distance)
  | .name ident => .name (ident.shift distance)
  | .negation operand span => .negation (operand.shift distance) (span.shift distance)
  | .binary op left right span =>
    .binary op (left.shift distance) (right.shift distance) (span.shift distance)
  | .group inner span => .group (inner.shift distance) (span.shift distance)

/-- The statement with all its spans moved to the right. -/
def Stmt.shift (distance : Nat) : Stmt → Stmt
  | .binding name value span =>
    .binding (name.shift distance) (value.shift distance) (span.shift distance)
  | .bare expr => .bare (expr.shift distance)

/-- The second span is the first one, moved to the right. -/
def ShiftedBy (distance : Nat) (span moved : Span) : Prop :=
  moved = span.shift distance

theorem JoinRespecting.shiftedBy (distance : Nat) : JoinRespecting (ShiftedBy distance) where
  join starts stops := by rw [ShiftedBy, starts, stops, Span.shift_join]

theorem Expr.Alike.eq_shift {distance : Nat} {expr moved : Expr}
    (alike : expr.Alike (ShiftedBy distance) moved) : moved = expr.shift distance := by
  induction alike with
  | number value places => rw [places, Expr.shift]
  | name name places => rw [places, Expr.shift, Ident.shift]
  | negation operands places inductive_hypothesis => rw [places, inductive_hypothesis, Expr.shift]
  | binary op firsts seconds places firstMoved secondMoved =>
    rw [places, firstMoved, secondMoved, Expr.shift]
  | group inners places inductive_hypothesis => rw [places, inductive_hypothesis, Expr.shift]

theorem Stmt.Alike.eq_shift {distance : Nat} {statement moved : Stmt}
    (alike : statement.Alike (ShiftedBy distance) moved) : moved = statement.shift distance := by
  cases alike with
  | bare values => rw [values.eq_shift, Stmt.shift]
  | binding name names values places =>
    rw [names, values.eq_shift, places, Stmt.shift, Ident.shift]

/-! ### Errors -/

namespace SyntaxError

/-- The error with its span, if it has one, moved to the right. -/
def shift (distance : Nat) : SyntaxError → SyntaxError
  | .unexpectedChar found span => .unexpectedChar found (span.shift distance)
  | .unexpectedToken expected found span => .unexpectedToken expected found (span.shift distance)
  | .integerOverflow literal span => .integerOverflow literal (span.shift distance)
  | .unclosedParen span => .unclosedParen (span.shift distance)
  | .tooDeep limit span => .tooDeep limit (span.shift distance)
  | .invalid message span => .invalid message (span.shift distance)
  | .interrupted reason => .interrupted reason

theorem kind_shift (distance : Nat) (error : SyntaxError) :
    (error.shift distance).kind = error.kind := by
  cases error <;> rfl

theorem offset?_shift (distance : Nat) (error : SyntaxError) :
    (error.shift distance).offset? = error.offset?.map (· + distance) := by
  cases error <;> rfl

theorem Before.shift {left right : SyntaxError} (before : left.Before right) (distance : Nat) :
    (left.shift distance).Before (right.shift distance) := by
  rcases before with ⟨first, second, leftOffset, rightOffset, less⟩
  refine ⟨first + distance, second + distance, ?_, ?_, Nat.add_lt_add_right less distance⟩
  · rw [offset?_shift, leftOffset, Option.map_some]
  · rw [offset?_shift, rightOffset, Option.map_some]

theorem Alike.eq_shift {distance : Nat} {error moved : SyntaxError}
    (alike : error.Alike (ShiftedBy distance) moved) : moved = error.shift distance := by
  cases alike with
  | unexpectedToken expected found places => rw [places, shift]
  | unclosedParen places => rw [places, shift]
  | tooDeep limit places => rw [places, shift]

end SyntaxError

/-! ### Tokens -/

/-- The token moved to the right. -/
def Token.shift (distance : Nat) (token : Token) : Token :=
  { token with span := token.span.shift distance }

/-- The piece of a text that stands further to the right. -/
def Piece.shift (distance : Nat) (piece : Piece) : Piece :=
  { piece with start := piece.start + distance }

namespace Piece

theorem span_shift (distance : Nat) (piece : Piece) :
    (piece.shift distance).span = piece.span.shift distance := by
  simp only [span, shift, Span.ofLength, Span.shift, Nat.add_right_comm]

theorem token?_shift (distance : Nat) (piece : Piece) :
    (piece.shift distance).token? = piece.token?.map (Token.shift distance) := by
  rw [token?, span_shift]
  rcases piece with ⟨lexeme, start, characters⟩
  cases lexeme <;> rfl

theorem error?_shift (distance : Nat) (piece : Piece) :
    (piece.shift distance).error? = piece.error?.map (SyntaxError.shift distance) := by
  rw [error?, span_shift]
  rcases piece with ⟨lexeme, start, characters⟩
  cases lexeme <;> rfl

end Piece

namespace Lexed

theorem pieces_add (nesting offset distance : Nat) (text : List Char) :
    pieces nesting (offset + distance) text =
      (pieces nesting offset text).map (Piece.shift distance) := by
  fun_induction pieces nesting offset text with
  | case1 => rw [pieces]; rfl
  | case2 nesting offset first rest lexeme more found piece inductive_hypothesis =>
    have further : (piece.shift distance).span.stop = piece.span.stop + distance := by
      simp only [Piece.span_stop, Piece.shift]
      omega
    rw [pieces]
    simp only [found, List.map_cons]
    rw [← inductive_hypothesis, ← further]
    rfl

/-- The tokens and the errors moved to the right. -/
def shift (distance : Nat) (lexed : Lexed) : Lexed where
  tokens := lexed.tokens.map (Token.shift distance)
  errors := lexed.errors.map (SyntaxError.shift distance)

theorem scan_add (nesting distance : Nat) (text : List Char) :
    scan nesting distance text = (scan nesting 0 text).shift distance := by
  have further := pieces_add nesting 0 distance text
  rw [Nat.zero_add] at further
  rw [scan_eq_pieces, scan_eq_pieces, further]
  simp only [shift, List.filterMap_map, Function.comp_def, Piece.token?_shift,
    Piece.error?_shift, List.map_filterMap]

end Lexed

/-! ### Trees that spell moved tokens -/

theorem Expr.span_shift (distance : Nat) (expr : Expr) :
    (expr.shift distance).span = expr.span.shift distance := by
  cases expr <;> rfl

theorem Expr.erase_shift (distance : Nat) (expr : Expr) :
    (expr.shift distance).erase = expr.erase := by
  induction expr with
  | number value span => rfl
  | name ident => rfl
  | negation operand span inductive_hypothesis => rw [shift, erase, inductive_hypothesis, erase]
  | binary op left right span leftSame rightSame => rw [shift, erase, leftSame, rightSame, erase]
  | group inner span inductive_hypothesis => rw [shift, erase, inductive_hypothesis, erase]

theorem Stmt.erase_shift (distance : Nat) (statement : Stmt) :
    (statement.shift distance).erase = statement.erase := by
  cases statement with
  | bare expr => rw [shift, erase, Expr.erase_shift, erase]
  | binding name value span => rw [shift, erase, Expr.erase_shift, erase, Ident.shift]

theorem Expr.Spells.shift {expr : Expr} {tokens : List Token} (spells : expr.Spells tokens)
    (distance : Nat) : (expr.shift distance).Spells (tokens.map (Token.shift distance)) := by
  induction spells with
  | number value span => exact .number value _
  | name name span => exact .name name _
  | negation sign inner inductive_hypothesis =>
    rw [Expr.shift, Span.shift_join, ← Expr.span_shift]
    exact .negation _ inductive_hypothesis
  | binary op sign first second firstMoved secondMoved =>
    rw [Expr.shift, Span.shift_join, ← Expr.span_shift, ← Expr.span_shift, List.map_append]
    exact .binary op _ firstMoved secondMoved
  | group opening closing within inductive_hypothesis =>
    rw [Expr.shift, Span.shift_join, List.map_cons, List.map_append]
    exact .group _ _ inductive_hypothesis

theorem Stmt.Spells.shift {statement : Stmt} {tokens : List Token}
    (spells : statement.Spells tokens) (distance : Nat) :
    (statement.shift distance).Spells (tokens.map (Token.shift distance)) := by
  cases spells with
  | bare value => exact .bare (value.shift distance)
  | binding name start place sign bound =>
    rw [Stmt.shift, Span.shift_join, ← Expr.span_shift]
    exact .binding name _ _ _ (bound.shift distance)

/-- What fits moved tokens has itself been moved. -/
theorem Stmt.Fits.exists_shift {bounds others : Bounds} {statement : Stmt} {tokens : List Token}
    {distance : Nat} (fits : statement.Fits bounds (tokens.map (Token.shift distance)))
    (limits : bounds.limit = others.limit) :
    ∃ moved : Stmt, moved.Fits others tokens ∧ moved.shift distance = statement := by
  have kinds : tokens.map (·.kind) = statement.yield := by
    rw [← fits.spells.yield_eq, List.map_map]
    rfl
  rcases statement.exists_spells_of_yield kinds with ⟨placed, spells, same⟩
  have nested : placed.LeftNested := by
    rw [← leftNested_erase, same, leftNested_erase]
    exact fits.nested
  have shallow : placed.expr.need ≤ others.limit := by
    rw [← Expr.need_erase, ← expr_erase, same, expr_erase, Expr.need_erase, ← limits]
    exact fits.shallow
  have movedNested : (placed.shift distance).LeftNested := by
    rw [← leftNested_erase, erase_shift, leftNested_erase]
    exact nested
  refine ⟨placed, ⟨spells, nested, shallow⟩, ?_⟩
  exact eq_of_spells movedNested fits.nested (spells.shift distance) fits.spells

/-! ### Runs -/

/-- The run with its tokens changed, but not their kinds, and all that follows it as well. -/
def Run.map (change : Token → Token) (keeps : ∀ token, (change token).kind = token.kind)
    (run : Run) : Run where
  body := run.body.map change
  after := run.after.map change
  nonempty := by simpa using run.nonempty
  inside := List.forall_mem_map.2 fun token member => by rw [keeps]; exact run.inside token member
  ends := by
    have ends := run.ends
    cases found : run.after with
    | nil => rfl
    | cons token rest =>
      rw [found] at ends
      rw [List.map_cons, endsStatement, keeps]
      exact ends

theorem Run.eq_of {run other : Run} (bodies : run.body = other.body)
    (afters : run.after = other.after) : run = other := by
  cases run
  cases other
  cases bodies
  cases afters
  rfl

/-- Which tokens are a run depends on their kinds alone. -/
theorem runs_map {change : Token → Token} (keeps : ∀ token, (change token).kind = token.kind)
    (tokens : List Token) : runs (tokens.map change) = (runs tokens).map (Run.map change keeps) := by
  have same : ((!·.kind.isSeparator) : Token → Bool) ∘ change = (!·.kind.isSeparator) := by
    funext token
    rw [Function.comp_apply, keeps]
  induction tokens using runs.induct with
  | case1 => simp
  | case2 token rest opens inductive_hypothesis =>
    have changed : (change token).kind.isSeparator = false := by rw [keeps]; exact opens
    have others : fromSeparator (rest.map change) = (fromSeparator rest).map change := by
      rw [fromSeparator, List.dropWhile_map, same, fromSeparator]
    have first : Run.startingWith (change token) changed (rest.map change) =
        (Run.startingWith token opens rest).map change keeps := by
      refine Run.eq_of (congrArg (change token :: ·) ?_) others
      rw [List.takeWhile_map, same]
    rw [List.map_cons, runs_opening changed, runs_opening opens, first, others,
      inductive_hypothesis, List.map_cons]
  | case3 token rest separated inductive_hypothesis =>
    have separates : token.kind.isSeparator = true := by simpa using separated
    have changed : (change token).kind.isSeparator = true := by rw [keeps]; exact separates
    rw [List.map_cons, runs_separator changed, runs_separator separates]
    exact inductive_hypothesis

theorem endsStatement_map_shift (distance : Nat) (tokens : List Token) :
    endsStatement (tokens.map (Token.shift distance)) = endsStatement tokens := by
  cases tokens <;> rfl

/-- The run moved to the right, with all that follows it. -/
def Run.shift (distance : Nat) (run : Run) : Run where
  body := run.body.map (Token.shift distance)
  after := run.after.map (Token.shift distance)
  nonempty := by simpa using run.nonempty
  inside := List.forall_mem_map.2 run.inside
  ends := (endsStatement_map_shift distance run.after).trans run.ends

theorem runs_map_shift (distance : Nat) (tokens : List Token) :
    runs (tokens.map (Token.shift distance)) = (runs tokens).map (Run.shift distance) := by
  have keeps : ∀ token : Token, (token.shift distance).kind = token.kind := fun _ => rfl
  exact runs_map keeps tokens

/-- Tokens are read further to the right as they are read where they stand. -/
theorem alikeRuns_map_shift (distance finish : Nat) (tokens : List Token) :
    AlikeRuns (ShiftedBy distance) finish (finish + distance) tokens
      (tokens.map (Token.shift distance)) := by
  induction tokens with
  | nil => exact .finish rfl
  | cons token rest inductive_hypothesis => exact .token token.kind rfl inductive_hypothesis

/-- What a run gives further to the right is what it gives where it stands, moved. -/
theorem Run.result_shift (distance limit finish : Nat) (run : Run) :
    (run.shift distance).result ⟨limit, finish + distance⟩ =
      ((run.result ⟨limit, finish⟩).map (Stmt.shift distance)).mapError
        (SyntaxError.shift distance) := by
  have same : AlikeBounds (ShiftedBy distance) ⟨limit, finish⟩ ⟨limit, finish + distance⟩ :=
    ⟨rfl, .shiftedBy distance⟩
  have alike := readStatement_alike same
    (alikeRuns_map_shift distance finish (run.body ++ run.after))
  rw [List.map_append] at alike
  rw [result_eq, result_eq]
  change AlikeOutcomes _ _ _ _ _
    (Bounds.readStatement _ ((run.shift distance).body ++ (run.shift distance).after)) at alike
  generalize Bounds.readStatement _ (run.body ++ run.after) = here at alike ⊢
  generalize Bounds.readStatement _ ((run.shift distance).body ++ (run.shift distance).after) =
    there at alike ⊢
  cases alike with
  | ok values rests => exact congrArg Except.ok values.eq_shift
  | error depth errors rests => exact congrArg Except.error errors.eq_shift

theorem Run.statement?_shift (distance limit finish : Nat) (run : Run) :
    (run.shift distance).statement? ⟨limit, finish + distance⟩ =
      (run.statement? ⟨limit, finish⟩).map (Stmt.shift distance) := by
  rw [statement?, statement?, result_shift]
  cases run.result ⟨limit, finish⟩ <;> rfl

theorem Run.error?_shift (distance limit finish : Nat) (run : Run) :
    (run.shift distance).error? ⟨limit, finish + distance⟩ =
      (run.error? ⟨limit, finish⟩).map (SyntaxError.shift distance) := by
  rw [error?, error?, result_shift]
  cases run.result ⟨limit, finish⟩ <;> rfl

end Program

end StagePipeline
