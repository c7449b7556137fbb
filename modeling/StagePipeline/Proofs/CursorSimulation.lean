import StagePipeline.Proofs.CursorProductions

/-!
# One parse after another

Two runs of the same step are compared, one from a cursor that earlier runs have left and
one from another cursor, whose signal answers from the first look on what that of the
first run answers from its next look on.  The second run may have more fuel.  Whatever
the first comes to, the second comes to as well: this is a relation between steps that
every way of putting them together keeps, so for the recursions it follows by induction
on the fuel.

How much the cursors have to agree depends on the step.  Within a statement everything
but the number of looks is the same; from statement to statement the depth may be what
an earlier statement left, since it is set before each of them; and while a text is
scanned, the array and the place in it may be left from an earlier text.
-/

namespace StagePipeline.Program

/-- The setup whose signal answers from the first look on what it answers after some looks. -/
def Setup.since (setup : Setup) (asked : Nat) : Setup :=
  { setup with signals := fun index => setup.signals (index + asked) }

@[simp]
theorem Setup.since_options (setup : Setup) (asked : Nat) :
    (setup.since asked).options = setup.options :=
  rfl

/-- The first cursor has asked the signal that many times more than the second. -/
def Cursor.Ahead (asked : Nat) (cursor start : Cursor) : Prop :=
  cursor.polls = start.polls + asked

/-- The cursors are at one place of one array, and their depths are in a relation. -/
structure Cursor.Alike (depths : Nat → Nat → Prop) (asked : Nat) (cursor start : Cursor) :
    Prop where
  marks : cursor.marks = start.marks
  position : cursor.position = start.position
  depth : depths cursor.depth start.depth
  polls : cursor.polls = start.polls + asked

namespace Cursor.Alike

variable {depths : Nat → Nat → Prop} {asked : Nat} {cursor start : Cursor}

theorem refl (cursor : Cursor) : cursor.Alike Eq 0 cursor :=
  ⟨rfl, rfl, rfl, rfl⟩

theorem eq (alike : cursor.Alike Eq 0 start) : cursor = start := by
  rcases cursor with ⟨marks, position, depth, polls⟩
  rcases alike with ⟨rfl, rfl, rfl, rfl⟩
  rfl

theorem weaken (alike : cursor.Alike Eq asked start) (same : ∀ depth, depths depth depth) :
    cursor.Alike depths asked start :=
  ⟨alike.marks, alike.position, alike.depth ▸ same cursor.depth, alike.polls⟩

theorem polled (alike : cursor.Alike depths asked start) :
    cursor.polled.Alike depths asked start.polled :=
  ⟨alike.marks, alike.position, alike.depth,
    (congrArg (· + 1) alike.polls).trans (Nat.add_right_comm _ _ _)⟩

theorem next (alike : cursor.Alike depths asked start) :
    cursor.next.Alike depths asked start.next :=
  ⟨alike.marks, congrArg (· + 1) alike.position, alike.depth, alike.polls⟩

theorem atDepth (alike : cursor.Alike depths asked start) {further : Nat → Nat → Prop}
    {depth other : Nat} (related : further depth other) :
    (cursor.atDepth depth).Alike further asked (start.atDepth other) :=
  ⟨alike.marks, alike.position, related, alike.polls⟩

end Cursor.Alike

namespace Checked

variable {α β : Type} {related : Cursor → Cursor → Prop} {step other : Checked α}
  {setup : Setup} {asked fuel more : Nat}

/-! ### Steps that come to the same -/

/-- Whatever the first step comes to, the second one comes to from a related cursor. -/
def Carries (related : Cursor → Cursor → Prop) (step other : Checked α) : Prop :=
  ∀ cursor start, related cursor start → ∀ result left, step cursor = some (result, left) →
    ∃ last, other start = some (result, last) ∧ related left last

namespace Carries

theorem exhausted (other : Checked α) : Carries related exhausted other := by
  intro cursor start alike result left run
  cases run

theorem value (value : α) : Carries related (pure value) (pure value) := by
  intro cursor start alike result left run
  rcases run
  exact ⟨start, rfl, alike⟩

theorem error (error : SyntaxError) :
    Carries related (throw error : Checked α) (throw error) := by
  intro cursor start alike result left run
  rcases run
  exact ⟨start, rfl, alike⟩

theorem require (value : Option α) : Carries related (require value) (require value) := by
  cases value with
  | none => exact fun _ _ _ _ _ run => nomatch run
  | some value => exact Carries.value value

theorem bind {next further : α → Checked β} (first : Carries related step other)
    (second : ∀ value, Carries related (next value) (further value)) :
    Carries related (step >>= next) (other >>= further) := by
  intro cursor start alike result left run
  cases ran : step cursor with
  | none =>
    change (step cursor).bind _ = _ at run
    rw [ran] at run
    cases run
  | some reached =>
    rcases reached with ⟨outcome, middle⟩
    rcases first cursor start alike outcome middle ran with ⟨between, same, still⟩
    cases outcome with
    | ok value =>
      rw [bind_of_ok ran] at run
      rw [bind_of_ok same]
      exact second value middle between still result left run
    | error error =>
      rw [bind_of_error ran] at run
      rcases run
      exact ⟨between, bind_of_error same, still⟩

theorem attempt (carries : Carries related step other) :
    Carries related (attempt step) (attempt other) := by
  intro cursor start alike result left run
  rcases Option.map_eq_some_iff.1 run with ⟨⟨outcome, middle⟩, ran, same⟩
  rcases same
  rcases carries cursor start alike outcome left ran with ⟨last, there, still⟩
  exact ⟨last, attempt_eq there, still⟩

/-- What is done with the cursor may use all that is known of related cursors. -/
theorem get {next further : Cursor → Checked α}
    (second : ∀ cursor start, related cursor start →
      Carries related (next cursor) (further start)) :
    Carries related (get >>= next) (get >>= further) :=
  fun cursor start alike => second cursor start alike cursor start alike

theorem set {cursor start : Cursor} (alike : related cursor start) :
    Carries related (set cursor : Checked PUnit) (set start) := by
  intro before after beforeAlike result left run
  rcases run
  exact ⟨start, rfl, alike⟩

/-- A change of the cursor may begin a part that keeps more alike, if it keeps enough. -/
theorem modify (kept : Cursor → Cursor → Prop) {change : Cursor → Cursor}
    {next further : Checked α}
    (changes : ∀ cursor start, related cursor start → kept (change cursor) (change start))
    (enough : ∀ cursor start, kept cursor start → related cursor start)
    (later : Carries kept next further) :
    Carries related (modify change >>= fun _ => next) (modify change >>= fun _ => further) := by
  intro cursor start alike result left run
  rw [bind_of_ok (modify_eq change cursor)] at run
  rw [bind_of_ok (modify_eq change start)]
  rcases later _ _ (changes cursor start alike) result left run with ⟨last, same, still⟩
  exact ⟨last, same, enough left last still⟩

/-- A step that asks the signal, from cursors whose signals answer alike. -/
theorem poll (ahead : ∀ cursor start, related cursor start → cursor.Ahead asked start)
    (polled : ∀ cursor start, related cursor start → related cursor.polled start.polled) :
    Carries related (poll setup) (poll (setup.since asked)) := by
  rw [Checked.poll, Checked.poll]
  refine .get fun cursor start alike => .bind (.set (polled cursor start alike)) fun _ => ?_
  have answer : setup.signals cursor.polls = (setup.since asked).signals start.polls :=
    congrArg setup.signals (ahead cursor start alike)
  rw [answer]
  split
  · exact .error _
  · exact .value _

end Carries

/-! ### Single steps -/

section Steps

variable {depths : Nat → Nat → Prop}

theorem poll_carries (setup : Setup) :
    Carries (Cursor.Alike depths asked) (poll setup) (poll (setup.since asked)) :=
  .poll (fun _ _ alike => alike.polls) fun _ _ alike => alike.polled

theorem peek_carries : Carries (Cursor.Alike depths asked) peek peek := by
  rw [peek]
  refine .get fun cursor start alike => ?_
  rw [alike.marks, alike.position]
  exact .bind (.require _) fun last => .require _

theorem advance_carries : Carries (Cursor.Alike depths asked) advance advance := by
  rw [advance]
  refine .bind peek_carries fun mark => ?_
  dsimp only
  split
  · exact .modify _ (fun _ _ alike => alike.next) (fun _ _ alike => alike) (.value mark)
  · exact .value mark

theorem cover_carries (left right : Span) : Carries related (cover left right) (cover left right) :=
  .require _

theorem cut_carries (source : SourceFile) (start stop : Nat) :
    Carries related (cut source start stop) (cut source start stop) :=
  .bind (.require _) fun _ => .require _

theorem lexeme_carries (source : SourceFile) (nesting start : Nat) (first : Char)
    (rest : List (Nat × Char)) : Carries related (lexeme source nesting start first rest)
      (lexeme source nesting start first rest) := by
  rw [lexeme]
  split
  · exact .value _
  split
  · exact .value _
  split
  · exact .value _
  split
  · exact .value _
  split
  · exact .bind (cut_carries _ _ _) fun digits => .value _
  split
  · exact .bind (cut_carries _ _ _) fun word => .value _
  · exact .value _

theorem descend_carries (setup : Setup) (span : Span) :
    Carries (Cursor.Alike Eq asked) (descend setup span) (descend (setup.since asked) span) := by
  rw [descend, descend]
  refine .bind (poll_carries setup) fun _ => .get fun cursor start alike => ?_
  rw [alike.depth, Setup.since_options]
  dsimp only
  split
  · exact .bind (.error _) fun _ => .set (alike.atDepth rfl)
  · exact .set (alike.atDepth rfl)

theorem ascend_carries : Carries (Cursor.Alike Eq asked) ascend ascend := by
  rw [ascend]
  refine .get fun cursor start alike => ?_
  rw [alike.depth]
  exact .bind (.require _) fun depth => .set (alike.atDepth rfl)

theorem operatorNext_carries (level : Precedence) :
    Carries (Cursor.Alike depths asked) (operatorNext level) (operatorNext level) := by
  rw [operatorNext]
  refine .bind peek_carries fun mark => ?_
  split
  · exact .value none
  · exact .bind advance_carries fun _ => .value _

theorem closeGroup_carries (opening : Span) (inner : Expr) :
    Carries (Cursor.Alike depths asked) (closeGroup opening inner) (closeGroup opening inner) := by
  rw [closeGroup]
  refine .bind peek_carries fun mark => ?_
  split
  · exact .bind advance_carries fun _ => .bind (cover_carries _ _) fun span => .value _
  · exact .error _
  · exact .error _

theorem ident_carries : Carries (Cursor.Alike depths asked) ident ident := by
  rw [ident]
  refine .bind peek_carries fun mark => ?_
  split
  · exact .bind advance_carries fun _ => .value _
  · exact .error _

theorem expect_carries (kind : TokenKind) (expected : Expectation) :
    Carries (Cursor.Alike depths asked) (expect kind expected) (expect kind expected) := by
  rw [expect]
  refine .bind peek_carries fun mark => ?_
  split
  · exact .bind advance_carries fun _ => .value _
  · exact .error _

end Steps

/-! ### The productions -/

/-- Two amounts of fuel become less together, until there is nothing left of the first. -/
theorem fuel_induction {motive : (fuel more : Nat) → fuel ≤ more → Prop}
    (zero : ∀ more, motive 0 more (Nat.zero_le more))
    (succ : ∀ fuel more le, motive fuel more le →
      motive (fuel + 1) (more + 1) (Nat.succ_le_succ le))
    (fuel more : Nat) (le : fuel ≤ more) : motive fuel more le := by
  induction fuel generalizing more with
  | zero => exact zero more
  | succ fuel inductive_hypothesis =>
    cases more with
    | zero => exact absurd le (Nat.not_succ_le_zero fuel)
    | succ more => exact succ fuel more _ (inductive_hypothesis more (Nat.le_of_succ_le_succ le))

/--
The productions come to the same with more fuel, from a cursor that is alike.  They call each
other, so there is one induction on the fuel for all of them.
-/
theorem productions_carry (setup : Setup) (le : fuel ≤ more) :
    (∀ level, Carries (Cursor.Alike Eq asked) (chain setup level fuel)
      (chain (setup.since asked) level more)) ∧
    (∀ level left, Carries (Cursor.Alike Eq asked) (links setup level left fuel)
      (links (setup.since asked) level left more)) ∧
    (∀ level, Carries (Cursor.Alike Eq asked) (operand setup level fuel)
      (operand (setup.since asked) level more)) ∧
    Carries (Cursor.Alike Eq asked) (unary setup fuel) (unary (setup.since asked) more) ∧
    Carries (Cursor.Alike Eq asked) (primary setup fuel) (primary (setup.since asked) more) := by
  induction fuel, more, le using fuel_induction with
  | zero more =>
    exact ⟨fun _ => .exhausted _, fun _ _ => .exhausted _, fun _ => .exhausted _,
      .exhausted _, .exhausted _⟩
  | succ fuel more le inductive_hypothesis =>
    rcases inductive_hypothesis with ⟨chains, restOfChains, operands, unaries, primaries⟩
    refine ⟨fun level => ?chain, fun level left => ?links, fun level => ?operand, ?unary,
      ?primary⟩
    case chain =>
      rw [chain, chain]
      refine .get fun cursor start alike => ?_
      rw [alike.depth]
      exact .bind (operands level) fun first => .bind (restOfChains level first) fun whole =>
        .modify _ (fun _ _ later => later.atDepth rfl) (fun _ _ later => later) (.value whole)
    case links =>
      rw [links, links]
      refine .bind (operatorNext_carries level) fun found => ?_
      rcases found with _ | ⟨op, sign⟩
      · exact .value left
      · exact .bind (descend_carries setup sign) fun _ => .bind (operands level) fun right =>
          .bind (cover_carries _ _) fun span => restOfChains level _
    case operand =>
      cases level with
      | sum =>
        rw [operand, operand]
        exact chains .product
      | product =>
        rw [operand, operand]
        exact unaries
    case unary =>
      rw [unary, unary]
      refine .bind peek_carries fun mark => ?_
      split
      · exact .bind advance_carries fun sign => .bind (descend_carries setup _) fun _ =>
          .bind unaries fun operand => .bind ascend_carries fun _ =>
            .bind (cover_carries _ _) fun span => .value _
      · exact primaries
    case primary =>
      rw [primary, primary]
      refine .bind peek_carries fun mark => ?_
      cases leaf? mark with
      | some leaf => exact .bind advance_carries fun _ => .value leaf
      | none =>
        dsimp only
        split
        · exact .bind advance_carries fun _ => .bind (descend_carries setup _) fun _ =>
            .bind (chains .sum) fun inner => .bind ascend_carries fun _ =>
              closeGroup_carries _ inner
        · exact .error _

theorem openStatement_carries (setup : Setup) (le : fuel ≤ more) :
    Carries (Cursor.Alike Eq asked) (openStatement setup fuel)
      (openStatement (setup.since asked) more) := by
  have chains : Carries (Cursor.Alike Eq asked) (chain setup .sum fuel)
      (chain (setup.since asked) .sum more) := (productions_carry setup le).1 .sum
  rw [openStatement, openStatement]
  refine .bind peek_carries fun mark => ?_
  split
  · rw [binding, binding]
    exact .bind advance_carries fun start => .bind ident_carries fun name =>
      .bind (expect_carries _ _) fun sign => .bind chains fun value =>
        .bind (cover_carries _ _) fun span => .value _
  · exact .bind chains fun value => .value _

theorem statement_carries (setup : Setup) (le : fuel ≤ more) :
    Carries (Cursor.Alike Eq asked) (statement setup fuel)
      (statement (setup.since asked) more) := by
  rw [statement, statement]
  refine .bind (openStatement_carries setup le) fun value => .bind peek_carries fun next => ?_
  split
  · exact .value value
  · exact .error _

/-! ### Loops -/

section Loops

variable {depths : Nat → Nat → Prop}

theorem skipSeparators_carries (le : fuel ≤ more) :
    Carries (Cursor.Alike depths asked) (skipSeparators fuel) (skipSeparators more) := by
  induction fuel, more, le using fuel_induction with
  | zero more => exact .exhausted _
  | succ fuel more le inductive_hypothesis =>
    rw [skipSeparators, skipSeparators]
    refine .bind peek_carries fun mark => ?_
    split
    · exact .bind advance_carries fun _ => inductive_hypothesis
    · exact .value ()

theorem synchronize_carries (le : fuel ≤ more) :
    Carries (Cursor.Alike depths asked) (synchronize fuel) (synchronize more) := by
  induction fuel, more, le using fuel_induction with
  | zero more => exact .exhausted _
  | succ fuel more le inductive_hypothesis =>
    rw [synchronize, synchronize]
    refine .bind peek_carries fun mark => ?_
    split
    · exact .value ()
    · exact .bind advance_carries fun _ => inductive_hypothesis

/-- The depth before the first statement does not matter; behind it the depths are equal. -/
theorem statements_carries (setup : Setup) (le : fuel ≤ more) (same : ∀ depth, depths depth depth)
    (found : List Stmt) (errors : List SyntaxError) :
    Carries (Cursor.Alike depths asked) (statements setup found errors fuel)
      (statements (setup.since asked) found errors more) := by
  induction fuel, more, le using fuel_induction generalizing found errors depths with
  | zero more => exact .exhausted _
  | succ fuel more le inductive_hypothesis =>
    -- The turn sets the depth, so from there on the depths are equal and the next turn begins so.
    rw [statements, statements]
    refine .bind (skipSeparators_carries le) fun _ => .bind peek_carries fun mark => ?_
    split
    · exact .value _
    refine .bind (poll_carries setup) fun _ => .modify (Cursor.Alike Eq asked)
      (fun _ _ alike => alike.atDepth rfl) (fun _ _ alike => alike.weaken same) ?_
    refine .bind (statement_carries setup le).attempt fun result => ?_
    cases result with
    | ok value => exact inductive_hypothesis (fun _ => rfl) _ _
    | error error =>
      dsimp only
      rw [Setup.since_options]
      split
      · exact .bind (synchronize_carries le) fun _ => inductive_hypothesis (fun _ => rfl) _ _
      · exact .error error

end Loops

/-! ### Whole parses -/

section Parses

variable (ahead : ∀ cursor start, related cursor start → cursor.Ahead asked start)
  (polled : ∀ cursor start, related cursor start → related cursor.polled start.polled)
include ahead polled

theorem scan_carries (setup : Setup) (le : fuel ≤ more) (nesting scanned : Nat)
    (characters : List (Nat × Char)) (marks : List Mark) (errors : List SyntaxError) :
    Carries related (scan setup nesting scanned characters marks errors fuel)
      (scan (setup.since asked) nesting scanned characters marks errors more) := by
  induction fuel, more, le using fuel_induction
    generalizing nesting scanned characters marks errors with
  | zero more => exact .exhausted _
  | succ fuel more le inductive_hypothesis =>
    cases characters with
    | nil =>
      rw [scan, scan]
      exact .value _
    | cons first rest =>
      rw [scan, scan]
      refine .bind ?_ fun _ => .bind (lexeme_carries _ _ _ _ _) fun found =>
        .bind (.require _) fun span => inductive_hypothesis _ _ _ _ _
      rw [pollAt, pollAt]
      split
      · exact .poll ahead polled
      · exact .value ()

theorem parse_carries (depths : Nat → Nat → Prop) (setup : Setup) (le : fuel ≤ more)
    (same : ∀ depth, depths depth depth)
    (starts : ∀ cursor start marks, related cursor start →
      (cursor.atStart marks).Alike depths asked (start.atStart marks))
    (enough : ∀ cursor start, cursor.Alike depths asked start → related cursor start) :
    Carries related (parse setup fuel) (parse (setup.since asked) more) := by
  rw [parse, parse]
  refine .bind (scan_carries ahead polled setup le 0 0 _ [] []) fun lexed => ?_
  rcases lexed with ⟨marks, errors⟩
  dsimp only
  rw [Setup.since_options]
  split
  · exact .error _
  · exact .modify _ (fun cursor start => starts cursor start marks) enough
      (statements_carries setup le same [] _)

end Parses

/-- Whatever one step comes to, the other comes to as well. -/
def Extends (step longer : Checked α) : Prop :=
  ∀ cursor result, step cursor = some result → longer cursor = some result

/-- A parse that comes to an answer comes to the same one with more fuel. -/
theorem parse_extends (setup : Setup) (le : fuel ≤ more) :
    Extends (parse setup fuel) (parse setup more) := by
  have carries : Carries (Cursor.Alike Eq 0) (parse setup fuel) (parse (setup.since 0) more) :=
    parse_carries (fun _ _ alike => alike.polls) (fun _ _ alike => alike.polled) Eq setup le
      (fun _ => rfl) (fun _ _ _ alike => ⟨rfl, rfl, alike.depth, alike.polls⟩)
      fun _ _ alike => alike
  intro cursor result run
  rcases result with ⟨answer, left⟩
  rcases carries cursor cursor (.refl cursor) answer left run with ⟨last, same, alike⟩
  rw [alike.eq]
  exact same

/-- Whatever is left of earlier parses, a parse answers as one from another cursor would. -/
theorem exists_parse_since {cursor start left : Cursor} {answer : Except SyntaxError ParseOutput}
    (ahead : cursor.Ahead asked start) (run : parse setup fuel cursor = some (answer, left)) :
    ∃ last, parse (setup.since asked) fuel start = some (answer, last) ∧ left.Ahead asked last := by
  have carries : Carries (Cursor.Ahead asked) (parse setup fuel)
      (parse (setup.since asked) fuel) :=
    parse_carries (fun _ _ ahead => ahead)
      (fun _ _ ahead => (congrArg (· + 1) ahead).trans (Nat.add_right_comm _ _ _))
      (fun _ _ => True) setup (Nat.le_refl fuel) (fun _ => trivial) (fun _ _ _ ahead => ⟨rfl, rfl, trivial, ahead⟩)
      fun _ _ alike => alike.polls
  exact carries cursor start ahead answer left run

end Checked

end StagePipeline.Program
