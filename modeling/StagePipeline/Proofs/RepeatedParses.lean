import StagePipeline.Proofs.CursorSafety

/-!
# Parses with one parser

A parser may be called again and again, and what a call leaves behind depends on where it
ended: the tokens of a text, a place in it, a depth that a failed statement left raised, or
all of it as it was, if the text was not scanned to its end.  `Checked.calls` makes the
calls one after the other on one cursor.  The main result says that all of them come to an
answer, that each answer is the one that a fresh cursor would get from the signal at that
moment, and that under a signal that stays as it is the answers are all the same.

Nothing is said of two calls at once: a call has its parser for itself.
-/

namespace StagePipeline.Program

variable {setup : Setup} {cursor left : Cursor} {answer : Except SyntaxError ParseOutput}

namespace Checked

/-- The answers to some calls, each of them made with the cursor as the call before left it. -/
def calls (setup : Setup) (fuel : Nat) :
    Nat → StateT Cursor Option (List (Except SyntaxError ParseOutput))
  | 0 => return []
  | times + 1 => do
    let answer ← (parse setup fuel).run
    let later ← calls setup fuel times
    return answer :: later

/-- The calls come to the answers, however much fuel each of them has if that is enough. -/
def CallsYield (setup : Setup) (cursor : Cursor) (answers : List (Except SyntaxError ParseOutput))
    (left : Cursor) : Prop :=
  ∀ fuel, sufficientFuel setup ≤ fuel →
    calls setup fuel answers.length cursor = some (answers, left)

namespace CallsYield

variable {answers : List (Except SyntaxError ParseOutput)} {last : Cursor}

theorem nil (setup : Setup) (cursor : Cursor) : CallsYield setup cursor [] cursor :=
  fun _ _ => rfl

theorem cons (first : Yields setup cursor answer left)
    (later : CallsYield setup left answers last) :
    CallsYield setup cursor (answer :: answers) last := by
  intro fuel enough
  change ((parse setup fuel cursor).bind fun reached =>
    (calls setup fuel answers.length reached.2).bind fun ended =>
      some (reached.1 :: ended.1, ended.2)) = _
  rw [first fuel enough, Option.bind_some, later fuel enough]
  rfl

end CallsYield

/-- A fresh cursor gets the same answer from a signal that begins where the other is now. -/
theorem Yields.since (yields : Yields setup cursor answer left) :
    ∃ last, Yields (setup.since cursor.polls) {} answer last := by
  have ahead : cursor.Ahead cursor.polls {} := (Nat.zero_add _).symm
  rcases exists_parse_since ahead (yields _ (Nat.le_refl _)) with ⟨last, run, -⟩
  exact ⟨last, .of_run run⟩

/-- Under a signal that stays as it is the answer is that of the parser. -/
theorem Yields.eq_parse (yields : Yields setup cursor answer left) {signal : Option Interrupt}
    (steady : ∀ index, setup.signals index = signal) :
    answer = Program.parse setup.options signal setup.source := by
  cases signal with
  | none =>
    rcases exists_yields setup cursor with ⟨other, _, same, answers⟩
    rw [yields.unique same, answers.quiet steady]
  | some reason =>
    rcases exists_yields_of_signalled steady cursor with ⟨_, same⟩
    exact yields.unique same

/-- Calls come to answers, each of them to that of a call from the cursor it begins with. -/
theorem exists_callsYield (setup : Setup) (times : Nat) (cursor : Cursor) :
    ∃ answers last, answers.length = times ∧ CallsYield setup cursor answers last ∧
      ∀ before answer after, answers = before ++ answer :: after →
        ∃ middle left, CallsYield setup cursor before middle ∧
          Yields setup middle answer left := by
  induction times generalizing cursor with
  | zero =>
    refine ⟨[], cursor, rfl, .nil setup cursor, fun before answer after split => ?_⟩
    exact absurd split.symm (List.append_ne_nil_of_right_ne_nil _ (List.cons_ne_nil _ _))
  | succ times inductive_hypothesis =>
    rcases exists_yields setup cursor with ⟨first, left, yields, -⟩
    rcases inductive_hypothesis left with ⟨later, last, length, calls, each⟩
    refine ⟨first :: later, last, congrArg (· + 1) length, .cons yields calls, ?_⟩
    intro before answer after split
    -- The call in question is the first one, or one of those from where the first one ended.
    cases before with
    | nil =>
      rcases List.cons.inj split with ⟨rfl, -⟩
      exact ⟨cursor, left, .nil setup cursor, yields⟩
    | cons one rest =>
      rcases List.cons.inj split with ⟨rfl, tail⟩
      rcases each rest answer after tail with ⟨middle, reached, called, answered⟩
      exact ⟨middle, reached, .cons yields called, answered⟩

end Checked

/-! ## The parser -/

namespace Parser

theorem parse_snd (parser : Parser) :
    parser.parse.2.source = parser.source ∧ parser.parse.2.options = parser.options ∧
      parser.parse.2.signal = parser.signal := by
  rw [Parser.parse]
  cases Lexed.ofText? parser.signal parser.source.text with
  | error reason => exact ⟨rfl, rfl, rfl⟩
  | ok lexed =>
    dsimp only
    split
    · exact ⟨rfl, rfl, rfl⟩
    · split <;> exact ⟨rfl, rfl, rfl⟩

theorem answers_eq (parser : Parser) (times : Nat) :
    parser.answers times =
      List.replicate times (Program.parse parser.options parser.signal parser.source) := by
  induction times generalizing parser with
  | zero => rfl
  | succ times inductive_hypothesis =>
    rcases parser.parse_snd with ⟨source, options, signal⟩
    rw [answers, inductive_hypothesis, parser.parse_fst, source, options, signal]
    rfl

end Parser

/--
Parsing leaves nothing behind that a later parse could notice.  Wherever the cursor has been
left, any number of calls come to answers, and the answer to each call is what a fresh cursor
gets from what is left of the signal.  If the signal always answers the same, every answer is
that of a fresh parser, and so is every answer of any parser for the source.
-/
theorem repeated_parses_answer_as_fresh (setup : Setup) (cursor : Cursor) (times : Nat) :
    ∃ answers last, answers.length = times ∧ Checked.CallsYield setup cursor answers last ∧
      (∀ before answer after, answers = before ++ answer :: after →
        ∃ middle left, Checked.CallsYield setup cursor before middle ∧
          Checked.Yields (setup.since middle.polls) {} answer left) ∧
      ∀ signal, (∀ index, setup.signals index = signal) →
        (∃ left, Checked.Yields setup {} (parse setup.options signal setup.source) left) ∧
          answers = List.replicate times (parse setup.options signal setup.source) ∧
          ∀ parser : Parser, parser.source = setup.source → parser.options = setup.options →
            parser.signal = signal → parser.answers times = answers := by
  rcases Checked.exists_callsYield setup times cursor with ⟨answers, last, length, calls, each⟩
  refine ⟨answers, last, length, calls, ?_, ?_⟩
  · intro before answer after split
    rcases each before answer after split with ⟨middle, left, called, yields⟩
    rcases yields.since with ⟨last, fresh⟩
    exact ⟨middle, last, called, fresh⟩
  · intro signal steady
    have same : answers = List.replicate times (parse setup.options signal setup.source) := by
      refine List.eq_replicate_iff.2 ⟨length, fun answer member => ?_⟩
      rcases List.append_of_mem member with ⟨before, after, split⟩
      rcases each before answer after split with ⟨_, _, _, yields⟩
      exact yields.eq_parse steady
    refine ⟨?_, same, ?_⟩
    · rcases Checked.exists_yields setup {} with ⟨fresh, left, yields, -⟩
      rw [← yields.eq_parse steady]
      exact ⟨left, yields⟩
    · rintro parser source options rfl
      rw [parser.answers_eq, source, options, same]

/-- A call that is stopped one level deep, and two that go on to the limit of two levels. -/
example :
    let setup : Setup :=
      { source := ⟨"a.st", "1 + -(2)"⟩
        options := { maxDepth := 2 }
        signals := fun index => if index = 3 then some .cancelled else none }
    let deep : SyntaxError := .tooDeep 2 (.ofLength 5 1)
    (Checked.calls setup (Checked.sufficientFuel setup) 3 {}).map (·.1) =
      some [.error (.interrupted .cancelled), .error deep, .error deep] := by
  decide +kernel

end StagePipeline.Program
