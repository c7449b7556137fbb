import StagePipeline.Proofs.CursorProductions

/-!
# The runs of a text with a cursor

The loop over the statements goes from run to run, even if the signal stops the reading
of one of them and says nothing afterwards: a search for the next separator ends where
the run does.  So a parse with a cursor keeps statements of the runs, in their order,
and each of its errors is that of a run or an interrupt.
-/

namespace StagePipeline.Program

namespace Checked

variable {setup : Setup} {tokens input : List Token} {cursor : Cursor}

/-! ## Passing over tokens -/

theorem skipSeparators_eq {fuel : Nat} (enough : input.length < fuel)
    (before : cursor.Before tokens setup.bounds.finish input) :
    ∃ left, skipSeparators fuel cursor = some (.ok (), left) ∧
      left.Before tokens setup.bounds.finish (afterSeparators input) := by
  induction fuel generalizing input cursor with
  | zero => exact absurd enough (Nat.not_lt_zero _)
  | succ fuel inductive_hypothesis =>
    rw [skipSeparators, bind_of_ok (peek_eq before)]
    cases input with
    | nil => exact ⟨cursor, rfl, before⟩
    | cons token rest =>
      change ∃ left, (if token.kind.isSeparator then _ else _ : Checked Unit) cursor = _ ∧ _
      cases separates : token.kind.isSeparator with
      | true =>
        rcases inductive_hypothesis (Nat.lt_of_succ_lt_succ enough) before.next with
          ⟨left, run, leftBefore⟩
        refine ⟨left, (bind_of_ok (advance_eq before)).trans run, ?_⟩
        simpa [afterSeparators, separates] using leftBefore
      | false =>
        refine ⟨cursor, rfl, ?_⟩
        simpa [afterSeparators, separates] using before

theorem synchronize_eq {fuel : Nat} (enough : input.length < fuel)
    (before : cursor.Before tokens setup.bounds.finish input) :
    ∃ left, synchronize fuel cursor = some (.ok (), left) ∧
      left.Before tokens setup.bounds.finish (fromSeparator input) := by
  induction fuel generalizing input cursor with
  | zero => exact absurd enough (Nat.not_lt_zero _)
  | succ fuel inductive_hypothesis =>
    rw [synchronize, bind_of_ok (peek_eq before)]
    cases input with
    | nil => exact ⟨cursor, rfl, before⟩
    | cons token rest =>
      change ∃ left, (if token.kind.isSeparator then _ else _ : Checked Unit) cursor = _ ∧ _
      cases separates : token.kind.isSeparator with
      | true =>
        refine ⟨cursor, rfl, ?_⟩
        simpa [fromSeparator, separates] using before
      | false =>
        rcases inductive_hypothesis (Nat.lt_of_succ_lt_succ enough) before.next with
          ⟨left, run, leftBefore⟩
        refine ⟨left, (bind_of_ok (advance_eq before)).trans run, ?_⟩
        simpa [fromSeparator, separates] using leftBefore

end Checked

/-! ## Readings that the signal may stop -/

/-- The error tells of an answer of the signal. -/
def Setup.Interrupts (setup : Setup) (error : SyntaxError) : Prop :=
  ∃ index reason, setup.signals index = some reason ∧ error = .interrupted reason

/-- The signal never stops anything. -/
def Setup.Quiet (setup : Setup) : Prop :=
  ∀ index, setup.signals index = none

theorem Setup.Quiet.not_interrupts {setup : Setup} (quiet : setup.Quiet) {error : SyntaxError} :
    ¬setup.Interrupts error := by
  rintro ⟨index, reason, signal, _⟩
  rw [quiet] at signal
  cases signal

/-- The answer of a parse that has found some statements and errors before a reading. -/
def Reading.answer (reading : Reading) (found : List Stmt) (errors : List SyntaxError) :
    Except SyntaxError ParseOutput :=
  match reading.failure with
  | some error => .error error
  | none => .ok ⟨⟨found ++ reading.statements⟩,
      (errors ++ reading.errors).mergeSort SyntaxError.notAfter⟩

theorem Reading.answer_withStatement (reading : Reading) (statement : Stmt) (found : List Stmt)
    (errors : List SyntaxError) :
    (reading.withStatement statement).answer found errors =
      reading.answer (found ++ [statement]) errors := by
  simp only [Reading.answer, Reading.withStatement, List.append_assoc, List.singleton_append]

theorem Reading.answer_withError (reading : Reading) (error : SyntaxError) (found : List Stmt)
    (errors : List SyntaxError) :
    (reading.withError error).answer found errors =
      reading.answer found (errors ++ [error]) := by
  simp only [Reading.answer, Reading.withError, List.append_assoc, List.singleton_append]

/--
A reading of runs of tokens that the signal may stop anywhere: it keeps statements
of the runs in their order, and every error is that of a run or an interrupt.  If
the signal never stops it, it is the reading of the parser.
-/
structure ReadsRuns (setup : Setup) (input : List Token) (depth : Nat) (reading : Reading) :
    Prop where
  statements : reading.statements.Sublist ((runs input).filterMap (Run.statement? setup.bounds))
  errors : ∀ error ∈ reading.errors ++ reading.failure.toList,
    error ∈ (runs input).filterMap (Run.error? setup.bounds) ∨ setup.Interrupts error
  quiet : setup.Quiet → reading = .ofTokens setup.bounds setup.options.recover depth input

namespace ReadsRuns

variable {setup : Setup} {input : List Token} {depth : Nat} {reading : Reading} {run : Run}

theorem nil (here : afterSeparators input = []) :
    ReadsRuns setup input depth { depth := depth } where
  statements := List.nil_sublist _
  errors := nofun
  quiet := fun _ => (Reading.ofTokens_of_nil here).symm

/-- An interrupt ends the reading. -/
theorem stopped {error : SyntaxError} (interrupts : setup.Interrupts error) :
    ReadsRuns setup input depth { failure := some error } where
  statements := List.nil_sublist _
  errors := fun _ member => Or.inr (by rwa [List.mem_singleton.1 member])
  quiet := fun quiet => absurd interrupts quiet.not_interrupts

section Run

variable (here : afterSeparators input = run.body ++ run.after)
  (first : runs input = run :: runs run.after)
include here first

theorem withStatement {value : Stmt} (read : run.result setup.bounds = .ok value)
    (later : ReadsRuns setup run.after 0 reading) :
    ReadsRuns setup input depth (reading.withStatement value) where
  statements := by
    rw [first, List.filterMap_cons_some (b := value) (by rw [Run.statement?, read])]
    exact later.statements.cons_cons value
  errors := by
    rw [first, List.filterMap_cons_none (by rw [Run.error?, read])]
    exact later.errors
  quiet := fun quiet => by
    rw [Reading.ofTokens_of_result_ok here read, ← later.quiet quiet]

variable {error : SyntaxError}
  (cause : run.result setup.bounds = .error error ∨ setup.Interrupts error)
include cause

/-- What a run without a statement leaves to be read when it is passed over. -/
theorem withError (depth : Nat) (recover : setup.options.recover = true) :
    ∃ left, ∀ reading, ReadsRuns setup run.after left reading →
      ReadsRuns setup input depth (reading.withError error) := by
  have continued : ∃ left, setup.Quiet →
      Reading.ofTokens setup.bounds setup.options.recover depth input =
        (Reading.ofTokens setup.bounds setup.options.recover left run.after).withError error := by
    rcases cause with failed | interrupts
    · rcases Reading.ofTokens_of_result_error here failed with ⟨_, left, equal⟩
      exact ⟨left, fun _ => equal.trans (if_pos recover)⟩
    · exact ⟨0, fun quiet => absurd interrupts quiet.not_interrupts⟩
  rcases continued with ⟨left, continued⟩
  refine ⟨left, fun reading later => ⟨?_, ?_, fun quiet => ?_⟩⟩
  · rw [first]
    exact later.statements.trans ((List.sublist_cons_self _ _).filterMap _)
  · intro other member
    rw [first]
    rcases List.mem_cons.1 member with rfl | member
    · exact cause.imp_left fun failed =>
        List.mem_filterMap.2 ⟨run, List.mem_cons_self, by rw [Run.error?, failed]⟩
    · exact (later.errors other member).imp_left fun found =>
        ((List.sublist_cons_self _ _).filterMap _).subset found
  · rw [continued quiet, ← later.quiet quiet]

/-- A strict reading fails with what a run without a statement gives. -/
theorem fails (depth : Nat) (strict : setup.options.recover = false) :
    ∃ reading : Reading, reading.failure = some error ∧ ReadsRuns setup input depth reading := by
  rcases cause with failed | interrupts
  · rcases Reading.ofTokens_of_result_error here failed with ⟨rest, left, equal⟩
    refine ⟨_, rfl, List.nil_sublist _, fun other member => Or.inl ?_,
      fun _ => (equal.trans (if_neg (by simp [strict]))).symm⟩
    rw [List.mem_singleton.1 member, first]
    exact List.mem_filterMap.2 ⟨run, List.mem_cons_self, by rw [Run.error?, failed]⟩
  · exact ⟨_, rfl, .stopped interrupts⟩

end Run

end ReadsRuns

/-! ## The loop over the statements -/

namespace Checked

variable {setup : Setup} {tokens : List Token} {cursor : Cursor} {run : Run}

/-- Reading a statement from a run gives what the run gives, or is interrupted inside the run. -/
theorem attempt_statement_eq (setup : Setup) {fuel : Nat}
    (enough : 6 * (run.body ++ run.after).length + 5 < fuel) (top : cursor.depth = 0)
    (before : cursor.Before tokens setup.bounds.finish (run.body ++ run.after)) :
    ∃ result left, attempt (statement setup fuel) cursor = some (.ok result, left) ∧
      ((∃ value, result = .ok value ∧ run.result setup.bounds = .ok value ∧
        left.Before tokens setup.bounds.finish run.after) ∨
      ∃ error rest, result = .error error ∧
        (run.result setup.bounds = .error error ∨ setup.Interrupts error) ∧
        left.Before tokens setup.bounds.finish rest ∧
        Passes (run.body ++ run.after) rest) := by
  have follows := follows_statement enough top before
  generalize ran : statement setup fuel cursor = outcome at follows
  cases follows with
  | @ok value rest left same leftBefore within _ =>
    refine ⟨.ok value, left, attempt_eq ran, Or.inl ⟨value, rfl, ?_, ?_⟩⟩
    · rw [Run.result_eq, same]
    · rcases Bounds.readStatement_eq_ok_iff.1 same with ⟨taken, split, fits, ends⟩
      rwa [← (run.split_unique split fits.spells.not_isSeparator ends).2]
  | @error stuck left same leftBefore within =>
    refine ⟨.error stuck.error, left, attempt_eq ran,
      Or.inr ⟨stuck.error, stuck.rest, rfl, Or.inl ?_, leftBefore, within⟩⟩
    rw [Run.result_eq, same]
  | @interrupted reason index rest left signal leftBefore within =>
    exact ⟨.error (.interrupted reason), left, attempt_eq ran,
      Or.inr ⟨_, rest, rfl, Or.inr ⟨index, reason, signal, rfl⟩, leftBefore, within⟩⟩

/-- At the end of the tokens a parse ends, whatever the signal. -/
theorem statements_eq_of_nil {input : List Token} {fuel : Nat} (enough : input.length < fuel)
    (here : afterSeparators input = []) (before : cursor.Before tokens setup.bounds.finish input)
    (found : List Stmt) (errors : List SyntaxError) :
    ∃ left, statements setup found errors (fuel + 1) cursor =
      some (.ok ⟨⟨found⟩, errors.mergeSort SyntaxError.notAfter⟩, left) := by
  rcases skipSeparators_eq enough before with ⟨opened, skipped, openedBefore⟩
  refine ⟨opened, ?_⟩
  rw [statements, bind_of_ok skipped, bind_of_ok (peek_eq openedBefore), here]
  rfl

/-- The loop reads the runs of the tokens that are left, one in every turn. -/
theorem statements_eq (fuel : Nat) (input : List Token) (enough : 6 * input.length + 6 < fuel)
    (cursor : Cursor) (found : List Stmt) (errors : List SyntaxError) (depth : Nat)
    (before : cursor.Before tokens setup.bounds.finish input) :
    ∃ reading left, statements setup found errors fuel cursor =
      some (reading.answer found errors, left) ∧ ReadsRuns setup input depth reading := by
  induction fuel generalizing input cursor found errors depth with
  | zero => exact absurd enough (Nat.not_lt_zero _)
  | succ fuel inductive_hypothesis =>
    have fewer : 6 * input.length + 5 < fuel := Nat.lt_of_succ_lt_succ enough
    have each : input.length < fuel := by omega
    rcases runs_cases input with ⟨here, _⟩ | ⟨run, here, first, less⟩
    · rcases statements_eq_of_nil each here before found errors with ⟨left, ended⟩
      exact ⟨{ depth := depth }, left, by simpa [Reading.answer] using ended, .nil here⟩
    rcases skipSeparators_eq each before with ⟨opened, skipped, openedBefore⟩
    rw [statements, bind_of_ok skipped, bind_of_ok (peek_eq openedBefore)]
    have shorter : (run.body ++ run.after).length ≤ input.length := by
      rw [← here]
      exact (List.dropWhile_suffix _).length_le
    rw [here] at openedBefore ⊢
    have goesOn : (setup.bounds.next (run.body ++ run.after)).1 ≠ none := by
      cases body : run.body with
      | nil => exact absurd body run.nonempty
      | cons token rest => exact Option.some_ne_none _
    rw [if_neg goesOn]
    have asked := poll_eq setup opened
    cases signal : setup.signals opened.polls with
    | some reason =>
      rw [signal] at asked
      exact ⟨{ failure := some (.interrupted reason) }, _, bind_of_error asked,
        .stopped ⟨_, reason, signal, rfl⟩⟩
    | none =>
      rw [signal] at asked
      rw [bind_of_ok asked,
        bind_of_ok (modify_eq (Cursor.atDepth · 0) opened.polled)]
      have statementEnough : 6 * (run.body ++ run.after).length + 5 < fuel := by omega
      have laterEnough : 6 * run.after.length + 6 < fuel := by omega
      rcases attempt_statement_eq setup statementEnough rfl (openedBefore.polled.atDepth 0) with
        ⟨result, left, ran, ⟨value, rfl, read, leftBefore⟩ |
          ⟨error, rest, rfl, cause, leftBefore, within⟩⟩
      · rcases inductive_hypothesis run.after laterEnough left (found ++ [value]) errors 0
            leftBefore with ⟨reading, last, finished, reads⟩
        refine ⟨reading.withStatement value, last, ?_, reads.withStatement here first read⟩
        rw [bind_of_ok ran, Reading.answer_withStatement]
        exact finished
      · rw [bind_of_ok ran]
        dsimp only
        cases recover : setup.options.recover with
        | true =>
          have toEnd : fromSeparator rest = run.after :=
            within.fromSeparator_eq.trans (fromSeparator_append run.inside run.ends)
          have restEnough : rest.length < fuel :=
            Nat.lt_of_le_of_lt (Nat.le_trans within.length_le shorter) each
          rcases synchronize_eq restEnough leftBefore with ⟨ahead, passed, aheadBefore⟩
          rw [toEnd] at aheadBefore
          rcases ReadsRuns.withError here first cause depth recover with
            ⟨after, continued⟩
          rcases inductive_hypothesis run.after laterEnough ahead found (errors ++ [error]) after
              aheadBefore with ⟨reading, last, finished, reads⟩
          refine ⟨reading.withError error, last, ?_, continued reading reads⟩
          rw [if_pos rfl, bind_of_ok passed, Reading.answer_withError]
          exact finished
        | false =>
          rcases ReadsRuns.fails here first cause depth recover with
            ⟨reading, failure, reads⟩
          refine ⟨reading, left, ?_, reads⟩
          rw [Reading.answer, failure]
          rfl

end Checked

end StagePipeline.Program
