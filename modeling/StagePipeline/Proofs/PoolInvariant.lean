import Mathlib.Data.List.Nodup
import StagePipeline.Proofs.Interleaving
import StagePipeline.Proofs.UnitParse

/-!
# What every interleaving keeps

The work on a unit is accounted for by the record of calls.  As long as its parser
has not been called, a unit is as it was before; afterwards the progress of its
task follows from the answer.  What a task still has to record of its answer is
owed, and what has been recorded and what is owed are together the times and the
diagnostics of all calls.  The halt flag is up exactly when a task has ended in a
way that makes the whole application fail.

`Pool.Consistent` puts this together.  Each of its parts is a fact of one step of
one task, and `Pool.consistent_run` says that every run keeps them.
-/

namespace StagePipeline

open Program

/-- The answers that the parsers of a factory give under some signal. -/
def ParserFactory.Answers (factory : ParserFactory) (source : SourceFile)
    (answer : Except SyntaxError ParseOutput) : Prop :=
  ∃ signal, factory.parse signal source = answer

/-- Whatever the signal, a parser of the factory gives an answer that is allowed. -/
def ParserFactory.Gives (allowed : SourceFile → Except SyntaxError ParseOutput → Prop)
    (factory : ParserFactory) : Prop :=
  ∀ signal source, allowed source (factory.parse signal source)

theorem ParserFactory.gives_answers (factory : ParserFactory) : factory.Gives factory.Answers :=
  fun signal _ => ⟨signal, rfl⟩

namespace ParseStage

variable {stage : ParseStage} {token : CancelToken}

/-- The stage with other parsers. -/
def withFactory (stage : ParseStage) (factory : ParserFactory) : ParseStage :=
  { stage with factory := factory }

/-! ### One task -/

namespace Task

/-- What the progress of the task of a unit has to be after its parser has given an answer. -/
def Fits (stage : ParseStage) (unit : CompilationUnit)
    (answer? : Option (Except SyntaxError ParseOutput)) (task : Task) : Prop :=
  match task.progress with
  | .reporting _ tree _ =>
    task.unit = unit ∧ ∃ output, answer? = some (.ok output) ∧ output.tree = tree
  | .closing _ none | .done .parsed =>
    ∃ output, answer? = some (.ok output) ∧ task.unit = unit.withTree output.tree
  | .halting failure =>
    task.unit = unit ∧ stage.halts failure = true ∧
      ∃ error, answer? = some (.error error) ∧ failure = .rejected error
  | .closing _ (some failure) | .done (.failed failure) =>
    task.unit = unit ∧ ∃ error, answer? = some (.error error) ∧ failure = .rejected error
  | _ => task.unit = unit ∧ answer? = none

/-- Whether the end of the task makes the whole application fail. -/
def isFatal (stage : ParseStage) (task : Task) : Bool :=
  match task.progress with
  | .done (.interrupted _) => true
  | .done (.failed failure) => stage.halts failure
  | _ => false

/-- The labels under which the task has still to record a time. -/
def owedLabels (task : Task) : List String :=
  match task.progress with
  | .reporting _ _ _ => [label task.unit.source true]
  | .closing _ failure => [label task.unit.source failure.isNone]
  | _ => []

/-- The diagnostics that the task has still to report. -/
def owedDiagnostics (task : Task) : List Diagnostic :=
  match task.progress with
  | .reporting _ _ remaining => remaining
  | _ => []

section Step

variable {task : Task} {shared : Shared}

/-- The answer that is given in a step is the one that the next progress follows from. -/
theorem Fits.step {unit : CompilationUnit} {answer? : Option (Except SyntaxError ParseOutput)}
    (fits : task.Fits stage unit answer?)
    (placed : ∀ answer, task.answer? stage token shared = some answer →
      Placed task.unit.source answer) :
    (task.step stage token shared).1.Fits stage unit
      (answer?.or (task.answer? stage token shared)) := by
  obtain ⟨current, progress⟩ := task
  cases progress with
  | waiting =>
    obtain ⟨rfl, rfl⟩ := fits
    cases raised : shared.halted <;> simp [Task.step, advance, Fits, Task.answer?, raised]
  | admitted =>
    obtain ⟨rfl, rfl⟩ := fits
    cases polled : shared.services.poll token <;>
      simp [Task.step, advance, Fits, Task.answer?, polled]
  | stopping reason =>
    obtain ⟨rfl, rfl⟩ := fits
    exact ⟨rfl, rfl⟩
  | cleared =>
    obtain ⟨rfl, rfl⟩ := fits
    exact ⟨rfl, rfl⟩
  | opened scope =>
    obtain ⟨rfl, rfl⟩ := fits
    exact ⟨rfl, rfl⟩
  | built scope =>
    -- Here the parser is called, and the answer decides how the work goes on.
    obtain ⟨rfl, rfl⟩ := fits
    have here := placed _ rfl
    cases answered : stage.factory.parse (shared.services.poll token) current.source with
    | error error =>
      simp [Task.step, advance, attempt, answered, judge_error, Fits, Task.answer?]
    | ok output =>
      rw [answered] at here
      simp [Task.step, advance, attempt, answered, judge_ok here, Fits, Task.answer?]
  | reporting scope tree remaining =>
    obtain ⟨rfl, output, rfl, rfl⟩ := fits
    cases remaining with
    | nil => exact ⟨output, rfl, rfl⟩
    | cons diagnostic rest => exact ⟨rfl, output, rfl, rfl⟩
  | closing scope failure =>
    cases failure with
    | none =>
      obtain ⟨output, rfl, stored⟩ := fits
      exact ⟨output, rfl, stored⟩
    | some failure =>
      obtain ⟨rfl, error, rfl, rfl⟩ := fits
      cases fatal : stage.halts (.rejected error) <;>
        simp [Task.step, advance, Fits, Task.answer?, fatal]
  | halting failure =>
    obtain ⟨rfl, -, error, rfl, rfl⟩ := fits
    exact ⟨rfl, error, rfl, rfl⟩
  | done outcome => cases outcome <;> simpa [Task.step, advance, Fits, Task.answer?] using fits

/-- The gain of the session in one step is what is no longer owed, together with the new call. -/
theorem grows_step (placed : ∀ answer, task.answer? stage token shared = some answer →
      Placed task.unit.source answer) :
    ∃ labels diagnostics,
      shared.services.session.Grows (task.step stage token shared).2.services.session
        labels diagnostics ∧
      labels ++ (task.step stage token shared).1.owedLabels =
        task.owedLabels ++ (task.answer? stage token shared).toList.map
          (fun answer => label task.unit.source answer.isOk) ∧
      diagnostics ++ (task.step stage token shared).1.owedDiagnostics =
        task.owedDiagnostics ++ (task.answer? stage token shared).toList.flatMap
          (stage.recovered task.unit.source) := by
  obtain ⟨unit, progress⟩ := task
  cases progress with
  | waiting =>
    refine ⟨[], [], .refl _, ?_⟩
    cases raised : shared.halted <;>
      simp [Task.step, advance, raised, owedLabels, owedDiagnostics, Task.answer?]
  | admitted =>
    refine ⟨[], [], .refl _, ?_⟩
    cases polled : shared.services.poll token <;>
      simp [Task.step, advance, polled, owedLabels, owedDiagnostics, Task.answer?]
  | stopping reason => exact ⟨[], [], .refl _, rfl, rfl⟩
  | cleared => exact ⟨[], [], .refl _, rfl, rfl⟩
  | opened scope =>
    refine ⟨[], [], ?_, rfl, rfl⟩
    simp only [Task.step, build]
    split <;> exact .refl _
  | built scope =>
    refine ⟨[], [], .refl _, ?_⟩
    have here := placed _ rfl
    cases answered : stage.factory.parse (shared.services.poll token) unit.source with
    | error error =>
      simp [Task.step, advance, attempt, answered, judge_error, owedLabels, owedDiagnostics,
        Task.answer?, recovered, Except.isOk, Except.toBool]
    | ok output =>
      rw [answered] at here
      simp [Task.step, advance, attempt, answered, judge_ok here, owedLabels, owedDiagnostics,
        Task.answer?, Except.isOk, Except.toBool]
  | reporting scope tree remaining =>
    cases remaining with
    | nil => exact ⟨[], [], .refl _, rfl, rfl⟩
    | cons diagnostic rest =>
      exact ⟨[], [diagnostic], .reportAll _ [diagnostic], rfl, (List.append_nil _).symm⟩
  | closing scope failure =>
    refine ⟨[label unit.source failure.isNone], [], .record _ _, ?_⟩
    cases failure with
    | none => exact ⟨rfl, rfl⟩
    | some failure =>
      cases fatal : stage.halts failure <;>
        simp [Task.step, advance, fatal, owedLabels, owedDiagnostics, Task.answer?]
  | halting failure => exact ⟨[], [], .refl _, rfl, rfl⟩
  | done outcome => exact ⟨[], [], .refl _, rfl, rfl⟩

/-- Nothing is cancelled in a step but by the building of a parser, and the clock runs on. -/
theorem services_step (stage : ParseStage) (token : CancelToken) (task : Task)
    (shared : Shared) :
    ((task.step stage token shared).2.services.cancelled = shared.services.cancelled ∨
      stage.factory.cancels task.unit.source = true ∧
        (task.step stage token shared).2.services.cancelled =
          stage.token.family :: shared.services.cancelled) ∧
      (task.step stage token shared).2.services.clock.reading = shared.services.clock.reading ∧
      shared.services.clock.taken ≤ (task.step stage token shared).2.services.clock.taken := by
  obtain ⟨unit, progress⟩ := task
  cases progress with
  | opened scope =>
    simp only [Task.step, build]
    split
    · rename_i cancels
      exact ⟨.inr ⟨cancels, rfl⟩, rfl, Nat.le_refl _⟩
    · exact ⟨.inl rfl, rfl, Nat.le_refl _⟩
  | reporting scope tree remaining =>
    cases remaining <;> exact ⟨.inl rfl, rfl, Nat.le_refl _⟩
  | admitted => exact ⟨.inl rfl, rfl, Nat.le_succ _⟩
  | cleared => exact ⟨.inl rfl, rfl, Nat.le_succ _⟩
  | built scope => exact ⟨.inl rfl, rfl, Nat.le_succ _⟩
  | closing scope failure => exact ⟨.inl rfl, rfl, Nat.le_succ _⟩
  | _ => exact ⟨.inl rfl, rfl, Nat.le_refl _⟩

theorem isFatal_step (fatal : task.isFatal stage = true) :
    (task.step stage token shared).1.isFatal stage = true := by
  obtain ⟨unit, progress⟩ := task
  cases progress with
  | done outcome => exact fatal
  | _ => simp [isFatal] at fatal

/-- The halt flag is raised in the step in which a task ends fatally, and in no other. -/
theorem halted_step {unit : CompilationUnit}
    {answer? : Option (Except SyntaxError ParseOutput)} (fits : task.Fits stage unit answer?)
    (raised : task.isFatal stage = true → shared.halted = true) :
    (task.step stage token shared).2.halted = true ↔
      shared.halted = true ∨ (task.step stage token shared).1.isFatal stage = true := by
  obtain ⟨current, progress⟩ := task
  cases progress with
  | waiting => cases up : shared.halted <;> simp [Task.step, advance, isFatal, up]
  | admitted =>
    cases polled : shared.services.poll token <;> simp [Task.step, advance, isFatal, polled]
  | built scope =>
    cases attempted : stage.attempt (shared.services.poll token) current.source <;>
      simp [Task.step, advance, isFatal, attempted]
  | reporting scope tree remaining => cases remaining <;> simp [Task.step, advance, isFatal]
  | closing scope failure =>
    cases failure with
    | none => simp [Task.step, advance, isFatal]
    | some failure =>
      cases fatal : stage.halts failure <;> simp [Task.step, advance, isFatal, fatal]
  | halting failure => simp [Task.step, advance, isFatal, fits.2.1]
  | done outcome =>
    constructor
    · exact .inl
    · rintro (up | fatal)
      · exact up
      · exact raised fatal
  | _ => simp [Task.step, advance, isFatal]

/-- Only a raised halt flag lets a task be skipped. -/
theorem skipped_step (raised : task.progress = .done .skipped → shared.halted = true)
    (skipped : (task.step stage token shared).1.progress = .done .skipped) :
    (task.step stage token shared).2.halted = true := by
  obtain ⟨unit, progress⟩ := task
  cases progress with
  | waiting =>
    cases up : shared.halted with
    | false => simp [Task.step, advance, up] at skipped
    | true => exact up
  | admitted =>
    cases polled : shared.services.poll token <;> simp [Task.step, advance, polled] at skipped
  | built scope =>
    cases attempted : stage.attempt (shared.services.poll token) unit.source <;>
      simp [Task.step, advance, attempted] at skipped
  | reporting scope tree remaining => cases remaining <;> simp [Task.step, advance] at skipped
  | closing scope failure =>
    cases failure with
    | none => simp [Task.step, advance] at skipped
    | some failure =>
      cases fatal : stage.halts failure <;> simp [Task.step, advance, fatal] at skipped
  | done outcome => exact raised skipped
  | _ => simp [Task.step, advance] at skipped

end Step

theorem Fits.source {unit : CompilationUnit} {task : Task}
    {answer? : Option (Except SyntaxError ParseOutput)} (fits : task.Fits stage unit answer?) :
    task.unit.source = unit.source := by
  obtain ⟨current, progress⟩ := task
  have stored : ∀ output : ParseOutput, current = unit.withTree output.tree →
      current.source = unit.source := by
    rintro output rfl
    rfl
  cases progress with
  | closing scope failure =>
    cases failure with
    | none => exact stored _ fits.choose_spec.2
    | some failure => exact congrArg _ fits.1
  | done outcome =>
    cases outcome with
    | parsed => exact stored _ fits.choose_spec.2
    | _ => exact congrArg _ fits.1
  | _ => exact congrArg _ fits.1

/-- A parser that is about to be called has not been called before. -/
theorem Fits.eq_none_of_answer? {unit : CompilationUnit} {task : Task} {shared : Shared}
    {answer? : Option (Except SyntaxError ParseOutput)} {answer : Except SyntaxError ParseOutput}
    (fits : task.Fits stage unit answer?)
    (answers : task.answer? stage token shared = some answer) : answer? = none := by
  obtain ⟨current, progress⟩ := task
  cases progress with
  | built scope => exact fits.2
  | _ => simp [Task.answer?] at answers

theorem exists_signal_of_answer? {task : Task} {shared : Shared}
    {answer : Except SyntaxError ParseOutput}
    (answers : task.answer? stage token shared = some answer) :
    ∃ signal, stage.factory.parse signal task.unit.source = answer := by
  obtain ⟨unit, progress⟩ := task
  cases progress with
  | built scope => exact ⟨_, Option.some.inj answers⟩
  | _ => simp [answer?] at answers

/-- What a task comes to at its end, after an answer or without one. -/
def Ended (unit : CompilationUnit) (task : Task) : Option (Except SyntaxError ParseOutput) → Prop
  | none => task = ⟨unit, .done .skipped⟩ ∨ ∃ reason, task = ⟨unit, .done (.interrupted reason)⟩
  | some (.ok output) => task = ⟨unit.withTree output.tree, .done .parsed⟩
  | some (.error error) => task = ⟨unit, .done (.failed (.rejected error))⟩

theorem Fits.ended {unit : CompilationUnit} {task : Task}
    {answer? : Option (Except SyntaxError ParseOutput)} (fits : task.Fits stage unit answer?)
    (done : task.isDone = true) : task.Ended unit answer? := by
  obtain ⟨current, progress⟩ := task
  cases progress with
  | done outcome =>
    cases outcome with
    | parsed =>
      obtain ⟨output, rfl, stored⟩ := fits
      exact congrArg (Task.mk · _) stored
    | skipped =>
      obtain ⟨rfl, rfl⟩ := fits
      exact .inl rfl
    | interrupted reason =>
      obtain ⟨rfl, rfl⟩ := fits
      exact .inr ⟨reason, rfl⟩
    | failed failure =>
      obtain ⟨rfl, error, rfl, rfl⟩ := fits
      rfl
  | _ => simp [isDone] at done

end Task

/-! ### The pool -/

/-- What the parser answered for the unit at a position, if it was called. -/
def answerAt (calls : List Call) (position : Nat) : Option (Except SyntaxError ParseOutput) :=
  (calls.find? (·.position == position)).map (·.answer)

theorem answerAt_append (calls later : List Call) (position : Nat) :
    answerAt (calls ++ later) position =
      (answerAt calls position).or (answerAt later position) := by
  simp only [answerAt, List.find?_append]
  cases calls.find? (·.position == position) <;> rfl

theorem answerAt_toList (position other : Nat) (source : SourceFile)
    (answer? : Option (Except SyntaxError ParseOutput)) :
    answerAt (answer?.toList.map fun answer => ⟨position, source, answer⟩) other =
      if position = other then answer? else none := by
  cases answer? with
  | none => simp [answerAt]
  | some answer =>
    by_cases same : position = other <;> simp [answerAt, same]

theorem answerAt_eq_none_iff {calls : List Call} {position : Nat} :
    answerAt calls position = none ↔ position ∉ calls.map (·.position) := by
  simp [answerAt]

theorem exists_call_of_answerAt {calls : List Call} {position : Nat}
    {answer : Except SyntaxError ParseOutput} (answered : answerAt calls position = some answer) :
    ∃ call ∈ calls, call.position = position ∧ call.answer = answer := by
  rcases Option.map_eq_some_iff.1 answered with ⟨call, found, same⟩
  exact ⟨call, List.mem_of_find?_eq_some found, by simpa using List.find?_some found, same⟩

/-- The call is one for a unit of the batch, and its answer is allowed for that unit. -/
def Call.IsFor (allowed : SourceFile → Except SyntaxError ParseOutput → Prop)
    (batch : List CompilationUnit) (call : Call) : Prop :=
  ∃ unit, batch[call.position]? = some unit ∧ call.source = unit.source ∧
    allowed unit.source call.answer

/-- The call is one of the parser for a unit of the batch. -/
def Call.IsGenuine (stage : ParseStage) (batch : List CompilationUnit) (call : Call) : Prop :=
  ∃ unit, batch[call.position]? = some unit ∧ call.source = unit.source ∧
    ∃ signal, stage.factory.parse signal unit.source = call.answer

namespace Pool

/--
Every task fits the answer that its parser gave, all answers were allowed, and no parser was
called twice.
-/
structure RecordedBy (allowed : SourceFile → Except SyntaxError ParseOutput → Prop)
    (stage : ParseStage) (batch : List CompilationUnit) (pool : Pool) (calls : List Call) :
    Prop where
  length : pool.tasks.length = batch.length
  fits : ∀ (position : Nat) (unit : CompilationUnit) (task : Task),
    batch[position]? = some unit → pool.tasks[position]? = some task →
      task.Fits stage unit (answerAt calls position)
  genuine : ∀ call ∈ calls, call.IsFor allowed batch
  once : (calls.map (·.position)).Nodup

/-- The halt flag is up exactly if some task has ended fatally, and only then are tasks skipped. -/
structure HaltsForReason (stage : ParseStage) (pool : Pool) : Prop where
  halted : pool.shared.halted = true ↔
    ∃ (position : Nat) (task : Task),
      pool.tasks[position]? = some task ∧ task.isFatal stage = true
  skipped : ∀ (position : Nat) (task : Task), pool.tasks[position]? = some task →
    task.progress = .done .skipped → pool.shared.halted = true

theorem HaltsForReason.halted_eq_false {pool : Pool} (halts : pool.HaltsForReason stage)
    (harmless : ∀ task ∈ pool.tasks, task.isFatal stage = false) : pool.shared.halted = false := by
  refine Bool.eq_false_iff.2 fun up => ?_
  rcases halts.halted.1 up with ⟨position, task, found, fatal⟩
  rw [harmless task (List.mem_of_getElem? found)] at fatal
  exact Bool.false_ne_true fatal

theorem HaltsForReason.not_skipped {pool : Pool} (halts : pool.HaltsForReason stage)
    (down : pool.shared.halted = false) {task : Task} (member : task ∈ pool.tasks) :
    task.progress ≠ .done .skipped := by
  intro skipped
  rcases List.mem_iff_getElem?.1 member with ⟨position, found⟩
  exact Bool.false_ne_true (down.symm.trans (halts.skipped position task found skipped))

/-- What the session has gained, together with what is owed, is the gain of all calls. -/
def Accounted (stage : ParseStage) (before : Session) (pool : Pool) (calls : List Call) : Prop :=
  ∃ labels diagnostics,
    before.Grows pool.shared.services.session labels diagnostics ∧
    (labels ++ pool.tasks.flatMap (·.owedLabels)).Perm
      (calls.map fun call => label call.source call.answer.isOk) ∧
    (diagnostics ++ pool.tasks.flatMap (·.owedDiagnostics)).Perm
      (calls.flatMap fun call => stage.recovered call.source call.answer)

/-- What holds of a pool at any moment and of the calls made so far. -/
structure ConsistentBy (allowed : SourceFile → Except SyntaxError ParseOutput → Prop)
    (stage : ParseStage) (batch : List CompilationUnit) (before : Session) (pool : Pool)
    (calls : List Call) : Prop where
  recorded : pool.RecordedBy allowed stage batch calls
  halts : pool.HaltsForReason stage
  accounted : pool.Accounted stage before calls

/-- What holds of a pool when all parsers are those of the stage. -/
abbrev Consistent (stage : ParseStage) (batch : List CompilationUnit) (before : Session)
    (pool : Pool) (calls : List Call) : Prop :=
  pool.ConsistentBy stage.factory.Answers stage batch before calls

theorem getElem?_ofUnits {batch : List CompilationUnit} {services : Services} {position : Nat}
    {task : Task} (found : (ofUnits batch services).tasks[position]? = some task) :
    ∃ unit, batch[position]? = some unit ∧ task = { unit := unit } := by
  simp only [ofUnits, List.getElem?_map, Option.map_eq_some_iff] at found
  rcases found with ⟨unit, here, rfl⟩
  exact ⟨unit, here, rfl⟩

theorem consistentBy_ofUnits (allowed : SourceFile → Except SyntaxError ParseOutput → Prop)
    (stage : ParseStage) (batch : List CompilationUnit) (services : Services) :
    (ofUnits batch services).ConsistentBy allowed stage batch services.session [] := by
  refine ⟨⟨List.length_map _, ?_, by simp, List.nodup_nil⟩, ⟨⟨?_, ?_⟩, ?_⟩, [], [], .refl _, ?_, ?_⟩
  · intro position unit task here found
    rcases getElem?_ofUnits found with ⟨other, there, rfl⟩
    exact ⟨Option.some.inj (there.symm.trans here), rfl⟩
  · intro raised
    exact absurd raised Bool.false_ne_true
  · rintro ⟨position, task, found, fatal⟩
    rcases getElem?_ofUnits found with ⟨unit, -, rfl⟩
    exact absurd fatal Bool.false_ne_true
  · intro position task found skipped
    rcases getElem?_ofUnits found with ⟨unit, -, rfl⟩
    simp at skipped
  · simp [ofUnits, Task.owedLabels, List.flatMap_map]
  · simp [ofUnits, Task.owedDiagnostics, List.flatMap_map]

theorem consistent_ofUnits (stage : ParseStage) (batch : List CompilationUnit)
    (services : Services) :
    (ofUnits batch services).Consistent stage batch services.session [] :=
  consistentBy_ofUnits _ stage batch services

/-- Exchanging one element exchanges what it contributes. -/
theorem perm_flatMap_set {α β : Type} {list : List α} {position : Nat} {old new : α}
    (found : list[position]? = some old) (part : α → List β) {gained more : List β}
    (exchanged : gained ++ part new = part old ++ more) :
    (gained ++ (list.set position new).flatMap part).Perm (list.flatMap part ++ more) := by
  classical
  rcases List.getElem?_eq_some_iff.1 found with ⟨within, rfl⟩
  have whole : list = list.take position ++ list[position] :: list.drop (position + 1) := by
    rw [← List.drop_eq_getElem_cons within, List.take_append_drop]
  rw [List.set_eq_take_append_cons_drop, if_pos within, List.perm_iff_count]
  intro element
  have parts := congrArg (fun elements => List.count element (elements.flatMap part)) whole
  have count := congrArg (List.count element) exchanged
  simp only [List.count_append, List.flatMap_append, List.flatMap_cons] at parts count ⊢
  omega

section Step

variable {batch : List CompilationUnit} {pool : Pool} {calls : List Call} {position : Nat}
  {task : Task} {allowed : SourceFile → Except SyntaxError ParseOutput → Prop}
  {factory : ParserFactory}

/-- The pool after a step of one of its tasks. -/
def stepped (stage : ParseStage) (token : CancelToken) (pool : Pool) (position : Nat)
    (task : Task) : Pool where
  tasks := pool.tasks.set position (task.step stage token pool.shared).1
  shared := (task.step stage token pool.shared).2

/-- The call that is made in a step of a task, if there is one. -/
def newCalls (stage : ParseStage) (token : CancelToken) (pool : Pool) (position : Nat)
    (task : Task) : List Call :=
  (task.answer? stage token pool.shared).toList.map fun answer =>
    ⟨position, task.unit.source, answer⟩

/-- A task after a step is the one that took it, or one that was there before. -/
theorem getElem?_stepped {other : Nat} {otherTask : Task}
    (found : pool.tasks[position]? = some task)
    (otherFound : (pool.stepped stage token position task).tasks[other]? = some otherTask) :
    position = other ∧ otherTask = (task.step stage token pool.shared).1 ∨
      position ≠ other ∧ pool.tasks[other]? = some otherTask := by
  by_cases same : position = other
  · subst same
    rw [stepped, List.getElem?_set_self (List.getElem?_eq_some_iff.1 found).1] at otherFound
    exact .inl ⟨rfl, (Option.some.inj otherFound).symm⟩
  · rw [stepped, List.getElem?_set_ne same] at otherFound
    exact .inr ⟨same, otherFound⟩

theorem RecordedBy.exists_unit (recorded : pool.RecordedBy allowed stage batch calls)
    (found : pool.tasks[position]? = some task) :
    ∃ unit, batch[position]? = some unit ∧ task.Fits stage unit (answerAt calls position) := by
  have within : position < pool.tasks.length := (List.getElem?_eq_some_iff.1 found).1
  have here := List.getElem?_eq_getElem (recorded.length ▸ within)
  exact ⟨_, here, recorded.fits position _ task here found⟩

theorem RecordedBy.placed (recorded : pool.RecordedBy allowed stage batch calls)
    (gives : factory.Gives allowed)
    (placed : ∀ unit ∈ batch, ∀ answer, allowed unit.source answer → Placed unit.source answer)
    (found : pool.tasks[position]? = some task) (answer : Except SyntaxError ParseOutput)
    (answers : task.answer? (stage.withFactory factory) token pool.shared = some answer) :
    Placed task.unit.source answer := by
  rcases recorded.exists_unit found with ⟨unit, here, fits⟩
  rcases Task.exists_signal_of_answer? answers with ⟨signal, rfl⟩
  rw [fits.source]
  exact placed unit (List.mem_of_getElem? here) _ (gives signal unit.source)

/-- The step may be one with other parsers than those of the stage. -/
theorem RecordedBy.step (recorded : pool.RecordedBy allowed stage batch calls)
    (gives : factory.Gives allowed)
    (placed : ∀ unit ∈ batch, ∀ answer, allowed unit.source answer → Placed unit.source answer)
    (found : pool.tasks[position]? = some task) :
    (pool.stepped (stage.withFactory factory) token position task).RecordedBy allowed stage batch
      (calls ++ pool.newCalls (stage.withFactory factory) token position task) := by
  rcases recorded.exists_unit found with ⟨unit, here, fits⟩
  have fitted : task.Fits (stage.withFactory factory) unit (answerAt calls position) := fits
  constructor
  · exact List.length_set.trans recorded.length
  · intro other otherUnit otherTask otherHere otherFound
    rw [newCalls, answerAt_append, answerAt_toList]
    rcases getElem?_stepped found otherFound with ⟨rfl, rfl⟩ | ⟨different, otherFound⟩
    · rw [here] at otherHere
      rw [if_pos rfl, ← Option.some.inj otherHere]
      exact fitted.step (recorded.placed gives placed found)
    · rw [if_neg different, Option.or_none]
      exact recorded.fits other otherUnit otherTask otherHere otherFound
  · intro call member
    rcases List.mem_append.1 member with old | new
    · exact recorded.genuine call old
    · simp only [newCalls, List.mem_map, Option.mem_toList] at new
      rcases new with ⟨answer, answers, rfl⟩
      rcases Task.exists_signal_of_answer? answers with ⟨signal, parsed⟩
      exact ⟨unit, here, fits.source, fits.source ▸ parsed ▸ gives signal task.unit.source⟩
  · rw [newCalls, List.map_append, List.map_map]
    -- A task that is about to call its parser fits no earlier answer.
    refine recorded.once.append ?_ ?_
    · cases task.answer? (stage.withFactory factory) token pool.shared <;> simp
    · intro other old new
      simp only [List.mem_map, Option.mem_toList, Function.comp_apply] at new
      rcases new with ⟨answer, answers, rfl⟩
      exact answerAt_eq_none_iff.1 (fitted.eq_none_of_answer? answers) old

theorem HaltsForReason.step (halts : pool.HaltsForReason stage)
    (found : pool.tasks[position]? = some task) {unit : CompilationUnit}
    {answer? : Option (Except SyntaxError ParseOutput)} (fits : task.Fits stage unit answer?) :
    (pool.stepped stage token position task).HaltsForReason stage := by
  have within : position < pool.tasks.length := (List.getElem?_eq_some_iff.1 found).1
  have raises : (pool.stepped stage token position task).shared.halted = true ↔ _ :=
    Task.halted_step fits fun fatal => halts.halted.2 ⟨position, task, found, fatal⟩
  refine ⟨raises.trans ⟨?_, ?_⟩, ?_⟩
  · -- A task that has ended fatally stays as it is, so it still accounts for the flag.
    rintro (up | fatal)
    · rcases halts.halted.1 up with ⟨other, otherTask, otherFound, fatal⟩
      by_cases same : position = other
      · subst same
        rw [found] at otherFound
        refine ⟨position, _, List.getElem?_set_self within, Task.isFatal_step ?_⟩
        rw [Option.some.inj otherFound]
        exact fatal
      · exact ⟨other, otherTask, (List.getElem?_set_ne same).trans otherFound, fatal⟩
    · exact ⟨position, _, List.getElem?_set_self within, fatal⟩
  · rintro ⟨other, otherTask, otherFound, fatal⟩
    rcases getElem?_stepped found otherFound with ⟨rfl, rfl⟩ | ⟨different, otherFound⟩
    · exact .inr fatal
    · exact .inl (halts.halted.2 ⟨other, otherTask, otherFound, fatal⟩)
  · intro other otherTask otherFound skipped
    rcases getElem?_stepped found otherFound with ⟨rfl, rfl⟩ | ⟨different, otherFound⟩
    · exact Task.skipped_step (halts.skipped position task found) skipped
    · exact raises.2 (.inl (halts.skipped other otherTask otherFound skipped))

theorem Accounted.step {before : Session} (accounted : pool.Accounted stage before calls)
    (placed : ∀ answer, task.answer? stage token pool.shared = some answer →
      Placed task.unit.source answer)
    (found : pool.tasks[position]? = some task) :
    (pool.stepped stage token position task).Accounted stage before
      (calls ++ pool.newCalls stage token position task) := by
  -- The other tasks owe what they owed, so the step exchanges the part of one task.
  rcases accounted with ⟨labels, diagnostics, grown, labelled, reported⟩
  rcases Task.grows_step placed with ⟨newLabels, newDiagnostics, more, labelsHere, reportsHere⟩
  refine ⟨labels ++ newLabels, diagnostics ++ newDiagnostics, grown.trans more, ?_, ?_⟩
  · have exchanged := perm_flatMap_set found Task.owedLabels labelsHere
    rw [newCalls, List.append_assoc, List.map_append, List.map_map]
    refine (exchanged.append_left labels).trans ?_
    rw [← List.append_assoc]
    exact labelled.append_right _
  · have exchanged := perm_flatMap_set found Task.owedDiagnostics reportsHere
    rw [newCalls, List.append_assoc, List.flatMap_append, List.flatMap_map]
    refine (exchanged.append_left diagnostics).trans ?_
    rw [← List.append_assoc]
    exact reported.append_right _

end Step

section Run

variable {batch : List CompilationUnit} {before : Session} {pool : Pool} {calls : List Call}
  {allowed : SourceFile → Except SyntaxError ParseOutput → Prop} {factory : ParserFactory}

/-- Every event keeps a pool consistent, also one with other parsers than those of the stage. -/
theorem ConsistentBy.act (consistent : pool.ConsistentBy allowed stage batch before calls)
    (gives : factory.Gives allowed)
    (placed : ∀ unit ∈ batch, ∀ answer, allowed unit.source answer → Placed unit.source answer)
    (event : Event) :
    (pool.act (stage.withFactory factory) token event).ConsistentBy allowed stage batch before
      (calls ++ pool.called (stage.withFactory factory) token event) := by
  have recorded := consistent.recorded
  have halts := consistent.halts
  cases event with
  | cancel family =>
    rw [called, List.append_nil]
    exact ⟨⟨recorded.length, recorded.fits, recorded.genuine, recorded.once⟩,
      ⟨halts.halted, halts.skipped⟩, consistent.accounted⟩
  | work position =>
    cases found : pool.tasks[position]? with
    | none => simpa [Pool.act, called, found, step_of_getElem?_eq_none found] using consistent
    | some task =>
      rw [Pool.act, step_of_getElem? found]
      simp only [called, found]
      rcases recorded.exists_unit found with ⟨unit, _, fits⟩
      -- Which failures are fatal, and what is reported of an answer, is not up to the parsers.
      have sameHalts : pool.HaltsForReason (stage.withFactory factory) :=
        ⟨halts.halted, halts.skipped⟩
      have stepped : (pool.stepped (stage.withFactory factory) token position task).HaltsForReason
          (stage.withFactory factory) := sameHalts.step found fits
      have sameAccount : pool.Accounted (stage.withFactory factory) before calls :=
        consistent.accounted
      exact ⟨recorded.step gives placed found, ⟨stepped.halted, stepped.skipped⟩,
        sameAccount.step (recorded.placed gives placed found) found⟩

variable (placed : ∀ unit ∈ batch, ∀ signal,
  Placed unit.source (stage.factory.parse signal unit.source))

include placed

theorem Consistent.act (consistent : pool.Consistent stage batch before calls) (event : Event) :
    (pool.act stage token event).Consistent stage batch before
      (calls ++ pool.called stage token event) := by
  refine ConsistentBy.act consistent stage.factory.gives_answers ?_ event
  rintro unit member _ ⟨signal, rfl⟩
  exact placed unit member signal

/-- A pool that is consistent is so after every run of events. -/
theorem Consistent.run (consistent : pool.Consistent stage batch before calls)
    (events : List Event) :
    (pool.run stage token events).Consistent stage batch before
      (calls ++ pool.calls stage token events) :=
  run_induction (fun _ _ event _ consistent => consistent.act placed event) calls consistent

theorem consistent_run (services : Services) (events : List Event) :
    ((ofUnits batch services).run stage token events).Consistent stage batch services.session
      ((ofUnits batch services).calls stage token events) :=
  Consistent.run placed (consistent_ofUnits stage batch services) events

end Run

end Pool

end ParseStage

end StagePipeline
