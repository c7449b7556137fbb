import Mathlib.Data.List.Forall2
import StagePipeline.Proofs.ParallelRecord
import StagePipeline.Proofs.ProgramAnswers

/-!
# Parse stages whose parsers may be interrupted

Between two steps of a parse stage others may cancel its token, or its time may run
out, so a parser is asked under signals that nobody knows beforehand.  Each time a
stage calls a parser, `ParserFactory.IsProgram` leaves it every answer that a parser of
programs may give.  `Walks` and `Pool.Reaches` are the runs of a stage in which that
happens, in order and with workers, and `Applied` is what an application comes to;
`applied_apply` says that `apply` is one of these.

What an application does to a unit is said by `CompilationUnit.ReplacedBy`: nothing, or
it stores a tree that a parser built from the source of the unit.
-/

namespace StagePipeline

open Program

/-! ### What becomes of a unit -/

/-- The unit is as it was or has got a tree that may be made of its source. -/
def CompilationUnit.ReplacedBy (made : SourceFile → SyntaxTree → Prop)
    (before after : CompilationUnit) : Prop :=
  after = before ∨ ∃ tree, made before.source tree ∧ after = before.withTree tree

namespace CompilationUnit.ReplacedBy

variable {made more : SourceFile → SyntaxTree → Prop} {before middle after : CompilationUnit}

theorem refl (made : SourceFile → SyntaxTree → Prop) (unit : CompilationUnit) :
    unit.ReplacedBy made unit :=
  .inl rfl

theorem source_eq (replaced : before.ReplacedBy made after) : after.source = before.source := by
  rcases replaced with rfl | ⟨tree, _, rfl⟩ <;> rfl

theorem mono (replaced : before.ReplacedBy made after)
    (weaker : ∀ source tree, made source tree → more source tree) :
    before.ReplacedBy more after := by
  rcases replaced with same | ⟨tree, built, stored⟩
  · exact .inl same
  · exact .inr ⟨tree, weaker _ _ built, stored⟩

theorem trans (first : before.ReplacedBy made middle) (second : middle.ReplacedBy made after) :
    before.ReplacedBy made after := by
  rcases second with rfl | ⟨tree, built, rfl⟩
  · exact first
  · rw [first.source_eq] at built
    refine .inr ⟨tree, built, ?_⟩
    rcases first with rfl | ⟨_, _, rfl⟩ <;> rfl

theorem isParsed (replaced : before.ReplacedBy made after) (parsed : before.isParsed = true) :
    after.isParsed = true := by
  rcases replaced with rfl | ⟨tree, _, rfl⟩
  · exact parsed
  · rfl

end CompilationUnit.ReplacedBy

/-- A factory whose parsers are parsers of programs that may be interrupted at any moment. -/
def ParserFactory.IsProgram (options : ParserOptions) (factory : ParserFactory) : Prop :=
  ∀ signal source, options.MayAnswer source (factory.parse signal source)

theorem ParserFactory.isProgram_program (options : ParserOptions) :
    (ParserFactory.program options).IsProgram options :=
  fun signal source => options.mayAnswer_parse signal source

namespace ParseStage

variable {stage : ParseStage} {options : ParserOptions} {token : CancelToken}
  {factory : ParserFactory} {unit : CompilationUnit} {services : Services}

theorem exists_diagnostic {source : SourceFile} {answer : Except SyntaxError ParseOutput}
    (given : options.MayAnswer source answer) (stage : ParseStage) {error : SyntaxError}
    (member : error ∈ reportedErrors answer) :
    ∃ diagnostic, stage.diagnostic? source error = some diagnostic :=
  ⟨_, diagnostic?_of_placed given.placed member⟩

/-! ### Parsing in order -/

/-- The visit of a unit leaves it sound, and no position was missing. -/
structure Visit.Sound (options : ParserOptions) (unit : CompilationUnit) (visit : Visit) :
    Prop where
  replaced : unit.ReplacedBy options.MayBuild visit.unit
  located : ∀ name, visit.verdict ≠ .stopped (.unlocatable name)

theorem sound_settle {error : SyntaxError}
    (located : ∃ diagnostic, stage.diagnostic? unit.source error = some diagnostic)
    (services : Services) :
    Visit.Sound options unit (stage.settle unit (.rejected error) services) := by
  rcases located with ⟨diagnostic, found⟩
  cases fatal : stage.isFatal error with
  | true =>
    simp only [settle, fatal, if_true]
    refine ⟨.refl _ _, fun name same => ?_⟩
    cases error <;> cases same
  | false =>
    simp only [settle, fatal, found]
    exact ⟨.refl _ _, fun _ same => by cases same⟩

theorem sound_parseTimed (program : stage.factory.IsProgram options) :
    Visit.Sound options unit (stage.parseTimed token unit services) := by
  have given := program ((stage.build unit.source services).poll token) unit.source
  rw [parseTimed, attempt]
  cases answered : stage.factory.parse ((stage.build unit.source services).poll token)
      unit.source with
  | error error =>
    rw [answered] at given
    rw [judge_error]
    dsimp only
    split
    · exact ⟨.refl _ _, fun _ same => by cases same⟩
    · exact sound_settle (exists_diagnostic given stage (List.mem_singleton_self error)) _
  | ok output =>
    rw [answered] at given
    rw [judge_ok given.placed]
    have replaced : unit.ReplacedBy options.MayBuild (unit.withTree output.tree) :=
      .inr ⟨output.tree, ⟨output, given, rfl⟩, rfl⟩
    dsimp only
    split <;> exact ⟨replaced, fun _ same => by cases same⟩

theorem sound_visit (program : stage.factory.IsProgram options) :
    Visit.Sound options unit (stage.visit token unit services) := by
  rw [visit]
  split
  · exact ⟨.refl _ _, fun _ same => by cases same⟩
  · split
    · exact ⟨.refl _ _, fun _ same => by cases same⟩
    · exact sound_parseTimed program

/-- The walk over a batch whose first unit was visited and whose others are walked as told. -/
def Visit.before (visited : Visit) (rest : List CompilationUnit) (later : Walk) : Walk :=
  match visited.verdict with
  | .parsed => later.withUnit visited.unit
  | .collected => later.withFailure visited.unit
  | .stopped error =>
    { units := visited.unit :: rest, services := visited.services, stopped := some error }

/--
The walks over a batch.  Before each visit others may have cancelled families of
tokens, and each parser may be interrupted at any moment.
-/
inductive Walks (stage : ParseStage) (options : ParserOptions) (token : CancelToken) :
    List CompilationUnit → Services → Walk → Prop
  | nil (services : Services) :
    Walks stage options token [] services { units := [], services := services }
  | cons {services : Services} {factory : ParserFactory} (program : factory.IsProgram options)
    (families : List Nat) (unit : CompilationUnit) {rest : List CompilationUnit} {visited : Visit}
    (visits : visited = (stage.withFactory factory).visit token unit
      { services with cancelled := families ++ services.cancelled })
    {later : Walk} (walks : Walks stage options token rest visited.services later) :
    Walks stage options token (unit :: rest) services (visited.before rest later)

theorem walks_walk (program : stage.factory.IsProgram options) (units : List CompilationUnit)
    (services : Services) :
    Walks stage options token units services (stage.walk token units services) := by
  induction units generalizing services with
  | nil => exact .nil services
  | cons unit rest inductive_hypothesis =>
    exact .cons program [] unit rfl (inductive_hypothesis _)

/-- The units after a walk are sound, and no position was missing. -/
structure Walk.Sound (options : ParserOptions) (units : List CompilationUnit) (walk : Walk) :
    Prop where
  replaced : List.Forall₂ (CompilationUnit.ReplacedBy options.MayBuild) units walk.units
  located : ∀ name, walk.stopped ≠ some (.unlocatable name)

theorem Walk.sound_unstarted (units : List CompilationUnit) (services : Services) :
    (unstarted units services).Sound options units :=
  ⟨List.forall₂_same.2 fun unit _ => .refl _ unit, nofun⟩

theorem Walk.Sound.error? {units : List CompilationUnit} {walk : Walk}
    (sound : Walk.Sound options units walk) (name : String) :
    walk.error? ≠ some (.unlocatable name) :=
  fun fails => sound.located name (stopped_of_error? nofun fails)

theorem Visit.Sound.before {visited : Visit} (sound : visited.Sound options unit)
    {rest : List CompilationUnit} {later : Walk} (others : later.Sound options rest) :
    (visited.before rest later).Sound options (unit :: rest) := by
  rcases visited with ⟨verdict, after, services⟩
  cases verdict with
  | parsed => exact ⟨.cons sound.replaced others.replaced, others.located⟩
  | collected => exact ⟨.cons sound.replaced others.replaced, others.located⟩
  | stopped error =>
    refine ⟨.cons sound.replaced (List.forall₂_same.2 fun other _ => .refl _ other), ?_⟩
    intro name stopped
    exact sound.located name (congrArg Verdict.stopped (Option.some.inj stopped))

theorem Walks.sound {units : List CompilationUnit} {walk : Walk}
    (walks : Walks stage options token units services walk) : walk.Sound options units := by
  induction walks with
  | nil services => exact ⟨.nil, nofun⟩
  | cons program families unit visits walks inductive_hypothesis =>
    rw [visits]
    exact (sound_visit program).before inductive_hypothesis

/-! ### Parsing with workers -/

/-- Why the unit has no tree, from the moment on at which its parser has failed. -/
def Progress.failure? : Progress → Option UnitFailure
  | .closing _ failure => failure
  | .halting failure => some failure
  | .done (.failed failure) => some failure
  | _ => none

/-- What may be told of the work on a unit: an answer of a parser that it follows from. -/
def Task.Sound (options : ParserOptions) (stage : ParseStage) (unit : CompilationUnit)
    (task : Task) : Prop :=
  ∃ answer?, (∀ answer ∈ answer?, options.MayAnswer unit.source answer) ∧
    task.Fits stage unit answer?

namespace Task.Sound

variable {task : Task}

theorem step (sound : task.Sound options stage unit) (program : factory.IsProgram options)
    (shared : Shared) :
    (task.step (stage.withFactory factory) token shared).1.Sound options stage unit := by
  rcases sound with ⟨answer?, given, fits⟩
  have fitted : task.Fits (stage.withFactory factory) unit answer? := fits
  have answers : ∀ answer, task.answer? (stage.withFactory factory) token shared = some answer →
      options.MayAnswer unit.source answer := by
    intro answer called
    rcases exists_signal_of_answer? called with ⟨signal, rfl⟩
    rw [fits.source]
    exact program signal unit.source
  refine ⟨answer?.or (task.answer? (stage.withFactory factory) token shared), ?_, ?_⟩
  · intro answer member
    rcases Option.or_eq_some_iff.1 member with early | ⟨_, called⟩
    · exact given answer early
    · exact answers answer called
  · refine fitted.step fun answer called => ?_
    rw [fits.source]
    exact (answers answer called).placed

/-- A task that failed did so with an error of the parser, and the error has a position. -/
theorem rejected (sound : task.Sound options stage unit) {failure : UnitFailure}
    (failed : task.progress.failure? = some failure) :
    ∃ error, failure = .rejected error ∧
      ∃ diagnostic, stage.diagnostic? task.unit.source error = some diagnostic := by
  rcases sound with ⟨answer?, given, fits⟩
  have answered : ∃ error, answer? = some (.error error) ∧ failure = .rejected error := by
    obtain ⟨current, progress⟩ := task
    cases progress with
    | closing scope failure =>
      rcases failed
      exact fits.2
    | halting failure =>
      rcases failed
      exact fits.2.2
    | done outcome =>
      cases outcome with
      | failed failure =>
        rcases failed
        exact fits.2
      | _ => exact absurd failed nofun
    | _ => exact absurd failed nofun
  rcases answered with ⟨error, same, rfl⟩
  refine ⟨error, rfl, ?_⟩
  rw [fits.source]
  exact exists_diagnostic (given _ same) stage (List.mem_singleton_self error)

theorem located (sound : task.Sound options stage unit) (services : Services) (name : String) :
    (task.judged stage services).verdict ≠ .stopped (.unlocatable name) := by
  rw [judged]
  split
  · intro same
    cases same
  · rename_i failure failed
    have told : task.progress.failure? = some failure := by rw [failed]; rfl
    rcases sound.rejected told with ⟨error, rfl, located⟩
    have settled : Visit.Sound options task.unit _ := sound_settle located services
    exact settled.located name
  · intro same
    cases same

theorem replaced (sound : task.Sound options stage unit) (done : task.isDone = true) :
    unit.ReplacedBy options.MayBuild task.unit := by
  rcases sound with ⟨answer?, given, fits⟩
  rw [fits.unit_of_isDone done]
  cases answer? with
  | none => exact .refl _ _
  | some answer =>
    cases answer with
    | error error => exact .refl _ _
    | ok output => exact .inr ⟨output.tree, ⟨output, given _ rfl, rfl⟩, rfl⟩

end Task.Sound

namespace Pool

/--
The pools that the work on a batch may lead to.  Others may cancel families of tokens
at any moment, and each parser may be interrupted at any moment.
-/
inductive Reaches (stage : ParseStage) (options : ParserOptions) (token : CancelToken)
    (start : Pool) : Pool → Prop
  | start : Reaches stage options token start start
  | act {pool : Pool} (reached : Reaches stage options token start pool)
    {factory : ParserFactory} (program : factory.IsProgram options) (event : Event) :
    Reaches stage options token start (pool.act (stage.withFactory factory) token event)

theorem reaches_run (program : stage.factory.IsProgram options) (start : Pool)
    (events : List Event) : Reaches stage options token start (start.run stage token events) :=
  run_invariant (motive := Reaches stage options token start)
    (fun _ event _ reached => reached.act program event) .start

/-- Two lists stay related when an element of the second is exchanged for a related one. -/
theorem forall₂_set {α β : Type} {relation : α → β → Prop} {left : List α} {right : List β}
    (related : List.Forall₂ relation left right) {position : Nat} {new : β}
    (exchange : ∀ first old, right[position]? = some old → relation first old →
      relation first new) :
    List.Forall₂ relation left (right.set position new) := by
  induction related generalizing position with
  | nil => exact .nil
  | cons here later inductive_hypothesis =>
    cases position with
    | zero => exact .cons (exchange _ _ rfl here) later
    | succ position => exact .cons here (inductive_hypothesis exchange)

/-- Every task of the pool is sound. -/
def Sound (options : ParserOptions) (stage : ParseStage) (units : List CompilationUnit)
    (pool : Pool) : Prop :=
  List.Forall₂ (fun unit task => Task.Sound options stage unit task) units pool.tasks

theorem sound_ofUnits (options : ParserOptions) (stage : ParseStage)
    (units : List CompilationUnit) (services : Services) :
    (ofUnits units services).Sound options stage units := by
  refine List.forall₂_map_right_iff.2 (List.forall₂_same.2 fun unit _ => ?_)
  exact ⟨none, nofun, rfl, rfl⟩

theorem Sound.act {units : List CompilationUnit} {pool : Pool}
    (sound : pool.Sound options stage units) (program : factory.IsProgram options)
    (event : Event) :
    (pool.act (stage.withFactory factory) token event).Sound options stage units := by
  cases event with
  | cancel family => exact sound
  | work position =>
    cases found : pool.tasks[position]? with
    | none =>
      rw [Pool.act, step_of_getElem?_eq_none found]
      exact sound
    | some task =>
      rw [Pool.act, step_of_getElem? found]
      refine forall₂_set sound fun unit old here told => ?_
      rcases Option.some.inj (found.symm.trans here)
      exact told.step program pool.shared

theorem Reaches.sound {units : List CompilationUnit} {services : Services} {pool : Pool}
    (reached : Reaches stage options token (ofUnits units services) pool) :
    pool.Sound options stage units := by
  induction reached with
  | start => exact sound_ofUnits options stage units services
  | act reached program event inductive_hypothesis => exact inductive_hypothesis.act program event

section Gather

variable {units : List CompilationUnit} {tasks : List Task}
  (sound : List.Forall₂ (Task.Sound options stage) units tasks)

include sound

theorem exists_sound {task : Task} (member : task ∈ tasks) :
    ∃ unit, task.Sound options stage unit := by
  induction sound with
  | nil => exact absurd member List.not_mem_nil
  | cons here later inductive_hypothesis =>
    rcases List.mem_cons.1 member with rfl | among
    · exact ⟨_, here⟩
    · exact inductive_hypothesis among

theorem stopped_gather (services : Services) (name : String) :
    (gather stage tasks services).stopped ≠ some (.unlocatable name) := by
  induction sound generalizing services with
  | nil => exact nofun
  | @cons unit task _ _ here later inductive_hypothesis =>
    have located := here.located services name
    rw [gather_cons]
    generalize task.judged stage services = visited at located ⊢
    rcases visited with ⟨verdict, left, after⟩
    cases verdict with
    | parsed => exact inductive_hypothesis after
    | collected => exact inductive_hypothesis after
    | stopped error =>
      intro stopped
      exact located (congrArg Verdict.stopped (Option.some.inj stopped))

theorem replaced_of_done (done : ∀ task ∈ tasks, task.isDone = true) :
    List.Forall₂ (CompilationUnit.ReplacedBy options.MayBuild) units (tasks.map (·.unit)) := by
  induction sound with
  | nil => exact .nil
  | cons here later inductive_hypothesis =>
    rcases List.forall_mem_cons.1 done with ⟨first, rest⟩
    exact .cons (here.replaced first) (inductive_hypothesis rest)

end Gather

theorem Reaches.sound_conclude {units : List CompilationUnit} {services : Services} {pool : Pool}
    (reached : Reaches stage options token (ofUnits units services) pool)
    (done : pool.isDone = true) : (pool.conclude stage).Sound options units where
  replaced := by
    rw [conclude, (gathered_gather stage pool.tasks pool.shared.services).units]
    exact replaced_of_done reached.sound (List.all_eq_true.1 done)
  located := stopped_gather reached.sound pool.shared.services

end Pool

/-! ### Applications -/

/-- What an application of the stage may come to. -/
def Applied (stage : ParseStage) (options : ParserOptions) (units : List CompilationUnit)
    (services : Services) (walk : Walk) : Prop :=
  let token := stage.deadlineToken services.now
  match stage.options.mode with
  | .sequential => Walks stage options token units services.tick walk
  | .parallel =>
    (services.startsWorkers stage.options.workers = true ∧
      ∃ pool, Pool.Reaches stage options token (.ofUnits units services.tick) pool ∧
        pool.isDone = true ∧ walk = pool.conclude stage) ∨
    (services.startsWorkers stage.options.workers = false ∧
      walk = .unstarted units services.tick)

theorem applied_apply (program : stage.factory.IsProgram options) (units : List CompilationUnit)
    (services : Services) :
    stage.Applied options units services (stage.apply units services) := by
  rw [Applied]
  cases mode : stage.options.mode with
  | sequential =>
    simp only [apply, mode]
    exact walks_walk program units services.tick
  | parallel =>
    cases started : services.startsWorkers stage.options.workers with
    | false => exact .inr ⟨rfl, apply_of_not_started mode started units⟩
    | true =>
      have interleaved : ∃ events, _ ∧
          stage.Interleaved units services events (stage.apply units services) :=
        exists_interleaved_apply mode started
      rcases interleaved with ⟨events, _, done, concluded⟩
      exact .inl ⟨rfl, _, Pool.reaches_run program _ events, done, concluded⟩

theorem Applied.sound {units : List CompilationUnit} {walk : Walk}
    (applied : stage.Applied options units services walk) : walk.Sound options units := by
  rw [Applied] at applied
  cases mode : stage.options.mode with
  | sequential =>
    rw [mode] at applied
    exact Walks.sound applied
  | parallel =>
    rw [mode] at applied
    rcases applied with ⟨-, pool, reached, done, rfl⟩ | ⟨-, rfl⟩
    · exact reached.sound_conclude done
    · exact Walk.sound_unstarted units services.tick

end ParseStage

end StagePipeline
