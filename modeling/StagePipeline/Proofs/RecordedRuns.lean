import StagePipeline.Proofs.ParseVerdict

/-!
# Applications and the calls made in them

A parse stage asks one parser after the other, and what the parsers answer is not for the
stage to decide.  An application of the stage is taken here together with the record of
its calls, and each answer is any that a predicate allows, whoever cancels in the
meantime.  A walk records the call of a unit in the visit of that unit, a pool records it
in the step in which the parser is called.

`recorded_apply` says that what `apply` comes to is one of these applications, and
`Applied.exists_recorded` that the applications to programs are some of them, if the
workers start.
-/

namespace StagePipeline

open Program

namespace ParseStage

variable {stage : ParseStage} {token : CancelToken} {options : ParserOptions}
  {allowed : SourceFile → Except SyntaxError ParseOutput → Prop}
  {batch : List CompilationUnit} {services : Services} {walk : Walk}

/-! ### In order -/

/-- The answer of the parser of a unit, if a visit comes to call it. -/
def asked? (stage : ParseStage) (token : CancelToken) (unit : CompilationUnit)
    (services : Services) : Option (Except SyntaxError ParseOutput) :=
  match services.poll token with
  | some _ => none
  | none =>
    match services.tick.start with
    | .error _ => none
    | .ok services =>
      let built := stage.build unit.source services
      some (stage.factory.parse (built.poll token) unit.source)

/-- The same call in a batch with one more unit in front. -/
def Call.later (call : Call) : Call :=
  { call with position := call.position + 1 }

/-- The calls of a walk whose first unit was visited: none come after a visit that stops it. -/
def Visit.calls (visited : Visit) (unit : CompilationUnit)
    (asked? : Option (Except SyntaxError ParseOutput)) (later : List Call) : List Call :=
  asked?.toList.map (⟨0, unit.source, ·⟩) ++
    match visited.verdict with
    | .stopped _ => []
    | _ => later.map (·.later)

/-- The walks over a batch, each with its calls. -/
inductive RecordedWalk (stage : ParseStage)
    (allowed : SourceFile → Except SyntaxError ParseOutput → Prop) (token : CancelToken) :
    List CompilationUnit → Services → Walk → List Call → Prop
  | nil (services : Services) :
    RecordedWalk stage allowed token [] services { units := [], services := services } []
  | cons {services current : Services} {factory : ParserFactory} (gives : factory.Gives allowed)
    {families : List Nat}
    (cancelled : current = { services with cancelled := families ++ services.cancelled })
    (unit : CompilationUnit) {rest : List CompilationUnit} {visited : Visit}
    (visits : visited = (stage.withFactory factory).visit token unit current)
    {later : Walk} {calls : List Call}
    (walks : RecordedWalk stage allowed token rest visited.services later calls) :
    RecordedWalk stage allowed token (unit :: rest) services (visited.before rest later)
      (visited.calls unit ((stage.withFactory factory).asked? token unit current) calls)

theorem exists_recordedWalk (gives : stage.factory.Gives allowed) (batch : List CompilationUnit)
    (services : Services) :
    ∃ calls, RecordedWalk stage allowed token batch services (stage.walk token batch services)
      calls := by
  induction batch generalizing services with
  | nil => exact ⟨[], .nil services⟩
  | cons unit rest inductive_hypothesis =>
    rcases inductive_hypothesis (stage.visit token unit services).services with ⟨calls, recorded⟩
    have nobody : services = { services with cancelled := [] ++ services.cancelled } := rfl
    exact ⟨_, .cons gives nobody unit rfl recorded⟩

theorem Walks.exists_recorded (walks : Walks stage options token batch services walk) :
    ∃ calls, RecordedWalk stage options.MayAnswer token batch services walk calls := by
  induction walks with
  | nil services => exact ⟨[], .nil services⟩
  | cons program families unit visits walks inductive_hypothesis =>
    rcases inductive_hypothesis with ⟨calls, recorded⟩
    exact ⟨_, .cons program rfl unit visits recorded⟩

/-! ### With workers -/

/-- The pools that the work on a batch may lead to, each with the calls made so far. -/
inductive RecordedPool (stage : ParseStage)
    (allowed : SourceFile → Except SyntaxError ParseOutput → Prop) (token : CancelToken)
    (start : Pool) : Pool → List Call → Prop
  | start : RecordedPool stage allowed token start start []
  | act {pool : Pool} {calls : List Call}
    (recorded : RecordedPool stage allowed token start pool calls) {factory : ParserFactory}
    (gives : factory.Gives allowed) (event : Event) :
    RecordedPool stage allowed token start (pool.act (stage.withFactory factory) token event)
      (calls ++ pool.called (stage.withFactory factory) token event)

theorem recordedPool_run (gives : stage.factory.Gives allowed) (start : Pool)
    (events : List Event) :
    RecordedPool stage allowed token start (start.run stage token events)
      (start.calls stage token events) :=
  Pool.run_induction (motive := RecordedPool stage allowed token start)
    (fun _ _ event _ recorded => recorded.act gives event) [] .start

theorem Pool.Reaches.exists_recorded {start pool : Pool}
    (reached : Pool.Reaches stage options token start pool) :
    ∃ calls, RecordedPool stage options.MayAnswer token start pool calls := by
  induction reached with
  | start => exact ⟨[], .start⟩
  | act reached program event inductive_hypothesis =>
    rcases inductive_hypothesis with ⟨calls, recorded⟩
    exact ⟨_, recorded.act program event⟩

/-! ### Applications -/

/-- What an application of the stage may come to, with the calls made in it.  An application with
workers is one whose workers have started. -/
def Recorded (stage : ParseStage) (allowed : SourceFile → Except SyntaxError ParseOutput → Prop)
    (batch : List CompilationUnit) (services : Services) (walk : Walk) (calls : List Call) : Prop :=
  let token := stage.deadlineToken services.now
  match stage.options.mode with
  | .sequential => RecordedWalk stage allowed token batch services.tick walk calls
  | .parallel =>
    ∃ pool, RecordedPool stage allowed token (.ofUnits batch services.tick) pool calls ∧
      pool.isDone = true ∧ walk = pool.conclude stage

theorem recorded_apply (gives : stage.factory.Gives allowed) (batch : List CompilationUnit)
    (started : stage.options.mode = .parallel →
      services.startsWorkers stage.options.workers = true) :
    ∃ calls, stage.Recorded allowed batch services (stage.apply batch services) calls := by
  cases mode : stage.options.mode with
  | sequential =>
    simp only [Recorded, apply, mode]
    exact exists_recordedWalk gives batch services.tick
  | parallel =>
    have interleaved : ∃ events, _ ∧
        stage.Interleaved batch services events (stage.apply batch services) :=
      exists_interleaved_apply mode (started mode)
    rcases interleaved with ⟨events, _, done, concluded⟩
    simp only [Recorded, mode]
    exact ⟨_, _, recordedPool_run gives _ events, done, concluded⟩

/-- Every interleaving of the workers is recorded with the calls of its events. -/
theorem Interleaved.recorded (parallel : stage.options.mode = .parallel)
    (gives : stage.factory.Gives allowed) {events : List Event}
    (interleaved : stage.Interleaved batch services events walk) :
    stage.Recorded allowed batch services walk
      ((Pool.ofUnits batch services.tick).calls stage (stage.deadlineToken services.now)
        events) := by
  rw [Recorded, parallel]
  exact ⟨_, recordedPool_run gives _ events, interleaved⟩

theorem Applied.exists_recorded (applied : stage.Applied options batch services walk) :
    walk.stopped = some .workerPool ∨
      ∃ calls, stage.Recorded options.MayAnswer batch services walk calls := by
  rw [Applied] at applied
  cases mode : stage.options.mode with
  | sequential =>
    rw [mode] at applied
    simp only [Recorded, mode]
    exact .inr (Walks.exists_recorded applied)
  | parallel =>
    rw [mode] at applied
    rcases applied with ⟨-, pool, reached, ends⟩ | ⟨-, rfl⟩
    · rcases reached.exists_recorded with ⟨calls, recorded⟩
      simp only [Recorded, mode]
      exact .inr ⟨calls, pool, recorded, ends⟩
    · exact .inl rfl

end ParseStage

end StagePipeline
