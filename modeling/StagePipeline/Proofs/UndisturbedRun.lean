import StagePipeline.Proofs.ParallelRecord
import StagePipeline.Proofs.SequentialWalk

/-!
# Runs that nobody disturbs

When the parser is a function of the source, the token has no reason to stop and
nobody cancels it during the run, no task is interrupted.  So at the end of the
run a task has either been skipped or has come to what its source alone decides.
Both comparisons with a sequential application start from here.
-/

namespace StagePipeline

open Program

/-- Cancelling another family gives a token no reason to stop. -/
theorem Services.Live.cancel_other {services : Services} {token : CancelToken}
    (live : services.Live token) {family : Nat} (other : family ≠ token.family) :
    Services.Live { services with cancelled := family :: services.cancelled } token := by
  intro reading later
  have quiet := live reading later
  simp only [CancelToken.check, List.contains_cons, beq_false_of_ne other.symm, Bool.false_or]
    at quiet ⊢
  exact quiet

namespace ParseStage

variable {stage : ParseStage} {parse : SourceFile → Except SyntaxError ParseOutput}
  {token : CancelToken}

/-- Narrowing the token of the stage keeps its family. -/
theorem family_deadlineToken (stage : ParseStage) (now : Instant) :
    (stage.deadlineToken now).family = stage.token.family := by
  rw [deadlineToken]
  cases stage.options.timeoutMilliseconds <;> rfl

/-- Where only the workers act, nobody cancels anything. -/
theorem ne_cancel_of_work {events : List Event}
    (work : ∀ event ∈ events, ∃ position, event = .work position) (family : Nat) :
    ∀ event ∈ events, event ≠ .cancel family := by
  rintro event member rfl
  rcases work _ member with ⟨position, same⟩
  exact Event.noConfusion same

/-! ### No task is interrupted -/

/-- The token has stopped the work on the unit. -/
def Task.isInterrupted (task : Task) : Bool :=
  match task.progress with
  | .stopping _ => true
  | .done (.interrupted _) => true
  | _ => false

theorem Task.isInterrupted_step {task : Task} {shared : Shared}
    (live : shared.services.Live token) (free : task.isInterrupted = false) :
    (task.step stage token shared).1.isInterrupted = false := by
  have quiet : shared.services.poll token = none := live.poll_eq_none
  obtain ⟨unit, progress⟩ := task
  cases progress with
  | waiting => cases up : shared.halted <;> simp [Task.step, advance, isInterrupted, up]
  | admitted => simp [Task.step, advance, isInterrupted, quiet]
  | stopping reason => simp [isInterrupted] at free
  | built scope =>
    cases attempted : stage.attempt (shared.services.poll token) unit.source <;>
      simp [Task.step, advance, isInterrupted, attempted]
  | reporting scope tree remaining => cases remaining <;> rfl
  | closing scope failure =>
    cases failure with
    | none => rfl
    | some failure =>
      cases fatal : stage.halts failure <;> simp [Task.step, advance, isInterrupted, fatal]
  | done outcome => exact free
  | _ => rfl

namespace Pool

/-- The token has no reason to stop, and it has not stopped any work. -/
structure Undisturbed (token : CancelToken) (pool : Pool) : Prop where
  live : pool.shared.services.Live token
  free : ∀ task ∈ pool.tasks, task.isInterrupted = false

theorem Undisturbed.act (collaborator : stage.factory = .ofFunction parse) {pool : Pool}
    (undisturbed : pool.Undisturbed token) {event : Event}
    (quiet : event ≠ .cancel token.family) :
    (pool.act stage token event).Undisturbed token := by
  cases event with
  | cancel family =>
    have other : family ≠ token.family := fun same => quiet (congrArg _ same)
    exact ⟨undisturbed.live.cancel_other other, undisturbed.free⟩
  | work position =>
    cases found : pool.tasks[position]? with
    | none =>
      rw [Pool.act, step_of_getElem?_eq_none found]
      exact undisturbed
    | some task =>
      rw [Pool.act, step_of_getElem? found]
      have here := undisturbed.free task (List.mem_of_getElem? found)
      rcases task.services_step stage token pool.shared with ⟨cancelled, reading, taken⟩
      constructor
      · -- A factory that is a function of the source cancels nothing.
        have same := cancelled.resolve_right (by simp [collaborator, ParserFactory.ofFunction])
        intro reached later
        rw [same, reading]
        exact undisturbed.live reached (Nat.le_trans taken later)
      · intro other member
        rcases List.mem_or_eq_of_mem_set member with old | rfl
        · exact undisturbed.free other old
        · exact Task.isInterrupted_step undisturbed.live here

theorem Undisturbed.run (collaborator : stage.factory = .ofFunction parse) {pool : Pool}
    (undisturbed : pool.Undisturbed token) {events : List Event}
    (quiet : ∀ event ∈ events, event ≠ .cancel token.family) :
    (pool.run stage token events).Undisturbed token :=
  run_invariant (fun _ event among undisturbed =>
    undisturbed.act collaborator (quiet event among)) undisturbed

theorem undisturbed_ofUnits (batch : List CompilationUnit) {services : Services}
    (live : services.Live token) : (ofUnits batch services).Undisturbed token := by
  refine ⟨live, ?_⟩
  intro task member
  rcases List.mem_map.1 member with ⟨unit, -, rfl⟩
  rfl

/-! ### What the source alone decides -/

section Recorded

variable {batch : List CompilationUnit} {pool : Pool} {calls : List Call}

theorem RecordedBy.eq_parse
    (recorded : pool.RecordedBy stage.factory.Answers stage batch calls)
    (collaborator : stage.factory = .ofFunction parse) {call : Call} (member : call ∈ calls) :
    ∃ unit, batch[call.position]? = some unit ∧ call.source = unit.source ∧
      call.answer = parse unit.source := by
  rcases recorded.genuine call member with ⟨unit, here, same, signal, answered⟩
  rw [collaborator] at answered
  exact ⟨unit, here, same, answered.symm⟩

theorem RecordedBy.answer_eq_parse
    (recorded : pool.RecordedBy stage.factory.Answers stage batch calls)
    (collaborator : stage.factory = .ofFunction parse) {position : Nat} {unit : CompilationUnit}
    {answer : Except SyntaxError ParseOutput} (here : batch[position]? = some unit)
    (answered : answerAt calls position = some answer) : answer = parse unit.source := by
  rcases exists_call_of_answerAt answered with ⟨call, member, rfl, rfl⟩
  rcases recorded.eq_parse collaborator member with ⟨other, there, -, same⟩
  rwa [Option.some.inj (here.symm.trans there)]

/-- At the end a task has been skipped, or it has come to what its source decides. -/
theorem RecordedBy.skipped_or_ended
    (recorded : pool.RecordedBy stage.factory.Answers stage batch calls)
    (collaborator : stage.factory = .ofFunction parse) (undisturbed : pool.Undisturbed token)
    {position : Nat} {unit : CompilationUnit} {task : Task} (here : batch[position]? = some unit)
    (found : pool.tasks[position]? = some task) (done : task.isDone = true) :
    answerAt calls position = none ∧ task = ⟨unit, .done .skipped⟩ ∨
      answerAt calls position = some (parse unit.source) ∧
        task.Ended unit (some (parse unit.source)) := by
  have ended : task.Ended unit (answerAt calls position) :=
    (recorded.fits position unit task here found).ended done
  cases answered : answerAt calls position with
  | none =>
    rw [answered] at ended
    rcases ended with skipped | ⟨reason, rfl⟩
    · exact .inl ⟨rfl, skipped⟩
    · exact absurd (undisturbed.free _ (List.mem_of_getElem? found)).symm Bool.false_ne_true
  | some answer =>
    rw [answered] at ended
    obtain rfl := recorded.answer_eq_parse collaborator here answered
    exact .inr ⟨rfl, ended⟩

end Recorded

end Pool

/-! ### The walks that workers can end in -/

/-- Workers can come to this walk while nobody else cancels the token of the stage. -/
def CanEndIn (stage : ParseStage) (batch : List CompilationUnit) (services : Services)
    (walk : Walk) : Prop :=
  ∃ events, (∀ event ∈ events, event ≠ .cancel stage.token.family) ∧
    stage.Interleaved batch services events walk

section CanEndIn

variable {batch : List CompilationUnit} {services : Services} {walk : Walk}

theorem canEndIn_apply (parallel : stage.options.mode = .parallel)
    (started : services.startsWorkers stage.options.workers = true) :
    stage.CanEndIn batch services (stage.apply batch services) := by
  rcases exists_interleaved_apply parallel started with ⟨events, work, interleaved⟩
  exact ⟨events, ne_cancel_of_work work _, interleaved⟩

section Reached

variable (collaborator : stage.factory = .ofFunction parse)
  (live : services.Live (stage.deadlineToken services.now))
  (placed : ∀ unit ∈ batch, Placed unit.source (parse unit.source))

include collaborator placed in
theorem placed_factory : ∀ unit ∈ batch, ∀ signal,
    Placed unit.source (stage.factory.parse signal unit.source) := by
  rw [collaborator]
  exact fun unit member _ => placed unit member

include collaborator live placed

/-- Where nobody cancels the token, a run ends in a consistent pool without interrupted tasks. -/
theorem consistent_undisturbed_run {events : List Event}
    (quiet : ∀ event ∈ events, event ≠ .cancel stage.token.family) :
    let token := stage.deadlineToken services.now
    let start := Pool.ofUnits batch services.tick
    (start.run stage token events).Consistent stage batch services.session
        (start.calls stage token events) ∧
      (start.run stage token events).Undisturbed token := by
  intro token start
  rw [← family_deadlineToken stage services.now] at quiet
  have undisturbed := Pool.undisturbed_ofUnits batch (live.of_grows (.tick services))
  exact ⟨Pool.consistent_run (placed_factory collaborator placed) services.tick events,
    undisturbed.run collaborator quiet⟩

theorem consistent_undisturbed_inTurn (order : List Nat) :
    let token := stage.deadlineToken services.now
    let pool := (Pool.ofUnits batch services.tick).inTurn stage token order
    ∃ calls, pool.Consistent stage batch services.session calls ∧ pool.Undisturbed token := by
  intro token pool
  rcases Pool.exists_run_inTurn stage token order (Pool.ofUnits batch services.tick) with
    ⟨events, work, ran⟩
  rcases consistent_undisturbed_run collaborator live placed (ne_cancel_of_work work _) with
    ⟨consistent, undisturbed⟩
  rw [ran] at consistent undisturbed
  exact ⟨_, consistent, undisturbed⟩

/-- Behind every such walk there is a pool that has been brought to its end undisturbed. -/
theorem CanEndIn.exists_pool (ends : stage.CanEndIn batch services walk) :
    ∃ pool calls, walk = Pool.conclude stage pool ∧ pool.isDone = true ∧
      pool.Consistent stage batch services.session calls ∧
      pool.Undisturbed (stage.deadlineToken services.now) := by
  rcases ends with ⟨events, quiet, done, rfl⟩
  exact ⟨_, _, rfl, done, consistent_undisturbed_run collaborator live placed quiet⟩

end Reached

end CanEndIn

end ParseStage

end StagePipeline
