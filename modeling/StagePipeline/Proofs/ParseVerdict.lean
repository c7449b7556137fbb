import StagePipeline.Operation
import StagePipeline.Proofs.ProgramStage

/-!
# How far the end of a parse stage can be trusted

Whether a batch passed is read off the way in which its stages end and off the session.
For the parse stage that is sound in whatever order the work is done and whoever stops
it.  A stage that ends without an error has a tree for every unit, since nothing was
skipped.  And a failure that counts as reported stands in the session as an error: the
stage has such a failure only after it has collected one, a collected failure is reported
at once, and no diagnostic is taken back.
-/

namespace StagePipeline

open Program

/-! ### Diagnostics that stay -/

theorem Session.hasErrors_of_prefix {before after : Session}
    (kept : before.diagnostics <+: after.diagnostics) (errors : before.hasErrors = true) :
    after.hasErrors = true := by
  rcases List.any_eq_true.1 errors with ⟨diagnostic, member, isError⟩
  exact List.any_eq_true.2 ⟨diagnostic, kept.subset member, isError⟩

theorem Session.hasErrors_report (session : Session) {diagnostic : Diagnostic}
    (isError : diagnostic.severity = .error) : (session.report diagnostic).hasErrors = true := by
  simp [hasErrors, report, isError, Severity.isError]

theorem Services.diagnostics_of_start {services after : Services}
    (started : services.start = .ok after) :
    after.session.diagnostics = services.session.diagnostics := by
  rw [start, Session.start] at started
  cases scope : services.session.openedAt with
  | some opened =>
    rw [scope] at started
    cases started
  | none =>
    rw [scope] at started
    rcases Except.ok.inj started with rfl
    rfl

theorem Services.diagnostics_of_stop {services after : Services} {label : String}
    (stopped : services.stop label = .ok after) :
    after.session.diagnostics = services.session.diagnostics := by
  rw [stop, Session.stop] at stopped
  cases scope : services.session.openedAt with
  | none =>
    rw [scope] at stopped
    cases stopped
  | some opened =>
    rw [scope] at stopped
    rcases Except.ok.inj stopped with rfl
    rfl

namespace ParseStage

variable {stage : ParseStage} {options : ParserOptions} {token : CancelToken}
  {unit : CompilationUnit} {units : List CompilationUnit} {services : Services}
  {kind : CompilationUnit → Prop} {earlier : List Diagnostic}

/-! ### One unit -/

/--
The ways in which a visit ends when there were some diagnostics before.  It goes on with
a unit of some kind, or after a failure that it has reported, or it stops with an error
that is not reported.  The diagnostics that were there are there still.
-/
inductive Visit.Ends (kind : CompilationUnit → Prop) (earlier : List Diagnostic) : Visit → Prop
  | parsed (unit : CompilationUnit) (stored : kind unit) {left : Services}
    (kept : earlier <+: left.session.diagnostics) : Ends kind earlier ⟨.parsed, unit, left⟩
  | collected (unit : CompilationUnit) {left : Services}
    (kept : earlier <+: left.session.diagnostics) (reported : left.session.hasErrors = true) :
    Ends kind earlier ⟨.collected, unit, left⟩
  | stopped (unit : CompilationUnit) {error : StageError}
    (unreported : (RunError.stage error).reported? = none) {left : Services}
    (kept : earlier <+: left.session.diagnostics) : Ends kind earlier ⟨.stopped error, unit, left⟩

theorem ends_settle (failure : UnitFailure) (kept : earlier <+: services.session.diagnostics) :
    Visit.Ends kind earlier (stage.settle unit failure services) := by
  cases failure with
  | unlocatable => exact .stopped unit rfl kept
  | rejected error =>
    rw [settle]
    split
    · refine .stopped unit ?_ kept
      cases error <;> rfl
    · cases found : stage.diagnostic? unit.source error with
      | none => exact .stopped unit rfl kept
      | some diagnostic =>
        rcases Option.map_eq_some_iff.1 found with ⟨location, _, rfl⟩
        exact .collected unit (kept.trans (List.prefix_append _ _))
          (Session.hasErrors_report services.session rfl)

theorem ends_parseTimed (kept : earlier <+: services.session.diagnostics) :
    Visit.Ends (·.isParsed = true) earlier (stage.parseTimed token unit services) := by
  have built : (stage.build unit.source services).tick.session = services.session := by
    rw [build]
    split <;> rfl
  rw [← built] at kept
  simp only [parseTimed]
  split
  · rename_i tree diagnostics _
    split
    · exact .stopped _ rfl kept
    · rename_i left closed
      have stored : (unit.withTree tree).isParsed = true := rfl
      refine .parsed _ stored ?_
      rw [Services.diagnostics_of_stop closed]
      exact kept.trans (List.prefix_append _ _)
  · split
    · exact .stopped _ rfl kept
    · rename_i left closed
      refine ends_settle _ ?_
      rw [Services.diagnostics_of_stop closed]
      exact kept

theorem ends_visit (kept : earlier <+: services.session.diagnostics) :
    Visit.Ends (·.isParsed = true) earlier (stage.visit token unit services) := by
  rw [visit]
  split
  · exact .stopped unit rfl kept
  · split
    · exact .stopped unit rfl kept
    · rename_i opened started
      refine ends_parseTimed ?_
      rw [Services.diagnostics_of_start started]
      exact kept

/-! ### Batches -/

/-- What can be said of a walk over a batch when there were some diagnostics before. -/
structure Walk.Ends (kind : CompilationUnit → Prop) (earlier : List Diagnostic) (walk : Walk) :
    Prop where
  kept : earlier <+: walk.services.session.diagnostics
  stored : walk.error? = none → ∀ unit ∈ walk.units, kind unit
  failed : walk.failed ≠ [] → walk.services.session.hasErrors = true
  stopped : ∀ error, walk.stopped = some error → (RunError.stage error).reported? = none

namespace Walk

theorem error?_eq_none_iff {walk : Walk} :
    walk.error? = none ↔ walk.stopped = none ∧ walk.failed = [] := by
  rw [error?]
  cases walk.stopped with
  | none => cases walk.failed <;> simp
  | some error => simp

/-- A failure of the stage that counts as reported has been reported. -/
theorem Ends.hasErrors {walk : Walk} (ends : walk.Ends kind earlier) {error : StageError}
    (fails : walk.error? = some error) (reported : (RunError.stage error).reported? ≠ none) :
    walk.services.session.hasErrors = true := by
  apply ends.failed
  intro noneFailed
  cases stopped : walk.stopped with
  | none =>
    rw [error?_eq_none_iff.2 ⟨stopped, noneFailed⟩] at fails
    exact nomatch fails
  | some other =>
    rw [error?, stopped] at fails
    rcases Option.some.inj fails with rfl
    exact reported (ends.stopped other stopped)

end Walk

theorem Visit.Ends.before {visited : Visit} (here : visited.Ends kind earlier)
    {rest : List CompilationUnit} {later : Walk}
    (others : later.Ends kind visited.services.session.diagnostics) :
    (visited.before rest later).Ends kind earlier := by
  cases here with
  | parsed unit stored kept =>
    refine ⟨kept.trans others.kept, fun succeeds => ?_, others.failed, others.stopped⟩
    exact List.forall_mem_cons.2 ⟨stored, others.stored succeeds⟩
  | collected unit kept reported =>
    refine ⟨kept.trans others.kept, fun succeeds => ?_, fun _ => ?_, others.stopped⟩
    · exact absurd (Walk.error?_eq_none_iff.1 succeeds).2 (List.cons_ne_nil _ _)
    · exact Session.hasErrors_of_prefix others.kept reported
  | stopped unit unreported kept =>
    refine ⟨kept, (nomatch ·), fun failed => absurd rfl failed, ?_⟩
    rintro _ ⟨⟩
    exact unreported

theorem Walk.ends_nil (kept : earlier <+: services.session.diagnostics) :
    Walk.Ends kind earlier { units := [], services := services } :=
  ⟨kept, fun _ _ member => absurd member List.not_mem_nil, fun failed => absurd rfl failed, nofun⟩

theorem Walks.ends {walk : Walk} (walks : Walks stage options token units services walk) :
    walk.Ends (·.isParsed = true) services.session.diagnostics := by
  induction walks with
  | nil services => exact Walk.ends_nil (List.prefix_refl _)
  | cons program families unit visits walks inductive_hypothesis =>
    rw [visits] at inductive_hypothesis ⊢
    exact (ends_visit (List.prefix_refl _)).before inductive_hypothesis

namespace Pool

theorem gather_cons_eq_before (task : Task) (rest : List Task) (services : Services) :
    gather stage (task :: rest) services =
      (task.judged stage services).before (rest.map (·.unit))
        (gather stage rest (task.judged stage services).services) :=
  gather_cons task rest services

/-- What a gathering says of units is nothing, since a task that was skipped says nothing. -/
theorem ends_judged (task : Task) (services : Services) :
    Visit.Ends (fun _ => True) services.session.diagnostics (task.judged stage services) := by
  rw [Task.judged]
  split
  · exact .stopped _ rfl (List.prefix_refl _)
  · exact ends_settle _ (List.prefix_refl _)
  · exact .parsed _ trivial (List.prefix_refl _)

theorem ends_gather (tasks : List Task) (services : Services) :
    (gather stage tasks services).Ends (fun _ => True) services.session.diagnostics := by
  induction tasks generalizing services with
  | nil => exact Walk.ends_nil (List.prefix_refl _)
  | cons task rest inductive_hypothesis =>
    rw [gather_cons_eq_before]
    exact (ends_judged task services).before (inductive_hypothesis _)

/-- Whoever takes the next step, the halt flag is up for a reason. -/
theorem Reaches.haltsForReason {pool : Pool}
    (reached : Reaches stage options token (ofUnits units services) pool) :
    pool.HaltsForReason stage := by
  induction reached with
  | start => exact (consistent_ofUnits stage units services).halts
  | @act pool reached factory program event halts =>
    cases event with
    | cancel family => exact ⟨halts.halted, halts.skipped⟩
    | work position =>
      cases found : pool.tasks[position]? with
      | none =>
        rw [Pool.act, step_of_getElem?_eq_none found]
        exact halts
      | some task =>
        rcases exists_sound reached.sound (List.mem_of_getElem? found) with ⟨unit, _, _, fits⟩
        -- Which failures are fatal does not depend on the parsers.
        have same : pool.HaltsForReason (stage.withFactory factory) :=
          ⟨halts.halted, halts.skipped⟩
        have stepped : (pool.stepped (stage.withFactory factory) token position task).HaltsForReason
            (stage.withFactory factory) := same.step found fits
        rw [Pool.act, step_of_getElem? found]
        exact ⟨stepped.halted, stepped.skipped⟩

theorem Reaches.isParsed {pool : Pool}
    (reached : Reaches stage options token (ofUnits units services) pool)
    (done : pool.isDone = true) (succeeds : (pool.conclude stage).error? = none) :
    ∀ unit ∈ (pool.conclude stage).units, unit.isParsed = true := by
  have gathered : Gathered stage pool.tasks pool.shared.services (pool.conclude stage) :=
    gathered_gather stage pool.tasks pool.shared.services
  rw [gathered.units]
  intro unit member
  rcases List.mem_map.1 member with ⟨task, among, rfl⟩
  rcases exists_sound reached.sound among with ⟨before, answer?, _, fits⟩
  have ended := fits.ended (List.all_eq_true.1 done task among)
  rcases reached.haltsForReason.exists_output (gathered.complete succeeds) among ended with
    ⟨output, rfl⟩
  rw [fits.unit_of_isDone (List.all_eq_true.1 done task among)]
  rfl

end Pool

/-! ### Applications -/

namespace Applied

variable {walk : Walk} (applied : stage.Applied options units services walk)

include applied

theorem isParsed (succeeds : walk.error? = none) : ∀ unit ∈ walk.units, unit.isParsed = true := by
  rw [Applied] at applied
  cases mode : stage.options.mode with
  | sequential =>
    rw [mode] at applied
    exact (Walks.ends applied).stored succeeds
  | parallel =>
    rw [mode] at applied
    rcases applied with ⟨-, pool, reached, done, rfl⟩ | ⟨-, rfl⟩
    · exact reached.isParsed done succeeds
    · exact absurd succeeds (Option.some_ne_none StageError.workerPool)

theorem hasErrors {error : StageError} (fails : walk.error? = some error)
    (reported : (RunError.stage error).reported? ≠ none) :
    walk.services.session.hasErrors = true := by
  rw [Applied] at applied
  cases mode : stage.options.mode with
  | sequential =>
    rw [mode] at applied
    exact (Walks.ends applied).hasErrors fails reported
  | parallel =>
    rw [mode] at applied
    rcases applied with ⟨-, pool, _, _, rfl⟩ | ⟨-, rfl⟩
    · exact (Pool.ends_gather pool.tasks pool.shared.services).hasErrors fails reported
    · rcases Option.some.inj fails with rfl
      exact absurd rfl reported

end Applied

end ParseStage

end StagePipeline
