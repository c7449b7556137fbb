import StagePipeline.Command.Run
import StagePipeline.Proofs.CheckRuns

/-!
# The verdict of a check

A report on a check passes a batch when it lists no error and tells of no failure.  The
two are kept in different places, the one in the session and the other in the way the
run ended, so neither says by itself that the other is in order.  Since a failure that a
report can tell of has always left an error in the session, the errors decide: a batch
passes exactly when none was reported, the line that says so is shown exactly then, and
only otherwise does the command end with the exit code of a failure.
-/

namespace StagePipeline

/-! ### Messages -/

namespace Compilation

variable {compilation : Compilation} {stages : List StageKind} {failure : Option String}

end Compilation

/-! ### Reports -/

namespace CheckReport

end CheckReport

/-! ### Runs and commands -/

namespace RunError

/-- A report can tell of no failure, or of one that counts as reported. -/
theorem forReport_eq_ok {error? : Option RunError} {failure : Option String}
    (told : forReport error? = .ok failure) :
    (error? = none ∧ failure = none) ∨
      ∃ error, error? = some error ∧ error.reported? = failure ∧ failure ≠ none := by
  cases error? with
  | none => exact .inl ⟨rfl, (Except.ok.inj told).symm⟩
  | some error =>
    rw [forReport] at told
    cases reported : error.reported? with
    | none =>
      rw [reported] at told
      exact nomatch told
    | some message =>
      rw [reported] at told
      rcases Except.ok.inj told with rfl
      exact .inr ⟨error, rfl, reported, Option.some_ne_none message⟩

end RunError

namespace Config

end Config

namespace Command

end Command

namespace Config

variable {config : Config} {folder : Option String} {pipeline : Pipeline Compilation}
  {compilation after : Compilation} {report : CheckReport}

end Config

end StagePipeline
