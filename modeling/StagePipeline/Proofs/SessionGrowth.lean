import StagePipeline.Stage.Services

/-!
# What a session gains

A stage adds timings and diagnostics at the end of what a session holds and takes
nothing away.  `Session.Grows` says which labels and which diagnostics are added
between two moments at which the shared scope is in the same state, so the gain
of a run is put together from the gains of its parts.  `Services.Grows` says the
same of the services, with nobody cancelled and no reading of the clock given
back, so that a token without reason to stop keeps having none.
-/

namespace StagePipeline

/--
Timings under some labels and some diagnostics have been added to a session, and
its shared scope is as it was.
-/
structure Session.Grows (before after : Session) (labels : List String)
    (diagnostics : List Diagnostic) : Prop where
  timings : ∃ added, after.timings = before.timings ++ added ∧ added.map (·.label) = labels
  diagnostics : after.diagnostics = before.diagnostics ++ diagnostics
  scope : after.openedAt = before.openedAt

namespace Session.Grows

variable {before between after : Session} {labels moreLabels : List String}
  {diagnostics moreDiagnostics : List Diagnostic}

theorem refl (session : Session) : session.Grows session [] [] where
  timings := ⟨[], (List.append_nil _).symm, rfl⟩
  diagnostics := (List.append_nil _).symm
  scope := rfl

theorem trans (first : before.Grows between labels diagnostics)
    (second : between.Grows after moreLabels moreDiagnostics) :
    before.Grows after (labels ++ moreLabels) (diagnostics ++ moreDiagnostics) := by
  rcases first.timings with ⟨added, timings, rfl⟩
  rcases second.timings with ⟨later, moreTimings, rfl⟩
  refine ⟨⟨added ++ later, ?_, List.map_append⟩, ?_, second.scope.trans first.scope⟩
  · rw [moreTimings, timings, List.append_assoc]
  · rw [second.diagnostics, first.diagnostics, List.append_assoc]

theorem record (session : Session) (timing : Timing) :
    session.Grows (session.record timing) [timing.label] [] :=
  ⟨⟨[timing], rfl, rfl⟩, (List.append_nil _).symm, rfl⟩

theorem reportAll (session : Session) (diagnostics : List Diagnostic) :
    session.Grows (session.reportAll diagnostics) [] diagnostics :=
  ⟨⟨[], (List.append_nil _).symm, rfl⟩, rfl, rfl⟩

theorem isTiming_eq (grown : before.Grows after labels diagnostics) :
    after.isTiming = before.isTiming := by
  rw [isTiming, isTiming, grown.scope]

end Session.Grows

namespace Services

/-- At no reading of the clock that is still to come does the token ask to stop. -/
def Live (services : Services) (token : CancelToken) : Prop :=
  ∀ reading, services.clock.taken ≤ reading →
    token.check services.cancelled (services.clock.reading reading) = none

/-- The session has grown, and otherwise only the clock has been read. -/
structure Grows (before after : Services) (labels : List String)
    (diagnostics : List Diagnostic) : Prop where
  session : before.session.Grows after.session labels diagnostics
  cancelled : after.cancelled = before.cancelled
  reading : after.clock.reading = before.clock.reading
  taken : before.clock.taken ≤ after.clock.taken

namespace Grows

variable {before between after : Services} {labels moreLabels : List String}
  {diagnostics moreDiagnostics : List Diagnostic}

theorem trans (first : before.Grows between labels diagnostics)
    (second : between.Grows after moreLabels moreDiagnostics) :
    before.Grows after (labels ++ moreLabels) (diagnostics ++ moreDiagnostics) where
  session := first.session.trans second.session
  cancelled := second.cancelled.trans first.cancelled
  reading := second.reading.trans first.reading
  taken := Nat.le_trans first.taken second.taken

theorem refl (services : Services) : services.Grows services [] [] :=
  ⟨.refl _, rfl, rfl, Nat.le_refl _⟩

theorem tick (services : Services) : services.Grows services.tick [] [] :=
  ⟨.refl _, rfl, rfl, Nat.le_succ _⟩

theorem report (services : Services) (diagnostic : Diagnostic) :
    services.Grows (services.report diagnostic) [] [diagnostic] :=
  ⟨.reportAll _ [diagnostic], rfl, rfl, Nat.le_refl _⟩

end Grows

theorem Live.poll_eq_none {services : Services} {token : CancelToken}
    (live : services.Live token) : services.poll token = none :=
  live services.clock.taken (Nat.le_refl _)

theorem Live.of_grows {before after : Services} {token : CancelToken} {labels : List String}
    {diagnostics : List Diagnostic} (live : before.Live token)
    (grown : before.Grows after labels diagnostics) : after.Live token := by
  intro reading later
  rw [grown.cancelled, grown.reading]
  exact live reading (Nat.le_trans grown.taken later)

end Services

end StagePipeline
