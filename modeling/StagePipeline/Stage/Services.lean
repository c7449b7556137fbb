import StagePipeline.CancelToken
import StagePipeline.Session

/-!
# Services of a run

What the stages of one run share: the session, the clock that times it, the
families of tokens that have been cancelled, and what the machine says when workers
are to be started.
-/

namespace StagePipeline

/-- The session, the clock and the cancelled token families of a run, and its machine. -/
structure Services where
  session : Session := {}
  clock : Clock := Clock.standing 0
  cancelled : List Nat := []
  /-- Whether so many workers can be started, where 0 asks for one for each processor. -/
  startsWorkers : UInt64 → Bool := fun _ => true

namespace Services

/-- The time now. -/
def now (services : Services) : Instant :=
  services.clock.read.1

/-- The services once the clock has been read. -/
def tick (services : Services) : Services :=
  { services with clock := services.clock.read.2 }

/-- The reason for which a token stops work now. -/
def poll (services : Services) (token : CancelToken) : Option Interrupt :=
  token.check services.cancelled services.now

/-- The services after the family of a token has been cancelled. -/
def cancel (services : Services) (token : CancelToken) : Services :=
  { services with cancelled := token.family :: services.cancelled }

/-- Open the shared timing scope. -/
def start (services : Services) : Except SessionError Services :=
  (services.session.start services.now).map fun session => { services.tick with session := session }

/-- Close the shared timing scope under a label. -/
def stop (services : Services) (label : String) : Except SessionError Services :=
  (services.session.stop services.now label).map fun session =>
    { services.tick with session := session }

/-- Record a timing. -/
def record (services : Services) (timing : Timing) : Services :=
  { services with session := services.session.record timing }

/-- Record the time of an independent scope under a label. -/
def finish (services : Services) (scope : TimingScope) (label : String) : Services :=
  { services.tick with session := services.session.finish scope services.now label }

/-- Report a diagnostic. -/
def report (services : Services) (diagnostic : Diagnostic) : Services :=
  { services with session := services.session.report diagnostic }

/-- Report several diagnostics in order. -/
def reportAll (services : Services) (diagnostics : List Diagnostic) : Services :=
  { services with session := services.session.reportAll diagnostics }

end Services

end StagePipeline
