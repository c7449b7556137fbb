import Mathlib.Data.List.Chain
import StagePipeline.Session

/-!
# Sessions over a history

A history is a list of steps: calls that open or close the shared scope of a session,
independent scopes that are opened, finished or dropped, and timings and diagnostics that
are added.  A session keeps three things apart, the instant at which its shared scope was
opened, its timings and its diagnostics.  What each of them holds can be read off the
history and the answers that its steps were given (`SessionTable.Follows`), and every step
keeps it that way.

The calls that open and close the shared scope take turns.  `Alternates` says so, and it
ties the turns to the instant that the session keeps.
-/

namespace StagePipeline

/-! ### Calls -/

namespace Session

/-- The session with its shared scope taken out. -/
def takeScope (session : Session) : Session :=
  { session with openedAt := none }

/-- A call that opens the shared scope: what it answers, and the session afterwards. -/
def tryStart (session : Session) (now : Instant) : Except SessionError Unit × Session :=
  if session.isTiming then (.error .scopeAlreadyOpen, session)
  else (.ok (), { session with openedAt := some now })

/--
A call that closes the shared scope: what it answers, and the session afterwards.  The
scope is taken out at once, whether there is one or not.
-/
def tryStop (session : Session) (now : Instant) (label : String) :
    Except SessionError Duration × Session :=
  match session.openedAt with
  | none => (.error (.noOpenScope label), session.takeScope)
  | some opened =>
    (.ok (opened.elapsed now), session.takeScope.record ⟨label, opened.elapsed now⟩)

variable {session : Session} {now : Instant} {label : String}

theorem takeScope_eq_self (closed : session.openedAt = none) : session.takeScope = session := by
  rcases session with ⟨openedAt, timings, diagnostics⟩
  rcases closed with rfl
  rfl

theorem tryStart_of_none (closed : session.openedAt = none) :
    session.tryStart now = (.ok (), { session with openedAt := some now }) := by
  rw [tryStart, isTiming, closed]
  rfl

theorem tryStart_of_some {opened : Instant} (timing : session.openedAt = some opened) :
    session.tryStart now = (.error .scopeAlreadyOpen, session) := by
  rw [tryStart, isTiming, timing]
  rfl

/-- A call to close a scope that is not there leaves the session as it was. -/
theorem tryStop_of_none (closed : session.openedAt = none) :
    session.tryStop now label = (.error (.noOpenScope label), session) := by
  rw [tryStop, closed]
  exact congrArg (Prod.mk _) (takeScope_eq_self closed)

theorem tryStop_of_some {opened : Instant} (timing : session.openedAt = some opened) :
    session.tryStop now label =
      (.ok (opened.elapsed now), session.takeScope.record ⟨label, opened.elapsed now⟩) := by
  rw [tryStop, timing]

/-- Opening the shared scope is this call, but for what the call leaves when it fails. -/
theorem start_eq_tryStart :
    session.start now = match session.tryStart now with
      | (.ok _, next) => .ok next
      | (.error error, _) => .error error := by
  rw [start, tryStart, isTiming]
  cases session.openedAt <;> rfl

theorem stop_eq_tryStop :
    session.stop now label = match session.tryStop now label with
      | (.ok _, next) => .ok next
      | (.error error, _) => .error error := by
  rw [stop, tryStop]
  cases session.openedAt <;> rfl

theorem exists_start_iff : (∃ next, session.start now = .ok next) ↔ session.openedAt = none := by
  rw [start_eq_tryStart]
  cases here : session.openedAt with
  | none => simp [tryStart_of_none here]
  | some opened => simp [tryStart_of_some here]

theorem exists_stop_iff :
    (∃ next, session.stop now label = .ok next) ↔ ∃ opened, session.openedAt = some opened := by
  rw [stop_eq_tryStop]
  cases here : session.openedAt with
  | none => simp [tryStop_of_none here]
  | some opened => simp [tryStop_of_some here]

end Session

/-! ### Steps -/

/-- Something done with a session; independent scopes are named by their positions. -/
inductive SessionAction where
  | start
  | stop (label : String)
  | scope
  | finish (scope : Nat) (label : String)
  | drop (scope : Nat)
  | record (timing : Timing)
  | report (diagnostic : Diagnostic)
  deriving DecidableEq, Repr

/-- A step of a history: what is done, and when. -/
structure SessionStep where
  now : Instant
  action : SessionAction
  deriving DecidableEq, Repr

/-- A session and the scopes opened on it, each until it is finished or dropped. -/
structure SessionTable where
  session : Session := {}
  scopes : List (Option TimingScope) := []
  deriving DecidableEq, Repr

/-- What a step was answered: a failure, or the time that the caller is told, if any. -/
structure SessionOutcome where
  step : SessionStep
  answer : Except SessionError (Option Duration)

namespace SessionTable

/-- The answer to a step, and the session and its scopes afterwards. -/
def act (table : SessionTable) (step : SessionStep) :
    Except SessionError (Option Duration) × SessionTable :=
  match step.action with
  | .start =>
    let (answer, session) := table.session.tryStart step.now
    (answer.map fun _ => none, { table with session := session })
  | .stop label =>
    let (answer, session) := table.session.tryStop step.now label
    (answer.map some, { table with session := session })
  | .scope => (.ok none, { table with scopes := table.scopes ++ [some ⟨step.now⟩] })
  | .finish scope label =>
    match table.scopes[scope]? with
    | some (some opened) =>
      (.ok (some (opened.openedAt.elapsed step.now)),
        { session := table.session.finish opened step.now label
          scopes := table.scopes.set scope none })
    | _ => (.ok none, table)
  | .drop scope => (.ok none, { table with scopes := table.scopes.set scope none })
  | .record timing => (.ok none, { table with session := table.session.record timing })
  | .report diagnostic => (.ok none, { table with session := table.session.report diagnostic })

/-- The table after some steps. -/
def after (table : SessionTable) (history : List SessionStep) : SessionTable :=
  history.foldl (fun table step => (table.act step).2) table

/-- The steps of a history with the answers that they are given. -/
def outcomes (table : SessionTable) : List SessionStep → List SessionOutcome
  | [] => []
  | step :: later => ⟨step, (table.act step).1⟩ :: outcomes (table.act step).2 later

theorem after_append (table : SessionTable) (history later : List SessionStep) :
    table.after (history ++ later) = (table.after history).after later :=
  List.foldl_append

theorem outcomes_append (table : SessionTable) (history later : List SessionStep) :
    table.outcomes (history ++ later) =
      table.outcomes history ++ (table.after history).outcomes later := by
  induction history generalizing table with
  | nil => rfl
  | cons step history inductive_hypothesis =>
    exact congrArg (_ :: ·) (inductive_hypothesis (table.act step).2)

section Equations

variable (table : SessionTable) (now : Instant)

theorem act_start :
    table.act ⟨now, .start⟩ = ((table.session.tryStart now).1.map fun _ => none,
      { table with session := (table.session.tryStart now).2 }) :=
  rfl

theorem act_stop (label : String) :
    table.act ⟨now, .stop label⟩ = ((table.session.tryStop now label).1.map some,
      { table with session := (table.session.tryStop now label).2 }) :=
  rfl

theorem act_finish {scope : Nat} {opened : TimingScope}
    (found : table.scopes[scope]? = some (some opened)) (label : String) :
    table.act ⟨now, .finish scope label⟩ = (.ok (some (opened.openedAt.elapsed now)),
      { session := table.session.finish opened now label
        scopes := table.scopes.set scope none }) := by
  simp only [act, found]

end Equations

/-- A step that fails changes nothing. -/
theorem act_of_error {table : SessionTable} {step : SessionStep} {error : SessionError}
    (failed : (table.act step).1 = .error error) : (table.act step).2 = table := by
  rcases step with ⟨now, action⟩
  cases action with
  | start =>
    cases here : table.session.openedAt with
    | none =>
      rw [act_start, Session.tryStart_of_none here] at failed
      exact nomatch failed
    | some opened => rw [act_start, Session.tryStart_of_some here]
  | stop label =>
    cases here : table.session.openedAt with
    | none => rw [act_stop, Session.tryStop_of_none here]
    | some opened =>
      rw [act_stop, Session.tryStop_of_some here] at failed
      exact nomatch failed
  | finish scope label =>
    unfold act at failed
    dsimp only at failed
    split at failed <;> exact nomatch failed
  | scope | drop scope | record timing | report diagnostic => exact nomatch failed

end SessionTable

/-! ### What a history tells -/

/-- A change of the shared scope. -/
inductive Turn where
  | opened (now : Instant)
  | closed (now : Instant)
  deriving DecidableEq, Repr

/-- Whether the shared scope is open after a change. -/
def Turn.opens : Turn → Bool
  | .opened _ => true
  | .closed _ => false

namespace SessionStep

/-- The instant of the step, if it opens an independent scope. -/
def opening? (step : SessionStep) : Option Instant :=
  match step.action with
  | .scope => some step.now
  | _ => none

/-- The independent scope that the step uses up, if any. -/
def target? (step : SessionStep) : Option Nat :=
  match step.action with
  | .finish scope _ | .drop scope => some scope
  | _ => none

/-- The diagnostic that the step reports, if any. -/
def diagnostic? (step : SessionStep) : Option Diagnostic :=
  match step.action with
  | .report diagnostic => some diagnostic
  | _ => none

end SessionStep

namespace SessionOutcome

/-- The change of the shared scope, if a call that opens or closes it has succeeded. -/
def turn? (outcome : SessionOutcome) : Option Turn :=
  match outcome.step.action, outcome.answer with
  | .start, .ok _ => some (.opened outcome.step.now)
  | .stop _, .ok _ => some (.closed outcome.step.now)
  | _, _ => none

/-- The label of a successful call to close the shared scope, of a finished scope or of a timing. -/
def label? (outcome : SessionOutcome) : Option String :=
  match outcome.step.action, outcome.answer with
  | .stop label, .ok _ => some label
  | .finish _ label, _ => some label
  | .record timing, _ => some timing.label
  | _, _ => none

/-- The same label with the time that was answered, or the timing itself. -/
def timing? (outcome : SessionOutcome) : Option Timing :=
  match outcome.step.action, outcome.answer with
  | .stop label, .ok elapsed | .finish _ label, .ok elapsed => elapsed.map (⟨label, ·⟩)
  | .record timing, _ => some timing
  | _, _ => none

end SessionOutcome

/-- The changes of the shared scope, in their order. -/
def turnsOf (outcomes : List SessionOutcome) : List Turn :=
  outcomes.filterMap SessionOutcome.turn?

/-- How many calls to open the shared scope have succeeded. -/
def startCount (outcomes : List SessionOutcome) : Nat :=
  (turnsOf outcomes).countP (·.opens)

/-- How many calls to close the shared scope have succeeded. -/
def stopCount (outcomes : List SessionOutcome) : Nat :=
  (turnsOf outcomes).countP (!·.opens)

/-- The instants at which independent scopes were opened, in the order of the scopes. -/
def openings (history : List SessionStep) : List Instant :=
  history.filterMap SessionStep.opening?

/-- The scope has been opened, and neither finished nor dropped. -/
def IsOpenScope (history : List SessionStep) (scope : Nat) : Prop :=
  scope < (openings history).length ∧ ∀ step ∈ history, step.target? ≠ some scope

instance (history : List SessionStep) (scope : Nat) : Decidable (IsOpenScope history scope) :=
  inferInstanceAs (Decidable (_ ∧ _))

/-- Every scope that is finished or dropped in the history is open at that time. -/
inductive IsSessionHistory : List SessionStep → Prop
  | start : IsSessionHistory []
  | step {past : List SessionStep} (history : IsSessionHistory past) (step : SessionStep)
    (owned : ∀ scope ∈ step.target?, IsOpenScope past scope) : IsSessionHistory (past ++ [step])

/-! ### The shared scope -/

/-- How one turn, or none, changes the instant at which the shared scope was opened. -/
inductive TurnsTo : Option Instant → Option Turn → Option Instant → Prop
  | same (openedAt : Option Instant) : TurnsTo openedAt none openedAt
  | opened (now : Instant) : TurnsTo none (some (.opened now)) (some now)
  | closed (since now : Instant) : TurnsTo (some since) (some (.closed now)) none

/-- Turns that begin with an opening, open and close alternately and leave the scope like this. -/
inductive Alternates : Option Instant → List Turn → Prop
  | start : Alternates none []
  | opened {turns : List Turn} (closed : Alternates none turns) (now : Instant) :
      Alternates (some now) (turns ++ [.opened now])
  | closed {turns : List Turn} {since : Instant} (opened : Alternates (some since) turns)
      (now : Instant) : Alternates none (turns ++ [.closed now])

namespace Alternates

variable {openedAt : Option Instant} {turns : List Turn}

theorem turn (alternates : Alternates openedAt turns) {turn? : Option Turn}
    {next : Option Instant} (turns_to : TurnsTo openedAt turn? next) :
    Alternates next (turns ++ turn?.toList) := by
  cases turns_to with
  | same => rwa [Option.toList_none, List.append_nil]
  | opened now => exact alternates.opened now
  | closed since now => exact alternates.closed now

theorem count_eq (alternates : Alternates openedAt turns) :
    turns.countP (·.opens) = turns.countP (!·.opens) + openedAt.isSome.toNat := by
  induction alternates with
  | start => rfl
  | opened closed now inductive_hypothesis | closed opened now inductive_hypothesis =>
    rw [List.countP_append, List.countP_append, inductive_hypothesis]
    rfl

theorem getLast?_opens (alternates : Alternates openedAt turns) :
    ∀ last ∈ turns.getLast?, last.opens = openedAt.isSome := by
  cases alternates with
  | start => exact nofun
  | opened closed now | closed opened now =>
    intro last member
    rw [List.getLast?_concat] at member
    rcases Option.some.inj member with rfl
    rfl

theorem isChain (alternates : Alternates openedAt turns) :
    turns.IsChain fun earlier later => earlier.opens ≠ later.opens := by
  induction alternates with
  | start => exact .nil
  | opened before now inductive_hypothesis | closed before now inductive_hypothesis =>
    apply List.isChain_append.2
    refine ⟨inductive_hypothesis, .singleton _, ?_⟩
    intro last lastMember next nextMember
    rcases Option.some.inj nextMember with rfl
    rw [before.getLast?_opens last lastMember]
    exact fun same => nomatch same

theorem head?_opens (alternates : Alternates openedAt turns) :
    ∀ first ∈ turns.head?, first.opens = true := by
  induction alternates with
  | start => exact nofun
  | @opened turns before now inductive_hypothesis =>
    cases turns with
    | nil => simp [Turn.opens]
    | cons first rest => exact inductive_hypothesis
  | @closed turns since before now inductive_hypothesis =>
    cases turns with
    | nil => exact nomatch before.count_eq
    | cons first rest => exact inductive_hypothesis

end Alternates

/-! ### What a step adds -/

/-- The session has gained what an outcome tells of it. -/
structure Session.Gains (session : Session) (outcome : SessionOutcome) (next : Session) :
    Prop where
  turn : TurnsTo session.openedAt outcome.turn? next.openedAt
  timings : next.timings = session.timings ++ outcome.timing?.toList
  label : outcome.timing?.map (·.label) = outcome.label?
  diagnostics : next.diagnostics = session.diagnostics ++ outcome.step.diagnostic?.toList

/-- A step has opened a new scope, has used one up or has left all of them as they were. -/
structure ScopesGain (scopes : List (Option TimingScope)) (step : SessionStep)
    (next : List (Option TimingScope)) : Prop where
  length : next.length = scopes.length + step.opening?.toList.length
  kept : ∀ scope < scopes.length, step.target? ≠ some scope → next[scope]? = scopes[scope]?
  opened : ∀ now ∈ step.opening?, next[scopes.length]? = some (some ⟨now⟩)

theorem ScopesGain.same {scopes : List (Option TimingScope)} {step : SessionStep}
    (silent : step.opening? = none) : ScopesGain scopes step scopes where
  length := by rw [silent]; rfl
  kept _ _ _ := rfl
  opened now opens := by
    rw [silent] at opens
    exact nomatch opens

theorem ScopesGain.used {scopes : List (Option TimingScope)} {step : SessionStep} {scope : Nat}
    (silent : step.opening? = none) (target : step.target? = some scope) :
    ScopesGain scopes step (scopes.set scope none) where
  length := by rw [silent, List.length_set]; rfl
  kept other _ untouched := by
    have differ : scope ≠ other := fun same => untouched (target.trans (congrArg some same))
    exact List.getElem?_set_ne differ
  opened now opens := by
    rw [silent] at opens
    exact nomatch opens

/-- All that a step can do to a session and the scopes on it. -/
theorem SessionTable.act_gains (table : SessionTable) (step : SessionStep)
    (owned : ∀ scope ∈ step.target?, ∃ opened, table.scopes[scope]? = some (some opened)) :
    table.session.Gains ⟨step, (table.act step).1⟩ (table.act step).2.session ∧
      ScopesGain table.scopes step (table.act step).2.scopes := by
  rcases step with ⟨now, action⟩
  have nothing {items : List Timing} : items = items ++ [] := (List.append_nil _).symm
  have silent {items : List Diagnostic} : items = items ++ [] := (List.append_nil _).symm
  cases action with
  | start =>
    cases here : table.session.openedAt with
    | none =>
      rw [act_start, Session.tryStart_of_none here]
      exact ⟨⟨here ▸ .opened now, nothing, rfl, silent⟩, .same rfl⟩
    | some opened =>
      rw [act_start, Session.tryStart_of_some here]
      exact ⟨⟨.same _, nothing, rfl, silent⟩, .same rfl⟩
  | stop label =>
    cases here : table.session.openedAt with
    | none =>
      rw [act_stop, Session.tryStop_of_none here]
      exact ⟨⟨.same _, nothing, rfl, silent⟩, .same rfl⟩
    | some opened =>
      rw [act_stop, Session.tryStop_of_some here]
      exact ⟨⟨here ▸ .closed opened now, rfl, rfl, silent⟩, .same rfl⟩
  | scope =>
    refine ⟨⟨.same _, nothing, rfl, silent⟩, ⟨List.length_append, ?_, ?_⟩⟩
    · intro scope less _
      exact List.getElem?_append_left less
    · intro opened opens
      rcases Option.some.inj opens with rfl
      exact List.getElem?_concat_length
  | finish scope label =>
    rcases owned scope rfl with ⟨opened, found⟩
    rw [act_finish table now found]
    exact ⟨⟨.same _, rfl, rfl, silent⟩, .used rfl rfl⟩
  | drop scope => exact ⟨⟨.same _, nothing, rfl, silent⟩, .used rfl rfl⟩
  | record timing => exact ⟨⟨.same _, rfl, rfl, silent⟩, .same rfl⟩
  | report diagnostic => exact ⟨⟨.same _, nothing, rfl, rfl⟩, .same rfl⟩

/-! ### Following a history -/

theorem filterMap_concat {α β : Type} (select : α → Option β) (items : List α) (last : α) :
    (items ++ [last]).filterMap select = items.filterMap select ++ (select last).toList := by
  rw [List.filterMap_append, List.filterMap_cons]
  cases select last <;> rfl

theorem openings_concat (past : List SessionStep) (step : SessionStep) :
    openings (past ++ [step]) = openings past ++ step.opening?.toList :=
  filterMap_concat _ past step

/-- A scope that is open after a step was open before, or the step has opened it. -/
theorem IsOpenScope.of_concat {past : List SessionStep} {step : SessionStep} {scope : Nat}
    (isOpen : IsOpenScope (past ++ [step]) scope) :
    step.target? ≠ some scope ∧ (IsOpenScope past scope ∨
      scope = (openings past).length ∧ ∃ opened, step.opening? = some opened) := by
  rcases isOpen with ⟨made, untouched⟩
  constructor
  · exact untouched step (by simp)
  · rw [openings_concat, List.length_append] at made
    by_cases less : scope < (openings past).length
    · exact .inl ⟨less, fun other member => untouched other (List.mem_append_left _ member)⟩
    · cases opens : step.opening? with
      | none =>
        rw [opens] at made
        exact absurd made less
      | some opened =>
        rw [opens] at made
        exact .inr ⟨Nat.le_antisymm (Nat.le_of_lt_succ made) (Nat.le_of_not_lt less), opened, rfl⟩

namespace SessionTable

/-- The table holds what the past steps and their answers tell. -/
structure Follows (table : SessionTable) (past : List SessionStep)
    (answered : List SessionOutcome) : Prop where
  turns : Alternates table.session.openedAt (turnsOf answered)
  timings : table.session.timings = answered.filterMap SessionOutcome.timing?
  labels : table.session.labels = answered.filterMap SessionOutcome.label?
  diagnostics : table.session.diagnostics = past.filterMap SessionStep.diagnostic?
  length : table.scopes.length = (openings past).length
  scopes : ∀ scope, IsOpenScope past scope →
    table.scopes[scope]? = (openings past)[scope]?.map fun opened => some ⟨opened⟩

theorem follows_start : Follows {} [] [] where
  turns := .start
  timings := rfl
  labels := rfl
  diagnostics := rfl
  length := rfl
  scopes := by
    rintro scope ⟨made, _⟩
    exact nomatch made

namespace Follows

variable {table : SessionTable} {past : List SessionStep} {answered : List SessionOutcome}

theorem exists_scope (follows : table.Follows past answered) {scope : Nat}
    (isOpen : IsOpenScope past scope) :
    ∃ opened, (openings past)[scope]? = some opened ∧
      table.scopes[scope]? = some (some ⟨opened⟩) := by
  have made := List.getElem?_eq_getElem isOpen.1
  refine ⟨_, made, ?_⟩
  rw [follows.scopes scope isOpen, made]
  rfl

/-- Each step keeps the table in step with the history. -/
theorem act (follows : table.Follows past answered) {step : SessionStep}
    (owned : ∀ scope ∈ step.target?, IsOpenScope past scope) :
    (table.act step).2.Follows (past ++ [step]) (answered ++ [⟨step, (table.act step).1⟩]) := by
  have found : ∀ scope ∈ step.target?, ∃ opened, table.scopes[scope]? = some (some opened) := by
    intro scope target
    rcases follows.exists_scope (owned scope target) with ⟨opened, _, found⟩
    exact ⟨_, found⟩
  rcases table.act_gains step found with ⟨session, scopes⟩
  constructor
  case turns =>
    rw [turnsOf, filterMap_concat]
    exact follows.turns.turn session.turn
  case timings => rw [filterMap_concat, session.timings, follows.timings]
  case labels =>
    rw [filterMap_concat, ← session.label, ← follows.labels, Session.labels, session.timings,
      List.map_append]
    exact congrArg (_ ++ ·) Option.toList_map.symm
  case diagnostics => rw [filterMap_concat, session.diagnostics, follows.diagnostics]
  case length => rw [openings_concat, List.length_append, scopes.length, follows.length]
  case scopes =>
    intro scope isOpen
    rw [openings_concat]
    rcases isOpen.of_concat with ⟨untouched, before | ⟨rfl, opened, opens⟩⟩
    · rw [scopes.kept scope (follows.length ▸ before.1) untouched, follows.scopes scope before,
        List.getElem?_append_left before.1]
    · rw [← follows.length, scopes.opened opened opens, opens, follows.length]
      simp

end Follows

/-- After any history the table holds what its steps and their answers tell. -/
theorem follows_after {history : List SessionStep} (valid : IsSessionHistory history) :
    (after {} history).Follows history (outcomes {} history) := by
  induction valid with
  | start => exact follows_start
  | step valid step owned inductive_hypothesis =>
    rw [after_append, outcomes_append]
    exact inductive_hypothesis.act owned

end SessionTable

/-- A shared scope is open exactly if one more call has opened it than closed it. -/
theorem Alternates.openedAt_iff {openedAt : Option Instant} {answered : List SessionOutcome}
    (alternates : Alternates openedAt (turnsOf answered)) :
    (openedAt = none ↔ startCount answered = stopCount answered) ∧
      ((∃ opened, openedAt = some opened) ↔ startCount answered = stopCount answered + 1) := by
  rw [startCount, stopCount, alternates.count_eq]
  cases openedAt <;> simp

namespace SessionTable

/--
A session after any history.  Its shared scope can be opened exactly if as many calls have
closed it as have opened it, and closed exactly if one call less has: the successful calls
take turns, beginning with one that opens.  A failed step changes nothing.  The timings are
those of the successful calls that close the scope, of the finished scopes and of the
timings added, in their order and under their labels, and the diagnostics are those
reported; the counts are counts of them.
-/
theorem session_follows_history {history : List SessionStep} (valid : IsSessionHistory history) :
    let table := after {} history
    let answered := outcomes {} history
    let reported := history.filterMap SessionStep.diagnostic?
    (∀ now, (∃ next, table.session.start now = .ok next) ↔
      startCount answered = stopCount answered) ∧
    (∀ now label, (∃ next, table.session.stop now label = .ok next) ↔
      startCount answered = stopCount answered + 1) ∧
    ((turnsOf answered).IsChain fun earlier later => earlier.opens ≠ later.opens) ∧
    (∀ first ∈ (turnsOf answered).head?, first.opens = true) ∧
    (∀ step error, (table.act step).1 = .error error → (table.act step).2 = table) ∧
    table.session.timings = answered.filterMap SessionOutcome.timing? ∧
    table.session.labels = answered.filterMap SessionOutcome.label? ∧
    table.session.diagnostics = reported ∧
    table.session.errorCount = reported.countP (·.severity == .error) ∧
    table.session.warningCount = reported.countP (·.severity == .warning) ∧
    (table.session.hasErrors = true ↔ ∃ diagnostic ∈ reported, diagnostic.severity = .error) := by
  intro table answered reported
  have follows : table.Follows history answered := follows_after valid
  have counts : ∀ severity, table.session.count severity =
      reported.countP (·.severity == severity) := by
    intro severity
    rw [Session.count, follows.diagnostics]
  refine ⟨?_, ?_, follows.turns.isChain, follows.turns.head?_opens, ?_, follows.timings,
    follows.labels, follows.diagnostics, counts .error, counts .warning, ?_⟩
  · intro now
    rw [Session.exists_start_iff]
    exact follows.turns.openedAt_iff.1
  · intro now label
    rw [Session.exists_stop_iff]
    exact follows.turns.openedAt_iff.2
  · intro step error failed
    exact act_of_error failed
  · rw [Session.hasErrors, follows.diagnostics]
    simp only [List.any_eq_true, Severity.isError, beq_iff_eq]
    rfl

/-- Two independent scopes inside the shared one, which is opened twice and closed twice. -/
theorem session_follows_history_interleaved :
    let history : List SessionStep := [⟨0, .start⟩, ⟨1, .scope⟩, ⟨2, .start⟩, ⟨3, .scope⟩,
      ⟨4, .report ⟨.warning, "check", "suspicious", none⟩⟩, ⟨5, .finish 1 "b"⟩, ⟨6, .drop 0⟩,
      ⟨7, .stop "shared"⟩, ⟨8, .stop "late"⟩, ⟨9, .record ⟨"c", .zero⟩⟩,
      ⟨9, .report ⟨.error, "parse", "bad token", none⟩⟩]
    let session := (after {} history).session
    IsSessionHistory history ∧ startCount (outcomes {} history) = 1 ∧
      stopCount (outcomes {} history) = 1 ∧ (∃ next, session.start 10 = .ok next) ∧
      session.labels = ["b", "shared", "c"] ∧ session.errorCount = 1 ∧
      session.warningCount = 1 ∧ session.hasErrors = true := by
  intro history session
  have valid : IsSessionHistory history :=
    .step (.step (.step (.step (.step (.step (.step (.step (.step (.step (.step .start
      _ ?_) _ ?_) _ ?_) _ ?_) _ ?_) _ ?_) _ ?_) _ ?_) _ ?_) _ ?_) _ ?_
  case refine_1 | refine_2 | refine_3 | refine_4 | refine_5 | refine_6 | refine_7 | refine_8 |
    refine_9 | refine_10 | refine_11 => decide
  rcases session_follows_history valid with
    ⟨starts, _, _, _, _, _, labels, _, errors, warnings, hasErrors⟩
  refine ⟨valid, by decide, by decide, (starts 10).2 (by decide), labels.trans (by decide),
    errors.trans (by decide), warnings.trans (by decide), ?_⟩
  apply hasErrors.2
  exact ⟨⟨.error, "parse", "bad token", none⟩, by decide, rfl⟩

end SessionTable

end StagePipeline
