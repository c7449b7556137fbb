import StagePipeline.Proofs.RecordedRuns

/-!
# The account of an application

Each answer of a parser leaves a time and the diagnostics of what was passed over.  What
comes later depends on whether the answer ends the work: if it does not, a failure is
collected and reported as well.  An application in order collects a failure at once, one
with workers only when it goes through the outcomes in the order of the batch, and both
do so up to some position.  `Account` puts down what has come of all calls by then.

Walks have such an account: a visit follows from the answer that is given in it, and one
more visit in front of a walk adds its part to the account of the walk.
-/

namespace StagePipeline

open Program

/-- When a scope is closed again, the session has gained a time and what was reported in it. -/
theorem Services.exists_stop {services : Services} {before : Session} {opened : Instant}
    {diagnostics : List Diagnostic} (closed : before.openedAt = none)
    (here : services.session = { before with openedAt := some opened }.reportAll diagnostics)
    (label : String) :
    ∃ left, services.stop label = .ok left ∧ before.Grows left.session [label] diagnostics := by
  let timing : Timing := ⟨label, opened.elapsed services.now⟩
  refine ⟨{ services.tick with session := (before.reportAll diagnostics).record timing }, ?_, ?_⟩
  · simp [stop, here, Session.stop, Session.reportAll, Session.record, Except.map, timing, ← closed]
  · simpa using (Session.Grows.reportAll before diagnostics).trans (.record _ timing)

namespace ParseStage

variable {stage : ParseStage} {token : CancelToken}
  {allowed : SourceFile → Except SyntaxError ParseOutput → Prop}
  {unit : CompilationUnit} {services : Services} {answer : Except SyntaxError ParseOutput}

/-! ### What an answer comes to -/

/-- The diagnostic of a failure that does not end the work. -/
def collected (stage : ParseStage) (source : SourceFile) :
    Except SyntaxError ParseOutput → List Diagnostic
  | .ok _ => []
  | .error error => if stage.isFatal error then [] else [stage.diagnosis source error]

/-- How the work goes on after an answer. -/
def verdict (stage : ParseStage) (unit : CompilationUnit) :
    Except SyntaxError ParseOutput → Verdict
  | .ok _ => .parsed
  | .error error =>
    if stage.isFatal error then .stopped (stage.failure unit.source error) else .collected

theorem exists_settle (stage : ParseStage) {error : SyntaxError}
    (placed : Placed unit.source (.error error))
    (services : Services) :
    ∃ left, stage.settle unit (.rejected error) services =
        ⟨stage.verdict unit (.error error), unit, left⟩ ∧
      services.Grows left [] (stage.collected unit.source (.error error)) := by
  have located : stage.diagnostic? unit.source error = some _ :=
    diagnostic?_of_placed placed (List.mem_singleton_self error)
  cases fatal : stage.isFatal error with
  | true =>
    refine ⟨services, by simp [settle, verdict, fatal], ?_⟩
    simpa [collected, fatal] using Services.Grows.refl services
  | false =>
    refine ⟨services.report (stage.diagnosis unit.source error), ?_, ?_⟩
    · simp [settle, verdict, fatal, located]
    · simpa [collected, fatal] using Services.Grows.report services _

/-! ### One visit -/

/-- Why a visit ends before the parser is called. -/
def Unasked (stage : ParseStage) (unit : CompilationUnit) (error : StageError) : Prop :=
  (∃ reason, error = stage.interrupted unit.source reason) ∨ error = .session .scopeAlreadyOpen

theorem visit_of_unasked (unasked : stage.asked? token unit services = none) :
    ∃ error, stage.visit token unit services = ⟨.stopped error, unit, services.tick⟩ ∧
      stage.Unasked unit error := by
  rw [asked?] at unasked
  cases polled : services.poll token with
  | some reason =>
    exact ⟨_, by simp only [visit, polled], .inl ⟨reason, rfl⟩⟩
  | none =>
    simp only [polled] at unasked
    cases scope : services.session.openedAt with
    | none => simp [Services.start, Session.start, Services.tick, scope, Except.map] at unasked
    | some opened =>
      refine ⟨.session .scopeAlreadyOpen, ?_, .inr rfl⟩
      simp [visit, polled, Services.start, Session.start, Services.tick, scope, Except.map]

/-- In a visit in which the parser is called, everything follows from the answer. -/
theorem exists_visit (answered : stage.asked? token unit services = some answer)
    (placed : Placed unit.source answer) :
    ∃ left, stage.visit token unit services =
        ⟨stage.verdict unit answer, unit.receive answer, left⟩ ∧
      services.session.Grows left.session [label unit.source answer.isOk]
        (stage.recovered unit.source answer ++ stage.collected unit.source answer) := by
  rw [asked?] at answered
  cases polled : services.poll token with
  | some reason =>
    rw [polled] at answered
    exact nomatch answered
  | none =>
    cases scope : services.session.openedAt with
    | some opened =>
      simp [polled, Services.start, Session.start, Services.tick, scope, Except.map] at answered
    | none =>
      let started : Services :=
        { services.tick.tick with session.openedAt := some services.tick.now }
      have start_eq : services.tick.start = .ok started := by
        simp [Services.start, Session.start, Services.tick, scope, Except.map, started]
      simp only [polled, start_eq, Option.some.injEq] at answered
      have visit_eq : stage.visit token unit services = stage.parseTimed token unit started := by
        simp only [visit, polled, start_eq]
      -- Building the parser may cancel the token and does nothing else.
      have session_built : (stage.build unit.source started).session = started.session := by
        rw [build]
        split <;> rfl
      rw [visit_eq, parseTimed, attempt, answered]
      generalize stage.build unit.source started = built at session_built ⊢
      cases answer with
      | ok output =>
        have here : (built.tick.reportAll (stage.recovered unit.source (.ok output))).session =
            started.session.reportAll (stage.recovered unit.source (.ok output)) :=
          congrArg (Session.reportAll · _) session_built
        rcases Services.exists_stop scope here (label unit.source true) with ⟨left, closed, grown⟩
        simp only [judge_ok placed, closed]
        refine ⟨left, rfl, ?_⟩
        rw [collected, List.append_nil]
        exact grown
      | error error =>
        have here : built.tick.session = started.session.reportAll [] := by
          rw [Session.reportAll, List.append_nil]
          exact session_built
        rcases Services.exists_stop scope here (label unit.source false) with ⟨left, closed, grown⟩
        rcases stage.exists_settle placed left with ⟨settled, settle_eq, more⟩
        simp only [judge_error, closed]
        exact ⟨settled, settle_eq, grown.trans more.session⟩

/--
What a visit comes to when there was some session before: it ends the walk before the parser
is called, or everything follows from the answer.
-/
inductive Visit.Follows (stage : ParseStage) (before : Session) (unit : CompilationUnit) :
    Option (Except SyntaxError ParseOutput) → Visit → Prop
  | unasked {error : StageError} (unasked : stage.Unasked unit error) {left : Services}
    (kept : left.session = before) : Follows stage before unit none ⟨.stopped error, unit, left⟩
  | asked (answer : Except SyntaxError ParseOutput) {left : Services}
    (grown : before.Grows left.session [label unit.source answer.isOk]
      (stage.recovered unit.source answer ++ stage.collected unit.source answer)) :
    Follows stage before unit (some answer)
      ⟨stage.verdict unit answer, unit.receive answer, left⟩

/-- What a visit comes to does not depend on whose parser gives the answer. -/
theorem follows_visit {factory : ParserFactory}
    (placed : ∀ answer ∈ (stage.withFactory factory).asked? token unit services,
      Placed unit.source answer) :
    Visit.Follows stage services.session unit
      ((stage.withFactory factory).asked? token unit services)
      ((stage.withFactory factory).visit token unit services) := by
  cases asked : (stage.withFactory factory).asked? token unit services with
  | none =>
    rcases visit_of_unasked asked with ⟨error, visit_eq, unasked⟩
    have unasked : stage.Unasked unit error := unasked
    rw [visit_eq]
    exact .unasked unasked rfl
  | some answer =>
    rcases exists_visit asked (placed answer asked) with ⟨left, visit_eq, grown⟩
    rw [visit_eq]
    exact .asked answer grown

/-! ### Accounts -/

/-- The answer does not end the work. -/
def GoesOn (stage : ParseStage) (answer : Except SyntaxError ParseOutput) : Prop :=
  ∀ error, answer = .error error → stage.isFatal error = false

/-- Why the work ends at a unit, given the answer of its parser if the parser was called. -/
def EndsWith (stage : ParseStage) (unit : CompilationUnit) (error : StageError) :
    Option (Except SyntaxError ParseOutput) → Prop
  | none => stage.Unasked unit error
  | some answer => stage.verdict unit answer = .stopped error

/--
What has come of the calls in an application to a batch.  Failures have been collected up
to the position at which the application ends: beyond the batch if every unit was called
for and no answer ends the work, and otherwise at the unit that ends it.
-/
structure Account (stage : ParseStage)
    (allowed : SourceFile → Except SyntaxError ParseOutput → Prop) (batch : List CompilationUnit)
    (before : Session) (walk : Walk) (calls : List Call) (last : Nat) : Prop where
  genuine : ∀ call ∈ calls, call.IsFor allowed batch
  once : (calls.map (·.position)).Nodup
  units : walk.units =
    batch.mapIdx fun position unit => (answerAt calls position).elim unit unit.receive
  grown : ∃ labels diagnostics,
    before.Grows walk.services.session labels diagnostics ∧
    labels.Perm (calls.map fun call => label call.source call.answer.isOk) ∧
    diagnostics.Perm (calls.flatMap fun call => stage.recovered call.source call.answer ++
      if call.position < last then stage.collected call.source call.answer else [])
  failed : ∀ name ∈ walk.failed,
    ∃ call ∈ calls, call.source.name = name ∧ call.answer.isOk = false
  ends : (last = batch.length ∧ walk.stopped = none ∧ ∀ position < batch.length, ∃ answer,
      answerAt calls position = some answer ∧ stage.GoesOn answer) ∨
    ∃ unit error, batch[last]? = some unit ∧ walk.stopped = some error ∧
      stage.EndsWith unit error (answerAt calls last)

theorem verdict_of_goesOn (goesOn : stage.GoesOn answer) :
    stage.verdict unit answer = if answer.isOk then .parsed else .collected := by
  cases answer with
  | ok output => rfl
  | error error => simp [verdict, goesOn error rfl, Except.isOk, Except.toBool]

/-- An answer either lets the work go on or ends it, and then it is not collected. -/
theorem goesOn_or_stopped (stage : ParseStage) (unit : CompilationUnit)
    (answer : Except SyntaxError ParseOutput) :
    stage.GoesOn answer ∨
      (∃ error, stage.verdict unit answer = .stopped error) ∧
        stage.collected unit.source answer = [] ∧ unit.receive answer = unit := by
  cases answer with
  | ok output => exact .inl nofun
  | error error =>
    cases fatal : stage.isFatal error with
    | false =>
      refine .inl ?_
      rintro _ ⟨rfl⟩
      exact fatal
    | true => exact .inr ⟨⟨_, by rw [verdict, if_pos fatal]⟩, by rw [collected, if_pos fatal], rfl⟩

/-! ### In order -/

section Walk

variable {rest : List CompilationUnit} {before : Session} {left : Services} {later : Walk}
  {calls : List Call} {last : Nat}

theorem answerAt_cons_later (source : SourceFile) (answer : Except SyntaxError ParseOutput)
    (calls : List Call) (position : Nat) :
    answerAt (⟨0, source, answer⟩ :: calls.map (·.later)) (position + 1) =
      answerAt calls position := by
  have shifted : (fun call : Call => call.later.position == position + 1) =
      fun call => call.position == position := by
    funext call
    exact Bool.eq_iff_iff.2 (by simp [Call.later])
  rw [answerAt, List.find?_cons_of_neg (by simp), List.find?_map, Option.map_map, answerAt]
  simp only [Function.comp_def, shifted]
  rfl

theorem Visit.calls_of_goesOn (goesOn : stage.GoesOn answer) (after : CompilationUnit)
    (left : Services) (later : List Call) :
    Visit.calls ⟨stage.verdict unit answer, after, left⟩ unit (some answer) later =
      ⟨0, unit.source, answer⟩ :: later.map (·.later) := by
  rw [verdict_of_goesOn goesOn, calls]
  cases answer.isOk <;> rfl

/-- A walk is completed by a unit whose answer lets it go on, and by the name of the unit if
the failure is collected. -/
theorem Visit.before_of_goesOn (goesOn : stage.GoesOn answer) (left : Services)
    (rest : List CompilationUnit) (later : Walk) :
    ∃ more, (more ≠ [] → answer.isOk = false ∧ more = [unit.source.name]) ∧
      Visit.before ⟨stage.verdict unit answer, unit.receive answer, left⟩ rest later =
        { later with
          units := unit.receive answer :: later.units
          failed := more ++ later.failed } := by
  rw [verdict_of_goesOn goesOn]
  cases answered : answer.isOk with
  | true => exact ⟨[], nofun, rfl⟩
  | false =>
    refine ⟨[unit.source.name], fun _ => ⟨rfl, rfl⟩, ?_⟩
    rw [← unit.source_receive answer]
    rfl

theorem account_nil (services : Services) :
    Account stage allowed [] services.session { units := [], services := services } [] 0 where
  genuine := nofun
  once := List.nodup_nil
  units := rfl
  grown := ⟨[], [], .refl _, .nil, .nil⟩
  failed := nofun
  ends := .inl ⟨rfl, rfl, nofun⟩

/-- The account of a walk that is over after its first unit. -/
theorem account_stopped (answer? : Option (Except SyntaxError ParseOutput)) {error : StageError}
    (ends : stage.EndsWith unit error answer?)
    (genuine : ∀ answer ∈ answer?, allowed unit.source answer)
    (grown : before.Grows left.session (answer?.toList.map (label unit.source ·.isOk))
      (answer?.toList.flatMap (stage.recovered unit.source))) :
    Account stage allowed (unit :: rest) before
      { units := answer?.elim unit unit.receive :: rest, services := left, stopped := some error }
      (answer?.toList.map (⟨0, unit.source, ·⟩)) 0 where
  genuine := by
    intro call member
    rcases List.mem_map.1 member with ⟨answer, given, rfl⟩
    exact ⟨unit, rfl, rfl, genuine answer (Option.mem_toList.1 given)⟩
  once := by cases answer? <;> simp
  units := by
    simp only [List.mapIdx_cons, answerAt_toList, if_true]
    congr 1
    exact (List.ext_getElem? fun position => by simp).symm
  grown := by
    refine ⟨_, _, grown, ?_, ?_⟩
    · rw [List.map_map]
      exact .refl _
    · rw [List.flatMap_map]
      simp
  failed := nofun
  ends := by
    refine .inr ⟨unit, error, rfl, rfl, ?_⟩
    rw [answerAt_toList, if_pos rfl]
    exact ends

/-- The account of a walk that goes on after its first unit. -/
theorem Account.cons (account : Account stage allowed rest left.session later calls last)
    (goesOn : stage.GoesOn answer) (genuine : allowed unit.source answer)
    (grown : before.Grows left.session [label unit.source answer.isOk]
      (stage.recovered unit.source answer ++ stage.collected unit.source answer)) :
    Account stage allowed (unit :: rest) before
      (Visit.before ⟨stage.verdict unit answer, unit.receive answer, left⟩ rest later)
      (⟨0, unit.source, answer⟩ :: calls.map (·.later)) (last + 1) := by
  rcases Visit.before_of_goesOn goesOn left rest later with ⟨more, named, walk_eq⟩
  rw [walk_eq]
  constructor
  case genuine =>
    intro call member
    rcases List.mem_cons.1 member with rfl | among
    · exact ⟨unit, rfl, rfl, genuine⟩
    · rcases List.mem_map.1 among with ⟨earlier, there, rfl⟩
      exact account.genuine earlier there
  case once =>
    have shifted : (calls.map (·.later)).map (·.position) =
        (calls.map (·.position)).map (· + 1) := by
      rw [List.map_map, List.map_map]
      rfl
    rw [List.map_cons, shifted, List.nodup_cons]
    exact ⟨by simp, account.once.map (Nat.succ_injective)⟩
  case units =>
    simp only [List.mapIdx_cons, answerAt_cons_later, account.units]
    rfl
  case grown =>
    rcases account.grown with ⟨labels, diagnostics, more, labelled, reported⟩
    refine ⟨_, _, grown.trans more, ?_, ?_⟩
    · rw [List.map_cons, List.map_map]
      exact labelled.cons _
    · rw [List.flatMap_cons, List.flatMap_map, if_pos (Nat.succ_pos last)]
      refine (reported.append_left _).trans (.of_eq ?_)
      simp only [Call.later, Nat.add_lt_add_iff_right]
  case failed =>
    intro name member
    rcases List.mem_append.1 member with here | there
    · rcases named (List.ne_nil_of_mem here) with ⟨failed, rfl⟩
      exact ⟨_, List.mem_cons_self, (List.mem_singleton.1 here).symm, failed⟩
    · rcases account.failed name there with ⟨call, among, same, failed⟩
      exact ⟨call.later, List.mem_cons_of_mem _ (List.mem_map_of_mem among), same, failed⟩
  case ends =>
    rcases account.ends with ⟨rfl, finished, answered⟩ | ⟨other, error, here, stopped, ends⟩
    · refine .inl ⟨rfl, finished, ?_⟩
      rintro (_ | position) within
      · exact ⟨answer, rfl, goesOn⟩
      · rw [answerAt_cons_later]
        exact answered position (Nat.lt_of_succ_lt_succ within)
    · refine .inr ⟨other, error, here, stopped, ?_⟩
      rw [answerAt_cons_later]
      exact ends

theorem allowed_of_asked? (gives : stage.factory.Gives allowed)
    (answered : stage.asked? token unit services = some answer) :
    allowed unit.source answer := by
  rw [asked?] at answered
  split at answered
  · exact nomatch answered
  · split at answered
    · exact nomatch answered
    · rcases Option.some.inj answered with rfl
      exact gives _ _

/-- One more visit in front of a walk with an account gives a walk with an account. -/
theorem Visit.Follows.account {visited : Visit}
    {asked? : Option (Except SyntaxError ParseOutput)}
    (follows : visited.Follows stage before unit asked?)
    (genuine : ∀ answer ∈ asked?, allowed unit.source answer)
    (account : Account stage allowed rest visited.services.session later calls last)
    (behind : ∀ call ∈ calls, call.position ≤ last) :
    ∃ last, Account stage allowed (unit :: rest) before (visited.before rest later)
        (visited.calls unit asked? calls) last ∧
      ∀ call ∈ visited.calls unit asked? calls, call.position ≤ last := by
  cases follows with
  | unasked unasked kept =>
    refine ⟨0, ?_, nofun⟩
    exact account_stopped none unasked nofun (kept ▸ .refl _)
  | asked answer grown =>
    have given := genuine answer rfl
    rcases stage.goesOn_or_stopped unit answer with
      goesOn | ⟨⟨error, stopped⟩, uncollected, unchanged⟩
    · rw [Visit.calls_of_goesOn goesOn]
      refine ⟨last + 1, account.cons goesOn given grown, ?_⟩
      intro call member
      rcases List.mem_cons.1 member with rfl | among
      · exact Nat.zero_le _
      · rcases List.mem_map.1 among with ⟨earlier, there, rfl⟩
        exact Nat.succ_le_succ (behind earlier there)
    · rw [uncollected, List.append_nil] at grown
      rw [stopped]
      refine ⟨0, ?_, ?_⟩
      · refine account_stopped (some answer) stopped ?_ ?_
        · rintro _ ⟨rfl⟩
          exact given
        · simpa using grown
      · intro call member
        rcases List.mem_singleton.1 member with rfl
        exact Nat.le_refl _

/-- A walk over a batch has an account, and no call is made behind the unit that ends it. -/
theorem RecordedWalk.account
    (placed : ∀ source answer, allowed source answer → Placed source answer)
    {batch : List CompilationUnit} {services : Services} {walk : Walk}
    (recorded : RecordedWalk stage allowed token batch services walk calls) :
    ∃ last, Account stage allowed batch services.session walk calls last ∧
      ∀ call ∈ calls, call.position ≤ last := by
  induction recorded with
  | nil services => exact ⟨0, account_nil services, nofun⟩
  | @cons services current factory gives families cancelled unit rest visited visits later calls
      recorded inductive_hypothesis =>
    have same : current.session = services.session := by rw [cancelled]
    have genuine : ∀ answer ∈ (stage.withFactory factory).asked? token unit current,
        allowed unit.source answer := by
      intro answer answered
      have gives_here : (stage.withFactory factory).factory.Gives allowed := gives
      exact allowed_of_asked? gives_here answered
    have follows := follows_visit fun answer answered => placed _ _ (genuine answer answered)
    rw [same, ← visits] at follows
    rcases inductive_hypothesis with ⟨last, account, behind⟩
    exact follows.account genuine account behind

end Walk

end ParseStage

end StagePipeline
