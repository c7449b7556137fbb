import Mathlib.Data.List.Induction
import StagePipeline.CancelToken

/-!
# Tokens over a history

A history is a list of steps, each of which makes a token, derives one from a token that
is there, or cancels one.  What a check has to say can be read off the history alone: how
each token came to be (`TokenOrigin`), from which first token of a family it descends and
which deadlines it was given on the way (`Descends`), and which tokens were cancelled.

The table of tokens has no such record.  It numbers the families and keeps a single
deadline for each token.  `TokenTable.Follows` says how the two belong together, and
every step keeps it.
-/

namespace StagePipeline

/-- How a token came to be: as the first of a family, or from another token. -/
inductive TokenOrigin where
  | fresh
  | derived (parent : Nat) (deadline : Option Instant)
  deriving DecidableEq, Repr

/-- A step of a history: what is done, and when. -/
structure TokenStep where
  now : Instant
  action : TokenAction
  deriving DecidableEq, Repr

namespace TokenStep

/-- The token that the step is about, if it is about one that is there. -/
def target? (step : TokenStep) : Option Nat :=
  match step.action with
  | .fresh => none
  | .clone token | .cancel token | .withDeadline token _ | .withTimeout token _ _ => some token

/-- The origin of the token that the step makes, if it makes one. -/
def origin? (step : TokenStep) : Option TokenOrigin :=
  match step.action with
  | .fresh => some .fresh
  | .clone token => some (.derived token none)
  | .cancel _ => none
  | .withDeadline token deadline => some (.derived token (some deadline))
  | .withTimeout token milliseconds nanoseconds =>
    some (.derived token (some (step.now + milliseconds * 1000000 + nanoseconds)))

end TokenStep

/-- The origins of all tokens of a history, in the order in which they were made. -/
def tokenOrigins (history : List TokenStep) : List TokenOrigin :=
  history.filterMap TokenStep.origin?

/-- Every step of the history is about a token that has been made before it. -/
inductive IsTokenHistory : List TokenStep → Prop
  | start : IsTokenHistory []
  | step {past : List TokenStep} (history : IsTokenHistory past) (step : TokenStep)
    (made : ∀ token ∈ step.target?, token < (tokenOrigins past).length) :
    IsTokenHistory (past ++ [step])

/--
A token goes back to the first token of its family, and has been given these deadlines
on the way from there, the latest of them first.
-/
inductive Descends (origins : List TokenOrigin) (first : Nat) : Nat → List Instant → Prop
  | fresh (made : origins[first]? = some .fresh) : Descends origins first first []
  | derived {parent token : Nat} {deadline : Option Instant} {deadlines : List Instant}
    (descends : Descends origins first parent deadlines)
    (made : origins[token]? = some (.derived parent deadline)) :
    Descends origins first token (deadline.toList ++ deadlines)

/-- Two tokens go back to the same first token. -/
def SameFamily (origins : List TokenOrigin) (token other : Nat) : Prop :=
  ∃ first deadlines more, Descends origins first token deadlines ∧ Descends origins first other more

/-- Some token of the family of the token has been cancelled. -/
def FamilyCancelled (history : List TokenStep) (token : Nat) : Prop :=
  ∃ step ∈ history, ∃ target, step.action = .cancel target ∧
    SameFamily (tokenOrigins history) target token

theorem tokenOrigins_isPrefix (history later : List TokenStep) :
    tokenOrigins history <+: tokenOrigins (history ++ later) := by
  rw [tokenOrigins, tokenOrigins, List.filterMap_append]
  exact List.prefix_append _ _

theorem IsTokenHistory.target_made {history : List TokenStep} (valid : IsTokenHistory history) :
    ∀ step ∈ history, ∀ token ∈ step.target?, token < (tokenOrigins history).length := by
  induction valid with
  | start => exact fun _ within => nomatch within
  | @step past valid last made inductive_hypothesis =>
    have longer := (tokenOrigins_isPrefix past [last]).length_le
    intro step within token target
    rcases List.mem_append.mp within with within | within
    · exact Nat.lt_of_lt_of_le (inductive_hypothesis step within token target) longer
    · rcases List.mem_singleton.mp within with rfl
      exact Nat.lt_of_lt_of_le (made token target) longer

/-! ### Descent -/

section Descent

/-- What stands in a list with one element more stood there before or is that element. -/
theorem getElem?_concat_cases {α : Type} {list : List α} {last found : α} {position : Nat}
    (here : (list ++ [last])[position]? = some found) :
    (position < list.length ∧ list[position]? = some found) ∨
      position = list.length ∧ found = last := by
  rcases Nat.lt_trichotomy position list.length with less | rfl | greater
  · exact .inl ⟨less, (List.getElem?_append_left less).symm.trans here⟩
  · rw [List.getElem?_concat_length] at here
    exact .inr ⟨rfl, (Option.some.inj here).symm⟩
  · rw [List.getElem?_eq_none (by simpa using Nat.succ_le_of_lt greater)] at here
    exact nomatch here

variable {origins : List TokenOrigin} {first token : Nat} {deadlines : List Instant}

theorem Descends.made_first (descends : Descends origins first token deadlines) :
    origins[first]? = some .fresh := by
  induction descends with
  | fresh made => exact made
  | derived descends made inductive_hypothesis => exact inductive_hypothesis

theorem Descends.made (descends : Descends origins first token deadlines) :
    token < origins.length := by
  cases descends with
  | fresh made => exact (List.getElem?_eq_some_iff.mp made).1
  | derived _ made => exact (List.getElem?_eq_some_iff.mp made).1

/-- A token has one first token and was given one list of deadlines. -/
theorem Descends.unique (descends : Descends origins first token deadlines) {other : Nat}
    {more : List Instant} (descendsToo : Descends origins other token more) :
    other = first ∧ more = deadlines := by
  induction descends generalizing more with
  | fresh made =>
    cases descendsToo with
    | fresh => exact ⟨rfl, rfl⟩
    | derived _ madeToo => exact nomatch made.symm.trans madeToo
  | derived _ made inductive_hypothesis =>
    cases descendsToo with
    | fresh madeToo => exact nomatch made.symm.trans madeToo
    | derived descendsToo madeToo =>
      rcases TokenOrigin.derived.inj (Option.some.inj (made.symm.trans madeToo)) with ⟨rfl, rfl⟩
      rcases inductive_hypothesis descendsToo with ⟨rfl, rfl⟩
      exact ⟨rfl, rfl⟩

/-- How many families there were before the one that a token begins. -/
def familiesBefore (origins : List TokenOrigin) (first : Nat) : Nat :=
  (origins.take first).count .fresh

theorem familiesBefore_lt {later : Nat} (made : origins[first]? = some .fresh)
    (less : first < later) : familiesBefore origins first < familiesBefore origins later := by
  have longer : origins.take (first + 1) <+: origins.take later :=
    List.take_prefix_take_left less
  calc familiesBefore origins first
      < (origins.take (first + 1)).count .fresh := by
        rw [List.take_add_one, made, List.count_append]
        exact Nat.lt_add_of_pos_right (by decide)
    _ ≤ familiesBefore origins later := longer.sublist.count_le _

theorem familiesBefore_append (within : first ≤ origins.length) (origin : TokenOrigin) :
    familiesBefore (origins ++ [origin]) first = familiesBefore origins first := by
  rw [familiesBefore, List.take_append_of_le_length within, familiesBefore]

/-- The tokens that begin families are told apart by the families before them. -/
theorem familiesBefore_injective {other : Nat} (made : origins[first]? = some .fresh)
    (madeToo : origins[other]? = some .fresh)
    (same : familiesBefore origins first = familiesBefore origins other) : first = other := by
  rcases Nat.lt_trichotomy first other with less | equal | greater
  · exact absurd same (Nat.ne_of_lt (familiesBefore_lt made less))
  · exact equal
  · exact absurd same (Nat.ne_of_gt (familiesBefore_lt madeToo greater))

end Descent

/-! ### The table -/

/-- The token that expires at one more deadline as well, if there is one. -/
def CancelToken.narrowed (token : CancelToken) : Option Instant → CancelToken
  | none => token
  | some deadline => token.withDeadline deadline

theorem CancelToken.deadline_narrowed {token : CancelToken} {deadlines : List Instant}
    (least : token.deadline = deadlines.min?) (deadline : Option Instant) :
    (token.narrowed deadline).deadline = (deadline.toList ++ deadlines).min? := by
  cases deadline with
  | none => exact least
  | some deadline =>
    rw [Option.toList_some, List.singleton_append, List.min?_cons, ← least]
    show some _ = some _
    cases token.deadline with
    | none => rfl
    | some current => exact congrArg some (Nat.min_comm current deadline)

@[simp]
theorem CancelToken.family_narrowed (token : CancelToken) (deadline : Option Instant) :
    (token.narrowed deadline).family = token.family := by
  cases deadline <;> rfl

section Check

variable {token : CancelToken} {cancelled : List Nat} {now : Instant}

theorem CancelToken.check_of_mem (within : token.family ∈ cancelled) :
    token.check cancelled now = some .cancelled :=
  if_pos (List.contains_iff_mem.mpr within)

theorem CancelToken.check_of_not_mem (outside : token.family ∉ cancelled) :
    token.check cancelled now =
      if ∃ deadline ∈ token.deadline, deadline ≤ now then some .deadlineExceeded else none := by
  rw [check, if_neg (mt List.contains_iff_mem.mp outside)]
  cases token.deadline <;> simp

theorem CancelToken.check_eq_cancelled_iff :
    token.check cancelled now = some .cancelled ↔ token.family ∈ cancelled := by
  constructor
  · intro answer
    by_contra outside
    rw [check_of_not_mem outside] at answer
    split at answer <;> exact nomatch answer
  · exact check_of_mem

theorem CancelToken.check_eq_deadlineExceeded_iff :
    token.check cancelled now = some .deadlineExceeded ↔
      token.family ∉ cancelled ∧ ∃ deadline ∈ token.deadline, deadline ≤ now := by
  by_cases within : token.family ∈ cancelled
  · simp [check_of_mem within, within]
  · simp [check_of_not_mem within, within]

theorem CancelToken.check_eq_none_iff :
    token.check cancelled now = none ↔
      token.family ∉ cancelled ∧ ∀ deadline ∈ token.deadline, now < deadline := by
  by_cases within : token.family ∈ cancelled
  · simp [check_of_mem within, within]
  · simp [check_of_not_mem within, within]

/-- A check that stops work does so later as well, whatever has been cancelled meanwhile. -/
theorem CancelToken.check_eq_none_of_later {more : List Nat} {afterwards : Instant}
    (longer : cancelled ⊆ more) (order : now ≤ afterwards)
    (quiet : token.check more afterwards = none) : token.check cancelled now = none := by
  rcases check_eq_none_iff.mp quiet with ⟨outside, early⟩
  refine check_eq_none_iff.mpr ⟨fun within => outside (longer within), ?_⟩
  intro deadline given
  exact Nat.lt_of_le_of_lt order (early deadline given)

end Check

/-- The least of some deadlines has come exactly if one of them has. -/
theorem exists_min?_le_iff {deadlines : List Instant} {now : Instant} :
    (∃ deadline ∈ deadlines.min?, deadline ≤ now) ↔ ∃ deadline ∈ deadlines, deadline ≤ now := by
  cases least : deadlines.min? with
  | none => simp [List.min?_eq_none_iff.mp least]
  | some deadline =>
    rcases List.min?_eq_some_iff.mp least with ⟨within, below⟩
    constructor
    · rintro ⟨_, ⟨rfl⟩, come⟩
      exact ⟨deadline, within, come⟩
    · rintro ⟨other, given, come⟩
      exact ⟨deadline, rfl, Nat.le_trans (below other given) come⟩

namespace TokenTable

/-- The table after some steps. -/
def after (table : TokenTable) (history : List TokenStep) : TokenTable :=
  history.foldl (fun table step => table.act step.now step.action) table

theorem after_append (table : TokenTable) (history later : List TokenStep) :
    table.after (history ++ later) = (table.after history).after later :=
  List.foldl_append

/-- All that a step can do to a table that holds the token it is about. -/
theorem act_cases {table : TokenTable} {step : TokenStep}
    (made : ∀ token ∈ step.target?, token < table.tokens.length) :
    (step.origin? = some .fresh ∧ table.act step.now step.action = table.fresh) ∨
    (∃ parent deadline token, step.origin? = some (.derived parent deadline) ∧
      table.tokens[parent]? = some token ∧
      table.act step.now step.action =
        { table with tokens := table.tokens ++ [token.narrowed deadline] }) ∨
    ∃ target token, step.action = .cancel target ∧ table.tokens[target]? = some token ∧
      table.act step.now step.action =
        { table with cancelled := token.family :: table.cancelled } := by
  rcases step with ⟨now, action⟩
  have found : ∀ token, TokenStep.target? ⟨now, action⟩ = some token →
      ∃ value, table.tokens[token]? = some value := by
    intro token target
    exact ⟨_, List.getElem?_eq_getElem (made token target)⟩
  cases action with
  | fresh => exact .inl ⟨rfl, rfl⟩
  | clone token =>
    rcases found token rfl with ⟨value, here⟩
    exact .inr (.inl ⟨token, none, value, rfl, here, by simp [act, derive, here]; rfl⟩)
  | cancel token =>
    rcases found token rfl with ⟨value, here⟩
    exact .inr (.inr ⟨token, value, rfl, here, by simp [act, cancel, here]⟩)
  | withDeadline token deadline =>
    rcases found token rfl with ⟨value, here⟩
    exact .inr (.inl ⟨token, some deadline, value, rfl, here, by simp [act, derive, here]; rfl⟩)
  | withTimeout token milliseconds nanoseconds =>
    rcases found token rfl with ⟨value, here⟩
    exact .inr (.inl ⟨token, some _, value, rfl, here, by simp [act, derive, here]; rfl⟩)

/-- The table holds the tokens of the history, and the families cancelled in it. -/
structure Follows (table : TokenTable) (history : List TokenStep) : Prop where
  length : table.tokens.length = (tokenOrigins history).length
  families : table.families = (tokenOrigins history).count .fresh
  fresh : ∀ first : Nat, (tokenOrigins history)[first]? = some .fresh →
    table.tokens[first]? = some { family := familiesBefore (tokenOrigins history) first }
  derived : ∀ (token parent : Nat) (deadline : Option Instant),
    (tokenOrigins history)[token]? = some (.derived parent deadline) →
    parent < token ∧ table.tokens[token]? = table.tokens[parent]?.map (·.narrowed deadline)
  cancelled : ∀ family, family ∈ table.cancelled ↔
    ∃ step ∈ history, ∃ (target : Nat) (token : CancelToken), step.action = .cancel target ∧
      table.tokens[target]? = some token ∧ token.family = family

theorem follows_start : Follows {} [] where
  length := rfl
  families := rfl
  fresh _ made := nomatch made
  derived _ _ _ made := nomatch made
  cancelled _ := by simp

section Step

variable {table : TokenTable} {past : List TokenStep} {step : TokenStep}

/-- A step that makes a token puts it behind those that are there. -/
theorem Follows.make (follows : table.Follows past) (history : IsTokenHistory past)
    {origin : TokenOrigin} {made : CancelToken} {next : TokenTable}
    (makes : step.origin? = some origin)
    (tokens : next.tokens = table.tokens ++ [made])
    (families : next.families = table.families + [origin].count .fresh)
    (cancelled : next.cancelled = table.cancelled)
    (first : origin = .fresh → made = { family := table.families })
    (derived : ∀ parent deadline, origin = .derived parent deadline →
      ∃ token, table.tokens[parent]? = some token ∧ made = token.narrowed deadline) :
    next.Follows (past ++ [step]) := by
  have origins : tokenOrigins (past ++ [step]) = tokenOrigins past ++ [origin] := by
    simp [tokenOrigins, makes]
  have earlier : ∀ position : Nat, position < table.tokens.length →
      next.tokens[position]? = table.tokens[position]? := by
    intro position less
    rw [tokens, List.getElem?_append_left less]
  have last : next.tokens[table.tokens.length]? = some made := by
    rw [tokens, List.getElem?_concat_length]
  constructor
  case length => rw [origins, tokens, List.length_append, List.length_append, follows.length]; rfl
  case families => rw [origins, families, List.count_append, follows.families]
  case fresh =>
    intro position here
    rw [origins] at here ⊢
    rcases getElem?_concat_cases here with ⟨less, here⟩ | ⟨rfl, same⟩
    · rw [earlier position (follows.length ▸ less), follows.fresh position here,
        familiesBefore_append (Nat.le_of_lt less)]
    · rw [← follows.length, last, first same.symm, follows.length,
        familiesBefore_append (Nat.le_refl _), follows.families, familiesBefore, List.take_length]
  case derived =>
    intro position parent deadline here
    rw [origins] at here
    rcases getElem?_concat_cases here with ⟨less, here⟩ | ⟨rfl, same⟩
    · rcases follows.derived position parent deadline here with ⟨above, found⟩
      rw [← follows.length] at less
      exact ⟨above, by rw [earlier position less, earlier parent (Nat.lt_trans above less), found]⟩
    · rcases derived parent deadline same.symm with ⟨token, found, rfl⟩
      have above : parent < table.tokens.length := (List.getElem?_eq_some_iff.mp found).1
      rw [← follows.length]
      exact ⟨above, by rw [last, earlier parent above, found, Option.map_some]⟩
  case cancelled =>
    intro family
    have silent : ∀ target, step.action ≠ .cancel target := by
      intro target cancels
      simp [TokenStep.origin?, cancels] at makes
    rw [cancelled, follows.cancelled]
    constructor
    · rintro ⟨other, within, target, token, cancels, found, same⟩
      refine ⟨other, List.mem_append_left _ within, target, token, cancels, ?_, same⟩
      rw [earlier target (List.getElem?_eq_some_iff.mp found).1, found]
    · rintro ⟨other, within, target, token, cancels, found, same⟩
      rcases List.mem_append.mp within with within | within
      · have less := follows.length ▸
          history.target_made other within target (by simp [TokenStep.target?, cancels])
        exact ⟨other, within, target, token, cancels, (earlier target less).symm.trans found, same⟩
      · exact absurd (List.mem_singleton.mp within ▸ cancels) (silent target)

/-- Each step keeps the table in step with the history. -/
theorem Follows.act (follows : table.Follows past) (history : IsTokenHistory past)
    (made : ∀ token ∈ step.target?, token < (tokenOrigins past).length) :
    (table.act step.now step.action).Follows (past ++ [step]) := by
  rcases act_cases (follows.length ▸ made) with
    ⟨origin, next⟩ | ⟨parent, deadline, token, origin, found, next⟩ |
      ⟨target, token, cancels, found, next⟩
  · rw [next]
    exact follows.make history origin rfl rfl rfl (fun _ => rfl) (fun _ _ other => nomatch other)
  · rw [next]
    refine follows.make history origin rfl rfl rfl (fun other => nomatch other) ?_
    rintro _ _ ⟨rfl, rfl⟩
    exact ⟨token, found, rfl⟩
  · rw [next]
    have origins : tokenOrigins (past ++ [step]) = tokenOrigins past := by
      simp [tokenOrigins, TokenStep.origin?, cancels]
    constructor
    case length => rw [origins]; exact follows.length
    case families => rw [origins]; exact follows.families
    case fresh => rw [origins]; exact follows.fresh
    case derived => rw [origins]; exact follows.derived
    case cancelled =>
      intro family
      rw [List.mem_cons, follows.cancelled]
      constructor
      · rintro (rfl | ⟨other, within, reached⟩)
        · exact ⟨step, by simp, target, token, cancels, found, rfl⟩
        · exact ⟨other, List.mem_append_left _ within, reached⟩
      · rintro ⟨other, within, target', token', cancels', found', same⟩
        rcases List.mem_append.mp within with within | within
        · exact .inr ⟨other, within, target', token', cancels', found', same⟩
        · have same_target := (List.mem_singleton.mp within ▸ cancels').symm.trans cancels
          rcases TokenAction.cancel.inj same_target with rfl
          rcases Option.some.inj (found'.symm.trans found) with rfl
          exact .inl same.symm

end Step

/-- After any history the table holds its tokens, and the families cancelled in it. -/
theorem follows_after {history : List TokenStep} (valid : IsTokenHistory history) :
    (after {} history).Follows history := by
  induction valid with
  | start => exact follows_start
  | step valid step made inductive_hypothesis =>
    rw [after_append]
    exact inductive_hypothesis.act valid made

section Descent

variable {table : TokenTable} {history : List TokenStep} {position : Nat} {token : CancelToken}

/-- A token has the family number of its first token and the least of its deadlines. -/
theorem Follows.exists_descends (follows : table.Follows history)
    (found : table.tokens[position]? = some token) :
    ∃ first deadlines, Descends (tokenOrigins history) first position deadlines ∧
      token.family = familiesBefore (tokenOrigins history) first ∧
      token.deadline = deadlines.min? := by
  induction position using Nat.strongRecOn generalizing token with
  | ind position inductive_hypothesis =>
    have within := follows.length ▸ (List.getElem?_eq_some_iff.mp found).1
    have made := List.getElem?_eq_getElem within
    cases origin : (tokenOrigins history)[position] with
    | fresh =>
      rw [origin] at made
      rcases Option.some.inj (found.symm.trans (follows.fresh position made)) with rfl
      exact ⟨position, [], .fresh made, rfl, rfl⟩
    | derived parent deadline =>
      rw [origin] at made
      rcases follows.derived position parent deadline made with ⟨below, narrowed⟩
      rcases Option.map_eq_some_iff.mp (narrowed.symm.trans found) with ⟨above, here, rfl⟩
      rcases inductive_hypothesis parent below here with ⟨first, deadlines, descends, family, least⟩
      exact ⟨first, deadline.toList ++ deadlines, .derived descends made,
        (above.family_narrowed deadline).trans family, above.deadline_narrowed least deadline⟩

theorem Follows.family_eq (follows : table.Follows history) {first : Nat} {deadlines : List Instant}
    (descends : Descends (tokenOrigins history) first position deadlines)
    (found : table.tokens[position]? = some token) :
    token.family = familiesBefore (tokenOrigins history) first := by
  rcases follows.exists_descends found with ⟨other, more, descendsToo, family, -⟩
  rcases descends.unique descendsToo with ⟨rfl, -⟩
  exact family

/-- A family is in the list of those cancelled as soon as one of its tokens has been cancelled. -/
theorem Follows.mem_cancelled_iff (follows : table.Follows history)
    (found : table.tokens[position]? = some token) :
    token.family ∈ table.cancelled ↔ FamilyCancelled history position := by
  rcases follows.exists_descends found with ⟨first, deadlines, descends, family, -⟩
  rw [follows.cancelled]
  constructor
  · rintro ⟨step, within, target, other, cancels, there, same⟩
    rcases follows.exists_descends there with ⟨first', more, descendsToo, family', -⟩
    have numbers := family'.symm.trans (same.trans family)
    rcases familiesBefore_injective descendsToo.made_first descends.made_first numbers with rfl
    exact ⟨step, within, target, cancels, first', more, deadlines, descendsToo, descends⟩
  · rintro ⟨step, within, target, cancels, first', more, deadlines', descendsToo, descends'⟩
    have below : target < table.tokens.length := follows.length ▸ descendsToo.made
    refine ⟨step, within, target, _, cancels, List.getElem?_eq_getElem below, ?_⟩
    rw [follows.family_eq descendsToo (List.getElem?_eq_getElem below),
      follows.family_eq descends' found]

end Descent

/-! ### Later steps -/

theorem tokens_prefix_after (table : TokenTable) (later : List TokenStep) :
    table.tokens <+: (table.after later).tokens := by
  induction later generalizing table with
  | nil => exact List.prefix_refl _
  | cons step later inductive_hypothesis =>
    refine List.IsPrefix.trans ?_ (inductive_hypothesis (table.act step.now step.action))
    cases step.action <;> simp only [act, derive, fresh, cancel] <;> try split
    all_goals simp

theorem cancelled_subset_after (table : TokenTable) (later : List TokenStep) :
    table.cancelled ⊆ (table.after later).cancelled := by
  induction later generalizing table with
  | nil => exact List.Subset.refl _
  | cons step later inductive_hypothesis =>
    refine List.Subset.trans ?_ (inductive_hypothesis (table.act step.now step.action))
    cases step.action <;> simp only [act, derive, fresh, cancel] <;> try split
    all_goals simp

/--
What checking a token says at any time can be read off the history: that it was cancelled
exactly if some token of its family has been, otherwise that it expired exactly if one of
the deadlines on the way from its first token has come.  Its deadline is the least of
them, later steps leave it as it is, and a check that stops work does so ever after.
-/
theorem checks_follow_history {history : List TokenStep} (valid : IsTokenHistory history)
    {position : Nat} (made : position < (tokenOrigins history).length) :
    ∃ token first deadlines,
      (after {} history).tokens[position]? = some token ∧
      Descends (tokenOrigins history) first position deadlines ∧
      (∀ other more, Descends (tokenOrigins history) other position more →
        other = first ∧ more = deadlines) ∧
      token.deadline = deadlines.min? ∧
      (∀ now, ∃ answer, ((after {} history).checks now)[position]? = some answer ∧
        (answer = some .cancelled ↔ FamilyCancelled history position) ∧
        (answer = some .deadlineExceeded ↔
          ¬ FamilyCancelled history position ∧ ∃ deadline ∈ deadlines, deadline ≤ now) ∧
        (answer = none ↔
          ¬ FamilyCancelled history position ∧ ∀ deadline ∈ deadlines, now < deadline)) ∧
      ∀ later, (after {} (history ++ later)).tokens[position]? = some token ∧
        ∀ now afterwards, now ≤ afterwards →
          ((after {} history).checks now)[position]? ≠ some none →
          ((after {} (history ++ later)).checks afterwards)[position]? ≠ some none := by
  have follows := follows_after valid
  have within : position < (after {} history).tokens.length := follows.length ▸ made
  have found := List.getElem?_eq_getElem within
  rcases follows.exists_descends found with ⟨first, deadlines, descends, -, least⟩
  have checks_eq : ∀ {table : TokenTable} {token : CancelToken} (now : Instant),
      table.tokens[position]? = some token →
        (table.checks now)[position]? = some (token.check table.cancelled now) := by
    intro table token now here
    rw [checks, List.getElem?_map, here, Option.map_some]
  refine ⟨_, first, deadlines, found, descends, ?_, least, ?_, ?_⟩
  · intro other more descendsToo
    exact descends.unique descendsToo
  · intro now
    refine ⟨_, checks_eq now found, ?_, ?_, ?_⟩
    · rw [CancelToken.check_eq_cancelled_iff, follows.mem_cancelled_iff found]
    · rw [CancelToken.check_eq_deadlineExceeded_iff, follows.mem_cancelled_iff found, least,
        exists_min?_le_iff]
    · rw [CancelToken.check_eq_none_iff, follows.mem_cancelled_iff found, least]
      have early := not_congr (@exists_min?_le_iff deadlines now)
      simpa using fun _ => early
  · intro later
    have kept := List.prefix_iff_getElem?.mp (tokens_prefix_after (after {} history) later) _ within
    rw [← after_append] at kept
    refine ⟨kept, ?_⟩
    intro now afterwards order stopped
    rw [checks_eq now found] at stopped
    rw [checks_eq afterwards kept, after_append]
    intro quiet
    refine stopped (congrArg some ?_)
    exact CancelToken.check_eq_none_of_later (cancelled_subset_after _ later) order
      (Option.some.inj quiet)

/-- A cancelled family is read off the check of a grandchild, whose deadline is its parent's. -/
theorem checks_follow_cancelled_family :
    let history : List TokenStep := [⟨0, .fresh⟩, ⟨5, .withTimeout 0 0 25⟩, ⟨6, .withDeadline 1 90⟩,
      ⟨7, .fresh⟩, ⟨8, .clone 2⟩, ⟨9, .cancel 0⟩]
    IsTokenHistory history ∧ 4 < (tokenOrigins history).length ∧ FamilyCancelled history 4 ∧
      (∃ deadlines, Descends (tokenOrigins history) 0 4 deadlines ∧ deadlines.min? = some 30) ∧
      ∀ later now, 9 ≤ now →
        ((after {} (history ++ later)).checks now)[4]? ≠ some none := by
  intro history
  have valid : IsTokenHistory history :=
    .step (.step (.step (.step (.step (.step .start _ ?_) _ ?_) _ ?_) _ ?_) _ ?_) _ ?_
  case refine_1 | refine_2 | refine_3 | refine_4 | refine_5 | refine_6 => decide
  have made : 4 < (tokenOrigins history).length := by decide
  rcases checks_follow_history valid made with
    ⟨token, first, deadlines, found, descends, unique, least, answers, later_answers⟩
  rcases answers 9 with ⟨answer, checked, cancelled_iff, -, -⟩
  have same_answer : some answer = some (some .cancelled) := checked.symm.trans (by decide)
  have same_token : some token = some ⟨0, some 30⟩ := found.symm.trans (by decide)
  rcases Option.some.inj same_answer with rfl
  rcases Option.some.inj same_token with rfl
  have made_first : Descends (tokenOrigins history) 0 4 _ :=
    .derived (.derived (.derived (.fresh rfl) rfl) rfl) rfl
  rcases unique _ _ made_first with ⟨rfl, rfl⟩
  refine ⟨valid, made, cancelled_iff.mp rfl, ⟨_, descends, least.symm⟩, ?_⟩
  intro later now order
  refine (later_answers later).2 9 now order ?_
  rw [checked]
  exact fun equal => nomatch equal

end TokenTable

end StagePipeline
