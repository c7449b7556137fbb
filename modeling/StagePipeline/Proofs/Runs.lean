import StagePipeline.Program.Parser
import StagePipeline.Proofs.Failure
import StagePipeline.Proofs.Relocation

/-!
# Runs of tokens and what is read from them

Separators cut the tokens of a text into runs.  The parser knows nothing of
runs: it reads on from wherever the last statement, or the search for a
separator after a failure, has left off.  The main result of this module
says that it reads the runs all the same, each from its first token and at
depth zero, and that what it finds in a run depends on that run and the token
that ends it alone.
-/

namespace StagePipeline.Program

/-! ## Cutting tokens into runs -/

/-- A run of tokens that no separator interrupts or continues, and all that follows it. -/
structure Run where
  body : List Token
  after : List Token
  nonempty : body ≠ []
  inside : WithoutSeparators body
  ends : endsStatement after = true

theorem endsStatement_fromSeparator (input : List Token) :
    endsStatement (fromSeparator input) = true := by
  have head := List.head?_dropWhile_not (!·.kind.isSeparator) input
  unfold fromSeparator endsStatement
  split
  · rfl
  · rename_i token rest found
    rw [found] at head
    simpa using head

theorem withoutSeparators_takeWhile (input : List Token) :
    WithoutSeparators (input.takeWhile (!·.kind.isSeparator)) := by
  intro token member
  simpa using List.all_eq_true.1 List.all_takeWhile token member

/-- The run that begins with a token other than a separator. -/
def Run.startingWith (token : Token) (opens : token.kind.isSeparator = false)
    (rest : List Token) : Run where
  body := token :: rest.takeWhile (!·.kind.isSeparator)
  after := fromSeparator rest
  nonempty := List.cons_ne_nil _ _
  inside := .cons opens (withoutSeparators_takeWhile rest)
  ends := endsStatement_fromSeparator rest

/-- The runs of a token list, from left to right. -/
def runs (input : List Token) : List Run :=
  match input with
  | [] => []
  | token :: rest =>
    if opens : token.kind.isSeparator = false then
      .startingWith token opens rest :: runs (fromSeparator rest)
    else runs rest
termination_by input.length
decreasing_by
  · have shorter : (fromSeparator rest).length ≤ rest.length :=
      (List.dropWhile_suffix _).length_le
    simp only [List.length_cons]
    omega
  · simp

@[simp]
theorem runs_nil : runs [] = [] := by
  rw [runs]

theorem runs_separator {token : Token} (separates : token.kind.isSeparator = true)
    (rest : List Token) : runs (token :: rest) = runs rest := by
  rw [runs, dif_neg (by simp [separates])]

theorem runs_opening {token : Token} (opens : token.kind.isSeparator = false)
    (rest : List Token) :
    runs (token :: rest) = .startingWith token opens rest :: runs (fromSeparator rest) := by
  rw [runs, dif_pos opens]

theorem Run.startingWith_append {token : Token} (opens : token.kind.isSeparator = false)
    (rest : List Token) :
    (Run.startingWith token opens rest).body ++ (Run.startingWith token opens rest).after =
      token :: rest :=
  congrArg (token :: ·) List.takeWhile_append_dropWhile

theorem fromSeparator_append {body after : List Token} (inside : WithoutSeparators body)
    (ends : endsStatement after = true) : fromSeparator (body ++ after) = after := by
  induction body with
  | nil =>
    cases after with
    | nil => rfl
    | cons token rest =>
      have separates : token.kind.isSeparator = true := ends
      simp [fromSeparator, separates]
  | cons token body inductive_hypothesis =>
    have opens := inside token List.mem_cons_self
    rw [List.cons_append, fromSeparator, List.dropWhile_cons_of_pos (by simp [opens])]
    exact inductive_hypothesis fun other member => inside other (List.mem_cons_of_mem _ member)

/-- There is one way to cut a token list before its first separator. -/
theorem Run.split_unique (run : Run) {taken rest : List Token}
    (same : run.body ++ run.after = taken ++ rest) (inside : WithoutSeparators taken)
    (ends : endsStatement rest = true) : taken = run.body ∧ rest = run.after := by
  have afters : rest = run.after := by
    rw [← fromSeparator_append inside ends, ← same, fromSeparator_append run.inside run.ends]
  refine ⟨?_, afters⟩
  rw [afters] at same
  exact (List.append_cancel_right same).symm

/-- The first run of a token list, if it has any, is where reading goes on. -/
theorem runs_cases (input : List Token) :
    (afterSeparators input = [] ∧ runs input = []) ∨
      ∃ run : Run, afterSeparators input = run.body ++ run.after ∧
        runs input = run :: runs run.after ∧ run.after.length < input.length := by
  induction input with
  | nil => exact Or.inl ⟨rfl, runs_nil⟩
  | cons token rest inductive_hypothesis =>
    by_cases opens : token.kind.isSeparator = false
    · right
      refine ⟨.startingWith token opens rest, ?_, runs_opening opens rest, ?_⟩
      · rw [Run.startingWith_append]
        simp [afterSeparators, opens]
      · exact Nat.lt_succ_of_le (List.dropWhile_suffix _).length_le
    · have separates : token.kind.isSeparator = true := by simpa using opens
      have skipped : afterSeparators (token :: rest) = afterSeparators rest := by
        simp [afterSeparators, separates]
      rw [skipped, runs_separator separates]
      rcases inductive_hypothesis with none | ⟨run, here, equal, shorter⟩
      · exact Or.inl none
      · exact Or.inr ⟨run, here, equal, Nat.lt_succ_of_lt shorter⟩

/--
Induction on the runs of a token list: a list without runs is one case, and in the other
the claim is known of what follows the first run.
-/
theorem runs_induction {motive : List Token → Prop}
    (without : ∀ input, afterSeparators input = [] → runs input = [] → motive input)
    (first : ∀ (input : List Token) (run : Run), afterSeparators input = run.body ++ run.after →
      runs input = run :: runs run.after → motive run.after → motive input)
    (input : List Token) : motive input := by
  induction size : input.length using Nat.strongRecOn generalizing input with
  | ind size shorter =>
    subst size
    rcases runs_cases input with ⟨here, none⟩ | ⟨run, here, equal, less⟩
    · exact without input here none
    · exact first input run here equal (shorter run.after.length less run.after rfl)

theorem suffix_of_mem_runs {input : List Token} {run : Run} (member : run ∈ runs input) :
    run.body ++ run.after <:+ input := by
  induction input using runs_induction with
  | without input here none => simp [none] at member
  | first input opening here equal inductive_hypothesis =>
    have front : opening.body ++ opening.after <:+ input := by
      rw [← here]
      exact List.dropWhile_suffix _
    rw [equal] at member
    rcases List.mem_cons.1 member with rfl | later
    · exact front
    · exact (inductive_hypothesis later).trans ((List.suffix_append _ _).trans front)

/-- Each run lies in what follows the runs before it. -/
theorem pairwise_runs (input : List Token) :
    (runs input).Pairwise fun earlier later => later.body ++ later.after <:+ earlier.after := by
  induction input using runs_induction with
  | without input here none =>
    rw [none]
    exact .nil
  | first input run here equal inductive_hypothesis =>
    rw [equal, List.pairwise_cons]
    exact ⟨fun later member => suffix_of_mem_runs member, inductive_hypothesis⟩

/-- The runs are the nonempty pieces between the separators. -/
theorem map_body_runs (input : List Token) :
    (runs input).map Run.body =
      (input.splitOnP (·.kind.isSeparator)).filter (· ≠ []) := by
  induction input using runs.induct with
  | case1 => simp
  | case2 token rest opens inductive_hypothesis =>
    have split := Run.startingWith_append opens rest
    have after : (Run.startingWith token opens rest).after = fromSeparator rest := rfl
    rw [runs_opening opens, List.map_cons, inductive_hypothesis, ← after]
    generalize Run.startingWith token opens rest = run at split
    rw [← split]
    have nonempty := run.nonempty
    have ends := run.ends
    cases found : run.after with
    | nil =>
      rw [List.append_nil, List.splitOnP_eq_singleton run.inside]
      simp [nonempty]
    | cons separator tail =>
      have separates : separator.kind.isSeparator = true := by
        simpa [found, endsStatement] using ends
      rw [List.splitOnP_append_cons_of_forall_mem run.inside separator separates,
        List.splitOnP_cons_eq_if_modifyHead, if_pos separates]
      simp [nonempty]
  | case3 token rest separates inductive_hypothesis =>
    have separates : token.kind.isSeparator = true := by simpa using separates
    rw [runs_separator separates, inductive_hypothesis,
      List.splitOnP_cons_eq_if_modifyHead, if_pos separates]
    simp

/-- Tokens without a separator are one run. -/
theorem runs_of_withoutSeparators {tokens : List Token} (inside : WithoutSeparators tokens)
    (nonempty : tokens ≠ []) : ∃ run : Run, runs tokens = [run] ∧ run.body = tokens := by
  have bodies := map_body_runs tokens
  rw [List.splitOnP_eq_singleton inside, List.filter_cons_of_pos (by simpa using nonempty),
    List.filter_nil] at bodies
  rcases List.map_eq_singleton_iff.1 bodies with ⟨run, only, body⟩
  exact ⟨run, only, body⟩

/-! ## What is read from a run -/

/-- A run followed by either of two lists that begin alike. -/
theorem AlikeRuns.of_head?_eq (body : List Token) {after other : List Token} {finish : Nat}
    (ends : endsStatement after = true) (heads : other.head? = after.head?) :
    AlikeRuns (· = ·) finish finish (body ++ after) (body ++ other) := by
  induction body with
  | nil =>
    cases after with
    | nil =>
      rcases List.head?_eq_none_iff.1 heads with rfl
      exact .finish rfl
    | cons token rest =>
      rcases List.head?_eq_some_iff.1 heads with ⟨otherRest, rfl⟩
      exact .separator rest otherRest ends rfl
  | cons token body inductive_hypothesis => exact .token token.kind rfl inductive_hypothesis

namespace Run

/-- What reading a statement from the first token of a run gives, at depth zero. -/
def result (bounds : Bounds) (run : Run) : Except SyntaxError Stmt :=
  match statement bounds (run.body ++ run.after) with
  | .ok taken => .ok taken.value
  | .error stuck => .error stuck.error

theorem result_eq (bounds : Bounds) (run : Run) :
    run.result bounds = match bounds.readStatement (run.body ++ run.after) with
      | .ok (value, _) => .ok value
      | .error stuck => .error stuck.error := by
  rw [result, Bounds.readStatement]
  cases statement bounds (run.body ++ run.after) <;> rfl

/-- The statement that can be read from a run. -/
def statement? (bounds : Bounds) (run : Run) : Option Stmt :=
  match run.result bounds with
  | .ok statement => some statement
  | .error _ => none

/-- The error of a run from which no statement can be read. -/
def error? (bounds : Bounds) (run : Run) : Option SyntaxError :=
  match run.result bounds with
  | .ok _ => none
  | .error error => some error

theorem statement_of_fits {bounds : Bounds} {run : Run} {value : Stmt}
    (fits : value.Fits bounds run.body) :
    ∃ taken, statement bounds (run.body ++ run.after) = .ok taken ∧ taken.value = value := by
  have read : bounds.readStatement (run.body ++ run.after) = .ok (value, run.after) :=
    Bounds.readStatement_eq_ok_iff.2 ⟨run.body, rfl, fits, run.ends⟩
  rw [Bounds.readStatement] at read
  cases found : statement bounds (run.body ++ run.after) with
  | error stuck =>
    rw [found, outcome_error] at read
    cases read
  | ok taken =>
    rw [found, outcome_ok] at read
    exact ⟨taken, rfl, (Prod.mk.inj (Except.ok.inj read)).1⟩

/-- A statement takes the whole run that it is read from. -/
theorem fits_of_statement {bounds : Bounds} {run : Run}
    {taken : Taken Stmt (run.body ++ run.after).length}
    (found : statement bounds (run.body ++ run.after) = .ok taken) :
    taken.value.Fits bounds run.body ∧ taken.rest = run.after := by
  have read : bounds.readStatement (run.body ++ run.after) = .ok (taken.value, taken.rest) := by
    rw [Bounds.readStatement, found, outcome_ok]
  rcases Bounds.readStatement_eq_ok_iff.1 read with ⟨front, split, fits, ends⟩
  rcases run.split_unique split fits.spells.not_isSeparator ends with ⟨rfl, rest⟩
  exact ⟨fits, rest⟩

theorem blames_of_statement {bounds : Bounds} {run : Run} {stuck : Stuck}
    (found : statement bounds (run.body ++ run.after) = .error stuck) :
    Blames bounds (run.body ++ run.after) stuck := by
  apply Bounds.readStatement_blames
  rw [Bounds.readStatement, found, outcome_error]

/-- The error of a run blames something in it. -/
theorem exists_blames_of_error? {bounds : Bounds} {run : Run} {error : SyntaxError}
    (failed : run.error? bounds = some error) :
    ∃ stuck, Blames bounds (run.body ++ run.after) stuck ∧ stuck.error = error := by
  rw [error?, result] at failed
  cases found : statement bounds (run.body ++ run.after) with
  | ok taken => simp [found] at failed
  | error stuck =>
    simp only [found, Option.some.injEq] at failed
    exact ⟨stuck, blames_of_statement found, failed⟩

/-- A statement can be read from a run exactly when it fits the tokens of the run. -/
theorem result_eq_ok_iff {bounds : Bounds} {run : Run} {value : Stmt} :
    run.result bounds = .ok value ↔ value.Fits bounds run.body := by
  constructor
  · intro read
    rw [result] at read
    split at read
    · rename_i taken found
      rcases Except.ok.inj read with rfl
      exact (fits_of_statement found).1
    · exact nomatch read
  · intro fits
    rcases statement_of_fits fits with ⟨taken, found, rfl⟩
    rw [result, found]

theorem statement?_eq_some_iff {bounds : Bounds} {run : Run} {value : Stmt} :
    run.statement? bounds = some value ↔ value.Fits bounds run.body := by
  rw [← result_eq_ok_iff, statement?]
  split <;> simp_all

/--
What a run gives depends on nothing beyond the token that ends it: two runs
of the same tokens with the same token after them give the same.
-/
theorem result_eq_of_body_eq {bounds : Bounds} {run other : Run} (bodies : other.body = run.body)
    (heads : other.after.head? = run.after.head?) :
    other.result bounds = run.result bounds := by
  have same : AlikeBounds (· = ·) bounds bounds := ⟨rfl, .equality⟩
  have runs : AlikeRuns (· = ·) bounds.finish bounds.finish (run.body ++ run.after)
      (run.body ++ other.after) :=
    AlikeRuns.of_head?_eq run.body run.ends heads
  have alike := readStatement_alike same runs
  rw [result_eq, result_eq, bodies]
  generalize bounds.readStatement (run.body ++ run.after) = here at alike
  generalize bounds.readStatement (run.body ++ other.after) = there at alike
  cases alike with
  | ok values rests => rw [values.eq]
  | error depth errors rests => rw [errors.eq]

end Run

/-- After a failure the search for a separator ends where the run does. -/
theorem Blames.fromSeparator_rest {bounds : Bounds} {input : List Token} {stuck : Stuck}
    (blames : Blames bounds input stuck) : fromSeparator stuck.rest = fromSeparator input := by
  have skip : ∀ consumed rest : List Token, WithoutSeparators consumed →
      fromSeparator (consumed ++ rest) = fromSeparator rest := by
    intro consumed rest inside
    exact List.dropWhile_append_of_pos fun token member => by simp [inside token member]
  cases blames with
  | unexpected expected depth split inside =>
    rw [split, skip _ _ inside]
    rfl
  | @tooDeep consumed rest token depth split inside =>
    rw [split, show consumed ++ token :: rest = (consumed ++ [token]) ++ rest by simp,
      skip _ _ inside]
    rfl
  | unclosed opening depth split inside =>
    have whole := skip input [] inside
    rw [List.append_nil] at whole
    rw [whole]

namespace Reading

variable {bounds : Bounds} {recover : Bool} {depth : Nat} {input tokens : List Token}

theorem ofTokens_of_nil (here : afterSeparators input = []) :
    ofTokens bounds recover depth input = { depth := depth } := by
  rw [ofTokens]
  split
  · rfl
  · simp_all

theorem ofTokens_of_ok (here : afterSeparators input = tokens) (nonempty : tokens ≠ [])
    {taken : Taken Stmt tokens.length} (read : statement bounds tokens = .ok taken) :
    ofTokens bounds recover depth input =
      (ofTokens bounds recover 0 taken.rest).withStatement taken.value := by
  rw [ofTokens]
  split
  · simp_all
  · rename_i first rest same
    rcases here.symm.trans same with rfl
    split
    · simp_all
    · simp_all

theorem ofTokens_of_error (here : afterSeparators input = tokens) (nonempty : tokens ≠ [])
    {stuck : Stuck} (failed : statement bounds tokens = .error stuck) :
    ofTokens bounds recover depth input =
      if recover then
        (ofTokens bounds recover stuck.depth (fromSeparator stuck.rest)).withError stuck.error
      else { failure := some stuck.error, rest := stuck.rest, depth := stuck.depth } := by
  rw [ofTokens]
  split
  · simp_all
  · rename_i first rest same
    rcases here.symm.trans same with rfl
    split
    · simp_all
    · simp_all

/-- The reading of a run that holds a statement goes on after the run. -/
theorem ofTokens_of_result_ok {run : Run} {value : Stmt}
    (here : afterSeparators input = run.body ++ run.after) (read : run.result bounds = .ok value) :
    ofTokens bounds recover depth input =
      (ofTokens bounds recover 0 run.after).withStatement value := by
  rcases Run.statement_of_fits (Run.result_eq_ok_iff.1 read) with ⟨taken, found, rfl⟩
  rw [ofTokens_of_ok here (by simp [run.nonempty]) found, (Run.fits_of_statement found).2]

/-- A recovering reading of a run that holds no statement goes on after the run as well. -/
theorem ofTokens_of_result_error {run : Run} {error : SyntaxError}
    (here : afterSeparators input = run.body ++ run.after)
    (failed : run.result bounds = .error error) :
    ∃ rest left, ofTokens bounds recover depth input =
      if recover then (ofTokens bounds recover left run.after).withError error
      else { failure := some error, rest := rest, depth := left } := by
  rw [Run.result] at failed
  split at failed
  · exact nomatch failed
  · rename_i stuck found
    rcases Except.error.inj failed with rfl
    have sought := (Run.blames_of_statement found).fromSeparator_rest
    rw [fromSeparator_append run.inside run.ends] at sought
    refine ⟨stuck.rest, stuck.depth, ?_⟩
    rw [ofTokens_of_error here (by simp [run.nonempty]) found, sought]

/-- A recovering reading keeps what every run gives, and never fails. -/
theorem ofTokens_recovering (bounds : Bounds) (depth : Nat) (input : List Token) :
    (ofTokens bounds true depth input).statements =
        (runs input).filterMap (Run.statement? bounds) ∧
      (ofTokens bounds true depth input).errors = (runs input).filterMap (Run.error? bounds) ∧
      (ofTokens bounds true depth input).failure = none := by
  induction input using runs_induction generalizing depth with
  | without input here none =>
    rw [ofTokens_of_nil here, none]
    exact ⟨rfl, rfl, rfl⟩
  | first input run here equal inductive_hypothesis =>
    rw [equal]
    cases read : run.result bounds with
    | ok value =>
      rw [ofTokens_of_result_ok here read]
      simpa [withStatement, Run.statement?, Run.error?, read] using inductive_hypothesis 0
    | error error =>
      rcases ofTokens_of_result_error here read with ⟨rest, left, continued⟩
      rw [continued]
      simpa [withError, Run.statement?, Run.error?, read] using inductive_hypothesis left

/-- A strict reading ends with the first error of the runs, and keeps every statement if none. -/
theorem ofTokens_strict (bounds : Bounds) (depth : Nat) (input : List Token) :
    (ofTokens bounds false depth input).failure =
        ((runs input).filterMap (Run.error? bounds)).head? ∧
      (ofTokens bounds false depth input).errors = [] ∧
      ((runs input).filterMap (Run.error? bounds) = [] →
        (ofTokens bounds false depth input).statements =
          (runs input).filterMap (Run.statement? bounds)) := by
  induction input using runs_induction generalizing depth with
  | without input here none =>
    rw [ofTokens_of_nil here, none]
    exact ⟨rfl, rfl, fun _ => rfl⟩
  | first input run here equal inductive_hypothesis =>
    rw [equal]
    cases read : run.result bounds with
    | ok value =>
      rw [ofTokens_of_result_ok here read]
      simpa [withStatement, Run.statement?, Run.error?, read] using inductive_hypothesis 0
    | error error =>
      rcases ofTokens_of_result_error here read with ⟨rest, left, stopped⟩
      rw [stopped]
      simp [Run.error?, read]

end Reading

end StagePipeline.Program
