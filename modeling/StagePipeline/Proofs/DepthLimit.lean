import StagePipeline.Proofs.Comparison
import StagePipeline.Proofs.TreeDepth

/-!
# What the limit of a parser means

A limit changes nothing in a parse but where it stops.  Read with a lower limit, a
statement is what it is with the higher one, unless the reading comes to a token at which
it may not go deeper; and so it is with a strict parse.  What the limit is compared with is
`Expr.need`, so a strict parse accepts exactly the texts that it accepts with levels to
spare and whose trees need no more than the limit.
-/

namespace StagePipeline.Program

/-! ## Two limits -/

/-- A result is the same as another one, unless it is a failure of one kind. -/
def SameUnless {ε α : Type} (fails : ε → Prop) (narrow wide : Except ε α) : Prop :=
  narrow = wide ∨ ∃ error, narrow = .error error ∧ fails error

namespace SameUnless

variable {ε α β : Type} {fails : ε → Prop}

theorem bind {narrow wide : Except ε α} (same : SameUnless fails narrow wide)
    {next otherNext : α → Except ε β}
    (step : ∀ value, wide = .ok value → SameUnless fails (next value) (otherNext value)) :
    SameUnless fails (narrow.bind next) (wide.bind otherNext) := by
  rcases same with rfl | ⟨error, rfl, failed⟩
  · cases narrow with
    | error error => exact .inl rfl
    | ok value => exact step value rfl
  · exact .inr ⟨error, rfl, failed⟩

theorem map {narrow wide : Except ε α} (same : SameUnless fails narrow wide) (change : α → β) :
    SameUnless fails (narrow.map change) (wide.map change) := by
  rcases same with rfl | ⟨error, rfl, failed⟩
  · exact .inl rfl
  · exact .inr ⟨error, rfl, failed⟩

theorem mapM {narrow wide : α → Except ε β} {items : List α}
    (same : ∀ item ∈ items, SameUnless fails (narrow item) (wide item)) :
    SameUnless fails (items.mapM narrow) (items.mapM wide) := by
  induction items with
  | nil => exact .inl rfl
  | cons item items inductive_hypothesis =>
    rw [List.mapM_cons, List.mapM_cons]
    apply (same item List.mem_cons_self).bind
    intro value _
    apply (inductive_hypothesis fun other member => same other (List.mem_cons_of_mem _ member)).bind
    intro values _
    exact .inl rfl

end SameUnless

/-- The failure of a reading that has come to a limit. -/
def Stuck.AtLimit (limit : Nat) (stuck : Stuck) : Prop :=
  ∃ span, stuck.error = .tooDeep limit span

section Limits

variable {bounds others : Bounds}

/-- The first bounds allow no more depth than the others, for the same text. -/
structure Bounds.Narrower (bounds others : Bounds) : Prop where
  limits : bounds.limit ≤ others.limit
  finishes : bounds.finish = others.finish

/-- The comparison of what is read within two limits, which is over at the lower one. -/
def Comparison.ofLimits (bounds others : Bounds) : Comparison where
  bounds := bounds
  others := others
  spans := (· = ·)
  inputs := (· = ·)
  failures := (· = ·)
  breaks := Stuck.AtLimit bounds.limit

variable (narrower : bounds.Narrower others)
include narrower

theorem Bounds.Narrower.unexpected_eq (expected : Expectation) (depth : Nat)
    (input : List Token) :
    bounds.unexpected expected depth input = others.unexpected expected depth input := by
  cases input with
  | nil => rw [Bounds.unexpected, Bounds.unexpected, Bounds.next, Bounds.next, narrower.finishes]
  | cons token rest => rfl

theorem Bounds.Narrower.kept : (Comparison.ofLimits bounds others).Kept where
  joins := .equality
  heads := by
    rintro input other rfl
    cases input with
    | nil => exact .ended rfl rfl
    | cons token rest => exact .token token.kind rfl rfl
  unexpected := by
    rintro input other rfl expected depth
    exact narrower.unexpected_eq expected depth input
  notClosed := by
    rintro input other rfl opening place rfl depth
    cases input with
    | nil => rfl
    | cons token rest => exact narrower.unexpected_eq .closingParen depth (token :: rest)
  limits := narrower.limits
  tooDeep _ span _ _ _ := .inl ⟨span, rfl⟩

/-- A statement is read within a lower limit as within a higher one, up to the lower one. -/
theorem readStatement_same (input : List Token) :
    SameUnless (Stuck.AtLimit bounds.limit) (bounds.readStatement input)
      (others.readStatement input) := by
  have outcomes : (Comparison.ofLimits bounds others).Outcomes (Stmt.Alike (· = ·))
      (bounds.readStatement input) (others.readStatement input) :=
    narrower.kept.readStatement rfl
  generalize bounds.readStatement input = narrow at outcomes ⊢
  generalize others.readStatement input = wide at outcomes ⊢
  cases outcomes with
  | ok same rests =>
    rcases same.eq with rfl
    rcases rests with rfl
    exact .inl rfl
  | error failures => exact .inl (congrArg Except.error failures)
  | broken breaks => exact .inr ⟨_, rfl, breaks⟩

theorem Run.result_same (run : Run) :
    SameUnless (∃ span, · = .tooDeep bounds.limit span) (run.result bounds)
      (run.result others) := by
  rw [result_eq, result_eq]
  rcases readStatement_same narrower (run.body ++ run.after) with
    same | ⟨stuck, failed, span, deep⟩
  · rw [same]
    exact .inl rfl
  · rw [failed]
    exact .inr ⟨_, rfl, span, deep⟩

end Limits

/-! ## A strict parse as one pass over the runs -/

/-- Reading one run after the other ends with the first error, or with all statements. -/
theorem mapM_result (bounds : Bounds) (pieces : List Run) :
    pieces.mapM (Run.result bounds) =
      match pieces.filterMap (Run.error? bounds) with
      | error :: _ => .error error
      | [] => .ok (pieces.filterMap (Run.statement? bounds)) := by
  induction pieces with
  | nil => rfl
  | cons run rest inductive_hypothesis =>
    rw [List.mapM_cons, inductive_hypothesis]
    cases read : run.result bounds with
    | error error =>
      rw [List.filterMap_cons_some (by rw [Run.error?, read])]
      rfl
    | ok value =>
      rw [List.filterMap_cons_none (by rw [Run.error?, read]),
        List.filterMap_cons_some (by rw [Run.statement?, read])]
      cases rest.filterMap (Run.error? bounds) <;> rfl

/-- Without errors of the lexer a strict parse reads one run after the other. -/
theorem parse_strict_eq_mapM {source : SourceFile} (clean : (Lexed.ofText source.text).errors = [])
    (maxDepth : Nat) :
    parse ⟨false, maxDepth⟩ none source =
      ((runs (Lexed.ofText source.text).tokens).mapM
        (Run.result (.ofSource maxDepth source))).map fun found => ⟨⟨found⟩, []⟩ := by
  rw [parse_strict_of_lexed clean, mapM_result]
  change (match malformedRuns maxDepth source with
    | error :: _ => _
    | [] => _) = Except.map _ (match malformedRuns maxDepth source with
    | error :: _ => _
    | [] => _)
  cases malformedRuns maxDepth source <;> rfl

/-- A pass over a list succeeds exactly with what it gives for each of the items. -/
theorem mapM_eq_ok_iff {ε α β : Type} {answer : α → Except ε β} {items : List α}
    {values : List β} :
    items.mapM answer = .ok values ↔
      List.Forall₂ (fun value item => answer item = .ok value) values items := by
  induction items generalizing values with
  | nil =>
    rw [List.mapM_nil, List.forall₂_nil_right_iff]
    exact ⟨fun same => (Except.ok.inj same).symm, fun same => congrArg Except.ok same.symm⟩
  | cons item items inductive_hypothesis =>
    rw [List.mapM_cons, List.forall₂_cons_right_iff]
    constructor
    · intro answered
      cases here : answer item with
      | error error =>
        rw [here] at answered
        exact nomatch answered
      | ok value =>
        cases others : items.mapM answer with
        | error error =>
          rw [here, others] at answered
          exact nomatch answered
        | ok later =>
          rw [here, others] at answered
          exact ⟨value, later, rfl, inductive_hypothesis.1 others, (Except.ok.inj answered).symm⟩
    · rintro ⟨value, later, found, others, rfl⟩
      rw [found, inductive_hypothesis.2 others]
      rfl

/-- Each run of a text without errors has been given a tree of the grammar's shape. -/
structure ParseOutput.SpellsOut (output : ParseOutput) (source : SourceFile) : Prop where
  lexed : (Lexed.ofText source.text).errors = []
  clean : output.errors = []
  trees : List.Forall₂ (fun (statement : Stmt) run =>
    statement.LeftNested ∧ statement.Spells run.body) output.tree.statements
      (runs (Lexed.ofText source.text).tokens)

theorem parse_strict_eq_ok_iff_forall₂ {source : SourceFile}
    (clean : (Lexed.ofText source.text).errors = []) {maxDepth : Nat} {output : ParseOutput} :
    parse ⟨false, maxDepth⟩ none source = .ok output ↔
      output.errors = [] ∧ List.Forall₂ (fun (statement : Stmt) run =>
        statement.Fits (.ofSource maxDepth source) run.body) output.tree.statements
          (runs (Lexed.ofText source.text).tokens) := by
  simp only [← Run.result_eq_ok_iff, ← mapM_eq_ok_iff]
  rw [parse_strict_eq_mapM clean]
  rcases output with ⟨⟨statements⟩, errors⟩
  cases (runs (Lexed.ofText source.text).tokens).mapM
    (Run.result (.ofSource maxDepth source)) with
  | error error => simp [Except.map]
  | ok found => simp [Except.map, eq_comm, and_comm]

/-- What a strict parse accepts does not depend on the limit but for what the trees need. -/
theorem parse_strict_eq_ok_iff_need {source : SourceFile} {maxDepth : Nat} {output : ParseOutput} :
    parse ⟨false, maxDepth⟩ none source = .ok output ↔
      output.SpellsOut source ∧ ∀ statement ∈ output.tree.statements,
        statement.expr.need ≤ maxDepth := by
  constructor
  · intro parsed
    cases clean : (Lexed.ofText source.text).errors with
    | cons error rest =>
      rw [parse_strict_of_lexer_error clean] at parsed
      exact nomatch parsed
    | nil =>
      rcases (parse_strict_eq_ok_iff_forall₂ clean).1 parsed with ⟨noErrors, fits⟩
      refine ⟨⟨clean, noErrors, fits.imp fun _ _ fits => ⟨fits.nested, fits.spells⟩⟩, ?_⟩
      intro statement member
      rcases fits_of_parse parsed statement member with ⟨run, _, fits⟩
      exact fits.shallow
  · rintro ⟨⟨clean, noErrors, trees⟩, shallow⟩
    refine (parse_strict_eq_ok_iff_forall₂ clean).2 ⟨noErrors, ?_⟩
    have both := (List.forall₂_and_left _ _).2 ⟨shallow, trees⟩
    exact both.imp fun _ _ fits => ⟨fits.2.2, fits.2.1, fits.1⟩

/-- A lower limit changes nothing in a strict parse, unless the parse comes to that limit. -/
theorem parse_strict_same {maxDepth more : Nat} (lower : maxDepth ≤ more) (source : SourceFile) :
    SameUnless (∃ span, · = .tooDeep maxDepth span) (parse ⟨false, maxDepth⟩ none source)
      (parse ⟨false, more⟩ none source) := by
  cases clean : (Lexed.ofText source.text).errors with
  | cons error rest =>
    rw [parse_strict_of_lexer_error clean, parse_strict_of_lexer_error clean]
    exact .inl rfl
  | nil =>
    have narrower : (Bounds.ofSource maxDepth source).Narrower (.ofSource more source) :=
      ⟨lower, rfl⟩
    rw [parse_strict_eq_mapM clean, parse_strict_eq_mapM clean]
    apply SameUnless.map
    apply SameUnless.mapM
    intro run _
    exact run.result_same narrower

/-- No expression of an accepted text needs as many levels as the text has tokens. -/
theorem need_lt_of_parse {options : ParserOptions} {signal : Option Interrupt}
    {source : SourceFile} {output : ParseOutput} (parsed : parse options signal source = .ok output)
    {statement : Stmt} (member : statement ∈ output.tree.statements) :
    statement.expr.need < (Lexed.ofText source.text).tokens.length := by
  rcases fits_of_parse parsed statement member with ⟨run, inRuns, fits⟩
  have within := body_length_le_of_mem_runs inRuns
  have enough := statement.need_lt_length
  rw [← fits.spells.yield_eq, List.length_map] at enough
  exact Nat.lt_of_lt_of_le enough within

/--
What the limit of a strict parse means.  A text is accepted within a limit exactly if it
is accepted with as many levels as it has tokens and no expression of its trees needs more
than the limit; otherwise, if levels to spare would do, the limit is what the parse fails
with.  So a higher limit leaves every tree as it is.  An accepted expression is at most as
deep as the square of the number after the limit, and for every limit one is as deep.
-/
theorem strict_parse_within_limit_iff_need (source : SourceFile) (maxDepth : Nat) :
    (∀ plenty, (Lexed.ofText source.text).tokens.length ≤ plenty → ∀ output,
      (parse ⟨false, maxDepth⟩ none source = .ok output ↔
        parse ⟨false, plenty⟩ none source = .ok output ∧
          ∀ statement ∈ output.tree.statements, statement.expr.need ≤ maxDepth) ∧
      (parse ⟨false, plenty⟩ none source = .ok output →
        (∃ statement ∈ output.tree.statements, maxDepth < statement.expr.need) →
          ∃ span, parse ⟨false, maxDepth⟩ none source = .error (.tooDeep maxDepth span))) ∧
    (∀ more, maxDepth ≤ more → ∀ output, parse ⟨false, maxDepth⟩ none source = .ok output →
      parse ⟨false, more⟩ none source = .ok output) ∧
    (∀ output, parse ⟨false, maxDepth⟩ none source = .ok output →
      ∀ statement ∈ output.tree.statements, statement.expr.depth ≤ (maxDepth + 1) ^ 2) ∧
    ∃ deepest output, parse ⟨false, maxDepth⟩ none deepest = .ok output ∧
      ∃ statement ∈ output.tree.statements, statement.expr.depth = (maxDepth + 1) ^ 2 := by
  refine ⟨?_, ?_, ?_, ?_⟩
  · intro plenty spare output
    have accepted : parse ⟨false, maxDepth⟩ none source = .ok output ↔
        parse ⟨false, plenty⟩ none source = .ok output ∧
          ∀ statement ∈ output.tree.statements, statement.expr.need ≤ maxDepth := by
      constructor
      · intro parsed
        have trees := parse_strict_eq_ok_iff_need.1 parsed
        refine ⟨parse_strict_eq_ok_iff_need.2 ⟨trees.1, ?_⟩, trees.2⟩
        intro statement member
        exact Nat.le_trans (Nat.le_of_lt (need_lt_of_parse parsed member)) spare
      · rintro ⟨parsed, shallow⟩
        exact parse_strict_eq_ok_iff_need.2 ⟨(parse_strict_eq_ok_iff_need.1 parsed).1, shallow⟩
    refine ⟨accepted, ?_⟩
    rintro parsed ⟨statement, member, deep⟩
    have lower : maxDepth ≤ plenty :=
      Nat.le_of_lt (Nat.lt_of_lt_of_le (Nat.lt_trans deep (need_lt_of_parse parsed member)) spare)
    rcases parse_strict_same lower source with same | ⟨error, failed, span, rfl⟩
    · have shallow := (accepted.1 (same.trans parsed)).2 statement member
      exact absurd deep (Nat.not_lt_of_le shallow)
    · exact ⟨span, failed⟩
  · intro more lower output parsed
    have trees := parse_strict_eq_ok_iff_need.1 parsed
    refine parse_strict_eq_ok_iff_need.2 ⟨trees.1, ?_⟩
    intro statement member
    exact Nat.le_trans (trees.2 statement member) lower
  · intro output parsed statement member
    exact le_square_of_mem_returnedDepths ⟨none, source, output, parsed, statement, member, rfl⟩
  · exact exists_parse_deepest false maxDepth

/-- A chain inside a group before a product needs three levels, and is refused with two. -/
theorem need_of_chain_in_group :
    let source : SourceFile := ⟨"a.st", "let ä = (1-2-3)*4"⟩
    (Lexed.ofText source.text).tokens.length ≤ 12 ∧
      ∃ output, parse ⟨false, 12⟩ none source = .ok output ∧
        (output.tree.statements.map fun statement => statement.expr.need) = [3] ∧
        parse ⟨false, 3⟩ none source = .ok output ∧
        ∃ span, parse ⟨false, 2⟩ none source = .error (.tooDeep 2 span) := by
  intro source
  have spare : (Lexed.ofText source.text).tokens.length ≤ 12 := by decide +kernel
  have clean : (Lexed.ofText source.text).errors = [] := by decide +kernel
  have wellFormed : malformedRuns 12 source = [] := by decide +kernel
  have parsed : parse ⟨false, 12⟩ none source = .ok ⟨⟨foundStatements 12 source⟩, []⟩ :=
    (parse_strict_eq_ok_iff clean).2 ⟨wellFormed, rfl⟩
  have needs : (foundStatements 12 source).map (·.expr.need) = [3] := by decide +kernel
  rcases List.map_eq_singleton_iff.1 needs with ⟨statement, only, three⟩
  rw [only] at parsed
  refine ⟨spare, _, parsed, by rw [← only]; exact needs, ?_, ?_⟩
  · apply ((strict_parse_within_limit_iff_need source 3).1 12 spare _).1.2
    refine ⟨parsed, ?_⟩
    intro other member
    rw [List.mem_singleton.1 member, three]
  · apply ((strict_parse_within_limit_iff_need source 2).1 12 spare _).2 parsed
    exact ⟨statement, List.mem_singleton_self _, by rw [three]; decide⟩

end StagePipeline.Program
