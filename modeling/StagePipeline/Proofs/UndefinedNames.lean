import StagePipeline.Proofs.ProgramAnswers
import StagePipeline.Proofs.TreeAddresses

/-!
# Names that no statement before has bound

The lint for undefined names goes once over the statements and keeps the names bound so far.
`SyntaxTree.ReadsUnbound` says of a single place what it looks for: a name is read there, and
no statement before that of the place binds it.  The lint has one warning for each such place
and no other, in the order of the places.  In the trees of a parser that is the order of the
text as well, since names do not overlap.
-/

namespace StagePipeline

open Program

namespace Program

/-- The name is read at the address, and no binding with a smaller number binds it. -/
def SyntaxTree.ReadsUnbound (tree : SyntaxTree) (address : List Nat) (ident : Ident) : Prop :=
  tree.at? address = some (.name ident) ∧
    ∀ first ∈ address.head?, ∀ index < first, ∀ binder value span,
      tree.statements[index]? = some (.binding binder value span) → binder.name ≠ ident.name

/-- The name that a node reads. -/
def Expr.name? : Expr → Option Ident
  | .name ident => some ident
  | _ => none

theorem Expr.name?_eq_some_iff {expr : Expr} {ident : Ident} :
    expr.name? = some ident ↔ expr = .name ident := by
  cases expr <;> simp [name?]

/-- The names that some statements bind. -/
def boundNames (statements : List Stmt) : List String :=
  statements.filterMap fun statement => statement.bound.map (·.name)

theorem boundNames_cons (statement : Stmt) (rest : List Stmt) :
    boundNames (statement :: rest) =
      (statement.bound.map (·.name)).toList ++ boundNames rest := by
  cases statement <;> rfl

theorem mem_boundNames_iff {statements : List Stmt} {name : String} :
    name ∈ boundNames statements ↔ ∃ binder value span,
      .binding binder value span ∈ statements ∧ binder.name = name := by
  constructor
  · intro member
    rcases List.mem_filterMap.1 member with ⟨statement, among, binds⟩
    cases statement with
    | binding binder value span => exact ⟨binder, value, span, among, Option.some.inj binds⟩
    | bare expr => cases binds
  · rintro ⟨binder, value, span, among, rfl⟩
    exact List.mem_filterMap.2 ⟨_, among, rfl⟩

theorem mem_boundNames_take_iff {statements : List Stmt} {number : Nat} {name : String} :
    name ∈ boundNames (statements.take number) ↔ ∃ index < number, ∃ binder value span,
      statements[index]? = some (.binding binder value span) ∧ binder.name = name := by
  rw [mem_boundNames_iff]
  constructor
  · rintro ⟨binder, value, span, among, same⟩
    rcases List.mem_iff_getElem?.1 among with ⟨index, found⟩
    rw [List.getElem?_take, Option.ite_none_right_eq_some] at found
    exact ⟨index, found.1, binder, value, span, found.2, same⟩
  · rintro ⟨index, less, binder, value, span, found, same⟩
    refine ⟨binder, value, span, List.mem_of_getElem? (i := index) ?_, same⟩
    rw [List.getElem?_take_of_lt less, found]

end Program

namespace Lint

theorem namesIn_eq (expr : Expr) : namesIn expr = expr.subexpressions.filterMap Expr.name? :=
  rfl

/-- The names unbound at some statements, found statement by statement. -/
theorem unboundNames_eq (bound : List String) (statements : List Stmt) :
    unboundNames bound statements = statements.zipIdx.flatMap fun (statement, number) =>
      (namesIn statement.expr).filter fun ident =>
        ident.name ∉ bound ∧ ident.name ∉ boundNames (statements.take number) := by
  -- The first statement adds its name to those bound at the start and to those of every `take`.
  induction statements generalizing bound with
  | nil => rfl
  | cons statement rest inductive_hypothesis =>
    rw [unboundNames, inductive_hypothesis, List.zipIdx_cons', List.flatMap_cons, List.flatMap_map]
    congr 1
    · simp [boundNames]
    · refine List.flatMap_congr ?_
      rintro ⟨other, number⟩ -
      refine List.filter_congr fun ident _ => ?_
      dsimp only
      rw [decide_eq_decide, List.take_succ_cons, boundNames_cons]
      simp only [List.mem_append, not_or]
      exact ⟨fun ⟨⟨here, before⟩, between⟩ => ⟨before, here, between⟩,
        fun ⟨before, here, between⟩ => ⟨⟨here, before⟩, between⟩⟩

/-- The name that a node reads at an address, unless a statement before that one binds it. -/
def unboundName? (tree : SyntaxTree) (address : List Nat) (node : Expr) : Option Ident :=
  node.name?.filter fun ident => ident.name ∉ boundNames (tree.statements.take (address.headD 0))

/-- The places at which a name is read that no statement before has bound, with the name. -/
def unboundPlaces (tree : SyntaxTree) : List (List Nat × Ident) :=
  selected tree.addressed (unboundName? tree)

theorem mem_unboundPlaces_iff {tree : SyntaxTree} {address : List Nat} {ident : Ident} :
    (address, ident) ∈ unboundPlaces tree ↔ tree.ReadsUnbound address ident := by
  have unbound : (address, ident) ∈ unboundPlaces tree ↔
      tree.at? address = some (.name ident) ∧
        ident.name ∉ boundNames (tree.statements.take (address.headD 0)) := by
    rw [unboundPlaces, mem_selected_iff]
    constructor
    · rintro ⟨node, listed, reads⟩
      rcases Option.filter_eq_some_iff.1 reads with ⟨named, free⟩
      rw [Expr.name?_eq_some_iff.1 named] at listed
      exact ⟨SyntaxTree.mem_addressed_iff.1 listed, of_decide_eq_true free⟩
    · rintro ⟨found, free⟩
      exact ⟨_, SyntaxTree.mem_addressed_iff.2 found,
        Option.filter_eq_some_iff.2 ⟨rfl, decide_eq_true free⟩⟩
  rw [unbound, SyntaxTree.ReadsUnbound, mem_boundNames_take_iff]
  refine and_congr_right fun found => ?_
  cases address with
  | nil => cases found
  | cons first path => simp [List.headD]

theorem map_snd_unboundPlaces (tree : SyntaxTree) :
    (unboundPlaces tree).map (·.2) = unboundNames [] tree.statements := by
  rw [unboundPlaces, map_snd_selected, unboundNames_eq, SyntaxTree.addressed, numbered,
    List.zipIdx_map, List.flatMap_map, List.filterMap_flatMap]
  refine List.flatMap_congr ?_
  rintro ⟨statement, number⟩ -
  dsimp only [Prod.map]
  rw [namesIn_eq, ← Expr.map_snd_addressed, List.filterMap_map, List.filterMap_map,
    List.filter_filterMap]
  simp [unboundName?, Function.comp_def]
  rfl

end Lint

/-! ### Names in the trees of a parser -/

namespace Program

theorem Expr.name_mem_of_mem_namesIn {expr : Expr} {ident : Ident}
    (member : ident ∈ Lint.namesIn expr) : .name ident ∈ expr.subexpressions := by
  rcases List.mem_filterMap.1 member with ⟨node, inside, named⟩
  rcases Expr.name?_eq_some_iff.1 named
  exact inside

/-- The names in an expression do not overlap and stand from left to right. -/
theorem Expr.pairwise_namesIn {source : SourceFile} {expr : Expr}
    (shown : ∀ node ∈ expr.subexpressions, node.ShownBy source) :
    (Lint.namesIn expr).Pairwise fun first second => first.span.stop ≤ second.span.start := by
  induction expr with
  | number value span => exact .nil
  | name ident => exact List.pairwise_singleton _ _
  | negation operand span inductive_hypothesis =>
    exact inductive_hypothesis (List.forall_mem_cons.1 shown).2
  | binary op left right span leftOrder rightOrder =>
    rcases List.forall_mem_cons.1 shown with ⟨⟨_, _, apart, _, _⟩, later⟩
    rcases List.forall_mem_append.1 later with ⟨leftShown, rightShown⟩
    have split : Lint.namesIn (.binary op left right span) =
        Lint.namesIn left ++ Lint.namesIn right :=
      List.filterMap_append
    rw [split]
    refine List.pairwise_append.2 ⟨leftOrder leftShown, rightOrder rightShown, ?_⟩
    intro first inLeft second inRight
    calc first.span.stop
        ≤ left.span.stop :=
          (within_of_mem_subexpressions leftShown _ (name_mem_of_mem_namesIn inLeft)).2
      _ ≤ right.span.start := apart
      _ ≤ second.span.start :=
          (within_of_mem_subexpressions rightShown _ (name_mem_of_mem_namesIn inRight)).1
  | group inner span inductive_hypothesis =>
    exact inductive_hypothesis (List.forall_mem_cons.1 shown).2

namespace Stmt.StandsIn

variable {source : SourceFile} {tokens : List Token} {statement : Stmt}

theorem pairwise_namesIn (stands : statement.StandsIn source tokens) :
    (Lint.namesIn statement.expr).Pairwise fun first second =>
      first.span.start < second.span.start := by
  have apart := Expr.pairwise_namesIn fun node inside => (stands.nodes node inside).2
  refine apart.imp_of_mem fun {first second} member _ before => ?_
  have covers := (stands.nodes _ (Expr.name_mem_of_mem_namesIn member)).1
  exact Nat.lt_of_lt_of_le covers.nonempty before

theorem name_within (stands : statement.StandsIn source tokens) {ident : Ident}
    (inside : .name ident ∈ statement.expr.subexpressions) :
    source.Covers ident.span ∧ ident.span.Within statement.span := by
  have within := Expr.within_of_mem_subexpressions
    (fun node member => (stands.nodes node member).2) _ inside
  exact ⟨(stands.nodes _ inside).1, within.trans stands.within⟩

end Stmt.StandsIn

/-- The unbound names of statements that stand one after the other are in their order. -/
theorem pairwise_unboundNames {source : SourceFile} {statements : List Stmt}
    (stand : ∀ statement ∈ statements, ∃ tokens, statement.StandsIn source tokens)
    (apart : statements.Pairwise fun earlier later => earlier.span.stop ≤ later.span.start)
    (bound : List String) :
    (Lint.unboundNames bound statements).Pairwise fun first second =>
      first.span.start < second.span.start := by
  induction statements generalizing bound with
  | nil => exact .nil
  | cons statement rest inductive_hypothesis =>
    rcases List.forall_mem_cons.1 stand with ⟨⟨tokens, here⟩, behind⟩
    rcases List.pairwise_cons.1 apart with ⟨before, later⟩
    refine List.pairwise_append.2 ⟨here.pairwise_namesIn.filter _,
      inductive_hypothesis behind later _, ?_⟩
    intro first inFirst second inRest
    rcases Lint.name_mem_of_mem_unboundNames inRest with ⟨other, among, inside⟩
    rcases behind other among with ⟨_, there⟩
    rcases here.name_within (Expr.name_mem_of_mem_namesIn (List.mem_filter.1 inFirst).1) with
      ⟨covers, within⟩
    calc first.span.start
        < first.span.stop := covers.nonempty
      _ ≤ statement.span.stop := within.2
      _ ≤ other.span.start := before other among
      _ ≤ second.span.start := (there.name_within inside).2.1

/-- The unbound names of a tree that a parser builds are in the order of the text. -/
theorem ParserOptions.MayBuild.pairwise_unboundNames {options : ParserOptions}
    {source : SourceFile} {tree : SyntaxTree} (built : options.MayBuild source tree) :
    (Lint.unboundNames [] tree.statements).Pairwise fun first second =>
      first.span.start < second.span.start := by
  rcases built with ⟨output, given, rfl⟩
  have apart : output.tree.statements.Pairwise fun earlier later =>
      earlier.span.stop ≤ later.span.start := by
    rcases given.exists_answers with ⟨signals, answers⟩
    exact (pairwise_foundStatements _ _).sublist (answers.statements output rfl)
  exact Program.pairwise_unboundNames given.exists_standsIn apart []

end Program

/--
The lint for undefined names is exact.  Wherever a tree comes from, if what there is to say
has a position in the source, there is one warning for each place at which a name is read that
no statement before binds, at the beginning of the name, in the order of the places, and no
other warning.  So the value of a binding does not see its name, and a name that has been
bound once is never warned of again.  In a tree that a parser builds the warnings come in the
order of the text.
-/
theorem undefinedName_reports_unbound_names {tree : SyntaxTree} {source : SourceFile}
    (located : ∀ address ident, tree.ReadsUnbound address ident →
      ∃ location, source.location? ident.span.start = some location) :
    ∃ found : List (List Nat × Ident),
      (found.map (·.1)).Pairwise (List.Lex (· < ·)) ∧
      (∀ address ident, (address, ident) ∈ found ↔ tree.ReadsUnbound address ident) ∧
      Lint.undefinedName.check source tree = some (found.map fun (_, ident) =>
        { severity := .warning
          phase := "undefined-name"
          message := s!"name '{ident.name}' is used before it is bound"
          location := source.location? ident.span.start }) ∧
      (∀ index binder value span, tree.statements[index]? = some (.binding binder value span) →
        (∀ path ident, value.at? path = some (.name ident) →
          ((index :: path, ident) ∈ found ↔
            ∀ earlier < index, ∀ other value span,
              tree.statements[earlier]? = some (.binding other value span) →
                other.name ≠ ident.name)) ∧
        ∀ later path ident, (later :: path, ident) ∈ found → ident.name = binder.name →
          later ≤ index) ∧
      ∀ options origin, ParserOptions.MayBuild options origin tree →
        (found.map (·.2.span.start)).Pairwise (· < ·) := by
  refine ⟨Lint.unboundPlaces tree, ?_, fun _ _ => Lint.mem_unboundPlaces_iff, ?_, ?_, ?_⟩
  · exact List.pairwise_map.2 (tree.ascending_addressed.selected _)
  · have placed : ∀ place ∈ Lint.unboundPlaces tree,
        ∃ location, source.location? place.2.span.start = some location :=
      fun place among => located place.1 place.2 (Lint.mem_unboundPlaces_iff.1 among)
    have told := Lint.mapM_finding? placed .warning "undefined-name" fun place =>
      s!"name '{place.2.name}' is used before it is bound"
    have search : Lint.undefinedName.check source tree =
        (Lint.unboundNames [] tree.statements).mapM fun ident =>
          Lint.finding? .warning "undefined-name"
            s!"name '{ident.name}' is used before it is bound" source ident.span.start :=
      rfl
    rw [search, ← Lint.map_snd_unboundPlaces, List.mapM_map]
    exact told
  · intro index binder value span here
    constructor
    · intro path ident reads
      have found : tree.at? (index :: path) = some (.name ident) := by
        rw [SyntaxTree.at?, here]
        exact reads
      rw [Lint.mem_unboundPlaces_iff, SyntaxTree.ReadsUnbound, and_iff_right found]
      simp only [List.head?_cons, Option.mem_some_iff, forall_eq']
    · intro later path ident member same
      by_contra behind
      rcases Lint.mem_unboundPlaces_iff.1 member with ⟨-, free⟩
      exact free later rfl index (Nat.lt_of_not_le behind) binder value span here same.symm
  · intro options origin built
    have inOrder := built.pairwise_unboundNames
    rw [← Lint.map_snd_unboundPlaces, List.pairwise_map] at inOrder
    exact List.pairwise_map.2 inOrder

/-- Two readings of a name with one span, one in the value of its binding, one behind it. -/
theorem undefinedName_reports_unbound_names_rebound :
    let source : SourceFile := ⟨"a.st", "b + b; let b = b; b"⟩
    let name : Nat → Expr := fun start => .name ⟨"b", .ofLength start 1⟩
    let tree : SyntaxTree :=
      ⟨[.bare (.binary .add (name 0) (name 0) (.ofLength 0 1)),
        .binding ⟨"b", .ofLength 11 1⟩ (name 15) (.ofLength 7 9), .bare (name 18)]⟩
    (∀ address ident, tree.ReadsUnbound address ident →
      ∃ location, source.location? ident.span.start = some location) ∧
    ∃ found : List (List Nat × Ident), found.length = 3 ∧
      (∀ address ident, (address, ident) ∈ found ↔ tree.ReadsUnbound address ident) ∧
      Lint.undefinedName.check source tree = some (found.map fun (_, ident) =>
        { severity := .warning
          phase := "undefined-name"
          message := s!"name '{ident.name}' is used before it is bound"
          location := source.location? ident.span.start }) := by
  intro source name tree
  have placed : ∀ place ∈ Lint.unboundPlaces tree,
      (source.location? place.2.span.start).isSome = true := by decide +kernel
  have located : ∀ address ident, tree.ReadsUnbound address ident →
      ∃ location, source.location? ident.span.start = some location :=
    fun address ident reads =>
      Option.isSome_iff_exists.1 (placed (address, ident) (Lint.mem_unboundPlaces_iff.2 reads))
  rcases undefinedName_reports_unbound_names located with ⟨found, -, exact, told, -, -⟩
  have three : (Lint.undefinedName.check source tree).map List.length = some 3 := by
    decide +kernel
  rw [told, Option.map_some, List.length_map] at three
  exact ⟨located, found, Option.some.inj three, exact, told⟩

end StagePipeline
