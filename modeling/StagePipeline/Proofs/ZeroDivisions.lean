import StagePipeline.Proofs.ProgramAnswers
import StagePipeline.Proofs.TreeAddresses

/-!
# Literals and divisions by zero

The value of an expression is looked for under groups and negations only.  `Expr.IsLiteral`
says which number stands under them and how many of them are negations; `Expr.constant` is
that number with that many changes of its sign, except where the least number of 64 bits
would have to change its sign.  Zero has no sign, so the lint for divisions by zero never
meets that exception: it tells of each division whose divisor is a literal zero and of no
other, in the order of their addresses.
-/

namespace StagePipeline

open Program

namespace Program

/-! ### Literals -/

/-- The expression is the number under that many negations, and under any groups. -/
inductive Expr.IsLiteral (number : Int64) : Nat → Expr → Prop
  | number (span : Span) : IsLiteral number 0 (.number number span)
  | negation {count : Nat} {operand : Expr} (span : Span)
    (inner : IsLiteral number count operand) :
    IsLiteral number (count + 1) (.negation operand span)
  | group {count : Nat} {inner : Expr} (span : Span) (within : IsLiteral number count inner) :
    IsLiteral number count (.group inner span)

theorem negate?_eq_some_iff {value negated : Int64} :
    negate? value = some negated ↔ value ≠ Int64.minValue ∧ negated.toInt = -value.toInt := by
  have least := Int64.le_toInt value
  have most := Int64.toInt_lt value
  have opposite : value ≠ Int64.minValue → (-value).toInt = -value.toInt := by
    intro notLeast
    have above : value.toInt ≠ -2 ^ 63 := fun same => notLeast (Int64.toInt_inj.1 same)
    rw [Int64.toInt_neg, Int.bmod_eq_of_le (by omega) (by omega)]
  rw [negate?, Option.ite_none_left_eq_some]
  refine and_congr_right fun notLeast => ?_
  rw [← opposite notLeast, Option.some.injEq, ← Int64.toInt_inj, eq_comm]

/-- A number that is not the least one stays so however often its sign is changed. -/
theorem ne_minValue_of_toInt_eq {number value : Int64} (notLeast : number ≠ Int64.minValue)
    {count : Nat} (same : value.toInt = (-1) ^ count * number.toInt) :
    value ≠ Int64.minValue := by
  have above : number.toInt ≠ -2 ^ 63 := fun least => notLeast (Int64.toInt_inj.1 least)
  have most := Int64.toInt_lt number
  rintro rfl
  have least : Int64.minValue.toInt = -2 ^ 63 := rfl
  rw [least] at same
  rcases neg_one_pow_eq_or Int count with sign | sign
  · rw [sign] at same
    omega
  · rw [sign] at same
    omega

namespace Expr

variable {expr : Expr} {number value : Int64} {count : Nat}

/-- A literal has a value, unless the least number would have to change its sign. -/
theorem IsLiteral.exists_constant (literal : expr.IsLiteral number count)
    (within : ¬(number = Int64.minValue ∧ 1 ≤ count)) :
    ∃ value, expr.constant = some value ∧ value.toInt = (-1) ^ count * number.toInt := by
  induction literal with
  | number span => exact ⟨number, rfl, by rw [pow_zero, one_mul]⟩
  | @negation count operand span inner inductive_hypothesis =>
    have notLeast : number ≠ Int64.minValue := fun least => within ⟨least, Nat.le_add_left _ _⟩
    rcases inductive_hypothesis fun least => notLeast least.1 with ⟨value, found, same⟩
    have negated : negate? value = some (-value) :=
      if_neg (ne_minValue_of_toInt_eq notLeast same)
    refine ⟨-value, by rw [constant, found]; exact negated, ?_⟩
    rw [(negate?_eq_some_iff.1 negated).2, same, pow_succ]
    ring
  | group span literal inductive_hypothesis => exact inductive_hypothesis within

/-- What has a value is a literal, and the sign of its number can be changed as often. -/
theorem exists_isLiteral_of_constant (found : expr.constant = some value) :
    ∃ number count, expr.IsLiteral number count ∧
      value.toInt = (-1) ^ count * number.toInt ∧
        ¬(number = Int64.minValue ∧ 1 ≤ count) := by
  induction expr generalizing value with
  | number other span =>
    rcases Option.some.inj found
    exact ⟨other, 0, .number span, by rw [pow_zero, one_mul],
      fun least => Nat.not_succ_le_zero 0 least.2⟩
  | name ident => cases found
  | negation operand span inductive_hypothesis =>
    rcases Option.bind_eq_some_iff.1 found with ⟨inner, innerFound, negated⟩
    rcases negate?_eq_some_iff.1 negated with ⟨notLeast, opposite⟩
    rcases inductive_hypothesis innerFound with ⟨number, count, literal, same, within⟩
    refine ⟨number, count + 1, .negation span literal, ?_, ?_⟩
    · rw [opposite, same, pow_succ]
      ring
    · -- The least number can only stand there under no other negation, and it has none.
      rintro ⟨rfl, -⟩
      have none : count = 0 := Nat.lt_one_iff.1 (Nat.lt_of_not_le fun more => within ⟨rfl, more⟩)
      rw [none, pow_zero, one_mul] at same
      exact notLeast (Int64.toInt_inj.1 same)
  | binary op left right span => cases found
  | group inner span inductive_hypothesis =>
    rcases inductive_hypothesis found with ⟨number, count, literal, same, within⟩
    exact ⟨number, count, .group span literal, same, within⟩

theorem constant_eq_some_iff :
    expr.constant = some value ↔ ∃ number count, expr.IsLiteral number count ∧
      value.toInt = (-1) ^ count * number.toInt ∧ ¬(number = Int64.minValue ∧ 1 ≤ count) := by
  constructor
  · exact exists_isLiteral_of_constant
  · rintro ⟨number, count, literal, same, within⟩
    rcases literal.exists_constant within with ⟨other, found, otherSame⟩
    rw [found, Int64.toInt_inj.1 (otherSame.trans same.symm)]

/-- The literals of value zero are those of the number zero. -/
theorem constant_eq_zero_iff : expr.constant = some 0 ↔ ∃ count, expr.IsLiteral 0 count := by
  constructor
  · intro found
    rcases exists_isLiteral_of_constant found with ⟨number, count, literal, same, -⟩
    have zero : number.toInt = 0 := by
      rcases mul_eq_zero.1 same.symm with sign | zero
      · exact absurd sign (pow_ne_zero _ (by decide))
      · exact zero
    rw [Int64.toInt_inj.1 (zero.trans (rfl : (0 : Int64).toInt = 0).symm)] at literal
    exact ⟨count, literal⟩
  · rintro ⟨count, literal⟩
    rcases literal.exists_constant (fun least => absurd least.1 (by decide)) with
      ⟨value, found, same⟩
    have zero : value.toInt = (0 : Int64).toInt := same.trans (mul_zero _)
    rw [found, Int64.toInt_inj.1 zero]

/-- The number of a literal is one of the numbers in it. -/
theorem IsLiteral.number_mem (literal : expr.IsLiteral number count) :
    ∃ span, .number number span ∈ expr.subexpressions := by
  induction literal with
  | number span => exact ⟨span, List.mem_singleton_self _⟩
  | negation span inner inductive_hypothesis =>
    rcases inductive_hypothesis with ⟨place, member⟩
    exact ⟨place, List.mem_cons_of_mem _ member⟩
  | group span literal inductive_hypothesis =>
    rcases inductive_hypothesis with ⟨place, member⟩
    exact ⟨place, List.mem_cons_of_mem _ member⟩

end Expr

/-- A literal in a program text is not below zero before its sign is changed, so it has a value. -/
theorem ParserOptions.MayBuild.exists_constant {options : ParserOptions} {source : SourceFile}
    {tree : SyntaxTree} (built : options.MayBuild source tree) {expr : Expr}
    (member : expr ∈ tree.expressions) {number : Int64} {count : Nat}
    (literal : expr.IsLiteral number count) : ∃ value, expr.constant = some value := by
  rcases built with ⟨output, given, rfl⟩
  rcases List.mem_flatMap.1 member with ⟨statement, among, inside⟩
  rcases given.exists_standsIn statement among with ⟨tokens, stands⟩
  rcases literal.number_mem with ⟨span, written⟩
  rcases (stands.nodes _ (Expr.mem_subexpressions_trans written inside)).2 with
    ⟨digits, -, -, -, natural⟩
  have notLeast : number ≠ Int64.minValue := by
    rintro rfl
    have least : Int64.minValue.toInt = -2 ^ 63 := rfl
    omega
  rcases literal.exists_constant (fun least => notLeast least.1) with ⟨value, found, -⟩
  exact ⟨value, found⟩

/-! ### Divisions by a literal zero -/

/-- At the address stands a division, and its divisor is a literal zero. -/
def SyntaxTree.DividesByZero (tree : SyntaxTree) (address : List Nat) (division divisor : Expr) :
    Prop :=
  tree.at? address = some division ∧
    (∃ left span, division = .binary .div left divisor span) ∧ ∃ count, divisor.IsLiteral 0 count

/-- The divisor of a division by a literal zero. -/
def Expr.zeroDivisor? : Expr → Option Expr
  | .binary .div _ divisor _ => if divisor.constant = some 0 then some divisor else none
  | _ => none

theorem Expr.zeroDivisor?_eq_some_iff {expr divisor : Expr} :
    expr.zeroDivisor? = some divisor ↔
      (∃ left span, expr = .binary .div left divisor span) ∧ ∃ count, divisor.IsLiteral 0 count := by
  constructor
  · intro found
    cases expr with
    | binary op left right span =>
      cases op with
      | div =>
        rcases Option.ite_none_right_eq_some.1 found with ⟨zero, same⟩
        rcases Option.some.inj same
        exact ⟨⟨left, span, rfl⟩, constant_eq_zero_iff.1 zero⟩
      | _ => cases found
    | _ => cases found
  · rintro ⟨⟨left, span, rfl⟩, zero⟩
    exact if_pos (constant_eq_zero_iff.2 zero)

end Program

namespace Lint

theorem zeroDivisor?_eq (expr : Expr) :
    zeroDivisor? expr = expr.zeroDivisor?.map (·.span) := by
  cases expr with
  | binary op left right span =>
    cases op with
    | div =>
      rw [zeroDivisor?, Expr.zeroDivisor?]
      split <;> rfl
    | _ => rfl
  | _ => rfl

/-- The divisions by a literal zero with their addresses, each with its divisor. -/
def zeroDivisionPlaces (tree : SyntaxTree) : List (List Nat × Expr × Expr) :=
  selected tree.addressed fun _ node => node.zeroDivisor?.map fun divisor => (node, divisor)

variable {tree : SyntaxTree}

theorem mem_zeroDivisionPlaces_iff {address : List Nat} {division divisor : Expr} :
    (address, division, divisor) ∈ zeroDivisionPlaces tree ↔
      tree.DividesByZero address division divisor := by
  rw [zeroDivisionPlaces, mem_selected_iff, SyntaxTree.DividesByZero,
    ← Expr.zeroDivisor?_eq_some_iff]
  constructor
  · rintro ⟨node, listed, finds⟩
    rcases Option.map_eq_some_iff.1 finds with ⟨other, divides, same⟩
    rcases Prod.mk.inj same with ⟨rfl, rfl⟩
    exact ⟨SyntaxTree.mem_addressed_iff.1 listed, divides⟩
  · rintro ⟨found, divides⟩
    exact ⟨division, SyntaxTree.mem_addressed_iff.2 found, by rw [divides]; rfl⟩

theorem zeroDivisions_eq (tree : SyntaxTree) :
    zeroDivisions tree = (zeroDivisionPlaces tree).map fun place => (place.2.1, place.2.2.span) := by
  let shown : Expr × Expr → Expr × Span := fun found => (found.1, found.2.span)
  calc
    zeroDivisions tree
      = tree.addressed.filterMap fun place =>
          (place.2.zeroDivisor?.map fun divisor => (place.2, divisor)).map shown := by
        rw [zeroDivisions, ← SyntaxTree.map_snd_addressed, List.filterMap_map]
        simp only [Function.comp_def, zeroDivisor?_eq, Option.map_map, shown]
    _ = ((zeroDivisionPlaces tree).map (·.2)).map shown := by
        rw [zeroDivisionPlaces, map_snd_selected, List.map_filterMap]
    _ = (zeroDivisionPlaces tree).map fun place => (place.2.1, place.2.2.span) := List.map_map

end Lint

/--
The lint for divisions by zero is exact, and so is the value of a literal.  Wherever a tree
comes from, if what there is to say has a position in the source, there is one error for each
division whose divisor is the number zero under any negations and groups, at the beginning of
the divisor, parents before what is in them and from left to right, and no other error.  An
expression has a value exactly if it is a number under groups and negations, with its sign
changed once for each negation, and is not the least number with a sign to change; in the
trees that a parser builds that number does not occur.
-/
theorem divisionByZero_reports_zero_divisors {tree : SyntaxTree} {source : SourceFile}
    (located : ∀ address division divisor, tree.DividesByZero address division divisor →
      ∃ location, source.location? divisor.span.start = some location) :
    (∃ found : List (List Nat × Expr × Expr),
      (found.map (·.1)).Pairwise (List.Lex (· < ·)) ∧
      (∀ address division divisor, (address, division, divisor) ∈ found ↔
        tree.DividesByZero address division divisor) ∧
      Lint.divisionByZero.check source tree = some (found.map fun place =>
        { severity := .error
          phase := "division-by-zero"
          message := s!"division by zero in `{place.2.1.render}`"
          location := source.location? place.2.2.span.start })) ∧
      (∀ (expr : Expr) value, expr.constant = some value ↔
        ∃ number count, expr.IsLiteral number count ∧
          value.toInt = (-1) ^ count * number.toInt ∧
            ¬(number = Int64.minValue ∧ 1 ≤ count)) ∧
      ∀ options origin built, ParserOptions.MayBuild options origin built →
        ∀ expr ∈ built.expressions, ∀ number count, expr.IsLiteral number count →
          ∃ value, expr.constant = some value := by
  refine ⟨⟨Lint.zeroDivisionPlaces tree, ?_, fun _ _ _ => Lint.mem_zeroDivisionPlaces_iff, ?_⟩,
    fun _ _ => Expr.constant_eq_some_iff, ?_⟩
  · exact List.pairwise_map.2 (tree.ascending_addressed.selected _)
  · have placed : ∀ place ∈ Lint.zeroDivisionPlaces tree,
        ∃ location, source.location? place.2.2.span.start = some location :=
      fun place among => located place.1 place.2.1 place.2.2
        (Lint.mem_zeroDivisionPlaces_iff.1 among)
    have told := Lint.mapM_finding? placed .error "division-by-zero" fun place =>
      s!"division by zero in `{place.2.1.render}`"
    have search : Lint.divisionByZero.check source tree =
        (Lint.zeroDivisions tree).mapM fun found =>
          Lint.finding? .error "division-by-zero"
            s!"division by zero in `{found.1.render}`" source found.2.start :=
      rfl
    rw [search, Lint.zeroDivisions_eq, List.mapM_map]
    exact told
  · intro options origin built builds expr member number count literal
    exact builds.exists_constant member literal

/-- A division by zero, divided by zero once more: both divisors are flagged, one of them written
`-(0)` behind a letter of two bytes. -/
theorem divisionByZero_reports_zero_divisors_nested :
    let source : SourceFile := ⟨"a.st", "é / -(0) / 0"⟩
    let zero : Nat → Expr := fun start => .number 0 (.ofLength start 1)
    let inner : Expr :=
      .binary .div (.name ⟨"é", .ofLength 0 2⟩)
        (.negation (.group (zero 7) (.ofLength 6 3)) (.ofLength 5 4)) (.ofLength 0 9)
    let tree : SyntaxTree := ⟨[.bare (.binary .div inner (zero 12) (.ofLength 0 13))]⟩
    (∀ address division divisor, tree.DividesByZero address division divisor →
      ∃ location, source.location? divisor.span.start = some location) ∧
    ∃ found : List (List Nat × Expr × Expr), found.length = 2 ∧
      (∀ address division divisor, (address, division, divisor) ∈ found ↔
        tree.DividesByZero address division divisor) ∧
      Lint.divisionByZero.check source tree = some (found.map fun place =>
        { severity := .error
          phase := "division-by-zero"
          message := s!"division by zero in `{place.2.1.render}`"
          location := source.location? place.2.2.span.start }) := by
  intro source zero inner tree
  have placed : ∀ place ∈ Lint.zeroDivisionPlaces tree,
      (source.location? place.2.2.span.start).isSome = true := by decide +kernel
  have located : ∀ address division divisor, tree.DividesByZero address division divisor →
      ∃ location, source.location? divisor.span.start = some location :=
    fun address division divisor divides => Option.isSome_iff_exists.1
      (placed (address, division, divisor) (Lint.mem_zeroDivisionPlaces_iff.2 divides))
  rcases (divisionByZero_reports_zero_divisors located).1 with ⟨found, -, exact, told⟩
  have two : (Lint.divisionByZero.check source tree).map List.length = some 2 := by
    decide +kernel
  rw [told, Option.map_some, List.length_map] at two
  exact ⟨located, found, Option.some.inj two, exact, told⟩

end StagePipeline
