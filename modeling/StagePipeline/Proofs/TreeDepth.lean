import Mathlib.Order.Bounds.Basic
import Mathlib.Tactic.Ring
import StagePipeline.Proofs.WrittenText

/-!
# How deep an accepted tree can be

The limit of a parser is a limit on what a tree needs, not on its depth.  The
first operand of a chain is read at the depth where the chain begins, while in
the tree it lies below every operation of the chain; and where a parenthesis
stands first in a product that stands first in a sum, both chains are added to
what it holds.  Each level of the limit can pay for two more chains as long as
the level, so the depth is bounded by the square of the number after the limit,
and there are texts for which it is no less.
-/

namespace StagePipeline.Program

/-! ## The bound -/

namespace Expr

theorem links_le_need (level : Precedence) (expr : Expr) : expr.links level ≤ expr.need := by
  cases expr with
  | binary op left right span =>
    simp only [links, need]
    split
    · rename_i same
      rw [same]
      omega
    · exact Nat.zero_le _
  | _ => exact Nat.zero_le _

section Operands

variable (op : BinaryOp) (left right : Expr) (span : Span)

theorem links_binary :
    (binary op left right span).links op.level = left.links op.level + 1 :=
  if_pos rfl

theorem left_need_le : left.need ≤ (binary op left right span).need :=
  Nat.le_max_left _ _

theorem right_need_le : right.need ≤ (binary op left right span).need :=
  Nat.le_trans (Nat.le_add_left _ _) (Nat.le_max_right _ _)

end Operands

/--
Bounds on the depth of an expression by what it needs, for whole expressions,
for products and for sums.  A chain may be deeper than what stands first in it
by as many levels as it has operations.
-/
structure WithinNeed (expr : Expr) : Prop where
  whole : 2 ≤ expr.tightness → expr.depth ≤ expr.need ^ 2 + 1
  product : 1 ≤ expr.tightness → expr.depth ≤ expr.links .product + expr.need ^ 2 + 1
  sum : expr.depth ≤ expr.links .sum + expr.need ^ 2 + expr.need + 1

namespace WithinNeed

/-- What bounds a whole expression bounds it as a chain without operations. -/
theorem of_whole {expr : Expr} (whole : expr.depth ≤ expr.need ^ 2 + 1) : expr.WithinNeed where
  whole := fun _ => whole
  product := fun _ => by omega
  sum := by omega

theorem square_le {expr : Expr} (within : expr.WithinNeed) :
    expr.depth ≤ (expr.need + 1) ^ 2 := by
  have links := expr.links_le_need .sum
  have sum := within.sum
  calc expr.depth ≤ expr.need ^ 2 + 2 * expr.need + 1 := by omega
    _ = (expr.need + 1) ^ 2 := by ring

theorem group {inner : Expr} (within : inner.WithinNeed) (span : Span) :
    (Expr.group inner span).WithinNeed := by
  have square := within.square_le
  apply of_whole
  simp only [depth, need]
  omega

theorem negation {operand : Expr} (within : operand.WithinNeed) (whole : 2 ≤ operand.tightness)
    (span : Span) : (Expr.negation operand span).WithinNeed := by
  have bound := within.whole whole
  have square : (operand.need + 1) ^ 2 = operand.need ^ 2 + 2 * operand.need + 1 := by ring
  apply of_whole
  simp only [depth, need]
  omega

theorem product_step {op : BinaryOp} {left right : Expr} (level : op.level = .product)
    (first : left.WithinNeed) (second : right.WithinNeed) (loose : 1 ≤ left.tightness)
    (whole : 2 ≤ right.tightness) (span : Span) :
    (Expr.binary op left right span).WithinNeed := by
  have leftSquare := Nat.pow_le_pow_left (left_need_le op left right span) 2
  have rightSquare := Nat.pow_le_pow_left (right_need_le op left right span) 2
  have links := links_binary op left right span
  have few := (Expr.binary op left right span).links_le_need .product
  have leftBound := first.product loose
  have rightBound := second.whole whole
  rw [level] at links
  have product : (Expr.binary op left right span).depth ≤
      (Expr.binary op left right span).links .product +
        (Expr.binary op left right span).need ^ 2 + 1 := by
    rw [depth]
    omega
  refine ⟨?_, fun _ => product, by omega⟩
  intro tight
  rw [tightness, level] at tight
  exact absurd tight (by decide)

theorem sum_step {op : BinaryOp} {left right : Expr} (level : op.level = .sum)
    (first : left.WithinNeed) (second : right.WithinNeed) (loose : 1 ≤ right.tightness)
    (span : Span) : (Expr.binary op left right span).WithinNeed := by
  have leftSquare := Nat.pow_le_pow_left (left_need_le op left right span) 2
  have rightSquare := Nat.pow_le_pow_left (right_need_le op left right span) 2
  have leftNeed := left_need_le op left right span
  have rightNeed := right_need_le op left right span
  have links := links_binary op left right span
  have few := right.links_le_need .product
  have leftBound := first.sum
  have rightBound := second.product loose
  rw [level] at links
  have loosest : (Expr.binary op left right span).tightness = 0 := by
    rw [tightness, level]
    rfl
  refine ⟨by omega, by omega, ?_⟩
  rw [depth]
  omega

end WithinNeed

/-- Every tree of the grammar's shape is as shallow as what it needs makes it. -/
theorem withinNeed {expr : Expr} (nested : expr.LeftNested) : expr.WithinNeed := by
  induction expr with
  | number value span => exact .of_whole (Nat.le_add_left _ _)
  | name ident => exact .of_whole (Nat.le_add_left _ _)
  | negation operand span inductive_hypothesis =>
    exact (inductive_hypothesis nested.1).negation nested.2 span
  | group inner span inductive_hypothesis => exact (inductive_hypothesis nested).group span
  | binary op left right span leftWithin rightWithin =>
    rcases nested with ⟨leftNested, rightNested, loose, tight⟩
    cases level : op.level with
    | product =>
      rw [level] at loose tight
      exact .product_step level (leftWithin leftNested) (rightWithin rightNested) loose tight span
    | sum =>
      rw [level] at tight
      exact .sum_step level (leftWithin leftNested) (rightWithin rightNested) tight span

end Expr

/-! ## Trees that attain the bound -/

namespace Expr

/-- A chain that adds ones to a first operand, or multiplies it by them. -/
def chain (op : BinaryOp) (first : Expr) : Nat → Expr
  | 0 => first
  | more + 1 => .binary op (chain op first more) (.number 1 (Span.empty 0)) (Span.empty 0)

/--
The deepest tree for a limit: the deepest for one level less stands in a group,
which as many products as there are levels enclose, and as many sums after them.
-/
def deepest : Nat → Expr
  | 0 => .number 1 (Span.empty 0)
  | limit + 1 =>
    chain .add (chain .mul (.group (deepest limit) (Span.empty 0)) (limit + 1)) (limit + 1)

section Chain

variable {op : BinaryOp} {first : Expr}

theorem one_le_depth (expr : Expr) : 1 ≤ expr.depth := by
  cases expr <;> simp only [depth] <;> omega

theorem depth_chain (op : BinaryOp) (first : Expr) (more : Nat) :
    (chain op first more).depth = first.depth + more := by
  induction more with
  | zero => rfl
  | succ more inductive_hypothesis =>
    have positive := first.one_le_depth
    simp only [chain, depth]
    omega

theorem links_chain (tight : op.level.tightness < first.tightness) (more : Nat) :
    (chain op first more).links op.level = more := by
  induction more with
  | zero => exact links_eq_zero_of_tight tight
  | succ more inductive_hypothesis => rw [chain, links_binary, inductive_hypothesis]

theorem need_chain (tight : op.level.tightness < first.tightness) (more : Nat) :
    (chain op first more).need = max first.need more := by
  induction more with
  | zero => exact (Nat.max_zero _).symm
  | succ more inductive_hypothesis =>
    simp only [chain, need, links_chain tight, inductive_hypothesis]
    omega

theorem tightness_chain (tight : op.level.tightness < first.tightness) (more : Nat) :
    op.level.tightness ≤ (chain op first more).tightness := by
  cases more with
  | zero => exact Nat.le_of_lt tight
  | succ more => exact Nat.le_refl _

theorem leftNested_chain (nested : first.LeftNested)
    (tight : op.level.tightness < first.tightness) (more : Nat) :
    (chain op first more).LeftNested := by
  induction more with
  | zero => exact nested
  | succ more inductive_hypothesis =>
    refine ⟨inductive_hypothesis, trivial, tightness_chain tight more, ?_⟩
    cases op <;> decide

theorem mem_yield_chain {kind : TokenKind} {more : Nat}
    (member : kind ∈ (chain op first more).yield) :
    kind ∈ first.yield ∨ kind = op.sign ∨ kind = .int 1 := by
  induction more with
  | zero => exact Or.inl member
  | succ more inductive_hypothesis =>
    simp only [chain, yield, List.mem_append, List.mem_cons, List.not_mem_nil, or_false] at member
    rcases member with earlier | sign | number
    · exact inductive_hypothesis earlier
    · exact Or.inr (Or.inl sign)
    · exact Or.inr (Or.inr number)

end Chain

theorem tight_group (inner : Expr) (span : Span) :
    BinaryOp.mul.level.tightness < (group inner span).tightness := by
  show 1 < 3
  decide

/-- A chain of products is a possible operand of a sum. -/
theorem tight_products (inner : Expr) (span : Span) (more : Nat) :
    BinaryOp.add.level.tightness < (chain .mul (.group inner span) more).tightness :=
  tightness_chain (tight_group inner span) more

theorem depth_deepest (limit : Nat) : (deepest limit).depth = (limit + 1) ^ 2 := by
  induction limit with
  | zero => rfl
  | succ limit inductive_hypothesis =>
    rw [deepest, depth_chain, depth_chain, depth, inductive_hypothesis]
    ring

theorem need_deepest (limit : Nat) : (deepest limit).need = limit := by
  induction limit with
  | zero => rfl
  | succ limit inductive_hypothesis =>
    rw [deepest, need_chain (tight_products _ _ _), need_chain (tight_group _ _), need,
      inductive_hypothesis]
    omega

theorem leftNested_deepest (limit : Nat) : (deepest limit).LeftNested := by
  induction limit with
  | zero => trivial
  | succ limit inductive_hypothesis =>
    have group : (Expr.group (deepest limit) (Span.empty 0)).LeftNested := inductive_hypothesis
    exact leftNested_chain (leftNested_chain group (tight_group _ _) _) (tight_products _ _ _) _

theorem isWritable_of_mem_yield_deepest {limit : Nat} {kind : TokenKind}
    (member : kind ∈ (deepest limit).yield) : kind.IsWritable := by
  induction limit with
  | zero => exact Or.inl (List.mem_singleton.1 member)
  | succ limit inductive_hypothesis =>
    rcases mem_yield_chain member with product | rfl | rfl
    · rcases mem_yield_chain product with group | rfl | rfl
      · simp only [yield, List.mem_cons, List.mem_append, List.not_mem_nil, or_false] at group
        rcases group with rfl | inner | rfl
        · exact Or.inr rfl
        · exact inductive_hypothesis inner
        · exact Or.inr rfl
      · exact Or.inr rfl
      · exact Or.inl rfl
    · exact Or.inr rfl
    · exact Or.inl rfl

end Expr

/-! ## The depth of what the parser returns -/

/-- The depths of the expressions that a parser with the options can return. -/
def returnedDepths (options : ParserOptions) : Set Nat :=
  { depth | ∃ signal source output, parse options signal source = .ok output ∧
      ∃ statement ∈ output.tree.statements, statement.expr.depth = depth }

/-- The deepest tree for a limit is parsed from some text, in either mode. -/
theorem exists_parse_deepest (recover : Bool) (maxDepth : Nat) :
    ∃ source output, parse ⟨recover, maxDepth⟩ none source = .ok output ∧
      ∃ statement ∈ output.tree.statements, statement.expr.depth = (maxDepth + 1) ^ 2 := by
  let statement := Stmt.bare (Expr.deepest maxDepth)
  have nested : statement.LeftNested := Expr.leftNested_deepest maxDepth
  have shallow : statement.expr.need ≤ maxDepth := Nat.le_of_eq (Expr.need_deepest maxDepth)
  rcases exists_parse_of_writable nested (fun _ => Expr.isWritable_of_mem_yield_deepest) shallow
    recover with ⟨source, placed, parsed, same⟩
  refine ⟨source, _, parsed, placed, List.mem_singleton_self _, ?_⟩
  rw [← Expr.depth_erase, ← Stmt.expr_erase, same, Stmt.expr_erase, Expr.depth_erase]
  exact Expr.depth_deepest maxDepth

theorem square_mem_returnedDepths (recover : Bool) (maxDepth : Nat) :
    (maxDepth + 1) ^ 2 ∈ returnedDepths ⟨recover, maxDepth⟩ := by
  rcases exists_parse_deepest recover maxDepth with ⟨source, output, parsed, deep⟩
  exact ⟨none, source, output, parsed, deep⟩

/-- Every expression that is returned has at most the depth that its need permits. -/
theorem le_square_of_mem_returnedDepths {options : ParserOptions} {depth : Nat}
    (returned : depth ∈ returnedDepths options) : depth ≤ (options.maxDepth + 1) ^ 2 := by
  rcases returned with ⟨signal, source, output, parsed, statement, member, rfl⟩
  rcases fits_of_parse parsed statement member with ⟨run, _, fits⟩
  have shallow : statement.expr.need ≤ options.maxDepth := fits.shallow
  exact Nat.le_trans (Expr.withinNeed fits.nested).square_le
    (Nat.pow_le_pow_left (Nat.succ_le_succ shallow) 2)

/--
The depth to which a limit bounds the trees of a parser, in either mode, is not
the number after the limit but the square of that number.  So the limit bounds
the trees as it should only if it is zero.
-/
theorem isGreatest_returnedDepths (recover : Bool) (maxDepth : Nat) :
    IsGreatest (returnedDepths ⟨recover, maxDepth⟩) ((maxDepth + 1) ^ 2) ∧
      ((∀ depth ∈ returnedDepths ⟨recover, maxDepth⟩, depth ≤ maxDepth + 1) ↔ maxDepth = 0) := by
  refine ⟨⟨square_mem_returnedDepths recover maxDepth, ?_⟩, ?_, ?_⟩
  · intro depth returned
    exact le_square_of_mem_returnedDepths returned
  · intro bounded
    have small : (maxDepth + 1) * (maxDepth + 1) ≤ 1 * (maxDepth + 1) := by
      rw [← pow_two, Nat.one_mul]
      exact bounded _ (square_mem_returnedDepths recover maxDepth)
    have one := Nat.le_of_mul_le_mul_right small (Nat.succ_pos maxDepth)
    omega
  · rintro rfl depth returned
    exact le_square_of_mem_returnedDepths returned

/-- A group before a sum is one level deeper than the limit should let it be. -/
theorem group_before_sum_exceeds_limit :
    ∃ output, parse ⟨false, 1⟩ none ⟨"a.st", "(1)+1"⟩ = .ok output ∧
      ∃ statement ∈ output.tree.statements, ¬ statement.expr.depth ≤ 1 + 1 := by
  have clean : (Lexed.ofText "(1)+1").errors = [] := by decide +kernel
  have wellFormed : malformedRuns 1 ⟨"a.st", "(1)+1"⟩ = [] := by decide +kernel
  have depths : (foundStatements 1 ⟨"a.st", "(1)+1"⟩).map (·.expr.depth) = [3] := by
    decide +kernel
  refine ⟨_, (parse_strict_eq_ok_iff clean).2 ⟨wellFormed, rfl⟩, ?_⟩
  have deep : 3 ∈ (foundStatements 1 ⟨"a.st", "(1)+1"⟩).map (·.expr.depth) := by
    rw [depths]
    exact List.mem_singleton_self 3
  rcases List.mem_map.1 deep with ⟨statement, member, depth⟩
  exact ⟨statement, member, by omega⟩

end StagePipeline.Program
