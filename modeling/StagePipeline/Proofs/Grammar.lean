import StagePipeline.Program.Production

/-!
# The grammar and the trees it describes

The grammar is given twice, both times without the productions that read it.
`Derives` says which words of token kinds a rule produces, with repetition
written as a list of links.  `Expr.LeftNested` says which trees have the shape
that the grammar gives them: chains nest to the left, products lie below sums,
and what stands in parentheses lies below a group.

A tree spells tokens when these are its words from left to right, each at the
place that the tree records for it.  The main result says that a word derives
from a rule exactly when it is the yield of a tree of that shape; so a word
has a derivation precisely when there is a tree to find.
-/

namespace StagePipeline.Program

/-! ## Derivations -/

/-- The rules of the grammar; an expression is a chain of sums, a term one of products. -/
inductive Rule where
  | statement
  | chain (level : Precedence)
  | unary
  | primary
  deriving DecidableEq, Repr

namespace Precedence

/-- The signs that join the operands of a chain. -/
def signs : Precedence → List TokenKind
  | .sum => [.plus, .minus]
  | .product => [.star, .slash]

/-- The rule for the operands of a chain. -/
def operandRule : Precedence → Rule
  | .sum => .chain .product
  | .product => .unary

end Precedence

/-- The words of token kinds that a rule of the grammar produces. -/
inductive Derives : Rule → List TokenKind → Prop where
  | bare {word : List TokenKind} (value : Derives (.chain .sum) word) :
      Derives .statement word
  | binding {name : String} {word : List TokenKind} (value : Derives (.chain .sum) word) :
      Derives .statement (.letWord :: .ident name :: .equals :: word)
  | chain {level : Precedence} {first : List TokenKind}
      {links : List (TokenKind × List TokenKind)}
      (head : Derives level.operandRule first)
      (signs : ∀ link ∈ links, link.1 ∈ level.signs)
      (operands : ∀ link ∈ links, Derives level.operandRule link.2) :
      Derives (.chain level) (first ++ links.flatMap fun link => link.1 :: link.2)
  | negation {word : List TokenKind} (operand : Derives .unary word) :
      Derives .unary (.minus :: word)
  | plain {word : List TokenKind} (operand : Derives .primary word) :
      Derives .unary word
  | number (value : Int64) : Derives .primary [.int value]
  | name (name : String) : Derives .primary [.ident name]
  | group {word : List TokenKind} (inner : Derives (.chain .sum) word) :
      Derives .primary (.leftParen :: (word ++ [.rightParen]))

/-! ## Trees of the grammar's shape -/

namespace BinaryOp

/-- The chains in which an operation stands. -/
def level : BinaryOp → Precedence
  | .add | .sub => .sum
  | .mul | .div => .product

/-- The token that an operation is written with. -/
def sign : BinaryOp → TokenKind
  | .add => .plus
  | .sub => .minus
  | .mul => .star
  | .div => .slash

end BinaryOp

theorem Precedence.operator?_eq_some_iff {level : Precedence} {kind : TokenKind}
    {op : BinaryOp} :
    level.operator? kind = some op ↔ op.level = level ∧ kind = op.sign := by
  constructor
  · intro found
    cases level <;> cases kind <;> simp only [Precedence.operator?, reduceCtorEq,
      Option.some.injEq] at found
    all_goals
      subst op
      exact ⟨rfl, rfl⟩
  · rintro ⟨rfl, rfl⟩
    cases op <;> rfl

/-- How tightly the operations of a chain hold their operands. -/
def Precedence.tightness : Precedence → Nat
  | .sum => 0
  | .product => 1

/-- How tightly the words of a rule hold together. -/
def Rule.tightness : Rule → Nat
  | .statement => 0
  | .chain level => level.tightness
  | .unary => 2
  | .primary => 3

theorem Precedence.tightness_operandRule (level : Precedence) :
    level.operandRule.tightness = level.tightness + 1 := by
  cases level <;> rfl

theorem Precedence.tightness_lt_two (level : Precedence) : level.tightness < 2 := by
  cases level <;> decide

theorem Precedence.operandRule_ne_statement (level : Precedence) :
    level.operandRule ≠ .statement := by
  cases level <;> exact Rule.noConfusion

theorem BinaryOp.sign_mem_signs (op : BinaryOp) : op.sign ∈ op.level.signs := by
  cases op <;> simp [BinaryOp.sign, BinaryOp.level, Precedence.signs]

theorem Precedence.exists_sign_of_mem {level : Precedence} {kind : TokenKind}
    (member : kind ∈ level.signs) :
    ∃ op : BinaryOp, op.level = level ∧ op.sign = kind := by
  cases level with
  | sum =>
    simp only [Precedence.signs, List.mem_cons, List.not_mem_nil, or_false] at member
    rcases member with rfl | rfl
    · exact ⟨.add, rfl, rfl⟩
    · exact ⟨.sub, rfl, rfl⟩
  | product =>
    simp only [Precedence.signs, List.mem_cons, List.not_mem_nil, or_false] at member
    rcases member with rfl | rfl
    · exact ⟨.mul, rfl, rfl⟩
    · exact ⟨.div, rfl, rfl⟩

namespace Expr

/-- How tightly an expression holds together; a group, a name and a number are whole. -/
def tightness : Expr → Nat
  | .binary op _ _ _ => op.level.tightness
  | .negation _ _ => 2
  | .number _ _ | .name _ | .group _ _ => 3

/--
Chains nest to the left and products lie below sums.  The left operand of an
operation may be a chain of the same operations, the right one may not.
-/
def LeftNested : Expr → Prop
  | .number _ _ | .name _ => True
  | .negation operand _ => operand.LeftNested ∧ 2 ≤ operand.tightness
  | .binary op left right _ =>
    left.LeftNested ∧ right.LeftNested ∧
      op.level.tightness ≤ left.tightness ∧ op.level.tightness < right.tightness
  | .group inner _ => inner.LeftNested

/-- The kinds of the tokens of an expression, from left to right. -/
def yield : Expr → List TokenKind
  | .number value _ => [.int value]
  | .name ident => [.ident ident.name]
  | .negation operand _ => .minus :: operand.yield
  | .binary op left right _ => left.yield ++ op.sign :: right.yield
  | .group inner _ => .leftParen :: (inner.yield ++ [.rightParen])

/-- The expression with every span forgotten. -/
def erase : Expr → Expr
  | .number value _ => .number value (Span.empty 0)
  | .name ident => .name ⟨ident.name, Span.empty 0⟩
  | .negation operand _ => .negation operand.erase (Span.empty 0)
  | .binary op left right _ => .binary op left.erase right.erase (Span.empty 0)
  | .group inner _ => .group inner.erase (Span.empty 0)

/--
An expression spells tokens when they are its own from left to right: leaves
have the spans of their tokens, and every other node covers its first and its
last token.
-/
inductive Spells : Expr → List Token → Prop where
  | number (value : Int64) (span : Span) : Spells (.number value span) [⟨.int value, span⟩]
  | name (name : String) (span : Span) : Spells (.name ⟨name, span⟩) [⟨.ident name, span⟩]
  | negation {operand : Expr} {tokens : List Token} (sign : Span)
      (inner : Spells operand tokens) :
      Spells (.negation operand (sign.join operand.span)) (⟨.minus, sign⟩ :: tokens)
  | binary {left right : Expr} {before after : List Token} (op : BinaryOp) (sign : Span)
      (first : Spells left before) (second : Spells right after) :
      Spells (.binary op left right (left.span.join right.span))
        (before ++ ⟨op.sign, sign⟩ :: after)
  | group {inner : Expr} {tokens : List Token} (opening closing : Span)
      (within : Spells inner tokens) :
      Spells (.group inner (opening.join closing))
        (⟨.leftParen, opening⟩ :: (tokens ++ [⟨.rightParen, closing⟩]))

end Expr

namespace Stmt

/-- The expression of the statement has the grammar's shape. -/
def LeftNested (statement : Stmt) : Prop :=
  statement.expr.LeftNested

/-- The kinds of the tokens of a statement, from left to right. -/
def yield : Stmt → List TokenKind
  | .binding name value _ => .letWord :: .ident name.name :: .equals :: value.yield
  | .bare expr => expr.yield

/-- The statement with every span forgotten. -/
def erase : Stmt → Stmt
  | .binding name value _ => .binding ⟨name.name, Span.empty 0⟩ value.erase (Span.empty 0)
  | .bare expr => .bare expr.erase

/-- A statement spells tokens when they are its own from left to right. -/
inductive Spells : Stmt → List Token → Prop where
  | bare {expr : Expr} {tokens : List Token} (value : expr.Spells tokens) :
      Spells (.bare expr) tokens
  | binding {value : Expr} {tokens : List Token} (name : String) (start place sign : Span)
      (bound : value.Spells tokens) :
      Spells (.binding ⟨name, place⟩ value (start.join value.span))
        (⟨.letWord, start⟩ :: ⟨.ident name, place⟩ :: ⟨.equals, sign⟩ :: tokens)

end Stmt

/-- The program with every span forgotten. -/
def SyntaxTree.erase (tree : SyntaxTree) : SyntaxTree :=
  ⟨tree.statements.map Stmt.erase⟩

/-! ## Spelling and erasure -/

namespace Expr

theorem Spells.yield_eq {expr : Expr} {tokens : List Token} (spells : expr.Spells tokens) :
    tokens.map (·.kind) = expr.yield := by
  induction spells with
  | number value span => rfl
  | name name span => rfl
  | negation sign inner inductive_hypothesis =>
    simp [Expr.yield, inductive_hypothesis]
  | binary op sign first second firstYield secondYield =>
    simp [Expr.yield, firstYield, secondYield]
  | group opening closing within inductive_hypothesis =>
    simp [Expr.yield, inductive_hypothesis]

@[simp]
theorem tightness_erase (expr : Expr) : expr.erase.tightness = expr.tightness := by
  cases expr <;> rfl

@[simp]
theorem leftNested_erase (expr : Expr) : expr.erase.LeftNested ↔ expr.LeftNested := by
  induction expr with
  | number value span => rfl
  | name ident => rfl
  | negation operand span inductive_hypothesis =>
    simp [Expr.erase, Expr.LeftNested, inductive_hypothesis]
  | binary op left right span leftSame rightSame =>
    simp [Expr.erase, Expr.LeftNested, leftSame, rightSame]
  | group inner span inductive_hypothesis =>
    simp [Expr.erase, Expr.LeftNested, inductive_hypothesis]

@[simp]
theorem depth_erase (expr : Expr) : expr.erase.depth = expr.depth := by
  induction expr with
  | number value span => rfl
  | name ident => rfl
  | negation operand span inductive_hypothesis =>
    simp [Expr.erase, Expr.depth, inductive_hypothesis]
  | binary op left right span leftSame rightSame =>
    simp [Expr.erase, Expr.depth, leftSame, rightSame]
  | group inner span inductive_hypothesis =>
    simp [Expr.erase, Expr.depth, inductive_hypothesis]

/-- The places of any tokens of the right kinds can be put into a tree. -/
theorem exists_spells_of_yield (expr : Expr) {tokens : List Token}
    (kinds : tokens.map (·.kind) = expr.yield) :
    ∃ placed : Expr, placed.Spells tokens ∧ placed.erase = expr.erase := by
  induction expr generalizing tokens with
  | number value span =>
    rcases List.map_eq_singleton_iff.1 kinds with ⟨token, rfl, kind⟩
    rcases token with ⟨_, place⟩
    rcases kind with rfl
    exact ⟨_, .number value place, rfl⟩
  | name ident =>
    rcases List.map_eq_singleton_iff.1 kinds with ⟨token, rfl, kind⟩
    rcases token with ⟨_, place⟩
    rcases kind with rfl
    exact ⟨_, .name ident.name place, rfl⟩
  | negation operand span inductive_hypothesis =>
    rcases List.map_eq_cons_iff.1 kinds with ⟨token, rest, rfl, kind, restKinds⟩
    rcases token with ⟨_, sign⟩
    rcases kind with rfl
    rcases inductive_hypothesis restKinds with ⟨placed, spells, same⟩
    exact ⟨_, .negation sign spells, by simp [Expr.erase, same]⟩
  | binary op left right span leftPlaces rightPlaces =>
    rcases List.map_eq_append_iff.1 kinds with ⟨before, rest, rfl, beforeKinds, restKinds⟩
    rcases List.map_eq_cons_iff.1 restKinds with ⟨token, after, rfl, kind, afterKinds⟩
    rcases token with ⟨_, sign⟩
    rcases kind with rfl
    rcases leftPlaces beforeKinds with ⟨placedLeft, spellsLeft, sameLeft⟩
    rcases rightPlaces afterKinds with ⟨placedRight, spellsRight, sameRight⟩
    exact ⟨_, .binary op sign spellsLeft spellsRight, by simp [Expr.erase, sameLeft, sameRight]⟩
  | group inner span inductive_hypothesis =>
    rcases List.map_eq_cons_iff.1 kinds with ⟨first, rest, rfl, firstKind, restKinds⟩
    rcases List.map_eq_append_iff.1 restKinds with ⟨tokens, last, rfl, innerKinds, lastKinds⟩
    rcases List.map_eq_singleton_iff.1 lastKinds with ⟨token, rfl, lastKind⟩
    rcases first with ⟨_, opening⟩
    rcases firstKind with rfl
    rcases token with ⟨_, closing⟩
    rcases lastKind with rfl
    rcases inductive_hypothesis innerKinds with ⟨placed, spells, same⟩
    exact ⟨_, .group opening closing spells, by simp [Expr.erase, same]⟩

end Expr

namespace Stmt

theorem Spells.yield_eq {statement : Stmt} {tokens : List Token}
    (spells : statement.Spells tokens) : tokens.map (·.kind) = statement.yield := by
  cases spells with
  | bare value => exact value.yield_eq
  | binding name start place sign bound => simp [Stmt.yield, bound.yield_eq]

theorem exists_spells_of_yield (statement : Stmt) {tokens : List Token}
    (kinds : tokens.map (·.kind) = statement.yield) :
    ∃ placed : Stmt, placed.Spells tokens ∧ placed.erase = statement.erase := by
  cases statement with
  | bare expr =>
    rcases expr.exists_spells_of_yield kinds with ⟨placed, spells, same⟩
    exact ⟨_, .bare spells, by simp [Stmt.erase, same]⟩
  | binding name value span =>
    rcases List.map_eq_cons_iff.1 kinds with ⟨first, rest, rfl, firstKind, restKinds⟩
    rcases List.map_eq_cons_iff.1 restKinds with ⟨second, afterName, rfl, secondKind, nameKinds⟩
    rcases List.map_eq_cons_iff.1 nameKinds with ⟨third, tokens, rfl, thirdKind, valueKinds⟩
    rcases first with ⟨_, start⟩
    rcases firstKind with rfl
    rcases second with ⟨_, place⟩
    rcases secondKind with rfl
    rcases third with ⟨_, sign⟩
    rcases thirdKind with rfl
    rcases value.exists_spells_of_yield valueKinds with ⟨placed, spells, same⟩
    exact ⟨_, .binding name.name start place sign spells, by simp [Stmt.erase, same]⟩

@[simp]
theorem expr_erase (statement : Stmt) : statement.erase.expr = statement.expr.erase := by
  cases statement <;> rfl

@[simp]
theorem leftNested_erase (statement : Stmt) :
    statement.erase.LeftNested ↔ statement.LeftNested := by
  rw [Stmt.LeftNested, expr_erase, Expr.leftNested_erase, Stmt.LeftNested]

end Stmt

/-! ## Derivations and trees -/

theorem Derives.chain_of_operand (level : Precedence) {word : List TokenKind}
    (operand : Derives level.operandRule word) : Derives (.chain level) word := by
  have derived := @Derives.chain level word [] operand (by simp) (by simp)
  simpa using derived

/-- A chain can be made longer at its end. -/
theorem Derives.chain_append {level : Precedence} {word more : List TokenKind}
    {sign : TokenKind} (chain : Derives (.chain level) word) (isSign : sign ∈ level.signs)
    (operand : Derives level.operandRule more) :
    Derives (.chain level) (word ++ sign :: more) := by
  cases chain with
  | @chain _ first links head signs operands =>
    have longer := @Derives.chain level first (links ++ [(sign, more)]) head
      (by
        intro link member
        rcases List.mem_append.1 member with old | new
        · exact signs link old
        · rcases List.mem_singleton.1 new with rfl
          exact isSign)
      (by
        intro link member
        rcases List.mem_append.1 member with old | new
        · exact operands link old
        · rcases List.mem_singleton.1 new with rfl
          exact operand)
    simpa [List.flatMap_append] using longer

/-- What derives from a chain derives from the chains around it. -/
theorem Derives.loosen_chain {tighter level : Precedence} {word : List TokenKind}
    (derived : Derives (.chain tighter) word) (loose : level.tightness ≤ tighter.tightness) :
    Derives (.chain level) word := by
  cases level with
  | sum =>
    cases tighter with
    | sum => exact derived
    | product => exact .chain_of_operand .sum derived
  | product =>
    cases tighter with
    | sum => exact absurd loose (by decide)
    | product => exact derived

theorem Derives.chain_of_unary {word : List TokenKind} (unary : Derives .unary word)
    (level : Precedence) : Derives (.chain level) word := by
  have product : Derives (.chain .product) word := .chain_of_operand .product unary
  exact product.loosen_chain (Nat.le_of_lt_succ level.tightness_lt_two)

theorem Derives.of_primary {word : List TokenKind} (primary : Derives .primary word)
    (rule : Rule) (expression : rule ≠ .statement) : Derives rule word := by
  have unary : Derives .unary word := .plain primary
  cases rule with
  | statement => exact absurd rfl expression
  | chain level => exact unary.chain_of_unary level
  | unary => exact unary
  | primary => exact primary

/-- A tree of the grammar's shape derives from every rule that asks for no more tightness. -/
theorem Expr.derives_yield {expr : Expr} (nested : expr.LeftNested) (rule : Rule)
    (expression : rule ≠ .statement) (loose : rule.tightness ≤ expr.tightness) :
    Derives rule expr.yield := by
  induction expr generalizing rule with
  | number value span => exact (Derives.number value).of_primary rule expression
  | name ident => exact (Derives.name ident.name).of_primary rule expression
  | negation operand span inductive_hypothesis =>
    have unary : Derives .unary (Expr.negation operand span).yield :=
      .negation (inductive_hypothesis nested.1 .unary (by simp) nested.2)
    cases rule with
    | statement => exact absurd rfl expression
    | chain level => exact unary.chain_of_unary level
    | unary => exact unary
    | primary => simp [Rule.tightness, Expr.tightness] at loose
  | binary op left right span leftDerives rightDerives =>
    rcases nested with ⟨leftNested, rightNested, leftLoose, rightTight⟩
    have operandTight : op.level.operandRule.tightness ≤ right.tightness := by
      rw [Precedence.tightness_operandRule]
      exact rightTight
    have first : Derives (.chain op.level) left.yield :=
      leftDerives leftNested _ (by simp) leftLoose
    have operand : Derives op.level.operandRule right.yield :=
      rightDerives rightNested _ op.level.operandRule_ne_statement operandTight
    have chain : Derives (.chain op.level) (Expr.binary op left right span).yield :=
      first.chain_append op.sign_mem_signs operand
    -- An operation holds together no more tightly than its chain, which rules out the last cases.
    have slack := op.level.tightness_lt_two
    cases rule with
    | statement => exact absurd rfl expression
    | chain level => exact chain.loosen_chain loose
    | unary => exact absurd loose (Nat.not_le_of_lt slack)
    | primary => exact absurd loose (Nat.not_le_of_lt (Nat.lt_succ_of_lt slack))
  | group inner span inductive_hypothesis =>
    have derived : Derives (.chain .sum) inner.yield :=
      inductive_hypothesis nested _ (by simp) (Nat.zero_le _)
    exact (Derives.group derived).of_primary rule expression

/-- A tree that is continued by the links of a chain, each of which has a tree. -/
theorem exists_expr_of_links {level : Precedence} (links : List (TokenKind × List TokenKind))
    (signs : ∀ link ∈ links, link.1 ∈ level.signs)
    (operands : ∀ link ∈ links, ∃ operand : Expr,
      operand.LeftNested ∧ level.tightness < operand.tightness ∧ operand.yield = link.2)
    (left : Expr) (nested : left.LeftNested) (loose : level.tightness ≤ left.tightness) :
    ∃ whole : Expr, whole.LeftNested ∧ level.tightness ≤ whole.tightness ∧
      whole.yield = left.yield ++ links.flatMap fun link => link.1 :: link.2 := by
  induction links generalizing left with
  | nil => exact ⟨left, nested, loose, by simp⟩
  | cons link links inductive_hypothesis =>
    rcases Precedence.exists_sign_of_mem (signs link (by simp)) with ⟨op, rfl, isSign⟩
    rcases operands link (by simp) with ⟨right, rightNested, tight, rightYield⟩
    obtain ⟨whole, wholeNested, wholeLoose, wholeYield⟩ :=
      inductive_hypothesis (fun other member => signs other (List.mem_cons_of_mem _ member))
        (fun other member => operands other (List.mem_cons_of_mem _ member))
        (.binary op left right (Span.empty 0))
        ⟨nested, rightNested, loose, tight⟩ (Nat.le_refl _)
    refine ⟨whole, wholeNested, wholeLoose, ?_⟩
    rw [wholeYield]
    simp [Expr.yield, rightYield, isSign]

theorem Derives.exists_expr {rule : Rule} {word : List TokenKind} (derived : Derives rule word)
    (expression : rule ≠ .statement) :
    ∃ expr : Expr, expr.LeftNested ∧ rule.tightness ≤ expr.tightness ∧ expr.yield = word := by
  induction derived with
  | bare value => exact absurd rfl expression
  | binding value => exact absurd rfl expression
  | @chain level first links head signs operands headTree operandTrees =>
    have isExpression := level.operandRule_ne_statement
    simp only [Precedence.tightness_operandRule] at headTree operandTrees
    rcases headTree isExpression with ⟨left, nested, tight, leftYield⟩
    obtain ⟨whole, wholeNested, loose, wholeYield⟩ :=
      exists_expr_of_links links signs
        (fun link member => operandTrees link member isExpression) left nested
        (Nat.le_of_lt tight)
    exact ⟨whole, wholeNested, loose, by rw [wholeYield, leftYield]⟩
  | negation operand inductive_hypothesis =>
    rcases inductive_hypothesis (by simp) with ⟨expr, nested, tight, yields⟩
    exact ⟨.negation expr (Span.empty 0), ⟨nested, tight⟩, Nat.le_refl _,
      by simp [Expr.yield, yields]⟩
  | plain operand inductive_hypothesis =>
    rcases inductive_hypothesis (by simp) with ⟨expr, nested, tight, yields⟩
    exact ⟨expr, nested, Nat.le_of_succ_le tight, yields⟩
  | number value => exact ⟨.number value (Span.empty 0), trivial, Nat.le_refl _, rfl⟩
  | name name => exact ⟨.name ⟨name, Span.empty 0⟩, trivial, Nat.le_refl _, rfl⟩
  | group inner inductive_hypothesis =>
    rcases inductive_hypothesis (by simp) with ⟨expr, nested, _, yields⟩
    exact ⟨.group expr (Span.empty 0), nested, Nat.le_refl _, by simp [Expr.yield, yields]⟩

/-- A word is a statement exactly when it is the yield of one of the grammar's shape. -/
theorem derives_statement_iff {word : List TokenKind} :
    Derives .statement word ↔
      ∃ statement : Stmt, statement.LeftNested ∧ statement.yield = word := by
  constructor
  · intro derived
    cases derived with
    | bare value =>
      rcases value.exists_expr (by simp) with ⟨expr, nested, _, yields⟩
      exact ⟨.bare expr, nested, yields⟩
    | @binding name word value =>
      rcases value.exists_expr (by simp) with ⟨expr, nested, _, yields⟩
      exact ⟨.binding ⟨name, Span.empty 0⟩ expr (Span.empty 0), nested,
        by simp [Stmt.yield, yields]⟩
  · rintro ⟨statement, nested, rfl⟩
    have value : Derives (.chain .sum) statement.expr.yield :=
      Expr.derives_yield nested _ (by simp) (Nat.zero_le _)
    cases statement with
    | bare expr => exact .bare value
    | binding name expr span => exact .binding value

end StagePipeline.Program
