import StagePipeline.Program.Production

/-!
# Productions as plain readers

The productions carry a bound on the tokens that they leave, on which their
recursion rests.  Here each of them is given without that bound, as a function
from tokens to a value and the tokens after it, together with the equations by
which it goes from one token to the next.  Every later fact about the
productions is proved from these equations and from one induction principle,
which follows the order in which the productions call each other.
-/

namespace StagePipeline.Program

/-- What a production gave, without the bound on what it left. -/
def outcome {α : Type} {bound : Nat} (result : Except Stuck (Taken α bound)) :
    Except Stuck (α × List Token) :=
  result.map fun taken => (taken.value, taken.rest)

@[simp]
theorem outcome_ok {α : Type} {bound : Nat} (taken : Taken α bound) :
    outcome (.ok taken) = .ok (taken.value, taken.rest) :=
  rfl

@[simp]
theorem outcome_error {α : Type} {bound : Nat} (stuck : Stuck) :
    outcome (.error stuck : Except Stuck (Taken α bound)) = .error stuck :=
  rfl

theorem rest_length_of_outcome {α : Type} {bound : Nat}
    {result : Except Stuck (Taken α bound)} {value : α} {rest : List Token}
    (read : outcome result = .ok (value, rest)) : rest.length < bound := by
  cases result with
  | error stuck => simp at read
  | ok taken =>
    simp only [outcome_ok, Except.ok.injEq, Prod.mk.injEq] at read
    rcases read with ⟨rfl, rfl⟩
    exact taken.within

theorem bind_eq_ok {α β : Type} {first : Except Stuck α} {next : α → Except Stuck β}
    {value : β} (read : first.bind next = .ok value) :
    ∃ middle, first = .ok middle ∧ next middle = .ok value := by
  cases first with
  | error stuck => simp [Except.bind] at read
  | ok middle => exact ⟨middle, rfl, read⟩

theorem bind_eq_error {α β : Type} {first : Except Stuck α} {next : α → Except Stuck β}
    {stuck : Stuck} (failed : first.bind next = .error stuck) :
    first = .error stuck ∨ ∃ middle, first = .ok middle ∧ next middle = .error stuck := by
  cases first with
  | error early =>
    left
    simpa [Except.bind] using failed
  | ok middle => exact Or.inr ⟨middle, rfl, failed⟩

namespace Bounds

def readChain (bounds : Bounds) (level : Precedence) (depth : Nat) (input : List Token) :
    Except Stuck (Expr × List Token) :=
  outcome (chain bounds level depth input)

def readLinks (bounds : Bounds) (level : Precedence) (depth : Nat) (left : Expr)
    (input : List Token) : Except Stuck (Expr × List Token) :=
  outcome (chainFrom bounds level depth left input)

def readOperand (bounds : Bounds) (level : Precedence) (depth : Nat) (input : List Token) :
    Except Stuck (Expr × List Token) :=
  outcome (operand bounds level depth input)

def readSigned (bounds : Bounds) (depth : Nat) (input : List Token) :
    Except Stuck (Expr × List Token) :=
  outcome (signed bounds depth input)

def readClosing (bounds : Bounds) (depth : Nat) (opening : Span) (inner : Expr)
    (input : List Token) : Except Stuck (Expr × List Token) :=
  outcome (closeGroup bounds depth opening inner input)

/-- Go one level deeper at a token, if the limit allows it. -/
def descend {α : Type} (bounds : Bounds) (span : Span) (depth : Nat) (rest : List Token)
    (deeper : Except Stuck α) : Except Stuck α :=
  if depth < bounds.limit then deeper else .error (bounds.tooDeep span depth rest)

variable (bounds : Bounds)

theorem readChain_eq (level : Precedence) (depth : Nat) (input : List Token) :
    bounds.readChain level depth input =
      (bounds.readOperand level depth input).bind fun first =>
        bounds.readLinks level depth first.1 first.2 := by
  rw [readChain, readOperand, chain]
  cases operand bounds level depth input with
  | error stuck => rfl
  | ok first =>
    simp only [outcome_ok, Except.bind, readLinks]
    cases chainFrom bounds level depth first.value first.rest <;> rfl

@[simp]
theorem readLinks_nil (level : Precedence) (depth : Nat) (left : Expr) :
    bounds.readLinks level depth left [] = .ok (left, []) := by
  rw [readLinks, chainFrom]
  rfl

theorem readLinks_stop {level : Precedence} {token : Token}
    (stops : level.operator? token.kind = none) (depth : Nat) (left : Expr)
    (rest : List Token) :
    bounds.readLinks level depth left (token :: rest) = .ok (left, token :: rest) := by
  rw [readLinks, chainFrom]
  split
  · rfl
  · simp_all

theorem readLinks_more {level : Precedence} {token : Token} {op : BinaryOp}
    (found : level.operator? token.kind = some op) (depth : Nat) (left : Expr)
    (rest : List Token) :
    bounds.readLinks level depth left (token :: rest) =
      bounds.descend token.span depth rest
        ((bounds.readOperand level (depth + 1) rest).bind fun right =>
          bounds.readLinks level (depth + 1) (.ofOperands op left right.1) right.2) := by
  rw [readLinks, chainFrom, readOperand, descend]
  split
  · simp_all
  · rename_i other same
    rcases Option.some.inj (found.symm.trans same) with rfl
    split
    · cases operand bounds level (depth + 1) rest with
      | error stuck => rfl
      | ok right =>
        simp only [outcome_ok, Except.bind, readLinks]
        cases chainFrom bounds level (depth + 1) (.ofOperands op left right.value)
          right.rest <;> rfl
    · rfl

theorem readOperand_sum (depth : Nat) (input : List Token) :
    bounds.readOperand .sum depth input = bounds.readChain .product depth input := by
  rw [readOperand, operand, readChain]

theorem readOperand_product (depth : Nat) (input : List Token) :
    bounds.readOperand .product depth input = bounds.readSigned depth input := by
  rw [readOperand, operand, readSigned]

theorem readSigned_nil (depth : Nat) :
    bounds.readSigned depth [] = .error (bounds.unexpected .expression depth []) := by
  rw [readSigned, signed]
  rfl

theorem readSigned_minus (depth : Nat) (sign : Span) (rest : List Token) :
    bounds.readSigned depth (⟨.minus, sign⟩ :: rest) =
      bounds.descend sign depth rest ((bounds.readSigned (depth + 1) rest).bind fun operand =>
        .ok (.negation operand.1 (sign.join operand.1.span), operand.2)) := by
  rw [readSigned, signed, descend]
  split
  · rw [readSigned]
    cases signed bounds (depth + 1) rest <;> rfl
  · rfl

theorem readSigned_number (depth : Nat) (value : Int64) (span : Span) (rest : List Token) :
    bounds.readSigned depth (⟨.int value, span⟩ :: rest) = .ok (.number value span, rest) := by
  rw [readSigned, signed]
  rfl

theorem readSigned_name (depth : Nat) (name : String) (span : Span) (rest : List Token) :
    bounds.readSigned depth (⟨.ident name, span⟩ :: rest) = .ok (.name ⟨name, span⟩, rest) := by
  rw [readSigned, signed]
  rfl

theorem readSigned_paren (depth : Nat) (opening : Span) (rest : List Token) :
    bounds.readSigned depth (⟨.leftParen, opening⟩ :: rest) =
      bounds.descend opening depth rest ((bounds.readChain .sum (depth + 1) rest).bind fun inner =>
        bounds.readClosing depth opening inner.1 inner.2) := by
  rw [readSigned, signed, descend]
  split
  · rw [readChain]
    cases chain bounds .sum (depth + 1) rest with
    | error stuck => rfl
    | ok inner =>
      simp only [outcome_ok, Except.bind, readClosing]
      cases closeGroup bounds depth opening inner.value inner.rest <;> rfl
  · rfl

/-- Whether an operand may begin with a token of this kind. -/
def startsOperand : TokenKind → Bool
  | .minus | .int _ | .ident _ | .leftParen => true
  | _ => false

theorem readSigned_other {token : Token} (other : startsOperand token.kind = false)
    (depth : Nat) (rest : List Token) :
    bounds.readSigned depth (token :: rest) =
      .error (bounds.unexpected .expression depth (token :: rest)) := by
  rcases token with ⟨kind, span⟩
  cases kind with
  | int | ident | minus | leftParen => exact nomatch other
  | _ =>
    rw [readSigned, signed]
    · rfl
    all_goals simp

theorem readClosing_nil (depth : Nat) (opening : Span) (inner : Expr) :
    bounds.readClosing depth opening inner [] = .error ⟨.unclosedParen opening, [], depth⟩ :=
  rfl

theorem readClosing_paren (depth : Nat) (opening closing : Span) (inner : Expr)
    (rest : List Token) :
    bounds.readClosing depth opening inner (⟨.rightParen, closing⟩ :: rest) =
      .ok (.group inner (opening.join closing), rest) :=
  rfl

theorem readClosing_other {token : Token} (other : token.kind ≠ .rightParen) (depth : Nat)
    (opening : Span) (inner : Expr) (rest : List Token) :
    bounds.readClosing depth opening inner (token :: rest) =
      .error (bounds.unexpected .closingParen depth (token :: rest)) := by
  rcases token with ⟨kind, span⟩
  cases kind with
  | rightParen => exact absurd rfl other
  | _ => rfl

/-- An operand begins with a sign, a number, a name or a parenthesis, or not at all. -/
theorem operandStart_cases (token : Token) :
    (∃ sign, token = ⟨.minus, sign⟩) ∨ (∃ value span, token = ⟨.int value, span⟩) ∨
      (∃ name span, token = ⟨.ident name, span⟩) ∨ (∃ opening, token = ⟨.leftParen, opening⟩) ∨
      startsOperand token.kind = false := by
  rcases token with ⟨kind, span⟩
  cases kind with
  | minus => exact Or.inl ⟨span, rfl⟩
  | int value => exact Or.inr (Or.inl ⟨value, span, rfl⟩)
  | ident name => exact Or.inr (Or.inr (Or.inl ⟨name, span, rfl⟩))
  | leftParen => exact Or.inr (Or.inr (Or.inr (Or.inl ⟨span, rfl⟩)))
  | _ => exact Or.inr (Or.inr (Or.inr (Or.inr rfl)))

/-! ## Statements -/

def readOpen (input : List Token) : Except Stuck (Stmt × List Token) :=
  outcome (openStatement bounds input)

def readStatement (input : List Token) : Except Stuck (Stmt × List Token) :=
  outcome (statement bounds input)

def readBinding (start : Span) (input : List Token) : Except Stuck (Stmt × List Token) :=
  outcome (binding bounds start input)

/-- No token of the given kind comes next. -/
def NotNext (kind : TokenKind) (input : List Token) : Prop :=
  input.head?.map (·.kind) ≠ some kind

theorem readOpen_let (start : Span) (rest : List Token) :
    bounds.readOpen (⟨.letWord, start⟩ :: rest) = bounds.readBinding start rest := by
  simp only [readOpen, openStatement, readBinding]
  cases binding bounds start rest <;> rfl

theorem readOpen_bare {input : List Token} (bare : NotNext .letWord input) :
    bounds.readOpen input =
      (bounds.readChain .sum 0 input).bind fun value => .ok (.bare value.1, value.2) := by
  simp only [readOpen, openStatement, readChain]
  split
  · exact absurd rfl bare
  · simp only [expression]
    cases chain bounds .sum 0 input <;> rfl

theorem readBinding_value (start place sign : Span) (name : String) (rest : List Token) :
    bounds.readBinding start (⟨.ident name, place⟩ :: ⟨.equals, sign⟩ :: rest) =
      (bounds.readChain .sum 0 rest).bind fun value =>
        .ok (.binding ⟨name, place⟩ value.1 (start.join value.1.span), value.2) := by
  simp only [readBinding, binding, expression, readChain]
  cases chain bounds .sum 0 rest <;> rfl

theorem readBinding_unsigned (start place : Span) (name : String) {rest : List Token}
    (unsigned : NotNext .equals rest) :
    bounds.readBinding start (⟨.ident name, place⟩ :: rest) =
      .error (bounds.unexpected .equals 0 rest) := by
  simp only [readBinding, binding]
  split
  · exact absurd rfl unsigned
  · rfl

theorem readBinding_unnamed (start : Span) {rest : List Token}
    (unnamed : ∀ name, NotNext (.ident name) rest) :
    bounds.readBinding start rest = .error (bounds.unexpected .name 0 rest) := by
  simp only [readBinding, binding]
  split
  · exact absurd rfl (unnamed _)
  · rfl

/-- A statement is bare, or it is a binding whose name or sign may be missing. -/
theorem statementStart_cases (input : List Token) :
    NotNext .letWord input ∨
      (∃ start rest, input = ⟨.letWord, start⟩ :: rest ∧ ∀ name, NotNext (.ident name) rest) ∨
      (∃ start name place rest,
        input = ⟨.letWord, start⟩ :: ⟨.ident name, place⟩ :: rest ∧ NotNext .equals rest) ∨
      ∃ start name place sign rest,
        input = ⟨.letWord, start⟩ :: ⟨.ident name, place⟩ :: ⟨.equals, sign⟩ :: rest := by
  rcases input with _ | ⟨⟨first, start⟩, rest⟩
  · exact Or.inl (by simp [NotNext])
  by_cases isLet : first = .letWord
  · subst isLet
    right
    rcases rest with _ | ⟨⟨second, place⟩, rest⟩
    · exact Or.inl ⟨start, [], rfl, by simp [NotNext]⟩
    by_cases isName : ∃ name, second = .ident name
    · rcases isName with ⟨name, rfl⟩
      right
      rcases rest with _ | ⟨⟨third, sign⟩, rest⟩
      · exact Or.inl ⟨start, name, place, [], rfl, by simp [NotNext]⟩
      by_cases isSign : third = .equals
      · subst isSign
        exact Or.inr ⟨start, name, place, sign, rest, rfl⟩
      · exact Or.inl ⟨start, name, place, _, rfl, by simpa [NotNext] using isSign⟩
    · exact Or.inl ⟨start, _, rfl, by simpa [NotNext] using isName⟩
  · exact Or.inl (by simpa [NotNext] using isLet)

theorem readStatement_eq (input : List Token) :
    bounds.readStatement input = (bounds.readOpen input).bind fun taken =>
      if endsStatement taken.2 then .ok taken
      else .error (bounds.unexpected .endOfStatement 0 taken.2) := by
  rw [readStatement, readOpen, statement]
  cases openStatement bounds input with
  | error stuck => rfl
  | ok taken =>
    simp only [outcome_ok, Except.bind]
    split <;> rfl

end Bounds

/-! ## Induction along the productions -/

/--
The productions call each other on fewer tokens, except that a chain begins
with its first operand and an operand of a sum is a chain of products.
-/
theorem production_induction (Signed : List Token → Prop)
    (Operand Chain Links : Precedence → List Token → Prop)
    (signed_nil : Signed [])
    (signed_cons : ∀ token rest, Signed rest → Chain .sum rest → Signed (token :: rest))
    (operand_sum : ∀ input, Chain .product input → Operand .sum input)
    (operand_product : ∀ input, Signed input → Operand .product input)
    (chain : ∀ level input, Operand level input →
      (∀ rest : List Token, rest.length < input.length → Links level rest) → Chain level input)
    (links_nil : ∀ level, Links level [])
    (links_cons : ∀ level token rest, Operand level rest →
      (∀ later : List Token, later.length < rest.length → Links level later) →
      Links level (token :: rest))
    (input : List Token) :
    Signed input ∧ (∀ level, Operand level input) ∧ (∀ level, Chain level input) ∧
      ∀ level, Links level input := by
  induction size : input.length using Nat.strongRecOn generalizing input with
  | ind size shorter =>
    subst size
    have later : ∀ rest : List Token, rest.length < input.length →
        Signed rest ∧ (∀ level, Operand level rest) ∧ (∀ level, Chain level rest) ∧
          ∀ level, Links level rest :=
      fun rest less => shorter rest.length less rest rfl
    have links : ∀ rest : List Token, rest.length < input.length → ∀ level, Links level rest :=
      fun rest less => (later rest less).2.2.2
    have signedHere : Signed input := by
      cases input with
      | nil => exact signed_nil
      | cons token rest =>
        have tail := later rest (by simp)
        exact signed_cons token rest tail.1 (tail.2.2.1 .sum)
    have product : Operand .product input := operand_product input signedHere
    have term : Chain .product input :=
      chain .product input product fun rest less => links rest less .product
    have sum : Operand .sum input := operand_sum input term
    have expression : Chain .sum input :=
      chain .sum input sum fun rest less => links rest less .sum
    refine ⟨signedHere, fun level => ?_, fun level => ?_, fun level => ?_⟩
    · cases level with
      | sum => exact sum
      | product => exact product
    · cases level with
      | sum => exact expression
      | product => exact term
    · cases input with
      | nil => exact links_nil level
      | cons token rest =>
        have tail := later rest (by simp)
        exact links_cons level token rest (tail.2.1 level) fun other less =>
          links other (Nat.lt_succ_of_lt less) level

end StagePipeline.Program
