import StagePipeline.Program.Lexer
import StagePipeline.Program.Tree

/-!
# Productions

The grammar read from the front of a token list, one function for each of its
rules: sums of products of negated or plain operands.  A production that
succeeds gives its value and the tokens it left, of which there are fewer than
it was given; one that fails gives the error, the tokens it had not used yet and
the depth it had reached.

Depth counts how many levels an operand lies below its statement.  A parenthesis
and a unary minus lie one level above what they enclose, and each further
operand of a chain lies one level deeper than the one before it.
-/

namespace StagePipeline.Program

/-- How deep an expression may lie, and where the text ends. -/
structure Bounds where
  limit : Nat
  finish : Nat
  deriving DecidableEq, Repr

/-- What a production took from the front of fewer than `bound` tokens, and what it left. -/
structure Taken (α : Type) (bound : Nat) where
  value : α
  rest : List Token
  within : rest.length < bound

/-- Where and why a production failed. -/
structure Stuck where
  error : SyntaxError
  rest : List Token
  depth : Nat
  deriving DecidableEq, Repr

namespace Bounds

/-- The next token's kind and bytes; the end of the text takes no bytes. -/
def next (bounds : Bounds) : List Token → Option TokenKind × Span
  | [] => (none, Span.empty bounds.finish)
  | token :: _ => (some token.kind, token.span)

/-- The failure of a production that expected something else than the next token. -/
def unexpected (bounds : Bounds) (expected : Expectation) (depth : Nat)
    (input : List Token) : Stuck where
  error := .unexpectedToken expected (bounds.next input).1 (bounds.next input).2
  rest := input
  depth := depth

/-- The failure of a production that may not go one level deeper. -/
def tooDeep (bounds : Bounds) (span : Span) (depth : Nat) (rest : List Token) : Stuck where
  error := .tooDeep bounds.limit span
  rest := rest
  depth := depth

end Bounds

/-- How tightly the operations of a chain bind. -/
inductive Precedence where
  | sum
  | product
  deriving DecidableEq, Repr

namespace Precedence

/-- The operation that a token stands for in a chain. -/
def operator? : Precedence → TokenKind → Option BinaryOp
  | .sum, .plus => some .add
  | .sum, .minus => some .sub
  | .product, .star => some .mul
  | .product, .slash => some .div
  | _, _ => none

end Precedence

namespace Expr

/-- An operation on two expressions, which covers both. -/
def ofOperands (op : BinaryOp) (left right : Expr) : Expr :=
  .binary op left right (left.span.join right.span)

end Expr

/-- The end of a group whose inside has been read. -/
def closeGroup (bounds : Bounds) (depth : Nat) (opening : Span) (inner : Expr)
    (input : List Token) : Except Stuck (Taken Expr input.length) :=
  match input with
  | ⟨.rightParen, closing⟩ :: rest =>
    .ok ⟨.group inner (opening.join closing), rest, Nat.lt_succ_self _⟩
  | [] => .error ⟨.unclosedParen opening, [], depth⟩
  | other => .error (bounds.unexpected .closingParen depth other)

mutual

/-- A chain of operands joined by operations that bind equally. -/
def chain (bounds : Bounds) (level : Precedence) (depth : Nat) (input : List Token) :
    Except Stuck (Taken Expr input.length) :=
  match operand bounds level depth input with
  | .error stuck => .error stuck
  | .ok first =>
    have := first.within
    match chainFrom bounds level depth first.value first.rest with
    | .error stuck => .error stuck
    | .ok whole =>
      .ok ⟨whole.value, whole.rest, by have := whole.within; omega⟩
termination_by 6 * input.length + (match level with | .sum => 5 | .product => 3)
decreasing_by
  all_goals cases level <;> simp only <;> omega

/-- The rest of a chain, whose part so far is `left`. -/
def chainFrom (bounds : Bounds) (level : Precedence) (depth : Nat) (left : Expr)
    (input : List Token) : Except Stuck (Taken Expr (input.length + 1)) :=
  match input with
  | [] => .ok ⟨left, [], by simp⟩
  | token :: rest =>
    match level.operator? token.kind with
    | none => .ok ⟨left, token :: rest, by simp⟩
    | some op =>
      if depth < bounds.limit then
        match operand bounds level (depth + 1) rest with
        | .error stuck => .error stuck
        | .ok right =>
          have := right.within
          match chainFrom bounds level (depth + 1) (.ofOperands op left right.value)
              right.rest with
          | .error stuck => .error stuck
          | .ok whole =>
            .ok ⟨whole.value, whole.rest, by
              have := whole.within
              simp only [List.length_cons]
              omega⟩
      else .error (bounds.tooDeep token.span depth rest)
termination_by 6 * input.length
decreasing_by
  · cases level <;> simp only [List.length_cons] <;> omega
  · simp only [List.length_cons]
    omega

/-- An operand of a chain: a product in a sum, an operand with its signs in a product. -/
def operand (bounds : Bounds) (level : Precedence) (depth : Nat) (input : List Token) :
    Except Stuck (Taken Expr input.length) :=
  match level with
  | .sum => chain bounds .product depth input
  | .product => signed bounds depth input
termination_by 6 * input.length + (match level with | .sum => 4 | .product => 2)

/-- A number, a name, a group or the negation of one of these. -/
def signed (bounds : Bounds) (depth : Nat) (input : List Token) :
    Except Stuck (Taken Expr input.length) :=
  match input with
  | [] => .error (bounds.unexpected .expression depth [])
  | ⟨.minus, sign⟩ :: rest =>
    if depth < bounds.limit then
      match signed bounds (depth + 1) rest with
      | .error stuck => .error stuck
      | .ok operand =>
        .ok ⟨.negation operand.value (sign.join operand.value.span), operand.rest,
          Nat.lt_succ_of_lt operand.within⟩
    else .error (bounds.tooDeep sign depth rest)
  | ⟨.int value, span⟩ :: rest => .ok ⟨.number value span, rest, Nat.lt_succ_self _⟩
  | ⟨.ident name, span⟩ :: rest => .ok ⟨.name ⟨name, span⟩, rest, Nat.lt_succ_self _⟩
  | ⟨.leftParen, opening⟩ :: rest =>
    if depth < bounds.limit then
      match chain bounds .sum (depth + 1) rest with
      | .error stuck => .error stuck
      | .ok inner =>
        match closeGroup bounds depth opening inner.value inner.rest with
        | .error stuck => .error stuck
        | .ok group =>
          .ok ⟨group.value, group.rest, by
            have := inner.within
            have := group.within
            simp only [List.length_cons]
            omega⟩
    else .error (bounds.tooDeep opening depth rest)
  | other => .error (bounds.unexpected .expression depth other)
termination_by 6 * input.length + 1
decreasing_by
  all_goals simp only [List.length_cons]; omega

end

/-- A whole expression at the top of a statement. -/
def expression (bounds : Bounds) (input : List Token) :
    Except Stuck (Taken Expr input.length) :=
  chain bounds .sum 0 input

/-- A binding after its first word, which stands at `start`. -/
def binding (bounds : Bounds) (start : Span) (input : List Token) :
    Except Stuck (Taken Stmt input.length) :=
  match input with
  | ⟨.ident name, span⟩ :: afterName =>
    match afterName with
    | ⟨.equals, _⟩ :: afterSign =>
      match expression bounds afterSign with
      | .error stuck => .error stuck
      | .ok value =>
        .ok ⟨.binding ⟨name, span⟩ value.value (start.join value.value.span), value.rest, by
          have := value.within
          simp only [List.length_cons]
          omega⟩
    | other => .error (bounds.unexpected .equals 0 other)
  | other => .error (bounds.unexpected .name 0 other)

/-- A statement without regard to what follows it. -/
def openStatement (bounds : Bounds) (input : List Token) :
    Except Stuck (Taken Stmt input.length) :=
  match input with
  | ⟨.letWord, start⟩ :: rest =>
    match binding bounds start rest with
    | .error stuck => .error stuck
    | .ok taken => .ok ⟨taken.value, taken.rest, Nat.lt_succ_of_lt taken.within⟩
  | other =>
    match expression bounds other with
    | .error stuck => .error stuck
    | .ok taken => .ok ⟨.bare taken.value, taken.rest, taken.within⟩

/-- Whether a statement may end before these tokens. -/
def endsStatement : List Token → Bool
  | [] => true
  | token :: _ => token.kind.isSeparator

/-- A statement up to a separator or the end of the input. -/
def statement (bounds : Bounds) (input : List Token) :
    Except Stuck (Taken Stmt input.length) :=
  match openStatement bounds input with
  | .error stuck => .error stuck
  | .ok taken =>
    if endsStatement taken.rest then .ok taken
    else .error (bounds.unexpected .endOfStatement 0 taken.rest)

end StagePipeline.Program
