import StagePipeline.Time

/-!
# Cancellation tokens

A token belongs to a family and may carry a deadline.  Cancelling reaches the
whole family; a deadline belongs to one token and to those derived from it, and
deriving can only bring it nearer.  A token stops work when its family has been
cancelled and otherwise when its deadline is not after the present.

`TokenTable` is the record of all tokens of a history: the families cancelled so
far and the tokens in the order they were made.
-/

namespace StagePipeline

/-- Why a unit of work was stopped before it finished. -/
inductive Interrupt where
  | cancelled
  | deadlineExceeded
  deriving DecidableEq, Repr

namespace Interrupt

/-- The reason in words. -/
def message : Interrupt → String
  | .cancelled => "cancellation requested"
  | .deadlineExceeded => "deadline exceeded"

end Interrupt

/-- A signal to stop: a family that may be cancelled, and perhaps a deadline. -/
structure CancelToken where
  family : Nat
  deadline : Option Instant := none
  deriving DecidableEq, Repr

namespace CancelToken

/-- The token that expires at `deadline` as well, so at the earlier of the two. -/
def withDeadline (token : CancelToken) (deadline : Instant) : CancelToken where
  family := token.family
  deadline := some (match token.deadline with
    | some current => min current deadline
    | none => deadline)

/-- The token that expires as well some milliseconds, and perhaps nanoseconds, from now. -/
def withTimeout (token : CancelToken) (now : Instant) (milliseconds : Nat)
    (nanoseconds : Nat := 0) : CancelToken :=
  token.withDeadline (now.afterMilliseconds milliseconds + nanoseconds)

/-- The reason to stop at the instant `now`, given the families cancelled so far. -/
def check (token : CancelToken) (cancelled : List Nat) (now : Instant) : Option Interrupt :=
  if cancelled.contains token.family then some .cancelled
  else match token.deadline with
    | some deadline => if deadline ≤ now then some .deadlineExceeded else none
    | none => none

end CancelToken

/-- Something done with the tokens of a table, which are named by their positions. -/
inductive TokenAction where
  | fresh
  | clone (token : Nat)
  | cancel (token : Nat)
  | withDeadline (token : Nat) (deadline : Instant)
  | withTimeout (token : Nat) (milliseconds : Nat) (nanoseconds : Nat := 0)
  deriving DecidableEq, Repr

/-- All tokens made so far, and the families that have been cancelled. -/
structure TokenTable where
  tokens : List CancelToken := []
  families : Nat := 0
  cancelled : List Nat := []
  deriving DecidableEq, Repr

namespace TokenTable

/-- The table with a token of a family of its own added. -/
def fresh (table : TokenTable) : TokenTable where
  tokens := table.tokens ++ [{ family := table.families }]
  families := table.families + 1
  cancelled := table.cancelled

/-- The table with a token derived from an existing one added. -/
def derive (table : TokenTable) (parent : Nat) (change : CancelToken → CancelToken) :
    TokenTable :=
  match table.tokens[parent]? with
  | some token => { table with tokens := table.tokens ++ [change token] }
  | none => table

/-- The table after the family of a token has been cancelled. -/
def cancel (table : TokenTable) (token : Nat) : TokenTable :=
  match table.tokens[token]? with
  | some token => { table with cancelled := token.family :: table.cancelled }
  | none => table

/-- The table after one action at the instant `now`. -/
def act (table : TokenTable) (now : Instant) : TokenAction → TokenTable
  | .fresh => table.fresh
  | .clone token => table.derive token id
  | .cancel token => table.cancel token
  | .withDeadline token deadline => table.derive token (·.withDeadline deadline)
  | .withTimeout token milliseconds nanoseconds =>
    table.derive token (·.withTimeout now milliseconds nanoseconds)

/-- What checking each token at the instant `now` gives. -/
def checks (table : TokenTable) (now : Instant) : List (Option Interrupt) :=
  table.tokens.map fun token => token.check table.cancelled now

end TokenTable

end StagePipeline
