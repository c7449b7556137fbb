import StagePipeline.Proofs.Comparison

/-!
# Reading the same tokens at other places

The productions look at the kind of the next token and copy spans; they never
compare spans, and they look no further than the first separator.  So two token
lists that agree in their kinds up to the first separator are read alike: the
results differ at most as the spans of the tokens do.  What it means for spans
to differ is a parameter, a relation that joining respects.  With equality for
it, a reading depends on nothing after the first separator; other relations
compare the readings of one program at two places or in two layouts.
-/

namespace StagePipeline.Program

variable {related : Span → Span → Prop}

/-- Two errors that differ at most in their spans, which are related. -/
inductive SyntaxError.Alike (related : Span → Span → Prop) : SyntaxError → SyntaxError → Prop where
  | unexpectedToken {left right : Span} (expected : Expectation) (found : Option TokenKind)
      (places : related left right) :
      Alike related (.unexpectedToken expected found left) (.unexpectedToken expected found right)
  | unclosedParen {left right : Span} (places : related left right) :
      Alike related (.unclosedParen left) (.unclosedParen right)
  | tooDeep {left right : Span} (limit : Nat) (places : related left right) :
      Alike related (.tooDeep limit left) (.tooDeep limit right)

theorem SyntaxError.Alike.eq {left right : SyntaxError} (alike : left.Alike (· = ·) right) :
    left = right := by
  cases alike with
  | unexpectedToken expected found places => rw [places]
  | unclosedParen places => rw [places]
  | tooDeep limit places => rw [places]

/--
Two token lists that agree up to the first separator.  The ends of the two
texts are places as well, and count where both lists end.
-/
inductive AlikeRuns (related : Span → Span → Prop) (finish otherFinish : Nat) :
    List Token → List Token → Prop where
  | finish (places : related (Span.empty finish) (Span.empty otherFinish)) :
      AlikeRuns related finish otherFinish [] []
  | separator {kind : TokenKind} {left right : Span} (tokens others : List Token)
      (ends : kind.isSeparator = true) (places : related left right) :
      AlikeRuns related finish otherFinish (⟨kind, left⟩ :: tokens) (⟨kind, right⟩ :: others)
  | token {left right : Span} {tokens others : List Token} (kind : TokenKind)
      (places : related left right)
      (later : AlikeRuns related finish otherFinish tokens others) :
      AlikeRuns related finish otherFinish (⟨kind, left⟩ :: tokens) (⟨kind, right⟩ :: others)

/-- Two results of reading that differ at most as their inputs do. -/
inductive AlikeOutcomes {α : Type} (related : Span → Span → Prop) (finish otherFinish : Nat)
    (values : α → α → Prop) :
    Except Stuck (α × List Token) → Except Stuck (α × List Token) → Prop where
  | ok {value other : α} {rest otherRest : List Token} (same : values value other)
      (rests : AlikeRuns related finish otherFinish rest otherRest) :
      AlikeOutcomes related finish otherFinish values (.ok (value, rest)) (.ok (other, otherRest))
  | error {error other : SyntaxError} {rest otherRest : List Token} (depth : Nat)
      (errors : error.Alike related other)
      (rests : AlikeRuns related finish otherFinish rest otherRest) :
      AlikeOutcomes related finish otherFinish values
        (.error ⟨error, rest, depth⟩) (.error ⟨other, otherRest, depth⟩)

/-! ## Reading lists that are alike -/

section Readings

variable {bounds others : Bounds}

/-- The two readings are of the same limit and of related places. -/
structure AlikeBounds (related : Span → Span → Prop) (bounds others : Bounds) : Prop where
  limits : bounds.limit = others.limit
  joins : JoinRespecting related

theorem AlikeRuns.next {input other : List Token}
    (runs : AlikeRuns related bounds.finish others.finish input other) :
    (bounds.next input).1 = (others.next other).1 ∧
      related (bounds.next input).2 (others.next other).2 := by
  cases runs with
  | finish places => exact ⟨rfl, places⟩
  | separator tokens others ends places => exact ⟨rfl, places⟩
  | token kind places later => exact ⟨rfl, places⟩

/-- The comparison of two readings of lists that are alike. -/
def Comparison.ofAlike (related : Span → Span → Prop) (bounds others : Bounds) :
    Comparison where
  bounds := bounds
  others := others
  spans := related
  inputs := AlikeRuns related bounds.finish others.finish
  failures stuck other := stuck.error.Alike related other.error ∧
    AlikeRuns related bounds.finish others.finish stuck.rest other.rest ∧ stuck.depth = other.depth
  breaks _ := False

theorem AlikeRuns.heads {input other : List Token}
    (runs : AlikeRuns related bounds.finish others.finish input other) :
    (Comparison.ofAlike related bounds others).Heads input other := by
  cases runs with
  | finish places => exact .ended rfl rfl
  | separator tokens others ends places => exact .ended ends ends
  | token kind places later => exact .token kind places later

theorem AlikeRuns.unexpected {input other : List Token}
    (runs : AlikeRuns related bounds.finish others.finish input other)
    (expected : Expectation) (depth : Nat) :
    (Comparison.ofAlike related bounds others).failures
      (bounds.unexpected expected depth input) (others.unexpected expected depth other) := by
  rcases runs.next with ⟨kinds, places⟩
  refine ⟨?_, runs, rfl⟩
  rw [Bounds.unexpected, Bounds.unexpected, kinds]
  exact .unexpectedToken expected _ places

theorem AlikeBounds.kept (same : AlikeBounds related bounds others) :
    (Comparison.ofAlike related bounds others).Kept where
  joins := same.joins
  heads runs := runs.heads
  unexpected runs := runs.unexpected
  notClosed := by
    intro input other runs opening place openings depth
    cases runs with
    | finish places => exact ⟨.unclosedParen openings, .finish places, rfl⟩
    | separator tokens others ends places =>
      exact (AlikeRuns.separator tokens others ends places).unexpected .closingParen depth
    | token kind places later => exact (later.token kind places).unexpected .closingParen depth
  limits := Nat.le_of_eq same.limits
  tooDeep runs span place places depth := by
    refine .inr ⟨same.limits.symm, ?_, runs, rfl⟩
    change SyntaxError.Alike related (.tooDeep bounds.limit span) (.tooDeep others.limit place)
    rw [same.limits]
    exact .tooDeep others.limit places

theorem AlikeOutcomes.of_outcomes {α : Type} {values : α → α → Prop}
    {first second : Except Stuck (α × List Token)}
    (outcomes : (Comparison.ofAlike related bounds others).Outcomes values first second) :
    AlikeOutcomes related bounds.finish others.finish values first second := by
  cases outcomes with
  | ok same rests => exact .ok same rests
  | @error stuck other failures =>
    rcases stuck with ⟨error, rest, depth⟩
    rcases other with ⟨otherError, otherRest, otherDepth⟩
    rcases failures with ⟨errors, rests, rfl⟩
    exact .error depth errors rests
  | broken breaks => exact breaks.elim

theorem readStatement_alike (same : AlikeBounds related bounds others) {input other : List Token}
    (runs : AlikeRuns related bounds.finish others.finish input other) :
    AlikeOutcomes related bounds.finish others.finish (Stmt.Alike related)
      (bounds.readStatement input) (others.readStatement other) :=
  .of_outcomes (same.kept.readStatement runs)

end Readings

end StagePipeline.Program
