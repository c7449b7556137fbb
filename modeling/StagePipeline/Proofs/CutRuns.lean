import StagePipeline.Proofs.Comparison
import StagePipeline.Proofs.JoinedTexts

/-!
# A separator where a text has ended

A production that comes to the end of its tokens says so.  If the tokens went on with a
separator, it would get as far and say the same of the separator: what it has read stays,
and so does every other failure.  Only a parenthesis that the end has left open is then no
longer the thing to blame, since a separator that stands in the place of the closing one
can be pointed at.
-/

namespace StagePipeline.Program

/-- The error as it reads if a separator stands where the tokens have ended. -/
def SyntaxError.cutBy (separator : Token) : SyntaxError → SyntaxError
  | .unexpectedToken expected none _ =>
    .unexpectedToken expected (some separator.kind) separator.span
  | .unclosedParen _ => .unexpectedToken .closingParen (some separator.kind) separator.span
  | error => error

/-- What the lexer objects to has nothing to do with the end. -/
theorem SyntaxError.cutBy_lexical {separator : Token} {error : SyntaxError}
    (lexical : error.isLexical = true) : error.cutBy separator = error := by
  cases error with
  | unexpectedChar | integerOverflow => rfl
  | _ => exact nomatch lexical

/-- A failure as it is if a separator and more tokens follow the input. -/
def Stuck.before (separator : Token) (later : List Token) (stuck : Stuck) : Stuck :=
  ⟨stuck.error.cutBy separator, stuck.rest ++ separator :: later, stuck.depth⟩

/-- What a reading gives if a separator and more tokens follow its input. -/
def followed {α : Type} (separator : Token) (later : List Token) :
    Except Stuck (α × List Token) → Except Stuck (α × List Token)
  | .ok (value, rest) => .ok (value, rest ++ separator :: later)
  | .error stuck => .error (stuck.before separator later)

section Followed

variable {bounds others : Bounds} {separator : Token} {later : List Token}

/-- The comparison of what is read before the end with what is read before a separator. -/
def Comparison.ofFollowed (bounds others : Bounds) (separator : Token) (later : List Token) :
    Comparison where
  bounds := bounds
  others := others
  spans := (· = ·)
  inputs input other := other = input ++ separator :: later
  failures stuck other := other = stuck.before separator later
  breaks _ := False

theorem Comparison.ofFollowed_kept (separates : separator.kind.isSeparator = true)
    (limits : others.limit = bounds.limit) :
    (Comparison.ofFollowed bounds others separator later).Kept where
  joins := .equality
  heads := by
    rintro input other rfl
    cases input with
    | nil => exact .ended rfl separates
    | cons token rest => exact .token token.kind rfl rfl
  unexpected := by
    rintro input other rfl expected depth
    cases input <;> rfl
  notClosed := by
    rintro input other rfl opening place rfl depth
    cases input <;> rfl
  limits := Nat.le_of_eq limits.symm
  tooDeep := by
    rintro rest otherRest rfl span place rfl depth
    refine .inr ⟨limits, ?_⟩
    change others.tooDeep span depth (rest ++ separator :: later) = _
    rw [Bounds.tooDeep, limits]
    rfl

/-- A statement is read before a separator as it is read before the end. -/
theorem readStatement_followed (separates : separator.kind.isSeparator = true)
    (limits : others.limit = bounds.limit) (input : List Token) :
    others.readStatement (input ++ separator :: later) =
      followed separator later (bounds.readStatement input) := by
  have outcomes : (Comparison.ofFollowed bounds others separator later).Outcomes
      (Stmt.Alike (· = ·)) (bounds.readStatement input)
      (others.readStatement (input ++ separator :: later)) :=
    (Comparison.ofFollowed_kept separates limits).readStatement rfl
  generalize bounds.readStatement input = before at outcomes ⊢
  generalize others.readStatement (input ++ separator :: later) = after at outcomes ⊢
  cases outcomes with
  | ok same rests =>
    rw [same.eq]
    exact congrArg (fun rest => Except.ok (_, rest)) rests
  | error failures => exact congrArg Except.error failures
  | broken breaks => exact breaks.elim

end Followed

/-! ## Runs -/

namespace Run

variable {bounds others : Bounds} {separator : Token} {later : List Token}

/-- A run gives the same before more tokens, but for an error at its very end. -/
theorem result_before (run : Run) (separates : endsStatement (separator :: later) = true)
    (limits : others.limit = bounds.limit) :
    (run.before separates).result others =
      (run.result bounds).mapError (SyntaxError.cutBy separator) := by
  have whole : (run.before separates).body ++ (run.before separates).after =
      (run.body ++ run.after) ++ separator :: later :=
    (List.append_assoc _ _ _).symm
  rw [result_eq, result_eq, whole, readStatement_followed separates limits]
  cases bounds.readStatement (run.body ++ run.after) <;> rfl

theorem error?_before (run : Run) (separates : endsStatement (separator :: later) = true)
    (limits : others.limit = bounds.limit) :
    (run.before separates).error? others =
      (run.error? bounds).map (SyntaxError.cutBy separator) := by
  rw [error?, error?, run.result_before separates limits]
  cases run.result bounds <;> rfl

end Run

/--
A separator at the end of the text changes neither the kind nor the offset of an error,
if no parenthesis is open there.
-/
theorem Blames.cutBy_keeps {bounds : Bounds} {input earlier : List Token} {stuck : Stuck}
    (blames : Blames bounds input stuck) {separator : Token}
    (place : separator.span.start = bounds.finish)
    (closed : parensAfter 0 (earlier ++ input) = 0) :
    (stuck.error.cutBy separator).kind = stuck.error.kind ∧
      (stuck.error.cutBy separator).offset? = stuck.error.offset? := by
  cases blames with
  | @unexpected consumed rest expected depth split inside =>
    cases rest with
    | nil => exact ⟨rfl, congrArg some place⟩
    | cons token rest => exact ⟨rfl, rfl⟩
  | tooDeep depth split inside => exact ⟨rfl, rfl⟩
  | unclosed opening depth split inside stays =>
    rw [split, parensAfter_append, parensAfter_append, stays] at closed
    exact nomatch closed

end StagePipeline.Program
