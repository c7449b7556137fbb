import StagePipeline.Proofs.Acceptance

/-!
# Two readings side by side

The productions are compared with themselves more than once: on the same tokens at
other places, on tokens that go on where the others end, within another limit.  What it
means for spans, inputs and failures to correspond is a parameter here, and the induction
along the productions is made once.  It asks little of the parameter: that corresponding
inputs begin with one kind of token or stop both readings, and that the three ways in
which a production fails by itself correspond.
-/

namespace StagePipeline.Program

/-! ## Trees that differ in their spans -/

/-- A relation between spans that joining respects. -/
structure JoinRespecting (related : Span → Span → Prop) : Prop where
  join {left right first second : Span} (starts : related left right)
    (stops : related first second) : related (left.join first) (right.join second)

theorem JoinRespecting.equality : JoinRespecting (· = ·) where
  join starts stops := by rw [starts, stops]

variable {related : Span → Span → Prop}

/-- Two trees that differ at most in their spans, which are related. -/
inductive Expr.Alike (related : Span → Span → Prop) : Expr → Expr → Prop where
  | number {left right : Span} (value : Int64) (places : related left right) :
      Alike related (.number value left) (.number value right)
  | name {left right : Span} (name : String) (places : related left right) :
      Alike related (.name ⟨name, left⟩) (.name ⟨name, right⟩)
  | negation {inner other : Expr} {left right : Span} (operands : Alike related inner other)
      (places : related left right) :
      Alike related (.negation inner left) (.negation other right)
  | binary {first second firstOther secondOther : Expr} {left right : Span} (op : BinaryOp)
      (firsts : Alike related first firstOther) (seconds : Alike related second secondOther)
      (places : related left right) :
      Alike related (.binary op first second left) (.binary op firstOther secondOther right)
  | group {inner other : Expr} {left right : Span} (inners : Alike related inner other)
      (places : related left right) :
      Alike related (.group inner left) (.group other right)

theorem Expr.Alike.span {left right : Expr} (alike : left.Alike related right) :
    related left.span right.span := by
  cases alike <;> assumption

theorem Expr.Alike.eq {left right : Expr} (alike : left.Alike (· = ·) right) :
    left = right := by
  induction alike with
  | number value places => rw [places]
  | name name places => rw [places]
  | negation operands places inductive_hypothesis => rw [inductive_hypothesis, places]
  | binary op firsts seconds places firstSame secondSame => rw [firstSame, secondSame, places]
  | group inners places inductive_hypothesis => rw [inductive_hypothesis, places]

/-- Two statements that differ at most in their spans, which are related. -/
inductive Stmt.Alike (related : Span → Span → Prop) : Stmt → Stmt → Prop where
  | bare {left right : Expr} (values : left.Alike related right) :
      Alike related (.bare left) (.bare right)
  | binding {left right : Expr} {place otherPlace span otherSpan : Span} (name : String)
      (names : related place otherPlace) (values : left.Alike related right)
      (places : related span otherSpan) :
      Alike related (.binding ⟨name, place⟩ left span) (.binding ⟨name, otherPlace⟩ right otherSpan)

theorem Stmt.Alike.eq {left right : Stmt} (alike : left.Alike (· = ·) right) : left = right := by
  cases alike with
  | bare values => rw [values.eq]
  | binding name names values places => rw [names, values.eq, places]

/-! ## Where both readings stop -/

namespace Bounds

/-- The failure of a group whose closing parenthesis does not come next. -/
def notClosed (bounds : Bounds) (opening : Span) (depth : Nat) : List Token → Stuck
  | [] => ⟨.unclosedParen opening, [], depth⟩
  | token :: rest => bounds.unexpected .closingParen depth (token :: rest)

/-- The closing parenthesis comes next, or it does not. -/
theorem closing_cases (input : List Token) :
    (∃ closing rest, input = ⟨.rightParen, closing⟩ :: rest) ∨ NotNext .rightParen input := by
  rcases input with _ | ⟨⟨kind, span⟩, rest⟩
  · exact .inr (by simp [NotNext])
  · by_cases closes : kind = .rightParen
    · exact .inl ⟨span, rest, by rw [closes]⟩
    · exact .inr (by simpa [NotNext] using closes)

theorem notNext_of_endsStatement {kind : TokenKind} (usable : kind.isSeparator = false)
    {input : List Token} (ends : endsStatement input = true) : NotNext kind input := by
  cases input with
  | nil => simp [NotNext]
  | cons token rest =>
    intro same
    rw [← Option.some.inj same] at usable
    exact Bool.false_ne_true (usable.symm.trans ends)

variable {bounds : Bounds}

theorem readClosing_notClosed {input : List Token} (other : NotNext .rightParen input)
    (depth : Nat) (opening : Span) (inner : Expr) :
    bounds.readClosing depth opening inner input =
      .error (bounds.notClosed opening depth input) := by
  cases input with
  | nil => exact bounds.readClosing_nil depth opening inner
  | cons token rest =>
    have kind : token.kind ≠ .rightParen := fun same => other (congrArg some same)
    exact bounds.readClosing_other kind depth opening inner rest

theorem readSigned_of_endsStatement {input : List Token} (ends : endsStatement input = true)
    (depth : Nat) :
    bounds.readSigned depth input = .error (bounds.unexpected .expression depth input) := by
  cases input with
  | nil => exact bounds.readSigned_nil depth
  | cons token rest =>
    apply bounds.readSigned_other
    rcases token with ⟨kind, span⟩
    cases kind with
    | semicolon | lineEnd => rfl
    | _ => exact absurd ends Bool.false_ne_true

end Bounds

/-! ## Comparisons -/

/-- What corresponds to what when two readings are laid side by side. -/
structure Comparison where
  bounds : Bounds
  others : Bounds
  spans : Span → Span → Prop
  inputs : List Token → List Token → Prop
  failures : Stuck → Stuck → Prop
  /-- The failures of the first reading with which the comparison is over. -/
  breaks : Stuck → Prop

namespace Comparison

/-- Two inputs that begin with one kind of token, or at which both readings stop. -/
inductive Heads (compared : Comparison) : List Token → List Token → Prop where
  | token {left right : Span} {tokens others : List Token} (kind : TokenKind)
      (places : compared.spans left right) (later : compared.inputs tokens others) :
      Heads compared (⟨kind, left⟩ :: tokens) (⟨kind, right⟩ :: others)
  | ended {input other : List Token} (ends : endsStatement input = true)
      (otherEnds : endsStatement other = true) : Heads compared input other

/-- Two results that correspond, unless the comparison is over with the first. -/
inductive Outcomes (compared : Comparison) {α : Type} (values : α → α → Prop) :
    Except Stuck (α × List Token) → Except Stuck (α × List Token) → Prop where
  | ok {value other : α} {rest otherRest : List Token} (same : values value other)
      (rests : compared.inputs rest otherRest) :
      Outcomes compared values (.ok (value, rest)) (.ok (other, otherRest))
  | error {stuck other : Stuck} (failures : compared.failures stuck other) :
      Outcomes compared values (.error stuck) (.error other)
  | broken {stuck : Stuck} (breaks : compared.breaks stuck)
      (other : Except Stuck (α × List Token)) : Outcomes compared values (.error stuck) other

/-- What has to hold of a comparison for the productions to keep to it. -/
structure Kept (compared : Comparison) : Prop where
  joins : JoinRespecting compared.spans
  heads {input other : List Token} (inputs : compared.inputs input other) :
    compared.Heads input other
  unexpected {input other : List Token} (inputs : compared.inputs input other)
    (expected : Expectation) (depth : Nat) :
    compared.failures (compared.bounds.unexpected expected depth input)
      (compared.others.unexpected expected depth other)
  notClosed {input other : List Token} (inputs : compared.inputs input other)
    {opening place : Span} (openings : compared.spans opening place) (depth : Nat) :
    compared.failures (compared.bounds.notClosed opening depth input)
      (compared.others.notClosed place depth other)
  limits : compared.bounds.limit ≤ compared.others.limit
  tooDeep {rest otherRest : List Token} (inputs : compared.inputs rest otherRest)
    {span place : Span} (places : compared.spans span place) (depth : Nat) :
    compared.breaks (compared.bounds.tooDeep span depth rest) ∨
      compared.others.limit = compared.bounds.limit ∧
        compared.failures (compared.bounds.tooDeep span depth rest)
          (compared.others.tooDeep place depth otherRest)

variable {compared : Comparison}

theorem Outcomes.bind {α β : Type} {values : α → α → Prop} {results : β → β → Prop}
    {first other : Except Stuck (α × List Token)}
    {next otherNext : α × List Token → Except Stuck (β × List Token)}
    (outcomes : compared.Outcomes values first other)
    (step : ∀ value rest otherValue otherRest, first = .ok (value, rest) →
      values value otherValue → compared.inputs rest otherRest →
      compared.Outcomes results (next (value, rest)) (otherNext (otherValue, otherRest))) :
    compared.Outcomes results (first.bind next) (other.bind otherNext) := by
  cases outcomes with
  | ok same rests => exact step _ _ _ _ rfl same rests
  | error failures => exact .error failures
  | broken breaks other => exact .broken breaks _

/-! ## The beginnings of corresponding inputs -/

/-- What begins with a token other than a separator corresponds only to such a list. -/
theorem Heads.cons_cases {kind : TokenKind} {span : Span} {tokens other : List Token}
    (usable : kind.isSeparator = false) (heads : compared.Heads (⟨kind, span⟩ :: tokens) other) :
    ∃ place rest, other = ⟨kind, place⟩ :: rest ∧ compared.spans span place ∧
      compared.inputs tokens rest := by
  cases heads with
  | token kind places later => exact ⟨_, _, rfl, places, later⟩
  | ended ends otherEnds => exact absurd ends (by simp [endsStatement, usable])

theorem Heads.notNext {kind : TokenKind} (usable : kind.isSeparator = false)
    {input other : List Token} (heads : compared.Heads input other)
    (absent : Bounds.NotNext kind input) : Bounds.NotNext kind other := by
  cases heads with
  | token kind places later => exact absent
  | ended ends otherEnds => exact Bounds.notNext_of_endsStatement usable otherEnds

theorem Heads.endsStatement_eq {input other : List Token} (heads : compared.Heads input other) :
    endsStatement input = endsStatement other := by
  cases heads with
  | token kind places later => rfl
  | ended ends otherEnds => rw [ends, otherEnds]

/-! ## The productions on corresponding inputs -/

namespace Kept

variable (kept : compared.Kept)
include kept

theorem descend {α : Type} {values : α → α → Prop} {span place : Span}
    (places : compared.spans span place) {rest otherRest : List Token}
    (rests : compared.inputs rest otherRest) (depth : Nat)
    {deeper otherDeeper : Except Stuck (α × List Token)}
    (outcomes : compared.Outcomes values deeper otherDeeper) :
    compared.Outcomes values (compared.bounds.descend span depth rest deeper)
      (compared.others.descend place depth otherRest otherDeeper) := by
  unfold Bounds.descend
  by_cases within : depth < compared.bounds.limit
  · rw [if_pos within, if_pos (Nat.lt_of_lt_of_le within kept.limits)]
    exact outcomes
  · rw [if_neg within]
    rcases kept.tooDeep rests places depth with breaks | ⟨same, failures⟩
    · exact .broken breaks _
    · rw [if_neg (same ▸ within)]
      exact .error failures

theorem readClosing {inner otherInner : Expr} (inners : inner.Alike compared.spans otherInner)
    {opening place : Span} (openings : compared.spans opening place) {input other : List Token}
    (inputs : compared.inputs input other) (depth : Nat) :
    compared.Outcomes (Expr.Alike compared.spans)
      (compared.bounds.readClosing depth opening inner input)
      (compared.others.readClosing depth place otherInner other) := by
  have heads := kept.heads inputs
  rcases Bounds.closing_cases input with ⟨closing, rest, rfl⟩ | missing
  · rcases heads.cons_cases rfl with ⟨closingPlace, otherRest, rfl, closings, rests⟩
    rw [Bounds.readClosing_paren, Bounds.readClosing_paren]
    exact .ok (.group inners (kept.joins.join openings closings)) rests
  · rw [Bounds.readClosing_notClosed missing, Bounds.readClosing_notClosed (heads.notNext rfl missing)]
    exact .error (kept.notClosed inputs openings depth)

end Kept

/-- Two readers correspond on every list that corresponds to `input`. -/
def Reads (compared : Comparison) (input : List Token)
    (read otherRead : Nat → List Token → Except Stuck (Expr × List Token)) : Prop :=
  ∀ depth other, compared.inputs input other →
    compared.Outcomes (Expr.Alike compared.spans) (read depth input) (otherRead depth other)

/-- The links after corresponding left parts correspond. -/
def Links (compared : Comparison) (level : Precedence) (input : List Token) : Prop :=
  ∀ depth left otherLeft other, left.Alike compared.spans otherLeft →
    compared.inputs input other →
    compared.Outcomes (Expr.Alike compared.spans)
      (compared.bounds.readLinks level depth left input)
      (compared.others.readLinks level depth otherLeft other)

theorem Links.stopped {level : Precedence} {input other : List Token}
    (inputs : compared.inputs input other) (ends : endsStatement input = true)
    (otherEnds : endsStatement other = true) (depth : Nat) {left otherLeft : Expr}
    (lefts : left.Alike compared.spans otherLeft) :
    compared.Outcomes (Expr.Alike compared.spans)
      (compared.bounds.readLinks level depth left input)
      (compared.others.readLinks level depth otherLeft other) := by
  rw [Bounds.readLinks_of_stopsAt (Precedence.stopsAt_of_endsStatement ends level),
    Bounds.readLinks_of_stopsAt (Precedence.stopsAt_of_endsStatement otherEnds level)]
  exact .ok lefts inputs

namespace Kept

variable (kept : compared.Kept)
include kept

theorem readSigned_stopped {input other : List Token} (inputs : compared.inputs input other)
    (ends : endsStatement input = true) (otherEnds : endsStatement other = true) (depth : Nat) :
    compared.Outcomes (Expr.Alike compared.spans) (compared.bounds.readSigned depth input)
      (compared.others.readSigned depth other) := by
  rw [Bounds.readSigned_of_endsStatement ends, Bounds.readSigned_of_endsStatement otherEnds]
  exact .error (kept.unexpected inputs .expression depth)

theorem readSigned_cons (token : Token) (rest : List Token)
    (signed : compared.Reads rest compared.bounds.readSigned compared.others.readSigned)
    (chain : compared.Reads rest (compared.bounds.readChain .sum)
      (compared.others.readChain .sum)) :
    compared.Reads (token :: rest) compared.bounds.readSigned compared.others.readSigned := by
  intro depth other inputs
  cases kept.heads inputs with
  | ended ends otherEnds => exact kept.readSigned_stopped inputs ends otherEnds depth
  | @token span place rest otherRest kind places later =>
    rcases Bounds.operandStart_cases ⟨kind, span⟩ with
      ⟨sign, same⟩ | ⟨value, _, same⟩ | ⟨name, _, same⟩ | ⟨opening, same⟩ | noOperand
    · cases same
      rw [Bounds.readSigned_minus, Bounds.readSigned_minus]
      refine kept.descend places later depth ((signed (depth + 1) otherRest later).bind ?_)
      intro operand left otherOperand otherLeft _ operands lefts
      exact .ok (.negation operands (kept.joins.join places operands.span)) lefts
    · cases same
      rw [Bounds.readSigned_number, Bounds.readSigned_number]
      exact .ok (.number value places) later
    · cases same
      rw [Bounds.readSigned_name, Bounds.readSigned_name]
      exact .ok (.name name places) later
    · cases same
      rw [Bounds.readSigned_paren, Bounds.readSigned_paren]
      refine kept.descend places later depth ((chain (depth + 1) otherRest later).bind ?_)
      intro inner left otherInner otherLeft _ inners lefts
      exact kept.readClosing inners places lefts depth
    · have otherNoOperand : Bounds.startsOperand (⟨kind, place⟩ : Token).kind = false := noOperand
      rw [Bounds.readSigned_other _ noOperand, Bounds.readSigned_other _ otherNoOperand]
      exact .error (kept.unexpected inputs .expression depth)

theorem readLinks_cons (level : Precedence) (token : Token) (rest : List Token)
    (operand : compared.Reads rest (compared.bounds.readOperand level)
      (compared.others.readOperand level))
    (links : ∀ later : List Token, later.length < rest.length → compared.Links level later) :
    compared.Links level (token :: rest) := by
  intro depth left otherLeft other lefts inputs
  cases kept.heads inputs with
  | ended ends otherEnds => exact Links.stopped inputs ends otherEnds depth lefts
  | @token span place rest otherRest kind places later =>
    cases found : level.operator? kind with
    | none =>
      rw [Bounds.readLinks_stop _ found, Bounds.readLinks_stop _ found]
      exact .ok lefts inputs
    | some op =>
      rw [Bounds.readLinks_more _ found, Bounds.readLinks_more _ found]
      refine kept.descend places later depth ((operand (depth + 1) otherRest later).bind ?_)
      intro right middle otherRight otherMiddle read rights middles
      exact links middle (Bounds.readOperand_length read) (depth + 1) _ _ _
        (.binary op lefts rights (kept.joins.join lefts.span rights.span)) middles

/-- Every production reads corresponding inputs correspondingly. -/
theorem productions (input : List Token) :
    compared.Reads input compared.bounds.readSigned compared.others.readSigned ∧
    (∀ level, compared.Reads input (compared.bounds.readOperand level)
      (compared.others.readOperand level)) ∧
    (∀ level, compared.Reads input (compared.bounds.readChain level)
      (compared.others.readChain level)) ∧
    ∀ level, compared.Links level input := by
  apply production_induction
    (fun input => compared.Reads input compared.bounds.readSigned compared.others.readSigned)
    (fun level input => compared.Reads input (compared.bounds.readOperand level)
      (compared.others.readOperand level))
    (fun level input => compared.Reads input (compared.bounds.readChain level)
      (compared.others.readChain level))
    (fun level input => compared.Links level input)
  case signed_nil =>
    intro depth other inputs
    have otherEnds := (kept.heads inputs).endsStatement_eq.symm
    exact kept.readSigned_stopped inputs rfl otherEnds depth
  case signed_cons => exact kept.readSigned_cons
  case operand_sum =>
    intro input chain depth other inputs
    rw [Bounds.readOperand_sum, Bounds.readOperand_sum]
    exact chain depth other inputs
  case operand_product =>
    intro input signed depth other inputs
    rw [Bounds.readOperand_product, Bounds.readOperand_product]
    exact signed depth other inputs
  case chain =>
    intro level input operand links depth other inputs
    rw [Bounds.readChain_eq, Bounds.readChain_eq]
    refine (operand depth other inputs).bind ?_
    intro first middle otherFirst otherMiddle read firsts middles
    have shorter := Bounds.readOperand_length read
    exact links middle shorter depth first otherFirst otherMiddle firsts middles
  case links_nil =>
    intro level depth left otherLeft other lefts inputs
    have otherEnds := (kept.heads inputs).endsStatement_eq.symm
    exact Links.stopped inputs rfl otherEnds depth lefts
  case links_cons => exact kept.readLinks_cons

theorem readOpen {input other : List Token} (inputs : compared.inputs input other) :
    compared.Outcomes (Stmt.Alike compared.spans) (compared.bounds.readOpen input)
      (compared.others.readOpen other) := by
  have chain : ∀ tokens, compared.Reads tokens (compared.bounds.readChain .sum)
      (compared.others.readChain .sum) :=
    fun tokens => (kept.productions tokens).2.2.1 .sum
  have heads := kept.heads inputs
  rcases Bounds.statementStart_cases input with
    bare | ⟨start, tail, rfl, unnamed⟩ | ⟨start, name, place, tail, rfl, unsigned⟩ |
      ⟨start, name, place, sign, tail, rfl⟩
  · rw [Bounds.readOpen_bare _ bare, Bounds.readOpen_bare _ (heads.notNext rfl bare)]
    refine (chain input 0 other inputs).bind ?_
    intro value left otherValue otherLeft _ values lefts
    exact .ok (.bare values) lefts
  · rcases heads.cons_cases rfl with ⟨otherStart, otherTail, rfl, _, tails⟩
    rw [Bounds.readOpen_let, Bounds.readOpen_let, Bounds.readBinding_unnamed _ _ unnamed,
      Bounds.readBinding_unnamed _ _ fun name => (kept.heads tails).notNext rfl (unnamed name)]
    exact .error (kept.unexpected tails .name 0)
  · rcases heads.cons_cases rfl with ⟨otherStart, _, rfl, _, tails⟩
    rcases (kept.heads tails).cons_cases rfl with ⟨otherPlace, otherTail, rfl, _, tails⟩
    rw [Bounds.readOpen_let, Bounds.readOpen_let, Bounds.readBinding_unsigned _ _ _ _ unsigned,
      Bounds.readBinding_unsigned _ _ _ _ ((kept.heads tails).notNext rfl unsigned)]
    exact .error (kept.unexpected tails .equals 0)
  · rcases heads.cons_cases rfl with ⟨otherStart, _, rfl, starts, tails⟩
    rcases (kept.heads tails).cons_cases rfl with ⟨otherPlace, _, rfl, names, tails⟩
    rcases (kept.heads tails).cons_cases rfl with ⟨otherSign, otherTail, rfl, _, tails⟩
    rw [Bounds.readOpen_let, Bounds.readOpen_let, Bounds.readBinding_value,
      Bounds.readBinding_value]
    refine (chain tail 0 otherTail tails).bind ?_
    intro value left otherValue otherLeft _ values lefts
    exact .ok (.binding name names values (kept.joins.join starts values.span)) lefts

/-- Statements are read correspondingly from corresponding inputs. -/
theorem readStatement {input other : List Token} (inputs : compared.inputs input other) :
    compared.Outcomes (Stmt.Alike compared.spans) (compared.bounds.readStatement input)
      (compared.others.readStatement other) := by
  rw [Bounds.readStatement_eq, Bounds.readStatement_eq]
  refine (kept.readOpen inputs).bind ?_
  intro value left otherValue otherLeft _ values lefts
  simp only [(kept.heads lefts).endsStatement_eq]
  split
  · exact .ok values lefts
  · exact .error (kept.unexpected lefts .endOfStatement 0)

end Kept

end Comparison

end StagePipeline.Program
