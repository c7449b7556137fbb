import StagePipeline.Proofs.Grammar
import StagePipeline.Proofs.Productions

/-!
# What the productions accept

A production succeeds exactly on the tokens that a tree of the grammar's shape
spells, as long as the tree does not need more depth than the limit leaves.
`Expr.need` is the depth that a tree needs: it is not the height of the tree,
since the first operand of a chain is read at the depth where the chain begins
while in the tree it lies below all the operations of the chain.
-/

namespace StagePipeline.Program

namespace Expr

/-- How many operations of the given chains follow each other down the left side. -/
def links (level : Precedence) : Expr → Nat
  | .binary op left _ _ => if op.level = level then left.links level + 1 else 0
  | _ => 0

/-- How far below its own depth an expression takes the productions. -/
def need : Expr → Nat
  | .number _ _ | .name _ => 0
  | .negation operand _ => operand.need + 1
  | .binary op left right _ => max left.need (left.links op.level + 1 + right.need)
  | .group inner _ => inner.need + 1

@[simp]
theorem links_erase (level : Precedence) (expr : Expr) :
    expr.erase.links level = expr.links level := by
  induction expr with
  | binary op left right span leftSame rightSame =>
    simp [Expr.erase, links, leftSame]
  | _ => rfl

@[simp]
theorem need_erase (expr : Expr) : expr.erase.need = expr.need := by
  induction expr with
  | number value span => rfl
  | name ident => rfl
  | negation operand span inductive_hypothesis =>
    simp [Expr.erase, need, inductive_hypothesis]
  | binary op left right span leftSame rightSame =>
    simp [Expr.erase, need, leftSame, rightSame]
  | group inner span inductive_hypothesis =>
    simp [Expr.erase, need, inductive_hypothesis]

theorem links_eq_zero_of_tight {level : Precedence} {expr : Expr}
    (tight : level.tightness < expr.tightness) : expr.links level = 0 := by
  cases expr with
  | binary op left right span =>
    have other : op.level ≠ level := by
      rintro rfl
      exact absurd tight (Nat.lt_irrefl _)
    simp [links, other]
  | _ => rfl

/-- An expression of the grammar's shape that spells the tokens within the limit. -/
structure Fits (bounds : Bounds) (depth : Nat) (expr : Expr) (tokens : List Token) : Prop where
  spells : expr.Spells tokens
  nested : expr.LeftNested
  shallow : depth + expr.need ≤ bounds.limit

variable {bounds : Bounds} {depth : Nat}

theorem Fits.negation {operand : Expr} {tokens : List Token}
    (fits : operand.Fits bounds (depth + 1) tokens) (tight : 2 ≤ operand.tightness)
    (sign : Span) :
    (Expr.negation operand (sign.join operand.span)).Fits bounds depth
      (⟨.minus, sign⟩ :: tokens) where
  spells := .negation sign fits.spells
  nested := ⟨fits.nested, tight⟩
  shallow := by
    have shallow := fits.shallow
    simp only [need]
    omega

theorem Fits.group {inner : Expr} {tokens : List Token}
    (fits : inner.Fits bounds (depth + 1) tokens) (opening closing : Span) :
    (Expr.group inner (opening.join closing)).Fits bounds depth
      (⟨.leftParen, opening⟩ :: (tokens ++ [⟨.rightParen, closing⟩])) where
  spells := .group opening closing fits.spells
  nested := fits.nested
  shallow := by
    have shallow := fits.shallow
    simp only [need]
    omega

theorem Fits.ofOperands {op : BinaryOp} {left right : Expr} {before after : List Token}
    (first : left.Fits bounds depth before)
    (second : right.Fits bounds (depth + left.links op.level + 1) after)
    (loose : op.level.tightness ≤ left.tightness)
    (tight : op.level.tightness < right.tightness) (sign : Span) :
    (Expr.ofOperands op left right).Fits bounds depth (before ++ ⟨op.sign, sign⟩ :: after) where
  spells := .binary op sign first.spells second.spells
  nested := ⟨first.nested, second.nested, loose, tight⟩
  shallow := by
    have firstShallow := first.shallow
    have secondShallow := second.shallow
    simp only [Expr.ofOperands, need]
    omega

@[simp]
theorem links_ofOperands (op : BinaryOp) (left right : Expr) :
    (Expr.ofOperands op left right).links op.level = left.links op.level + 1 := by
  simp [Expr.ofOperands, links]

end Expr

/-! ## What is accepted fits -/

/-- What a reading took from the front of the tokens is spelled by its value. -/
def TakesFitting (bounds : Bounds) (floor depth : Nat) (input : List Token)
    (result : Except Stuck (Expr × List Token)) : Prop :=
  ∀ expr rest, result = .ok (expr, rest) →
    ∃ taken, input = taken ++ rest ∧ expr.Fits bounds depth taken ∧ floor ≤ expr.tightness

namespace Bounds

variable {bounds : Bounds}

theorem descend_eq_ok {α : Type} {span : Span} {depth : Nat} {rest : List Token}
    {deeper : Except Stuck α} {value : α}
    (read : bounds.descend span depth rest deeper = .ok value) :
    depth < bounds.limit ∧ deeper = .ok value := by
  unfold descend at read
  split at read
  · exact ⟨‹_›, read⟩
  · simp at read

theorem readOperand_length {level : Precedence} {depth : Nat} {input rest : List Token}
    {expr : Expr} (read : bounds.readOperand level depth input = .ok (expr, rest)) :
    rest.length < input.length :=
  rest_length_of_outcome read

theorem readClosing_eq_ok {depth : Nat} {opening : Span} {inner expr : Expr}
    {input rest : List Token}
    (read : bounds.readClosing depth opening inner input = .ok (expr, rest)) :
    ∃ closing, input = ⟨.rightParen, closing⟩ :: rest ∧
      expr = .group inner (opening.join closing) := by
  rcases input with _ | ⟨⟨kind, span⟩, tail⟩
  · simp [readClosing_nil] at read
  · by_cases closes : kind = .rightParen
    · subst closes
      simp only [readClosing_paren, Except.ok.injEq, Prod.mk.injEq] at read
      rcases read with ⟨rfl, rfl⟩
      exact ⟨span, rfl, rfl⟩
    · rw [bounds.readClosing_other closes] at read
      simp at read

theorem readSigned_cons_fits (token : Token) (rest : List Token)
    (signed : ∀ depth ≤ bounds.limit,
      TakesFitting bounds 2 depth rest (bounds.readSigned depth rest))
    (chain : ∀ depth ≤ bounds.limit,
      TakesFitting bounds 0 depth rest (bounds.readChain .sum depth rest))
    (depth : Nat) (within : depth ≤ bounds.limit) :
    TakesFitting bounds 2 depth (token :: rest) (bounds.readSigned depth (token :: rest)) := by
  intro expr after read
  rcases operandStart_cases token with
    ⟨sign, rfl⟩ | ⟨value, span, rfl⟩ | ⟨name, span, rfl⟩ | ⟨opening, rfl⟩ | other
  · rw [readSigned_minus] at read
    rcases descend_eq_ok read with ⟨deeper, read⟩
    rcases bind_eq_ok read with ⟨⟨operand, left⟩, inner, equal⟩
    rcases Prod.mk.inj (Except.ok.inj equal) with ⟨rfl, rfl⟩
    rcases signed (depth + 1) deeper operand left inner with ⟨taken, rfl, fits, tight⟩
    exact ⟨⟨.minus, sign⟩ :: taken, rfl, fits.negation tight sign, Nat.le_refl _⟩
  · rw [readSigned_number] at read
    rcases Prod.mk.inj (Except.ok.inj read) with ⟨rfl, rfl⟩
    exact ⟨[⟨.int value, span⟩], rfl, ⟨.number value span, trivial, within⟩,
      by simp [Expr.tightness]⟩
  · rw [readSigned_name] at read
    rcases Prod.mk.inj (Except.ok.inj read) with ⟨rfl, rfl⟩
    exact ⟨[⟨.ident name, span⟩], rfl, ⟨.name name span, trivial, within⟩, by simp [Expr.tightness]⟩
  · rw [readSigned_paren] at read
    rcases descend_eq_ok read with ⟨deeper, read⟩
    rcases bind_eq_ok read with ⟨⟨inner, left⟩, within, closed⟩
    rcases readClosing_eq_ok closed with ⟨closing, rfl, rfl⟩
    rcases chain (depth + 1) deeper inner _ within with ⟨taken, rfl, fits, _⟩
    exact ⟨⟨.leftParen, opening⟩ :: (taken ++ [⟨.rightParen, closing⟩]), by simp,
      fits.group opening closing, by simp [Expr.tightness]⟩
  · simp [bounds.readSigned_other other] at read

/-- The links that follow the left part of a chain lengthen it by what they take. -/
def LinksFit (bounds : Bounds) (level : Precedence) (input : List Token) : Prop :=
  ∀ (depth : Nat) (left : Expr) (before : List Token),
    left.Fits bounds depth before → level.tightness ≤ left.tightness →
    ∀ expr rest, bounds.readLinks level (depth + left.links level) left input = .ok (expr, rest) →
      ∃ taken, input = taken ++ rest ∧ expr.Fits bounds depth (before ++ taken) ∧
        level.tightness ≤ expr.tightness

theorem readLinks_cons_fits {level : Precedence} (token : Token) (rest : List Token)
    (operand : ∀ depth ≤ bounds.limit,
      TakesFitting bounds (level.tightness + 1) depth rest (bounds.readOperand level depth rest))
    (links : ∀ later : List Token, later.length < rest.length → bounds.LinksFit level later) :
    bounds.LinksFit level (token :: rest) := by
  intro depth left before fits loose expr after read
  cases found : level.operator? token.kind with
  | none =>
    rw [readLinks_stop _ found] at read
    rcases Prod.mk.inj (Except.ok.inj read) with ⟨rfl, rfl⟩
    exact ⟨[], rfl, by simpa using fits, loose⟩
  | some op =>
    rw [readLinks_more _ found] at read
    rcases descend_eq_ok read with ⟨deeper, read⟩
    rcases bind_eq_ok read with ⟨⟨right, middle⟩, readRight, readMore⟩
    rcases Precedence.operator?_eq_some_iff.1 found with ⟨rfl, isSign⟩
    rcases token with ⟨kind, sign⟩
    rcases isSign with rfl
    have shorter := readOperand_length readRight
    rcases operand _ deeper right middle readRight with ⟨taken, rfl, fitsRight, tight⟩
    have whole := fits.ofOperands fitsRight loose tight sign
    obtain ⟨more, rfl, fitsAll, looseAll⟩ :=
      links middle shorter depth _ _ whole (Nat.le_refl _) expr after
        (by simpa [Nat.add_assoc] using readMore)
    exact ⟨⟨op.sign, sign⟩ :: (taken ++ more), by simp, by simpa using fitsAll, looseAll⟩

/-- Whatever a production reads, its value spells what it took within the limit. -/
theorem productions_fit (bounds : Bounds) (input : List Token) :
    (∀ depth ≤ bounds.limit, TakesFitting bounds 2 depth input (bounds.readSigned depth input)) ∧
    (∀ level, ∀ depth ≤ bounds.limit, TakesFitting bounds (level.tightness + 1) depth input
      (bounds.readOperand level depth input)) ∧
    (∀ level, ∀ depth ≤ bounds.limit, TakesFitting bounds level.tightness depth input
      (bounds.readChain level depth input)) ∧
    ∀ level, bounds.LinksFit level input := by
  apply production_induction
    (fun input => ∀ depth ≤ bounds.limit,
      TakesFitting bounds 2 depth input (bounds.readSigned depth input))
    (fun level input => ∀ depth ≤ bounds.limit,
      TakesFitting bounds (level.tightness + 1) depth input (bounds.readOperand level depth input))
    (fun level input => ∀ depth ≤ bounds.limit,
      TakesFitting bounds level.tightness depth input (bounds.readChain level depth input))
    (fun level input => bounds.LinksFit level input)
  case signed_nil =>
    intro depth within expr rest read
    simp [readSigned_nil] at read
  case signed_cons => exact readSigned_cons_fits
  case operand_sum =>
    intro input chain depth within
    rw [readOperand_sum]
    exact chain depth within
  case operand_product =>
    intro input signed depth within
    rw [readOperand_product]
    exact signed depth within
  case chain =>
    intro level input operand links depth within expr rest read
    rw [readChain_eq] at read
    rcases bind_eq_ok read with ⟨⟨first, middle⟩, readFirst, readMore⟩
    have shorter := readOperand_length readFirst
    rcases operand depth within first middle readFirst with ⟨taken, rfl, fits, tight⟩
    have fresh : first.links level = 0 := Expr.links_eq_zero_of_tight tight
    obtain ⟨more, rfl, fitsAll, loose⟩ :=
      links middle shorter depth first taken fits (Nat.le_of_lt tight) expr rest
        (by simpa [fresh] using readMore)
    exact ⟨taken ++ more, by simp, fitsAll, loose⟩
  case links_nil =>
    intro level depth left before fits loose expr rest read
    rw [readLinks_nil] at read
    rcases Prod.mk.inj (Except.ok.inj read) with ⟨rfl, rfl⟩
    exact ⟨[], rfl, by simpa using fits, loose⟩
  case links_cons =>
    intro level token rest operand links
    exact readLinks_cons_fits token rest operand links

end Bounds

/-! ## What fits is accepted -/

/-- No operation of the given chains comes next. -/
def Precedence.StopsAt (level : Precedence) (input : List Token) : Prop :=
  ∀ token ∈ input.head?, level.operator? token.kind = none

theorem BinaryOp.operator?_sign (op : BinaryOp) : op.level.operator? op.sign = some op :=
  Precedence.operator?_eq_some_iff.2 ⟨rfl, rfl⟩

theorem BinaryOp.stopsAt_sign {level : Precedence} {op : BinaryOp} (other : op.level ≠ level)
    (sign : Span) (rest : List Token) : level.StopsAt (⟨op.sign, sign⟩ :: rest) := by
  intro token isFirst
  rcases Option.some.inj isFirst with rfl
  cases found : level.operator? op.sign with
  | none => rfl
  | some same =>
    rcases Precedence.operator?_eq_some_iff.1 found with ⟨isLevel, isSign⟩
    cases op <;> cases same <;> simp_all [BinaryOp.level, BinaryOp.sign]

theorem Precedence.stopsAt_rightParen (level : Precedence) (closing : Span)
    (rest : List Token) : level.StopsAt (⟨.rightParen, closing⟩ :: rest) := by
  intro token isFirst
  rcases Option.some.inj isFirst with rfl
  cases level <;> rfl

theorem Precedence.stopsAt_of_endsStatement {input : List Token}
    (ends : endsStatement input = true) (level : Precedence) : level.StopsAt input := by
  intro token isFirst
  cases input with
  | nil => simp at isFirst
  | cons first rest =>
    rcases Option.some.inj isFirst with rfl
    rcases first with ⟨kind, span⟩
    cases kind <;> simp [endsStatement, TokenKind.isSeparator] at ends
    all_goals cases level <;> rfl

namespace Bounds

variable {bounds : Bounds}

theorem readLinks_of_stopsAt {level : Precedence} {rest : List Token}
    (stops : level.StopsAt rest) (depth : Nat) (left : Expr) :
    bounds.readLinks level depth left rest = .ok (left, rest) := by
  cases rest with
  | nil => exact bounds.readLinks_nil level depth left
  | cons token rest => exact bounds.readLinks_stop (stops token rfl) depth left rest

theorem descend_of_lt {α : Type} {span : Span} {depth : Nat} {rest : List Token}
    {deeper : Except Stuck α} (within : depth < bounds.limit) :
    bounds.descend span depth rest deeper = deeper :=
  if_pos within

/-- The tokens of a signed operand are read as that operand, whatever follows. -/
def SignedReads (bounds : Bounds) (expr : Expr) (tokens : List Token) : Prop :=
  2 ≤ expr.tightness → ∀ depth rest, depth + expr.need ≤ bounds.limit →
    bounds.readSigned depth (tokens ++ rest) = .ok (expr, rest)

/--
Reading the tokens of a chain from its beginning comes to the point where the
chain is the left part of whatever follows.
-/
def ChainReads (bounds : Bounds) (level : Precedence) (expr : Expr)
    (tokens : List Token) : Prop :=
  level.tightness ≤ expr.tightness → ∀ depth rest, depth + expr.need ≤ bounds.limit →
    (level = .sum → Precedence.product.StopsAt rest) →
    bounds.readChain level depth (tokens ++ rest) =
      bounds.readLinks level (depth + expr.links level) expr rest

theorem SignedReads.product {expr : Expr} {tokens : List Token}
    (signed : bounds.SignedReads expr tokens) (tight : 2 ≤ expr.tightness) :
    bounds.ChainReads .product expr tokens := by
  intro _ depth rest shallow _
  have fresh : expr.links .product = 0 := Expr.links_eq_zero_of_tight tight
  rw [readChain_eq, readOperand_product, signed tight depth rest shallow, fresh]
  rfl

theorem ChainReads.sum {expr : Expr} {tokens : List Token}
    (product : bounds.ChainReads .product expr tokens) (tight : 1 ≤ expr.tightness) :
    bounds.ChainReads .sum expr tokens := by
  intro _ depth rest shallow stops
  have fresh : expr.links .sum = 0 := Expr.links_eq_zero_of_tight tight
  rw [readChain_eq, readOperand_sum, product tight depth rest shallow (by simp),
    readLinks_of_stopsAt (stops rfl), fresh]
  rfl

theorem SignedReads.chain {expr : Expr} {tokens : List Token}
    (signed : bounds.SignedReads expr tokens) (tight : 2 ≤ expr.tightness)
    (level : Precedence) : bounds.ChainReads level expr tokens := by
  have product : bounds.ChainReads .product expr tokens := signed.product tight
  cases level with
  | sum => exact product.sum (Nat.le_of_succ_le tight)
  | product => exact product

/-- An operand is read as a whole when no tighter operation follows it. -/
theorem readOperand_of_reads {level : Precedence} {expr : Expr} {tokens : List Token}
    (signed : bounds.SignedReads expr tokens) (chain : bounds.ChainReads .product expr tokens)
    (tight : level.tightness < expr.tightness) {depth : Nat} {rest : List Token}
    (shallow : depth + expr.need ≤ bounds.limit)
    (stops : level = .sum → Precedence.product.StopsAt rest) :
    bounds.readOperand level depth (tokens ++ rest) = .ok (expr, rest) := by
  cases level with
  | sum =>
    rw [readOperand_sum, chain tight depth rest shallow (by simp)]
    exact readLinks_of_stopsAt (stops rfl) _ _
  | product =>
    rw [readOperand_product]
    exact signed tight depth rest shallow

theorem ChainReads.ofOperands {op : BinaryOp} {left right : Expr} {before after : List Token}
    (loose : op.level.tightness ≤ left.tightness) (tight : op.level.tightness < right.tightness)
    (first : bounds.ChainReads op.level left before)
    (signed : bounds.SignedReads right after) (chain : bounds.ChainReads .product right after)
    (sign : Span) :
    bounds.ChainReads op.level (Expr.ofOperands op left right)
      (before ++ ⟨op.sign, sign⟩ :: after) := by
  intro _ depth rest shallow stops
  simp only [Expr.ofOperands, Expr.need] at shallow
  have toSign : bounds.readChain op.level depth (before ++ ⟨op.sign, sign⟩ :: (after ++ rest)) =
      bounds.readLinks op.level (depth + left.links op.level) left
        (⟨op.sign, sign⟩ :: (after ++ rest)) := by
    apply first loose depth _ (by omega)
    intro isSum
    exact BinaryOp.stopsAt_sign (by simp [isSum]) sign _
  have operand : bounds.readOperand op.level (depth + left.links op.level + 1) (after ++ rest) =
      .ok (right, rest) :=
    readOperand_of_reads signed chain tight (by omega) stops
  rw [List.append_assoc, List.cons_append, toSign, readLinks_more bounds op.operator?_sign,
    descend_of_lt (by omega), operand, Expr.links_ofOperands]
  rfl

/-- Every tree of the grammar's shape is read back from the tokens that it spells. -/
theorem reads_of_spells {expr : Expr} {tokens : List Token} (spells : expr.Spells tokens)
    (nested : expr.LeftNested) :
    bounds.SignedReads expr tokens ∧ ∀ level, bounds.ChainReads level expr tokens := by
  induction spells with
  | number value span =>
    have signed : bounds.SignedReads (.number value span) [⟨.int value, span⟩] :=
      fun _ depth rest _ => bounds.readSigned_number depth value span rest
    exact ⟨signed, signed.chain (by simp [Expr.tightness])⟩
  | name name span =>
    have signed : bounds.SignedReads (.name ⟨name, span⟩) [⟨.ident name, span⟩] :=
      fun _ depth rest _ => bounds.readSigned_name depth name span rest
    exact ⟨signed, signed.chain (by simp [Expr.tightness])⟩
  | @negation operand tokens sign inner inductive_hypothesis =>
    have signed : bounds.SignedReads (.negation operand (sign.join operand.span))
        (⟨.minus, sign⟩ :: tokens) := by
      intro _ depth rest shallow
      simp only [Expr.need] at shallow
      rw [List.cons_append, readSigned_minus, descend_of_lt (by omega),
        (inductive_hypothesis nested.1).1 nested.2 (depth + 1) rest (by omega)]
      rfl
    exact ⟨signed, signed.chain (by simp [Expr.tightness])⟩
  | @binary left right before after op sign first second leftReads rightReads =>
    rcases nested with ⟨leftNested, rightNested, loose, tight⟩
    rcases rightReads rightNested with ⟨signed, chain⟩
    have whole := ((leftReads leftNested).2 op.level).ofOperands loose tight signed
      (chain .product) sign
    refine ⟨fun impossible => ?_, fun level => ?_⟩
    · cases op <;> simp [Expr.tightness, BinaryOp.level, Precedence.tightness] at impossible
    · cases isLevel : op.level with
      | sum =>
        cases level with
        | sum => rw [← isLevel]; exact whole
        | product =>
          intro impossible
          simp [Expr.tightness, isLevel, Precedence.tightness] at impossible
      | product =>
        rw [isLevel] at whole
        cases level with
        | sum =>
          refine whole.sum ?_
          simp [Expr.ofOperands, Expr.tightness, isLevel, Precedence.tightness]
        | product => exact whole
  | @group inner tokens opening closing within inductive_hypothesis =>
    have signed : bounds.SignedReads (.group inner (opening.join closing))
        (⟨.leftParen, opening⟩ :: (tokens ++ [⟨.rightParen, closing⟩])) := by
      intro _ depth rest shallow
      simp only [Expr.need] at shallow
      have toParen : bounds.readChain .sum (depth + 1) (tokens ++ ⟨.rightParen, closing⟩ :: rest) =
          .ok (inner, ⟨.rightParen, closing⟩ :: rest) := by
        rw [(inductive_hypothesis nested).2 .sum (Nat.zero_le _) (depth + 1) _ (by omega)
          fun _ => Precedence.stopsAt_rightParen _ _ _]
        exact readLinks_of_stopsAt (Precedence.stopsAt_rightParen _ _ _) _ _
      rw [List.cons_append, List.append_assoc, readSigned_paren, descend_of_lt (by omega)]
      simp only [List.cons_append, List.nil_append, toParen]
      rfl
    exact ⟨signed, signed.chain (by simp [Expr.tightness])⟩

theorem readChain_of_fits {depth : Nat} {expr : Expr} {tokens rest : List Token}
    (fits : expr.Fits bounds depth tokens) (stops : ∀ level : Precedence, level.StopsAt rest) :
    bounds.readChain .sum depth (tokens ++ rest) = .ok (expr, rest) := by
  rw [(reads_of_spells fits.spells fits.nested).2 .sum (Nat.zero_le _) depth rest fits.shallow
    fun _ => stops .product]
  exact readLinks_of_stopsAt (stops .sum) _ _

end Bounds

/-! ## Statements -/

theorem Expr.Spells.notNext_letWord {expr : Expr} {tokens : List Token}
    (spells : expr.Spells tokens) (rest : List Token) :
    Bounds.NotNext .letWord (tokens ++ rest) := by
  induction spells generalizing rest with
  | number value span => simp [Bounds.NotNext]
  | name name span => simp [Bounds.NotNext]
  | negation sign inner inductive_hypothesis => simp [Bounds.NotNext]
  | binary op sign first second firstStarts secondStarts =>
    rw [List.append_assoc]
    exact firstStarts _
  | group opening closing within inductive_hypothesis => simp [Bounds.NotNext]

theorem Expr.Spells.not_isSeparator {expr : Expr} {tokens : List Token}
    (spells : expr.Spells tokens) : ∀ token ∈ tokens, token.kind.isSeparator = false := by
  induction spells with
  | number value span => simp [TokenKind.isSeparator]
  | name name span => simp [TokenKind.isSeparator]
  | negation sign inner inductive_hypothesis =>
    simpa [TokenKind.isSeparator] using inductive_hypothesis
  | binary op sign first second firstInside secondInside =>
    intro token member
    rcases List.mem_append.1 member with left | right
    · exact firstInside token left
    · rcases List.mem_cons.1 right with rfl | right
      · cases op <;> rfl
      · exact secondInside token right
  | group opening closing within inductive_hypothesis =>
    intro token member
    rcases List.mem_cons.1 member with rfl | member
    · rfl
    · rcases List.mem_append.1 member with inside | last
      · exact inductive_hypothesis token inside
      · rcases List.mem_singleton.1 last with rfl
        rfl

theorem Stmt.Spells.not_isSeparator {statement : Stmt} {tokens : List Token}
    (spells : statement.Spells tokens) : ∀ token ∈ tokens, token.kind.isSeparator = false := by
  cases spells with
  | bare value => exact value.not_isSeparator
  | binding name start place sign bound =>
    simpa [TokenKind.isSeparator] using bound.not_isSeparator

/-- A statement of the grammar's shape that spells the tokens within the limit. -/
structure Stmt.Fits (bounds : Bounds) (statement : Stmt) (tokens : List Token) : Prop where
  spells : statement.Spells tokens
  nested : statement.LeftNested
  shallow : statement.expr.need ≤ bounds.limit

theorem Bounds.readOpen_fits {bounds : Bounds} {input rest : List Token} {statement : Stmt}
    (read : bounds.readOpen input = .ok (statement, rest)) :
    ∃ taken, input = taken ++ rest ∧ statement.Fits bounds taken := by
  have chainFits : ∀ later, TakesFitting bounds 0 0 later (bounds.readChain .sum 0 later) :=
    fun later => (productions_fit bounds later).2.2.1 .sum 0 (Nat.zero_le _)
  rcases statementStart_cases input with
    bare | ⟨start, tail, rfl, unnamed⟩ | ⟨start, name, place, tail, rfl, unsigned⟩ |
      ⟨start, name, place, sign, tail, rfl⟩
  · rw [bounds.readOpen_bare bare] at read
    rcases bind_eq_ok read with ⟨⟨value, left⟩, inner, equal⟩
    rcases Prod.mk.inj (Except.ok.inj equal) with ⟨rfl, rfl⟩
    rcases chainFits input value left inner with ⟨taken, rfl, fits, _⟩
    exact ⟨taken, rfl, .bare fits.spells, fits.nested, by simpa [Stmt.expr] using fits.shallow⟩
  · rw [readOpen_let, bounds.readBinding_unnamed start unnamed] at read
    simp at read
  · rw [readOpen_let, bounds.readBinding_unsigned start place name unsigned] at read
    simp at read
  · rw [readOpen_let, readBinding_value] at read
    rcases bind_eq_ok read with ⟨⟨value, left⟩, inner, equal⟩
    rcases Prod.mk.inj (Except.ok.inj equal) with ⟨rfl, rfl⟩
    rcases chainFits tail value left inner with ⟨taken, rfl, fits, _⟩
    exact ⟨_ :: _ :: _ :: taken, rfl, .binding name start place sign fits.spells, fits.nested,
      by simpa [Stmt.expr] using fits.shallow⟩

theorem Bounds.readOpen_of_fits {bounds : Bounds} {statement : Stmt} {tokens rest : List Token}
    (fits : statement.Fits bounds tokens) (ends : endsStatement rest = true) :
    bounds.readOpen (tokens ++ rest) = .ok (statement, rest) := by
  have stops : ∀ level : Precedence, level.StopsAt rest := Precedence.stopsAt_of_endsStatement ends
  rcases fits with ⟨spells, nested, shallow⟩
  cases spells with
  | @bare expr tokens value =>
    have fitting : expr.Fits bounds 0 tokens :=
      ⟨value, nested, by simpa [Stmt.expr] using shallow⟩
    have read := readChain_of_fits fitting stops
    rw [bounds.readOpen_bare (value.notNext_letWord rest), read]
    rfl
  | @binding expr tokens name start place sign bound =>
    have fitting : expr.Fits bounds 0 tokens :=
      ⟨bound, nested, by simpa [Stmt.expr] using shallow⟩
    have read := readChain_of_fits fitting stops
    simp only [List.cons_append, readOpen_let, readBinding_value, read]
    rfl

/--
A statement is read exactly when it fits the tokens up to a separator or to the
end of the input.
-/
theorem Bounds.readStatement_eq_ok_iff {bounds : Bounds} {input rest : List Token}
    {statement : Stmt} :
    bounds.readStatement input = .ok (statement, rest) ↔
      ∃ taken, input = taken ++ rest ∧ statement.Fits bounds taken ∧
        endsStatement rest = true := by
  rw [readStatement_eq]
  constructor
  · intro read
    rcases bind_eq_ok read with ⟨⟨value, left⟩, opened, ended⟩
    split at ended
    · rename_i ends
      rcases Prod.mk.inj (Except.ok.inj ended) with ⟨rfl, rfl⟩
      rcases readOpen_fits opened with ⟨taken, equal, fits⟩
      exact ⟨taken, equal, fits, ends⟩
    · simp at ended
  · rintro ⟨taken, rfl, fits, ends⟩
    rw [readOpen_of_fits fits ends]
    simp [Except.bind, ends]

/-- Two statements of the grammar's shape that spell the same tokens are the same. -/
theorem Stmt.eq_of_spells {left right : Stmt} {tokens : List Token}
    (leftNested : left.LeftNested) (rightNested : right.LeftNested)
    (leftSpells : left.Spells tokens) (rightSpells : right.Spells tokens) : left = right := by
  -- Any limit that suffices for both will do, since reading has one result.
  let bounds : Bounds := ⟨max left.expr.need right.expr.need, 0⟩
  have readLeft : bounds.readStatement tokens = .ok (left, []) :=
    Bounds.readStatement_eq_ok_iff.2
      ⟨tokens, by simp, ⟨leftSpells, leftNested, Nat.le_max_left _ _⟩, rfl⟩
  have readRight : bounds.readStatement tokens = .ok (right, []) :=
    Bounds.readStatement_eq_ok_iff.2
      ⟨tokens, by simp, ⟨rightSpells, rightNested, Nat.le_max_right _ _⟩, rfl⟩
  have same := readLeft.symm.trans readRight
  exact (Prod.mk.inj (Except.ok.inj same)).1

theorem Expr.links_lt_length (level : Precedence) (expr : Expr) :
    expr.links level < expr.yield.length := by
  induction expr with
  | binary op left right span leftLinks rightLinks =>
    simp only [Expr.links, Expr.yield, List.length_append, List.length_cons]
    split <;> omega
  | _ => simp [Expr.links, Expr.yield]

/-- An expression needs fewer levels than it has tokens. -/
theorem Expr.need_lt_length (expr : Expr) : expr.need < expr.yield.length := by
  induction expr with
  | number value span => simp [Expr.need, Expr.yield]
  | name ident => simp [Expr.need, Expr.yield]
  | negation operand span inductive_hypothesis =>
    simpa [Expr.need, Expr.yield] using inductive_hypothesis
  | binary op left right span leftNeed rightNeed =>
    have chain := left.links_lt_length op.level
    simp only [Expr.need, Expr.yield, List.length_append, List.length_cons]
    omega
  | group inner span inductive_hypothesis =>
    simp only [Expr.need, Expr.yield, List.length_append, List.length_cons]
    omega

theorem Stmt.need_lt_length (statement : Stmt) :
    statement.expr.need < statement.yield.length := by
  cases statement with
  | bare expr => exact expr.need_lt_length
  | binding name value span =>
    have within := value.need_lt_length
    simp only [Stmt.expr, Stmt.yield, List.length_cons]
    omega

end StagePipeline.Program
