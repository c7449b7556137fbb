import StagePipeline.Proofs.Acceptance

/-!
# Where a production gets stuck

A production never takes a separator, and what it complains about lies in the
run of tokens that it was given: the token it could not use, which may be the
separator after the run or the end of the text, a token at which it may not go
deeper, or a parenthesis that the run leaves open.  The lexer counts parentheses
without regard to the grammar, but on this it agrees: what follows such a
parenthesis does not bring its count back to where it stood before.
-/

namespace StagePipeline.Program

/-- None of the tokens ends a statement. -/
def WithoutSeparators (tokens : List Token) : Prop :=
  ∀ token ∈ tokens, token.kind.isSeparator = false

namespace WithoutSeparators

theorem nil : WithoutSeparators [] := by
  intro token member
  simp at member

theorem append {left right : List Token} (first : WithoutSeparators left)
    (second : WithoutSeparators right) : WithoutSeparators (left ++ right) := by
  intro token member
  rcases List.mem_append.1 member with early | late
  · exact first token early
  · exact second token late

theorem cons {token : Token} {tokens : List Token} (here : token.kind.isSeparator = false)
    (later : WithoutSeparators tokens) : WithoutSeparators (token :: tokens) := by
  intro other member
  rcases List.mem_cons.1 member with rfl | tail
  · exact here
  · exact later other tail

end WithoutSeparators

/-- How many parentheses the lexer counts as open after some tokens. -/
def parensAfter (nesting : Nat) (tokens : List Token) : Nat :=
  tokens.foldl (fun nesting token => (Lexeme.token token.kind).nestingAfter nesting) nesting

@[simp]
theorem parensAfter_cons (nesting : Nat) (token : Token) (rest : List Token) :
    parensAfter nesting (token :: rest) =
      parensAfter ((Lexeme.token token.kind).nestingAfter nesting) rest :=
  rfl

theorem parensAfter_append (nesting : Nat) (tokens rest : List Token) :
    parensAfter nesting (tokens ++ rest) = parensAfter (parensAfter nesting tokens) rest :=
  List.foldl_append

/-- An expression closes the parentheses that it opens, and no others. -/
theorem Expr.Spells.parensAfter_eq {expr : Expr} {tokens : List Token}
    (spells : expr.Spells tokens) (nesting : Nat) : parensAfter nesting tokens = nesting := by
  induction spells generalizing nesting with
  | number value span => rfl
  | name name span => rfl
  | negation sign inner inductive_hypothesis => exact inductive_hypothesis nesting
  | binary op sign first second firstBalanced secondBalanced =>
    have counts : (Lexeme.token op.sign).nestingAfter nesting = nesting := by cases op <;> rfl
    rw [parensAfter_append, firstBalanced, parensAfter_cons, counts, secondBalanced]
  | group opening closing within inductive_hypothesis =>
    rw [parensAfter_cons, parensAfter_append, inductive_hypothesis]
    rfl

/-- The ways in which the reading of `input` can get stuck before the end of its first run. -/
inductive Blames (bounds : Bounds) (input : List Token) : Stuck → Prop where
  | unexpected {consumed rest : List Token} (expected : Expectation) (depth : Nat)
      (split : input = consumed ++ rest) (inside : WithoutSeparators consumed) :
      Blames bounds input (bounds.unexpected expected depth rest)
  | tooDeep {consumed rest : List Token} {token : Token} (depth : Nat)
      (split : input = consumed ++ token :: rest)
      (inside : WithoutSeparators (consumed ++ [token])) :
      Blames bounds input (bounds.tooDeep token.span depth rest)
  | unclosed {before after : List Token} (opening : Span) (depth : Nat)
      (split : input = before ++ ⟨.leftParen, opening⟩ :: after)
      (inside : WithoutSeparators input)
      (stays : ∀ nesting, parensAfter nesting (⟨.leftParen, opening⟩ :: after) = nesting + 1) :
      Blames bounds input ⟨.unclosedParen opening, [], depth⟩

namespace Blames

variable {bounds : Bounds} {input : List Token} {stuck : Stuck}

theorem append (blames : Blames bounds input stuck) {taken : List Token}
    (before : WithoutSeparators taken) : Blames bounds (taken ++ input) stuck := by
  cases blames with
  | unexpected expected depth split inside =>
    subst split
    exact .unexpected expected depth (List.append_assoc _ _ _).symm (before.append inside)
  | tooDeep depth split inside =>
    subst split
    exact .tooDeep depth (List.append_assoc _ _ _).symm (by
      rw [List.append_assoc]
      exact before.append inside)
  | unclosed opening depth split inside stays =>
    exact .unclosed opening depth (by rw [split, List.append_assoc]) (before.append inside) stays

theorem cons (blames : Blames bounds input stuck) {token : Token}
    (before : token.kind.isSeparator = false) : Blames bounds (token :: input) stuck :=
  blames.append (WithoutSeparators.cons before .nil)

end Blames

namespace Bounds

variable {bounds : Bounds}

theorem descend_eq_error {α : Type} (token : Token) {depth : Nat} {rest : List Token}
    {deeper : Except Stuck α} {stuck : Stuck} (usable : token.kind.isSeparator = false)
    (failed : bounds.descend token.span depth rest deeper = .error stuck) :
    Blames bounds (token :: rest) stuck ∨
      depth < bounds.limit ∧ deeper = .error stuck := by
  unfold descend at failed
  split at failed
  · exact Or.inr ⟨‹_›, failed⟩
  · rcases Except.error.inj failed with rfl
    exact Or.inl (.tooDeep depth (List.nil_append _).symm (WithoutSeparators.cons usable .nil))

theorem blames_unexpected_here (expected : Expectation) (depth : Nat) (input : List Token) :
    Blames bounds input (bounds.unexpected expected depth input) :=
  .unexpected expected depth (List.nil_append _).symm .nil

/-- What a group leaves open is the parenthesis before its inside. -/
theorem readClosing_blames {depth : Nat} {opening : Span} {inner : Expr}
    {taken rest : List Token} {stuck : Stuck} (spells : inner.Spells taken)
    (failed : bounds.readClosing depth opening inner rest = .error stuck) :
    Blames bounds (⟨.leftParen, opening⟩ :: (taken ++ rest)) stuck := by
  have usable : (⟨.leftParen, opening⟩ : Token).kind.isSeparator = false := rfl
  have inside : WithoutSeparators taken := spells.not_isSeparator
  cases rest with
  | nil =>
    rw [readClosing_nil] at failed
    rcases Except.error.inj failed with rfl
    apply Blames.unclosed opening depth (List.nil_append _).symm
    · exact WithoutSeparators.cons usable (inside.append .nil)
    · intro nesting
      rw [List.append_nil, parensAfter_cons, spells.parensAfter_eq]
      rfl
  | cons token rest =>
    by_cases closes : token.kind = .rightParen
    · rcases token with ⟨kind, closing⟩
      rcases closes with rfl
      rw [readClosing_paren] at failed
      exact nomatch failed
    · rw [bounds.readClosing_other closes] at failed
      rcases Except.error.inj failed with rfl
      exact ((blames_unexpected_here _ _ _).append inside).cons usable

theorem readSigned_cons_blames (token : Token) (rest : List Token)
    (signed : ∀ depth ≤ bounds.limit, ∀ stuck,
      bounds.readSigned depth rest = .error stuck → Blames bounds rest stuck)
    (chain : ∀ depth ≤ bounds.limit, ∀ stuck,
      bounds.readChain .sum depth rest = .error stuck → Blames bounds rest stuck)
    (depth : Nat) (_ : depth ≤ bounds.limit) (stuck : Stuck)
    (failed : bounds.readSigned depth (token :: rest) = .error stuck) :
    Blames bounds (token :: rest) stuck := by
  rcases operandStart_cases token with
    ⟨sign, rfl⟩ | ⟨value, span, rfl⟩ | ⟨name, span, rfl⟩ | ⟨opening, rfl⟩ | other
  · rw [readSigned_minus] at failed
    rcases descend_eq_error ⟨.minus, sign⟩ rfl failed with here | ⟨deeper, failed⟩
    · exact here
    · rcases bind_eq_error failed with failed | ⟨operand, _, failed⟩
      · exact (signed (depth + 1) deeper stuck failed).cons rfl
      · exact nomatch failed
  · rw [readSigned_number] at failed
    exact nomatch failed
  · rw [readSigned_name] at failed
    exact nomatch failed
  · rw [readSigned_paren] at failed
    rcases descend_eq_error ⟨.leftParen, opening⟩ rfl failed with
      here | ⟨deeper, failed⟩
    · exact here
    · rcases bind_eq_error failed with failed | ⟨⟨inner, left⟩, read, stays⟩
      · exact (chain (depth + 1) deeper stuck failed).cons rfl
      · rcases (productions_fit bounds rest).2.2.1 .sum (depth + 1) deeper inner left read with
          ⟨taken, rfl, fits, _⟩
        exact readClosing_blames fits.spells stays
  · rw [bounds.readSigned_other other] at failed
    rcases Except.error.inj failed with rfl
    exact blames_unexpected_here _ _ _

/-- The links after the left part of a chain, however deep that part has come. -/
def LinksBlame (bounds : Bounds) (level : Precedence) (input : List Token) : Prop :=
  ∀ depth ≤ bounds.limit, ∀ left stuck,
    bounds.readLinks level depth left input = .error stuck → Blames bounds input stuck

theorem readLinks_cons_blames {level : Precedence} (token : Token) (rest : List Token)
    (operand : ∀ depth ≤ bounds.limit, ∀ stuck,
      bounds.readOperand level depth rest = .error stuck → Blames bounds rest stuck)
    (links : ∀ later : List Token, later.length < rest.length → bounds.LinksBlame level later) :
    bounds.LinksBlame level (token :: rest) := by
  intro depth within left stuck failed
  cases found : level.operator? token.kind with
  | none =>
    rw [readLinks_stop _ found] at failed
    exact nomatch failed
  | some op =>
    have usable : token.kind.isSeparator = false := by
      rw [(Precedence.operator?_eq_some_iff.1 found).2]
      cases op <;> rfl
    rw [readLinks_more _ found] at failed
    rcases descend_eq_error token usable failed with here | ⟨deeper, failed⟩
    · exact here
    · rcases bind_eq_error failed with failed | ⟨⟨right, middle⟩, read, later⟩
      · exact (operand (depth + 1) deeper stuck failed).cons usable
      · have shorter := readOperand_length read
        rcases (productions_fit bounds rest).2.1 level (depth + 1) deeper right middle read with
          ⟨taken, rfl, fits, _⟩
        have blames := links middle shorter (depth + 1) deeper _ stuck later
        exact (blames.append fits.spells.not_isSeparator).cons usable

/-- Whatever production fails, the blame lies in the first run of its input. -/
theorem productions_blame (bounds : Bounds) (input : List Token) :
    (∀ depth ≤ bounds.limit, ∀ stuck,
      bounds.readSigned depth input = .error stuck → Blames bounds input stuck) ∧
    (∀ level, ∀ depth ≤ bounds.limit, ∀ stuck,
      bounds.readOperand level depth input = .error stuck → Blames bounds input stuck) ∧
    (∀ level, ∀ depth ≤ bounds.limit, ∀ stuck,
      bounds.readChain level depth input = .error stuck → Blames bounds input stuck) ∧
    ∀ level, bounds.LinksBlame level input := by
  apply production_induction
    (fun input => ∀ depth ≤ bounds.limit, ∀ stuck,
      bounds.readSigned depth input = .error stuck → Blames bounds input stuck)
    (fun level input => ∀ depth ≤ bounds.limit, ∀ stuck,
      bounds.readOperand level depth input = .error stuck → Blames bounds input stuck)
    (fun level input => ∀ depth ≤ bounds.limit, ∀ stuck,
      bounds.readChain level depth input = .error stuck → Blames bounds input stuck)
    (fun level input => bounds.LinksBlame level input)
  case signed_nil =>
    intro depth within stuck failed
    rw [readSigned_nil] at failed
    rcases Except.error.inj failed with rfl
    exact blames_unexpected_here _ _ _
  case signed_cons => exact readSigned_cons_blames
  case operand_sum =>
    intro input chain depth within stuck failed
    rw [readOperand_sum] at failed
    exact chain depth within stuck failed
  case operand_product =>
    intro input signed depth within stuck failed
    rw [readOperand_product] at failed
    exact signed depth within stuck failed
  case chain =>
    intro level input operand links depth within stuck failed
    rw [readChain_eq] at failed
    rcases bind_eq_error failed with failed | ⟨⟨first, middle⟩, read, later⟩
    · exact operand depth within stuck failed
    · have shorter := readOperand_length read
      rcases (productions_fit bounds input).2.1 level depth within first middle read with
        ⟨taken, rfl, fits, _⟩
      have blames := links middle shorter depth within _ stuck later
      exact blames.append fits.spells.not_isSeparator
  case links_nil =>
    intro level depth within left stuck failed
    rw [readLinks_nil] at failed
    exact nomatch failed
  case links_cons =>
    intro level token rest operand links
    exact readLinks_cons_blames token rest operand links

theorem readOpen_blames {input : List Token} {stuck : Stuck}
    (failed : bounds.readOpen input = .error stuck) : Blames bounds input stuck := by
  have chainBlames : ∀ later, bounds.readChain .sum 0 later = .error stuck →
      Blames bounds later stuck :=
    fun later => (productions_blame bounds later).2.2.1 .sum 0 (Nat.zero_le _) stuck
  rcases statementStart_cases input with
    bare | ⟨start, tail, rfl, unnamed⟩ | ⟨start, name, place, tail, rfl, unsigned⟩ |
      ⟨start, name, place, sign, tail, rfl⟩
  · rw [bounds.readOpen_bare bare] at failed
    rcases bind_eq_error failed with failed | ⟨value, _, failed⟩
    · exact chainBlames input failed
    · exact nomatch failed
  · rw [readOpen_let, bounds.readBinding_unnamed start unnamed] at failed
    rcases Except.error.inj failed with rfl
    exact (blames_unexpected_here _ _ _).cons rfl
  · rw [readOpen_let, bounds.readBinding_unsigned start place name unsigned] at failed
    rcases Except.error.inj failed with rfl
    exact ((blames_unexpected_here _ _ _).cons rfl).cons rfl
  · rw [readOpen_let, readBinding_value] at failed
    rcases bind_eq_error failed with failed | ⟨value, _, failed⟩
    · exact (((chainBlames tail failed).cons rfl).cons rfl).cons rfl
    · exact nomatch failed

theorem readStatement_blames {input : List Token} {stuck : Stuck}
    (failed : bounds.readStatement input = .error stuck) : Blames bounds input stuck := by
  rw [readStatement_eq] at failed
  rcases bind_eq_error failed with early | ⟨⟨statement, rest⟩, read, late⟩
  · exact readOpen_blames early
  · rcases readOpen_fits read with ⟨taken, rfl, fits⟩
    split at late
    · exact nomatch late
    · rcases Except.error.inj late with rfl
      exact (blames_unexpected_here _ _ _).append fits.spells.not_isSeparator

end Bounds

end StagePipeline.Program
