import StagePipeline.Proofs.Recovery
import StagePipeline.Proofs.TokenText

/-!
# Spans show what they stand for

Every node of a tree knows a span, and the text at that span is the node as it was
written.  `Expr.ShownBy` and `Stmt.ShownBy` say so for one node: a leaf is written
there and nothing else, a group stands between its parentheses, and the parts of a
node lie inside it, from left to right.  The spans of a node are joined from those of
its first and its last token, so all of this is carried from the tokens, which stand
in the text in order, through the ways in which expressions are put together.
-/

namespace StagePipeline

namespace Program

open Text

/-- The text at the span of the node is the node as it was written, around its parts. -/
def Expr.ShownBy (source : SourceFile) : Expr → Prop
  | .number value span => ∃ digits, source.slice? span = some (String.ofList digits) ∧
      digits ≠ [] ∧ (∀ digit ∈ digits, isDigit digit = true) ∧
      (placeValue digits : Int) = value.toInt
  | .name ident => source.slice? ident.span = some ident.name
  | .negation operand span => (∃ rest, source.slice? span = some ("-" ++ rest)) ∧
      operand.span.Within span
  | .binary _ left right span => span.start = left.span.start ∧ span.stop = right.span.stop ∧
      left.span.stop ≤ right.span.start ∧ left.span.Within span ∧ right.span.Within span
  | .group inner span => (∃ inside, source.slice? span = some ("(" ++ inside ++ ")")) ∧
      inner.span.Within span

/-- The text at the span of a binding starts with its word and has its name inside. -/
def Stmt.ShownBy (source : SourceFile) : Stmt → Prop
  | .binding name value span => (∃ rest, source.slice? span = some ("let" ++ rest)) ∧
      source.Covers name.span ∧ source.slice? name.span = some name.name ∧
      name.span.Within span ∧ value.span.Within span ∧ name.span.stop ≤ value.span.start
  | .bare _ => True

/-! ## Tokens that stand in a text -/

/-- Tokens from left to right, each of which is written at its span. -/
structure StandIn (source : SourceFile) (tokens : List Token) : Prop where
  inOrder : SpansInOrder source.size (tokens.map (·.span))
  written : ∀ token ∈ tokens, ∃ characters,
    StandsAt source.text.toList token.span characters ∧ token.kind.WrittenAs characters

namespace StandIn

variable {source : SourceFile} {tokens : List Token}

theorem ofText (source : SourceFile) : StandIn source (Lexed.ofText source.text).tokens where
  inOrder := Lexed.tokens_inOrder source.text
  written := fun _ member => Lexed.standsAt_of_mem_tokens member

theorem sublist (standIn : StandIn source tokens) {fewer : List Token}
    (part : fewer.Sublist tokens) : StandIn source fewer where
  inOrder := standIn.inOrder.sublist (part.map _)
  written := fun token member => standIn.written token (part.subset member)

theorem tail {token : Token} (standIn : StandIn source (token :: tokens)) :
    StandIn source tokens :=
  standIn.sublist (List.sublist_cons_self _ _)

theorem apart {before after : List Token} (standIn : StandIn source (before ++ after))
    {earlier later : Token} (first : earlier ∈ before) (second : later ∈ after) :
    earlier.span.stop ≤ later.span.start := by
  have inOrder := standIn.inOrder.apart
  rw [List.pairwise_map, List.pairwise_append] at inOrder
  exact inOrder.2.2 earlier first later second

theorem apart_cons {token : Token} (standIn : StandIn source (token :: tokens))
    {later : Token} (member : later ∈ tokens) : token.span.stop ≤ later.span.start := by
  have split : StandIn source ([token] ++ tokens) := standIn
  exact split.apart (List.mem_singleton_self token) member

theorem nonempty (standIn : StandIn source tokens) {token : Token} (member : token ∈ tokens) :
    token.span.start < token.span.stop :=
  standIn.inOrder.nonempty _ (List.mem_map_of_mem member)

end StandIn

/-- The span begins where one of the tokens begins and ends where one of them ends. -/
structure Reaching (tokens : List Token) (span : Span) : Prop where
  begins : ∃ first ∈ tokens, first.span.start = span.start
  ends : ∃ last ∈ tokens, last.span.stop = span.stop

namespace Reaching

variable {source : SourceFile} {span : Span}

theorem single (token : Token) : Reaching [token] token.span where
  begins := ⟨token, List.mem_singleton_self token, rfl⟩
  ends := ⟨token, List.mem_singleton_self token, rfl⟩

/-- The spans that two stretches of tokens reach are as far apart as the tokens are. -/
theorem apart {before after : List Token} {other : Span} (left : Reaching before span)
    (right : Reaching after other)
    (standIn : StandIn source (before ++ after)) : span.stop ≤ other.start := by
  rcases left.ends with ⟨last, inBefore, stops⟩
  rcases right.begins with ⟨first, inAfter, starts⟩
  rw [← stops, ← starts]
  exact standIn.apart inBefore inAfter

theorem join {before after : List Token} {other : Span} (left : Reaching before span)
    (right : Reaching after other) (apart : span.stop ≤ other.start) {tokens : List Token}
    (fromBefore : before.Sublist tokens) (fromAfter : after.Sublist tokens) :
    Reaching tokens (span.join other) := by
  rcases left.begins with ⟨first, inBefore, starts⟩
  rcases right.ends with ⟨last, inAfter, stops⟩
  rcases Span.join_of_apart apart with ⟨joinStarts, joinStops⟩
  exact ⟨⟨first, fromBefore.subset inBefore, starts.trans joinStarts.symm⟩,
    ⟨last, fromAfter.subset inAfter, stops.trans joinStops.symm⟩⟩

end Reaching

/-! ## Expressions that spell tokens of a text -/

theorem Expr.mem_subexpressions_self (expr : Expr) : expr ∈ expr.subexpressions := by
  cases expr <;> exact List.mem_cons_self

/-- What is known of an expression that spells some tokens of a text. -/
structure Expr.StandsIn (source : SourceFile) (tokens : List Token) (expr : Expr) : Prop where
  reaching : Reaching tokens expr.span
  stands : ∃ characters, StandsAt source.text.toList expr.span characters
  nodes : ∀ node ∈ expr.subexpressions, source.Covers node.span ∧ node.ShownBy source

namespace Expr.StandsIn

variable {source : SourceFile} {tokens : List Token}

theorem covers {expr : Expr} (stands : expr.StandsIn source tokens) : source.Covers expr.span :=
  (stands.nodes expr expr.mem_subexpressions_self).1

theorem number {value : Int64} {span : Span} (standIn : StandIn source [⟨.int value, span⟩]) :
    (Expr.number value span).StandsIn source [⟨.int value, span⟩] := by
  have member : (⟨.int value, span⟩ : Token) ∈ [⟨.int value, span⟩] := List.mem_singleton_self _
  rcases standIn.written _ member with ⟨digits, here, written⟩
  refine ⟨.single _, ⟨digits, here⟩, List.forall_mem_singleton.2 ⟨?_, ?_⟩⟩
  · exact here.covers (standIn.nonempty member)
  · exact ⟨digits, here.slice?, written⟩

theorem name {name : String} {span : Span} (standIn : StandIn source [⟨.ident name, span⟩]) :
    (Expr.name ⟨name, span⟩).StandsIn source [⟨.ident name, span⟩] := by
  have member : (⟨.ident name, span⟩ : Token) ∈ [⟨.ident name, span⟩] :=
    List.mem_singleton_self _
  rcases standIn.written _ member with ⟨letters, here, written⟩
  refine ⟨.single _, ⟨letters, here⟩, List.forall_mem_singleton.2 ⟨?_, ?_⟩⟩
  · exact here.covers (standIn.nonempty member)
  · exact here.slice?.trans (by rw [written, String.ofList_toList])

theorem negation {operand : Expr} {sign : Span}
    (standIn : StandIn source (⟨.minus, sign⟩ :: tokens))
    (inner : operand.StandsIn source tokens) :
    (Expr.negation operand (sign.join operand.span)).StandsIn source
      (⟨.minus, sign⟩ :: tokens) := by
  have apart : sign.stop ≤ operand.span.start :=
    (Reaching.single ⟨.minus, sign⟩).apart inner.reaching standIn
  rcases standIn.written _ List.mem_cons_self with ⟨_, here, rfl⟩
  rcases inner.stands with ⟨characters, there⟩
  rcases here.join there apart with ⟨middle, whole⟩
  refine ⟨(Reaching.single ⟨.minus, sign⟩).join inner.reaching apart ?_ ?_, ⟨_, whole⟩,
    List.forall_mem_cons.2 ⟨⟨whole.covers ?_, ⟨_, whole.slice?_append⟩, ?_⟩, inner.nodes⟩⟩
  · exact List.singleton_sublist.2 List.mem_cons_self
  · exact List.sublist_cons_self _ _
  · rw [(Span.join_of_apart apart).1, (Span.join_of_apart apart).2]
    exact Nat.lt_of_lt_of_le (standIn.nonempty List.mem_cons_self)
      (Nat.le_trans apart operand.span.ordered)
  · exact Span.within_join_right _ _

theorem group {inner : Expr} {opening closing : Span}
    (standIn : StandIn source (⟨.leftParen, opening⟩ :: (tokens ++ [⟨.rightParen, closing⟩])))
    (within : inner.StandsIn source tokens) :
    (Expr.group inner (opening.join closing)).StandsIn source
      (⟨.leftParen, opening⟩ :: (tokens ++ [⟨.rightParen, closing⟩])) := by
  let first : Token := ⟨.leftParen, opening⟩
  let last : Token := ⟨.rightParen, closing⟩
  have atEnd : last ∈ tokens ++ [last] := List.mem_append_right _ (List.mem_singleton_self _)
  have apart : opening.stop ≤ closing.start := standIn.apart_cons atEnd
  have inside : inner.span.Within (opening.join closing) := by
    have opens : opening.stop ≤ inner.span.start :=
      (Reaching.single first).apart within.reaching
        (standIn.sublist ((List.sublist_append_left _ _).cons_cons _))
    have closes : inner.span.stop ≤ closing.start :=
      within.reaching.apart (.single last) standIn.tail
    rw [Span.Within, (Span.join_of_apart apart).1, (Span.join_of_apart apart).2]
    exact ⟨Nat.le_trans opening.ordered opens, Nat.le_trans closes closing.ordered⟩
  rcases standIn.written _ List.mem_cons_self with ⟨_, here, rfl⟩
  rcases standIn.written _ (List.mem_cons_of_mem _ atEnd) with ⟨_, there, rfl⟩
  rcases here.join there apart with ⟨middle, whole⟩
  refine ⟨(Reaching.single first).join (.single last) apart ?_ ?_, ⟨_, whole⟩,
    List.forall_mem_cons.2 ⟨⟨whole.covers ?_, ⟨String.ofList middle, whole.slice?_append.trans ?_⟩,
      inside⟩, within.nodes⟩⟩
  · exact List.singleton_sublist.2 List.mem_cons_self
  · exact List.singleton_sublist.2 (List.mem_cons_of_mem _ atEnd)
  · rw [(Span.join_of_apart apart).1, (Span.join_of_apart apart).2]
    exact Nat.lt_of_lt_of_le (standIn.nonempty List.mem_cons_self)
      (Nat.le_trans apart closing.ordered)
  · rw [String.ofList_append, ← String.append_assoc]

theorem binary {left right : Expr} {before after : List Token} (op : BinaryOp) {sign : Span}
    (standIn : StandIn source (before ++ ⟨op.sign, sign⟩ :: after))
    (first : left.StandsIn source before) (second : right.StandsIn source after) :
    (Expr.binary op left right (left.span.join right.span)).StandsIn source
      (before ++ ⟨op.sign, sign⟩ :: after) := by
  have apart : left.span.stop ≤ right.span.start :=
    first.reaching.apart second.reaching
      (standIn.sublist ((List.sublist_cons_self _ _).append_left _))
  rcases first.stands with ⟨_, here⟩
  rcases second.stands with ⟨_, there⟩
  rcases here.join there apart with ⟨middle, whole⟩
  rcases Span.join_of_apart apart with ⟨starts, stops⟩
  refine ⟨first.reaching.join second.reaching apart ?_ ?_, ⟨_, whole⟩,
    List.forall_mem_cons.2 ⟨⟨whole.covers ?_, starts, stops, apart, ?_, ?_⟩, ?_⟩⟩
  · exact List.sublist_append_left _ _
  · exact (List.sublist_cons_self _ _).trans (List.sublist_append_right _ _)
  · rw [starts, stops]
    exact Nat.lt_of_lt_of_le first.covers.nonempty (Nat.le_trans apart right.span.ordered)
  · exact Span.within_join_left _ _
  · exact Span.within_join_right _ _
  · exact List.forall_mem_append.2 ⟨first.nodes, second.nodes⟩

end Expr.StandsIn

/-- An expression stands in a text where the tokens that it spells stand. -/
theorem Expr.Spells.standsIn {source : SourceFile} {expr : Expr} {tokens : List Token}
    (spells : expr.Spells tokens) (standIn : StandIn source tokens) :
    expr.StandsIn source tokens := by
  induction spells with
  | number value span => exact .number standIn
  | name name span => exact .name standIn
  | negation sign inner inductive_hypothesis =>
    exact .negation standIn (inductive_hypothesis standIn.tail)
  | binary op sign first second firstStands secondStands =>
    exact .binary op standIn
      (firstStands (standIn.sublist (List.sublist_append_left _ _)))
      (secondStands (standIn.sublist
        ((List.sublist_cons_self _ _).trans (List.sublist_append_right _ _))))
  | group opening closing within inductive_hypothesis =>
    exact .group standIn
      (inductive_hypothesis (standIn.tail.sublist (List.sublist_append_left _ _)))

/-! ## Statements that spell tokens of a text -/

/-- What is known of a statement that spells some tokens of a text. -/
structure Stmt.StandsIn (source : SourceFile) (tokens : List Token) (statement : Stmt) : Prop where
  reaching : Reaching tokens statement.span
  covers : source.Covers statement.span
  shown : statement.ShownBy source
  within : statement.expr.span.Within statement.span
  nodes : ∀ node ∈ statement.expr.subexpressions, source.Covers node.span ∧ node.ShownBy source

theorem Stmt.Spells.standsIn {source : SourceFile} {statement : Stmt} {tokens : List Token}
    (spells : statement.Spells tokens) (standIn : StandIn source tokens) :
    statement.StandsIn source tokens := by
  cases spells with
  | bare value =>
    have stands := value.standsIn standIn
    exact ⟨stands.reaching, stands.covers, trivial, ⟨Nat.le_refl _, Nat.le_refl _⟩, stands.nodes⟩
  | @binding value rest name start place sign bound =>
    let word : Token := ⟨.letWord, start⟩
    let ident : Token := ⟨.ident name, place⟩
    have inner := bound.standsIn standIn.tail.tail.tail
    have named : ident ∈ ident :: ⟨.equals, sign⟩ :: rest := List.mem_cons_self
    have afterWord : start.stop ≤ place.start := standIn.apart_cons named
    have beforeValue : place.stop ≤ value.span.start :=
      (Reaching.single ident).apart inner.reaching
        (standIn.tail.sublist ((List.sublist_cons_self _ _).cons_cons _))
    have apart : start.stop ≤ value.span.start :=
      Nat.le_trans afterWord (Nat.le_trans place.ordered beforeValue)
    rcases standIn.written word List.mem_cons_self with ⟨_, here, rfl⟩
    rcases standIn.written ident (List.mem_cons_of_mem _ named) with ⟨letters, there, written⟩
    rcases inner.stands with ⟨_, bound⟩
    rcases here.join bound apart with ⟨middle, whole⟩
    rcases Span.join_of_apart apart with ⟨starts, stops⟩
    refine ⟨(Reaching.single word).join inner.reaching apart ?_ ?_, whole.covers ?_,
      ⟨⟨_, whole.slice?_append⟩, there.covers ?_, there.slice?.trans ?_, ?_, ?_, beforeValue⟩,
      ?_, inner.nodes⟩
    · exact List.singleton_sublist.2 List.mem_cons_self
    · exact List.sublist_append_right [word, ident, ⟨.equals, sign⟩] rest
    · rw [starts, stops]
      exact Nat.lt_of_lt_of_le (standIn.nonempty List.mem_cons_self)
        (Nat.le_trans apart value.span.ordered)
    · exact standIn.nonempty (List.mem_cons_of_mem _ named)
    · rw [written, String.ofList_toList]
    · rw [Span.Within, starts, stops]
      exact ⟨Nat.le_trans start.ordered afterWord, Nat.le_trans beforeValue value.span.ordered⟩
    · exact Span.within_join_right _ _
    · exact Span.within_join_right _ _

/-! ## The order of expressions -/

namespace Expr

variable {source : SourceFile} {expr : Expr}

/-- Whatever lies inside an expression lies inside its span. -/
theorem within_of_mem_subexpressions
    (shown : ∀ node ∈ expr.subexpressions, node.ShownBy source) :
    ∀ node ∈ expr.subexpressions, node.span.Within expr.span := by
  have refl : ∀ span : Span, span.Within span := fun _ => ⟨Nat.le_refl _, Nat.le_refl _⟩
  induction expr with
  | number value span => exact List.forall_mem_singleton.2 (refl _)
  | name ident => exact List.forall_mem_singleton.2 (refl _)
  | negation operand span inductive_hypothesis =>
    rcases List.forall_mem_cons.1 shown with ⟨⟨_, inside⟩, later⟩
    refine List.forall_mem_cons.2 ⟨refl _, fun node member => ?_⟩
    exact (inductive_hypothesis later node member).trans inside
  | binary op left right span leftWithin rightWithin =>
    rcases List.forall_mem_cons.1 shown with ⟨⟨_, _, _, first, second⟩, later⟩
    rcases List.forall_mem_append.1 later with ⟨leftShown, rightShown⟩
    refine List.forall_mem_cons.2 ⟨refl _, List.forall_mem_append.2
      ⟨fun node member => ?_, fun node member => ?_⟩⟩
    · exact (leftWithin leftShown node member).trans first
    · exact (rightWithin rightShown node member).trans second
  | group inner span inductive_hypothesis =>
    rcases List.forall_mem_cons.1 shown with ⟨⟨_, inside⟩, later⟩
    refine List.forall_mem_cons.2 ⟨refl _, fun node member => ?_⟩
    exact (inductive_hypothesis later node member).trans inside

end Expr

/-! ## The statements of a source -/

section Source

variable {maxDepth : Nat} {source : SourceFile}

theorem standsIn_of_fits {bounds : Bounds} {run : Run} {statement : Stmt}
    (member : run ∈ runs (Lexed.ofText source.text).tokens)
    (fits : statement.Fits bounds run.body) : statement.StandsIn source run.body :=
  fits.spells.standsIn ((StandIn.ofText source).sublist
    ((List.sublist_append_left _ _).trans (suffix_of_mem_runs member).sublist))

theorem standsIn_of_mem_foundStatements {statement : Stmt}
    (member : statement ∈ foundStatements maxDepth source) :
    ∃ tokens, statement.StandsIn source tokens := by
  rcases fits_of_mem_foundStatements member with ⟨run, inRuns, fits⟩
  exact ⟨run.body, standsIn_of_fits inRuns fits⟩

/-- Each statement ends before the next begins. -/
theorem pairwise_foundStatements (maxDepth : Nat) (source : SourceFile) :
    (foundStatements maxDepth source).Pairwise fun earlier later =>
      earlier.span.stop ≤ later.span.start := by
  refine List.Pairwise.filterMap _ ?_ (List.Pairwise.and_mem.1 (pairwise_runs _))
  rintro earlier later ⟨member, otherMember, part⟩ first read second otherRead
  have stands := standsIn_of_fits member (Run.statement?_eq_some_iff.1 read)
  have otherStands := standsIn_of_fits otherMember (Run.statement?_eq_some_iff.1 otherRead)
  have split : (earlier.body ++ later.body).Sublist (earlier.body ++ earlier.after) :=
    ((List.sublist_append_left _ _).trans part.sublist).append_left _
  exact stands.reaching.apart otherStands.reaching
    ((StandIn.ofText source).sublist (split.trans (suffix_of_mem_runs member).sublist))

end Source

end Program

end StagePipeline
