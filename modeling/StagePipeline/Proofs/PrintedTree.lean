import StagePipeline.Proofs.LexedText
import StagePipeline.Proofs.Recovery

/-!
# What a printed tree says

A tree is printed in prefix form, with parentheses around every operation and no sign of a
group.  Printing forgets the spans and the groups and nothing else: trees with the same text
are equal besides these.  The text of an expression is read back from the left.  A number or
a name ends where no part of a word follows, and an operation ends at its own parenthesis, so
whatever stands behind an expression, the text alone says where the expression ends.

This needs the trees of a parser.  A name that a program could not contain, such as one with
a blank, or a number below zero could be printed like something else.
-/

namespace StagePipeline.Program

open Text

/-! ### Trees without groups -/

/-- The expression with what stands in parentheses in the place of its group. -/
def Expr.ungroup : Expr → Expr
  | .number value span => .number value span
  | .name ident => .name ident
  | .negation operand span => .negation operand.ungroup span
  | .binary op left right span => .binary op left.ungroup right.ungroup span
  | .group inner _ => inner.ungroup

/-- The statement without groups. -/
def Stmt.ungroup : Stmt → Stmt
  | .binding name value span => .binding name value.ungroup span
  | .bare expr => .bare expr.ungroup

/-- The program without groups. -/
def SyntaxTree.ungroup (tree : SyntaxTree) : SyntaxTree :=
  ⟨tree.statements.map Stmt.ungroup⟩

theorem Expr.render_ungroup (expr : Expr) : expr.ungroup.render = expr.render := by
  induction expr with
  | number value span => rfl
  | name ident => rfl
  | negation operand span inductive_hypothesis =>
    rw [ungroup, render, inductive_hypothesis, render]
  | binary op left right span leftSame rightSame =>
    rw [ungroup, render, leftSame, rightSame, render]
  | group inner span inductive_hypothesis => rw [ungroup, inductive_hypothesis, render]

theorem Expr.render_erase (expr : Expr) : expr.erase.render = expr.render := by
  induction expr with
  | number value span => rfl
  | name ident => rfl
  | negation operand span inductive_hypothesis =>
    rw [erase, render, inductive_hypothesis, render]
  | binary op left right span leftSame rightSame =>
    rw [erase, render, leftSame, rightSame, render]
  | group inner span inductive_hypothesis => rw [erase, render, inductive_hypothesis, render]

theorem Stmt.render_ungroup (statement : Stmt) : statement.ungroup.render = statement.render := by
  cases statement with
  | binding name value span => rw [ungroup, render, Expr.render_ungroup, render]
  | bare expr => exact expr.render_ungroup

theorem Stmt.render_erase (statement : Stmt) : statement.erase.render = statement.render := by
  cases statement with
  | binding name value span => rw [erase, render, Expr.render_erase, render]
  | bare expr => exact expr.render_erase

namespace SyntaxTree

theorem render_ungroup (tree : SyntaxTree) : tree.ungroup.render = tree.render := by
  simp only [render, ungroup, List.map_map, Function.comp_def, Stmt.render_ungroup]

theorem render_erase (tree : SyntaxTree) : tree.erase.render = tree.render := by
  simp only [render, erase, List.map_map, Function.comp_def, Stmt.render_erase]

end SyntaxTree

/-! ### The characters of a printed expression -/

/-- The decimal digits of a number that is not below zero. -/
theorem toList_toString {value : Int} (natural : 0 ≤ value) :
    (toString value).toList = Nat.toDigits 10 value.toNat := by
  rcases Int.eq_ofNat_of_zero_le natural with ⟨number, rfl⟩
  exact Nat.toList_repr

theorem fits_number_toString {value : Int} (natural : 0 ≤ value) :
    Spelling.number.Fits (toString value).toList := by
  have decimal : ∀ digit ∈ Nat.toDigits 10 value.toNat, isDigit digit = true :=
    fun _ => isDigit_of_mem_toDigits
  rw [toList_toString natural]
  rcases List.exists_cons_of_ne_nil (Nat.toDigits_ne_nil (n := value.toNat) (b := 10)) with
    ⟨first, rest, digits⟩
  rw [digits] at decimal ⊢
  rcases List.forall_mem_cons.1 decimal with ⟨opens, later⟩
  exact ⟨first, rest, rfl, opens, later⟩

theorem eq_of_toString_eq {left right : Int64} (natural : 0 ≤ left.toInt)
    (otherNatural : 0 ≤ right.toInt)
    (same : (toString left.toInt).toList = (toString right.toInt).toList) : left = right := by
  rw [toList_toString natural, toList_toString otherNatural] at same
  have numbers : left.toInt.toNat = right.toInt.toNat := Text.eq_of_toDigits_eq same
  exact Int64.toInt_inj.1 (by omega)

/-- The text of an operation with what stands behind its sign. -/
def BinaryOp.opening (op : BinaryOp) (operands : List Char) : List Char :=
  '(' :: (op.symbol.toList ++ ' ' :: operands)

/-- The sign of an operation can be read off its text. -/
theorem BinaryOp.eq_of_opening {op other : BinaryOp} {operands others : List Char}
    (same : op.opening operands = other.opening others) : op = other ∧ operands = others := by
  cases op <;> cases other
  all_goals
    rcases List.cons.inj (List.cons.inj same).2 with ⟨sign, later⟩
    first
    | exact ⟨rfl, (List.cons.inj later).2⟩
    | exact absurd sign (by decide)

namespace Expr

/-- A negation is opened with the sign of a difference. -/
theorem toList_render_negation (operand : Expr) (span : Span) (rest : List Char) :
    (negation operand span).render.toList ++ rest =
      BinaryOp.sub.opening (operand.render.toList ++ ')' :: rest) := by
  change ("(- " ++ operand.render ++ ")").toList ++ rest = _
  simp only [String.toList_append, List.append_assoc]
  rfl

theorem toList_render_binary (op : BinaryOp) (left right : Expr) (span : Span)
    (rest : List Char) :
    (binary op left right span).render.toList ++ rest =
      op.opening (left.render.toList ++ ' ' :: (right.render.toList ++ ')' :: rest)) := by
  change ("(" ++ op.symbol ++ " " ++ left.render ++ " " ++ right.render ++ ")").toList ++ rest = _
  simp only [String.toList_append, List.append_assoc]
  rfl

end Expr

/-! ### Reading a text back -/

/-- A word that stands in front of the text ends there. -/
def EndsWord (text : List Char) : Prop :=
  ∀ next ∈ text.head?, isWordPart next = false

theorem EndsWord.of_cons {first : Char} (noPart : isWordPart first = false) (rest : List Char) :
    EndsWord (first :: rest) := by
  intro next member
  rcases Option.some.inj (Option.mem_def.1 member) with rfl
  exact noPart

theorem endsWord_rightParen (rest : List Char) : EndsWord (')' :: rest) :=
  .of_cons (by decide +kernel) rest

theorem endsWord_space (rest : List Char) : EndsWord (' ' :: rest) :=
  .of_cons (by decide +kernel) rest

theorem endsWord_lineFeed (rest : List Char) : EndsWord ('\n' :: rest) :=
  .of_cons (by decide +kernel) rest

section Words

variable {spelling otherSpelling : Spelling} {characters others rest other : List Char}

theorem takeWhile_isWordPart (fits : spelling.Fits characters) (ends : EndsWord rest) :
    (characters ++ rest).takeWhile isWordPart = characters := by
  have parts : ∀ character ∈ characters, isWordPart character = true :=
    fun character member => spelling.isWordPart_of_goesOn character (fits.goesOn character member)
  have nothing : rest.takeWhile isWordPart = [] := by
    cases rest with
    | nil => rfl
    | cons next later => rw [List.takeWhile_cons_of_neg (by simp [ends next rfl])]
  rw [List.takeWhile_append_of_pos parts, nothing, List.append_nil]

/-- There is one way to cut off a number or a name at the front of a text. -/
theorem eq_of_words (fits : spelling.Fits characters) (otherFits : otherSpelling.Fits others)
    (ends : EndsWord rest) (otherEnds : EndsWord other)
    (same : characters ++ rest = others ++ other) : characters = others ∧ rest = other := by
  have first : characters = others := by
    rw [← takeWhile_isWordPart fits ends, same, takeWhile_isWordPart otherFits otherEnds]
  refine ⟨first, ?_⟩
  rw [first] at same
  exact List.append_cancel_left same

/-- Neither a number nor a name begins with a parenthesis. -/
theorem word_ne_leftParen (fits : spelling.Fits characters) :
    characters ++ rest ≠ '(' :: other := by
  rcases fits with ⟨first, later, rfl, opens, -⟩
  intro same
  rcases List.cons.inj same with ⟨rfl, -⟩
  have part := spelling.isWordPart_of_goesOn _ (spelling.goesOn_of_opens _ opens)
  exact absurd part (by decide +kernel)

end Words

namespace Expr

/-- A number or a name that can stand in a program. -/
inductive IsWord : Spelling → Expr → Prop
  | number {value : Int64} (span : Span) (natural : 0 ≤ value.toInt) :
    IsWord .number (.number value span)
  | name {ident : Ident} (letters : Spelling.word.Fits ident.name.toList) :
    IsWord .word (.name ident)

theorem IsWord.fits {spelling : Spelling} {expr : Expr} (word : IsWord spelling expr) :
    spelling.Fits expr.render.toList := by
  cases word with
  | number span natural => exact fits_number_toString natural
  | name letters => exact letters

theorem IsWord.erase_eq {spelling otherSpelling : Spelling} {left right : Expr}
    (word : IsWord spelling left) (other : IsWord otherSpelling right)
    (same : left.render.toList = right.render.toList) : left.erase = right.erase := by
  have fits := word.fits
  have otherFits := other.fits
  rw [same] at fits
  cases word with
  | number span natural =>
    cases other with
    | number place otherNatural => rw [erase, erase, eq_of_toString_eq natural otherNatural same]
    | name letters => exact absurd otherFits (Spelling.not_fits_word_of_number fits)
  | @name ident letters =>
    cases other with
    | number place natural => exact absurd fits (Spelling.not_fits_word_of_number otherFits)
    | @name found otherLetters =>
      have names : ident.name = found.name := String.toList_inj.1 same
      rw [erase, erase, names]

/-- An expression without groups whose numbers and names can stand in a program. -/
inductive Legible : Expr → Prop
  | word {spelling : Spelling} {expr : Expr} (word : IsWord spelling expr) : Legible expr
  | negation {operand : Expr} (span : Span) (inner : Legible operand) :
    Legible (.negation operand span)
  | binary {left right : Expr} (op : BinaryOp) (span : Span) (first : Legible left)
    (second : Legible right) : Legible (.binary op left right span)

/--
The text at the front says which expression stands there, up to spans, and where it ends.
-/
theorem Legible.eq_of_render {left right : Expr} (legible : left.Legible)
    (otherLegible : right.Legible) {rest other : List Char} (ends : EndsWord rest)
    (otherEnds : EndsWord other)
    (same : left.render.toList ++ rest = right.render.toList ++ other) :
    left.erase = right.erase ∧ rest = other := by
  induction legible generalizing right rest other with
  | word word =>
    cases otherLegible with
    | word otherWord =>
      rcases eq_of_words word.fits otherWord.fits ends otherEnds same with ⟨text, rests⟩
      exact ⟨word.erase_eq otherWord text, rests⟩
    | negation place otherInner =>
      rw [toList_render_negation] at same
      exact absurd same (word_ne_leftParen word.fits)
    | binary op place otherFirst otherSecond =>
      rw [toList_render_binary] at same
      exact absurd same (word_ne_leftParen word.fits)
  | negation span inner inductive_hypothesis =>
    rw [toList_render_negation] at same
    cases otherLegible with
    | word otherWord => exact absurd same.symm (word_ne_leftParen otherWord.fits)
    | negation place otherInner =>
      rw [toList_render_negation] at same
      rcases BinaryOp.eq_of_opening same with ⟨-, operands⟩
      rcases inductive_hypothesis otherInner (endsWord_rightParen _) (endsWord_rightParen _)
        operands with ⟨inners, rests⟩
      rw [erase, erase, inners]
      exact ⟨rfl, (List.cons.inj rests).2⟩
    | binary op place otherFirst otherSecond =>
      -- Behind the operand of a negation stands its parenthesis, and no blank.
      rw [toList_render_binary] at same
      rcases BinaryOp.eq_of_opening same with ⟨-, operands⟩
      rcases inductive_hypothesis otherFirst (endsWord_rightParen _) (endsWord_space _)
        operands with ⟨-, rests⟩
      exact absurd (List.cons.inj rests).1 (by decide)
  | binary op span first second firstSame secondSame =>
    rw [toList_render_binary] at same
    cases otherLegible with
    | word otherWord => exact absurd same.symm (word_ne_leftParen otherWord.fits)
    | negation place otherInner =>
      rw [toList_render_negation] at same
      rcases BinaryOp.eq_of_opening same with ⟨-, operands⟩
      rcases firstSame otherInner (endsWord_space _) (endsWord_rightParen _) operands with
        ⟨-, rests⟩
      exact absurd (List.cons.inj rests).1 (by decide)
    | binary otherOp place otherFirst otherSecond =>
      rw [toList_render_binary] at same
      rcases BinaryOp.eq_of_opening same with ⟨rfl, operands⟩
      rcases firstSame otherFirst (endsWord_space _) (endsWord_space _) operands with
        ⟨firsts, later⟩
      rcases secondSame otherSecond (endsWord_rightParen _) (endsWord_rightParen _)
        (List.cons.inj later).2 with ⟨seconds, rests⟩
      rw [erase, erase, firsts, seconds]
      exact ⟨rfl, (List.cons.inj rests).2⟩

/-- No expression is printed like a binding. -/
theorem Legible.render_ne_let {expr : Expr} (legible : expr.Legible) {rest other : List Char} :
    expr.render.toList ++ rest ≠ '(' :: 'l' :: other := by
  have signs : ∀ (op : BinaryOp) operands, op.opening operands ≠ '(' :: 'l' :: other := by
    intro op operands same
    cases op
    all_goals exact absurd (List.cons.inj (List.cons.inj same).2).1 (by decide)
  intro same
  cases legible with
  | word word => exact word_ne_leftParen word.fits same
  | negation span inner =>
    rw [toList_render_negation] at same
    exact signs .sub _ same
  | binary op span first second =>
    rw [toList_render_binary] at same
    exact signs op _ same

end Expr

namespace Stmt

theorem toList_render_binding (name : Ident) (value : Expr) (span : Span) (rest : List Char) :
    (binding name value span).render.toList ++ rest =
      '(' :: 'l' :: 'e' :: 't' :: ' ' ::
        (name.name.toList ++ ' ' :: (value.render.toList ++ ')' :: rest)) := by
  change ("(let " ++ name.name ++ " " ++ value.render ++ ")").toList ++ rest = _
  simp only [String.toList_append, List.append_assoc]
  rfl

/-- A statement without groups whose numbers and names can stand in a program. -/
inductive Legible : Stmt → Prop
  | binding {name : Ident} {value : Expr} (span : Span)
    (letters : Spelling.word.Fits name.name.toList) (bound : value.Legible) :
    Legible (.binding name value span)
  | bare {expr : Expr} (value : expr.Legible) : Legible (.bare expr)

theorem Legible.eq_of_render {left right : Stmt} (legible : left.Legible)
    (otherLegible : right.Legible) {rest other : List Char} (ends : EndsWord rest)
    (otherEnds : EndsWord other)
    (same : left.render.toList ++ rest = right.render.toList ++ other) :
    left.erase = right.erase ∧ rest = other := by
  cases legible with
  | binding span letters bound =>
    rw [toList_render_binding] at same
    cases otherLegible with
    | binding place otherLetters otherBound =>
      rw [toList_render_binding] at same
      simp only [List.cons.injEq, true_and] at same
      rcases eq_of_words letters otherLetters (endsWord_space _) (endsWord_space _) same with
        ⟨names, later⟩
      rcases bound.eq_of_render otherBound (endsWord_rightParen _) (endsWord_rightParen _)
        (List.cons.inj later).2 with ⟨values, rests⟩
      rw [erase, erase, values, String.toList_inj.1 names]
      exact ⟨rfl, (List.cons.inj rests).2⟩
    | bare otherValue => exact absurd same.symm otherValue.render_ne_let
  | bare value =>
    cases otherLegible with
    | binding place otherLetters otherBound =>
      rw [toList_render_binding] at same
      exact absurd same value.render_ne_let
    | bare otherValue =>
      rcases value.eq_of_render otherValue ends otherEnds same with ⟨exprs, rests⟩
      rw [erase, erase, exprs]
      exact ⟨rfl, rests⟩

end Stmt

namespace SyntaxTree

theorem toList_render_cons (statement : Stmt) (later : List Stmt) :
    (SyntaxTree.mk (statement :: later)).render.toList =
      statement.render.toList ++ '\n' :: (SyntaxTree.mk later).render.toList := by
  simp only [render, List.map_cons, String.join_cons, String.toList_append, List.append_assoc]
  rfl

theorem eq_of_render {left right : SyntaxTree}
    (legible : ∀ statement ∈ left.statements, statement.Legible)
    (otherLegible : ∀ statement ∈ right.statements, statement.Legible)
    (same : left.render.toList = right.render.toList) : left.erase = right.erase := by
  rcases left with ⟨statements⟩
  rcases right with ⟨others⟩
  apply congrArg SyntaxTree.mk
  induction statements generalizing others with
  | nil =>
    cases others with
    | nil => rfl
    | cons statement later =>
      rw [toList_render_cons] at same
      exact absurd same.symm (List.append_ne_nil_of_right_ne_nil _ (List.cons_ne_nil _ _))
  | cons first rest inductive_hypothesis =>
    cases others with
    | nil =>
      rw [toList_render_cons] at same
      exact absurd same (List.append_ne_nil_of_right_ne_nil _ (List.cons_ne_nil _ _))
    | cons statement later =>
      rcases List.forall_mem_cons.1 legible with ⟨here, behind⟩
      rcases List.forall_mem_cons.1 otherLegible with ⟨there, otherBehind⟩
      rw [toList_render_cons, toList_render_cons] at same
      rcases here.eq_of_render there (endsWord_lineFeed _) (endsWord_lineFeed _) same with
        ⟨firsts, lines⟩
      rw [List.map_cons, List.map_cons, firsts,
        inductive_hypothesis behind later otherBehind (List.cons.inj lines).2]

end SyntaxTree

/-! ### Parsed trees -/

/-- What is written in a text can stand in a program. -/
theorem Expr.Spells.legible {text : String} {expr : Expr} {tokens : List Token}
    (spells : expr.Spells tokens) (written : ∀ token ∈ tokens, token ∈ (Lexed.ofText text).tokens) :
    expr.ungroup.Legible := by
  induction spells with
  | number value span =>
    rcases Lexed.int_mem_tokens_iff.1 (written _ (List.mem_singleton_self _)) with
      ⟨digits, -, -, places⟩
    exact .word (.number span (by omega))
  | name name span =>
    rcases Lexed.ident_mem_tokens_iff.1 (written _ (List.mem_singleton_self _)) with ⟨-, word⟩
    exact .word (.name word.run.fits)
  | negation sign inner inductive_hypothesis =>
    exact .negation _ (inductive_hypothesis fun token member =>
      written token (List.mem_cons_of_mem _ member))
  | binary op sign first second firstLegible secondLegible =>
    rcases List.forall_mem_append.1 written with ⟨inFront, behind⟩
    exact .binary op _ (firstLegible inFront)
      (secondLegible (List.forall_mem_cons.1 behind).2)
  | group opening closing within inductive_hypothesis =>
    rcases List.forall_mem_cons.1 written with ⟨-, inside⟩
    exact inductive_hypothesis (List.forall_mem_append.1 inside).1

theorem Stmt.Spells.legible {text : String} {statement : Stmt} {tokens : List Token}
    (spells : statement.Spells tokens)
    (written : ∀ token ∈ tokens, token ∈ (Lexed.ofText text).tokens) :
    statement.ungroup.Legible := by
  cases spells with
  | bare value => exact .bare (value.legible written)
  | binding name start place sign bound =>
    rcases List.forall_mem_cons.1 written with ⟨-, behindWord⟩
    rcases List.forall_mem_cons.1 behindWord with ⟨named, behindName⟩
    rcases Lexed.ident_mem_tokens_iff.1 named with ⟨-, word⟩
    exact .binding _ word.run.fits (bound.legible (List.forall_mem_cons.1 behindName).2)

theorem Parser.legible_of_parse {parser : Parser} {output : ParseOutput}
    (parsed : parser.parse.1 = .ok output) :
    ∀ statement ∈ output.tree.ungroup.statements, statement.Legible := by
  rw [Parser.parse_fst] at parsed
  refine List.forall_mem_map.2 fun statement member => ?_
  rcases fits_of_parse parsed statement member with ⟨run, inRuns, fits⟩
  have written : ∀ token ∈ run.body, token ∈ (Lexed.ofText parser.source.text).tokens :=
    fun _ inBody => (suffix_of_mem_runs inRuns).subset (List.mem_append_left _ inBody)
  exact fits.spells.legible written

/--
The printed tree says which program was parsed.  Two trees that parsers return, for any texts
and with any options, are printed alike exactly if they are equal once their spans are
forgotten and each group gives way to what stands in it.
-/
theorem parsed_trees_render_eq_iff {parser other : Parser} {output found : ParseOutput}
    (parsed : parser.parse.1 = .ok output) (otherParsed : other.parse.1 = .ok found) :
    output.tree.render = found.tree.render ↔
      output.tree.ungroup.erase = found.tree.ungroup.erase := by
  constructor
  · intro same
    apply SyntaxTree.eq_of_render (Parser.legible_of_parse parsed)
      (Parser.legible_of_parse otherParsed)
    rw [SyntaxTree.render_ungroup, SyntaxTree.render_ungroup, same]
  · intro same
    rw [← output.tree.render_ungroup, ← SyntaxTree.render_erase, same, SyntaxTree.render_erase,
      SyntaxTree.render_ungroup]

/-- Two differences with parentheses in other places, one of them beside an error. -/
theorem parsed_trees_render_eq_of_differences :
    let parser : Parser := { source := ⟨"a.st", "let ä = (1) - -b"⟩ }
    let other : Parser := { source := ⟨"b.st", ")\nlet ä=1-(-b)"⟩, options := ⟨true, 4⟩ }
    ∃ output found, parser.parse.1 = .ok output ∧ other.parse.1 = .ok found ∧
      output.tree.render = "(let ä (- 1 (- b)))\n" ∧ found.errors.length = 1 ∧
      output.tree.ungroup.erase = found.tree.ungroup.erase := by
  intro parser other
  have clean : (Lexed.ofText parser.source.text).errors = [] := by decide +kernel
  have wellFormed : malformedRuns 256 parser.source = [] := by decide +kernel
  have parsed : parser.parse.1 = .ok ⟨⟨foundStatements 256 parser.source⟩, []⟩ :=
    parser.parse_fst.trans ((parse_strict_eq_ok_iff clean).2 ⟨wellFormed, rfl⟩)
  have otherParsed := other.parse_fst.trans (parse_recovering 4 other.source)
  have printed : (⟨foundStatements 256 parser.source⟩ : SyntaxTree).render =
      "(let ä (- 1 (- b)))\n" := by decide +kernel
  have otherPrinted : (⟨foundStatements 4 other.source⟩ : SyntaxTree).render =
      "(let ä (- 1 (- b)))\n" := by decide +kernel
  have wrong : (Lexed.ofText other.source.text).errors.length +
      (malformedRuns 4 other.source).length = 1 := by decide +kernel
  refine ⟨_, _, parsed, otherParsed, printed, ?_, ?_⟩
  · rw [List.length_mergeSort, List.length_append, wrong]
  · exact (parsed_trees_render_eq_iff parsed otherParsed).1 (printed.trans otherPrinted.symm)

end StagePipeline.Program
