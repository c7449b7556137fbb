import StagePipeline.Proofs.CursorParser
import StagePipeline.Proofs.Recovery

/-!
# The productions with a cursor

A cursor that stands before the last tokens of the array sees the first of them and
never an entry that is not there.  From this each production with a cursor is shown to
follow the production of its name: it gives the same value and leaves the same tokens,
at the depth at which it began, or it fails with the same error, or the signal stops it
at some token of the same run.  It does not go wrong, since a level is left only where
one was entered, and it ends: from one token to the next there are at most six calls
inside each other, so that six of fuel for each token, and a few more, are enough.
-/

namespace StagePipeline.Program

namespace Checked

variable {α β : Type} {cursor left : Cursor}

/-! ## Running steps one after the other -/

theorem bind_of_ok {step : Checked α} {next : α → Checked β} {value : α}
    (run : step cursor = some (.ok value, left)) : (step >>= next) cursor = next value left := by
  change (step cursor).bind _ = _
  rw [run]
  rfl

theorem bind_of_error {step : Checked α} {next : α → Checked β} {error : SyntaxError}
    (run : step cursor = some (.error error, left)) :
    (step >>= next) cursor = some (.error error, left) := by
  change (step cursor).bind _ = _
  rw [run]
  rfl

theorem get_eq (cursor : Cursor) : (get : Checked Cursor) cursor = some (.ok cursor, cursor) :=
  rfl

theorem set_eq (cursor left : Cursor) :
    (set left : Checked PUnit) cursor = some (.ok ⟨⟩, left) :=
  rfl

theorem modify_eq (change : Cursor → Cursor) (cursor : Cursor) :
    (modify change : Checked PUnit) cursor = some (.ok ⟨⟩, change cursor) :=
  rfl

theorem require_eq (value : α) (cursor : Cursor) :
    require (some value) cursor = some (.ok value, cursor) :=
  rfl

theorem attempt_eq {step : Checked α} {result : Except SyntaxError α}
    (run : step cursor = some (result, left)) :
    attempt step cursor = some (.ok result, left) := by
  rw [attempt, run]
  rfl

end Checked

/-! ## Where the cursor stands -/

/-- The entries of the array for the tokens of a text that ends at an offset. -/
def Mark.array (tokens : List Token) (finish : Nat) : List Mark :=
  tokens.map Token.mark ++ [(none, Span.empty finish)]

/-- The cursor stands before `input`, the last of the tokens. -/
structure Cursor.Before (tokens : List Token) (finish : Nat) (cursor : Cursor)
    (input : List Token) : Prop where
  marks : cursor.marks = Mark.array tokens finish
  suffix : input <:+ tokens
  position : cursor.position + input.length = tokens.length

namespace Cursor

namespace Before

variable {tokens input rest : List Token} {finish : Nat} {cursor : Cursor} {token : Token}

theorem next (before : cursor.Before tokens finish (token :: rest)) :
    cursor.next.Before tokens finish rest where
  marks := before.marks
  suffix := (List.suffix_cons _ _).trans before.suffix
  position := by
    have position := before.position
    rw [List.length_cons] at position
    change cursor.position + 1 + rest.length = tokens.length
    omega

theorem atDepth (before : cursor.Before tokens finish input) (depth : Nat) :
    (cursor.atDepth depth).Before tokens finish input :=
  ⟨before.marks, before.suffix, before.position⟩

theorem polled (before : cursor.Before tokens finish input) :
    cursor.polled.Before tokens finish input :=
  ⟨before.marks, before.suffix, before.position⟩

end Before

end Cursor

/-! ## Single steps -/

namespace Checked

variable {tokens input rest : List Token} {bounds : Bounds} {cursor : Cursor} {token : Token}

/-- The array is never empty and its index never exceeded: the cursor sees the next token. -/
theorem peek_eq (before : cursor.Before tokens bounds.finish input) :
    peek cursor = some (.ok (bounds.next input), cursor) := by
  rcases before with ⟨marks, ⟨front, rfl⟩, position⟩
  -- The cursor has passed what stands before `input`, so clamping changes nothing.
  have reached : cursor.position = front.length := by simpa using position
  have length : cursor.marks.length = (front ++ input).length + 1 := by
    rw [marks, Mark.array]
    simp [Nat.add_assoc]
  have clamped : min cursor.position (front ++ input).length = front.length := by
    rw [reached, List.length_append]
    omega
  have entry : cursor.marks[front.length]? = some (bounds.next input) := by
    rw [marks, Mark.array, List.map_append, List.append_assoc,
      List.getElem?_append_right (by simp), List.length_map, Nat.sub_self]
    cases input <;> rfl
  rw [peek]
  refine (bind_of_ok (get_eq cursor)).trans ?_
  rw [length]
  refine (bind_of_ok (require_eq (front ++ input).length cursor)).trans ?_
  rw [clamped, entry]
  rfl

theorem advance_eq (before : cursor.Before tokens bounds.finish (token :: rest)) :
    advance cursor = some (.ok token.mark, cursor.next) := by
  rw [advance]
  refine (bind_of_ok (peek_eq before)).trans ?_
  rfl

theorem ascend_eq {depth : Nat} (raised : cursor.depth = depth + 1) :
    ascend cursor = some (.ok (), cursor.atDepth depth) := by
  rw [ascend]
  refine (bind_of_ok (get_eq cursor)).trans ?_
  rw [raised]
  rfl

/-- Joining two spans never gives a span that ends before it starts. -/
theorem cover_eq (left right : Span) (cursor : Cursor) :
    cover left right cursor = some (.ok (left.join right), cursor) := by
  have ordered : min left.start right.start ≤ max left.stop right.stop :=
    (left.join right).ordered
  rw [cover, Span.ofBounds?, dif_pos ordered]
  rfl

theorem poll_eq (setup : Setup) (cursor : Cursor) :
    poll setup cursor = match setup.signals cursor.polls with
      | some reason => some (.error (.interrupted reason), cursor.polled)
      | none => some (.ok (), cursor.polled) := by
  rw [poll]
  refine (bind_of_ok (get_eq cursor)).trans ?_
  refine (bind_of_ok (set_eq cursor cursor.polled)).trans ?_
  cases setup.signals cursor.polls <;> rfl

end Checked

/-! ## Steps that follow a production -/

/-- The tokens before `rest` hold no separator. -/
def Passes (input rest : List Token) : Prop :=
  ∃ taken, input = taken ++ rest ∧ WithoutSeparators taken

namespace Passes

theorem refl (input : List Token) : Passes input input :=
  ⟨[], rfl, .nil⟩

theorem cons {token : Token} (usable : token.kind.isSeparator = false) (rest : List Token) :
    Passes (token :: rest) rest :=
  ⟨[token], rfl, .cons usable .nil⟩

theorem trans {input middle rest : List Token} (first : Passes input middle)
    (second : Passes middle rest) : Passes input rest := by
  rcases first with ⟨taken, rfl, inside⟩
  rcases second with ⟨more, rfl, within⟩
  exact ⟨taken ++ more, (List.append_assoc _ _ _).symm, inside.append within⟩

theorem fromSeparator_eq {input rest : List Token} (passes : Passes input rest) :
    fromSeparator rest = fromSeparator input := by
  rcases passes with ⟨taken, rfl, inside⟩
  exact (List.dropWhile_append_of_pos fun token member => by simp [inside token member]).symm

theorem length_le {input rest : List Token} (passes : Passes input rest) :
    rest.length ≤ input.length := by
  rcases passes with ⟨taken, rfl, _⟩
  exact (List.suffix_append taken rest).length_le

end Passes

/-- The bounds within which the statements of a parse are read. -/
def Setup.bounds (setup : Setup) : Bounds :=
  .ofSource setup.options.maxDepth setup.source

/--
What running a step comes to, where a production gives `outcome` for the tokens
`input`: the same, at a depth of which something is known, or an interrupt.
-/
inductive Follows {α : Type} (setup : Setup) (tokens : List Token) (ends : Nat → Prop)
    (input : List Token) (outcome : Except Stuck (α × List Token)) :
    Option (Except SyntaxError α × Cursor) → Prop where
  | ok {value : α} {rest : List Token} {left : Cursor} (same : outcome = .ok (value, rest))
      (before : left.Before tokens setup.bounds.finish rest) (within : Passes input rest)
      (depth : ends left.depth) : Follows setup tokens ends input outcome (some (.ok value, left))
  | error {stuck : Stuck} {left : Cursor} (same : outcome = .error stuck)
      (before : left.Before tokens setup.bounds.finish stuck.rest)
      (within : Passes input stuck.rest) :
      Follows setup tokens ends input outcome (some (.error stuck.error, left))
  | interrupted {reason : Interrupt} {index : Nat} {rest : List Token} {left : Cursor}
      (signal : setup.signals index = some reason)
      (before : left.Before tokens setup.bounds.finish rest) (within : Passes input rest) :
      Follows setup tokens ends input outcome (some (.error (.interrupted reason), left))

namespace Follows

variable {α β : Type} {setup : Setup} {tokens input rest : List Token} {ends later : Nat → Prop}
  {cursor : Cursor} {outcome : Except Stuck (α × List Token)}
  {run : Option (Except SyntaxError α × Cursor)}

theorem widen (follows : Follows setup tokens ends rest outcome run) (within : Passes input rest) :
    Follows setup tokens ends input outcome run := by
  cases follows with
  | ok same before inner depth => exact .ok same before (within.trans inner) depth
  | error same before inner => exact .error same before (within.trans inner)
  | interrupted signal before inner => exact .interrupted signal before (within.trans inner)

theorem bind {step : Checked α} {next : α → Checked β}
    {goOn : α × List Token → Except Stuck (β × List Token)}
    (first : Follows setup tokens ends input outcome (step cursor))
    (second : ∀ value rest left, outcome = .ok (value, rest) →
      left.Before tokens setup.bounds.finish rest → ends left.depth →
      Follows setup tokens later rest (goOn (value, rest)) (next value left)) :
    Follows setup tokens later input (outcome.bind goOn) ((step >>= next) cursor) := by
  generalize result : step cursor = run at first
  cases first with
  | ok same before within depth =>
    rw [Checked.bind_of_ok result, same]
    exact (second _ _ _ same before depth).widen within
  | error same before within =>
    rw [Checked.bind_of_error result, same]
    exact .error rfl before within
  | interrupted signal before within =>
    rw [Checked.bind_of_error result]
    exact .interrupted signal before within

/-- A production that fails at its first token. -/
theorem stuck_here {error : SyntaxError} {depth : Nat}
    (before : cursor.Before tokens setup.bounds.finish input) :
    Follows setup tokens ends input (.error ⟨error, input, depth⟩ : Except Stuck (α × List Token))
      (some (.error error, cursor)) :=
  .error rfl before (.refl _)

theorem ok_here {value : α} (before : cursor.Before tokens setup.bounds.finish input)
    (depth : ends cursor.depth) :
    Follows setup tokens ends input (.ok (value, input)) (some (.ok value, cursor)) :=
  .ok rfl before (.refl _) depth

end Follows

namespace Checked

variable {α : Type} {setup : Setup} {tokens input rest : List Token} {ends : Nat → Prop}
  {cursor : Cursor}

theorem descend_eq (setup : Setup) (span : Span) (cursor : Cursor) :
    descend setup span cursor = match setup.signals cursor.polls with
      | some reason => some (.error (.interrupted reason), cursor.polled)
      | none =>
        if cursor.depth < setup.options.maxDepth then
          some (.ok (), cursor.polled.atDepth (cursor.depth + 1))
        else some (.error (.tooDeep setup.options.maxDepth span), cursor.polled) := by
  have polled := poll_eq setup cursor
  rw [descend]
  cases asked : setup.signals cursor.polls with
  | some reason =>
    rw [asked] at polled
    exact bind_of_error polled
  | none =>
    rw [asked] at polled
    refine (bind_of_ok polled).trans ((bind_of_ok (get_eq cursor.polled)).trans ?_)
    by_cases reached : setup.options.maxDepth ≤ cursor.polled.depth
    · rw [if_pos reached]
      exact (if_neg (Nat.not_lt_of_le reached)).symm
    · rw [if_neg reached]
      exact (if_pos (Nat.lt_of_not_le reached)).symm

/-- The counter is raised unless the limit is reached or the signal stops the parse. -/
theorem follows_descend {next : Unit → Checked α} {deeper : Except Stuck (α × List Token)}
    (span : Span) {depth : Nat} (here : cursor.depth = depth)
    (before : cursor.Before tokens setup.bounds.finish rest)
    (goesOn : ∀ left : Cursor, left.Before tokens setup.bounds.finish rest →
      left.depth = depth + 1 → Follows setup tokens ends rest deeper (next () left)) :
    Follows setup tokens ends rest (setup.bounds.descend span depth rest deeper)
      ((descend setup span >>= next) cursor) := by
  subst here
  have descended := descend_eq setup span cursor
  cases asked : setup.signals cursor.polls with
  | some reason =>
    rw [asked] at descended
    rw [bind_of_error descended]
    exact .interrupted asked before.polled (.refl _)
  | none =>
    rw [asked] at descended
    by_cases below : cursor.depth < setup.bounds.limit
    · rw [bind_of_ok (descended.trans (if_pos below)), Bounds.descend, if_pos below]
      exact goesOn _ (before.polled.atDepth _) rfl
    · rw [bind_of_error (descended.trans (if_neg below)), Bounds.descend, if_neg below]
      exact .stuck_here before.polled

/-! ## The productions -/

theorem follows_peek {next : Mark → Checked α} {outcome : Except Stuck (α × List Token)}
    (before : cursor.Before tokens setup.bounds.finish input)
    (goesOn : Follows setup tokens ends input outcome (next (setup.bounds.next input) cursor)) :
    Follows setup tokens ends input outcome ((peek >>= next) cursor) := by
  rwa [bind_of_ok (peek_eq before)]

theorem follows_advance {token : Token} {next : Mark → Checked α}
    {outcome : Except Stuck (α × List Token)} (usable : token.kind.isSeparator = false)
    (before : cursor.Before tokens setup.bounds.finish (token :: rest))
    (goesOn : Follows setup tokens ends rest outcome (next token.mark cursor.next)) :
    Follows setup tokens ends (token :: rest) outcome ((advance >>= next) cursor) := by
  rw [bind_of_ok (advance_eq before)]
  exact goesOn.widen (.cons usable rest)

/-- Going back up never takes the counter below zero. -/
theorem follows_ascend {depth : Nat} {next : Unit → Checked α}
    {outcome : Except Stuck (α × List Token)} (raised : cursor.depth = depth + 1)
    (goesOn : Follows setup tokens ends input outcome (next () (cursor.atDepth depth))) :
    Follows setup tokens ends input outcome ((ascend >>= next) cursor) := by
  rwa [bind_of_ok (ascend_eq raised)]

theorem follows_cover {left right : Span} {next : Span → Checked α}
    {outcome : Except Stuck (α × List Token)}
    (goesOn : Follows setup tokens ends input outcome (next (left.join right) cursor)) :
    Follows setup tokens ends input outcome ((cover left right >>= next) cursor) := by
  rwa [bind_of_ok (cover_eq left right cursor)]

/--
With six of fuel for each token and more than `calls` besides, the step reads what the
production reads from `input`, and leaves the depth as it was.
-/
def Reads (setup : Setup) (tokens input : List Token) (calls : Nat) (step : Nat → Checked α)
    (read : Nat → List Token → Except Stuck (α × List Token)) : Prop :=
  ∀ (fuel : Nat) (cursor : Cursor), 6 * input.length + calls < fuel →
    cursor.Before tokens setup.bounds.finish input →
    Follows setup tokens (· = cursor.depth) input (read cursor.depth input) (step fuel cursor)

/-- There is fuel for one call at least. -/
theorem Reads.of_succ {calls : Nat} {step : Nat → Checked α}
    {read : Nat → List Token → Except Stuck (α × List Token)}
    (reads : ∀ (fuel : Nat) (cursor : Cursor), 6 * input.length + calls ≤ fuel →
      cursor.Before tokens setup.bounds.finish input →
      Follows setup tokens (· = cursor.depth) input (read cursor.depth input)
        (step (fuel + 1) cursor)) :
    Reads setup tokens input calls step read := by
  intro fuel cursor enough before
  cases fuel with
  | zero => exact absurd enough (Nat.not_lt_zero _)
  | succ fuel => exact reads fuel cursor (Nat.le_of_lt_succ enough) before

/--
The calls besides those for the tokens that reading an operand of a level takes.  On the
way from a chain of sums to a leaf they are, from the outside, a chain, its operand, a
chain of products, its operand, a signed operand and the leaf.
-/
def operandCalls : Precedence → Nat
  | .product => 2
  | .sum => 4

theorem operandCalls_le (level : Precedence) : operandCalls level ≤ 4 := by
  cases level <;> decide

theorem follows_closeGroup {opening : Span} {inner : Expr} {depth : Nat}
    (here : cursor.depth = depth) (before : cursor.Before tokens setup.bounds.finish input) :
    Follows setup tokens (· = depth) input (setup.bounds.readClosing depth opening inner input)
      (closeGroup opening inner cursor) := by
  rw [closeGroup]
  refine follows_peek before ?_
  rcases input with _ | ⟨⟨kind, closing⟩, rest⟩
  · exact .stuck_here before
  · by_cases closes : kind = .rightParen
    · subst closes
      rw [Bounds.readClosing_paren]
      exact follows_advance rfl before (follows_cover (.ok_here before.next here))
    · rw [Bounds.readClosing_other _ closes]
      cases kind with
      | rightParen => exact absurd rfl closes
      | _ => exact .stuck_here before

theorem reads_unary_nil : Reads setup tokens [] 1 (unary setup) setup.bounds.readSigned := by
  refine .of_succ fun fuel cursor enough before => ?_
  cases fuel with
  | zero => exact absurd enough (Nat.not_succ_le_zero _)
  | succ fuel =>
    rw [unary]
    refine follows_peek before ?_
    rw [if_neg nofun, primary, Bounds.readSigned_nil]
    exact follows_peek before (.stuck_here before)

theorem reads_primary_cons {token : Token} (unsigned : token.kind ≠ .minus) (rest : List Token)
    (chainReads : Reads setup tokens rest 5 (chain setup .sum) (setup.bounds.readChain .sum)) :
    Reads setup tokens (token :: rest) 0 (primary setup) setup.bounds.readSigned := by
  refine .of_succ fun fuel cursor enough before => ?_
  rw [primary]
  refine follows_peek before ?_
  rcases Bounds.operandStart_cases token with
    ⟨sign, rfl⟩ | ⟨value, span, rfl⟩ | ⟨name, span, rfl⟩ | ⟨opening, rfl⟩ | other
  · exact absurd rfl unsigned
  · rw [Bounds.readSigned_number]
    exact follows_advance rfl before (.ok_here before.next rfl)
  · rw [Bounds.readSigned_name]
    exact follows_advance rfl before (.ok_here before.next rfl)
  · rw [Bounds.readSigned_paren]
    refine follows_advance rfl before (follows_descend opening rfl before.next ?_)
    intro left deeper depth
    rw [← depth]
    refine (chainReads fuel left enough deeper).bind ?_
    intro inner rest after _ afterBefore returned
    exact follows_ascend (returned.trans depth) (follows_closeGroup rfl (afterBefore.atDepth _))
  · rw [Bounds.readSigned_other _ other]
    rcases token with ⟨kind, span⟩
    cases kind with
    | int | ident | minus | leftParen => cases other
    | _ => exact .stuck_here before

theorem reads_unary_cons (token : Token) (rest : List Token)
    (unaryReads : Reads setup tokens rest 1 (unary setup) setup.bounds.readSigned)
    (chainReads : Reads setup tokens rest 5 (chain setup .sum) (setup.bounds.readChain .sum)) :
    Reads setup tokens (token :: rest) 1 (unary setup) setup.bounds.readSigned := by
  refine .of_succ fun fuel cursor enough before => ?_
  rw [unary]
  refine follows_peek before ?_
  by_cases signed : token.kind = .minus
  · rcases token with ⟨kind, sign⟩
    rcases signed with rfl
    rw [Bounds.readSigned_minus]
    refine follows_advance rfl before (follows_descend sign rfl before.next ?_)
    intro left deeper depth
    rw [← depth]
    have fewer : 6 * rest.length + 1 < fuel := by
      rw [List.length_cons] at enough
      omega
    refine (unaryReads fuel left fewer deeper).bind ?_
    intro operand rest after _ afterBefore returned
    exact follows_ascend (returned.trans depth)
      (follows_cover (.ok_here (afterBefore.atDepth _) rfl))
  · have other : (setup.bounds.next (token :: rest)).1 ≠ some .minus :=
      fun same => signed (Option.some.inj same)
    rw [if_neg other]
    exact reads_primary_cons signed rest chainReads fuel cursor enough before

/-- The links of a chain are read from any depth; the depth after them is the chain's concern. -/
def LinksRead (setup : Setup) (tokens : List Token) (level : Precedence) (input : List Token) :
    Prop :=
  ∀ (fuel : Nat) (cursor : Cursor) (left : Expr), 6 * input.length < fuel →
    cursor.Before tokens setup.bounds.finish input →
    Follows setup tokens (fun _ => True) input
      (setup.bounds.readLinks level cursor.depth left input) (links setup level left fuel cursor)

theorem follows_operatorNext {level : Precedence} {token : Token}
    {next : Option (BinaryOp × Span) → Checked α} {outcome : Except Stuck (α × List Token)}
    {op : BinaryOp} (found : level.operator? token.kind = some op)
    (before : cursor.Before tokens setup.bounds.finish (token :: rest))
    (goesOn : Follows setup tokens ends rest outcome (next (some (op, token.span)) cursor.next)) :
    Follows setup tokens ends (token :: rest) outcome ((operatorNext level >>= next) cursor) := by
  have operator : operatorNext level cursor = some (.ok (some (op, token.span)), cursor.next) := by
    rw [operatorNext]
    refine (bind_of_ok (peek_eq before)).trans ?_
    simp only [Bounds.next, Option.bind_some, found]
    exact (bind_of_ok (advance_eq before)).trans rfl
  have usable : token.kind.isSeparator = false := by
    rw [(Precedence.operator?_eq_some_iff.1 found).2]
    cases op <;> rfl
  rw [bind_of_ok operator]
  exact goesOn.widen (.cons usable rest)

theorem follows_noOperator {level : Precedence} {next : Option (BinaryOp × Span) → Checked α}
    {outcome : Except Stuck (α × List Token)}
    (none : (setup.bounds.next input).1.bind level.operator? = none)
    (before : cursor.Before tokens setup.bounds.finish input)
    (goesOn : Follows setup tokens ends input outcome (next .none cursor)) :
    Follows setup tokens ends input outcome ((operatorNext level >>= next) cursor) := by
  have operator : operatorNext level cursor = some (.ok .none, cursor) := by
    rw [operatorNext]
    refine (bind_of_ok (peek_eq before)).trans ?_
    rw [none]
    rfl
  rwa [bind_of_ok operator]

theorem linksRead_cons {level : Precedence} (token : Token) (rest : List Token)
    (operandReads : Reads setup tokens rest (operandCalls level) (operand setup level)
      (setup.bounds.readOperand level))
    (linksRead : ∀ later : List Token, later.length < rest.length →
      LinksRead setup tokens level later) :
    LinksRead setup tokens level (token :: rest) := by
  intro fuel cursor left enough before
  cases fuel with
  | zero => exact absurd enough (Nat.not_lt_zero _)
  | succ fuel =>
    rw [links]
    cases found : level.operator? token.kind with
    | none =>
      rw [Bounds.readLinks_stop _ found]
      exact follows_noOperator found before (.ok_here before trivial)
    | some op =>
      rw [Bounds.readLinks_more _ found]
      refine follows_operatorNext found before (follows_descend token.span rfl before.next ?_)
      intro deeper deeperBefore depth
      rw [← depth]
      have fewer : 6 * rest.length + 4 < fuel := by
        rw [List.length_cons] at enough
        omega
      have operandEnough : 6 * rest.length + operandCalls level < fuel :=
        Nat.lt_of_le_of_lt (Nat.add_le_add_left (operandCalls_le level) _) fewer
      refine (operandReads fuel deeper operandEnough deeperBefore).bind ?_
      intro right later after read afterBefore returned
      have less : later.length < rest.length := Bounds.readOperand_length read
      have linksEnough : 6 * later.length < fuel := by omega
      rw [← returned]
      exact follows_cover (linksRead later less fuel after _ linksEnough afterBefore)

theorem reads_chain {level : Precedence} {input : List Token}
    (operandReads : Reads setup tokens input (operandCalls level) (operand setup level)
      (setup.bounds.readOperand level))
    (linksRead : ∀ rest : List Token, rest.length < input.length →
      LinksRead setup tokens level rest) :
    Reads setup tokens input (operandCalls level + 1) (chain setup level)
      (setup.bounds.readChain level) := by
  refine .of_succ fun fuel cursor enough before => ?_
  rw [chain, bind_of_ok (get_eq cursor), Bounds.readChain_eq]
  refine (operandReads fuel cursor enough before).bind ?_
  intro first rest left read leftBefore returned
  have less : rest.length < input.length := Bounds.readOperand_length read
  have linksEnough : 6 * rest.length < fuel := by omega
  have whole := linksRead rest less fuel left first linksEnough leftBefore
  rw [returned] at whole
  generalize links setup level first fuel = step at whole ⊢
  generalize setup.bounds.readLinks level cursor.depth first rest = outcome at whole ⊢
  have same : outcome = outcome.bind .ok := by cases outcome <;> rfl
  rw [same]
  refine whole.bind ?_
  intro value later after _ afterBefore _
  exact .ok_here (afterBefore.atDepth _) rfl

/-- Every production with a cursor follows the production of its name. -/
theorem productions_read (setup : Setup) (tokens input : List Token) :
    Reads setup tokens input 1 (unary setup) setup.bounds.readSigned ∧
    (∀ level, Reads setup tokens input (operandCalls level) (operand setup level)
      (setup.bounds.readOperand level)) ∧
    (∀ level, Reads setup tokens input (operandCalls level + 1) (chain setup level)
      (setup.bounds.readChain level)) ∧
    ∀ level, LinksRead setup tokens level input := by
  apply production_induction
    (fun input => Reads setup tokens input 1 (unary setup) setup.bounds.readSigned)
    (fun level input => Reads setup tokens input (operandCalls level) (operand setup level)
      (setup.bounds.readOperand level))
    (fun level input => Reads setup tokens input (operandCalls level + 1) (chain setup level)
      (setup.bounds.readChain level))
    (fun level input => LinksRead setup tokens level input)
  case signed_nil => exact reads_unary_nil
  case signed_cons => exact reads_unary_cons
  case operand_sum =>
    refine fun input chainReads => .of_succ fun fuel cursor enough before => ?_
    rw [operand, Bounds.readOperand_sum]
    exact chainReads fuel cursor enough before
  case operand_product =>
    refine fun input unaryReads => .of_succ fun fuel cursor enough before => ?_
    rw [operand, Bounds.readOperand_product]
    exact unaryReads fuel cursor enough before
  case chain => exact fun level input => reads_chain
  case links_nil =>
    intro level fuel cursor left enough before
    cases fuel with
    | zero => exact absurd enough (Nat.not_lt_zero _)
    | succ fuel =>
      rw [links, Bounds.readLinks_nil]
      exact follows_noOperator rfl before (.ok_here before trivial)
  case links_cons => exact fun level => linksRead_cons

/-! ## Statements -/

theorem ident_eq {name : String} {place : Span}
    (before : cursor.Before tokens setup.bounds.finish (⟨.ident name, place⟩ :: rest)) :
    ident cursor = some (.ok ⟨name, place⟩, cursor.next) := by
  rw [ident]
  refine (bind_of_ok (peek_eq before)).trans ?_
  exact (bind_of_ok (advance_eq before)).trans rfl

theorem ident_eq_error (unnamed : ∀ name, Bounds.NotNext (.ident name) input)
    (before : cursor.Before tokens setup.bounds.finish input) :
    ident cursor = some (.error (setup.bounds.unexpected .name 0 input).error, cursor) := by
  rw [ident]
  refine (bind_of_ok (peek_eq before)).trans ?_
  rcases input with _ | ⟨⟨kind, span⟩, rest⟩
  · rfl
  · cases kind with
    | ident name => exact absurd rfl (unnamed name)
    | _ => rfl

theorem expect_eq {kind : TokenKind} {expected : Expectation} {span : Span}
    (before : cursor.Before tokens setup.bounds.finish (⟨kind, span⟩ :: rest)) :
    expect kind expected cursor = some (.ok span, cursor.next) := by
  rw [expect]
  refine (bind_of_ok (peek_eq before)).trans ?_
  rw [Bounds.next, if_pos rfl]
  exact (bind_of_ok (advance_eq before)).trans rfl

theorem expect_eq_error {kind : TokenKind} {expected : Expectation}
    (absent : Bounds.NotNext kind input)
    (before : cursor.Before tokens setup.bounds.finish input) :
    expect kind expected cursor =
      some (.error (setup.bounds.unexpected expected 0 input).error, cursor) := by
  have other : (setup.bounds.next input).1 ≠ some kind := by
    cases input with
    | nil => exact (Option.some_ne_none _).symm
    | cons token rest => exact absent
  rw [expect]
  refine (bind_of_ok (peek_eq before)).trans ?_
  rw [if_neg other]
  rfl

theorem follows_openStatement {fuel : Nat} (enough : 6 * input.length + 5 < fuel)
    (top : cursor.depth = 0) (before : cursor.Before tokens setup.bounds.finish input) :
    Follows setup tokens (fun _ => True) input (setup.bounds.readOpen input)
      (openStatement setup fuel cursor) := by
  have chainReads := fun rest => (productions_read setup tokens rest).2.2.1 .sum
  rw [openStatement]
  refine follows_peek before ?_
  rcases Bounds.statementStart_cases input with
    bare | ⟨start, rest, rfl, unnamed⟩ | ⟨start, name, place, rest, rfl, unsigned⟩ |
      ⟨start, name, place, sign, rest, rfl⟩
  · have other : (setup.bounds.next input).1 ≠ some .letWord := by
      cases input with
      | nil => exact (Option.some_ne_none _).symm
      | cons token rest => exact bare
    rw [if_neg other, Bounds.readOpen_bare _ bare, ← top]
    refine (chainReads input fuel cursor enough before).bind ?_
    intro value rest left _ leftBefore _
    exact .ok_here leftBefore trivial
  all_goals
    rw [Bounds.next, if_pos rfl, binding, Bounds.readOpen_let]
    refine follows_advance rfl before ?_
  · rw [bind_of_error (ident_eq_error unnamed before.next), Bounds.readBinding_unnamed _ _ unnamed]
    exact .stuck_here before.next
  · rw [bind_of_ok (ident_eq before.next),
      bind_of_error (expect_eq_error unsigned before.next.next),
      Bounds.readBinding_unsigned _ _ _ _ unsigned]
    exact .widen (.stuck_here before.next.next) (.cons rfl rest)
  · have fewer : 6 * rest.length + 5 < fuel := by
      simp only [List.length_cons] at enough
      omega
    rw [bind_of_ok (ident_eq before.next), bind_of_ok (expect_eq before.next.next),
      Bounds.readBinding_value, ← top]
    refine .widen ?_ (.trans (.cons rfl _) (.cons rfl rest))
    refine (chainReads rest fuel _ fewer before.next.next.next).bind ?_
    intro value later left _ leftBefore _
    exact follows_cover (.ok_here leftBefore trivial)

/-- A statement is read as from the list of its tokens, unless the signal stops it. -/
theorem follows_statement {fuel : Nat} (enough : 6 * input.length + 5 < fuel)
    (top : cursor.depth = 0) (before : cursor.Before tokens setup.bounds.finish input) :
    Follows setup tokens (fun _ => True) input (setup.bounds.readStatement input)
      (statement setup fuel cursor) := by
  rw [statement, Bounds.readStatement_eq]
  refine (follows_openStatement enough top before).bind ?_
  intro value rest left _ leftBefore _
  refine follows_peek leftBefore ?_
  have same : endsAt (setup.bounds.next rest).1 = endsStatement rest := by
    cases rest <;> rfl
  rw [same]
  dsimp only
  split
  · exact .ok_here leftBefore trivial
  · exact .stuck_here leftBefore

end Checked

end StagePipeline.Program
