import StagePipeline.Program.Parser

/-!
# The parser with a cursor

The productions have no step that can go wrong: they look at the front of a list,
count no level down and carry the order of a span in its type.  Here the parser is
given once more as it goes over an array of tokens with a cursor.  A position is
raised and clamped, the depth is raised in one function and lowered in others, spans
are made from two numbers, words are cut from the text at two offsets, and the signal
is asked again and again and may answer differently each time.  Wherever such a step
can go wrong the result is `none`.

Nothing here says that a loop or a recursion gets to an end.  Each of them has fuel, of
which every call takes some, and without fuel the result is `none` as well: what ends
has the same result however much fuel there is, if there is enough.

`CursorSafety` shows that nothing goes wrong and that little fuel is enough, and that
under a signal that stays as it is the answers are those of the parser.
-/

namespace StagePipeline.Program

/-- An entry of the token array; the last one, at the end of the text, has no kind. -/
abbrev Mark := Option TokenKind × Span

/-- The entry for a token. -/
def Token.mark (token : Token) : Mark :=
  (some token.kind, token.span)

/-- The token array, the place in it, the depth counter and how often the signal was asked. -/
structure Cursor where
  marks : List Mark := []
  position : Nat := 0
  depth : Nat := 0
  polls : Nat := 0
  deriving DecidableEq, Repr

namespace Cursor

/-- The cursor one entry further. -/
def next (cursor : Cursor) : Cursor :=
  { cursor with position := cursor.position + 1 }

/-- The cursor at another depth. -/
def atDepth (cursor : Cursor) (depth : Nat) : Cursor :=
  { cursor with depth := depth }

/-- The cursor after one more look at the signal. -/
def polled (cursor : Cursor) : Cursor :=
  { cursor with polls := cursor.polls + 1 }

/-- The cursor at the start of an array. -/
def atStart (cursor : Cursor) (marks : List Mark) : Cursor :=
  { cursor with marks := marks, position := 0 }

end Cursor

/-- A step with a cursor, which ends with a value or an error, goes wrong or has no fuel left. -/
abbrev Checked (α : Type) := ExceptT SyntaxError (StateT Cursor Option) α

/-- What a parse is given: its source and options, and what the signal answers each time. -/
structure Setup where
  source : SourceFile
  options : ParserOptions
  signals : Nat → Option Interrupt

/-- The number before a number, if there is one. -/
def predecessor? : Nat → Option Nat
  | 0 => none
  | number + 1 => some number

namespace Checked

/-! ## Steps that can go wrong -/

/-- The value of a step that must not go wrong. -/
def require {α : Type} : Option α → Checked α
  | some value => pure value
  | none => fun _ => none

/-- What a call without fuel comes to. -/
def exhausted {α : Type} : Checked α :=
  fun _ => none

/-- The result of a step, be it a value or an error. -/
def attempt {α : Type} (step : Checked α) : Checked (Except SyntaxError α) :=
  fun cursor => (step cursor).map fun (result, left) => (.ok result, left)

/-- Ask the signal, and stop if it says so. -/
def poll (setup : Setup) : Checked Unit := do
  let cursor ← get
  set cursor.polled
  match setup.signals cursor.polls with
  | some reason => throw (.interrupted reason)
  | none => return

/-- The entry at the cursor, or the last one if the cursor is past it. -/
def peek : Checked Mark := do
  let cursor ← get
  let last ← require (predecessor? cursor.marks.length)
  require cursor.marks[min cursor.position last]?

/-- The entry at the cursor, which is passed unless it is the end of the text. -/
def advance : Checked Mark := do
  let mark ← peek
  if mark.1.isSome then modify Cursor.next
  return mark

/-- Go one level deeper. -/
def descend (setup : Setup) (span : Span) : Checked Unit := do
  poll setup
  let cursor ← get
  if setup.options.maxDepth ≤ cursor.depth then
    throw (.tooDeep setup.options.maxDepth span)
  set (cursor.atDepth (cursor.depth + 1))

/-- Go back one level. -/
def ascend : Checked Unit := do
  let cursor ← get
  let depth ← require (predecessor? cursor.depth)
  set (cursor.atDepth depth)

/-- The span that covers two spans. -/
def cover (left right : Span) : Checked Span :=
  require (Span.ofBounds? (min left.start right.start) (max left.stop right.stop))

/-! ## The lexer -/

/-- The characters of a text with the offsets at which they begin. -/
def indexed (offset : Nat) : List Char → List (Nat × Char)
  | [] => []
  | character :: rest => (offset, character) :: indexed (offset + character.utf8Size) rest

/-- Pass over characters while they pass a test, and say where they end. -/
def passWhile (test : Char → Bool) (stop : Nat) :
    List (Nat × Char) → Nat × List (Nat × Char)
  | [] => (stop, [])
  | (start, character) :: rest =>
    if test character then passWhile test (start + character.utf8Size) rest
    else (stop, (start, character) :: rest)

/-- The text between two offsets. -/
def cut (source : SourceFile) (start stop : Nat) : Checked String := do
  let span ← require (Span.ofBounds? start stop)
  require (source.slice? span)

/-- What begins with a character, the offset at which it ends, and the characters after it. -/
def lexeme (source : SourceFile) (nesting start : Nat) (first : Char)
    (rest : List (Nat × Char)) : Checked (Lexeme × Nat × List (Nat × Char)) :=
  let after := start + first.utf8Size
  if first = '\n' then return (if nesting = 0 then .token .lineEnd else .blank, after, rest)
  else if Text.isBlank first then return (.blank, after, rest)
  else if first = '#' then return (.blank, passWhile (· != '\n') after rest)
  else match Lexeme.punctuation? first with
    | some kind => return (.token kind, after, rest)
    | none => do
      if Text.isDigit first then
        let (stop, later) := passWhile Text.isDigit (start + 1) rest
        let digits ← cut source start stop
        return (.ofDigits digits.toList, stop, later)
      else if Text.isWordStart first then
        let (stop, later) := passWhile Text.isWordPart after rest
        let word ← cut source start stop
        return (.ofWord word.toList, stop, later)
      else return (.stray first, after, rest)

/-- How many lexemes are scanned between two looks at the signal. -/
def pollInterval : Nat := 4096

/-- Ask the signal before the first lexeme and then at each interval. -/
def pollAt (setup : Setup) (scanned : Nat) : Checked Unit :=
  if scanned % pollInterval = 0 then poll setup else return

/-- Scan the characters that are left, with the tokens and errors found so far. -/
def scan (setup : Setup) (nesting scanned : Nat) (characters : List (Nat × Char))
    (marks : List Mark) (errors : List SyntaxError) :
    Nat → Checked (List Mark × List SyntaxError)
  | 0 => exhausted
  | fuel + 1 => do
    match characters with
    | [] => return (marks ++ [(none, Span.empty setup.source.size)], errors)
    | (start, first) :: rest =>
      pollAt setup scanned
      let (found, stop, later) ← lexeme setup.source nesting start first rest
      let span ← require (Span.ofBounds? start stop)
      scan setup (found.nestingAfter nesting) (scanned + 1) later
        (marks ++ ((found.token? span).map Token.mark).toList)
        (errors ++ (found.error? span).toList) fuel

/-! ## The productions -/

/-- The operation at the cursor, if it is one of the level. -/
def operatorNext (level : Precedence) : Checked (Option (BinaryOp × Span)) := do
  let mark ← peek
  match mark.1.bind level.operator? with
  | none => return none
  | some op =>
    let _ ← advance
    return some (op, mark.2)

/-- The number or the name that an entry is. -/
def leaf? (mark : Mark) : Option Expr :=
  match mark.1 with
  | some (.int value) => some (.number value mark.2)
  | some (.ident name) => some (.name ⟨name, mark.2⟩)
  | _ => none

/-- The end of a group whose inside has been read. -/
def closeGroup (opening : Span) (inner : Expr) : Checked Expr := do
  let mark ← peek
  match mark.1 with
  | some .rightParen =>
    let _ ← advance
    return .group inner (← cover opening mark.2)
  | none => throw (.unclosedParen opening)
  | found => throw (.unexpectedToken .closingParen found mark.2)

mutual

/-- A chain of operands, after which the depth is that before it. -/
def chain (setup : Setup) (level : Precedence) : Nat → Checked Expr
  | 0 => exhausted
  | fuel + 1 => do
    let outer ← get
    let first ← operand setup level fuel
    let whole ← links setup level first fuel
    modify (Cursor.atDepth · outer.depth)
    return whole

/-- The rest of a chain, whose part so far is `left`. -/
def links (setup : Setup) (level : Precedence) (left : Expr) : Nat → Checked Expr
  | 0 => exhausted
  | fuel + 1 => do
    match ← operatorNext level with
    | none => return left
    | some (op, sign) =>
      descend setup sign
      let right ← operand setup level fuel
      let span ← cover left.span right.span
      links setup level (.binary op left right span) fuel

/-- An operand of a chain. -/
def operand (setup : Setup) (level : Precedence) : Nat → Checked Expr
  | 0 => exhausted
  | fuel + 1 =>
    match level with
    | .sum => chain setup .product fuel
    | .product => unary setup fuel

/-- An operand with its signs. -/
def unary (setup : Setup) : Nat → Checked Expr
  | 0 => exhausted
  | fuel + 1 => do
    let mark ← peek
    if mark.1 = some .minus then
      let sign ← advance
      descend setup sign.2
      let operand ← unary setup fuel
      ascend
      return .negation operand (← cover sign.2 operand.span)
    else primary setup fuel

/-- A number, a name or a group. -/
def primary (setup : Setup) : Nat → Checked Expr
  | 0 => exhausted
  | fuel + 1 => do
    let mark ← peek
    match leaf? mark with
    | some leaf =>
      let _ ← advance
      return leaf
    | none =>
      if mark.1 = some .leftParen then
        let _ ← advance
        descend setup mark.2
        let inner ← chain setup .sum fuel
        ascend
        closeGroup mark.2 inner
      else throw (.unexpectedToken .expression mark.1 mark.2)

end

/-- The name at the cursor. -/
def ident : Checked Ident := do
  let mark ← peek
  match mark.1 with
  | some (.ident name) =>
    let _ ← advance
    return ⟨name, mark.2⟩
  | found => throw (.unexpectedToken .name found mark.2)

/-- The token at the cursor, which has to be of the given kind. -/
def expect (kind : TokenKind) (expected : Expectation) : Checked Span := do
  let mark ← peek
  if mark.1 = some kind then
    let _ ← advance
    return mark.2
  else throw (.unexpectedToken expected mark.1 mark.2)

/-- A binding, whose first word is at the cursor. -/
def binding (setup : Setup) (fuel : Nat) : Checked Stmt := do
  let start ← advance
  let name ← ident
  let _ ← expect .equals .equals
  let value ← chain setup .sum fuel
  return .binding name value (← cover start.2 value.span)

/-- Whether a statement may end at an entry. -/
def endsAt : Option TokenKind → Bool
  | some kind => kind.isSeparator
  | none => true

/-- A statement without regard to what follows it. -/
def openStatement (setup : Setup) (fuel : Nat) : Checked Stmt := do
  let mark ← peek
  if mark.1 = some .letWord then binding setup fuel
  else return .bare (← chain setup .sum fuel)

/-- A statement up to a separator or the end of the text. -/
def statement (setup : Setup) (fuel : Nat) : Checked Stmt := do
  let statement ← openStatement setup fuel
  let next ← peek
  if endsAt next.1 then return statement
  else throw (.unexpectedToken .endOfStatement next.1 next.2)

/-! ## The loop over the statements -/

/-- Pass over separators. -/
def skipSeparators : Nat → Checked Unit
  | 0 => exhausted
  | fuel + 1 => do
    let mark ← peek
    if mark.1.any TokenKind.isSeparator then
      let _ ← advance
      skipSeparators fuel

/-- Pass over what is left of a statement. -/
def synchronize : Nat → Checked Unit
  | 0 => exhausted
  | fuel + 1 => do
    let mark ← peek
    if endsAt mark.1 then return
    else
      let _ ← advance
      synchronize fuel

/-- Read the statements from the cursor on, with those and the errors found so far. -/
def statements (setup : Setup) (found : List Stmt) (errors : List SyntaxError) :
    Nat → Checked ParseOutput
  | 0 => exhausted
  | fuel + 1 => do
    skipSeparators fuel
    let mark ← peek
    if mark.1 = none then
      return { tree := ⟨found⟩, errors := errors.mergeSort SyntaxError.notAfter }
    poll setup
    modify (Cursor.atDepth · 0)
    match ← attempt (statement setup fuel) with
    | .ok statement => statements setup (found ++ [statement]) errors fuel
    | .error error =>
      if setup.options.recover then
        synchronize fuel
        statements setup found (errors ++ [error]) fuel
      else throw error

/-- Parse the whole source, whatever the cursor was left at. -/
def parse (setup : Setup) (fuel : Nat) : Checked ParseOutput := do
  let (marks, errors) ← scan setup 0 0 (indexed 0 setup.source.text.toList) [] [] fuel
  match setup.options.recover, errors with
  | false, error :: _ => throw error
  | _, errors =>
    modify (Cursor.atStart · marks)
    statements setup [] errors fuel

end Checked

end StagePipeline.Program
