import StagePipeline.Program.Suffix

/-!
# Parser

A parser belongs to one source and can be run any number of times.  It reads
statement after statement; in strict mode the first error ends the parse, and a
recovering parse keeps the error, passes over the rest of that statement and goes
on at the next separator.  The errors of a recovering parse come in the order of
their offsets.
-/

namespace StagePipeline.Program

/-- How a parser treats malformed statements and deep expressions. -/
structure ParserOptions where
  /-- Whether malformed statements are passed over. -/
  recover : Bool := false
  /-- How many levels below its statement an operand may lie. -/
  maxDepth : Nat := 256
  deriving DecidableEq, Repr, Inhabited

/-- The statements that could be read, and the errors that were passed over. -/
structure ParseOutput where
  tree : SyntaxTree := {}
  errors : List SyntaxError := []
  deriving DecidableEq, Repr

namespace ParseOutput

/-- Whether nothing had to be passed over. -/
def isClean (output : ParseOutput) : Bool :=
  output.errors.isEmpty

end ParseOutput

/-- The tokens after the separators at the front. -/
def afterSeparators (input : List Token) : List Token :=
  input.dropWhile (·.kind.isSeparator)

/-- The tokens from the next separator on. -/
def fromSeparator (input : List Token) : List Token :=
  input.dropWhile (!·.kind.isSeparator)

/-- What a run over the statements of a token list found, and where and how deep it ended. -/
structure Reading where
  statements : List Stmt := []
  errors : List SyntaxError := []
  failure : Option SyntaxError := none
  rest : List Token := []
  depth : Nat := 0
  deriving DecidableEq, Repr

namespace Reading

/-- The reading that found a statement first. -/
def withStatement (statement : Stmt) (later : Reading) : Reading :=
  { later with statements := statement :: later.statements }

/-- The reading that passed over an error first. -/
def withError (error : SyntaxError) (later : Reading) : Reading :=
  { later with errors := error :: later.errors }

theorem fromSeparator_length_lt {bounds : Bounds} {input rest : List Token} {first : Token}
    {stuck : Stuck} (here : afterSeparators input = first :: rest)
    (failed : statement bounds (first :: rest) = .error stuck) :
    (fromSeparator stuck.rest).length < input.length := by
  have opens : first.kind.isSeparator = false := by
    have head := List.head?_dropWhile_not (·.kind.isSeparator) input
    rw [show List.dropWhile (·.kind.isSeparator) input = first :: rest from here] at head
    simpa using head
  have shorter : (first :: rest).length ≤ input.length := by
    rw [← here]
    exact (List.dropWhile_suffix _).length_le
  have leaves := statement_leavesSuffix bounds (first :: rest)
  rw [failed] at leaves
  have skipped : (fromSeparator stuck.rest).length ≤ stuck.rest.length :=
    (List.dropWhile_suffix _).length_le
  rcases List.suffix_cons_iff.1 leaves with whole | part
  · rw [whole]
    simp only [fromSeparator, List.dropWhile_cons, opens, Bool.not_false, if_true]
    have : (List.dropWhile (!·.kind.isSeparator) rest).length ≤ rest.length :=
      (List.dropWhile_suffix _).length_le
    simp only [List.length_cons] at shorter
    omega
  · have := part.length_le
    simp only [List.length_cons] at shorter
    omega

theorem rest_length_lt {bound : Nat} {input rest : List Token} {first : Token}
    (here : afterSeparators input = first :: rest) (taken : Taken Stmt bound)
    (within : bound = (first :: rest).length) : taken.rest.length < input.length := by
  have shorter : (first :: rest).length ≤ input.length := by
    rw [← here]
    exact (List.dropWhile_suffix _).length_le
  have := taken.within
  omega

/-- Read the statements of a token list, with the depth left by what came before. -/
def ofTokens (bounds : Bounds) (recover : Bool) (depth : Nat) (input : List Token) : Reading :=
  match here : afterSeparators input with
  | [] => { depth := depth }
  | first :: rest =>
    match failed : statement bounds (first :: rest) with
    | .ok taken =>
      have := rest_length_lt here taken rfl
      (ofTokens bounds recover 0 taken.rest).withStatement taken.value
    | .error stuck =>
      have := fromSeparator_length_lt here failed
      if recover then
        (ofTokens bounds recover stuck.depth (fromSeparator stuck.rest)).withError stuck.error
      else { failure := some stuck.error, rest := stuck.rest, depth := stuck.depth }
termination_by input.length

end Reading

/-- A parser bound to one source, with what its last run left behind. -/
structure Parser where
  source : SourceFile
  options : ParserOptions := {}
  signal : Option Interrupt := none
  tokens : List Token := []
  rest : List Token := []
  depth : Nat := 0
  deriving DecidableEq, Repr

namespace Parser

/-- The bounds within which the parser reads statements. -/
def bounds (parser : Parser) : Bounds where
  limit := parser.options.maxDepth
  finish := parser.source.size

/-- Parse the whole source, and give the parser as the run leaves it. -/
def parse (parser : Parser) : Except SyntaxError ParseOutput × Parser :=
  match Lexed.ofText? parser.signal parser.source.text with
  | .error reason => (.error (.interrupted reason), parser)
  | .ok lexed =>
    match parser.options.recover, lexed.errors with
    | false, error :: _ => (.error error, parser)
    | recover, errors =>
      let reading := Reading.ofTokens parser.bounds recover parser.depth lexed.tokens
      let left :=
        { parser with tokens := lexed.tokens, rest := reading.rest, depth := reading.depth }
      match reading.failure with
      | some error => (.error error, left)
      | none =>
        (.ok { tree := ⟨reading.statements⟩
               errors := (errors ++ reading.errors).mergeSort SyntaxError.notAfter }, left)

/-- The answers of several runs of one parser, in order. -/
def answers (parser : Parser) : Nat → List (Except SyntaxError ParseOutput)
  | 0 => []
  | times + 1 => parser.parse.1 :: parser.parse.2.answers times

end Parser

/-- Parse a source once with a fresh parser. -/
def parse (options : ParserOptions) (signal : Option Interrupt) (source : SourceFile) :
    Except SyntaxError ParseOutput :=
  (Parser.mk source options signal [] [] 0).parse.1

/-- Parse a source in strict mode without a signal. -/
def parseStrict (source : SourceFile) : Except SyntaxError SyntaxTree :=
  (parse {} none source).map (·.tree)

end StagePipeline.Program
