import StagePipeline.Proofs.StrictParse

/-!
# Texts for given trees

To show that the parser returns a certain tree, a text must be found that it
reads so.  Tokens of one character, each with a blank after it, are given back
by the lexer as they are, whatever stands around them; so every tree over such
tokens has a text.
-/

namespace StagePipeline.Program

open Text

namespace TokenKind

/-- The character with which a token is written; numbers and names have only one here. -/
def glyph : TokenKind → Char
  | .plus => '+'
  | .minus => '-'
  | .star => '*'
  | .slash => '/'
  | .equals => '='
  | .semicolon => ';'
  | .leftParen => '('
  | .rightParen => ')'
  | _ => '1'

/-- The tokens that are given back when their character is read. -/
def IsWritable (kind : TokenKind) : Prop :=
  kind = .int 1 ∨ Lexeme.punctuation? kind.glyph = some kind

/-- The characters of some tokens, each of them with a blank after it. -/
def written (kinds : List TokenKind) : List Char :=
  kinds.flatMap fun kind => [kind.glyph, ' ']

/-- A token is cut off before the blank. -/
theorem IsWritable.recognise {kind : TokenKind} (writable : kind.IsWritable) (nesting : Nat)
    (rest : List Char) : Lexeme.recognise nesting kind.glyph (' ' :: rest) = (.token kind, 0) := by
  rcases writable with rfl | sign
  · rfl
  · cases kind with
    | int | ident | letWord | lineEnd => exact nomatch sign
    | _ => rfl

end TokenKind

open TokenKind

theorem Lexed.scan_glyph {kind : TokenKind} (writable : kind.IsWritable) (nesting offset : Nat)
    (rest : List Char) :
    ∃ span deeper, ∃ further, scan nesting offset (kind.glyph :: ' ' :: rest) =
      ⟨⟨kind, span⟩ :: (scan deeper further rest).tokens, (scan deeper further rest).errors⟩ := by
  have blank : ∀ deeper further,
      scan deeper further (' ' :: rest) = scan deeper (further + 1) rest := by
    intro deeper further
    rw [scan]
    rfl
  rw [scan, writable.recognise]
  simp only [List.take_zero, List.drop_zero]
  rw [blank]
  exact ⟨_, _, _, rfl⟩

/-- Written tokens come back from the lexer. -/
theorem Lexed.scan_written {kinds : List TokenKind} (writable : ∀ kind ∈ kinds, kind.IsWritable)
    (nesting offset : Nat) :
    (scan nesting offset (written kinds)).tokens.map (·.kind) = kinds ∧
      (scan nesting offset (written kinds)).errors = [] := by
  induction kinds generalizing nesting offset with
  | nil =>
    rw [show written [] = [] from rfl, scan]
    exact ⟨rfl, rfl⟩
  | cons kind kinds inductive_hypothesis =>
    rcases scan_glyph (writable kind List.mem_cons_self) nesting offset (written kinds) with
      ⟨span, deeper, further, step⟩
    rcases inductive_hypothesis (fun other member => writable other (List.mem_cons_of_mem _ member))
      deeper further with ⟨kindsLater, clean⟩
    rw [show written (kind :: kinds) = kind.glyph :: ' ' :: written kinds from rfl, step]
    exact ⟨congrArg (kind :: ·) kindsLater, clean⟩

/-- A tree over tokens of one character is the result of parsing some text, in both modes. -/
theorem exists_parse_of_writable {statement : Stmt} (nested : statement.LeftNested)
    (writable : ∀ kind ∈ statement.yield, kind.IsWritable) {maxDepth : Nat}
    (shallow : statement.expr.need ≤ maxDepth) (recover : Bool) :
    ∃ source placed, parse ⟨recover, maxDepth⟩ none source = .ok ⟨⟨[placed]⟩, []⟩ ∧
      placed.erase = statement.erase := by
  let source : SourceFile := ⟨"a.st", String.ofList (written statement.yield)⟩
  have text : Lexed.ofText source.text = Lexed.scan 0 0 (written statement.yield) :=
    congrArg (Lexed.scan 0 0) String.toList_ofList
  rcases Lexed.scan_written writable 0 0 with ⟨kinds, clean⟩
  rw [← text] at kinds clean
  rcases statement.exists_spells_of_yield kinds with ⟨placed, spells, same⟩
  have placedNested : placed.LeftNested := by
    rw [← Stmt.leftNested_erase, same, Stmt.leftNested_erase]
    exact nested
  have placedShallow : placed.expr.need ≤ maxDepth := by
    rw [← Expr.need_erase, ← Stmt.expr_erase, same, Stmt.expr_erase, Expr.need_erase]
    exact shallow
  exact ⟨source, placed, parse_of_fits clean ⟨spells, placedNested, placedShallow⟩ recover, same⟩

end StagePipeline.Program
