import RouteAudit.Go.Lexer
import RouteAudit.Go.Parse.Statement

/-! # Files

`Phrase.parse` ties the rules together with a bound on the nesting, and `parseFile` reads a whole
source text into its tree. A file may be empty, and its package clause may be missing. -/

namespace RouteAudit.Go

namespace Phrase

/-- The rule of a phrase. -/
def rule (rules : Rules) : Phrase → Parser Node
  | type => Parser.type rules
  | expression => Parser.expression rules
  | unary => Parser.unary rules
  | literalValue => Parser.literalValue rules
  | block => Parser.block rules
  | statement => Parser.statement rules

/-- Parse a phrase that nests at most this deep. -/
def parse : (depth : Nat) → Rules
  | 0, _ => Parser.stuck
  | depth + 1, p => rule (parse depth) p

end Phrase

namespace Parser

/-- A declaration or statement at the top of a file. -/
def topLevel (rules : Rules) : Parser Node := do
  match ← next?, ← second? with
  | some (.keyword "package"), _ => packageClause
  | some (.keyword "import"), _ => declaration "import_declaration" "import" importSpec
  | some (.keyword "func"), some (.name _) => function rules
  | some (.keyword "func"), some (.symbol "(") => either (function rules) (rules .statement)
  | _, _ => rules .statement

/-- What ends a declaration at the top of a file. -/
def topTerminator : Parser Unit := do
  match ← next? with
  | some .lineEnd => let _ ← take
  | some (.symbol ";") => let _ ← take
  | none => return
  | _ => stuck

def sourceFile (rules : Rules) : Parser Node := do
  let items ← collect do
    match ← next? with
    | none => return none
    | _ =>
      let item ← topLevel rules
      topTerminator
      return some item
  match ← next? with
  | none => node (.other "source_file") ⟨0, 0⟩ items
  | some _ => stuck

/-- No chain of rules takes more steps than this without taking a lexeme. -/
def rulesPerLexeme : Nat := 8

/-- The tree of a list of lexemes. -/
def parseLexemes (lexemes : List Lexeme) : Except Nat Node :=
  let depth := rulesPerLexeme * (lexemes.length + 1)
  match sourceFile (Phrase.parse depth) { lexemes } with
  | .ok (root, _) => .ok root
  | .error row => .error row

end Parser

/-- The tree of a source text, or the line near which it does not parse. -/
def parseFile (bytes : List UInt8) : Except Nat Node :=
  match (lex bytes).bind Parser.parseLexemes with
  | .ok root => .ok root
  | .error row => .error (row + 1)

end RouteAudit.Go
