import RouteAudit.Go.Node

/-! # Tokens of Go

A `Lexeme` is a token with the place it was read from. A line may end a statement: where it does,
the token `lineEnd` stands for the semicolon that is not written. -/

namespace RouteAudit.Go

/-- A token with its spelling. -/
inductive Token where
  | name (s : String)
  | keyword (s : String)
  | symbol (s : String)
  | number (s : String)
  | rune (s : String)
  | interpreted (s : String)
  | raw (s : String)
  | lineEnd
deriving DecidableEq, Repr

namespace Token

def keywords : List String :=
  ["break", "case", "chan", "const", "continue", "default", "defer", "else", "fallthrough", "for",
   "func", "go", "goto", "if", "import", "interface", "map", "package", "range", "return", "select",
   "struct", "switch", "type", "var"]

/-- The token of a word. -/
def ofWord (s : String) : Token := if keywords.contains s then keyword s else name s

/-- A line that ends after this token ends the statement. -/
def endsStatement : Token → Bool
  | name _ => true
  | number _ => true
  | rune _ => true
  | interpreted _ => true
  | raw _ => true
  | keyword s => s == "break" || s == "continue" || s == "fallthrough" || s == "return"
  | symbol s => s == "++" || s == "--" || s == ")" || s == "]" || s == "\x7d"
  | lineEnd => false

def spelling : Token → String
  | name s => s
  | keyword s => s
  | symbol s => s
  | number s => s
  | rune s => s
  | interpreted s => s
  | raw s => s
  | lineEnd => "\n"

end Token

/-- A token and where it stands. -/
structure Lexeme where
  token : Token
  span : Span
  row : Nat
deriving DecidableEq, Repr

end RouteAudit.Go
