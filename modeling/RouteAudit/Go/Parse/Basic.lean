import RouteAudit.Go.Token

/-! # Parsing lexemes

A `Parser` takes lexemes from the front of its input and either yields a result or names the row at
which it got stuck. The phrases that contain one another (`Phrase`) are parsed by open recursion:
each rule is given a parser for the phrases inside it, a `Rules`, and the knot is tied with a bound
on the nesting where a whole file is parsed. -/

namespace RouteAudit.Go

/-- What is left to parse. -/
structure Input where
  lexemes : List Lexeme
  /-- The end of the last lexeme taken. -/
  stop : Nat := 0
  /-- Inside the header of a statement, where a brace opens the body and no literal. -/
  header : Bool := false
  /-- The number of lexemes in the whole file, which bounds every repetition. -/
  total : Nat := lexemes.length

/-- A parser; a failure is the row at which it got stuck. -/
abbrev Parser := StateT Input (Except Nat)

/-- The phrases that may contain one another. -/
inductive Phrase where
  | type
  | expression
  | unary
  | literalValue
  | block
  | statement
deriving DecidableEq, Repr

/-- Parsers for the phrases inside a rule. -/
abbrev Rules := Phrase → Parser Node

namespace Parser

variable {α : Type}

/-! ### Looking ahead -/

def next? : Parser (Option Token) := do return (← get).lexemes.head?.map (·.token)

def second? : Parser (Option Token) := do return ((← get).lexemes.drop 1).head?.map (·.token)

def nextIs (t : Token) : Parser Bool := do return (← next?) == some t

def nextIsSymbol (s : String) : Parser Bool := nextIs (.symbol s)

def nextIsKeyword (s : String) : Parser Bool := nextIs (.keyword s)

/-- Where the next lexeme starts, and its row. -/
structure Mark where
  offset : Nat
  row : Nat

def mark : Parser Mark := do
  let input ← get
  match input.lexemes with
  | l :: _ => return ⟨l.span.start, l.row⟩
  | [] => return ⟨input.stop, 0⟩

/-- Give up at the next lexeme. -/
def stuck : Parser α := do
  let m ← mark
  throw m.row

/-! ### Taking lexemes -/

/-- The next lexeme. -/
def take : Parser Lexeme := do
  let input ← get
  match input.lexemes with
  | [] => stuck
  | l :: rest =>
    let stop := if l.token = Token.lineEnd then input.stop else l.span.stop
    set { input with lexemes := rest, stop := stop }
    return l

/-- Take the next lexeme if it is this token. -/
def accept (t : Token) : Parser Bool := do
  if ← nextIs t then
    let _ ← take
    return true
  else return false

def acceptSymbol (s : String) : Parser Bool := accept (.symbol s)

def acceptKeyword (s : String) : Parser Bool := accept (.keyword s)

def expect (t : Token) : Parser Unit := do
  unless ← accept t do stuck

def expectSymbol (s : String) : Parser Unit := expect (.symbol s)

def expectKeyword (s : String) : Parser Unit := expect (.keyword s)

/-- A name. -/
def name : Parser Lexeme := do
  match ← next? with
  | some (.name _) => take
  | _ => stuck

/-- The end of a statement or declaration; it need not be written before a closing bracket. -/
def terminator : Parser Unit := do
  match ← next? with
  | some .lineEnd => let _ ← take
  | some (.symbol ";") => let _ ← take
  | some (.symbol ")") => return
  | some (.symbol "\x7d") => return
  | none => return
  | _ => stuck

/-! ### Alternatives and repetition -/

/-- The result, or nothing taken when the parser fails. -/
def attempt (p : Parser α) : Parser (Option α) := fun input =>
  match p input with
  | .ok (a, rest) => .ok (some a, rest)
  | .error _ => .ok (none, input)

/-- The first parser, or else the second. -/
def either (p q : Parser α) : Parser α := fun input =>
  match p input with
  | .ok r => .ok r
  | .error _ => q input

/-- Parse with the header flag set to a value. -/
def inside (header : Bool) (p : Parser α) : Parser α := do
  let before := (← get).header
  modify fun input => { input with header }
  let a ← p
  modify fun input => { input with header := before }
  return a

/-- Repeat up to a bound until a step yields nothing; `done` holds the results, the latest first. -/
def repeatOnto (step : Parser (Option α)) : Nat → List α → Parser (List α)
  | 0, done => return done.reverse
  | n + 1, done => do
    match ← step with
    | some a => repeatOnto step n (a :: done)
    | none => return done.reverse

/-- The results of a step until it yields nothing. -/
def collect (step : Parser (Option α)) : Parser (List α) := do
  repeatOnto step ((← get).total + 1) []

/-- One or more, with a symbol between them. -/
def separated (symbol : String) (p : Parser α) : Parser (List α) := do
  let first ← p
  let rest ← collect do
    if ← acceptSymbol symbol then return some (← p) else return none
  return first :: rest

/-- Any number up to a closing symbol, with commas between them and possibly one at the end. -/
def listed (close : String) (p : Parser α) : Parser (List α) := do
  let items ← collect do
    if ← nextIsSymbol close then return none
    let a ← p
    unless ← nextIsSymbol close do expectSymbol ","
    return some a
  expectSymbol close
  return items

/-- Any number up to a closing symbol, each ended as a statement is. -/
def terminated (close : String) (p : Parser α) : Parser (List α) := do
  let items ← collect do
    if ← nextIsSymbol close then return none
    let a ← p
    terminator
    return some a
  expectSymbol close
  return items

/-! ### Building nodes -/

/-- A node from a mark up to the last lexeme taken. -/
def node (kind : Kind) (m : Mark) (children : List Node) : Parser Node := do
  return .mk { kind, span := ⟨m.offset, (← get).stop⟩, row := m.row } children

/-- A node that starts with its first child. -/
def nodeFrom (kind : Kind) (first : Node) (children : List Node) : Parser Node :=
  node kind ⟨first.start, first.info.row⟩ children

end Parser

/-- The node of a single lexeme. -/
def Lexeme.leaf (l : Lexeme) (kind : Kind) : Node :=
  .mk { kind, span := l.span, row := l.row, text := l.token.spelling } []

/-- The node in a role of its parent. -/
def Node.as (n : Node) (r : Role) : Node := .mk { n.info with role := some r } n.children

/-- The node under another kind. -/
def Node.withKind (n : Node) (k : Kind) : Node := .mk { n.info with kind := k } n.children

end RouteAudit.Go
