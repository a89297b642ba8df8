import RouteAudit.Go.Parse.Declaration

/-! # Statements

The rules for statements and blocks. In the header of `if`, `for` and `switch` a brace opens the
body. The clause of a `range`, a receive in a `select` and the name given by a type switch are no
assignments. -/

namespace RouteAudit.Go

namespace Kind

def expressionStatement : Kind := .other "expression_statement"
def rangeClause : Kind := .other "range_clause"

end Kind

namespace Parser

def assignmentOperators : List String :=
  ["=", "+=", "-=", "*=", "/=", "%=", "&=", "|=", "^=", "<<=", ">>=", "&^="]

/-- The right side of an assignment whose left side and sign have been read. -/
def assigned (rules : Rules) (left : Node) (sign : String) : Parser Node := do
  if (sign == "=" || sign == ":=") && (← nextIsKeyword "range") then
    let _ ← take
    let e ← rules .expression
    nodeFrom .rangeClause left [left.as .left, e.as .right]
  else
    let right ← expressionList rules
    let guarded := right.children.any fun c => c.kind == .switchGuard
    let kind : Kind :=
      if guarded then .other "type_switch_header"
      else if sign == ":=" then .shortVar
      else .assignment
    nodeFrom kind left [left.as .left, right.as .right]

/-- A statement without a keyword. -/
def simple (rules : Rules) : Parser Node := do
  let left ← expressionList rules
  let alone : Parser Node :=
    match left.children with
    | [e] => pure e
    | _ => stuck
  match ← next? with
  | some (.symbol ":=") => let _ ← take; assigned rules left ":="
  | some (.symbol "<-") =>
    let channel ← alone
    let _ ← take
    let e ← rules .expression
    nodeFrom (.other "send_statement") left [channel.as (.other "channel"), e.as .value]
  | some (.symbol "++") => let e ← alone; let _ ← take; nodeFrom (.other "inc_statement") left [e]
  | some (.symbol "--") => let e ← alone; let _ ← take; nodeFrom (.other "dec_statement") left [e]
  | some (.symbol s) =>
    if assignmentOperators.contains s then
      let _ ← take
      assigned rules left s
    else nodeFrom .expressionStatement left [← alone]
  | _ => nodeFrom .expressionStatement left [← alone]

/-- A simple statement that is no clause of a `range`. -/
def plainSimple (rules : Rules) : Parser Node := do
  let s ← simple rules
  if s.kind = .rangeClause then stuck else return s

/-- A condition: a statement that is just an expression. -/
def condition (s : Node) : Parser Node :=
  if s.kind = .expressionStatement then pure s else stuck

/-! ### Lists and blocks -/

/-- Statements up to a closing brace or the next clause. -/
def statements (rules : Rules) : Parser (List Node) := collect do
  match ← next? with
  | none => return none
  | some (.symbol "\x7d") => return none
  | some (.keyword "case") => return none
  | some (.keyword "default") => return none
  | _ =>
    let s ← rules .statement
    terminator
    return some s

def block (rules : Rules) : Parser Node := inside false do
  let m ← mark
  expectSymbol "\x7b"
  let ss ← statements rules
  expectSymbol "\x7d"
  node (.other "block") m ss

/-! ### Conditionals and loops -/

def ifStatement (rules : Rules) : Parser Node := do
  let m ← mark
  expectKeyword "if"
  let header ← inside true do
    let first ← plainSimple rules
    if ← acceptSymbol ";" then
      let second ← plainSimple rules
      return [first, ← condition second]
    else return [← condition first]
  let body ← rules .block
  let otherwise ←
    if ← acceptKeyword "else" then
      if ← nextIsKeyword "if" then pure [← rules .statement] else pure [← rules .block]
    else pure []
  node (.other "if_statement") m (header ++ body :: otherwise)

/-- The part of a `for` header from its first semicolon on. -/
def forRest (rules : Rules) (start : List Node) : Parser (List Node) := do
  expectSymbol ";"
  let test ←
    if ← nextIsSymbol ";" then pure [] else pure [← condition (← plainSimple rules)]
  expectSymbol ";"
  let step ← if ← nextIsSymbol "\x7b" then pure [] else pure [← plainSimple rules]
  return start ++ test ++ step

def forHeader (rules : Rules) : Parser (List Node) := do
  match ← next? with
  | some (.symbol "\x7b") => return []
  | some (.symbol ";") => forRest rules []
  | some (.keyword "range") =>
    let m ← mark
    let _ ← take
    let e ← rules .expression
    return [← node .rangeClause m [e.as .right]]
  | _ =>
    let first ← simple rules
    if first.kind = .rangeClause then return [first]
    else if ← nextIsSymbol ";" then forRest rules [first]
    else return [← condition first]

def forStatement (rules : Rules) : Parser Node := do
  let m ← mark
  expectKeyword "for"
  let header ← inside true (forHeader rules)
  let body ← rules .block
  node (.other "for_statement") m (header ++ [body])

/-! ### Switches -/

/-- What is left of a clause after its head. -/
def clauseRest (rules : Rules) (kind : String) (m : Mark) (head : List Node) : Parser Node := do
  expectSymbol ":"
  let ss ← statements rules
  node (.other kind) m (head ++ ss)

/-- A clause of a switch; its items are expressions, or types in a type switch. -/
def switchClause (rules : Rules) : Parser Node := do
  let m ← mark
  if ← acceptKeyword "default" then clauseRest rules "default_case" m []
  else
    expectKeyword "case"
    let items ← separated "," (expressionOrType rules)
    clauseRest rules "expression_case" m items

/-- Clauses up to the closing brace. -/
def clauses (clause : Parser Node) : Parser (List Node) := do
  expectSymbol "\x7b"
  let cs ← collect do
    if ← nextIsSymbol "\x7d" then return none else return some (← clause)
  expectSymbol "\x7d"
  return cs

def switchHeader (rules : Rules) : Parser (List Node) := do
  if ← nextIsSymbol "\x7b" then return []
  else
    let first ← if ← nextIsSymbol ";" then pure [] else pure [← plainSimple rules]
    if ← acceptSymbol ";" then
      if ← nextIsSymbol "\x7b" then return first
      else return first ++ [← plainSimple rules]
    else return first

def switchStatement (rules : Rules) : Parser Node := do
  let m ← mark
  expectKeyword "switch"
  let header ← inside true (switchHeader rules)
  let cs ← inside false (clauses (switchClause rules))
  node (.other "switch_statement") m (header ++ cs)

/-- The communication of a `select` clause: a send, or a receive with or without a target. -/
def communication (rules : Rules) : Parser Node := do
  let s ← simple rules
  if s.kind = .rangeClause then stuck
  else if s.kind = .shortVar || s.kind = .assignment then
    return s.withKind (.other "receive_statement")
  else return s

def selectClause (rules : Rules) : Parser Node := do
  let m ← mark
  if ← acceptKeyword "default" then clauseRest rules "default_case" m []
  else
    expectKeyword "case"
    let c ← communication rules
    clauseRest rules "communication_case" m [c]

def selectStatement (rules : Rules) : Parser Node := do
  let m ← mark
  expectKeyword "select"
  let cs ← inside false (clauses (selectClause rules))
  node (.other "select_statement") m cs

/-! ### Jumps and the like -/

/-- A keyword with an expression. -/
def withExpression (rules : Rules) (kind : String) : Parser Node := do
  let m ← mark
  let _ ← take
  let e ← rules .expression
  node (.other kind) m [e]

def returnStatement (rules : Rules) : Parser Node := do
  let m ← mark
  let _ ← take
  match ← next? with
  | some .lineEnd => node (.other "return_statement") m []
  | some (.symbol ";") => node (.other "return_statement") m []
  | some (.symbol "\x7d") => node (.other "return_statement") m []
  | _ =>
    let es ← expressionList rules
    node (.other "return_statement") m [es]

/-- A keyword with an optional label. -/
def jump (kind : String) : Parser Node := do
  let m ← mark
  let _ ← take
  match ← next? with
  | some (.name _) => node (.other kind) m [(← take).leaf (.other "label_name")]
  | _ => node (.other kind) m []

def labeled (rules : Rules) : Parser Node := do
  let m ← mark
  let l ← name
  expectSymbol ":"
  let label := (l.leaf (.other "label_name")).as (.other "label")
  if ← nextIsSymbol "\x7d" then node (.other "labeled_statement") m [label]
  else
    let s ← rules .statement
    node (.other "labeled_statement") m [label, s]

def emptyStatement : Parser Node := do node (.other "empty_statement") (← mark) []

/-! ### Any statement -/

def keywordStatement (rules : Rules) (keyword : String) : Parser Node :=
  match keyword with
  | "const" => localDeclaration rules keyword
  | "var" => localDeclaration rules keyword
  | "type" => localDeclaration rules keyword
  | "if" => ifStatement rules
  | "for" => forStatement rules
  | "switch" => switchStatement rules
  | "select" => selectStatement rules
  | "return" => returnStatement rules
  | "go" => withExpression rules "go_statement"
  | "defer" => withExpression rules "defer_statement"
  | "break" => jump "break_statement"
  | "continue" => jump "continue_statement"
  | "goto" => jump "goto_statement"
  | "fallthrough" => jump "fallthrough_statement"
  | _ => plainSimple rules

def statement (rules : Rules) : Parser Node := do
  match ← next?, ← second? with
  | some (.keyword k), _ => keywordStatement rules k
  | some (.symbol "\x7b"), _ => rules .block
  | some (.symbol ";"), _ => emptyStatement
  | some (.symbol "\x7d"), _ => emptyStatement
  | some .lineEnd, _ => emptyStatement
  | some (.name _), some (.symbol ":") => labeled rules
  | _, _ => plainSimple rules

end Parser

end RouteAudit.Go
