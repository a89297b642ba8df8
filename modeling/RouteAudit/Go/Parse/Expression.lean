import RouteAudit.Go.Parse.Type

/-! # Expressions

The rules for operands, selectors, indices, calls, conversions, composite literals and operators. A
call whose function can only be a type, or looks like a type with type arguments and has one
argument, is a conversion. -/

namespace RouteAudit.Go

namespace Kind

def index : Kind := .other "index_expression"
def instantiation : Kind := .other "type_instantiation_expression"
def conversion : Kind := .other "type_conversion_expression"
def unary : Kind := .other "unary_expression"
def binary : Kind := .other "binary_expression"
def variadicArgument : Kind := .other "variadic_argument"
def typeElement : Kind := .other "type_elem"
def switchGuard : Kind := .other "type_switch_guard"

end Kind

namespace Node

/-! ### Expressions that look like types -/

/-- An identifier or a selector of one, as the name of a type is written. -/
def isTypeName (n : Node) : Bool :=
  n.kind == .identifier ||
    (n.kind == .selector && ((n.child? .operand).map fun o => o.kind == .identifier).getD false)

/-- The operator of a unary or binary expression. -/
def operator (n : Node) : String := n.textOf (.other "operator")

mutual

/-- The expression could be a type: a name, a pointer, a name with type arguments, a union, or any
of these in parentheses. -/
def looksLikeType : Node → Bool
  | mk i cs =>
    if (mk i cs).isTypeName then true
    else if i.kind = .typeElement then true
    else if i.kind = .instantiation then ((cs.head?).map isTypeName).getD false
    else if i.kind = .index then ((cs.head?).map isTypeName).getD false && tailLooksLikeType cs
    else if i.kind = .parenthesized then allLookLikeType cs
    else if i.kind = .unary then (mk i cs).operator == "*" && allLookLikeType cs
    else if i.kind = .binary then (mk i cs).operator == "|" && allLookLikeType cs
    else false

/-- Every part could be a type; operators are passed over. -/
def allLookLikeType : List Node → Bool
  | [] => true
  | c :: rest => (!c.info.named || looksLikeType c) && allLookLikeType rest

/-- Every part after the first could be a type. -/
def tailLooksLikeType : List Node → Bool
  | [] => true
  | _ :: rest => allLookLikeType rest

end

/-- A name with type arguments, and nothing that could only be an index. -/
def isInstance (n : Node) : Bool :=
  (n.kind == .index || n.kind == .instantiation) && n.looksLikeType

mutual

/-- Type arguments occur in an expression that looks like a type. -/
def hasTypeArguments : Node → Bool
  | mk i cs =>
    i.kind == .index || i.kind == .instantiation ||
      if i.kind = .parenthesized ∨ i.kind = .unary ∨ i.kind = .binary then anyTypeArguments cs else false

/-- Type arguments occur in some of the nodes. -/
def anyTypeArguments : List Node → Bool
  | [] => false
  | c :: rest => hasTypeArguments c || anyTypeArguments rest

end

/-- A call of this function with one argument is a conversion. -/
def convertsOne (f : Node) : Bool :=
  f.isInstance || (f.kind == .parenthesized && f.looksLikeType && f.hasTypeArguments)

/-- The name of a type in an expression, as a node for a type. -/
def toType (n : Node) : Node :=
  if n.kind = .identifier then n.withKind .typeIdentifier
  else if n.kind = .selector then n.withKind (.other "qualified_type")
  else n.withKind (.other "generic_type")

end Node

namespace Parser

/-- A sign or keyword that stands between the parts of a node. -/
def operatorLeaf (l : Lexeme) : Node :=
  .mk { kind := .other l.token.spelling, role := some (.other "operator"), named := false,
        span := l.span, row := l.row, text := l.token.spelling } []

/-! ### Arguments -/

/-- An argument, possibly with dots after it. -/
def argument (rules : Rules) : Parser Node := do
  let m ← mark
  let e ← rules .expression
  if ← acceptSymbol "..." then node .variadicArgument m [e] else return e

/-- The first argument of `make` and `new` is a type if it can be one. -/
def typeArgument (rules : Rules) : Parser Node := do
  let asType : Parser Node := do
    let t ← rules .type
    if (← nextIsSymbol ",") || (← nextIsSymbol ")") then return t else stuck
  either asType (argument rules)

/-- Arguments in parentheses. -/
def argumentList (rules : Rules) (typeFirst : Bool) : Parser Node := inside false do
  let m ← mark
  expectSymbol "("
  let first ←
    if typeFirst && !(← nextIsSymbol ")") then do
      let t ← typeArgument rules
      unless ← nextIsSymbol ")" do expectSymbol ","
      pure [t]
    else pure []
  let rest ← listed ")" (argument rules)
  node (.other "argument_list") m (first ++ rest)

/-- The node of a call. -/
def callNode (f args : Node) : Parser Node := do
  let single := match args.children with
    | [a] => a.kind != .variadicArgument
    | _ => false
  if single && f.convertsOne then
    nodeFrom .conversion f (f.as (.other "type") :: args.children.map (·.as .operand))
  else if f.kind = .instantiation then
    match f.children with
    | base :: types =>
      let typeArgs ← nodeFrom (.other "type_arguments") base types
      nodeFrom .call f
        [base.as .function, typeArgs.as (.other "type_arguments"), args.as .arguments]
    | [] => stuck
  else nodeFrom .call f [f.as .function, args.as .arguments]

def call (rules : Rules) (f : Node) : Parser Node := do
  let special := f.kind == .identifier && (f.text == "make" || f.text == "new")
  callNode f (← argumentList rules special)

/-- The operand of a conversion to a type that has been read. -/
def conversion (rules : Rules) (m : Mark) (type : Node) : Parser Node := do
  expectSymbol "("
  let operand ← inside false (rules .expression)
  let _ ← acceptSymbol ","
  expectSymbol ")"
  node .conversion m [type.as (.other "type"), operand.as .operand]

/-! ### Indices -/

/-- An expression, or a type that is none. -/
def expressionOrType (rules : Rules) : Parser Node :=
  either (rules .expression) do
    let m ← mark
    let t ← rules .type
    node .typeElement m [t]

/-- The rest of a slice expression after the first colon. -/
def sliceRest (rules : Rules) (x : Node) (low : List Node) : Parser Node := do
  let high ←
    if (← nextIsSymbol "]") || (← nextIsSymbol ":") then pure []
    else pure [← rules .expression]
  let most ←
    if ← acceptSymbol ":" then
      if high.isEmpty then stuck else pure [← rules .expression]
    else pure []
  expectSymbol "]"
  nodeFrom (.other "slice_expression") x (x.as .operand :: (low ++ high ++ most))

/-- An index, a slice or type arguments after an expression. -/
def indexOrSlice (rules : Rules) (x : Node) : Parser Node := inside false do
  expectSymbol "["
  if ← acceptSymbol ":" then sliceRest rules x []
  else
    let first ← expressionOrType rules
    if ← acceptSymbol ":" then sliceRest rules x [first]
    else
      let rest ← collect do
        if ← acceptSymbol "," then
          if ← nextIsSymbol "]" then return none
          return some (← expressionOrType rules)
        else return none
      expectSymbol "]"
      if rest.isEmpty && first.kind != .typeElement then
        nodeFrom .index x [x.as .operand, first.as (.other "index")]
      else if (first :: rest).all Node.looksLikeType then
        nodeFrom .instantiation x (x :: first :: rest)
      else stuck

/-! ### Composite literals -/

/-- An element of a composite literal: an expression or a nested literal. -/
def literalElement (rules : Rules) : Parser Node := do
  let m ← mark
  let e ← if ← nextIsSymbol "\x7b" then rules .literalValue else rules .expression
  node .literalElement m [e]

/-- An element, possibly with a key. -/
def keyedElement (rules : Rules) : Parser Node := do
  let m ← mark
  let first ← literalElement rules
  if ← acceptSymbol ":" then
    let second ← literalElement rules
    node (.other "keyed_element") m [first.as (.other "key"), second.as .value]
  else return first

/-- The elements of a composite literal in braces. -/
def literalValue (rules : Rules) : Parser Node := inside false do
  let m ← mark
  expectSymbol "\x7b"
  let elements ← listed "\x7d" (keyedElement rules)
  node (.other "literal_value") m elements

def composite (rules : Rules) (m : Mark) (type : Node) : Parser Node := do
  let body ← rules .literalValue
  node .compositeLiteral m [type.as (.other "type"), body.as .body]

/-! ### Operands -/

/-- The kind of a name in an expression. -/
def nameKind : String → Kind
  | "nil" => .other "nil"
  | "true" => .other "true"
  | "false" => .other "false"
  | "iota" => .other "iota"
  | _ => .identifier

/-- A type in an expression: the start of a literal or of a conversion. -/
def typeOperand (rules : Rules) : Parser Node := do
  let m ← mark
  let t ← if ← nextIsSymbol "[" then arrayType rules else rules .type
  let literalType := t.kind != .other "channel_type" && t.kind != .other "interface_type"
  if literalType && (← nextIsSymbol "\x7b") then composite rules m t
  else if t.kind = .other "implicit_length_array_type" then stuck
  else conversion rules m t

/-- A function literal. -/
def functionLiteral (rules : Rules) : Parser Node := do
  let m ← mark
  expectKeyword "func"
  let parts ← signature rules
  let body ← inside false (rules .block)
  node .funcLiteral m (parts ++ [body.as .body])

/-- An expression in parentheses, or a conversion to a type in parentheses. -/
def parenthesized (rules : Rules) : Parser Node := do
  let m ← mark
  expectSymbol "("
  let inner ← attempt <| inside false do
    let e ← rules .expression
    expectSymbol ")"
    return e
  match inner with
  | some e => node .parenthesized m [e]
  | none =>
    let t ← inside false (rules .type)
    expectSymbol ")"
    let type ← node (.other "parenthesized_type") m [t]
    conversion rules m type

def operand (rules : Rules) : Parser Node := do
  match ← next? with
  | some (.name s) => return (← take).leaf (nameKind s)
  | some (.number _) => return (← take).leaf (.other "number_literal")
  | some (.rune _) => return (← take).leaf (.other "rune_literal")
  | some (.interpreted _) => return (← take).leaf .interpretedString
  | some (.raw _) => return (← take).leaf .rawString
  | some (.symbol "(") => parenthesized rules
  | some (.symbol "[") => typeOperand rules
  | some (.keyword "func") => functionLiteral rules
  | some (.keyword "struct") => typeOperand rules
  | some (.keyword "map") => typeOperand rules
  | some (.keyword "chan") => typeOperand rules
  | some (.keyword "interface") => typeOperand rules
  | _ => stuck

/-! ### Selectors, calls and the like -/

/-- What follows a dot: a field, or a type in parentheses. The word `type` stands for one in the
header of a switch. -/
def selection (rules : Rules) (x : Node) : Parser Node := do
  expectSymbol "."
  match ← next? with
  | some (.name _) =>
    let l ← take
    nodeFrom .selector x [x.as .operand, (l.leaf .fieldIdentifier).as .field]
  | some (.symbol "(") =>
    let _ ← take
    if ← acceptKeyword "type" then
      expectSymbol ")"
      if (← get).header && (← nextIsSymbol "\x7b") then nodeFrom .switchGuard x [x] else stuck
    else
      let t ← inside false (rules .type)
      expectSymbol ")"
      nodeFrom (.other "type_assertion_expression") x [x.as .operand, t.as (.other "type")]
  | _ => stuck

/-- A brace after this expression opens a composite literal. -/
def opensLiteral (x : Node) : Parser Bool := do
  return !(← get).header && (x.isTypeName || x.isInstance)

/-- Apply what follows an expression to it, up to a bound. -/
def applyRest (rules : Rules) : Nat → Node → Parser Node
  | 0, x => return x
  | n + 1, x => do
    match ← next? with
    | some (.symbol ".") => applyRest rules n (← selection rules x)
    | some (.symbol "[") => applyRest rules n (← indexOrSlice rules x)
    | some (.symbol "(") => applyRest rules n (← call rules x)
    | some (.symbol "\x7b") =>
      if ← opensLiteral x then
        applyRest rules n (← composite rules ⟨x.start, x.info.row⟩ x.toType)
      else return x
    | _ => return x

def primary (rules : Rules) : Parser Node := do
  let x ← operand rules
  applyRest rules ((← get).total + 1) x

/-! ### Operators -/

def unaryOperators : List String := ["+", "-", "!", "^", "*", "&", "<-"]

/-- Binary operators by precedence, the loosest first. -/
def binaryOperators : List (List String) :=
  [["||"], ["&&"], ["==", "!=", "<", "<=", ">", ">="], ["+", "-", "|", "^"],
   ["*", "/", "%", "<<", ">>", "&", "&^"]]

def unary (rules : Rules) : Parser Node := do
  match ← next? with
  | some (.symbol s) =>
    if unaryOperators.contains s then
      let m ← mark
      let l ← take
      let x ← rules .unary
      node .unary m [operatorLeaf l, x.as .operand]
    else primary rules
  | _ => primary rules

/-- Take further operands of operators of one precedence, up to a bound. -/
def chain (operators : List String) (p : Parser Node) : Nat → Node → Parser Node
  | 0, x => return x
  | n + 1, x => do
    match ← next? with
    | some (.symbol s) =>
      if operators.contains s then
        let l ← take
        let y ← p
        chain operators p n (← nodeFrom .binary x [x.as .left, operatorLeaf l, y.as .right])
      else return x
    | _ => return x

/-- Operands and operators of the given precedences. -/
def binary (rules : Rules) : List (List String) → Parser Node
  | [] => unary rules
  | operators :: tighter => do
    let x ← binary rules tighter
    chain operators (binary rules tighter) ((← get).total + 1) x

def expression (rules : Rules) : Parser Node := binary rules binaryOperators

/-- Expressions with commas between them. -/
def expressionList (rules : Rules) : Parser Node := do
  let m ← mark
  let es ← separated "," (rules .expression)
  node (.other "expression_list") m es

end Parser

end RouteAudit.Go
