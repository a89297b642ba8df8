import RouteAudit.Go.Parse.Expression

/-! # Declarations

The rules for constants, variables, types, imports and functions. -/

namespace RouteAudit.Go.Parser

/-- A keyword with one specification, or with several in parentheses. -/
def declaration (kind keyword : String) (spec : Parser Node) : Parser Node := do
  let m ← mark
  expectKeyword keyword
  let specs ←
    if ← acceptSymbol "(" then terminated ")" spec
    else pure [← spec]
  node (.other kind) m specs

/-! ### Constants and variables -/

def nameLeaves (names : List Lexeme) (kind : Kind) : List Node :=
  names.map fun l => (l.leaf kind).as .name

/-- Names with an optional type and values; neither may be missing unless it is a constant. -/
def valueSpec (rules : Rules) (constant : Bool) : Parser Node := do
  let m ← mark
  let names ← separated "," name
  let type ← match ← next? with
    | some t => if startsType t then pure [(← rules .type).as (.other "type")] else pure []
    | none => pure []
  let values ←
    if ← acceptSymbol "=" then pure [(← expressionList rules).as .value] else pure []
  let complete := !values.isEmpty || (if constant then type.isEmpty else !type.isEmpty)
  if complete then
    node (if constant then .other "const_spec" else .varSpec) m
      (nameLeaves names .identifier ++ type ++ values)
  else stuck

/-! ### Types -/

/-- A type with its name; brackets after the name hold type parameters or the length of an
array. -/
def typeSpec (rules : Rules) : Parser Node := do
  let m ← mark
  let l ← name
  let named := (l.leaf .typeIdentifier).as .name
  if ← acceptSymbol "=" then
    let t ← rules .type
    node (.other "type_alias") m [named, t.as (.other "type")]
  else
    let generic : Parser (List Node) := do
      let ps ← typeParameters rules
      let _ ← acceptSymbol "="
      let t ← rules .type
      return [ps.as (.other "type_parameters"), t.as (.other "type")]
    let plain : Parser (List Node) := do return [(← rules .type).as (.other "type")]
    let parts ← if ← nextIsSymbol "[" then either generic plain else plain
    node (.other "type_spec") m (named :: parts)

/-- A declaration that may also stand among statements. -/
def localDeclaration (rules : Rules) (keyword : String) : Parser Node :=
  match keyword with
  | "const" => declaration "const_declaration" "const" (valueSpec rules true)
  | "var" => declaration "var_declaration" "var" (valueSpec rules false)
  | _ => declaration "type_declaration" "type" (typeSpec rules)

/-! ### Imports and the package -/

def stringLiteral : Parser Node := do
  match ← next? with
  | some (.interpreted _) => return (← take).leaf .interpretedString
  | some (.raw _) => return (← take).leaf .rawString
  | _ => stuck

def importSpec : Parser Node := do
  let m ← mark
  let named ← match ← next? with
    | some (.name s) =>
      let kind : Kind := if s == "_" then .other "blank_identifier" else .packageIdentifier
      pure [((← take).leaf kind).as .name]
    | some (.symbol ".") => pure [((← take).leaf (.other "dot")).as .name]
    | _ => pure []
  let path ← stringLiteral
  node .importSpec m (named ++ [path.as .path])

def packageClause : Parser Node := do
  let m ← mark
  expectKeyword "package"
  let l ← name
  node (.other "package_clause") m [l.leaf .packageIdentifier]

/-! ### Functions -/

/-- A function or a method, possibly without a body. -/
def function (rules : Rules) : Parser Node := do
  let m ← mark
  expectKeyword "func"
  let receiver ←
    if ← nextIsSymbol "(" then pure [(← parameters rules).as (.other "receiver")] else pure []
  let l ← name
  let typePart ←
    if ← nextIsSymbol "[" then pure [(← typeParameters rules).as (.other "type_parameters")]
    else pure []
  let parts ← signature rules
  let body ←
    if ← nextIsSymbol "\x7b" then pure [(← rules .block).as .body] else pure []
  let method := !receiver.isEmpty
  let named := (l.leaf (if method then .fieldIdentifier else .identifier)).as .name
  node (.other (if method then "method_declaration" else "function_declaration")) m
    (receiver ++ named :: typePart ++ parts ++ body)

end RouteAudit.Go.Parser
