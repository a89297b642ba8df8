import RouteAudit.Go.Parse.Basic

/-! # Types

The rules for types, parameter lists, struct fields and interface elements. -/

namespace RouteAudit.Go.Parser

/-- Some type starts with this token. -/
def startsType : Token → Bool
  | .name _ => true
  | .symbol s => s == "*" || s == "[" || s == "(" || s == "<-"
  | .keyword s => s == "map" || s == "chan" || s == "func" || s == "struct" || s == "interface"
  | _ => false

/-- Types joined by bars, each possibly with a tilde in front. -/
def union (rules : Rules) : Parser Node := do
  let m ← mark
  let terms ← separated "|" do
    let _ ← acceptSymbol "~"
    rules .type
  node (.other "type_elem") m terms

/-- Type arguments in brackets. -/
def typeArguments (rules : Rules) : Parser Node := do
  let m ← mark
  expectSymbol "["
  let first ← union rules
  let rest ← collect do
    if ← acceptSymbol "," then
      if ← nextIsSymbol "]" then return none
      return some (← union rules)
    else return none
  expectSymbol "]"
  node (.other "type_arguments") m (first :: rest)

/-- A type by name, possibly of a package, possibly with type arguments. -/
def namedType (rules : Rules) : Parser Node := do
  let m ← mark
  let first ← name
  let base ←
    if ← acceptSymbol "." then
      let second ← name
      node (.other "qualified_type") m
        [(first.leaf .packageIdentifier).as (.other "package"), (second.leaf .typeIdentifier).as .name]
    else pure (first.leaf .typeIdentifier)
  if ← nextIsSymbol "[" then
    let args ← typeArguments rules
    node (.other "generic_type") m [base.as (.other "type"), args.as (.other "type_arguments")]
  else return base

/-! ### Parameters -/

/-- An entry of a parameter list. -/
inductive ParameterEntry where
  /-- A name by itself, which is a type unless a later entry gives it one. -/
  | bare (l : Lexeme)
  | typed (l : Lexeme) (type : Node)
  | unnamed (type : Node)
  | variadic (l : Option Lexeme) (type : Node)

/-- An entry that starts with a name. -/
def namedEntry (rules : Rules) : Parser ParameterEntry := do
  let l ← name
  match ← next? with
  | some (.symbol ",") => return .bare l
  | some (.symbol ")") => return .bare l
  | some (.symbol "...") =>
    let _ ← take
    return .variadic (some l) (← rules .type)
  | _ => return .typed l (← rules .type)

def parameterEntry (rules : Rules) : Parser ParameterEntry := do
  match ← next? with
  | some (.name _) => either (namedEntry rules) (do return .unnamed (← rules .type))
  | some (.symbol "...") =>
    let _ ← take
    return .variadic none (← rules .type)
  | _ => return .unnamed (← rules .type)

/-- A declaration of parameters with a common type. -/
def parameterNode (kind : String) (names : List Lexeme) (type : Node) : Node :=
  let start := match names with
    | l :: _ => (l.span.start, l.row)
    | [] => (type.start, type.info.row)
  .mk { kind := .other kind, span := ⟨start.1, type.span.stop⟩, row := start.2 }
    ((names.map fun l => (l.leaf .identifier).as .name) ++ [type.as (.other "type")])

/-- Bare names that no entry gave a type are types themselves. -/
def bareTypes (names : List Lexeme) : List Node :=
  names.map fun l => parameterNode "parameter_declaration" [] (l.leaf .typeIdentifier)

/-- The declarations of a list of entries; `waiting` are bare names just before, in order. -/
def groupEntries (waiting : List Lexeme) : List ParameterEntry → List Node
  | [] => bareTypes waiting
  | .bare l :: rest => groupEntries (waiting ++ [l]) rest
  | .typed l type :: rest =>
    parameterNode "parameter_declaration" (waiting ++ [l]) type :: groupEntries [] rest
  | .unnamed type :: rest =>
    bareTypes waiting ++ parameterNode "parameter_declaration" [] type :: groupEntries [] rest
  | .variadic l type :: rest =>
    bareTypes waiting ++ parameterNode "variadic_parameter_declaration" l.toList type ::
      groupEntries [] rest

/-- A parameter list in parentheses. -/
def parameters (rules : Rules) : Parser Node := inside false do
  let m ← mark
  expectSymbol "("
  let entries ← listed ")" (parameterEntry rules)
  node (.other "parameter_list") m (groupEntries [] entries)

/-- Parameters and result of a function. -/
def signature (rules : Rules) : Parser (List Node) := do
  let ps ← parameters rules
  match ← next? with
  | some (.symbol "(") => return [ps.as .parameters, (← parameters rules).as (.other "result")]
  | some t =>
    if startsType t then return [ps.as .parameters, (← rules .type).as (.other "result")]
    else return [ps.as .parameters]
  | none => return [ps.as .parameters]

/-! ### Type parameters -/

/-- Names with a constraint. -/
def typeParameter (rules : Rules) : Parser Node := do
  let m ← mark
  let names ← separated "," name
  let constraint ← union rules
  node (.other "type_parameter_declaration") m
    ((names.map fun l => (l.leaf .identifier).as .name) ++ [constraint.as (.other "type")])

/-- Type parameters in brackets. -/
def typeParameters (rules : Rules) : Parser Node := do
  let m ← mark
  expectSymbol "["
  let first ← typeParameter rules
  let rest ← collect do
    if ← acceptSymbol "," then
      if ← nextIsSymbol "]" then return none
      return some (← typeParameter rules)
    else return none
  expectSymbol "]"
  node (.other "type_parameter_list") m (first :: rest)

/-! ### Structs and interfaces -/

/-- A field: names with a type, or an embedded type; possibly with a tag. -/
def structField (rules : Rules) : Parser Node := do
  let m ← mark
  let named : Parser (List Node) := do
    let names ← separated "," name
    let type ← rules .type
    return (names.map fun l => (l.leaf .fieldIdentifier).as .name) ++ [type.as (.other "type")]
  let embedded : Parser (List Node) := do return [(← rules .type).as (.other "type")]
  let parts ← either named embedded
  let tag ← match ← next? with
    | some (.raw _) => pure [((← take).leaf .rawString).as (.other "tag")]
    | some (.interpreted _) => pure [((← take).leaf .interpretedString).as (.other "tag")]
    | _ => pure []
  node (.other "field_declaration") m (parts ++ tag)

def structType (rules : Rules) : Parser Node := inside false do
  let m ← mark
  expectKeyword "struct"
  let body ← mark
  expectSymbol "\x7b"
  let fields ← terminated "\x7d" (structField rules)
  let list ← node (.other "field_declaration_list") body fields
  node (.other "struct_type") m [list]

/-- A method or a union of types. -/
def interfaceElement (rules : Rules) : Parser Node := do
  let m ← mark
  match ← next?, ← second? with
  | some (.name _), some (.symbol "(") =>
    let l ← name
    let parts ← signature rules
    node (.other "method_elem") m ((l.leaf .fieldIdentifier).as .name :: parts)
  | _, _ => union rules

def interfaceType (rules : Rules) : Parser Node := inside false do
  let m ← mark
  expectKeyword "interface"
  expectSymbol "\x7b"
  let elements ← terminated "\x7d" (interfaceElement rules)
  node (.other "interface_type") m elements

/-! ### Arrays, channels, functions -/

/-- A slice, or an array with a length; dots for a length that is counted are left to literals. -/
def arrayType (rules : Rules) : Parser Node := do
  let m ← mark
  expectSymbol "["
  if ← acceptSymbol "]" then
    let element ← rules .type
    node (.other "slice_type") m [element.as (.other "element")]
  else if ← acceptSymbol "..." then
    expectSymbol "]"
    let element ← rules .type
    node (.other "implicit_length_array_type") m [element.as (.other "element")]
  else
    let length ← inside false (rules .expression)
    expectSymbol "]"
    let element ← rules .type
    node (.other "array_type") m [length.as (.other "length"), element.as (.other "element")]

def channelType (rules : Rules) : Parser Node := do
  let m ← mark
  if ← acceptSymbol "<-" then expectKeyword "chan"
  else
    expectKeyword "chan"
    let _ ← acceptSymbol "<-"
  let element ← rules .type
  node (.other "channel_type") m [element.as .value]

def mapType (rules : Rules) : Parser Node := do
  let m ← mark
  expectKeyword "map"
  expectSymbol "["
  let key ← inside false (rules .type)
  expectSymbol "]"
  let element ← rules .type
  node (.other "map_type") m [key.as (.other "key"), element.as .value]

/-- A type. -/
def type (rules : Rules) : Parser Node := do
  let m ← mark
  match ← next? with
  | some (.name _) => namedType rules
  | some (.symbol "*") =>
    let _ ← take
    let target ← rules .type
    node (.other "pointer_type") m [target]
  | some (.symbol "(") =>
    let _ ← take
    let inner ← inside false (rules .type)
    expectSymbol ")"
    node (.other "parenthesized_type") m [inner]
  | some (.symbol "[") =>
    let array ← arrayType rules
    if array.kind = .other "implicit_length_array_type" then stuck else return array
  | some (.symbol "<-") => channelType rules
  | some (.keyword "chan") => channelType rules
  | some (.keyword "map") => mapType rules
  | some (.keyword "struct") => structType rules
  | some (.keyword "interface") => interfaceType rules
  | some (.keyword "func") =>
    let _ ← take
    let parts ← signature rules
    node (.other "function_type") m parts
  | _ => stuck

end RouteAudit.Go.Parser
