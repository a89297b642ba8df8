import RouteAudit.Data.Json.Read
import RouteAudit.Go.Node
import RouteAudit.Text.Basic

/-! # String literals

`Node.stringValue?` is the value of a string literal, looked at through parentheses. An interpreted
literal is read by the escapes it shares with JSON; one that has other escapes, or a raw control
character, stands for its source text between the quotes. -/

namespace RouteAudit.Go

/-! ### Parentheses -/

namespace Node

mutual

/-- The node inside any number of parentheses; `none` when some pair does not hold one part. -/
def unparenthesize : Node → Option Node
  | mk i cs => if i.kind = .parenthesized then soleExpression cs else some (mk i cs)

/-- The only part among children, without its parentheses. -/
def soleExpression : List Node → Option Node
  | [] => none
  | c :: rest =>
    if c.isPart then
      if rest.any isPart then none else unparenthesize c
    else soleExpression rest

end

theorem unparenthesize_of_kind {n : Node} (h : n.kind ≠ .parenthesized) :
    n.unparenthesize = some n := by
  cases n with
  | mk i cs => exact if_neg h

end Node

/-! ### Values -/

/-- The text without its first and last character. -/
def rawValue (text : String) : String := String.ofList (text.toList.drop 1).dropLast

/-- The text without the quotes around it, however many. -/
def withoutQuotes (text : String) : String := Text.trim (· == '"') text

/-- The value of an interpreted literal. -/
def interpretedValue (text : String) : String :=
  match Json.readString? text.toList with
  | some value => String.ofList value
  | none => withoutQuotes text

/-- The value of a literal of a kind; `none` for kinds that are no string literals. -/
def literalValue? (kind : Kind) (text : String) : Option String :=
  match kind with
  | .rawString => some (rawValue text)
  | .interpretedString => some (interpretedValue text)
  | _ => none

namespace Node

/-- The value of a string literal, possibly in parentheses. -/
def stringValue? (n : Node) : Option String :=
  match n.unparenthesize with
  | some m => literalValue? m.kind m.text
  | none => none

/-- The value of a string literal, empty for anything else. -/
def stringOrEmpty (n : Node) : String := n.stringValue?.getD ""

/-- The element of a composite literal that may be a string. -/
def elementTarget? (element : Node) : Option Node :=
  if element.kind = .literalElement then element.parts.head? else some element

/-- The nonempty strings listed in a composite literal. -/
def stringSlice (n : Node) : List String :=
  if n.kind = .compositeLiteral then
    (n.partsOf .body).filterMap fun element =>
      match (elementTarget? element).bind stringValue? with
      | some s => if s.isEmpty then none else some s
      | none => none
  else []

/-- The strings that an argument passes: its own value or the strings of a composite literal. -/
def argumentStrings (arg : Node) : List String :=
  match arg.stringValue? with
  | some s => if s.isEmpty then arg.stringSlice else [s]
  | none => arg.stringSlice

/-- The strings passed directly to a call. -/
def literalArguments (call : Node) : List String := call.callArguments.flatMap argumentStrings

end Node

end RouteAudit.Go
