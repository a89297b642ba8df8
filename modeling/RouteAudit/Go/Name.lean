import RouteAudit.Go.Literal

/-! # Names in expressions

`Node.dottedName` flattens a chain of selectors, `Node.callName` names a called function,
`Node.methodCall?` splits a call of a method into receiver and method, `Node.handlerName` names a
handler or middleware argument, and `Node.assignments` pairs the targets and values of an
assignment. -/

namespace RouteAudit.Go.Node

/-! ### Selector chains -/

mutual

/-- The parts of a selector chain in source order; a chain that starts in something other than an
identifier keeps its selected parts only. -/
def chainParts : Node → List String
  | mk i cs =>
    if i.kind.isIdentifier then [i.text]
    else if i.kind = .selector then operandParts cs ++ [(mk i cs).textOf .field]
    else []

/-- The chain of the first operand among children. -/
def operandParts : List Node → List String
  | [] => []
  | c :: rest => if c.role = some .operand then chainParts c else operandParts rest

end

/-- An identifier or selector chain, its parts joined by dots. -/
def dottedName (n : Node) : String := Text.join "." n.chainParts

/-- The name of the function that a call calls. -/
def callName (call : Node) : String :=
  match call.child? .function with
  | some f => f.dottedName
  | none => ""

/-- Receiver and method of a call of the form `receiver.method(...)`. -/
def methodCall? (call : Node) : Option (Node × String) :=
  match call.child? .function with
  | some f =>
    if f.kind = .selector then
      let method := f.textOf .field
      match f.child? .operand with
      | some receiver => if method.isEmpty then none else some (receiver, method)
      | none => none
    else none
  | none => none

theorem size_lt_of_methodCall? {n r : Node} {m : String} (h : n.methodCall? = some (r, m)) :
    r.size < n.size := by
  unfold methodCall? at h
  split at h
  · rename_i f hf
    have h₁ := size_lt_of_child? hf
    split at h
    · dsimp only at h
      split at h
      · rename_i r' hr
        have h₂ := size_lt_of_child? hr
        split at h
        · cases h
        · cases h; omega
      · cases h
    · cases h
  · cases h

/-! ### Handlers -/

/-- The name of a handler that is a function literal. -/
def anonymousHandler : String := "<anonymous>"

/-- The name of an expression that is not in parentheses. -/
def bareName (n : Node) : String :=
  match n.kind with
  | .identifier => n.text
  | .selector => n.dottedName
  | .call => n.callName
  | .funcLiteral => anonymousHandler
  | _ => ""

/-- The name of a handler or middleware argument; empty when it has none. -/
def handlerName (n : Node) : String :=
  match n.unparenthesize with
  | some m => m.bareName
  | none => ""

/-- The name of the first named parameter of a function literal; empty when there is none. -/
def parameterName (literal : Node) : String :=
  match (literal.partsOf .parameters).findSome? fun p => p.child? .name with
  | some name => name.text
  | none => ""

/-! ### Assignments -/

/-- Targets and values of an assignment or variable declaration. -/
def assignmentSides (n : Node) : List Node × List Node :=
  match n.kind with
  | .shortVar => (n.partsOf .left, n.partsOf .right)
  | .assignment => (n.partsOf .left, n.partsOf .right)
  | .varSpec => (n.children.filter fun c => c.role == some .name, n.partsOf .value)
  | _ => ([], [])

/-- The pairs of target and value of an assignment, when there are as many of the one as of the
other. -/
def assignments (n : Node) : List (Node × Node) :=
  let sides := n.assignmentSides
  if sides.1.length = sides.2.length then sides.1.zip sides.2 else []

end RouteAudit.Go.Node
