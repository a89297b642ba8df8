/-! # Syntax trees of Go

A `Node` has a kind, possibly the role it plays in its parent, a byte range with the row it starts
on, its source text, and children in source order. `Node.walk` lists the nodes of a tree with an
explicit stack of pending nodes; `Node.preorder` is the same list by recursion on the tree. -/

namespace RouteAudit.Go

/-- What a node is. Kinds that are only passed through keep their name. -/
inductive Kind where
  | identifier
  | fieldIdentifier
  | packageIdentifier
  | typeIdentifier
  | selector
  | call
  | parenthesized
  | funcLiteral
  | compositeLiteral
  | literalElement
  | rawString
  | interpretedString
  | importSpec
  | shortVar
  | assignment
  | varSpec
  | comment
  | other (name : String)
deriving DecidableEq, Repr

namespace Kind

/-- The kind that a grammar of Go calls by this name. -/
def ofName : String → Kind
  | "identifier" => identifier
  | "field_identifier" => fieldIdentifier
  | "package_identifier" => packageIdentifier
  | "type_identifier" => typeIdentifier
  | "selector_expression" => selector
  | "call_expression" => call
  | "parenthesized_expression" => parenthesized
  | "func_literal" => funcLiteral
  | "composite_literal" => compositeLiteral
  | "literal_element" => literalElement
  | "element" => literalElement
  | "raw_string_literal" => rawString
  | "interpreted_string_literal" => interpretedString
  | "import_spec" => importSpec
  | "short_var_declaration" => shortVar
  | "assignment_statement" => assignment
  | "var_spec" => varSpec
  | "comment" => comment
  | name => other name

/-- An identifier in any position. -/
def isIdentifier : Kind → Bool
  | identifier => true
  | fieldIdentifier => true
  | packageIdentifier => true
  | typeIdentifier => true
  | _ => false

end Kind

/-- The role of a node in its parent. -/
inductive Role where
  | function
  | arguments
  | operand
  | field
  | name
  | path
  | parameters
  | body
  | left
  | right
  | value
  | other (name : String)
deriving DecidableEq, Repr

/-- The role that a grammar of Go calls by this name. -/
def Role.ofName : String → Role
  | "function" => function
  | "arguments" => arguments
  | "operand" => operand
  | "field" => field
  | "name" => name
  | "path" => path
  | "parameters" => parameters
  | "body" => body
  | "left" => left
  | "right" => right
  | "value" => value
  | label => other label

/-- A range of bytes, from `start` up to but not including `stop`. -/
structure Span where
  start : Nat
  stop : Nat
deriving DecidableEq, Repr

/-- The range holds the position. -/
def Span.holds (s : Span) (position : Nat) : Bool :=
  decide (s.start ≤ position) && decide (position < s.stop)

/-- Everything about a node but its children. -/
structure NodeInfo where
  kind : Kind
  role : Option Role := none
  /-- Punctuation and keywords are not named. -/
  named : Bool := true
  span : Span := ⟨0, 0⟩
  row : Nat := 0
  /-- The node stands for text that is missing or does not parse. -/
  broken : Bool := false
  text : String := ""
deriving DecidableEq, Repr

/-- A node of a syntax tree. -/
inductive Node where
  | mk (info : NodeInfo) (children : List Node)
deriving Repr

namespace Node

def info : Node → NodeInfo
  | mk i _ => i

def children : Node → List Node
  | mk _ cs => cs

abbrev kind (n : Node) : Kind := n.info.kind
abbrev role (n : Node) : Option Role := n.info.role
abbrev span (n : Node) : Span := n.info.span
abbrev text (n : Node) : String := n.info.text

@[simp] theorem info_mk (i : NodeInfo) (cs : List Node) : (mk i cs).info = i := rfl
@[simp] theorem children_mk (i : NodeInfo) (cs : List Node) : (mk i cs).children = cs := rfl

/-- The line a node starts on, counted from one. -/
def line (n : Node) : Nat := n.info.row + 1

/-- The first byte of a node. -/
def start (n : Node) : Nat := n.span.start

/-! ### Children -/

/-- A named node that is no comment. -/
def isPart (n : Node) : Bool := n.info.named && n.kind != .comment

/-- The named children, comments apart. -/
def parts (n : Node) : List Node := n.children.filter isPart

/-- The first child in a role. -/
def child? (n : Node) (r : Role) : Option Node := n.children.find? fun c => c.role == some r

/-- The parts of the first child in a role; none when there is no such child. -/
def partsOf (n : Node) (r : Role) : List Node :=
  match n.child? r with
  | some c => c.parts
  | none => []

/-- The text of the first child in a role; empty when there is no such child. -/
def textOf (n : Node) (r : Role) : String :=
  match n.child? r with
  | some c => c.text
  | none => ""

/-- The arguments of a call. -/
def callArguments (n : Node) : List Node := n.partsOf .arguments

/-! ### Walking -/

mutual

/-- The number of nodes of a tree. -/
def size : Node → Nat
  | mk _ cs => 1 + sizeAll cs

/-- The number of nodes of several trees. -/
def sizeAll : List Node → Nat
  | [] => 0
  | c :: rest => size c + sizeAll rest

end

theorem size_pos (n : Node) : 0 < n.size := by cases n; simp only [size]; omega

theorem size_le_sizeAll {n : Node} {cs : List Node} (h : n ∈ cs) : n.size ≤ sizeAll cs := by
  induction cs with
  | nil => cases h
  | cons c rest ih =>
    simp only [sizeAll]
    cases h with
    | head => omega
    | tail _ h => have := ih h; omega

theorem size_lt_of_mem_children {n m : Node} (h : m ∈ n.children) : m.size < n.size := by
  cases n with
  | mk i cs =>
    have := size_le_sizeAll h
    simp only [children] at this
    simp only [size]
    omega

theorem size_lt_of_child? {n m : Node} {r : Role} (h : n.child? r = some m) : m.size < n.size :=
  size_lt_of_mem_children (List.mem_of_find?_eq_some h)

theorem size_lt_of_mem_partsOf {n m : Node} {r : Role} (h : m ∈ n.partsOf r) : m.size < n.size := by
  unfold partsOf at h
  split at h
  · rename_i c hc
    have h₁ := size_lt_of_child? hc
    have h₂ := size_lt_of_mem_children (List.mem_filter.1 h).1
    omega
  · cases h

theorem sizeAll_append (xs ys : List Node) : sizeAll (xs ++ ys) = sizeAll xs + sizeAll ys := by
  induction xs with
  | nil => simp [sizeAll]
  | cons c rest ih => simp [sizeAll, ih, Nat.add_assoc]

/-- Go through the pending nodes; `done` holds the nodes already met, the latest first. -/
def walkFrom (done : List Node) : (pending : List Node) → List Node
  | [] => done.reverse
  | n :: rest => walkFrom (n :: done) (n.children ++ rest)
termination_by pending => sizeAll pending
decreasing_by
  cases n with
  | mk i cs => simp only [children, sizeAll, size, sizeAll_append]; omega

/-- The nodes of a tree, each before its children, in source order. -/
def walk (n : Node) : List Node := walkFrom [] [n]

mutual

/-- The nodes of a tree, each before its children, by recursion. -/
def preorder : Node → List Node
  | mk i cs => mk i cs :: preorderAll cs

/-- The nodes of several trees in turn. -/
def preorderAll : List Node → List Node
  | [] => []
  | c :: rest => preorder c ++ preorderAll rest

end

end Node

end RouteAudit.Go
