import RouteAudit.Data.Yaml.Plain
import RouteAudit.Data.Yaml.Token

/-! # Nodes of a document

`Node.ofTokens?` groups the tokens of a text into one node: a scalar, a sequence or a mapping, each
with its tag. An alias stands for the node that was given its name before. Nodes contain nodes, so
each rule is given a reader for the nodes inside it (`Inner`), and the knot is tied with a bound on
the nesting. -/

namespace RouteAudit.Yaml

/-- A part of a document. -/
inductive Node where
  | scalar (tag : Tag) (text : String)
  | sequence (tag : Tag) (items : List Node)
  | mapping (tag : Tag) (entries : List (Node × Node))
deriving Repr

/-! ### State -/

/-- What is left of the tokens, and the names given so far. -/
structure Names where
  tokens : List Token
  /-- The named nodes; a node that is not complete has its name already. -/
  anchors : List (String × Option Node) := []
  /-- What the handles of tags stand for. -/
  handles : List (String × String) := []
  /-- The number of tokens at the start, which bounds every repetition. -/
  total : Nat := tokens.length

abbrev Grouping := StateT Names Option

/-- Where a node stands: inside brackets, in a block, or as a part of a mapping in a block, where
a sequence need not be indented. -/
inductive Position where
  | bracketed
  | block
  | entry
deriving DecidableEq, Repr

/-- A reader for the nodes inside a node. -/
abbrev Inner := Position → Grouping Node

variable {α : Type}

def nextToken? : Grouping (Option Token) := do return (← get).tokens.head?

def take : Grouping Unit := modify fun s => { s with tokens := s.tokens.drop 1 }

/-- Take the next token if it is this one. -/
def accept (t : Token) : Grouping Bool := do
  if (← nextToken?) == some t then
    take
    return true
  return false

def expect (t : Token) : Grouping Unit := do
  unless ← accept t do failure

def nextIsOneOf (ts : List Token) : Grouping Bool := do
  return (← nextToken?).any (ts.contains ·)

/-- Read items until a step yields none. -/
def itemsFor (step : Grouping (Option α)) : (bound : Nat) → (done : List α) → Grouping (List α)
  | 0, _ => failure
  | n + 1, done => do
    match ← step with
    | some a => itemsFor step n (a :: done)
    | none => return done.reverse

def items (step : Grouping (Option α)) : Grouping (List α) := do
  itemsFor step ((← get).total + 1) []

/-- A scalar without text. -/
def emptyNode : Node := .scalar .null ""

/-- The node inside, or an empty one if one of these tokens comes next. -/
def nodeUnless (inner : Inner) (position : Position) (stops : List Token) : Grouping Node := do
  if ← nextIsOneOf stops then return emptyNode
  inner position

/-! ### Collections -/

/-- An entry of a sequence in a block. -/
def blockItem (inner : Inner) (stops : List Token) : Grouping (Option Node) := do
  if ← accept .dash then return some (← nodeUnless inner .block stops)
  return none

/-- A key, and its value after a colon, in a mapping in a block. -/
def blockEntry (inner : Inner) : Grouping (Option (Node × Node)) := do
  unless ← accept .key do return none
  let stops := [.key, .colon, .blockEnd]
  let key ← nodeUnless inner .entry stops
  if ← accept .colon then return some (key, ← nodeUnless inner .entry stops)
  return some (key, emptyNode)

/-- A key and its value inside brackets, after the token for a key. -/
def bracketEntry (inner : Inner) (close : Token) : Grouping (Node × Node) := do
  let key ← nodeUnless inner .bracketed [.colon, .comma, close]
  if ← accept .colon then return (key, ← nodeUnless inner .bracketed [.comma, close])
  return (key, emptyNode)

/-- Entries with commas between them, up to a closing bracket. -/
def bracketItems (close : Token) (item : Grouping α) : Grouping (List α) := do
  if ← accept close then return []
  let first ← item
  let more ← items do
    if ← accept close then return none
    expect .comma
    if ← accept close then return none
    return some (← item)
  return first :: more

/-- Inside square brackets a key and its value make a mapping of one entry. -/
def listItem (inner : Inner) : Grouping Node := do
  if ← accept .key then return .mapping .map [← bracketEntry inner .bracketClose]
  inner .bracketed

/-- Inside braces a node without the token for a key is a key without a value. -/
def mapItem (inner : Inner) : Grouping (Node × Node) := do
  if ← accept .key then return ← bracketEntry inner .braceClose
  return (← inner .bracketed, emptyNode)

/-! ### Anchors and tags -/

def anchor? : Grouping (Option String) := do
  match ← nextToken? with
  | some (.anchor n) => take; return some n
  | _ => return none

/-- A tag as it is written out. -/
def tag? : Grouping (Option String) := do
  match ← nextToken? with
  | some (.tag handle suffix) =>
    take
    match handle with
    | none => return some suffix
    | some h => return some ((← (← get).handles.lookup h) ++ suffix)
  | _ => return none

/-- An anchor and a tag in either order. -/
def properties : Grouping (Option String × Option String) := do
  match ← anchor? with
  | some a => return (some a, ← tag?)
  | none =>
    match ← tag? with
    | some t => return (← anchor?, some t)
    | none => return (none, none)

/-- The tags with a meaning of their own. -/
def Tag.ofName (name : String) : Tag :=
  ([("null", null), ("bool", bool), ("int", int), ("float", float), ("timestamp", time),
    ("str", text), ("merge", merge), ("value", value), ("seq", list), ("map", map)].lookup
      (Text.drop "tag:yaml.org,2002:".length name)).filter
        (fun _ => Text.startsWith name "tag:yaml.org,2002:") |>.getD unknown

/-- The tag that is given, unless none is or it leaves the choice open. -/
def tagOr (given : Option String) (otherwise : Tag) : Tag :=
  match given with
  | none => otherwise
  | some "!" => otherwise
  | some name => Tag.ofName name

/-! ### Nodes -/

/-- The node after its properties; `none` if nothing that starts one comes next. -/
def content (inner : Inner) (position : Position) (given : Option String) :
    Grouping (Option Node) := do
  match ← nextToken? with
  | some (.scalar isPlain text) =>
    take
    let isOpen := (isPlain && given.isNone) || given == some "!"
    return some (.scalar (if isOpen then Tag.ofPlain text else tagOr given .text) text)
  | some .bracketOpen =>
    take
    return some (.sequence (tagOr given .list) (← bracketItems .bracketClose (listItem inner)))
  | some .braceOpen =>
    take
    return some (.mapping (tagOr given .map) (← bracketItems .braceClose (mapItem inner)))
  | some .dash =>
    unless position == .entry do return none
    return some (.sequence (tagOr given .list)
      (← items (blockItem inner [.dash, .key, .colon, .blockEnd])))
  | some .sequenceStart =>
    if position == .bracketed then return none
    take
    let nodes ← items (blockItem inner [.dash, .blockEnd])
    expect .blockEnd
    return some (.sequence (tagOr given .list) nodes)
  | some .mappingStart =>
    if position == .bracketed then return none
    take
    let entries ← items (blockEntry inner)
    expect .blockEnd
    return some (.mapping (tagOr given .map) entries)
  | _ => return none

/-- Give a name to the node that a reader yields. The name must be new. -/
def named (name : Option String) (r : Grouping Node) : Grouping Node := do
  match name with
  | none => r
  | some n =>
    if ((← get).anchors.lookup n).isSome then failure
    modify fun s => { s with anchors := (n, none) :: s.anchors }
    let node ← r
    modify fun s => { s with anchors := (n, some node) :: s.anchors }
    return node

/-- A node: an alias, or properties and content, of which one may be missing. -/
def node : (depth : Nat) → Inner
  | 0, _ => failure
  | depth + 1, position => do
    if let some (.alias n) ← nextToken? then
      take
      return ← (← (← get).anchors.lookup n)
    let (name, given) ← properties
    named name do
      match ← content (node depth) position given with
      | some n => return n
      | none =>
        if name.isNone && given.isNone then failure
        return .scalar (tagOr given .null) ""

/-! ### Documents -/

/-- The handles that need no directive. -/
def standardHandles : List (String × String) := [("!", "!"), ("!!", "tag:yaml.org,2002:")]

/-- The directives before a document: one version at most, of the first edition, and new handles. -/
def directives : Grouping Unit := do
  let given ← items do
    match ← nextToken? with
    | some (.directive d) => take; return some d
    | _ => return none
  let versions := given.filterMap fun
    | .version major => some major
    | _ => none
  let handles := given.filterMap fun
    | .handle name expansion => some (name, expansion)
    | _ => none
  unless versions.length ≤ 1 && versions.all (· == 1) do failure
  unless (handles.map (·.1)).eraseDups.length == handles.length do failure
  modify fun s => { s with handles := handles ++ standardHandles }

/-- Skip the signs that end a document. -/
def documentEnds : Grouping Unit := do
  let _ ← items do
    if ← accept .documentEnd then return some () else return none

/-- The document at the start of the tokens. -/
def document (depth : Nat) : Grouping (Option Node) := do
  match ← nextToken? with
  | none => return none
  | some (.directive _) => explicit
  | some .documentStart => explicit
  | _ =>
    modify fun s => { s with handles := standardHandles }
    return some (← node depth .block)
where
  explicit : Grouping (Option Node) := do
    directives
    expect .documentStart
    match ← nextToken? with
    | none => return some emptyNode
    | some (.directive _) => return some emptyNode
    | some .documentStart => return some emptyNode
    | some .documentEnd => return some emptyNode
    | _ => return some (← node depth .block)

/-- The one document of a text, or nothing in a text without any. -/
def Node.ofTokens? (tokens : List Token) : Option (Option Node) := do
  let (root, s) ← (do
    let root ← document (tokens.length + 1)
    documentEnds
    return root : Grouping (Option Node)).run { tokens }
  guard s.tokens.isEmpty
  return root

end RouteAudit.Yaml
