import RouteAudit.Go.Import
import RouteAudit.Endpoint
import RouteAudit.Routing.Argument
import RouteAudit.Routing.Grammar
import RouteAudit.Routing.Group

/-! # Finding routes

A `Detector` is a grammar with a vocabulary. `Detector.findGroups` goes through a tree and builds
the table of its groups; `Detector.readCall` reads one call against the grammar; `Detector.discover`
lists the endpoints that the calls of a tree register. -/

namespace RouteAudit

open Go (Node)

/-- A grammar with the vocabulary that labels middleware. -/
structure Detector where
  grammar : Grammar
  vocabulary : Vocabulary := .standard
deriving Repr

namespace Detector

def framework (d : Detector) : Framework := d.grammar.framework

def extractor (d : Detector) : Extractor := ⟨d.vocabulary, d.grammar.passLiterals⟩

/-- A detector for each supported framework. -/
def standard (v : Vocabulary) : List Detector := Grammar.standard.map (⟨·, v⟩)

/-- The imports of a file reveal the framework. -/
def accepts (d : Detector) (imports : Go.Imports) : Bool :=
  imports.has d.grammar.importPath ||
    match d.grammar.importBase with
    | some base => !base.isEmpty && imports.hasBelow base
    | none => false

/-! ### Groups -/

/-- Bind the target of an assignment whose value opens a group. -/
def bindAssigned (d : Detector) (t : GroupTable) (target value : Node) : GroupTable :=
  if value.kind = .call then
    match value.methodCall? with
    | some (receiver, method) =>
      let key := target.dottedName
      if d.grammar.groupMethods.contains method && !key.isEmpty && key != "_" then
        let args := value.callArguments
        let inner := match args with
          | [] => ""
          | first :: _ => first.stringOrEmpty
        let parentKey := receiver.dottedName
        let parent := if parentKey = key then none else t.lookup parentKey value.start
        t.bind key (Group.nested parent inner (middlewareList (args.drop 1)))
      else t
    | none => t
  else t

/-- Bind the parameter of a function literal that a call opens a group with. -/
def bindClosure (t : GroupTable) (call receiver : Node) : GroupTable :=
  let args := call.callArguments
  match args.getLast? with
  | some body =>
    if body.kind = .funcLiteral then
      let key := body.parameterName
      if !key.isEmpty && key != "_" then
        let inner := match args with
          | first :: _ :: _ => first.stringOrEmpty
          | _ => ""
        let parent := t.lookup receiver.dottedName call.start
        t.bind key (Group.nested parent inner [] (some body.span))
      else t
    else t
  | none => t

/-- Note what a call of a method means for the groups. -/
def noteCall (d : Detector) (t : GroupTable) (call : Node) : GroupTable :=
  match call.methodCall? with
  | some (receiver, method) =>
    if d.grammar.groupBinding = .closure ∧ d.grammar.groupMethods.contains method then
      bindClosure t call receiver
    else if d.grammar.useMethods.contains method then
      let key := receiver.dottedName
      if key.isEmpty then t else t.use key call.start (middlewareList call.callArguments)
    else t
  | none => t

/-- The node is an assignment or a variable declaration. -/
def isAssignment (n : Node) : Bool :=
  n.kind == .shortVar || n.kind == .assignment || n.kind == .varSpec

/-- Note what a node means for the groups. -/
def noteNode (d : Detector) (t : GroupTable) (n : Node) : GroupTable :=
  if d.grammar.groupBinding = .assignment ∧ isAssignment n then
    n.assignments.foldl (fun t p => d.bindAssigned t p.1 p.2) t
  else if n.kind = .call then d.noteCall t n
  else t

/-- The groups of a tree. -/
def findGroups (d : Detector) (root : Node) : GroupTable := root.walk.foldl d.noteNode {}

/-! ### Calls -/

/-- What a call is called on: the method, the receiver's name and the middleware put in front. -/
structure Target where
  method : String
  receiver : String := ""
  inline : List Middleware := []
deriving DecidableEq, Repr

/-- The target of a call. A call without a receiver has one only if the grammar allows it. -/
def target? (d : Detector) (call : Node) : Option Target :=
  match call.methodCall? with
  | some (receiver, method) =>
    let stripped := stripInline d.grammar.inlineCalls receiver
    some ⟨method, stripped.1.dottedName, stripped.2⟩
  | none =>
    if d.grammar.bareCalls then
      match call.child? .function with
      | some f => if f.kind = .identifier then some ⟨f.text, "", []⟩ else none
      | none => none
    else none

/-- The verbs that a method registers, and the arguments from the path on. -/
def verbs? (d : Detector) (method : String) (args : List Node) : Option (List Method × List Node) :=
  match d.grammar.verbs.lookup method with
  | some m => some ([m], args)
  | none =>
    if d.grammar.verbArgumentCalls.contains method then
      match args with
      | [] => none
      | first :: rest =>
        if args.length < d.grammar.verbArgumentCount then none
        else (verbOf? first).map fun m => ([m], rest)
    else if d.grammar.allVerbCalls.contains method then some (Method.all, args)
    else none

/-- Handler and middleware among the arguments from the path on. -/
def handlerAndMiddleware (d : Detector) (args : List Node) : Option Node × List Node :=
  match args with
  | _ :: second :: rest =>
    match d.grammar.handlerPosition with
    | .second => (some second, rest)
    | .last => ((second :: rest).getLast?, (second :: rest).dropLast)
  | _ => (none, [])

/-- The handler of a route without its wrappers, and the wrappers. -/
def unwrapped (d : Detector) (handler : Option Node) : Option Node × List Middleware :=
  match handler with
  | some h =>
    if d.grammar.wrappedHandlers then
      let u := unwrapHandler d.vocabulary h
      (some u.1, u.2)
    else (some h, [])
  | none => (none, [])

/-- Path and verbs after a pattern has been taken apart. -/
def routeAndVerbs (d : Detector) (literal : String) (methods : List Method) :
    String × List Method :=
  if d.grammar.methodPatterns then
    let split := splitPattern literal
    (split.1, match split.2 with
      | some m => [m]
      | none => methods)
  else (literal, methods)

/-- What a call turns out to be. -/
inductive Reading where
  /-- The call registers no route. -/
  | unrelated
  /-- The call has the shape of a registration, but its path is no literal. -/
  | computedPath (line : Nat)
  /-- The call registers an endpoint. -/
  | route (e : Endpoint)
deriving DecidableEq, Repr

/-- The endpoint of a registration. -/
def endpointOf (d : Detector) (filePath : String) (t : GroupTable) (call : Node) (target : Target)
    (route : String) (methods : List Method) (args : List Node) : Endpoint :=
  let handling := d.handlerAndMiddleware args
  let inner := d.unwrapped handling.1
  let group := if target.receiver.isEmpty then none else t.lookup target.receiver call.start
  let groupChain := match group with
    | some g => g.middleware
    | none => []
  let routeChain := target.inline ++ middlewareList handling.2 ++ inner.2
  { route
    methods
    filePath
    line := call.line
    framework := d.framework
    handler := match inner.1 with
      | some h => h.handlerName
      | none => ""
    routerPrefix := match group with
      | some g => g.pathPrefix
      | none => ""
    middleware := (groupChain ++ routeChain).map (·.name)
    authorization := (d.extractor.extractGroup groupChain).merge (d.extractor.extract routeChain) }

/-- Read a registration whose target, verbs and arguments are known. -/
def readRoute (d : Detector) (filePath : String) (t : GroupTable) (call : Node) (target : Target)
    (methods : List Method) (args : List Node) : Reading :=
  match args with
  | [] => .unrelated
  | path :: _ =>
    if args.length < d.grammar.routeArgumentCount then .unrelated
    else
      let literal := path.stringOrEmpty
      if literal.isEmpty then .computedPath call.line
      else
        let split := d.routeAndVerbs literal methods
        if d.grammar.requireSlash && !Text.contains split.1 "/" then .unrelated
        else .route (d.endpointOf filePath t call target split.1 split.2 args)

/-- Read a call. -/
def readCall (d : Detector) (filePath : String) (t : GroupTable) (call : Node) : Reading :=
  match d.target? call with
  | none => .unrelated
  | some target =>
    match d.verbs? target.method call.callArguments with
    | none => .unrelated
    | some (methods, args) => d.readRoute filePath t call target methods args

/-! ### Whole trees -/

/-- The readings of the calls of a tree, in source order. -/
def readings (d : Detector) (filePath : String) (root : Node) : List Reading :=
  let t := d.findGroups root
  (root.walk.filter fun n => n.kind == .call).map (d.readCall filePath t)

def Reading.endpoint? : Reading → Option Endpoint
  | .route e => some e
  | _ => none

/-- The line of a registration that was passed over because its path is no literal. -/
def Reading.skippedLine? : Reading → Option Nat
  | .computedPath line => some line
  | _ => none

/-- The endpoints that a tree registers. -/
def discover (d : Detector) (filePath : String) (root : Node) : List Endpoint :=
  (d.readings filePath root).filterMap Reading.endpoint?

/-- The lines of the registrations that were passed over. -/
def skippedLines (d : Detector) (filePath : String) (root : Node) : List Nat :=
  (d.readings filePath root).filterMap Reading.skippedLine?

end Detector

end RouteAudit
