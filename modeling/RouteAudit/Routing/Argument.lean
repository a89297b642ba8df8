import RouteAudit.Authorization.Middleware
import RouteAudit.Go.Name
import RouteAudit.Http.Method

/-! # Arguments of registration calls

Middleware arguments (`middlewareOf`, `middlewareList`), verbs given as arguments (`verbOf?`), paths
that name a verb or a host (`splitPattern`), middleware put in front of a single route
(`stripInline`), and handlers inside wrappers (`unwrapHandler`). -/

namespace RouteAudit

open Go (Node)

/-! ### Middleware -/

/-- A middleware argument; only a call has literals. -/
def middlewareOf (n : Node) : Middleware where
  name := n.handlerName
  literals := if n.kind = .call then n.literalArguments else []

/-- The middleware arguments that have a name. -/
def middlewareList (ns : List Node) : List Middleware :=
  (ns.map middlewareOf).filter fun m => !m.name.isEmpty

theorem middlewareList_append (ns ms : List Node) :
    middlewareList (ns ++ ms) = middlewareList ns ++ middlewareList ms := by
  simp [middlewareList]

/-! ### Verbs and paths -/

/-- The verb of an argument: a string in any letter case, or a selector such as
`http.MethodGet`. -/
def verbOf? (n : Node) : Option Method :=
  match n.stringValue? with
  | some s => Method.parse? s
  | none =>
    if n.kind = .selector then
      let name := n.textOf .field
      if Text.startsWith name "Method" then Method.parse? (Text.drop 6 name) else none
    else none

/-- The path from its first slash on, when something stands before that slash. -/
def dropHost (route : List Char) : List Char :=
  match route with
  | [] => []
  | '/' :: _ => route
  | _ => if route.contains '/' then route.dropWhile (· != '/') else route

/-- Route and verb of a pattern such as `"GET host/path"`. A first word that is no verb stays. -/
def splitPattern (pattern : String) : String × Option Method :=
  match Text.cutAt ' ' pattern.toList with
  | none => (String.ofList (dropHost pattern.toList), none)
  | some (word, rest) =>
    match Method.parse? (String.ofList word) with
    | none => (String.ofList (dropHost pattern.toList), none)
    | some m =>
      (String.ofList (dropHost (Text.trim Text.isBlank (String.ofList rest)).toList), some m)

/-! ### Inline middleware -/

/-- The receiver behind calls that put middleware in front of a route, and that middleware in source
order: `r.With(a).With(b)` is `r` with `a, b`. -/
def stripInline (inlineCalls : List String) (receiver : Node) : Node × List Middleware :=
  if receiver.kind = .call then
    match _h : receiver.methodCall? with
    | some (inner, method) =>
      if inlineCalls.contains method then
        let stripped := stripInline inlineCalls inner
        (stripped.1, stripped.2 ++ middlewareList receiver.callArguments)
      else (receiver, [])
    | none => (receiver, [])
  else (receiver, [])
termination_by receiver.size
decreasing_by exact Node.size_lt_of_methodCall? ‹_›

/-! ### Wrapped handlers -/

/-- The name of a conversion to a handler type. -/
def isConversion (name : String) : Bool := Text.endsWith name "HandlerFunc"

/-- A call of this name wraps a handler: it converts it, or its name has to do with
authentication. -/
def isWrapper (v : Vocabulary) (name : String) : Bool :=
  isConversion name || v.isAuth name || v.isAnonymous name

/-- The handler inside wrappers, and the wrappers other than conversions, outermost first. The
handler is the last argument of each wrapper. -/
def unwrapHandler (v : Vocabulary) (n : Node) : Node × List Middleware :=
  if n.kind = .call && isWrapper v n.callName then
    match _h : n.callArguments.getLast? with
    | some inner =>
      let unwrapped := unwrapHandler v inner
      (unwrapped.1,
        if isConversion n.callName then unwrapped.2 else middlewareOf n :: unwrapped.2)
    | none => (n, [])
  else (n, [])
termination_by n.size
decreasing_by exact Node.size_lt_of_mem_partsOf (List.mem_of_getLast? ‹_›)

end RouteAudit
