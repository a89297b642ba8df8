import RouteAudit.Authorization.Record
import RouteAudit.Files.Path
import RouteAudit.Http.Framework
import RouteAudit.Http.Method
import RouteAudit.Number.Shortest
import RouteAudit.Text.Basic

/-! # Endpoints

An `Endpoint` is one binding of a route to a handler found in source text. `fullRoute` puts the
prefix of its group in front of the route; `sameBinding` compares two endpoints by what they bind
and where. -/

namespace RouteAudit

/-- One route bound to a handler. -/
structure Endpoint where
  route : String
  methods : List Method
  filePath : String
  line : Nat
  framework : Framework := .unknown
  handler : String := ""
  routerPrefix : String := ""
  middleware : List String := []
  authorization : Authorization := {}
  exposure : Exposure := .anyone
deriving DecidableEq, Repr

namespace Endpoint

/-- A slash in front unless there is one. -/
def rooted (route : String) : String := if Text.startsWith route "/" then route else "/" ++ route

/-- A route below a prefix. The slashes at the end of the prefix give way to the one in front of
the route. -/
def joinRoute (groupPrefix route : String) : String :=
  if groupPrefix.isEmpty then route else Text.trimEnd (· == '/') groupPrefix ++ rooted route

/-- The route with the prefix of its group. -/
def fullRoute (e : Endpoint) : String := joinRoute e.routerPrefix e.route

@[simp] theorem joinRoute_empty (route : String) : joinRoute "" route = route := rfl

/-- Some method changes state. -/
def isWrite (e : Endpoint) : Bool := e.methods.any Method.isWrite

def methodNames (e : Endpoint) : List String := e.methods.map Method.name

def methodText (e : Endpoint) : String := Text.join ", " e.methodNames

def location (e : Endpoint) : String := e.filePath ++ ":" ++ natText e.line

def shortLocation (e : Endpoint) : String := (Path.ofText e.filePath).name ++ ":" ++ natText e.line

/-- The same methods, in any order and number. -/
def sameMethods (ms ns : List Method) : Bool :=
  ms.all (fun m => ns.contains m) && ns.all fun n => ms.contains n

/-- Both bind the same route and methods at the same place. -/
def sameBinding (e f : Endpoint) : Bool :=
  e.route == f.route && sameMethods e.methods f.methods && e.filePath == f.filePath &&
    e.line == f.line

/-- The number of endpoints that bind something different. -/
def distinctCount : List Endpoint → Nat
  | [] => 0
  | e :: rest => (if rest.any e.sameBinding then 0 else 1) + distinctCount rest

/-- The endpoint in the class of its authorization. -/
def classified (e : Endpoint) : Endpoint := { e with exposure := e.authorization.exposure }

end Endpoint

end RouteAudit
