import RouteAudit.Http.Framework
import RouteAudit.Http.Method

/-! # Call shapes of routing frameworks

A `Grammar` says how one framework registers routes: the imports that reveal it, the names of its
verb calls, where the handler stands among the arguments, and how groups come about.
`Grammar.standard` lists the grammars of the supported frameworks. -/

namespace RouteAudit

/-- How a group handle gets its name. -/
inductive GroupBinding where
  /-- The framework has no groups. -/
  | absent
  /-- `api := r.Group("/api", mw...)` -/
  | assignment
  /-- `r.Route("/api", func(api chi.Router) {...})` -/
  | closure
deriving DecidableEq, Repr

/-- Where the handler stands after the path. -/
inductive HandlerPosition where
  /-- Path, middleware, handler. -/
  | last
  /-- Path, handler, middleware. -/
  | second
deriving DecidableEq, Repr

/-- The call shapes of a framework. -/
structure Grammar where
  framework : Framework
  importPath : String
  /-- Packages at or below this path count as well. -/
  importBase : Option String := none
  /-- Names of the calls that stand for one verb. -/
  verbs : List (String × Method) := []
  handlerPosition : HandlerPosition
  groupMethods : List String := []
  groupBinding : GroupBinding := .absent
  /-- Calls whose first argument is the verb. -/
  verbArgumentCalls : List String := []
  /-- The least number of arguments of such a call, the verb included. -/
  verbArgumentCount : Nat := 2
  /-- Calls that stand for every verb. -/
  allVerbCalls : List String := []
  useMethods : List String := ["Use"]
  /-- Calls that put middleware in front of a single route. -/
  inlineCalls : List String := []
  /-- The least number of arguments from the path on. -/
  routeArgumentCount : Nat := 2
  passLiterals : Bool := true
  /-- A call without a receiver may register a route. -/
  bareCalls : Bool := false
  /-- The path may start with a verb, as in `"GET /users/{id}"`. -/
  methodPatterns : Bool := false
  /-- The handler may be wrapped, as in `Auth(http.HandlerFunc(h))`. -/
  wrappedHandlers : Bool := false
  /-- A path without a slash is none. -/
  requireSlash : Bool := false
deriving Repr

namespace Grammar

/-- Verb calls in capitals, such as `GET`. -/
def upperVerbs : List (String × Method) := Method.all.map fun m => (m.name, m)

/-- Verb calls with a capital first letter, such as `Get`. -/
def titleVerbs : List (String × Method) := Method.all.map fun m => (m.title, m)

def gin : Grammar where
  framework := .gin
  importPath := "github.com/gin-gonic/gin"
  importBase := some "github.com/gin-gonic/gin"
  verbs := upperVerbs
  handlerPosition := .last
  groupMethods := ["Group"]
  groupBinding := .assignment
  verbArgumentCalls := ["Handle"]
  allVerbCalls := ["Any"]
  routeArgumentCount := 1

def echo : Grammar where
  framework := .echo
  importPath := "github.com/labstack/echo/v4"
  importBase := some "github.com/labstack/echo"
  verbs := upperVerbs
  handlerPosition := .second
  groupMethods := ["Group"]
  groupBinding := .assignment
  verbArgumentCalls := ["Add"]
  verbArgumentCount := 3
  allVerbCalls := ["Any"]

def chi : Grammar where
  framework := .chi
  importPath := "github.com/go-chi/chi/v5"
  importBase := some "github.com/go-chi/chi"
  verbs := titleVerbs
  handlerPosition := .second
  groupMethods := ["Route", "Group"]
  groupBinding := .closure
  verbArgumentCalls := ["Method", "MethodFunc"]
  inlineCalls := ["With"]

def fiber : Grammar where
  framework := .fiber
  importPath := "github.com/gofiber/fiber/v2"
  importBase := some "github.com/gofiber/fiber"
  verbs := titleVerbs
  handlerPosition := .last
  groupMethods := ["Group"]
  groupBinding := .assignment
  verbArgumentCalls := ["Add"]
  verbArgumentCount := 3
  allVerbCalls := ["All"]

def netHttp : Grammar where
  framework := .netHttp
  importPath := "net/http"
  handlerPosition := .second
  allVerbCalls := ["HandleFunc", "Handle"]
  useMethods := []
  passLiterals := false
  bareCalls := true
  methodPatterns := true
  wrappedHandlers := true
  requireSlash := true

/-- The grammar of a supported framework. -/
def of? : Framework → Option Grammar
  | .gin => some gin
  | .echo => some echo
  | .chi => some chi
  | .fiber => some fiber
  | .netHttp => some netHttp
  | .unknown => none

/-- Every grammar, in the order in which they are tried. -/
def standard : List Grammar := [gin, echo, chi, fiber, netHttp]

end Grammar

end RouteAudit
