/-! # Routing frameworks

The libraries whose route registrations are recognised. -/

namespace RouteAudit

/-- A routing library for Go. -/
inductive Framework where
  | gin
  | echo
  | chi
  | fiber
  | netHttp
  | unknown
deriving DecidableEq, Repr

namespace Framework

def all : List Framework := [gin, echo, chi, fiber, netHttp, unknown]

/-- The frameworks that have a grammar, in the order in which they are tried. -/
def supported : List Framework := [gin, echo, chi, fiber, netHttp]

def name : Framework → String
  | gin => "gin"
  | echo => "echo"
  | chi => "chi"
  | fiber => "fiber"
  | netHttp => "net/http"
  | unknown => "unknown"

def ofName? (s : String) : Option Framework := all.find? fun f => f.name == s

@[simp] theorem ofName?_name (f : Framework) : ofName? f.name = some f := by cases f <;> decide

theorem name_injective {f g : Framework} (h : f.name = g.name) : f = g := by
  have := congrArg ofName? h
  simpa using this

end Framework

end RouteAudit
