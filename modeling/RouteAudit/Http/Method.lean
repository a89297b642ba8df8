import RouteAudit.Text.Basic
import RouteAudit.Text.Blank
import RouteAudit.Text.Case

/-! # Request methods

The seven verbs a route can answer. `Method.parse?` reads a verb in any letter case with white space
around it; `Method.isWrite` marks the verbs that change state. -/

namespace RouteAudit

/-- A verb of a request. -/
inductive Method where
  | get
  | post
  | put
  | delete
  | patch
  | head
  | options
deriving DecidableEq, Repr

namespace Method

/-- Every verb, in the order in which a route for all of them lists them. -/
def all : List Method := [get, post, put, delete, patch, head, options]

/-- The verb in capitals. -/
def name : Method → String
  | get => "GET"
  | post => "POST"
  | put => "PUT"
  | delete => "DELETE"
  | patch => "PATCH"
  | head => "HEAD"
  | options => "OPTIONS"

/-- The verb with a capital first letter. -/
def title : Method → String
  | get => "Get"
  | post => "Post"
  | put => "Put"
  | delete => "Delete"
  | patch => "Patch"
  | head => "Head"
  | options => "Options"

/-- The verb with this name in capitals. -/
def ofName? (s : String) : Option Method := all.find? fun m => m.name == s

@[simp] theorem ofName?_name (m : Method) : ofName? m.name = some m := by cases m <;> decide

theorem name_of_ofName? {s : String} {m : Method} (h : ofName? s = some m) : m.name = s := by
  simpa using List.find?_some h

/-- The verb that a text spells in any letter case. -/
def parse? (s : String) : Option Method := ofName? (Text.upper (Text.trim Text.isBlank s))

/-- The verb changes state. -/
def isWrite : Method → Bool
  | post => true
  | put => true
  | delete => true
  | patch => true
  | _ => false

end Method

end RouteAudit
