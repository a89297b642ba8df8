import RouteAudit.Data.Assoc
import RouteAudit.Finding

/-! # Grouping findings

`groupBy` splits a list by a key; the groups stand in the order in which their keys first appear and
keep the order of the list inside. `Grouping` names the keys that reports can group findings by. -/

namespace RouteAudit

variable {α : Type}

/-- Add an element to the group of its key. -/
def addToGroup (key : α → String) (groups : List (String × List α)) (a : α) :
    List (String × List α) :=
  Assoc.update (key a) (fun old => old.getD [] ++ [a]) groups

/-- The groups of a list by a key. -/
def groupBy (key : α → String) (xs : List α) : List (String × List α) :=
  xs.foldl (addToGroup key) []

/-- What findings can be grouped by. -/
inductive Grouping where
  | file
  | exposure
  | rule
  | framework
  /-- All in one group without a name. -/
  | together
deriving DecidableEq, Repr

namespace Grouping

/-- The groupings that have a name. -/
def choices : List (String × Grouping) :=
  [("file", file), ("classification", exposure), ("rule", rule), ("framework", framework)]

/-- The grouping with a name; any other name asks for none of the keys. -/
def ofName (s : String) : Grouping := (choices.lookup s).getD together

/-- The name of the group that a finding belongs to. -/
def key (f : Finding) : Grouping → String
  | file => f.endpoint.filePath
  | exposure => f.endpoint.exposure.name
  | rule => f.ruleId ++ ": " ++ f.ruleName
  | framework => f.endpoint.framework.name
  | together => ""

end Grouping

/-- The groups of findings; without a grouping there is one, and it has no name. -/
def groupFindings (g : Option Grouping) (fs : List Finding) : List (String × List Finding) :=
  groupBy (fun f => (g.getD .together).key f) fs

end RouteAudit
