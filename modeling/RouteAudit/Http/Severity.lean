import RouteAudit.Text.Basic
import RouteAudit.Text.Blank
import RouteAudit.Text.Case

/-! # Severities

Five levels in a total order. `Severity.parse` reads a level in any letter case and takes every
other text for the least. -/

namespace RouteAudit

/-- How grave a finding is. -/
inductive Severity where
  | info
  | low
  | medium
  | high
  | critical
deriving DecidableEq, Repr

namespace Severity

/-- Every level, the least first. -/
def all : List Severity := [info, low, medium, high, critical]

/-- Every level, the greatest first. -/
def descending : List Severity := [critical, high, medium, low, info]

def name : Severity → String
  | info => "info"
  | low => "low"
  | medium => "medium"
  | high => "high"
  | critical => "critical"

/-- The name with a capital first letter. -/
def title : Severity → String
  | info => "Info"
  | low => "Low"
  | medium => "Medium"
  | high => "High"
  | critical => "Critical"

def rank : Severity → Nat
  | info => 0
  | low => 1
  | medium => 2
  | high => 3
  | critical => 4

/-- The level is as grave as the other or graver. -/
def atLeast (s t : Severity) : Bool := decide (t.rank ≤ s.rank)

@[simp] theorem atLeast_iff {s t : Severity} : s.atLeast t = true ↔ t.rank ≤ s.rank := by
  simp [atLeast]

def ofName? (s : String) : Option Severity := all.find? fun v => v.name == s

@[simp] theorem ofName?_name (s : Severity) : ofName? s.name = some s := by cases s <;> decide

/-- The level a text spells; `info` when it spells none. -/
def parse (s : String) : Severity :=
  (ofName? (Text.lower (Text.trim Text.isBlank s))).getD info

end Severity

end RouteAudit
