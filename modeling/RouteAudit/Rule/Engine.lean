import RouteAudit.Rule.Basic

/-! # Running rules

What is run on an endpoint is a `Check`: one of the program's rules, or any other with an identifier
of its own. `RuleSet` is a list of checks with an optional list of enabled identifiers.
`RuleSet.evaluateAll` goes through the endpoints in order and through the enabled checks in order
for each. -/

namespace RouteAudit

/-- Anything that makes findings of an endpoint. -/
structure Check where
  id : String
  title : String
  severity : Severity
  description : String
  evaluate : Endpoint → List Finding

/-- A rule of the program as a check. -/
def Rule.check (r : Rule) : Check where
  id := r.id
  title := r.title
  severity := r.severity
  description := r.description
  evaluate := r.evaluate

/-- The checks that are run where no others are given. -/
def Check.standard : List Check := Rule.catalogue.map Rule.check

/-- Checks to run; without a list of identifiers all of them are enabled. -/
structure RuleSet where
  enabled : Option (List String) := none
  rules : List Check := Check.standard

namespace RuleSet

def isEnabled (s : RuleSet) (id : String) : Bool :=
  match s.enabled with
  | none => true
  | some ids => ids.contains id

/-- The checks that run. -/
def active (s : RuleSet) : List Check := s.rules.filter fun r => s.isEnabled r.id

/-- The first check with an identifier, enabled or not. -/
def find? (s : RuleSet) (id : String) : Option Check := s.rules.find? fun r => r.id == id

def evaluate (s : RuleSet) (e : Endpoint) : List Finding := s.active.flatMap fun r => r.evaluate e

def evaluateAll (s : RuleSet) (es : List Endpoint) : List Finding := es.flatMap s.evaluate

end RuleSet

end RouteAudit
