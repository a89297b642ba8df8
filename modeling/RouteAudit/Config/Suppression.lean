import RouteAudit.Pattern.Regex.Match
import RouteAudit.Pattern.Regex.Parse
import RouteAudit.Text.Basic

/-! # Suppressions

A `Suppression` silences a rule, or every rule, on the routes that its pattern is found in. How a
pattern is looked for is a `RouteSearch`. The program's own, `Suppression.finds`, takes patterns for
regular expressions and looks for a malformed one as it stands; a `PatternFault` ends the search. -/

namespace RouteAudit

/-- A way to look for a pattern in a route. -/
abbrev RouteSearch := (pattern route : String) → Except PatternFault Bool

/-- Silences a rule on some routes. -/
structure Suppression where
  /-- The rule's identifier, or a star for every rule. -/
  rule : String
  /-- A pattern for routes; empty for all of them. -/
  route : String := ""
  reason : String := ""
deriving DecidableEq, Repr

namespace Suppression

/-- The pattern is found in the route. -/
def finds : RouteSearch := fun pattern route =>
  match Regex.parse pattern with
  | .ok r => .ok (r.search route)
  | .error .malformed => .ok (Text.contains route pattern)
  | .error (.fault f) => .error f

def coversRule (s : Suppression) (ruleId : String) : Bool := s.rule == ruleId || s.rule == "*"

def coversRoute (s : Suppression) (search : RouteSearch) (route : String) :
    Except PatternFault Bool :=
  if s.route.isEmpty then .ok true else search s.route route

/-- The suppression applies to a rule's finding on a route. Where the rule is another one, the
pattern is not looked for. -/
def applies (s : Suppression) (search : RouteSearch) (ruleId route : String) :
    Except PatternFault Bool :=
  if s.coversRule ruleId then s.coversRoute search route else .ok false

/-- The reason of the first suppression that applies. Those after it are not looked at. -/
def reason? (search : RouteSearch) (ruleId route : String) :
    List Suppression → Except PatternFault (Option String)
  | [] => .ok none
  | s :: rest => do
    if ← s.applies search ruleId route then return some s.reason
    else reason? search ruleId route rest

end Suppression

end RouteAudit
