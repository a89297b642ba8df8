import RouteAudit.Finding
import RouteAudit.Text.Case

/-! # Rules

The rules of the program, which a classified endpoint is held to. Each `Rule` has an identifier, a
title, a severity and a description, and `Rule.objects` says when it objects to an endpoint;
`Rule.evaluate` then yields its one finding. A rule looks at one endpoint only. -/

namespace RouteAudit

/-- A rule of the program; some carry their parameter. -/
inductive Rule where
  | publicWithoutIntent
  | anonymousWrite
  | groupConflict
  | unprotectedWrite
  | excessiveRoles (limit : Int)
  | weakRoleNames (names : List String)
  | sensitiveRoute (keywords : List String)
  | withoutAuthentication
deriving DecidableEq, Repr

namespace Rule

/-! ### Standard parameters -/

/-- Role counts up to this are acceptable. -/
def standardRoleLimit : Int := 3

/-- Role names that say little. -/
def genericRoleNames : List String :=
  ["user", "users", "admin", "admins", "guest", "guests", "member", "members", "default", "basic",
   "standard", "normal", "regular"]

/-- Words in a route that suggest it should be protected. -/
def sensitiveWords : List String :=
  ["admin", "debug", "export", "import", "internal", "config", "settings", "secret", "private",
   "management", "manage", "system", "backup", "restore", "migrate", "database", "db", "console",
   "shell", "exec", "execute", "eval", "log", "logs", "trace", "metrics", "health", "status", "info",
   "actuator"]

/-- Every rule with its standard parameter, in the order of the catalogue. -/
def catalogue : List Rule :=
  [publicWithoutIntent, anonymousWrite, groupConflict, unprotectedWrite,
   excessiveRoles standardRoleLimit, weakRoleNames genericRoleNames, sensitiveRoute sensitiveWords,
   withoutAuthentication]

/-! ### Catalogue entries -/

def id : Rule → String
  | publicWithoutIntent => "AP001"
  | anonymousWrite => "AP002"
  | groupConflict => "AP003"
  | unprotectedWrite => "AP004"
  | excessiveRoles _ => "AP005"
  | weakRoleNames _ => "AP006"
  | sensitiveRoute _ => "AP007"
  | withoutAuthentication => "AP008"

def title : Rule → String
  | publicWithoutIntent => "Public without explicit intent"
  | anonymousWrite => "Anonymous access on write endpoint"
  | groupConflict => "Group/route authorization conflict"
  | unprotectedWrite => "Missing authentication on write endpoint"
  | excessiveRoles _ => "Excessive role access"
  | weakRoleNames _ => "Weak role naming"
  | sensitiveRoute _ => "Sensitive keyword in public route"
  | withoutAuthentication => "Endpoint without authentication"

def severity : Rule → Severity
  | publicWithoutIntent => .high
  | anonymousWrite => .high
  | groupConflict => .medium
  | unprotectedWrite => .critical
  | excessiveRoles _ => .low
  | weakRoleNames _ => .low
  | sensitiveRoute _ => .medium
  | withoutAuthentication => .high

def description : Rule → String
  | publicWithoutIntent =>
    "Public endpoint without explicit authorization intent. " ++
      "Endpoints should explicitly declare their authorization requirements."
  | anonymousWrite =>
    "Write endpoints (POST, PUT, DELETE, PATCH) with explicit anonymous access. " ++
      "This can allow unauthorized data modification."
  | groupConflict =>
    "Route-level anonymous access overrides group-level authentication. " ++
      "This may indicate a configuration mistake."
  | unprotectedWrite =>
    "Write endpoints (POST, PUT, DELETE, PATCH) without any authentication. " ++
      "This is a critical security risk allowing unauthorized data modification."
  | excessiveRoles limit =>
    "Endpoint allows access to more than " ++ intText limit ++ " roles. " ++
      "Consider using broader permission categories."
  | weakRoleNames _ =>
    "Role names are too generic. " ++
      "Consider using more descriptive names that indicate specific permissions."
  | sensitiveRoute _ =>
    "Public route contains sensitive keywords suggesting it should be protected. " ++
      "Routes with admin, debug, export, or internal keywords often require authentication."
  | withoutAuthentication =>
    "Endpoint has no authentication configuration. " ++
      "Consider adding authentication middleware."

/-! ### When a rule objects -/

/-- Open to anyone, with neither an anonymous marker nor any protection. -/
def isSilentlyPublic (e : Endpoint) : Bool :=
  e.exposure == .anyone && !e.authorization.allowsAnonymous && !e.authorization.hasSignal

/-- The roles of an endpoint that are generic names. -/
def weakRoles (names : List String) (e : Endpoint) : List String :=
  e.authorization.roles.filter fun r => (names.map Text.lower).contains (Text.lower r)

/-- The keywords that occur in an endpoint's route, in lower case. -/
def routeKeywords (keywords : List String) (e : Endpoint) : List String :=
  (keywords.map Text.lower).filter fun k => Text.contains (Text.lower e.fullRoute) k

/-- The rule objects to the endpoint. -/
def objects (r : Rule) (e : Endpoint) : Bool :=
  match r with
  | publicWithoutIntent => isSilentlyPublic e
  | anonymousWrite => e.isWrite && e.authorization.allowsAnonymous
  | groupConflict => e.authorization.allowsAnonymous && e.authorization.inherited
  | unprotectedWrite => e.isWrite && isSilentlyPublic e
  | excessiveRoles limit => decide (limit < e.authorization.roles.length)
  | weakRoleNames names => !(weakRoles names e).isEmpty
  | sensitiveRoute keywords =>
    e.exposure == .anyone && !e.authorization.allowsAnonymous && !(routeKeywords keywords e).isEmpty
  | withoutAuthentication => isSilentlyPublic e

/-! ### Messages -/

/-- How to protect an endpoint of a framework. -/
def advice : Framework → String
  | .gin =>
    "Add authentication middleware: use gin-jwt, gin-session, or custom auth middleware"
  | .echo =>
    "Add authentication middleware: use echo-jwt, echo middleware, or custom auth handler"
  | .chi =>
    "Add authentication middleware: use chi middleware with jwtauth or custom auth handler"
  | .fiber =>
    "Add authentication middleware: use fiber-jwt, fiber-session, or custom auth middleware"
  | .netHttp =>
    "Add authentication: wrap handler with auth middleware or check auth in handler"
  | .unknown => "Add authentication middleware to protect this endpoint"

def message (r : Rule) (e : Endpoint) : String :=
  let route := "'" ++ e.fullRoute ++ "'"
  let verbs := "[" ++ e.methodText ++ "]"
  match r with
  | publicWithoutIntent =>
    "Endpoint " ++ route ++ " is public without explicit authorization intent"
  | anonymousWrite =>
    "Write endpoint " ++ route ++ " " ++ verbs ++ " explicitly allows anonymous access"
  | groupConflict =>
    "Route " ++ route ++ " allows anonymous access, overriding group-level authentication"
  | unprotectedWrite => "Write endpoint " ++ route ++ " " ++ verbs ++ " has no authentication"
  | excessiveRoles _ =>
    "Endpoint " ++ route ++ " allows access to " ++ natText e.authorization.roles.length ++
      " roles: " ++ Text.join ", " e.authorization.roles
  | weakRoleNames names =>
    "Endpoint " ++ route ++ " uses generic role names: " ++ Text.join ", " (weakRoles names e)
  | sensitiveRoute keywords =>
    "Public route " ++ route ++ " contains sensitive keywords: " ++
      Text.join ", " (routeKeywords keywords e)
  | withoutAuthentication => "Endpoint " ++ route ++ " has no authentication configuration"

def recommendation (r : Rule) (e : Endpoint) : String :=
  match r with
  | publicWithoutIntent => "Add explicit authorization middleware or mark as intentionally public"
  | anonymousWrite =>
    "Remove anonymous access from write endpoints, or add rate limiting and " ++
      "validation if public access is required"
  | groupConflict =>
    "Verify this override is intentional. If the route should be public, " ++
      "consider documenting why with a comment"
  | unprotectedWrite => "Add authentication middleware to protect this write endpoint"
  | excessiveRoles _ =>
    "Consider grouping roles into broader permission categories or using policies"
  | weakRoleNames _ =>
    "Use more descriptive role names that indicate permissions, e.g., " ++
      "'billing_admin', 'content_editor', 'report_viewer'"
  | sensitiveRoute _ =>
    "Consider adding authentication to this endpoint or marking it as intentionally public"
  | withoutAuthentication => advice e.framework

/-! ### Evaluation -/

/-- The finding that the rule makes of an endpoint it objects to. -/
def finding (r : Rule) (e : Endpoint) : Finding where
  ruleId := r.id
  ruleName := r.title
  severity := r.severity
  message := r.message e
  endpoint := e
  recommendation := r.recommendation e

/-- At most one finding. -/
def evaluate (r : Rule) (e : Endpoint) : List Finding := if r.objects e then [r.finding e] else []

theorem mem_evaluate_iff {r : Rule} {e : Endpoint} {f : Finding} :
    f ∈ r.evaluate e ↔ r.objects e = true ∧ f = r.finding e := by
  unfold evaluate; split <;> simp_all

theorem ruleId_of_mem_evaluate {r : Rule} {e : Endpoint} {f : Finding} (h : f ∈ r.evaluate e) :
    f.ruleId = r.id := by
  rw [(mem_evaluate_iff.1 h).2]; rfl

end Rule

end RouteAudit
