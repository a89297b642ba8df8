import RouteAudit.Authorization.Record
import RouteAudit.Text.Basic
import RouteAudit.Text.Case

/-! # Vocabularies of middleware names

A `Vocabulary` labels a middleware by the keywords its name contains in lower case: it may indicate
authentication, mark a route as anonymous, or name the list field its literal arguments belong to.
`Vocabulary.withAuthPatterns` adds keywords for authentication. -/

namespace RouteAudit

/-- Keywords by what they indicate. -/
structure Vocabulary where
  auth : List String
  anonymous : List String
  roles : List String
  permissions : List String
  scopes : List String
  policies : List String
deriving DecidableEq, Repr

namespace Vocabulary

/-- The keywords that are known without configuration. -/
def standard : Vocabulary where
  auth := ["auth", "jwt", "oauth", "session", "token", "bearer", "apikey", "api_key", "authenticate",
    "authorized", "requireauth", "require_auth", "protected", "secure", "guard", "permission", "role",
    "acl", "casbin"]
  anonymous := ["allowanonymous", "allow_anonymous", "public", "noauth", "no_auth", "skipauth",
    "skip_auth", "permitall", "permit_all"]
  roles := ["role"]
  permissions := ["permission"]
  scopes := ["scope"]
  policies := ["policy", "policies"]

/-- Some keyword occurs in the name's lower case. -/
def mentions (keywords : List String) (name : String) : Bool :=
  keywords.any fun k => Text.contains (Text.lower name) k

theorem mentions_append (ks ls : List String) (name : String) :
    mentions (ks ++ ls) name = (mentions ks name || mentions ls name) := by
  simp [mentions, List.any_append]

def isAuth (v : Vocabulary) (name : String) : Bool := mentions v.auth name

def isAnonymous (v : Vocabulary) (name : String) : Bool := mentions v.anonymous name

/-- The list field that literal arguments of this middleware belong to: permissions before scopes,
policies and roles. -/
def requirement? (v : Vocabulary) (name : String) : Option AuthField :=
  if mentions v.permissions name then some .permissions
  else if mentions v.scopes name then some .scopes
  else if mentions v.policies name then some .policies
  else if mentions v.roles name then some .roles
  else none

/-- The keywords that patterns add: in lower case, less the empty ones and those already known. -/
def newKeywords (v : Vocabulary) (patterns : List String) : List String :=
  (patterns.filter fun p => !p.isEmpty && !v.auth.contains (Text.lower p)).map Text.lower

/-- The vocabulary with further keywords for authentication. -/
def withAuthPatterns (v : Vocabulary) (patterns : List String) : Vocabulary :=
  { v with auth := v.auth ++ v.newKeywords patterns }

theorem isAuth_withAuthPatterns (v : Vocabulary) (patterns : List String) (name : String) :
    (v.withAuthPatterns patterns).isAuth name =
      (v.isAuth name || mentions (v.newKeywords patterns) name) :=
  mentions_append ..

end Vocabulary

end RouteAudit
