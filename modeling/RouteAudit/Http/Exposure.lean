/-! # Exposure classes

Who can reach an endpoint: anyone, authenticated callers, callers with a role, or callers that a
policy, permission or scope admits. `Exposure.rank` orders the classes by protection. -/

namespace RouteAudit

/-- Who an endpoint admits. -/
inductive Exposure where
  | anyone
  | authenticated
  | roleRestricted
  | policyRestricted
deriving DecidableEq, Repr

namespace Exposure

def all : List Exposure := [anyone, authenticated, roleRestricted, policyRestricted]

def name : Exposure → String
  | anyone => "public"
  | authenticated => "authenticated"
  | roleRestricted => "role_restricted"
  | policyRestricted => "policy_restricted"

def ofName? (s : String) : Option Exposure := all.find? fun e => e.name == s

@[simp] theorem ofName?_name (e : Exposure) : ofName? e.name = some e := by cases e <;> decide

/-- The degree of protection. -/
def rank : Exposure → Nat
  | anyone => 0
  | authenticated => 1
  | roleRestricted => 2
  | policyRestricted => 3

end Exposure

end RouteAudit
