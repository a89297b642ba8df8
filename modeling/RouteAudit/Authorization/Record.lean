import RouteAudit.Http.Exposure

/-! # Authorization records

An `Authorization` collects what is known about the protection of one endpoint or group: whether
authentication is required, whether anonymous access is allowed, and the values of its list fields.
`firstSeen` keeps the first occurrence of each value, and `Authorization.add` appends to a field
that way. `Authorization.exposure` is the class the record falls into. -/

namespace RouteAudit

/-! ### First-seen order -/

/-- The distinct values in the order in which they first occur. -/
def firstSeen : List String → List String
  | [] => []
  | x :: rest => x :: (firstSeen rest).filter (· != x)

@[simp] theorem mem_firstSeen {x : String} {xs : List String} : x ∈ firstSeen xs ↔ x ∈ xs := by
  induction xs with
  | nil => simp [firstSeen]
  | cons y ys ih =>
    by_cases h : x = y <;> simp [firstSeen, ih, h]

theorem nodup_firstSeen (xs : List String) : (firstSeen xs).Nodup := by
  induction xs with
  | nil => simp [firstSeen]
  | cons y ys ih =>
    rw [firstSeen, List.nodup_cons]
    exact ⟨by simp, ih.filter _⟩

/-! ### Records -/

/-- Where a record comes from: nowhere, a route's own middleware, or a group around it. -/
inductive AuthSource where
  | unset
  | middleware
  | router
deriving DecidableEq, Repr

namespace AuthSource

def all : List AuthSource := [unset, middleware, router]

def name : AuthSource → String
  | unset => ""
  | middleware => "middleware"
  | router => "router"

def ofName? (s : String) : Option AuthSource := all.find? fun a => a.name == s

end AuthSource

/-- The list fields of a record. -/
inductive AuthField where
  | roles
  | scopes
  | permissions
  | policies
  | dependencies
deriving DecidableEq, Repr

namespace AuthField

def all : List AuthField := [roles, scopes, permissions, policies, dependencies]

def name : AuthField → String
  | roles => "roles"
  | scopes => "scopes"
  | permissions => "permissions"
  | policies => "policies"
  | dependencies => "auth_dependencies"

def ofName? (s : String) : Option AuthField := all.find? fun f => f.name == s

end AuthField

/-- What is known about the protection of an endpoint or group. Both flags may be set: the class
decides between them. -/
structure Authorization where
  requiresAuth : Bool := false
  allowsAnonymous : Bool := false
  roles : List String := []
  scopes : List String := []
  permissions : List String := []
  policies : List String := []
  dependencies : List String := []
  inherited : Bool := false
  source : AuthSource := .unset
deriving DecidableEq, Repr

namespace Authorization

/-- The values of a list field. -/
def values (a : Authorization) : AuthField → List String
  | .roles => a.roles
  | .scopes => a.scopes
  | .permissions => a.permissions
  | .policies => a.policies
  | .dependencies => a.dependencies

/-- The record with the values of one list field replaced. -/
def setValues (a : Authorization) (f : AuthField) (xs : List String) : Authorization :=
  match f with
  | .roles => { a with roles := xs }
  | .scopes => { a with scopes := xs }
  | .permissions => { a with permissions := xs }
  | .policies => { a with policies := xs }
  | .dependencies => { a with dependencies := xs }

@[simp] theorem values_setValues_same (a : Authorization) (f : AuthField) (xs : List String) :
    (a.setValues f xs).values f = xs := by cases f <;> rfl

theorem values_setValues_ne (a : Authorization) {f g : AuthField} (xs : List String) (h : g ≠ f) :
    (a.setValues f xs).values g = a.values g := by
  cases f <;> cases g <;> first | rfl | exact absurd rfl h

/-- Append values to a list field, keeping it free of duplicates. -/
def add (a : Authorization) (f : AuthField) (xs : List String) : Authorization :=
  a.setValues f (firstSeen (a.values f ++ xs))

/-- Some role, scope, permission or policy is demanded. -/
def hasRequirements (a : Authorization) : Bool :=
  !a.roles.isEmpty || !a.scopes.isEmpty || !a.permissions.isEmpty || !a.policies.isEmpty

/-- Some protection is present, the anonymous marker apart. -/
def hasSignal (a : Authorization) : Bool :=
  a.requiresAuth || !a.dependencies.isEmpty || a.hasRequirements

/-- Anything at all is set. -/
def isConfigured (a : Authorization) : Bool :=
  a.requiresAuth || a.allowsAnonymous || !a.dependencies.isEmpty || a.hasRequirements

/-- The class of a record. An anonymous marker comes before everything; policies, permissions and
scopes come before roles. -/
def exposure (a : Authorization) : Exposure :=
  if a.allowsAnonymous then .anyone
  else if !a.requiresAuth && !a.hasRequirements then .anyone
  else if !a.policies.isEmpty || !a.permissions.isEmpty || !a.scopes.isEmpty then .policyRestricted
  else if !a.roles.isEmpty then .roleRestricted
  else if a.requiresAuth || !a.dependencies.isEmpty then .authenticated
  else .anyone

end Authorization

end RouteAudit
