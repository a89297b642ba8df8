import RouteAudit.Authorization.Vocabulary

/-! # From middleware to authorization

`extract` reads a chain of middleware into a record, `extractGroup` does so for the chain of a
group, and `Authorization.merge` puts the record of a group and the record of a route together. -/

namespace RouteAudit

/-- A middleware by name, with the string literals passed to it. -/
structure Middleware where
  name : String
  literals : List String := []
deriving DecidableEq, Repr

/-- How names and literals are read. -/
structure Extractor where
  vocabulary : Vocabulary
  /-- Literals count as values of the field the name belongs to. -/
  passLiterals : Bool := true
deriving DecidableEq, Repr

namespace Extractor

/-- Note a middleware whose name indicates authentication. -/
def noteAuth (x : Extractor) (a : Authorization) (m : Middleware) : Authorization :=
  if x.vocabulary.isAuth m.name then
    { a.add .dependencies [m.name] with requiresAuth := true, source := .middleware }
  else a

/-- Note the literals of a middleware whose name belongs to a list field. -/
def noteLiterals (x : Extractor) (a : Authorization) (m : Middleware) : Authorization :=
  if x.passLiterals && !m.literals.isEmpty then
    match x.vocabulary.requirement? m.name with
    | some f => { a.add f m.literals with source := .middleware }
    | none => a
  else a

/-- Note one middleware. An anonymous marker sets its flag and nothing else. -/
def note (x : Extractor) (a : Authorization) (m : Middleware) : Authorization :=
  if x.vocabulary.isAnonymous m.name then { a with allowsAnonymous := true, source := .middleware }
  else x.noteLiterals (x.noteAuth a m) m

/-- The record of a chain. -/
def extract (x : Extractor) (chain : List Middleware) : Authorization := chain.foldl x.note {}

/-- The record of a group's chain: it counts as coming from the group, and what it requires is
inherited by the routes in it. -/
def extractGroup (x : Extractor) (chain : List Middleware) : Authorization :=
  let a := x.extract chain
  { a with
    source := if a.isConfigured then .router else a.source
    inherited := a.requiresAuth }

end Extractor

namespace Authorization

/-- The records of a group and of a route in it, as one. With `override`, an anonymous marker of the
route drops every requirement of the group. -/
def merge (parent child : Authorization) (override : Bool := true) : Authorization :=
  let inherited := parent.inherited && !child.requiresAuth
  let source := if child.source = .unset then parent.source else child.source
  if override && child.allowsAnonymous then
    { allowsAnonymous := true, inherited, source }
  else
    { requiresAuth := parent.requiresAuth || child.requiresAuth
      allowsAnonymous :=
        if override then
          if child.isConfigured then child.allowsAnonymous else parent.allowsAnonymous
        else parent.allowsAnonymous && child.allowsAnonymous
      roles := firstSeen (parent.roles ++ child.roles)
      scopes := firstSeen (parent.scopes ++ child.scopes)
      permissions := firstSeen (parent.permissions ++ child.permissions)
      policies := firstSeen (parent.policies ++ child.policies)
      dependencies := firstSeen (parent.dependencies ++ child.dependencies)
      inherited
      source }

end Authorization

end RouteAudit
