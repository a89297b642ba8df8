import RouteAudit.Authorization.Middleware
import RouteAudit.Data.Assoc
import RouteAudit.Go.Node

/-! # Router groups

A `Group` carries a path prefix and middleware. A `GroupTable` finds the group that a handle means
at a place in a file: the innermost closure around the place that binds the handle, or else the
group that an assignment gave the name. `joinPrefix` puts the prefixes of nested groups together. -/

namespace RouteAudit

open Go (Span)

/-! ### Prefixes -/

/-- The prefix of a group inside another: one slash between the two, unless one of them is empty. -/
def joinPrefix (outer inner : String) : String :=
  if outer.isEmpty then inner
  else if inner.isEmpty then outer
  else Text.trimEnd (· == '/') outer ++ "/" ++ Text.trimStart (· == '/') inner

@[simp] theorem joinPrefix_empty_left (s : String) : joinPrefix "" s = s := rfl

@[simp] theorem joinPrefix_empty_right (s : String) : joinPrefix s "" = s := by
  unfold joinPrefix
  split
  · rename_i h; simpa using h.symm
  · rfl

/-! ### Groups -/

/-- Prefix and middleware behind a handle; a group opened by a closure knows its range. -/
structure Group where
  pathPrefix : String := ""
  middleware : List Middleware := []
  scope : Option Span := none
deriving DecidableEq, Repr

namespace Group

/-- The group with middleware appended. -/
def use (g : Group) (refs : List Middleware) : Group :=
  { g with middleware := g.middleware ++ refs }

/-- A group inside another, or a group by itself. -/
def nested (parent : Option Group) (inner : String) (refs : List Middleware)
    (scope : Option Span := none) : Group :=
  match parent with
  | none => ⟨inner, refs, scope⟩
  | some g => ⟨joinPrefix g.pathPrefix inner, g.middleware ++ refs, scope⟩

/-- Where the group's range starts, when the range holds the position. -/
def startAround? (g : Group) (position : Nat) : Option Nat :=
  match g.scope with
  | some s => if s.holds position then some s.start else none
  | none => none

/-- Index and start of the innermost group around a position: the one that starts last, and the
first of those that start together. -/
def innermost? (position : Nat) : List Group → Option (Nat × Nat)
  | [] => none
  | g :: rest =>
    match g.startAround? position, innermost? position rest with
    | none, later => later.map fun p => (p.1 + 1, p.2)
    | some s, none => some (0, s)
    | some s, some (i, t) => if s < t then some (i + 1, t) else some (0, s)

end Group

/-! ### Tables -/

/-- The groups of a file: those with a name everywhere, and those of closures by parameter name. -/
structure GroupTable where
  byName : List (String × Group) := []
  byParameter : List (String × List Group) := []
deriving DecidableEq, Repr

namespace GroupTable

/-- The groups that closures bind to a handle, in the order of binding. -/
def closures (t : GroupTable) (key : String) : List Group := (t.byParameter.lookup key).getD []

/-- The group that a handle means at a position. -/
def lookup (t : GroupTable) (key : String) (position : Nat) : Option Group :=
  match Group.innermost? position (t.closures key) with
  | some (i, _) => (t.closures key)[i]?
  | none => t.byName.lookup key

/-- Bind a handle: a group with a range joins the closures of that name, one without replaces the
named group. -/
def bind (t : GroupTable) (key : String) (g : Group) : GroupTable :=
  match g.scope with
  | none => { t with byName := Assoc.set key g t.byName }
  | some _ => { t with byParameter := Assoc.update key (fun gs => gs.getD [] ++ [g]) t.byParameter }

/-- Append middleware to the group that a handle means at a position; an unknown handle becomes a
named group. -/
def use (t : GroupTable) (key : String) (position : Nat) (refs : List Middleware) : GroupTable :=
  match Group.innermost? position (t.closures key) with
  | some (i, _) =>
    { t with
      byParameter := Assoc.update key (fun gs => (gs.getD []).modify i (·.use refs)) t.byParameter }
  | none => { t with byName := Assoc.update key (fun g => (g.getD {}).use refs) t.byName }

end GroupTable

end RouteAudit
