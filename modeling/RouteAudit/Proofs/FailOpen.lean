import RouteAudit.Proofs.SharedCalls

/-! # Reporting fails open

Handles of groups are followed by name, and that can go wrong: a handle may be unknown, bound twice
or passed on under another name. Then the prefix and the middleware of a route are wrong, but the
route is reported all the same. What an endpoint binds, and where, is its `Binding`. The binding of
a call is that of its registration, in which no table of groups has a part (`binding_readCall`), so
two tables give the same bindings call by call, and for a whole tree in the same order
(`map_binding_endpointsWith`). -/

namespace RouteAudit

open Go (Node)

/-- What is bound, and where: all about an endpoint that its group has no part in. -/
structure Binding where
  route : String
  methods : List Method
  filePath : String
  line : ℕ
  framework : Framework
  handler : String
deriving DecidableEq, Repr

def Endpoint.binding (e : Endpoint) : Binding :=
  ⟨e.route, e.methods, e.filePath, e.line, e.framework, e.handler⟩

namespace Detector

variable (d : Detector) (path : String)

/-- The handler that a registration names, without its wrappers. -/
def handlerOf (r : Registration) : String :=
  match (d.unwrapped (d.handlerAndMiddleware r.args).1).1 with
  | some h => h.handlerName
  | none => ""

/-- What a call binds by its registration. -/
def bindingOf (call : Node) (r : Registration) : Binding :=
  ⟨r.route, r.methods, path, call.line, d.framework, d.handlerOf r⟩

theorem binding_registered (t : GroupTable) (call : Node) (r : Registration) :
    (d.registered path t call r).binding = d.bindingOf path call r := rfl

/-- The binding of a call is decided before any group is looked up. -/
theorem binding_readCall (t : GroupTable) (call : Node) :
    (d.readCall path t call).endpoint?.map Endpoint.binding =
      (d.registration? call).map (d.bindingOf path call) := by
  have hmade : Endpoint.binding ∘ d.registered path t call = d.bindingOf path call := by
    funext r
    exact d.binding_registered path t call r
  rw [endpoint?_readCall, Option.map_map, hmade]

/-! ### Whole trees -/

/-- The endpoints that the calls of a tree register when handles are looked up in a given table. -/
def endpointsWith (t : GroupTable) (root : Node) : List Endpoint :=
  (root.walk.filter fun n => n.kind == .call).filterMap fun call =>
    (d.readCall path t call).endpoint?

theorem discover_eq_endpointsWith (root : Node) :
    d.discover path root = d.endpointsWith path (d.findGroups root) root := by
  unfold discover readings endpointsWith
  rw [List.filterMap_map]
  rfl

theorem map_binding_endpointsWith (t : GroupTable) (root : Node) :
    (d.endpointsWith path t root).map Endpoint.binding =
      (root.walk.filter fun n => n.kind == .call).filterMap fun call =>
        (d.registration? call).map (d.bindingOf path call) := by
  unfold endpointsWith
  rw [List.map_filterMap]
  refine List.filterMap_congr fun call _ => ?_
  exact d.binding_readCall path t call

/-- **Reporting fails open.** Whatever the tables are, a call registers an endpoint with one exactly
when it does with the other, and both endpoints bind the same handler to the same route, methods and
place. So the bindings of a tree are the same, and in the same order, with any table in place of the
one that its groups give. -/
theorem reporting_fails_open (d : Detector) (path : String) :
    (∀ (call : Node) (t t' : GroupTable),
      ((d.readCall path t call).endpoint? = none ↔ (d.readCall path t' call).endpoint? = none) ∧
      ∀ e e', d.readCall path t call = .route e → d.readCall path t' call = .route e' →
        e.binding = e'.binding) ∧
    ∀ (root : Node) (t : GroupTable),
      (d.endpointsWith path t root).map Endpoint.binding =
        (d.discover path root).map Endpoint.binding := by
  refine ⟨fun call t t' => ?_, fun root t => ?_⟩
  · have hsame : (d.readCall path t call).endpoint?.map Endpoint.binding =
        (d.readCall path t' call).endpoint?.map Endpoint.binding := by
      rw [binding_readCall, binding_readCall]
    constructor
    · rw [← Option.map_eq_none_iff (f := Endpoint.binding), hsame, Option.map_eq_none_iff]
    · intro e e' he he'
      rw [he, he'] at hsame
      exact Option.some.inj hsame
  · rw [discover_eq_endpointsWith, map_binding_endpointsWith, map_binding_endpointsWith]

/-- A table in which the receiver of `handleCall` is a group. -/
def versionedTable : GroupTable :=
  GroupTable.bind {} "r" { pathPrefix := "/v1", middleware := [{ name := "Auth" }] }

/-- The endpoint of `handleCall` with this table. -/
def versionedEndpoint : Endpoint :=
  { handleEndpoint with
    routerPrefix := "/v1"
    middleware := ["Auth"]
    authorization :=
      { requiresAuth := true, dependencies := ["Auth"], inherited := true, source := .router } }

/-- Without its group the route loses its protection, but not its binding. -/
theorem handleCall_fails_open :
    readCall { grammar := .gin } "main.go" {} handleCall = .route handleEndpoint ∧
      readCall { grammar := .gin } "main.go" versionedTable handleCall =
        .route versionedEndpoint ∧
      handleEndpoint.authorization.exposure = .anyone ∧
      versionedEndpoint.authorization.exposure = .authenticated ∧
      handleEndpoint.binding = versionedEndpoint.binding := by
  have hplain : readCall { grammar := .gin } "main.go" {} handleCall = .route handleEndpoint := by
    decide +kernel
  have hgroup : readCall { grammar := .gin } "main.go" versionedTable handleCall =
      .route versionedEndpoint := by
    decide +kernel
  exact ⟨hplain, hgroup, by decide, by decide,
    ((reporting_fails_open { grammar := .gin } "main.go").1 handleCall {} versionedTable).2 _ _
      hplain hgroup⟩

end Detector

end RouteAudit
