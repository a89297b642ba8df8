import Mathlib.Data.List.Forall2
import RouteAudit.Routing.Detector

/-! # What the reading of a call depends on

Whether a call registers a route, and where its path, verbs and arguments are, is decided by the
grammar alone; the table of groups and the vocabulary only enter into the endpoint that is made of
them (`endpointOf`). So two readings of one call with the same grammar `Match`: they are of one
kind, and whatever relates the endpoints made of every registration relates theirs
(`readCall_matches`). For whole trees this gives `forall₂_discover`, which compares the endpoints
that two detectors find one by one, and `forall_mem_discover`, which says what holds of every
discovered endpoint.

What the grammar reads off a call is a `Registration`. The endpoint of a call is made of its
registration (`endpoint?_readCall`), and `mem_discover_iff` says where a discovered endpoint comes
from, with the chains of middleware it was made of. -/

namespace RouteAudit.Detector

open Go (Node)

/-- The readings are of one kind, and endpoints are related. -/
inductive Reading.Match (R : Endpoint → Endpoint → Prop) : Reading → Reading → Prop where
  | unrelated : Match R .unrelated .unrelated
  | computedPath (line : ℕ) : Match R (.computedPath line) (.computedPath line)
  | route {e e' : Endpoint} (h : R e e') : Match R (.route e) (.route e')

theorem Reading.forall₂_endpoint? {R : Endpoint → Endpoint → Prop} {rs rs' : List Reading}
    (h : List.Forall₂ (Reading.Match R) rs rs') :
    List.Forall₂ R (rs.filterMap Reading.endpoint?) (rs'.filterMap Reading.endpoint?) := by
  induction h with
  | nil => exact .nil
  | cons hr _ ih =>
      cases hr with
      | unrelated => exact ih
      | computedPath line => exact ih
      | route he => exact .cons he ih

section calls
variable {d d' : Detector} (hg : d.grammar = d'.grammar)

include hg

theorem target?_congr (call : Node) : d.target? call = d'.target? call := by
  unfold target?
  rw [hg]

theorem verbs?_congr (method : String) (args : List Node) :
    d.verbs? method args = d'.verbs? method args := by
  unfold verbs?
  rw [hg]

theorem routeAndVerbs_congr (literal : String) (methods : List Method) :
    d.routeAndVerbs literal methods = d'.routeAndVerbs literal methods := by
  unfold routeAndVerbs
  rw [hg]

theorem findGroups_congr (root : Node) : d.findGroups root = d'.findGroups root := by
  obtain ⟨g, v⟩ := d
  obtain ⟨g', v'⟩ := d'
  cases hg
  rfl

variable {R : Endpoint → Endpoint → Prop} {path : String} {t t' : GroupTable} {call : Node}

theorem readRoute_matches {target : Target} {args : List Node}
    (h : ∀ route methods, R (d.endpointOf path t call target route methods args)
      (d'.endpointOf path t' call target route methods args)) (methods : List Method) :
    Reading.Match R (d.readRoute path t call target methods args)
      (d'.readRoute path t' call target methods args) := by
  unfold readRoute
  cases args with
  | nil => exact .unrelated
  | cons first rest =>
      dsimp only
      rw [routeAndVerbs_congr hg, hg]
      -- both sides now ask the same questions in the same order
      split
      · exact .unrelated
      · split
        · exact .computedPath call.line
        · split
          · exact .unrelated
          · exact .route (h _ _)

theorem readCall_matches
    (h : ∀ target route methods args, R (d.endpointOf path t call target route methods args)
      (d'.endpointOf path t' call target route methods args)) :
    Reading.Match R (d.readCall path t call) (d'.readCall path t' call) := by
  unfold readCall
  rw [target?_congr hg]
  cases d'.target? call with
  | none => exact .unrelated
  | some target =>
      dsimp only
      rw [verbs?_congr hg]
      cases d'.verbs? target.method call.callArguments with
      | none => exact .unrelated
      | some found => exact readRoute_matches hg (fun route ms => h target route ms found.2) found.1

/-- The endpoints that two detectors with one grammar find in a tree correspond to each other. -/
theorem forall₂_discover {root : Node}
    (h : ∀ call target route methods args,
      R (d.endpointOf path (d.findGroups root) call target route methods args)
        (d'.endpointOf path (d.findGroups root) call target route methods args)) :
    List.Forall₂ R (d.discover path root) (d'.discover path root) := by
  refine Reading.forall₂_endpoint? ?_
  unfold readings
  rw [← findGroups_congr hg, List.forall₂_map_left_iff, List.forall₂_map_right_iff]
  exact List.forall₂_same.mpr fun call _ => readCall_matches hg (h call)

end calls

/-- What holds of the endpoint of every registration holds of every discovered endpoint. -/
theorem forall_mem_discover {d : Detector} {P : Endpoint → Prop} {path : String} {root : Node}
    (h : ∀ call target route methods args,
      P (d.endpointOf path (d.findGroups root) call target route methods args)) :
    ∀ e ∈ d.discover path root, P e := by
  have hself := forall₂_discover (R := fun e _ => P e) (d := d) rfl h
  rwa [List.forall₂_same] at hself

theorem map_name_middlewareList (ns : List Node) :
    (middlewareList ns).map (·.name) = (ns.map Node.handlerName).filter fun s => !s.isEmpty := by
  rw [middlewareList, List.filter_map, List.map_map, List.filter_map]
  rfl

/-! ### Registrations -/

/-- What the grammar reads off a call that registers a route: what it is called on, the route with
its verbs, and the arguments from the path on. -/
structure Registration where
  target : Target
  route : String
  methods : List Method
  args : List Node

/-- The registration of a target whose verbs and arguments are known. -/
def registrationOf? (d : Detector) (target : Target) (methods : List Method) (args : List Node) :
    Option Registration :=
  match args with
  | [] => none
  | path :: _ =>
    if args.length < d.grammar.routeArgumentCount then none
    else if path.stringOrEmpty.isEmpty then none
    else
      let split := d.routeAndVerbs path.stringOrEmpty methods
      if d.grammar.requireSlash && !Text.contains split.1 "/" then none
      else some ⟨target, split.1, split.2, args⟩

/-- The registration of a call. -/
def registration? (d : Detector) (call : Node) : Option Registration :=
  (d.target? call).bind fun target =>
    (d.verbs? target.method call.callArguments).bind fun found =>
      d.registrationOf? target found.1 found.2

/-- The endpoint of a call with a known registration. -/
def registered (d : Detector) (path : String) (t : GroupTable) (call : Node) (r : Registration) :
    Endpoint :=
  d.endpointOf path t call r.target r.route r.methods r.args

/-- The group that the receiver of a call means. -/
def groupOf? (t : GroupTable) (call : Node) (r : Registration) : Option Group :=
  if r.target.receiver.isEmpty then none else t.lookup r.target.receiver call.start

/-- The middleware of that group. -/
def groupChain (t : GroupTable) (call : Node) (r : Registration) : List Middleware :=
  match groupOf? t call r with
  | some g => g.middleware
  | none => []

/-- The middleware of the route itself: put in front of it, given with it, around its handler. -/
def routeChain (d : Detector) (r : Registration) : List Middleware :=
  r.target.inline ++ middlewareList (d.handlerAndMiddleware r.args).2 ++
    (d.unwrapped (d.handlerAndMiddleware r.args).1).2

theorem registrationOf?_eq_some_iff {d : Detector} {target : Target} {methods : List Method}
    {args : List Node} {r : Registration} :
    d.registrationOf? target methods args = some r ↔
      ∃ first rest, args = first :: rest ∧ d.grammar.routeArgumentCount ≤ args.length ∧
        first.stringOrEmpty ≠ "" ∧
        (d.grammar.requireSlash = true →
          Text.contains (d.routeAndVerbs first.stringOrEmpty methods).1 "/" = true) ∧
        r = ⟨target, (d.routeAndVerbs first.stringOrEmpty methods).1,
          (d.routeAndVerbs first.stringOrEmpty methods).2, args⟩ := by
  cases args with
  | nil => simp [registrationOf?]
  | cons first rest =>
      unfold registrationOf?
      dsimp only
      constructor
      · intro h
        rw [Option.ite_none_left_eq_some, Option.ite_none_left_eq_some,
          Option.ite_none_left_eq_some] at h
        obtain ⟨hcount, hne, hslash, hr⟩ := h
        refine ⟨first, rest, rfl, by omega, by simpa using hne, fun hrequired => ?_,
          (Option.some.inj hr).symm⟩
        simpa [hrequired] using hslash
      · rintro ⟨_, _, ⟨⟩, hcount, hne, hslash, rfl⟩
        rw [if_neg (by omega), if_neg (by simpa using hne), if_neg]
        simpa using hslash

section registrations
variable (d : Detector) (path : String) (t : GroupTable) (call : Node)

theorem routerPrefix_registered (r : Registration) :
    (d.registered path t call r).routerPrefix =
      match groupOf? t call r with
      | some g => g.pathPrefix
      | none => "" := rfl

theorem middleware_registered (r : Registration) :
    (d.registered path t call r).middleware =
      (groupChain t call r ++ d.routeChain r).map (·.name) := rfl

theorem authorization_registered (r : Registration) :
    (d.registered path t call r).authorization =
      (d.extractor.extractGroup (groupChain t call r)).merge
        (d.extractor.extract (d.routeChain r)) := rfl

theorem endpoint?_readRoute (target : Target) (methods : List Method) (args : List Node) :
    (d.readRoute path t call target methods args).endpoint? =
      (d.registrationOf? target methods args).map (d.registered path t call) := by
  unfold readRoute registrationOf?
  cases args with
  | nil => rfl
  | cons first rest =>
      dsimp only
      split
      · rfl
      · split
        · rfl
        · split <;> rfl

theorem endpoint?_readCall :
    (d.readCall path t call).endpoint? =
      (d.registration? call).map (d.registered path t call) := by
  unfold readCall registration?
  cases d.target? call with
  | none => rfl
  | some target =>
      dsimp only [Option.bind_some]
      cases d.verbs? target.method call.callArguments with
      | none => rfl
      | some found => exact d.endpoint?_readRoute path t call target found.1 found.2

theorem readCall_of_registration? {r : Registration} (h : d.registration? call = some r) :
    d.readCall path t call = .route (d.registered path t call r) := by
  have hread := d.endpoint?_readCall path t call
  rw [h, Option.map_some] at hread
  cases hreading : d.readCall path t call with
  | route e =>
      rw [hreading] at hread
      rw [← Option.some.inj hread]
  | unrelated =>
      rw [hreading] at hread
      cases hread
  | computedPath line =>
      rw [hreading] at hread
      cases hread

end registrations

/-- Every discovered endpoint is that of a call in the tree with a registration. -/
theorem mem_discover_iff {d : Detector} {path : String} {root : Node} {e : Endpoint} :
    e ∈ d.discover path root ↔ ∃ call ∈ root.walk, call.kind = .call ∧
      ∃ r, d.registration? call = some r ∧ e = d.registered path (d.findGroups root) call r := by
  unfold discover readings
  simp only [List.mem_filterMap, List.mem_map, List.mem_filter, beq_iff_eq]
  constructor
  · rintro ⟨_, ⟨call, ⟨hcall, hkind⟩, rfl⟩, he⟩
    rw [endpoint?_readCall, Option.map_eq_some_iff] at he
    obtain ⟨r, hr, rfl⟩ := he
    exact ⟨call, hcall, hkind, r, hr, rfl⟩
  · rintro ⟨call, hcall, hkind, r, hr, rfl⟩
    refine ⟨_, ⟨call, ⟨hcall, hkind⟩, rfl⟩, ?_⟩
    rw [endpoint?_readCall, hr, Option.map_some]

end RouteAudit.Detector
