import RouteAudit.Proofs.WrapperLayers

/-! # Arguments in parentheses

An argument means the same with parentheses around it, and so `Node.Enclosed n m` says that `m` is
`n` inside any number of them. The name of an argument is looked for inside its parentheses
(`Enclosed.handlerName`). What else is read off it is not: only a call has literals, and only a call
is unwrapped, and a call in parentheses is no call. So middleware keeps its name and loses its
literals, and a handler keeps the name of its outermost wrapper and loses all wrappers.

Whether an argument after the path is the handler or middleware depends on its place alone
(`handlerAndMiddleware_of_isHandlerPlace`, `handlerAndMiddleware_of_not_isHandlerPlace`), and
parentheses do not change which route a call registers (`registration?_of_swapsArgument`).
`parentheses_unread_iff` puts this together: the endpoint is the same where there was nothing to
lose. -/

namespace RouteAudit

open Go (Node)

/-! ### Parentheses -/

namespace Go.Node

/-- `m` is `n` inside any number of parentheses, each with one part. -/
inductive Enclosed (n : Node) : Node → Prop where
  | bare : Enclosed n n
  | layer {m p : Node} (inner : Enclosed n m) (kind : p.kind = .parenthesized)
      (part : p.parts = [m]) : Enclosed n p

theorem soleExpression_of_filter {cs : List Node} {m : Node} (h : cs.filter isPart = [m]) :
    soleExpression cs = m.unparenthesize := by
  induction cs with
  | nil => cases h
  | cons c rest ih =>
      rw [soleExpression]
      by_cases hc : c.isPart = true
      · rw [List.filter_cons_of_pos hc, List.cons.injEq] at h
        obtain ⟨rfl, hrest⟩ := h
        have hnone : rest.any isPart = false := by
          simpa [List.filter_eq_nil_iff] using hrest
        rw [if_pos hc, hnone, if_neg Bool.false_ne_true]
      · rw [List.filter_cons_of_neg hc] at h
        rw [if_neg hc, ih h]

theorem unparenthesize_of_parts {p m : Node} (hkind : p.kind = .parenthesized)
    (hpart : p.parts = [m]) : p.unparenthesize = m.unparenthesize := by
  obtain ⟨i, cs⟩ := p
  replace hkind : i.kind = .parenthesized := hkind
  rw [unparenthesize, if_pos hkind]
  exact soleExpression_of_filter hpart

namespace Enclosed

variable {n m : Node}

theorem unparenthesize (h : n.Enclosed m) : m.unparenthesize = n.unparenthesize := by
  induction h with
  | bare => rfl
  | layer _ hkind hpart ih => rw [unparenthesize_of_parts hkind hpart, ih]

theorem handlerName (h : n.Enclosed m) : m.handlerName = n.handlerName := by
  rw [Node.handlerName, h.unparenthesize, ← Node.handlerName]

theorem eq_or_kind (h : n.Enclosed m) : m = n ∨ m.kind = .parenthesized := by
  cases h with
  | bare => exact .inl rfl
  | layer _ hkind _ => exact .inr hkind

end Enclosed

end Go.Node

/-! ### Middleware -/

theorem middlewareOf_of_kind {n : Node} (h : n.kind ≠ .call) :
    middlewareOf n = ⟨n.handlerName, []⟩ := by
  rw [middlewareOf, if_neg h]

/-- Middleware in parentheses is the same if it has no literals to lose. -/
theorem middlewareOf_eq_iff_of_enclosed {n m : Node} (h : n.Enclosed m) :
    middlewareOf m = middlewareOf n ↔ m = n ∨ (middlewareOf n).literals = [] := by
  rcases h.eq_or_kind with rfl | hkind
  · simp
  · have hm : middlewareOf m = { middlewareOf n with literals := [] } := by
      rw [middlewareOf_of_kind (by rw [hkind]; decide), h.handlerName]
      rfl
    constructor
    · intro heq
      right
      rw [← heq, hm]
    · rintro (rfl | hnone)
      · rfl
      · rw [hm, ← hnone]

/-! ### Handlers -/

/-- The name of a handler inside its wrappers, and the wrappers that count. -/
def wrappedReading (v : Vocabulary) (n : Node) : String × List Middleware :=
  ((unwrapHandler v n).1.handlerName, (unwrapHandler v n).2)

theorem unwrapHandler_of_kind {v : Vocabulary} {n : Node} (h : n.kind ≠ .call) :
    unwrapHandler v n = (n, []) := by
  rw [unwrapHandler, if_neg (by simp [h])]

/-- Only conversions are peeled off the handler, and it is called like what is inside them. -/
def UnwrapsToName (v : Vocabulary) (n : Node) : Prop :=
  (∀ w ∈ peeled v n, isConversion w.callName = true) ∧
    (inside n (peeled v n)).handlerName = n.handlerName

theorem wrappedReading_eq_name_iff (v : Vocabulary) (n : Node) :
    wrappedReading v n = (n.handlerName, []) ↔ UnwrapsToName v n := by
  rw [wrappedReading, unwrapHandler_eq, Prod.mk.injEq, UnwrapsToName, and_comm, List.map_eq_nil_iff,
    List.filter_eq_nil_iff]
  simp

/-- A handler in parentheses is read alike if unwrapping it would have told nothing more than its
name. -/
theorem wrappedReading_eq_iff_of_enclosed {n m : Node} (h : n.Enclosed m) (v : Vocabulary) :
    wrappedReading v m = wrappedReading v n ↔ m = n ∨ UnwrapsToName v n := by
  rw [← wrappedReading_eq_name_iff]
  rcases h.eq_or_kind with rfl | hkind
  · simp
  · have hm : wrappedReading v m = (n.handlerName, []) := by
      rw [wrappedReading, unwrapHandler_of_kind (by rw [hkind]; decide), h.handlerName]
    rw [hm]
    constructor
    · exact fun heq => .inr heq.symm
    · rintro (rfl | hname)
      · exact hm.symm
      · exact hname.symm

/-! ### Places of arguments -/

namespace Detector

variable {d : Detector} {file : String} {t : GroupTable} {call call' n m path : Node}
  {lead before after : List Node}

/-- Of the arguments after the path, the one between these is the handler. -/
def isHandlerPlace (d : Detector) (before after : List Node) : Bool :=
  match d.grammar.handlerPosition with
  | .second => before.isEmpty
  | .last => after.isEmpty

theorem handlerAndMiddleware_second (h : d.grammar.handlerPosition = .second)
    (path handler : Node) (rest : List Node) :
    d.handlerAndMiddleware (path :: handler :: rest) = (some handler, rest) := by
  simp [handlerAndMiddleware, h]

theorem handlerAndMiddleware_last (h : d.grammar.handlerPosition = .last) (path : Node)
    {rest : List Node} (hne : rest ≠ []) :
    d.handlerAndMiddleware (path :: rest) = (rest.getLast?, rest.dropLast) := by
  cases rest with
  | nil => exact absurd rfl hne
  | cons second more => simp [handlerAndMiddleware, h]

theorem handlerAndMiddleware_of_isHandlerPlace (h : d.isHandlerPlace before after = true)
    (path : Node) :
    ∃ rest, ∀ n, d.handlerAndMiddleware (path :: (before ++ n :: after)) = (some n, rest) := by
  unfold isHandlerPlace at h
  split at h
  · rename_i hposition
    rw [List.isEmpty_iff.mp h]
    exact ⟨after, fun n => handlerAndMiddleware_second hposition path n after⟩
  · rename_i hposition
    rw [List.isEmpty_iff.mp h]
    refine ⟨before, fun n => ?_⟩
    rw [handlerAndMiddleware_last hposition path (by simp), List.getLast?_concat,
      List.dropLast_concat]

theorem handlerAndMiddleware_of_not_isHandlerPlace (h : d.isHandlerPlace before after = false)
    (path : Node) :
    ∃ handler pre post, ∀ n,
      d.handlerAndMiddleware (path :: (before ++ n :: after)) = (handler, pre ++ n :: post) := by
  unfold isHandlerPlace at h
  split at h
  · rename_i hposition
    cases before with
    | nil => cases h
    | cons first pre =>
        exact ⟨some first, pre, after, fun n => handlerAndMiddleware_second hposition path first _⟩
  · rename_i hposition
    cases after with
    | nil => cases h
    | cons next post =>
        refine ⟨(next :: post).getLast?, before, (next :: post).dropLast, fun n => ?_⟩
        rw [handlerAndMiddleware_last hposition path (by simp),
          List.dropLast_append_of_ne_nil (by simp), List.dropLast_cons_cons]
        simp [List.getLast?_cons]

/-! ### Endpoints -/

/-- The name of a handler and its wrappers, as far as the framework has wrappers. -/
def handlerReading (d : Detector) (handler : Option Node) : String × List Middleware :=
  (match (d.unwrapped handler).1 with
    | some h => h.handlerName
    | none => "",
   (d.unwrapped handler).2)

theorem endpointOf_congr {args args' : List Node} (hstart : call'.start = call.start)
    (hline : call'.line = call.line)
    (hhandler : d.handlerReading (d.handlerAndMiddleware args').1 =
      d.handlerReading (d.handlerAndMiddleware args).1)
    (hmiddleware : middlewareList (d.handlerAndMiddleware args').2 =
      middlewareList (d.handlerAndMiddleware args).2)
    (target : Target) (route : String) (methods : List Method) :
    d.endpointOf file t call' target route methods args' =
      d.endpointOf file t call target route methods args := by
  obtain ⟨hname, hwrappers⟩ := Prod.mk.inj hhandler
  unfold endpointOf
  simp only [hwrappers, hmiddleware, hstart, hline]
  congr 1

/-- The calls stand at one place and are the same up to one argument after the path, which is `n` in
the one and `m` in the other. What stands before the path is the verb or nothing. -/
structure SwapsArgument (call call' n m path : Node) (lead before after : List Node) : Prop where
  function : call'.child? .function = call.child? .function
  start : call'.start = call.start
  line : call'.line = call.line
  arguments : call.callArguments = lead ++ path :: (before ++ n :: after)
  arguments' : call'.callArguments = lead ++ path :: (before ++ m :: after)

theorem verbs?_cases {method : String} {methods : List Method} {args rest : List Node}
    (h : d.verbs? method args = some (methods, rest)) :
    (rest = args ∧ ∀ args', d.verbs? method args' = some (methods, args')) ∨
      ∃ verb, args = verb :: rest ∧ ∀ rest' : List Node, rest'.length = rest.length →
        d.verbs? method (verb :: rest') = some (methods, rest') := by
  unfold verbs? at h ⊢
  split at h
  · cases h
    exact .inl ⟨rfl, fun _ => rfl⟩
  · split at h
    · rename_i hargument
      cases args with
      | nil => cases h
      | cons verb more =>
          simp only [Option.ite_none_left_eq_some, Option.map_eq_some_iff, Prod.mk.injEq] at h
          obtain ⟨hcount, v, hv, rfl, rfl⟩ := h
          refine .inr ⟨verb, rfl, fun rest' hlength => ?_⟩
          rw [if_pos hargument]
          dsimp only
          rw [if_neg (by simpa [hlength] using hcount), hv]
          rfl
    · rename_i hargument
      split at h
      · rename_i hall
        cases h
        refine .inl ⟨rfl, fun args' => ?_⟩
        rw [if_neg hargument, if_pos hall]
      · cases h

theorem verbs?_of_length {method : String} {methods : List Method} {rest rest' : List Node}
    (h : d.verbs? method (lead ++ path :: rest) = some (methods, path :: rest))
    (hlength : rest'.length = rest.length) :
    d.verbs? method (lead ++ path :: rest') = some (methods, path :: rest') := by
  rcases verbs?_cases h with ⟨hargs, hread⟩ | ⟨verb, hargs, hread⟩
  · rw [List.self_eq_append_left.mp hargs]
    exact hread _
  · have hlead : lead = [verb] := List.append_cancel_right hargs
    rw [hlead]
    exact hread _ (by simp [hlength])

theorem target?_of_function (h : call'.child? .function = call.child? .function) :
    d.target? call' = d.target? call := by
  unfold target? Node.methodCall?
  rw [h]

/-- An argument after the path has no part in what a call registers. -/
theorem registration?_of_swapsArgument (h : SwapsArgument call call' n m path lead before after)
    {r : Registration} (hr : d.registration? call = some r)
    (hargs : r.args = path :: (before ++ n :: after)) :
    d.registration? call' = some { r with args := path :: (before ++ m :: after) } := by
  unfold registration? at hr ⊢
  obtain ⟨target, htarget, hr⟩ := Option.bind_eq_some_iff.mp hr
  obtain ⟨⟨methods, args⟩, hfound, hr⟩ := Option.bind_eq_some_iff.mp hr
  obtain ⟨first, rest, hcons, hcount, hne, hslash, rfl⟩ := registrationOf?_eq_some_iff.mp hr
  obtain rfl : args = path :: (before ++ n :: after) := hargs
  obtain ⟨rfl, -⟩ := List.cons.inj hcons
  rw [h.arguments] at hfound
  rw [target?_of_function h.function, htarget, h.arguments', Option.bind_some,
    verbs?_of_length hfound (by simp), Option.bind_some, registrationOf?_eq_some_iff]
  exact ⟨path, _, rfl, by simpa using hcount, hne, hslash, rfl⟩

theorem handlerReading_some (d : Detector) (n : Node) :
    d.handlerReading (some n) =
      if d.grammar.wrappedHandlers = true then wrappedReading d.vocabulary n
      else (n.handlerName, []) := by
  unfold handlerReading unwrapped
  cases d.grammar.wrappedHandlers <;> rfl

theorem registered_of_handler (h : SwapsArgument call call' n m path lead before after)
    (hplace : d.isHandlerPlace before after = true) (hname : m.handlerName = n.handlerName)
    (hhandler : d.grammar.wrappedHandlers = true →
      wrappedReading d.vocabulary m = wrappedReading d.vocabulary n)
    {r : Registration} (hargs : r.args = path :: (before ++ n :: after)) :
    d.registered file t call' { r with args := path :: (before ++ m :: after) } =
      d.registered file t call r := by
  obtain ⟨rest, hsplit⟩ := handlerAndMiddleware_of_isHandlerPlace hplace path
  have hreading : d.handlerReading (some m) = d.handlerReading (some n) := by
    rw [handlerReading_some, handlerReading_some, hname]
    split
    · rename_i hwrapped
      exact hhandler hwrapped
    · rfl
  unfold registered
  rw [hargs]
  refine endpointOf_congr h.start h.line ?_ ?_ ..
  · rw [hsplit m, hsplit n]
    exact hreading
  · rw [hsplit m, hsplit n]

theorem registered_of_middleware (h : SwapsArgument call call' n m path lead before after)
    (hplace : d.isHandlerPlace before after = false) (hmiddleware : middlewareOf m = middlewareOf n)
    {r : Registration} (hargs : r.args = path :: (before ++ n :: after)) :
    d.registered file t call' { r with args := path :: (before ++ m :: after) } =
      d.registered file t call r := by
  obtain ⟨handler, pre, post, hsplit⟩ := handlerAndMiddleware_of_not_isHandlerPlace hplace path
  unfold registered
  rw [hargs]
  refine endpointOf_congr h.start h.line ?_ ?_ ..
  · rw [hsplit m, hsplit n]
  · rw [hsplit m, hsplit n]
    simp [middlewareList, hmiddleware]

theorem middleware_of_swapsArgument (h : SwapsArgument call call' n m path lead before after)
    (hplace : d.isHandlerPlace before after = false) (hname : m.handlerName = n.handlerName)
    {r : Registration} (hargs : r.args = path :: (before ++ n :: after)) :
    (d.registered file t call' { r with args := path :: (before ++ m :: after) }).middleware =
      (d.registered file t call r).middleware := by
  obtain ⟨handler, pre, post, hsplit⟩ := handlerAndMiddleware_of_not_isHandlerPlace hplace path
  have hgroup : groupChain t call' { r with args := path :: (before ++ m :: after) } =
      groupChain t call r := by
    unfold groupChain groupOf?
    rw [h.start]
  have hroute : (d.routeChain { r with args := path :: (before ++ m :: after) }).map (·.name) =
      (d.routeChain r).map (·.name) := by
    unfold routeChain
    rw [hargs, hsplit n]
    dsimp only
    rw [hsplit m]
    simp only [List.map_append, map_name_middlewareList, List.map_cons, hname]
  rw [middleware_registered, middleware_registered, List.map_append, List.map_append, hgroup,
    hroute]

end Detector

/-- **Where parentheses matter.** Let `m` be `n` inside any number of parentheses.

* As middleware, the two have one name. They are the same exactly when there are no parentheses or
  `n` passes no literals.
* As a handler that may be wrapped, they have the same name inside and the same wrappers exactly
  when there are no parentheses or unwrapping `n` tells its name and nothing else.

Let two calls at one place differ in this argument alone, which stands after the path. If one of
them registers a route, the other registers the same route for the same verbs. For an argument that
is middleware, the two endpoints have the same names of middleware, and they are the same if the
middleware is. For the handler, they are the same if the framework has no wrappers or the handler is
unwrapped alike. -/
theorem parentheses_unread_iff (n m : Node) (h : n.Enclosed m) :
    (middlewareOf m).name = (middlewareOf n).name ∧
    (middlewareOf m = middlewareOf n ↔ m = n ∨ (middlewareOf n).literals = []) ∧
    (∀ v, wrappedReading v m = wrappedReading v n ↔ m = n ∨ UnwrapsToName v n) ∧
    ∀ (d : Detector) (file : String) (t : GroupTable) (call call' path : Node)
      (lead before after : List Node) (r : Detector.Registration),
      Detector.SwapsArgument call call' n m path lead before after →
      d.registration? call = some r → r.args = path :: (before ++ n :: after) →
      ∃ e e', d.readCall file t call = .route e ∧ d.readCall file t call' = .route e' ∧
        e'.route = e.route ∧ e'.methods = e.methods ∧
        (d.isHandlerPlace before after = false →
          e'.middleware = e.middleware ∧ (middlewareOf m = middlewareOf n → e' = e)) ∧
        (d.isHandlerPlace before after = true →
          (d.grammar.wrappedHandlers = true →
            wrappedReading d.vocabulary m = wrappedReading d.vocabulary n) → e' = e) := by
  refine ⟨h.handlerName, middlewareOf_eq_iff_of_enclosed h, wrappedReading_eq_iff_of_enclosed h, ?_⟩
  intro d file t call call' path lead before after r hswap hr hargs
  have hr' := Detector.registration?_of_swapsArgument hswap hr hargs
  refine ⟨_, _, d.readCall_of_registration? file t call hr,
    d.readCall_of_registration? file t call' hr', rfl, rfl, fun hplace => ⟨?_, ?_⟩, ?_⟩
  · exact Detector.middleware_of_swapsArgument hswap hplace h.handlerName hargs
  · exact fun hsame => Detector.registered_of_middleware hswap hplace hsame hargs
  · exact fun hplace hsame =>
      Detector.registered_of_handler hswap hplace h.handlerName hsame hargs

/-! ### Handlers and middleware in parentheses -/

/-- The tree of `(n)`, without positions. -/
def inParentheses (n : Node) : Node :=
  .mk { kind := .parenthesized }
    [.mk { kind := .other "(", named := false, text := "(" } [], n,
     .mk { kind := .other ")", named := false, text := ")" } []]

/-- The tree of `RequireRole("admin")`, without positions. -/
def roleGuard : Node :=
  wrapping "RequireRole" (.mk { kind := .interpretedString, text := "\"admin\"" } [])

/-- The handler `((h))` is read as `h`. -/
theorem plain_handler_unread :
    plainHandler.Enclosed (inParentheses (inParentheses plainHandler)) ∧
    ∃ e, Detector.readCall { grammar := .netHttp } "main.go" {} (handlingCall plainHandler) =
        .route e ∧
      Detector.readCall { grammar := .netHttp } "main.go" {}
        (handlingCall (inParentheses (inParentheses plainHandler))) = .route e := by
  have hm : plainHandler.Enclosed (inParentheses (inParentheses plainHandler)) :=
    .layer (.layer .bare rfl rfl) rfl rfl
  have hroute : Detector.readCall { grammar := .netHttp } "main.go" {}
      (handlingCall plainHandler) = .route (uncoveringEndpoint "h" [] {}) := by decide +kernel
  have hread := Detector.endpoint?_readCall { grammar := .netHttp } "main.go" {}
    (handlingCall plainHandler)
  rw [hroute] at hread
  obtain ⟨r, hr, -⟩ := Option.map_eq_some_iff.mp hread.symm
  obtain ⟨-, -, hargs, -⟩ := Detector.registration?_netHttp hr
  obtain ⟨-, -, hhandler, hcalls⟩ := parentheses_unread_iff plainHandler _ hm
  have hnamed : UnwrapsToName .standard plainHandler := ⟨by decide +kernel, by decide +kernel⟩
  obtain ⟨e, e', he, he', -, -, -, hsame⟩ := hcalls { grammar := .netHttp } "main.go" {}
    (handlingCall plainHandler) (handlingCall (inParentheses (inParentheses plainHandler))) _ [] []
    [] r ⟨rfl, rfl, rfl, rfl, rfl⟩ hr hargs
  have hsame := hsame rfl fun _ => (hhandler .standard).mpr (.inr hnamed)
  exact ⟨hm, e, he, hsame ▸ he'⟩

/-- The guard `(RequireRole("admin"))` has no role, and the route of the handler `(Auth(h))` is open
to anyone. Without the parentheses, the one has its role and the other is authenticated. -/
theorem parenthesized_calls_lose :
    roleGuard.Enclosed (inParentheses roleGuard) ∧
    middlewareOf roleGuard = ⟨"RequireRole", ["admin"]⟩ ∧
    middlewareOf (inParentheses roleGuard) = ⟨"RequireRole", []⟩ ∧
    (wrapping "Auth" plainHandler).Enclosed (inParentheses (wrapping "Auth" plainHandler)) ∧
    wrappedReading .standard (wrapping "Auth" plainHandler) = ("h", [⟨"Auth", []⟩]) ∧
    wrappedReading .standard (inParentheses (wrapping "Auth" plainHandler)) = ("Auth", []) ∧
    Detector.readCall { grammar := .netHttp } "main.go" {}
        (handlingCall (wrapping "Auth" plainHandler)) =
      .route (uncoveringEndpoint "h" ["Auth"]
        { requiresAuth := true, dependencies := ["Auth"], source := .middleware }) ∧
    Detector.readCall { grammar := .netHttp } "main.go" {}
        (handlingCall (inParentheses (wrapping "Auth" plainHandler))) =
      .route (uncoveringEndpoint "Auth" [] {}) := by
  refine ⟨.layer .bare rfl rfl, ?_, ?_, .layer .bare rfl rfl, ?_, ?_, ?_, ?_⟩ <;> decide +kernel

end RouteAudit
