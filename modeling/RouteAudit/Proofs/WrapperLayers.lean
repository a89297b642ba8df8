import RouteAudit.Proofs.HandlerWrappers
import RouteAudit.Proofs.SharedCalls

/-! # Which wrappers of a handler count

A handler such as `Auth(Log(h))` is a nest of calls, each the last argument of the one around it:
its `layers`, outermost first. Unwrapping peels them off as long as their names allow it (`peeled`),
and a name allows it for one of two reasons: it is that of a conversion, or it has to do with
authentication. Of the peeled calls those count that are no conversions (`unwrapHandler_eq`). They
are the middleware of the route and decide who is admitted.

The two reasons may meet in one name. A call such as `AuthHandlerFunc(h)` is peeled, and it does not
count, although it has to do with authentication. `auth_wrappers_counted_iff` says that this is the
only way in which a wrapper is lost. -/

namespace RouteAudit

open Go (Node)

/-! ### Layers -/

/-- The calls around the core of a nest, outermost first. -/
def layers (n : Node) : List Node :=
  if n.kind = .call then
    match _h : n.callArguments.getLast? with
    | some inner => n :: layers inner
    | none => []
  else []
termination_by n.size
decreasing_by exact Node.size_lt_of_mem_partsOf (List.mem_of_getLast? ‹_›)

/-- The calls that unwrapping peels off. -/
def peeled (v : Vocabulary) (n : Node) : List Node :=
  (layers n).takeWhile fun w => isWrapper v w.callName

/-- What is left of a nest inside some of its calls. -/
def inside (n : Node) (calls : List Node) : Node :=
  match calls.getLast? with
  | some w => w.callArguments.getLast?.getD w
  | none => n

/-- The name of the call has to do with authentication. -/
def indicates (v : Vocabulary) (w : Node) : Bool := v.isAuth w.callName || v.isAnonymous w.callName

theorem isWrapper_eq (v : Vocabulary) (w : Node) :
    isWrapper v w.callName = (isConversion w.callName || indicates v w) := by
  rw [isWrapper, indicates, Bool.or_assoc]

theorem layers_of_getLast? {n inner : Node} (hkind : n.kind = .call)
    (hlast : n.callArguments.getLast? = some inner) : layers n = n :: layers inner := by
  rw [layers, if_pos hkind]
  split
  · rename_i inner' hlast'
    rw [hlast] at hlast'
    cases hlast'
    rfl
  · rename_i hnone
    rw [hlast] at hnone
    cases hnone

theorem layers_of_getLast?_eq_none {n : Node} (hlast : n.callArguments.getLast? = none) :
    layers n = [] := by
  rw [layers]
  split
  · split
    · rename_i inner hlast'
      rw [hlast] at hlast'
      cases hlast'
    · rfl
  · rfl

theorem layers_eq_nil_or (n : Node) :
    layers n = [] ∨ ∃ inner, n.kind = .call ∧ layers n = n :: layers inner := by
  by_cases hkind : n.kind = .call
  · cases hlast : n.callArguments.getLast? with
    | none => exact .inl (layers_of_getLast?_eq_none hlast)
    | some inner => exact .inr ⟨inner, hkind, layers_of_getLast? hkind hlast⟩
  · left
    rw [layers, if_neg hkind]

theorem kind_of_mem_layers {n w : Node} (h : w ∈ layers n) : w.kind = .call := by
  fun_induction layers n with
  | case1 n hkind inner hlast ih =>
      rcases List.mem_cons.mp h with rfl | hrest
      · exact hkind
      · exact ih hrest
  | case2 n hkind hlast => cases h
  | case3 n hkind => cases h

theorem kind_of_mem_peeled {v : Vocabulary} {n w : Node} (h : w ∈ peeled v n) : w.kind = .call :=
  kind_of_mem_layers ((List.takeWhile_sublist _).subset h)

theorem isWrapper_of_mem_peeled {v : Vocabulary} {n w : Node} (h : w ∈ peeled v n) :
    isWrapper v w.callName = true := by
  unfold peeled at h
  exact List.all_eq_true.mp List.all_takeWhile w h

theorem peeled_of_isWrapper {v : Vocabulary} {n inner : Node} (hkind : n.kind = .call)
    (hwrap : isWrapper v n.callName = true) (hlast : n.callArguments.getLast? = some inner) :
    peeled v n = n :: peeled v inner := by
  unfold peeled
  rw [layers_of_getLast? hkind hlast, List.takeWhile_cons, hwrap, if_pos rfl]

theorem inside_cons (n w : Node) (calls : List Node) :
    inside n (w :: calls) = inside (w.callArguments.getLast?.getD w) calls := by
  cases calls with
  | nil => rfl
  | cons w' rest =>
      unfold inside
      rw [List.getLast?_cons_cons, List.getLast?_cons]

/-- Unwrapping peels off calls and keeps those that are no conversions. -/
theorem unwrapHandler_eq (v : Vocabulary) (n : Node) :
    unwrapHandler v n = (inside n (peeled v n),
      ((peeled v n).filter fun w => !isConversion w.callName).map middlewareOf) := by
  fun_induction unwrapHandler v n with
  | case1 n hwrap inner hlast unwrapped ih =>
      rw [Bool.and_eq_true, decide_eq_true_eq] at hwrap
      rw [peeled_of_isWrapper hwrap.1 hwrap.2 hlast, inside_cons, hlast, Option.getD_some,
        show unwrapped = unwrapHandler v inner from rfl, ih, List.filter_cons]
      cases isConversion n.callName <;> rfl
  | case2 n hwrap hlast =>
      have hpeeled : peeled v n = [] := by
        rw [peeled, layers_of_getLast?_eq_none hlast, List.takeWhile_nil]
      rw [hpeeled]
      rfl
  | case3 n hwrap =>
      have hpeeled : peeled v n = [] := by
        unfold peeled
        rcases layers_eq_nil_or n with hnil | ⟨inner, hkind, hcons⟩
        · rw [hnil, List.takeWhile_nil]
        · rw [hcons, List.takeWhile_cons, if_neg]
          simpa [hkind] using hwrap
      rw [hpeeled]
      rfl

theorem name_middlewareOf_of_call {w : Node} (h : w.kind = .call) :
    (middlewareOf w).name = w.callName := by
  show w.handlerName = _
  rw [Node.handlerName, Node.unparenthesize_of_kind (by rw [h]; decide)]
  show w.bareName = _
  rw [Node.bareName, h]

/-- The peeled calls that count are those that have to do with authentication exactly when no name
is both that of a conversion and of such a call. -/
theorem counted_eq_indicating_iff (v : Vocabulary) (n : Node) :
    (unwrapHandler v n).2 = ((peeled v n).filter (indicates v)).map middlewareOf ↔
      ∀ w ∈ peeled v n, isConversion w.callName = true → indicates v w = false := by
  have hpeeled : ∀ w ∈ peeled v n, isConversion w.callName = false → indicates v w = true := by
    intro w hw hconv
    have hwrap := isWrapper_of_mem_peeled hw
    rwa [isWrapper_eq, hconv, Bool.false_or] at hwrap
  rw [unwrapHandler_eq]
  constructor
  · intro heq w hw hconv
    -- the calls that count are some of the indicating ones, so as many are all of them
    have hsub : (peeled v n).filter (fun w => !isConversion w.callName) =
        ((peeled v n).filter (indicates v)).filter fun w => !isConversion w.callName := by
      rw [List.filter_filter]
      refine List.filter_congr fun w hw => ?_
      cases hconv : isConversion w.callName with
      | true => rfl
      | false => rw [hpeeled w hw hconv]; rfl
    have hlength := congrArg List.length heq
    rw [List.length_map, List.length_map, hsub, List.length_filter_eq_length_iff] at hlength
    by_contra hne
    have hind : indicates v w = true := by simpa using hne
    have hnot := hlength w (List.mem_filter.mpr ⟨hw, hind⟩)
    rw [hconv] at hnot
    cases hnot
  · intro h
    show ((peeled v n).filter _).map _ = _
    congr 1
    refine List.filter_congr fun w hw => ?_
    cases hconv : isConversion w.callName with
    | true => rw [h w hw hconv]; rfl
    | false => rw [hpeeled w hw hconv]; rfl

/-! ### Records outside of groups -/

namespace Extractor

variable (x : Extractor)

theorem allowsAnonymous_of_groupless (r : List Middleware) :
    ((x.extractGroup []).merge (x.extract r)).allowsAnonymous =
      (r.map (·.name)).any x.vocabulary.isAnonymous := by
  have hmarks : (r.map (·.name)).any x.vocabulary.isAnonymous = r.any x.marks := List.any_map
  rw [allowsAnonymous_merge_extract, any_configures, hmarks]
  cases r.any x.marks with
  | true => rfl
  | false => cases r.any x.protects <;> rfl

theorem dependencies_of_groupless {r : List Middleware}
    (h : (r.map (·.name)).any x.vocabulary.isAnonymous = false) :
    ((x.extractGroup []).merge (x.extract r)).dependencies =
      firstSeen ((r.map (·.name)).filter x.vocabulary.isAuth) := by
  have hmarks : r.any x.marks = false := by rwa [List.any_map] at h
  have hnames : ∀ chain : List Middleware, chain.any x.marks = false →
      chain.flatMap (x.contribution .dependencies) =
        (chain.map (·.name)).filter x.vocabulary.isAuth := by
    intro chain
    induction chain with
    | nil => intro _; rfl
    | cons m rest ih =>
        intro hchain
        rw [List.any_cons, Bool.or_eq_false_iff] at hchain
        have hm : x.authenticates m = x.vocabulary.isAuth m.name := by
          rw [authenticates, hchain.1, Bool.not_false, Bool.true_and]
        rw [List.flatMap_cons, ih hchain.2, contribution, if_pos rfl, hm, List.map_cons,
          List.filter_cons]
        cases x.vocabulary.isAuth m.name <;> rfl
  show ((x.extractGroup []).merge (x.extract r)).values .dependencies = _
  rw [Authorization.values_merge (by rw [allowsAnonymous_extract, hmarks]), values_extractGroup,
    values_extract, values_extract, hnames r hmarks]
  simp only [List.flatMap_nil, firstSeen, List.nil_append]
  rw [firstSeen_of_nodup (nodup_firstSeen _)]

end Extractor

/-! ### Endpoints -/

namespace Detector

theorem stripInline_nil (receiver : Node) : stripInline [] receiver = (receiver, []) := by
  rw [stripInline]
  split
  · split
    · rfl
    · rfl
  · rfl

theorem inline_of_target?_netHttp {v : Vocabulary} {call : Node} {target : Target}
    (h : target? ⟨.netHttp, v⟩ call = some target) : target.inline = [] := by
  unfold target? at h
  split at h
  · rename_i receiver method _
    rw [← Option.some.inj h]
    show (stripInline [] receiver).2 = []
    rw [stripInline_nil]
  · split at h
    · split at h
      · split at h
        · rw [← Option.some.inj h]
        · cases h
      · cases h
    · cases h

/-- The route of a call that `net/http` registers has the middleware after the handler and the
wrappers of the handler. -/
theorem chain_of_readCall_netHttp {v : Vocabulary} {path : String} {root call first n : Node}
    {rest : List Node} {e : Endpoint}
    (he : readCall ⟨.netHttp, v⟩ path (findGroups ⟨.netHttp, v⟩ root) call = .route e)
    (hargs : call.callArguments = first :: n :: rest) :
    e.middleware = (middlewareList rest ++ (unwrapHandler v n).2).map (·.name) ∧
      e.authorization = (Extractor.extractGroup ⟨v, false⟩ []).merge
        (Extractor.extract ⟨v, false⟩ (middlewareList rest ++ (unwrapHandler v n).2)) := by
  have hread := endpoint?_readCall ⟨.netHttp, v⟩ path (findGroups ⟨.netHttp, v⟩ root) call
  rw [he] at hread
  obtain ⟨reg, hreg, rfl⟩ := Option.map_eq_some_iff.mp hread.symm
  obtain ⟨htarget, -, hreg_args, -⟩ := registration?_netHttp hreg
  have hroute : routeChain ⟨.netHttp, v⟩ reg = middlewareList rest ++ (unwrapHandler v n).2 := by
    unfold routeChain
    rw [inline_of_target?_netHttp htarget, hreg_args, hargs]
    rfl
  have hgroup : groupChain (findGroups ⟨.netHttp, v⟩ root) call reg = [] := by
    rw [findGroups_of_groupless rfl rfl, groupChain_empty]
  rw [middleware_registered, authorization_registered, hroute, hgroup]
  exact ⟨rfl, rfl⟩

end Detector

/-- **Which wrappers count.** Whatever the vocabulary is, unwrapping a handler peels off a part of
its layers from outside. The peeled calls that count are those that are no conversions, in their
order. They are the ones that have to do with authentication, so that none of these is lost, exactly
when no peeled conversion has to do with it.

Those that count are the last middleware of each endpoint that `net/http` registers with this
handler. Its record admits anyone when one of the middleware is a marker, and otherwise lists those
that indicate authentication. -/
theorem auth_wrappers_counted_iff (v : Vocabulary) (n : Node) :
    unwrapHandler v n = (inside n (peeled v n),
      ((peeled v n).filter fun w => !isConversion w.callName).map middlewareOf) ∧
    ((unwrapHandler v n).2 = ((peeled v n).filter (indicates v)).map middlewareOf ↔
      ∀ w ∈ peeled v n, isConversion w.callName = true → indicates v w = false) ∧
    ∀ path root call first rest e,
      Detector.readCall ⟨.netHttp, v⟩ path (Detector.findGroups ⟨.netHttp, v⟩ root) call =
          .route e →
      call.callArguments = first :: n :: rest →
        e.middleware = (middlewareList rest).map (·.name) ++
          ((peeled v n).filter fun w => !isConversion w.callName).map (·.callName) ∧
        e.authorization.allowsAnonymous = e.middleware.any v.isAnonymous ∧
        (e.middleware.any v.isAnonymous = false →
          e.authorization.dependencies = firstSeen (e.middleware.filter v.isAuth)) := by
  refine ⟨unwrapHandler_eq v n, counted_eq_indicating_iff v n, ?_⟩
  intro path root call first rest e he hargs
  obtain ⟨hmiddleware, hrecord⟩ := Detector.chain_of_readCall_netHttp he hargs
  refine ⟨?_, ?_, ?_⟩
  · rw [hmiddleware, unwrapHandler_eq, List.map_append, List.map_map]
    congr 1
    refine List.map_congr_left fun w hw => ?_
    exact name_middlewareOf_of_call (kind_of_mem_peeled (List.mem_filter.mp hw).1)
  · rw [hrecord, hmiddleware]
    exact Extractor.allowsAnonymous_of_groupless ⟨v, false⟩ _
  · intro hunmarked
    rw [hmiddleware] at hunmarked
    rw [hrecord, hmiddleware]
    exact Extractor.dependencies_of_groupless ⟨v, false⟩ hunmarked

/-! ### Two handlers -/

/-- The tree of `name(inner)`, without positions. -/
def wrapping (name : String) (inner : Node) : Node :=
  .mk { kind := .call }
    [.mk { kind := .identifier, role := some .function, text := name } [],
     .mk { kind := .other "argument_list", role := some .arguments } [inner]]

/-- The tree of `h`. -/
def plainHandler : Node := .mk { kind := .identifier, text := "h" } []

/-- The tree of `http.Handle("/x", handler)`, without positions. -/
def handlingCall (handler : Node) : Node :=
  .mk { kind := .call }
    [.mk { kind := .selector, role := some .function }
      [.mk { kind := .identifier, role := some .operand, text := "http" } [],
       .mk { kind := .fieldIdentifier, role := some .field, text := "Handle" } []],
     .mk { kind := .other "argument_list", role := some .arguments }
      [.mk { kind := .interpretedString, text := "\"/x\"" } [], handler]]

/-- `Auth(HandlerFunc(h))` authenticates its route. -/
theorem converted_handler_counted :
    ∃ e, Detector.readCall { grammar := .netHttp } "main.go"
        (Detector.findGroups { grammar := .netHttp }
          (handlingCall (wrapping "Auth" (wrapping "HandlerFunc" plainHandler))))
        (handlingCall (wrapping "Auth" (wrapping "HandlerFunc" plainHandler))) = .route e ∧
      e.middleware = ["Auth"] ∧ e.authorization.dependencies = ["Auth"] := by
  have hread : Detector.readCall { grammar := .netHttp } "main.go"
      (Detector.findGroups { grammar := .netHttp }
        (handlingCall (wrapping "Auth" (wrapping "HandlerFunc" plainHandler))))
      (handlingCall (wrapping "Auth" (wrapping "HandlerFunc" plainHandler))) =
        .route (uncoveringEndpoint "h" ["Auth"]
          { requiresAuth := true, dependencies := ["Auth"], source := .middleware }) := by
    simp only [Detector.findGroups, Node.walk_eq_preorder]
    decide +kernel
  obtain ⟨-, -, hendpoint⟩ := auth_wrappers_counted_iff .standard
    (wrapping "Auth" (wrapping "HandlerFunc" plainHandler))
  obtain ⟨hmiddleware, -, hrecord⟩ := hendpoint _ _ _ _ [] _ hread rfl
  refine ⟨_, hread, ?_, ?_⟩
  · rw [hmiddleware]
    decide +kernel
  · rw [hrecord (by decide +kernel)]
    decide +kernel

/-- `AuthHandlerFunc(h)` is peeled and indicates authentication, and its route is open to anyone. -/
theorem auth_conversion_not_counted :
    ¬(∀ w ∈ peeled .standard (wrapping "AuthHandlerFunc" plainHandler),
      indicates .standard w = true →
        middlewareOf w ∈ (unwrapHandler .standard (wrapping "AuthHandlerFunc" plainHandler)).2) ∧
    Detector.readCall { grammar := .netHttp } "main.go"
        (Detector.findGroups { grammar := .netHttp }
          (handlingCall (wrapping "AuthHandlerFunc" plainHandler)))
        (handlingCall (wrapping "AuthHandlerFunc" plainHandler)) =
      .route (uncoveringEndpoint "h" [] {}) := by
  constructor
  · decide +kernel
  · simp only [Detector.findGroups, Node.walk_eq_preorder]
    decide +kernel

end RouteAudit
