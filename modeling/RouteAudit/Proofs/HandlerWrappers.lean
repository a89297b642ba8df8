import RouteAudit.Proofs.AuthPatterns
import RouteAudit.Proofs.GroupTable

/-! # Further keywords uncover wrappers

Where handlers may be wrapped, as in `Auth(Gate(h))`, the vocabulary also decides how far a handler
is unwrapped: unwrapping stops at the first call whose name says nothing. With more keywords it goes
on from there (`unwrapHandler_of_wider`), so the chain of a route is the chain it was before with
the uncovered wrappers after it (`routeChain_of_wider`).

Most uncovered wrappers protect their route or say nothing. A marker for anonymous access is the one
kind that opens it, whatever stands around it. `lower_iff_marker_uncovered` says that a class is
lower than before exactly when such a marker comes to light behind a route that was authenticated;
in `uncovering_call_not_tightened` one does. -/

namespace RouteAudit

open Go (Node)

/-! ### Unwrapping -/

theorem unwrapHandler_of_wrapper {v : Vocabulary} {n inner : Node}
    (h : (n.kind = .call && isWrapper v n.callName) = true)
    (hlast : n.callArguments.getLast? = some inner) :
    unwrapHandler v n = ((unwrapHandler v inner).1,
      if isConversion n.callName then (unwrapHandler v inner).2
      else middlewareOf n :: (unwrapHandler v inner).2) := by
  rw [unwrapHandler, if_pos h]
  split
  · rename_i inner' hlast'
    rw [hlast] at hlast'
    cases hlast'
    rfl
  · rename_i hnone
    rw [hlast] at hnone
    cases hnone

/-- Where more names are those of wrappers, unwrapping goes on where it stopped. -/
theorem unwrapHandler_of_wider {v w : Vocabulary}
    (h : ∀ name, isWrapper v name = true → isWrapper w name = true) (n : Node) :
    unwrapHandler w n = ((unwrapHandler w (unwrapHandler v n).1).1,
      (unwrapHandler v n).2 ++ (unwrapHandler w (unwrapHandler v n).1).2) := by
  fun_induction unwrapHandler v n with
  | case1 n hwrap inner hlast unwrapped ih =>
      have hwrap' : (n.kind = .call && isWrapper w n.callName) = true := by
        rw [Bool.and_eq_true] at hwrap ⊢
        exact ⟨hwrap.1, h _ hwrap.2⟩
      rw [unwrapHandler_of_wrapper hwrap' hlast, ih]
      split <;> rfl
  | case2 n hwrap hlast => rfl
  | case3 n hwrap => rfl

theorem isWrapper_withAuthPatterns (v : Vocabulary) (patterns : List String) (name : String)
    (h : isWrapper v name = true) : isWrapper (v.withAuthPatterns patterns) name = true := by
  unfold isWrapper at h ⊢
  rw [Vocabulary.isAuth_withAuthPatterns]
  simp only [Bool.or_eq_true] at h ⊢
  rcases h with (hconv | hauth) | hanon
  · exact .inl (.inl hconv)
  · exact .inl (.inr (.inl hauth))
  · exact .inr hanon

namespace Detector

/-- The chain of a route with more keywords is the chain it was, with what is uncovered after it. -/
theorem routeChain_of_wider {v w : Vocabulary}
    (h : ∀ name, isWrapper v name = true → isWrapper w name = true) (g : Grammar)
    (r : Registration) :
    ∃ uncovered, routeChain ⟨g, w⟩ r = routeChain ⟨g, v⟩ r ++ uncovered := by
  have hhandler : ∀ handler, ∃ uncovered,
      (unwrapped ⟨g, w⟩ handler).2 = (unwrapped ⟨g, v⟩ handler).2 ++ uncovered := by
    intro handler
    cases handler with
    | none => exact ⟨[], rfl⟩
    | some n =>
        unfold unwrapped
        dsimp only
        split
        · exact ⟨_, by rw [unwrapHandler_of_wider h n]⟩
        · exact ⟨[], rfl⟩
  obtain ⟨uncovered, hu⟩ := hhandler (handlerAndMiddleware ⟨g, v⟩ r.args).1
  refine ⟨uncovered, ?_⟩
  show _ ++ (unwrapped ⟨g, w⟩ (handlerAndMiddleware ⟨g, v⟩ r.args).1).2 = _
  rw [hu, ← List.append_assoc]
  rfl

/-! ### Routes without groups -/

theorem findGroups_of_groupless {d : Detector} (hbinding : d.grammar.groupBinding = .absent)
    (huse : d.grammar.useMethods = []) (root : Node) : d.findGroups root = {} := by
  have hsteps : ∀ n, d.steps n = [] := by
    intro n
    unfold steps callStep?
    rw [if_neg (by simp [hbinding])]
    split
    · cases n.methodCall? with
      | none => rfl
      | some q => simp [hbinding, huse]
    · rfl
  rw [findGroups_eq_run, List.flatMap_eq_nil_iff.mpr fun n _ => hsteps n]
  rfl

theorem groupOf?_empty (call : Node) (r : Registration) : groupOf? {} call r = none := by
  unfold groupOf?
  split <;> rfl

theorem groupChain_empty (call : Node) (r : Registration) : groupChain {} call r = [] := by
  rw [groupChain, groupOf?_empty]

end Detector

/-! ### Classes of chains whose literals are not read -/

namespace Extractor

theorem exposure_of_plain {x : Extractor} (hx : x.passLiterals = false) (r : List Middleware) :
    ((x.extractGroup []).merge (x.extract r)).exposure =
      if r.any x.marks || !r.any x.authenticates then .anyone else .authenticated := by
  rw [Authorization.exposure_eq_ladder]
  cases hmarks : r.any x.marks with
  | true =>
      have hanon := (Authorization.merge_of_allowsAnonymous (p := x.extractGroup [])
        (c := x.extract r) (by rw [allowsAnonymous_extract, hmarks])).1
      simp [hanon]
  | false =>
      have hempty : ∀ f, f ≠ .dependencies →
          (((x.extractGroup []).merge (x.extract r)).values f).isEmpty = true := by
        intro f hf
        rw [x.isEmpty_values_merge_extract [] hmarks hf]
        simp [demands, hx]
      have hroles := hempty .roles (by decide)
      have hscopes := hempty .scopes (by decide)
      have hpermissions := hempty .permissions (by decide)
      have hpolicies := hempty .policies (by decide)
      simp only [Authorization.values] at hroles hscopes hpermissions hpolicies
      rw [hroles, hscopes, hpermissions, hpolicies, x.requiresAuth_merge_extract [] hmarks,
        x.allowsAnonymous_merge_extract_of_unmarked [] r hmarks, List.nil_append]
      cases r.any x.authenticates <;> simp

/-- With more labels and more middleware at the end, the class is lower only for a marker there. -/
theorem rank_lt_iff_marks {x y : Extractor} (h : x.Widens y) (hx : x.passLiterals = false)
    (hy : y.passLiterals = false) (r uncovered : List Middleware) :
    ((y.extractGroup []).merge (y.extract (r ++ uncovered))).exposure.rank <
        ((x.extractGroup []).merge (x.extract r)).exposure.rank ↔
      ((x.extractGroup []).merge (x.extract r)).exposure = .authenticated ∧
        uncovered.any x.marks = true := by
  rw [exposure_of_plain hx, exposure_of_plain hy, h.marks, List.any_append, List.any_append]
  cases hmarks : r.any x.marks with
  | true => simp [Exposure.rank]
  | false =>
      cases hauth : r.any x.authenticates with
      | false => simp [Exposure.rank]
      | true =>
          rw [h.any_authenticates hauth]
          cases uncovered.any x.marks <;> simp [Exposure.rank]

end Extractor

/-! ### Endpoints -/

/-- **Further keywords tighten unless they uncover a marker.** With more keywords for authentication
the same routes are found in a tree, in the same order. The middleware of each is what it was,
followed by the wrappers that have been uncovered, and its class is lower than it was exactly when
it was authenticated and one of these is a marker for anonymous access. -/
theorem lower_iff_marker_uncovered (v : Vocabulary) (patterns : List String) (path : String)
    (root : Node) :
    List.Forall₂
      (fun e e' => e'.route = e.route ∧ e'.methods = e.methods ∧ e'.line = e.line ∧
        ∃ uncovered, e'.middleware = e.middleware ++ uncovered ∧
          (e'.classified.exposure.rank < e.classified.exposure.rank ↔
            e.classified.exposure = .authenticated ∧ uncovered.any v.isAnonymous = true))
      (Detector.discover ⟨.netHttp, v⟩ path root)
      (Detector.discover ⟨.netHttp, v.withAuthPatterns patterns⟩ path root) := by
  have hgrammar : (Detector.mk .netHttp v).grammar =
      (Detector.mk .netHttp (v.withAuthPatterns patterns)).grammar := rfl
  refine Detector.forall₂_discover hgrammar fun call target route methods args => ?_
  rw [Detector.findGroups_of_groupless rfl rfl]
  refine ⟨rfl, rfl, rfl, ?_⟩
  let reg : Detector.Registration := ⟨target, route, methods, args⟩
  obtain ⟨uncovered, hchain⟩ := Detector.routeChain_of_wider
    (isWrapper_withAuthPatterns v patterns) .netHttp reg
  refine ⟨uncovered.map (·.name), ?_, ?_⟩
  · show (Detector.groupChain {} call reg ++ Detector.routeChain _ reg).map _ =
      (Detector.groupChain {} call reg ++ Detector.routeChain _ reg).map _ ++ _
    rw [hchain, ← List.map_append, List.append_assoc]
  · have hiff := Extractor.rank_lt_iff_marks
      (Extractor.widens_withAuthPatterns v patterns false) rfl rfl
      (Detector.routeChain ⟨.netHttp, v⟩ reg) uncovered
    rw [← hchain, ← Detector.groupChain_empty call reg] at hiff
    rw [List.any_map]
    exact hiff

/-- The tree of `http.Handle("/x", Auth(Gate(Public(h))))`. -/
def uncoveringCall : Node :=
  .mk { kind := .call, span := ⟨0, 40⟩ }
    [.mk { kind := .selector, role := some .function, span := ⟨0, 11⟩ }
      [.mk { kind := .identifier, role := some .operand, span := ⟨0, 4⟩, text := "http" } [],
       .mk { kind := .fieldIdentifier, role := some .field, span := ⟨5, 11⟩, text := "Handle" } []],
     .mk { kind := .other "argument_list", role := some .arguments, span := ⟨11, 40⟩ }
      [.mk { kind := .interpretedString, span := ⟨12, 16⟩, text := "\"/x\"" } [],
       .mk { kind := .call, span := ⟨18, 39⟩ }
        [.mk { kind := .identifier, role := some .function, span := ⟨18, 22⟩, text := "Auth" } [],
         .mk { kind := .other "argument_list", role := some .arguments, span := ⟨22, 39⟩ }
          [.mk { kind := .call, span := ⟨23, 38⟩ }
            [.mk { kind := .identifier, role := some .function, span := ⟨23, 27⟩, text := "Gate" }
              [],
             .mk { kind := .other "argument_list", role := some .arguments, span := ⟨27, 38⟩ }
              [.mk { kind := .call, span := ⟨28, 37⟩ }
                [.mk { kind := .identifier, role := some .function, span := ⟨28, 34⟩,
                       text := "Public" } [],
                 .mk { kind := .other "argument_list", role := some .arguments, span := ⟨34, 37⟩ }
                  [.mk { kind := .identifier, span := ⟨35, 36⟩, text := "h" } []]]]]]]]]

/-- The endpoint that it registers, with what a vocabulary makes of its handler. -/
def uncoveringEndpoint (handler : String) (middleware : List String)
    (authorization : Authorization) : Endpoint where
  route := "/x"
  methods := Method.all
  filePath := "main.go"
  line := 1
  framework := .netHttp
  handler := handler
  middleware := middleware
  authorization := authorization

/-- A keyword for the wrapper in the middle uncovers a marker, and an endpoint that was
authenticated becomes open to anyone. -/
theorem uncovering_call_not_tightened :
    ¬List.Forall₂
      (fun e e' => e'.route = e.route ∧ e'.methods = e.methods ∧ e'.line = e.line ∧
        e.classified.exposure.rank ≤ e'.classified.exposure.rank)
      (Detector.discover ⟨.netHttp, .standard⟩ "main.go" uncoveringCall)
      (Detector.discover ⟨.netHttp, Vocabulary.standard.withAuthPatterns ["gate"]⟩ "main.go"
        uncoveringCall) := by
  have hbefore : Detector.discover ⟨.netHttp, .standard⟩ "main.go" uncoveringCall =
      [uncoveringEndpoint "Gate" ["Auth"]
        { requiresAuth := true, dependencies := ["Auth"], source := .middleware }] := by
    simp only [Detector.discover, Detector.readings, Detector.findGroups, Node.walk_eq_preorder]
    decide +kernel
  have hafter : Detector.discover ⟨.netHttp, Vocabulary.standard.withAuthPatterns ["gate"]⟩
      "main.go" uncoveringCall = [uncoveringEndpoint "h" ["Auth", "Gate", "Public"]
        { allowsAnonymous := true, source := .middleware }] := by
    simp only [Detector.discover, Detector.readings, Detector.findGroups, Node.walk_eq_preorder]
    decide +kernel
  rw [hbefore, hafter, List.forall₂_cons]
  rintro ⟨⟨-, -, -, hrank⟩, -⟩
  exact absurd hrank (by decide)

end RouteAudit
