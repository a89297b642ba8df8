import RouteAudit.Proofs.CallReading
import RouteAudit.Proofs.RuleCoverage

/-! # Further keywords only tighten

Settings may add keywords that indicate authentication. A vocabulary with more of them labels more
middleware as authenticating and changes no other label, so its extractor `Widens` the one before.
The record of a route is then at least as strict as it was (`tightens_merge_extract`): a marker of
the group may lose its effect, because the route's own chain says something now, but only where that
chain authenticates. What is stricter has no lower class (`Tightens.rank_le`), and it is not open
without a marker unless it was so before (`Tightens.isOpen`), which is all that the rules for
unprotected endpoints ask.

Where handlers are not unwrapped, the vocabulary decides nothing but labels. For those frameworks
`auth_patterns_only_tighten` compares the endpoints of a tree one by one. -/

namespace RouteAudit

/-! ### Stricter records -/

namespace Authorization

/-- The class of a record as a ladder of what it demands: a policy, permission or scope, a role,
then authentication. -/
theorem exposure_eq_ladder (a : Authorization) :
    a.exposure =
      if a.allowsAnonymous then .anyone
      else if !a.policies.isEmpty || !a.permissions.isEmpty || !a.scopes.isEmpty then
        .policyRestricted
      else if !a.roles.isEmpty then .roleRestricted
      else if a.requiresAuth then .authenticated
      else .anyone := by
  unfold exposure hasRequirements
  cases a.requiresAuth <;> cases a.roles.isEmpty <;> cases a.scopes.isEmpty <;>
    cases a.permissions.isEmpty <;> cases a.policies.isEmpty <;> simp

theorem exposure_ne_anyone {a : Authorization} (hanon : a.allowsAnonymous = false)
    (hauth : a.requiresAuth = true) : a.exposure ≠ .anyone := by
  rw [exposure_eq_ladder, hanon, hauth]
  simp only [Bool.false_eq_true, if_false, if_true]
  split
  · simp
  · split <;> simp

/-- The second record is at least as strict as the first, and demands the same values. -/
structure Tightens (a b : Authorization) : Prop where
  anonymous : b.allowsAnonymous = true → a.allowsAnonymous = true
  authentication : a.requiresAuth = true → b.requiresAuth = true
  requirements : ∀ f, f ≠ .dependencies → b.values f = a.values f
  /-- Anonymous access ends only where authentication is required. -/
  closed : a.allowsAnonymous = true → b.allowsAnonymous = false → b.requiresAuth = true

namespace Tightens

variable {a b : Authorization}

theorem rank_le (h : a.Tightens b) : a.exposure.rank ≤ b.exposure.rank := by
  have hroles : b.roles = a.roles := h.requirements .roles (by decide)
  have hscopes : b.scopes = a.scopes := h.requirements .scopes (by decide)
  have hpermissions : b.permissions = a.permissions := h.requirements .permissions (by decide)
  have hpolicies : b.policies = a.policies := h.requirements .policies (by decide)
  rw [a.exposure_eq_ladder, b.exposure_eq_ladder, hroles, hscopes, hpermissions, hpolicies]
  cases hanon : a.allowsAnonymous with
  | true => exact Nat.zero_le _
  | false =>
      have hanon' : b.allowsAnonymous = false := by
        by_contra hne
        rw [h.anonymous (by simpa using hne)] at hanon
        cases hanon
      simp only [hanon', Bool.false_eq_true, if_false]
      split
      · exact Nat.le_refl _
      · split
        · exact Nat.le_refl _
        · cases hauth : a.requiresAuth with
          | true => simp [h.authentication hauth]
          | false => exact Nat.zero_le _

theorem isOpen (h : a.Tightens b) (hopen : b.exposure = .anyone)
    (hanon : b.allowsAnonymous = false) : a.exposure = .anyone ∧ a.allowsAnonymous = false := by
  constructor
  · have hrank := h.rank_le
    rw [hopen] at hrank
    cases ha : a.exposure with
    | anyone => rfl
    | authenticated => rw [ha] at hrank; exact absurd hrank (by decide)
    | roleRestricted => rw [ha] at hrank; exact absurd hrank (by decide)
    | policyRestricted => rw [ha] at hrank; exact absurd hrank (by decide)
  · by_contra hne
    exact exposure_ne_anyone hanon (h.closed (by simpa using hne) hanon) hopen

end Tightens

theorem merge_of_allowsAnonymous {p c : Authorization} (h : c.allowsAnonymous = true) :
    (p.merge c).allowsAnonymous = true ∧ (p.merge c).requiresAuth = false ∧
      ∀ f, (p.merge c).values f = [] := by
  simp only [merge, h, Bool.and_self, if_true]
  exact ⟨trivial, trivial, fun f => by cases f <;> rfl⟩

end Authorization

/-! ### Wider labels -/

namespace Extractor

/-- The second extractor takes more middleware for authenticating and labels nothing else
differently. -/
structure Widens (x y : Extractor) : Prop where
  marks : y.marks = x.marks
  demands : y.demands = x.demands
  authenticates : ∀ m, x.authenticates m = true → y.authenticates m = true

theorem widens_withAuthPatterns (v : Vocabulary) (patterns : List String) (passLiterals : Bool) :
    Widens ⟨v, passLiterals⟩ ⟨v.withAuthPatterns patterns, passLiterals⟩ where
  marks := rfl
  demands := rfl
  authenticates m h := by
    simp only [Extractor.authenticates, Bool.and_eq_true, Vocabulary.isAuth_withAuthPatterns,
      Bool.or_eq_true] at h ⊢
    exact ⟨h.1, .inl h.2⟩

variable {x y : Extractor}

namespace Widens

theorem any_authenticates (h : x.Widens y) {chain : List Middleware}
    (hany : chain.any x.authenticates = true) : chain.any y.authenticates = true := by
  rw [List.any_eq_true] at hany ⊢
  obtain ⟨m, hm, hauth⟩ := hany
  exact ⟨m, hm, h.authenticates m hauth⟩

theorem demandsAny (h : x.Widens y) : y.demandsAny = x.demandsAny := by
  funext m
  unfold Extractor.demandsAny
  rw [h.demands]

theorem values_extract (h : x.Widens y) {f : AuthField} (hf : f ≠ .dependencies)
    (chain : List Middleware) : (y.extract chain).values f = (x.extract chain).values f := by
  have hcontribution : y.contribution f = x.contribution f := by
    funext m
    rw [contribution, contribution, if_neg hf, if_neg hf, h.demands]
  rw [Extractor.values_extract, Extractor.values_extract, hcontribution]

theorem any_authenticates_of_configures (h : x.Widens y) {chain : List Middleware}
    (hx : chain.any x.configures = false) (hy : chain.any y.configures = true) :
    chain.any y.authenticates = true := by
  rw [any_configures, any_protects, Bool.or_eq_false_iff, Bool.or_eq_false_iff] at hx
  rw [any_configures, any_protects, h.marks, h.demandsAny, hx.1, hx.2.2, Bool.false_or,
    Bool.or_false] at hy
  exact hy

end Widens

theorem tightens_merge_extract (h : x.Widens y) (g r : List Middleware) :
    ((x.extractGroup g).merge (x.extract r)).Tightens ((y.extractGroup g).merge (y.extract r)) := by
  cases hmarks : r.any x.marks with
  | true =>
      have hx := Authorization.merge_of_allowsAnonymous (p := x.extractGroup g) (c := x.extract r)
        (by rw [allowsAnonymous_extract, hmarks])
      have hy := Authorization.merge_of_allowsAnonymous (p := y.extractGroup g) (c := y.extract r)
        (by rw [allowsAnonymous_extract, h.marks, hmarks])
      refine ⟨fun _ => hx.1, fun hauth => ?_, fun f _ => ?_, fun _ hanon => ?_⟩
      · rw [hx.2.1] at hauth
        cases hauth
      · rw [hx.2.2, hy.2.2]
      · rw [hy.1] at hanon
        cases hanon
  | false =>
      have hmarks' : r.any y.marks = false := by rw [h.marks, hmarks]
      have hanon := x.allowsAnonymous_merge_extract_of_unmarked g r hmarks
      have hanon' := y.allowsAnonymous_merge_extract_of_unmarked g r hmarks'
      rw [h.marks] at hanon'
      refine ⟨fun hy => ?_, fun hx => ?_, fun f hf => ?_, fun hx hy => ?_⟩
      · rw [hanon', Bool.and_eq_true, Bool.not_eq_true'] at hy
        rw [hanon, Bool.and_eq_true, Bool.not_eq_true']
        refine ⟨?_, hy.2⟩
        -- a chain that says nothing under more labels said nothing before
        by_contra hne
        have hconf : r.any x.configures = true := by simpa using hne
        rw [any_configures, any_protects, hmarks, Bool.false_or, Bool.or_eq_true] at hconf
        have hsilent := hy.1
        rw [any_configures, any_protects, h.demandsAny, Bool.or_eq_false_iff,
          Bool.or_eq_false_iff] at hsilent
        rcases hconf with hauth | hdemand
        · rw [h.any_authenticates hauth] at hsilent
          cases hsilent.2.1
        · rw [hdemand] at hsilent
          cases hsilent.2.2
      · rw [x.requiresAuth_merge_extract g hmarks] at hx
        rw [y.requiresAuth_merge_extract g hmarks']
        exact h.any_authenticates hx
      · rw [Authorization.values_merge (by rw [allowsAnonymous_extract, hmarks']),
          Authorization.values_merge (by rw [allowsAnonymous_extract, hmarks]), values_extractGroup,
          values_extractGroup, h.values_extract hf, h.values_extract hf]
      · rw [hanon, Bool.and_eq_true, Bool.not_eq_true'] at hx
        rw [hanon', hx.2, Bool.and_true, Bool.not_eq_false'] at hy
        rw [y.requiresAuth_merge_extract g hmarks', List.any_append,
          h.any_authenticates_of_configures hx.1 hy, Bool.or_true]

end Extractor

/-! ### Endpoints -/

/-- The endpoints are registered by one call: they differ in their records at most. -/
structure Endpoint.SameRegistration (e e' : Endpoint) : Prop where
  route : e'.route = e.route
  methods : e'.methods = e.methods
  filePath : e'.filePath = e.filePath
  line : e'.line = e.line
  framework : e'.framework = e.framework
  handler : e'.handler = e.handler
  routerPrefix : e'.routerPrefix = e.routerPrefix
  middleware : e'.middleware = e.middleware

namespace Detector

theorem unwrapped_of_plain {d : Detector} (h : d.grammar.wrappedHandlers = false)
    (handler : Option Go.Node) : d.unwrapped handler = (handler, []) := by
  cases handler with
  | none => rfl
  | some n => simp [unwrapped, h]

/-- Where handlers are not unwrapped, the vocabulary only enters into the record, which is made of
the same two chains. -/
theorem endpointOf_withVocabulary {g : Grammar} (h : g.wrappedHandlers = false) (v w : Vocabulary)
    (path : String) (t : GroupTable) (call : Go.Node) (target : Target) (route : String)
    (methods : List Method) (args : List Go.Node) :
    let e := endpointOf ⟨g, v⟩ path t call target route methods args
    let e' := endpointOf ⟨g, w⟩ path t call target route methods args
    e.SameRegistration e' ∧ ∃ outer inner,
      e.authorization =
        (Extractor.extractGroup ⟨v, g.passLiterals⟩ outer).merge
          (Extractor.extract ⟨v, g.passLiterals⟩ inner) ∧
      e'.authorization =
        (Extractor.extractGroup ⟨w, g.passLiterals⟩ outer).merge
          (Extractor.extract ⟨w, g.passLiterals⟩ inner) := by
  have hv : ∀ handler, unwrapped ⟨g, v⟩ handler = (handler, []) := unwrapped_of_plain h
  have hw : ∀ handler, unwrapped ⟨g, w⟩ handler = (handler, []) := unwrapped_of_plain h
  simp only [endpointOf, hv, hw]
  exact ⟨⟨rfl, rfl, rfl, rfl, rfl, rfl, rfl, rfl⟩, _, _, rfl, rfl⟩

end Detector

/-- The rules about endpoints that nothing protects. -/
def unprotectedRuleIds : List String := ["AP001", "AP004", "AP007", "AP008"]

/-- They object to endpoints only that are open to anyone without a marker. Stricter records make
fewer of these. -/
theorem Rule.objects_of_tightens {e e' : Endpoint} (hsame : e.SameRegistration e')
    (htight : e.authorization.Tightens e'.authorization) (hcons : e.authorization.Consistent)
    (hcons' : e'.authorization.Consistent) {r : Rule} (hr : r.id ∈ unprotectedRuleIds)
    (h : r.objects e'.classified = true) : r.objects e.classified = true := by
  have hsilent : isSilentlyPublic e'.classified = true → isSilentlyPublic e.classified = true := by
    rw [isSilentlyPublic_iff (e := e'.classified) rfl hcons',
      isSilentlyPublic_iff (e := e.classified) rfl hcons]
    exact fun ⟨hopen, hanon⟩ => htight.isOpen hopen hanon
  have hwrite : e'.classified.isWrite = e.classified.isWrite := by
    show e'.methods.any _ = e.methods.any _
    rw [hsame.methods]
  have hroute : e'.classified.fullRoute = e.classified.fullRoute := by
    show Endpoint.joinRoute e'.routerPrefix e'.route = Endpoint.joinRoute e.routerPrefix e.route
    rw [hsame.routerPrefix, hsame.route]
  cases r with
  | publicWithoutIntent => exact hsilent h
  | anonymousWrite => exact absurd hr (by simp [id, unprotectedRuleIds])
  | groupConflict => exact absurd hr (by simp [id, unprotectedRuleIds])
  | unprotectedWrite =>
      simp only [objects, hwrite, Bool.and_eq_true] at h ⊢
      exact ⟨h.1, hsilent h.2⟩
  | excessiveRoles limit => exact absurd hr (by simp [id, unprotectedRuleIds])
  | weakRoleNames names => exact absurd hr (by simp [id, unprotectedRuleIds])
  | sensitiveRoute keywords =>
      simp only [objects, routeKeywords, hroute, Bool.and_eq_true, beq_iff_eq,
        Bool.not_eq_true'] at h ⊢
      exact ⟨htight.isOpen h.1.1 h.1.2, h.2⟩
  | withoutAuthentication => exact hsilent h

theorem Grammar.wrappedHandlers_eq_false {g : Grammar} (h : g ∈ [gin, echo, chi, fiber]) :
    g.wrappedHandlers = false := by
  simp only [List.mem_cons, List.not_mem_nil, or_false] at h
  rcases h with rfl | rfl | rfl | rfl <;> rfl

/-- **Further keywords only tighten.** With more keywords for authentication the same endpoints are
found in a tree, in the same order; the class of each is at least what it was, and no rule about
unprotected endpoints objects to one that it did not object to before. -/
theorem auth_patterns_only_tighten (g : Grammar) (hg : g ∈ [Grammar.gin, .echo, .chi, .fiber])
    (v : Vocabulary) (patterns : List String) (path : String) (root : Go.Node) :
    List.Forall₂
      (fun e e' => e.SameRegistration e' ∧
        e.classified.exposure.rank ≤ e'.classified.exposure.rank ∧
        ∀ r : Rule, r.id ∈ unprotectedRuleIds →
          r.evaluate e.classified = [] → r.evaluate e'.classified = [])
      (Detector.discover ⟨g, v⟩ path root)
      (Detector.discover ⟨g, v.withAuthPatterns patterns⟩ path root) := by
  have hgrammar : (Detector.mk g v).grammar =
      (Detector.mk g (v.withAuthPatterns patterns)).grammar := rfl
  refine Detector.forall₂_discover hgrammar fun call target route methods args => ?_
  obtain ⟨hsame, outer, inner, hauth, hauth'⟩ :=
    Detector.endpointOf_withVocabulary (Grammar.wrappedHandlers_eq_false hg) v
      (v.withAuthPatterns patterns) path (Detector.findGroups ⟨g, v⟩ root) call target route methods
      args
  have htight := Extractor.tightens_merge_extract
    (Extractor.widens_withAuthPatterns v patterns g.passLiterals) outer inner
  have hcons := Extractor.consistent_merge_extract ⟨v, g.passLiterals⟩ outer inner
  have hcons' :=
    Extractor.consistent_merge_extract ⟨v.withAuthPatterns patterns, g.passLiterals⟩ outer inner
  rw [← hauth] at htight hcons
  rw [← hauth'] at htight hcons'
  refine ⟨hsame, htight.rank_le, fun r hr hnone => ?_⟩
  unfold Rule.evaluate at hnone ⊢
  split
  · rename_i hobj
    rw [Rule.objects_of_tightens hsame htight hcons hcons' hr hobj, if_pos rfl] at hnone
    cases hnone
  · rfl

/-- The tree of `r.POST("/admin", Gatekeeper, h)`. -/
def gatedCall : Go.Node :=
  .mk { kind := .call, span := ⟨0, 31⟩ }
    [.mk { kind := .selector, role := some .function, span := ⟨0, 6⟩ }
      [.mk { kind := .identifier, role := some .operand, span := ⟨0, 1⟩, text := "r" } [],
       .mk { kind := .fieldIdentifier, role := some .field, span := ⟨2, 6⟩, text := "POST" } []],
     .mk { kind := .other "argument_list", role := some .arguments, span := ⟨6, 31⟩ }
      [.mk { kind := .interpretedString, span := ⟨7, 15⟩, text := "\"/admin\"" } [],
       .mk { kind := .identifier, span := ⟨17, 27⟩, text := "Gatekeeper" } [],
       .mk { kind := .identifier, span := ⟨29, 30⟩, text := "h" } []]]

/-- The endpoint that it registers, with the record that a vocabulary makes of it. -/
def gatedEndpoint (authorization : Authorization) : Endpoint where
  route := "/admin"
  methods := [.post]
  filePath := "main.go"
  line := 1
  framework := .gin
  handler := "h"
  middleware := ["Gatekeeper"]
  authorization := authorization

/-- A keyword for the middleware makes an endpoint that was open to anyone an authenticated one. -/
theorem gatekeeper_only_tightens :
    ∃ e e', Detector.discover ⟨.gin, .standard⟩ "main.go" gatedCall = [e] ∧
      Detector.discover ⟨.gin, Vocabulary.standard.withAuthPatterns ["GateKeeper"]⟩ "main.go"
        gatedCall = [e'] ∧
      e.classified.exposure = .anyone ∧ e'.classified.exposure = .authenticated ∧
      e.SameRegistration e' ∧ e.classified.exposure.rank ≤ e'.classified.exposure.rank := by
  have hopen : Detector.discover ⟨.gin, .standard⟩ "main.go" gatedCall = [gatedEndpoint {}] := by
    simp only [Detector.discover, Detector.readings, Detector.findGroups, Go.Node.walk_eq_preorder]
    decide +kernel
  have hgated : Detector.discover ⟨.gin, Vocabulary.standard.withAuthPatterns ["GateKeeper"]⟩
      "main.go" gatedCall = [gatedEndpoint
        { requiresAuth := true, dependencies := ["Gatekeeper"], source := .middleware }] := by
    simp only [Detector.discover, Detector.readings, Detector.findGroups, Go.Node.walk_eq_preorder]
    decide +kernel
  have htight :=
    auth_patterns_only_tighten .gin (by simp) .standard ["GateKeeper"] "main.go" gatedCall
  rw [hopen, hgated, List.forall₂_cons] at htight
  exact ⟨_, _, hopen, hgated, by decide, by decide, htight.1.1, htight.1.2.1⟩

end RouteAudit
