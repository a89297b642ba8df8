import RouteAudit.Proofs.CallReading

/-! # A verb is a method or an argument

Most frameworks have two ways to register a route for a verb: `r.GET("/x", h)` and
`r.Handle("GET", "/x", h)`. They are read along different branches, each with a count of arguments
of its own, and the second has its arguments shifted by one. Both end in the same reading of the
arguments from the path on (`readCall_of_isVerbCall`, `readCall_of_isVerbArgumentCall`). For this
the counts have to fit: a call with a verb argument needs at most one argument more than a route
does (`Grammar.VerbCallsAgree`).

What is read from there on depends on the place of the call and on its receiver alone
(`readRoute_congr`), so `verb_argument_read_as_verb_call` follows. -/

namespace RouteAudit

open Go (Node)

/-! ### Grammars -/

namespace Grammar

/-- The two kinds of verb calls fit together. -/
structure VerbCallsAgree (g : Grammar) : Prop where
  /-- No two verbs have one name. -/
  named : ∀ p ∈ g.verbs, g.verbs.lookup p.1 = some p.2
  apart : ∀ name ∈ g.verbArgumentCalls, g.verbs.lookup name = none
  /-- A call with too few arguments for a verb and a route has too few for the route. -/
  counts : g.verbArgumentCount ≤ g.routeArgumentCount + 1
  /-- The path is the route. -/
  plain : g.methodPatterns = false ∧ g.requireSlash = false

theorem verbCallsAgree {g : Grammar} (h : g ∈ [gin, echo, chi, fiber]) : g.VerbCallsAgree := by
  simp only [List.mem_cons, List.not_mem_nil, or_false] at h
  rcases h with rfl | rfl | rfl | rfl
  · exact ⟨by decide, by decide, by decide, by decide⟩
  · exact ⟨by decide, by decide, by decide, by decide⟩
  · exact ⟨by decide, by decide, by decide, by decide⟩
  · exact ⟨by decide, by decide, by decide, by decide⟩

end Grammar

namespace Detector

variable {d : Detector} {path : String} {t : GroupTable} {call receiver : Node} {v : Method}
  {args : List Node}

/-- The call has the form `receiver.V(args)`, where `V` is the name of a verb. -/
structure IsVerbCall (d : Detector) (call receiver : Node) (v : Method) (args : List Node) :
    Prop where
  called : ∃ name, call.methodCall? = some (receiver, name) ∧ (name, v) ∈ d.grammar.verbs
  arguments : call.callArguments = args

/-- The call has the form `receiver.M(verb, args)`, where `M` takes a verb as its argument. -/
structure IsVerbArgumentCall (d : Detector) (call receiver : Node) (v : Method)
    (args : List Node) : Prop where
  called : ∃ name, call.methodCall? = some (receiver, name) ∧
    name ∈ d.grammar.verbArgumentCalls
  arguments : ∃ verb, verbOf? verb = some v ∧ call.callArguments = verb :: args

/-! ### Routes -/

/-- What a route is called on, whatever the method. -/
def routeTarget (d : Detector) (receiver : Node) : Target where
  method := ""
  receiver := (stripInline d.grammar.inlineCalls receiver).1.dottedName
  inline := (stripInline d.grammar.inlineCalls receiver).2

theorem target?_of_methodCall? {name : String} (h : call.methodCall? = some (receiver, name)) :
    d.target? call = some { d.routeTarget receiver with method := name } := by
  unfold target?
  rw [h]
  rfl

theorem readRoute_method (target : Target) (name : String) (methods : List Method) :
    d.readRoute path t call { target with method := name } methods args =
      d.readRoute path t call target methods args := rfl

theorem readRoute_of_short (target : Target) (methods : List Method)
    (h : args.length < d.grammar.routeArgumentCount) :
    d.readRoute path t call target methods args = .unrelated := by
  cases args with
  | nil => rfl
  | cons first rest => exact if_pos h

theorem readRoute_congr {call' : Node} (hstart : call.start = call'.start)
    (hline : call.line = call'.line) (target : Target) (methods : List Method) (args : List Node) :
    d.readRoute path t call target methods args = d.readRoute path t call' target methods args := by
  have hend : ∀ route ms, d.endpointOf path t call target route ms args =
      d.endpointOf path t call' target route ms args := by
    intro route ms
    unfold endpointOf
    rw [hstart, hline]
  unfold readRoute
  simp only [hend, hline]

/-- Where the path is the route, a route is read exactly from enough arguments that start with a
literal. -/
theorem readRoute_eq_route_iff
    (hplain : d.grammar.methodPatterns = false ∧ d.grammar.requireSlash = false) {target : Target}
    {methods : List Method} {e : Endpoint} :
    d.readRoute path t call target methods args = .route e ↔
      ∃ first, args.head? = some first ∧ d.grammar.routeArgumentCount ≤ args.length ∧
        first.stringOrEmpty ≠ "" ∧
        e = d.endpointOf path t call target first.stringOrEmpty methods args := by
  cases args with
  | nil => simp [readRoute]
  | cons first rest =>
      have hsplit : d.routeAndVerbs first.stringOrEmpty methods =
          (first.stringOrEmpty, methods) := by
        simp [routeAndVerbs, hplain.1]
      unfold readRoute
      simp only [hsplit, hplain.2, Bool.false_and, Bool.false_eq_true, if_false, List.head?_cons,
        Option.some.injEq, exists_eq_left']
      split
      · rename_i hshort
        simp only [reduceCtorEq, false_iff]
        rintro ⟨hcount, -⟩
        omega
      · rename_i hcount
        split
        · rename_i hempty
          simp only [reduceCtorEq, false_iff]
          rintro ⟨-, hne, -⟩
          exact hne (String.isEmpty_iff.mp hempty)
        · rename_i hne
          rw [Reading.route.injEq]
          constructor
          · rintro rfl
            exact ⟨by omega, fun he => hne (String.isEmpty_iff.mpr he), rfl⟩
          · rintro ⟨-, -, rfl⟩
            rfl

/-! ### The two kinds of calls -/

section calls
variable (hg : d.grammar.VerbCallsAgree)

include hg

theorem readCall_of_isVerbCall (h : d.IsVerbCall call receiver v args) :
    d.readCall path t call = d.readRoute path t call (d.routeTarget receiver) [v] args := by
  obtain ⟨name, hname, hmem⟩ := h.called
  have hverbs : d.verbs? name args = some ([v], args) := by
    unfold verbs?
    rw [hg.named _ hmem]
  unfold readCall
  rw [target?_of_methodCall? hname, h.arguments]
  dsimp only
  rw [hverbs]
  rfl

/-- The count for a verb argument asks for nothing that the count for a route does not. -/
theorem readCall_of_isVerbArgumentCall (h : d.IsVerbArgumentCall call receiver v args) :
    d.readCall path t call = d.readRoute path t call (d.routeTarget receiver) [v] args := by
  obtain ⟨name, hname, hmem⟩ := h.called
  obtain ⟨verb, hverb, hargs⟩ := h.arguments
  have hverbs : d.verbs? name (verb :: args) =
      if args.length + 1 < d.grammar.verbArgumentCount then none else some ([v], args) := by
    unfold verbs?
    rw [hg.apart name hmem]
    dsimp only
    rw [if_pos (List.contains_iff_mem.mpr hmem), hverb]
    rfl
  unfold readCall
  rw [target?_of_methodCall? hname, hargs]
  dsimp only
  rw [hverbs]
  split
  · rename_i hnone
    split at hnone
    · rename_i hshort
      have hcounts := hg.counts
      rw [readRoute_of_short _ _ (by omega)]
    · cases hnone
  · rename_i methods found hsome
    split at hsome
    · cases hsome
    · cases hsome
      exact readRoute_method ..

end calls

/-- **A verb argument is read as a verb call.** With the frameworks that have both,
`r.M(verb, args)` and `r.V(args)` on one receiver and at one place are read alike, for any table of
groups and any number of arguments: either neither registers a route, or both register the same
endpoint, which answers the verb. They do so exactly when there are enough arguments and the path is
a literal. -/
theorem verb_argument_read_as_verb_call (d : Detector)
    (hg : d.grammar ∈ [Grammar.gin, .echo, .chi, .fiber]) (path : String) (t : GroupTable)
    (call call' receiver : Node) (v : Method) (args : List Node)
    (hcall : d.IsVerbArgumentCall call receiver v args)
    (hcall' : d.IsVerbCall call' receiver v args) (hstart : call.start = call'.start)
    (hline : call.line = call'.line) :
    d.readCall path t call = d.readCall path t call' ∧
      ((∃ e, d.readCall path t call = .route e) ↔
        d.grammar.routeArgumentCount ≤ args.length ∧
          ∃ first ∈ args.head?, first.stringOrEmpty ≠ "") ∧
      ∀ e, d.readCall path t call = .route e → e.methods = [v] := by
  have hagree := Grammar.verbCallsAgree hg
  rw [readCall_of_isVerbArgumentCall hagree hcall, readCall_of_isVerbCall hagree hcall']
  refine ⟨readRoute_congr hstart hline .., ?_, ?_⟩
  · simp only [readRoute_eq_route_iff hagree.plain]
    constructor
    · rintro ⟨e, first, hfirst, hcount, hne, -⟩
      exact ⟨hcount, first, hfirst, hne⟩
    · rintro ⟨hcount, first, hfirst, hne⟩
      exact ⟨_, first, hfirst, hcount, hne, rfl⟩
  · intro e he
    obtain ⟨first, -, -, -, rfl⟩ := (readRoute_eq_route_iff hagree.plain).mp he
    rfl

/-! ### A route in both spellings -/

/-- The tree of `r.With(Auth)`. -/
def guardedRouter : Node :=
  .mk { kind := .call, role := some .operand, span := ⟨0, 12⟩ }
    [.mk { kind := .selector, role := some .function, span := ⟨0, 6⟩ }
      [.mk { kind := .identifier, role := some .operand, span := ⟨0, 1⟩, text := "r" } [],
       .mk { kind := .fieldIdentifier, role := some .field, span := ⟨2, 6⟩, text := "With" } []],
     .mk { kind := .other "argument_list", role := some .arguments, span := ⟨6, 12⟩ }
      [.mk { kind := .identifier, span := ⟨7, 11⟩, text := "Auth" } []]]

/-- The tree of `http.MethodPost`. -/
def postConstant : Node :=
  .mk { kind := .selector, span := ⟨24, 39⟩ }
    [.mk { kind := .identifier, role := some .operand, span := ⟨24, 28⟩, text := "http" } [],
     .mk { kind := .fieldIdentifier, role := some .field, span := ⟨29, 39⟩, text := "MethodPost" }
      []]

/-- The trees of `"/x"` and `h`. -/
def pathAndHandler : List Node :=
  [.mk { kind := .interpretedString, span := ⟨41, 45⟩, text := "\"/x\"" } [],
   .mk { kind := .identifier, span := ⟨47, 48⟩, text := "h" } []]

/-- The tree of `r.With(Auth).method(args)`. -/
def guardedCall (method : String) (args : List Node) : Node :=
  .mk { kind := .call, span := ⟨0, 49⟩ }
    [.mk { kind := .selector, role := some .function, span := ⟨0, 23⟩ }
      [guardedRouter,
       .mk { kind := .fieldIdentifier, role := some .field, span := ⟨13, 23⟩, text := method } []],
     .mk { kind := .other "argument_list", role := some .arguments, span := ⟨23, 49⟩ } args]

/-- `MethodFunc(http.MethodPost, "/x", h)` and `Post("/x", h)` register one endpoint. -/
theorem guarded_post_read_alike :
    ∃ e : Endpoint, e.methods = [.post] ∧
      readCall { grammar := .chi } "main.go" {}
        (guardedCall "MethodFunc" (postConstant :: pathAndHandler)) = .route e ∧
      readCall { grammar := .chi } "main.go" {} (guardedCall "Post" pathAndHandler) = .route e := by
  have hargument : IsVerbArgumentCall { grammar := .chi }
      (guardedCall "MethodFunc" (postConstant :: pathAndHandler)) guardedRouter .post
      pathAndHandler :=
    ⟨⟨"MethodFunc", rfl, by decide⟩, postConstant, by decide +kernel, rfl⟩
  have hverb : IsVerbCall { grammar := .chi } (guardedCall "Post" pathAndHandler) guardedRouter
      .post pathAndHandler :=
    ⟨⟨"Post", rfl, by decide⟩, rfl⟩
  obtain ⟨hsame, hroute, hmethods⟩ := verb_argument_read_as_verb_call { grammar := .chi } (by simp)
    "main.go" {} _ _ guardedRouter .post pathAndHandler hargument hverb rfl rfl
  obtain ⟨e, he⟩ := hroute.mpr ⟨by decide, _, rfl, by decide +kernel⟩
  exact ⟨e, hmethods e he, he, hsame ▸ he⟩

end Detector

end RouteAudit
