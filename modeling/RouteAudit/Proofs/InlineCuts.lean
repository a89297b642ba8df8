import RouteAudit.Proofs.InlineGroups
import RouteAudit.Proofs.VerbCalls

/-! # Inline middleware in any number of calls

The middleware that stands in front of a route can be given in one call, `r.With(a, b, c)`, or cut
into several, `r.With(a).With().With(b, c)`. `InlineCalls` relates a receiver to such a chain of
calls on it, with the arguments of each. The chain is taken apart from its end, where the last
arguments stand. One call puts its middleware behind that of the calls before it
(`stripInline_of_call`), so a whole chain gives the named middleware of all arguments in the order
of the source (`stripInline_of_inlineCalls`), and no trace is left of the cuts.

A route reads no more than this off what it is called on, so `inline_cuts_unobservable` follows. -/

namespace RouteAudit

open Go (Node)

/-! ### Chains of inline calls -/

/-- `n` is the receiver with inline calls on it, one for each list of arguments, in source order. -/
inductive InlineCalls (names : List String) (receiver : Node) : List (List Node) → Node → Prop where
  | none : InlineCalls names receiver [] receiver
  | call {chunks : List (List Node)} {n c : Node} {method : String}
      (inner : InlineCalls names receiver chunks n) (kind : c.kind = .call)
      (called : c.methodCall? = some (n, method)) (named : method ∈ names) :
      InlineCalls names receiver (chunks ++ [c.callArguments]) c

theorem stripInline_of_call {names : List String} {n c : Node} {method : String}
    (hkind : c.kind = .call) (hcalled : c.methodCall? = some (n, method))
    (hnamed : method ∈ names) :
    stripInline names c =
      ((stripInline names n).1, (stripInline names n).2 ++ middlewareList c.callArguments) := by
  rw [stripInline, if_pos hkind]
  split
  · rename_i inner method' hcalled'
    rw [hcalled] at hcalled'
    cases hcalled'
    rw [if_pos (List.contains_iff_mem.mpr hnamed)]
  · rename_i hnone
    rw [hcalled] at hnone
    cases hnone

/-- A chain puts the named middleware of all its arguments behind what its receiver has. -/
theorem stripInline_of_inlineCalls {names : List String} {receiver n : Node}
    {chunks : List (List Node)} (h : InlineCalls names receiver chunks n) :
    stripInline names n = ((stripInline names receiver).1,
      (stripInline names receiver).2 ++ middlewareList chunks.flatten) := by
  induction h with
  | none => simp [middlewareList]
  | call _ hkind hcalled hnamed ih =>
      rw [stripInline_of_call hkind hcalled hnamed, ih, List.flatten_concat,
        middlewareList_append, List.append_assoc]

namespace Detector

theorem routeTarget_of_inlineCalls {d : Detector} {receiver n n' : Node}
    {chunks chunks' : List (List Node)} (hcut : chunks.flatten = chunks'.flatten)
    (h : InlineCalls d.grammar.inlineCalls receiver chunks n)
    (h' : InlineCalls d.grammar.inlineCalls receiver chunks' n') :
    d.routeTarget n = d.routeTarget n' := by
  unfold routeTarget
  rw [stripInline_of_inlineCalls h, stripInline_of_inlineCalls h', hcut]

/-- The names of the middleware of the group that a handle means at a position. -/
def groupNames (t : GroupTable) (handle : String) (position : Nat) : List String :=
  match if handle.isEmpty then none else t.lookup handle position with
  | some g => g.middleware.map (·.name)
  | none => []

theorem middleware_endpointOf_chi (v : Vocabulary) (file : String) (t : GroupTable) (call : Node)
    (target : Target) (route : String) (methods : List Method) (path handler : Node) :
    (endpointOf ⟨.chi, v⟩ file t call target route methods [path, handler]).middleware =
      groupNames t target.receiver call.start ++ target.inline.map (·.name) := by
  have hchain : target.inline ++ middlewareList [] ++ [] = target.inline := by
    simp [middlewareList]
  unfold endpointOf groupNames
  show List.map _ (_ ++ (target.inline ++ middlewareList [] ++ [])) = _
  rw [hchain, List.map_append]
  generalize (if target.receiver.isEmpty = true then none
    else t.lookup target.receiver call.start) = group
  cases group <;> rfl

/-- **Cuts between inline calls do not matter.** Let two chains of `With` calls stand on one
receiver, with the same middleware arguments `ms` in one order, cut into calls in any way, empty
calls and no call at all included. A verb call with a path and a handler is read alike on both, at
one place and for any table of groups.

If the path is a literal, both register one endpoint. Its middleware has the names of the group that
the receiver means, then those that stand in front of the receiver already, then those of `ms` that
have a name. A receiver that is no `With` call itself has none in front. -/
theorem inline_cuts_unobservable (v : Vocabulary) (file : String) (t : GroupTable)
    (receiver : Node) (verb : Method) (path handler : Node) (ms : List Node)
    (chunks chunks' : List (List Node)) (hcut : chunks.flatten = ms) (hcut' : chunks'.flatten = ms)
    (n n' call call' : Node) (hn : InlineCalls ["With"] receiver chunks n)
    (hn' : InlineCalls ["With"] receiver chunks' n')
    (hcall : IsVerbCall ⟨.chi, v⟩ call n verb [path, handler])
    (hcall' : IsVerbCall ⟨.chi, v⟩ call' n' verb [path, handler])
    (hstart : call.start = call'.start) (hline : call.line = call'.line) :
    readCall ⟨.chi, v⟩ file t call = readCall ⟨.chi, v⟩ file t call' ∧
    ((∃ e, readCall ⟨.chi, v⟩ file t call = .route e) ↔ path.stringOrEmpty ≠ "") ∧
    ∀ e, readCall ⟨.chi, v⟩ file t call = .route e →
      e.route = path.stringOrEmpty ∧ e.methods = [verb] ∧ e.handler = handler.handlerName ∧
      e.middleware =
        groupNames t (stripInline ["With"] receiver).1.dottedName call.start ++
          (stripInline ["With"] receiver).2.map (·.name) ++
          (ms.map Node.handlerName).filter (fun s => !s.isEmpty) ∧
      (isInlineCall ⟨.chi, v⟩ receiver = false →
        e.middleware = groupNames t receiver.dottedName call.start ++
          (ms.map Node.handlerName).filter fun s => !s.isEmpty) := by
  have hagree : (Detector.mk .chi v).grammar.VerbCallsAgree := Grammar.verbCallsAgree (by simp)
  have htarget : routeTarget ⟨.chi, v⟩ n =
      ⟨"", (stripInline ["With"] receiver).1.dottedName,
        (stripInline ["With"] receiver).2 ++ middlewareList ms⟩ := by
    rw [routeTarget, show (Detector.mk .chi v).grammar.inlineCalls = ["With"] from rfl,
      stripInline_of_inlineCalls hn, hcut]
  have hsame : routeTarget ⟨.chi, v⟩ n = routeTarget ⟨.chi, v⟩ n' :=
    routeTarget_of_inlineCalls (hcut.trans hcut'.symm) hn hn'
  rw [readCall_of_isVerbCall hagree hcall, readCall_of_isVerbCall hagree hcall', ← hsame, htarget]
  refine ⟨readRoute_congr hstart hline .., ?_, ?_⟩
  · simp only [readRoute_eq_route_iff hagree.plain]
    constructor
    · rintro ⟨e, _, ⟨⟩, -, hne, -⟩
      exact hne
    · intro hne
      exact ⟨_, path, rfl, Nat.le_refl 2, hne, rfl⟩
  · intro e he
    obtain ⟨_, ⟨⟩, -, -, rfl⟩ := (readRoute_eq_route_iff hagree.plain).mp he
    have hmiddleware := middleware_endpointOf_chi v file t call
      ⟨"", (stripInline ["With"] receiver).1.dottedName,
        (stripInline ["With"] receiver).2 ++ middlewareList ms⟩
      path.stringOrEmpty [verb] path handler
    rw [List.map_append, map_name_middlewareList, ← List.append_assoc] at hmiddleware
    refine ⟨rfl, rfl, rfl, hmiddleware, fun hplain => ?_⟩
    have hstrip : stripInline ["With"] receiver = (receiver, []) :=
      stripInline_of_not_isInlineCall ⟨.chi, v⟩ hplain
    rw [hmiddleware, hstrip, List.map_nil, List.append_nil]

/-! ### A route behind three arguments -/

/-- The tree of `r`. -/
def routerHandle : Node := .mk { kind := .identifier, role := some .operand, text := "r" } []

/-- The tree of `receiver.method(args)`, without positions. -/
def calledOn (receiver : Node) (method : String) (args : List Node) : Node :=
  .mk { kind := .call, role := some .operand }
    [.mk { kind := .selector, role := some .function }
      [receiver, .mk { kind := .fieldIdentifier, role := some .field, text := method } []],
     .mk { kind := .other "argument_list", role := some .arguments } args]

/-- The trees of `Auth`, `extra[0]` and `Log`; the second has no name. -/
def inlineArguments : List Node :=
  [.mk { kind := .identifier, text := "Auth" } [],
   .mk { kind := .other "index_expression", text := "extra[0]" } [],
   .mk { kind := .identifier, text := "Log" } []]

/-- The tree of `r.With(Auth).With(extra[0], Log)`. -/
def cutInTwo : Node :=
  calledOn (calledOn routerHandle "With" (inlineArguments.take 1)) "With" (inlineArguments.drop 1)

/-- The tree of `r.With().With(Auth, extra[0], Log)`. -/
def cutInOne : Node := calledOn (calledOn routerHandle "With" []) "With" inlineArguments

/-- A table in which `r` is a group with one middleware. -/
def baseTable : GroupTable where
  byName := [("r", { pathPrefix := "/api", middleware := [⟨"Base", []⟩] })]

/-- `Get("/x", h)` registers one endpoint on both. -/
theorem cut_chains_read_alike :
    ∃ e, readCall { grammar := .chi } "main.go" baseTable
        (calledOn cutInTwo "Get" pathAndHandler) = .route e ∧
      readCall { grammar := .chi } "main.go" baseTable
        (calledOn cutInOne "Get" pathAndHandler) = .route e ∧
      e.middleware = ["Base", "Auth", "Log"] := by
  have hname : "With" ∈ ["With"] := List.mem_singleton.mpr rfl
  have htwo : InlineCalls ["With"] routerHandle
      [inlineArguments.take 1, inlineArguments.drop 1] cutInTwo :=
    .call (c := cutInTwo)
      (.call (c := calledOn routerHandle "With" (inlineArguments.take 1)) .none rfl rfl hname)
      rfl rfl hname
  have hone : InlineCalls ["With"] routerHandle [[], inlineArguments] cutInOne :=
    .call (c := cutInOne) (.call (c := calledOn routerHandle "With" []) .none rfl rfl hname)
      rfl rfl hname
  have hget : ∀ n : Node, n = cutInTwo ∨ n = cutInOne →
      IsVerbCall { grammar := .chi } (calledOn n "Get" pathAndHandler) n .get pathAndHandler := by
    rintro n (rfl | rfl)
    · exact ⟨⟨"Get", rfl, by decide⟩, rfl⟩
    · exact ⟨⟨"Get", rfl, by decide⟩, rfl⟩
  obtain ⟨hsame, hroute, hendpoint⟩ := inline_cuts_unobservable .standard "main.go" baseTable
    routerHandle .get _ _ inlineArguments _ _ rfl rfl _ _ _ _ htwo hone (hget _ (.inl rfl))
    (hget _ (.inr rfl)) rfl rfl
  obtain ⟨e, he⟩ := hroute.mpr (by decide +kernel)
  refine ⟨e, he, hsame ▸ he, ?_⟩
  rw [(hendpoint e he).2.2.2.2 (by decide)]
  decide +kernel

end Detector

end RouteAudit
