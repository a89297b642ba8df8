import RouteAudit.Proofs.CallReading
import RouteAudit.Proofs.UseScope

/-! # Inline middleware and groups of closures

A call such as `r.With(mw)` puts middleware in front of what is called on it. A route looks behind
such calls (`stripInline`): it stands in the group of `r` and has `mw` in its chain. A group that a
function literal opens, as in `r.With(mw).Route("/x", func(p R) {...})`, does not. Its receiver is a
call and has no name, no group is ever bound to the empty name (`lookup_empty_tableAfter`), and so
the group starts with nothing but its own prefix: the prefix of `r` and both chains are gone.

`KeepsInline` says what the group would be if it looked behind inline calls. The group of a literal
is that group exactly when there is no inline call, or nothing to lose (`group_keeps_inline_iff`).
Whatever the group starts with, the routes on its parameter have it (`extends_of_isInnermost`). -/

namespace RouteAudit

open Go (Node Span)

theorem IsInnermost.eq {literals : List Node} {c L M : Node} (hL : IsInnermost literals c L)
    (hM : IsInnermost literals c M) : L = M :=
  Node.eq_of_mem_walk_of_mem_walk (hL.least M hM.mem hM.around) (hM.least L hL.mem hL.around)

/-! ### Receivers -/

theorem dottedName_of_call {n : Node} (h : n.kind = .call) : n.dottedName = "" := by
  cases n with
  | mk i cs =>
      replace h : i.kind = .call := h
      have hparts : (Node.mk i cs).chainParts = [] := by
        rw [Node.chainParts, h]
        rfl
      rw [Node.dottedName, hparts]
      rfl

namespace Detector

variable (d : Detector)

/-- The receiver is a call that puts middleware in front. -/
def isInlineCall (receiver : Node) : Bool :=
  receiver.kind = .call &&
    match receiver.methodCall? with
    | some (_, method) => d.grammar.inlineCalls.contains method
    | none => false

theorem stripInline_of_not_isInlineCall {receiver : Node} (h : d.isInlineCall receiver = false) :
    stripInline d.grammar.inlineCalls receiver = (receiver, []) := by
  rw [stripInline]
  split
  · rename_i hkind
    split
    · rename_i inner method hcall
      simp only [isInlineCall, hkind, decide_true, Bool.true_and, hcall] at h
      rw [if_neg (by rw [h]; exact Bool.false_ne_true)]
    · rfl
  · rfl

theorem dottedName_of_isInlineCall {receiver : Node} (h : d.isInlineCall receiver = true) :
    receiver.dottedName = "" := by
  simp only [isInlineCall, Bool.and_eq_true, decide_eq_true_eq] at h
  exact dottedName_of_call h.1

/-! ### Steps of named handles -/

theorem ne_empty_of_namedLiteral? {call body : Node} {key : String}
    (h : namedLiteral? call = some (key, body)) : key ≠ "" := by
  unfold namedLiteral? at h
  split at h
  · rw [Option.ite_none_right_eq_some] at h
    obtain ⟨⟨-, hname⟩, h⟩ := h
    cases h
    simp only [Bool.and_eq_true, Bool.not_eq_true'] at hname
    exact fun he => by simp [he] at hname
  · cases h

theorem ne_empty_of_callStep? {call : Node} {s : GroupStep} (h : d.callStep? call = some s) :
    "" ≠ s.handle := by
  unfold callStep? at h
  split at h
  · split at h
    · unfold closureStep? at h
      split at h
      · rename_i key body hliteral
        cases h
        exact (ne_empty_of_namedLiteral? hliteral).symm
      · cases h
    · split at h
      · dsimp only at h
        split at h
        · cases h
        · rename_i hkey
          cases h
          exact fun he => hkey (String.isEmpty_iff.mpr he.symm)
      · cases h
  · cases h

theorem ne_empty_of_assignedStep? {target value : Node} {s : GroupStep}
    (h : d.assignedStep? target value = some s) : "" ≠ s.handle := by
  unfold assignedStep? at h
  split at h
  · split at h
    · dsimp only at h
      rw [Option.ite_none_right_eq_some] at h
      obtain ⟨hkey, h⟩ := h
      cases h
      simp only [Bool.and_eq_true, Bool.not_eq_true'] at hkey
      exact fun he => by simp [GroupStep.handle] at he; simp [← he] at hkey
    · cases h
  · cases h

theorem ne_empty_of_mem_steps {n : Node} {s : GroupStep} (h : s ∈ d.steps n) : "" ≠ s.handle := by
  unfold steps at h
  split at h
  · obtain ⟨p, -, hp⟩ := List.mem_filterMap.mp h
    exact d.ne_empty_of_assignedStep? hp
  · split at h
    · exact d.ne_empty_of_callStep? (Option.mem_toList.mp h)
    · cases h

theorem lookup_empty_tableAfter (ns : List Node) (p : ℕ) :
    (d.tableAfter ns).lookup "" p = none := by
  rw [tableAfter, foldl_noteNode_eq_run, GroupTable.lookup_run_of_ne]
  · rfl
  · intro s hs
    obtain ⟨n, -, hn⟩ := List.mem_flatMap.mp hs
    exact d.ne_empty_of_mem_steps hn

/-! ### The group that a literal opens -/

/-- The prefix that a call gives to the group it opens. -/
def openedPrefix (call : Node) : String :=
  match call.callArguments with
  | first :: _ :: _ => first.stringOrEmpty
  | _ => ""

/-- The group that a call with a function literal opens. -/
def openedGroup (t : GroupTable) (call receiver body : Node) : Group :=
  Group.nested (t.lookup receiver.dottedName call.start) (openedPrefix call) [] (some body.span)

theorem scope_openedGroup (t : GroupTable) (call receiver body : Node) :
    (openedGroup t call receiver body).scope = some body.span := Group.scope_nested ..

theorem noteNode_of_opened? (hd : d.grammar.groupBinding = .closure) {n receiver body : Node}
    {method key : String} (hcall : n.methodCall? = some (receiver, method))
    (ho : d.opened? n = some (key, body)) (t : GroupTable) :
    d.noteNode t n = t.bind key (openedGroup t n receiver body) := by
  unfold opened? at ho
  rw [hcall] at ho
  dsimp only at ho
  rw [Option.ite_none_right_eq_some] at ho
  obtain ⟨⟨hkind, hmethod⟩, hliteral⟩ := ho
  have hstep : d.steps n = [.bind key (some receiver.dottedName) n.start (openedPrefix n) []
      (some body.span)] := by
    unfold steps callStep? closureStep?
    rw [if_neg (by simp [hd]), if_pos hkind, hcall]
    dsimp only
    rw [if_pos ⟨hd, hmethod⟩, hliteral]
    rfl
  rw [noteNode_eq_run, hstep]
  rfl

theorem ne_empty_of_opened? {n body : Node} {key : String} (h : d.opened? n = some (key, body)) :
    key ≠ "" := by
  unfold opened? at h
  split at h
  · rw [Option.ite_none_right_eq_some] at h
    exact ne_empty_of_namedLiteral? h.2
  · cases h

/-- The group that the receiver behind inline calls means; one with nothing in it if there is
none. -/
def inlineParent (t : GroupTable) (call receiver : Node) : Group :=
  (t.lookup (stripInline d.grammar.inlineCalls receiver).1.dottedName call.start).getD {}

/-- The group has the prefix of the receiver's group in front of its own, and starts with that
group's middleware and then the inline middleware. -/
structure KeepsInline (t : GroupTable) (call receiver : Node) (g : Group) : Prop where
  pathPrefix :
    g.pathPrefix = joinPrefix (d.inlineParent t call receiver).pathPrefix (openedPrefix call)
  middleware : g.middleware =
    (d.inlineParent t call receiver).middleware ++ (stripInline d.grammar.inlineCalls receiver).2

theorem keepsInline_of_not_isInlineCall {receiver : Node} (h : d.isInlineCall receiver = false)
    (t : GroupTable) (call body : Node) :
    d.KeepsInline t call receiver (openedGroup t call receiver body) := by
  have hstrip := d.stripInline_of_not_isInlineCall h
  rw [openedGroup, Group.nested_eq]
  refine ⟨?_, ?_⟩
  · rw [inlineParent, hstrip]
  · rw [inlineParent, hstrip]

theorem openedGroup_of_isInlineCall {receiver : Node} (h : d.isInlineCall receiver = true)
    (ns : List Node) (call body : Node) :
    openedGroup (d.tableAfter ns) call receiver body =
      ⟨openedPrefix call, [], some body.span⟩ := by
  rw [openedGroup, d.dottedName_of_isInlineCall h, d.lookup_empty_tableAfter]
  rfl

/-- With inline calls, the group is kept exactly when there was nothing in it. -/
theorem keepsInline_iff_of_isInlineCall {receiver : Node} (h : d.isInlineCall receiver = true)
    (ns : List Node) (call body : Node) :
    d.KeepsInline (d.tableAfter ns) call receiver
        (openedGroup (d.tableAfter ns) call receiver body) ↔
      (stripInline d.grammar.inlineCalls receiver).2 = [] ∧
        (d.inlineParent (d.tableAfter ns) call receiver).middleware = [] ∧
        joinPrefix (d.inlineParent (d.tableAfter ns) call receiver).pathPrefix
          (openedPrefix call) = openedPrefix call := by
  rw [d.openedGroup_of_isInlineCall h]
  constructor
  · rintro ⟨hpath, hmiddleware⟩
    obtain ⟨hparent, hinline⟩ := List.append_eq_nil_iff.mp hmiddleware.symm
    exact ⟨hinline, hparent, hpath.symm⟩
  · rintro ⟨hinline, hparent, hpath⟩
    refine ⟨hpath.symm, ?_⟩
    rw [hparent, hinline]
    rfl

/-! ### Routes on the parameter of a literal -/

section routes
variable {d} {root : Node} (hw : root.WellFormed)

include hw

theorem eq_of_opened? {n m L : Node} {key key' : String} (hn : n ∈ root.walk) (hm : m ∈ root.walk)
    (hnL : d.opened? n = some (key, L)) (hmL : d.opened? m = some (key', L)) : n = m := by
  obtain ⟨a, ha, hLa, -⟩ := exists_holder hw hn hnL
  obtain ⟨b, hb, hLb, -⟩ := exists_holder hw hm hmL
  have har : a ∈ root.walk := Node.mem_walk_trans (Node.mem_walk_of_mem_children ha) hn
  have hbr : b ∈ root.walk := Node.mem_walk_trans (Node.mem_walk_of_mem_children hb) hm
  have hab : a = b := hw.parent_unique har hbr hLa hLb
  exact hw.parent_unique hn hm ha (hab ▸ hb)

theorem nodup_literals (key : String) : (d.literals key root.walk).Nodup := by
  unfold literals
  rw [List.Nodup, List.pairwise_filterMap]
  refine List.Pairwise.imp_of_mem ?_ hw.nodup_walk
  rintro n m hn hm hne L hL _ hM rfl
  have hopened : ∀ k, L ∈ d.literals key [k] → d.opened? k = some (key, L) := by
    intro k hk
    obtain ⟨k', hk', ho⟩ := d.mem_literals_iff.mp hk
    rwa [List.mem_singleton.mp hk'] at ho
  have hn' := hopened n (List.mem_filterMap.mpr ⟨n, List.mem_singleton_self n, hL⟩)
  have hm' := hopened m (List.mem_filterMap.mpr ⟨m, List.mem_singleton_self m, hM⟩)
  exact hne (eq_of_opened? hw hn hm hn' hm')

end routes

theorem getElem?_literals {root n body : Node} {pre post : List Node} {key : String}
    (hsplit : root.walk = pre ++ n :: post) (ho : d.opened? n = some (key, body)) :
    (d.literals key root.walk)[(d.literals key pre).length]? = some body := by
  have hone : d.literals key [n] = [body] := by
    rw [literals_singleton, ho]
    exact if_pos rfl
  have hcons : d.literals key (n :: post) = body :: d.literals key post := by
    rw [← List.singleton_append, literals_append, hone]
    rfl
  rw [hsplit, literals_append, hcons, List.getElem?_append_right (Nat.le_refl _), Nat.sub_self]
  rfl

section closures
variable {d} (hd : d.grammar.groupBinding = .closure)

include hd

theorem getElem?_closures_noteNode {n receiver body : Node} {method key : String}
    (hcall : n.methodCall? = some (receiver, method)) (ho : d.opened? n = some (key, body))
    (pre : List Node) :
    ((d.noteNode (d.tableAfter pre) n).closures key)[(d.literals key pre).length]? =
      some (openedGroup (d.tableAfter pre) n receiver body) := by
  have hplace : (d.literals key pre).length = ((d.tableAfter pre).closures key).length := by
    have hscopes := congrArg List.length (d.map_scope_closures_tableAfter hd pre key)
    rw [List.length_map, List.length_map] at hscopes
    exact hscopes.symm
  rw [d.noteNode_of_opened? hd hcall ho,
    GroupTable.closures_bind_of_scoped _ (scope_openedGroup ..), if_pos rfl, hplace,
    List.getElem?_concat_length]

variable {root : Node} (hw : root.WellFormed)

include hw

/-- A lookup chooses the closure in the place of the innermost literal. -/
theorem innermost?_of_isInnermost {key : String} {c L : Node} {i : ℕ} (hc : c ∈ root.walk)
    (hin : IsInnermost (d.literals key root.walk) c L)
    (hi : (d.literals key root.walk)[i]? = some L) :
    ∃ s, Group.innermost? c.start ((d.findGroups root).closures key) = some (i, s) := by
  obtain ⟨g, hfind⟩ := (exists_findsClosure_iff hd hw hc key).mpr ⟨L, hin.mem, hin.around⟩
  obtain ⟨j, s, hj, -⟩ := (d.regular_tableAfter root.walk).findsClosure_iff.mp hfind
  obtain ⟨M, -, hM, -, -, hinM⟩ := isInnermost_of_innermost? hd hw hc hj
  have hlt : j < (d.literals key root.walk).length := (List.getElem?_eq_some_iff.mp hM).1
  have hji : j = i := by
    refine (List.getElem?_inj hlt (nodup_literals hw key)).mp ?_
    rw [hM, hi, hinM.eq hin]
  exact ⟨s, hji ▸ hj⟩

/-- Where a literal is the innermost one for its parameter, the parameter means the group that the
literal opened, with what was appended to it since. -/
theorem extends_of_isInnermost {pre post : List Node} {n receiver body : Node} {method key : String}
    (hsplit : root.walk = pre ++ n :: post) (hcall : n.methodCall? = some (receiver, method))
    (ho : d.opened? n = some (key, body)) {c : Node} (hc : c ∈ root.walk)
    (hin : IsInnermost (d.literals key root.walk) c body) :
    ∃ g, (d.findGroups root).lookup key c.start = some g ∧
      (openedGroup (d.tableAfter pre) n receiver body).Extends g := by
  obtain ⟨g, hg, hext⟩ := GroupTable.closures_run (getElem?_closures_noteNode hd hcall ho pre)
    (post.flatMap d.steps)
  have hfinished : post.foldl d.noteNode (d.noteNode (d.tableAfter pre) n) = d.findGroups root := by
    rw [findGroups, hsplit, List.foldl_append]
    rfl
  rw [← foldl_noteNode_eq_run, hfinished] at hg
  obtain ⟨s, hi⟩ := innermost?_of_isInnermost hd hw hc hin (d.getElem?_literals hsplit ho)
  exact ⟨g, by rw [GroupTable.lookup_of_closure _ hi, hg], hext⟩

end closures

theorem target?_of_registration? {call : Node} {r : Registration}
    (h : d.registration? call = some r) : d.target? call = some r.target := by
  unfold registration? at h
  obtain ⟨target, htarget, h⟩ := Option.bind_eq_some_iff.mp h
  obtain ⟨found, -, h⟩ := Option.bind_eq_some_iff.mp h
  obtain ⟨first, rest, -, -, -, -, rfl⟩ := registrationOf?_eq_some_iff.mp h
  exact htarget

/-- A route has the prefix of the group that its receiver means, and that group's middleware in
front of its own. -/
theorem routerPrefix_and_middleware_of_readCall {path : String} {t : GroupTable} {c : Node}
    {target : Target} {e : Endpoint} {g : Group} (htarget : d.target? c = some target)
    (hnamed : target.receiver ≠ "") (hg : t.lookup target.receiver c.start = some g)
    (he : d.readCall path t c = .route e) :
    e.routerPrefix = g.pathPrefix ∧ g.middleware.map (·.name) <+: e.middleware := by
  have hend := d.endpoint?_readCall path t c
  rw [he] at hend
  obtain ⟨r, hr, rfl⟩ := Option.map_eq_some_iff.mp hend.symm
  have hsame : r.target = target := by
    rw [d.target?_of_registration? hr, Option.some.injEq] at htarget
    exact htarget
  have hgroup : groupOf? t c r = some g := by
    rw [groupOf?, hsame, if_neg (fun h => hnamed (String.isEmpty_iff.mp h)), hg]
  constructor
  · rw [routerPrefix_registered, hgroup]
  · rw [middleware_registered, groupChain, hgroup, List.map_append]
    exact List.prefix_append _ _

/-- **When groups keep inline middleware.** In a well-formed tree of a framework that opens groups
with function literals, let the walk be at a call that opens a group with the literal `body` and the
parameter `key`. The call binds the parameter to a group `g`.

* `g` has the prefix and the middleware of the group behind the inline calls, and their middleware,
  exactly when there is no inline call or there is nothing of all this;
* if there is an inline call, `g` has its own prefix and nothing else.

Each route that is called on the parameter where `body` is the innermost literal for it has the
prefix of `g` and starts with the middleware of `g`. -/
theorem group_keeps_inline_iff (hd : d.grammar.groupBinding = .closure) (root : Node)
    (hw : root.WellFormed) (pre post : List Node) (n : Node) (hsplit : root.walk = pre ++ n :: post)
    (receiver : Node) (method : String) (hcall : n.methodCall? = some (receiver, method))
    (key : String) (body : Node) (ho : d.opened? n = some (key, body)) :
    ∃ g, d.noteNode (d.tableAfter pre) n = (d.tableAfter pre).bind key g ∧
      g.scope = some body.span ∧
      (d.KeepsInline (d.tableAfter pre) n receiver g ↔
        d.isInlineCall receiver = false ∨
          (stripInline d.grammar.inlineCalls receiver).2 = [] ∧
          (d.inlineParent (d.tableAfter pre) n receiver).middleware = [] ∧
          joinPrefix (d.inlineParent (d.tableAfter pre) n receiver).pathPrefix (openedPrefix n) =
            openedPrefix n) ∧
      (d.isInlineCall receiver = true → g.pathPrefix = openedPrefix n ∧ g.middleware = []) ∧
      ∀ c ∈ root.walk, IsInnermost (d.literals key root.walk) c body →
        ∀ target, d.target? c = some target → target.receiver = key →
          ∀ path e, d.readCall path (d.findGroups root) c = .route e →
            e.routerPrefix = g.pathPrefix ∧ g.middleware.map (·.name) <+: e.middleware := by
  refine ⟨openedGroup (d.tableAfter pre) n receiver body, d.noteNode_of_opened? hd hcall ho _,
    scope_openedGroup .., ?_, ?_, ?_⟩
  · cases hinline : d.isInlineCall receiver with
    | false =>
        exact ⟨fun _ => .inl rfl, fun _ => d.keepsInline_of_not_isInlineCall hinline _ _ _⟩
    | true =>
        rw [d.keepsInline_iff_of_isInlineCall hinline]
        simp
  · intro hinline
    rw [d.openedGroup_of_isInlineCall hinline]
    exact ⟨rfl, rfl⟩
  · intro c hc hin target htarget hkey path e he
    subst hkey
    obtain ⟨g, hg, hext⟩ := extends_of_isInnermost hd hw hsplit hcall ho hc hin
    obtain ⟨hpath, hmiddleware⟩ := d.routerPrefix_and_middleware_of_readCall htarget
      (d.ne_empty_of_opened? ho) hg he
    exact ⟨hpath.trans hext.pathPrefix, (hext.middleware.map _).trans hmiddleware⟩

/-- A group without inline calls keeps what its receiver means, and its routes have it. -/
theorem groupCall_keeps_inline :
    ∃ receiver g, noteNode { grammar := .chi } {} groupCall = GroupTable.bind {} "r" g ∧
      KeepsInline { grammar := .chi } {} groupCall receiver g ∧
      ∀ path e,
        readCall { grammar := .chi } path (findGroups { grammar := .chi } groupCall) getCall =
          .route e → e.routerPrefix = g.pathPrefix := by
  have hsplit : groupCall.walk = [] ++ groupCall :: groupCall.preorder.tail := by
    rw [Node.walk_eq_preorder]
    rfl
  have hliterals : literals { grammar := .chi } "r" groupCall.walk = [groupLiteral] := by
    rw [Node.walk_eq_preorder]
    rfl
  have hget : getCall ∈ groupLiteral.walk := by
    rw [Node.walk_eq_preorder]
    exact List.mem_of_getElem? (i := 12) rfl
  have hliteral : groupLiteral ∈ groupCall.walk := by
    rw [Node.walk_eq_preorder]
    exact List.mem_of_getElem? (i := 5) rfl
  obtain ⟨g, hbind, -, hkeeps, -, hroutes⟩ := group_keeps_inline_iff { grammar := .chi } rfl
    groupCall (by decide) [] _ groupCall hsplit _ "Group" rfl "r" groupLiteral rfl
  refine ⟨_, g, hbind, hkeeps.mpr (.inl (by decide)), fun path e he => ?_⟩
  have hin : IsInnermost (literals { grammar := .chi } "r" groupCall.walk) getCall
      groupLiteral := by
    rw [hliterals]
    refine ⟨List.mem_singleton.mpr rfl, hget, fun M hM _ => ?_⟩
    rw [List.mem_singleton.mp hM]
    exact Node.self_mem_walk _
  exact (hroutes getCall (Node.mem_walk_trans hget hliteral) hin ⟨"Get", "r", []⟩
    (by decide +kernel) rfl path e he).1

/-! ### A group behind an inline call -/

/-- The tree of `p.Get("/me", h)` at byte 69. -/
def meCall : Node :=
  .mk { kind := .call, span := ⟨69, 84⟩ }
    [.mk { kind := .selector, role := some .function, span := ⟨69, 74⟩ }
      [.mk { kind := .identifier, role := some .operand, span := ⟨69, 70⟩, text := "p" } [],
       .mk { kind := .fieldIdentifier, role := some .field, span := ⟨71, 74⟩, text := "Get" } []],
     .mk { kind := .other "argument_list", role := some .arguments, span := ⟨74, 84⟩ }
      [.mk { kind := .interpretedString, span := ⟨75, 80⟩, text := "\"/me\"" } [],
       .mk { kind := .identifier, span := ⟨82, 83⟩, text := "h" } []]]

/-- The tree of `func(p R) { p.Get("/me", h) }` at byte 57. -/
def adminLiteral : Node :=
  .mk { kind := .funcLiteral, span := ⟨57, 86⟩ }
    [.mk { kind := .other "parameter_list", role := some .parameters, span := ⟨61, 66⟩ }
      [.mk { kind := .other "parameter_declaration", span := ⟨62, 65⟩ }
        [.mk { kind := .identifier, role := some .name, span := ⟨62, 63⟩, text := "p" } [],
         .mk { kind := .typeIdentifier, span := ⟨64, 65⟩, text := "R" } []]],
     .mk { kind := .other "block", role := some .body, span := ⟨67, 86⟩ } [meCall]]

/-- The tree of `r.With(Auth)` at byte 28. -/
def adminReceiver : Node :=
  .mk { kind := .call, role := some .operand, span := ⟨28, 40⟩ }
    [.mk { kind := .selector, role := some .function, span := ⟨28, 34⟩ }
      [.mk { kind := .identifier, role := some .operand, span := ⟨28, 29⟩, text := "r" } [],
       .mk { kind := .fieldIdentifier, role := some .field, span := ⟨30, 34⟩, text := "With" } []],
     .mk { kind := .other "argument_list", role := some .arguments, span := ⟨34, 40⟩ }
      [.mk { kind := .identifier, span := ⟨35, 39⟩, text := "Auth" } []]]

/-- The tree of `r.With(Auth).Route("/admin", func(p R) { p.Get("/me", h) })` at byte 28. -/
def adminCall : Node :=
  .mk { kind := .call, span := ⟨28, 87⟩ }
    [.mk { kind := .selector, role := some .function, span := ⟨28, 46⟩ }
      [adminReceiver,
       .mk { kind := .fieldIdentifier, role := some .field, span := ⟨41, 46⟩, text := "Route" } []],
     .mk { kind := .other "argument_list", role := some .arguments, span := ⟨46, 87⟩ }
      [.mk { kind := .interpretedString, span := ⟨47, 55⟩, text := "\"/admin\"" } [],
       adminLiteral]]

/-- The tree of `r.Route("/api", func(r R) { r.With(Auth).Route("/admin", ...) })`. -/
def apiCall : Node :=
  .mk { kind := .call, span := ⟨0, 90⟩ }
    [.mk { kind := .selector, role := some .function, span := ⟨0, 7⟩ }
      [.mk { kind := .identifier, role := some .operand, span := ⟨0, 1⟩, text := "r" } [],
       .mk { kind := .fieldIdentifier, role := some .field, span := ⟨2, 7⟩, text := "Route" } []],
     .mk { kind := .other "argument_list", role := some .arguments, span := ⟨7, 90⟩ }
      [.mk { kind := .interpretedString, span := ⟨8, 14⟩, text := "\"/api\"" } [],
       .mk { kind := .funcLiteral, span := ⟨16, 89⟩ }
        [.mk { kind := .other "parameter_list", role := some .parameters, span := ⟨20, 25⟩ }
          [.mk { kind := .other "parameter_declaration", span := ⟨21, 24⟩ }
            [.mk { kind := .identifier, role := some .name, span := ⟨21, 22⟩, text := "r" } [],
             .mk { kind := .typeIdentifier, span := ⟨23, 24⟩, text := "R" } []]],
         .mk { kind := .other "block", role := some .body, span := ⟨26, 89⟩ } [adminCall]]]]

/-- The group of `p` has neither the prefix of the group around it nor the middleware put in front,
and its route is open to anyone. -/
theorem adminCall_loses_inline :
    apiCall.WellFormed ∧ adminCall.methodCall? = some (adminReceiver, "Route") ∧
      opened? { grammar := .chi } adminCall = some ("p", adminLiteral) ∧
      (∃ pre post g, apiCall.walk = pre ++ adminCall :: post ∧
        noteNode { grammar := .chi } (tableAfter { grammar := .chi } pre) adminCall =
          (tableAfter { grammar := .chi } pre).bind "p" g ∧
        ¬KeepsInline { grammar := .chi } (tableAfter { grammar := .chi } pre) adminCall
          adminReceiver g) ∧
      (discover { grammar := .chi } "main.go" apiCall).map
          (fun e => (e.fullRoute, e.middleware, e.classified.exposure)) =
        [("/admin/me", [], .anyone)] := by
  refine ⟨by decide, rfl, rfl, ⟨apiCall.preorder.take 12, apiCall.preorder.drop 13,
    ⟨"/admin", [], some ⟨57, 86⟩⟩, ?_, by decide +kernel, fun h => ?_⟩, ?_⟩
  · rw [Node.walk_eq_preorder]
    rfl
  · have hlost : joinPrefix "/api" "/admin" = "/admin" := by
      have hparent : (inlineParent { grammar := .chi } (tableAfter { grammar := .chi }
          (apiCall.preorder.take 12)) adminCall adminReceiver).pathPrefix = "/api" := by
        decide +kernel
      have hinner : openedPrefix adminCall = "/admin" := by decide +kernel
      have hpath := h.pathPrefix
      rw [hparent, hinner] at hpath
      exact hpath.symm
    exact absurd hlost (by decide +kernel)
  · simp only [discover, readings, findGroups, Node.walk_eq_preorder]
    decide +kernel

end Detector

end RouteAudit
