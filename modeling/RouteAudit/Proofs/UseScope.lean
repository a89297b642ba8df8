import Mathlib.Data.List.Forall2
import RouteAudit.Proofs.ClosureScope

/-! # Middleware stays in its closure

A call such as `r.Use(mw)` on the parameter of a function literal `L` appends middleware to the
group of `L`. To see where this middleware can be reported, two runs are compared that differ only
in the middleware given to that call. `SameOutside` relates their tables: the named groups are
equal, and closures are equal or belong to literals in `L`. Every node of the tree keeps the
relation (`SameOutside.noteNode`): a group that is opened inside a group that differs is opened in
`L` too, because a node where that group is found lies in its literal. A route is read from the one
group that its receiver means (`readCall_congr`), so a route that is read differently stands in `L`.

`closure_scope_lexical` is the statement about a whole tree. -/

namespace RouteAudit

open Go (Node Span)

/-! ### Lists that correspond -/

theorem forall₂_modify {α : Type} {R : α → α → Prop} {f f' : α → α} : ∀ {xs ys : List α} {i : ℕ},
    List.Forall₂ R xs ys →
      (∀ a b, xs[i]? = some a → ys[i]? = some b → R a b → R (f a) (f' b)) →
        List.Forall₂ R (xs.modify i f) (ys.modify i f')
  | [], [], i, _, _ => by simp
  | a :: xs, b :: ys, 0, .cons hab hrest, hf => by
      rw [List.modify_zero_cons, List.modify_zero_cons]
      exact .cons (hf a b rfl rfl hab) hrest
  | a :: xs, b :: ys, i + 1, .cons hab hrest, hf => by
      rw [List.modify_succ_cons, List.modify_succ_cons]
      exact .cons hab (forall₂_modify hrest hf)

theorem exists_of_forall₂ {α : Type} {R : α → α → Prop} : ∀ {xs ys : List α} {i : ℕ} {a : α},
    List.Forall₂ R xs ys → xs[i]? = some a → ∃ b, ys[i]? = some b ∧ R a b
  | _ :: _, b :: _, 0, _, .cons hab _, h => by
      cases h
      exact ⟨b, rfl, hab⟩
  | _ :: xs, _ :: ys, i + 1, _, .cons _ hrest, h => by
      rw [List.getElem?_cons_succ] at h ⊢
      exact exists_of_forall₂ hrest h

namespace Detector

/-! ### Tables that differ in closures of one literal -/

variable (d : Detector) (root L : Node)

/-- The groups are equal, or they are of one literal in `L` that is bound under the handle. -/
def Alike (key : String) (g g' : Group) : Prop :=
  g = g' ∨ g.scope = g'.scope ∧
    ∃ M ∈ d.literals key root.walk, M ∈ L.walk ∧ g.scope = some M.span

/-- The tables differ in closures of literals in `L` at most. -/
structure SameOutside (t t' : GroupTable) : Prop where
  named : t.byName = t'.byName
  closures : ∀ key, List.Forall₂ (d.Alike root L key) (t.closures key) (t'.closures key)

variable {d root L}

theorem Alike.scope_eq {key : String} {g g' : Group} (h : d.Alike root L key g g') :
    g.scope = g'.scope := by
  rcases h with rfl | h
  · rfl
  · exact h.1

theorem Alike.use {key : String} {g g' : Group} (h : d.Alike root L key g g')
    (refs : List Middleware) : d.Alike root L key (g.use refs) (g'.use refs) := by
  rcases h with rfl | h
  · exact .inl rfl
  · exact .inr h

namespace SameOutside

variable {t t' : GroupTable}

theorem innermost?_eq (h : d.SameOutside root L t t') (key : String) (p : ℕ) :
    Group.innermost? p (t.closures key) = Group.innermost? p (t'.closures key) := by
  apply Group.innermost?_congr
  rw [← List.forall₂_eq_eq_eq, List.forall₂_map_left_iff, List.forall₂_map_right_iff]
  exact (h.closures key).imp fun _ _ => Alike.scope_eq

/-- A handle means the same group in both tables, or a closure of a literal in `L`. -/
theorem lookup_eq_or (h : d.SameOutside root L t t') (key : String) (p : ℕ) :
    t.lookup key p = t'.lookup key p ∨
      ∃ g M, t.lookup key p = some g ∧ M ∈ d.literals key root.walk ∧ M ∈ L.walk ∧
        g.scope = some M.span ∧ M.span.holds p = true := by
  cases hi : Group.innermost? p (t.closures key) with
  | none =>
      left
      rw [t.lookup_of_named hi, t'.lookup_of_named (h.innermost?_eq key p ▸ hi), h.named]
  | some q =>
      obtain ⟨⟨g, hg, haround⟩, -⟩ := Group.innermost?_eq_some hi
      obtain ⟨g', hg', hlike⟩ := exists_of_forall₂ (h.closures key) hg
      rw [t.lookup_of_closure hi, t'.lookup_of_closure (h.innermost?_eq key p ▸ hi), hg, hg']
      rcases hlike with rfl | ⟨-, M, hM, hML, hscope⟩
      · exact .inl rfl
      · obtain ⟨r, hr, hholds, -⟩ := Group.startAround?_eq_some_iff.mp haround
        rw [hscope, Option.some.injEq] at hr
        exact .inr ⟨g, M, rfl, hM, hML, hscope, hr ▸ hholds⟩

theorem use (h : d.SameOutside root L t t') (key : String) (p : ℕ) (refs : List Middleware) :
    d.SameOutside root L (t.use key p refs) (t'.use key p refs) := by
  cases hi : Group.innermost? p (t.closures key) with
  | none =>
      have hi' := h.innermost?_eq key p ▸ hi
      refine ⟨?_, fun k => ?_⟩
      · rw [t.byName_use_of_named refs hi, t'.byName_use_of_named refs hi', h.named]
      · rw [t.closures_use_of_named refs hi, t'.closures_use_of_named refs hi']
        exact h.closures k
  | some q =>
      have hi' := h.innermost?_eq key p ▸ hi
      refine ⟨?_, fun k => ?_⟩
      · rw [t.byName_use_of_closure refs hi, t'.byName_use_of_closure refs hi', h.named]
      · rw [t.closures_use_of_closure refs hi, t'.closures_use_of_closure refs hi']
        split
        · exact forall₂_modify (h.closures k) fun _ _ _ _ hlike => hlike.use refs
        · exact h.closures k

theorem bind (h : d.SameOutside root L t t') {key : String} {g g' : Group} {s : Span}
    (hg : g.scope = some s) (hg' : g'.scope = some s) (hlike : d.Alike root L key g g') :
    d.SameOutside root L (t.bind key g) (t'.bind key g') := by
  refine ⟨?_, fun k => ?_⟩
  · rw [t.byName_bind_of_scoped hg, t'.byName_bind_of_scoped hg', h.named]
  · rw [t.closures_bind_of_scoped hg, t'.closures_bind_of_scoped hg']
    split
    · rename_i hk
      subst hk
      exact List.rel_append (h.closures k) (.cons hlike .nil)
    · exact h.closures k

theorem noteNode (h : d.SameOutside root L t t') (hd : d.grammar.groupBinding = .closure)
    (hw : root.WellFormed) {n : Node} (hn : n ∈ root.walk) :
    d.SameOutside root L (d.noteNode t n) (d.noteNode t' n) := by
  rw [noteNode_eq_run, noteNode_eq_run]
  rcases d.steps_cases hd n with ⟨key, body, parent, inner, ho, hs⟩ | ⟨-, hs | ⟨key, refs, hs⟩⟩
  · rw [hs]
    refine h.bind (Group.scope_nested ..) (Group.scope_nested ..) ?_
    rw [Option.bind_some, Option.bind_some]
    rcases h.lookup_eq_or parent n.start with heq | ⟨g, M, -, hM, hML, -, hholds⟩
    · exact .inl (by rw [heq])
    · have hbody : body ∈ L.walk := by
        have hnM : n ∈ M.walk := (holds_iff_mem_walk hw hM hn).mp hholds
        exact Node.mem_walk_trans (mem_walk_of_opened? hw hn ho) (Node.mem_walk_trans hnM hML)
      right
      rw [Group.scope_nested, Group.scope_nested]
      exact ⟨rfl, body, d.mem_literals_iff.mpr ⟨n, hn, ho⟩, hbody, rfl⟩
  · rw [hs]
    exact h
  · rw [hs]
    exact h.use key n.start refs

theorem foldl_noteNode (hd : d.grammar.groupBinding = .closure) (hw : root.WellFormed)
    {ns : List Node} (hns : ∀ n ∈ ns, n ∈ root.walk) (h : d.SameOutside root L t t') :
    d.SameOutside root L (ns.foldl d.noteNode t) (ns.foldl d.noteNode t') := by
  induction ns generalizing t t' with
  | nil => exact h
  | cons n rest ih =>
      refine ih (fun m hm => hns m (List.mem_cons_of_mem _ hm)) ?_
      exact h.noteNode hd hw (hns n List.mem_cons_self)

theorem of_use {key : String} {p : ℕ} {g : Group} (hreg : t.Regular)
    (hfind : t.FindsClosure key p g) (hL : L ∈ d.literals key root.walk)
    (hscope : g.scope = some L.span) (refs refs' : List Middleware) :
    d.SameOutside root L (t.use key p refs) (t.use key p refs') := by
  obtain ⟨i, s, hi, hg⟩ := hreg.findsClosure_iff.mp hfind
  refine ⟨?_, fun k => ?_⟩
  · rw [t.byName_use_of_closure refs hi, t.byName_use_of_closure refs' hi]
  · rw [t.closures_use_of_closure refs hi, t.closures_use_of_closure refs' hi]
    have hsame : List.Forall₂ (d.Alike root L k) (t.closures k) (t.closures k) :=
      List.forall₂_same.mpr fun _ _ => .inl rfl
    split
    · rename_i hk
      subst hk
      refine forall₂_modify hsame ?_
      intro a b ha hb _
      rw [hg] at ha hb
      cases ha
      cases hb
      exact .inr ⟨rfl, L, hL, Node.self_mem_walk L, hscope⟩
    · exact hsame

end SameOutside

/-! ### Routes -/

theorem readCall_congr {t t' : GroupTable} {c : Node}
    (h : ∀ target, d.target? c = some target →
      t.lookup target.receiver c.start = t'.lookup target.receiver c.start) (path : String) :
    d.readCall path t c = d.readCall path t' c := by
  unfold readCall
  cases ht : d.target? c with
  | none => rfl
  | some target =>
      dsimp only
      cases d.verbs? target.method c.callArguments with
      | none => rfl
      | some q =>
          obtain ⟨methods, args⟩ := q
          have hend : ∀ route ms, d.endpointOf path t c target route ms args =
              d.endpointOf path t' c target route ms args := by
            intro route ms
            unfold endpointOf
            rw [h target ht]
          unfold readRoute
          simp only [hend]

/-! ### Whole trees -/

section trees
variable (hd : d.grammar.groupBinding = .closure) (hw : root.WellFormed)

include hd hw

/-- What a handle means when a node is met, it means in the end: the closure in the same place, of
the innermost literal around the node. -/
theorem findsClosure_finished {pre post : List Node} {c : Node}
    (hsplit : root.walk = pre ++ c :: post) {key : String} {g : Group}
    (hg : (d.tableAfter pre).FindsClosure key c.start g) :
    ∃ (i : ℕ) (M : Node) (g' : Group), (d.literals key root.walk)[i]? = some M ∧
      IsInnermost (d.literals key root.walk) c M ∧ g.scope = some M.span ∧
      ((d.tableAfter pre).closures key)[i]? = some g ∧
      ((d.findGroups root).closures key)[i]? = some g' ∧
      (d.findGroups root).FindsClosure key c.start g' ∧ g.Extends g' := by
  have hc : c ∈ root.walk := by simp [hsplit]
  obtain ⟨i, s, hi, hgi⟩ := (d.regular_tableAfter pre).findsClosure_iff.mp hg
  have hfin := (innermost?_tableAfter hd hw hsplit key).trans hi
  obtain ⟨M, g', hM, hg', hscope, hin⟩ := isInnermost_of_innermost? hd hw hc hfin
  have hext : g.Extends g' := by
    obtain ⟨g'', hg'', hext⟩ := GroupTable.closures_run hgi ((c :: post).flatMap d.steps)
    have hrun : (d.tableAfter pre).run ((c :: post).flatMap d.steps) = d.findGroups root := by
      rw [← foldl_noteNode_eq_run, findGroups, hsplit, List.foldl_append]
      rfl
    rw [hrun, hg', Option.some.injEq] at hg''
    exact hg'' ▸ hext
  refine ⟨i, M, g', hM, hin, hext.scope ▸ hscope, hgi, hg', ?_, hext⟩
  exact (d.regular_tableAfter root.walk).findsClosure_iff.mpr ⟨i, s, hfin, hg'⟩

theorem exists_findsClosure_tableAfter_iff {pre post : List Node} {c : Node}
    (hsplit : root.walk = pre ++ c :: post) (key : String) :
    (∃ g, (d.tableAfter pre).FindsClosure key c.start g) ↔
      ∃ g, (d.findGroups root).FindsClosure key c.start g := by
  constructor
  · rintro ⟨g, hg⟩
    obtain ⟨i, M, g', -, -, -, -, -, hg', -⟩ := findsClosure_finished hd hw hsplit hg
    exact ⟨g', hg'⟩
  · rintro ⟨g', hg'⟩
    obtain ⟨i, s, hi, -⟩ := (d.regular_tableAfter root.walk).findsClosure_iff.mp hg'
    rw [← findGroups_eq_tableAfter, innermost?_tableAfter hd hw hsplit key] at hi
    obtain ⟨⟨g, hg, -⟩, -⟩ := Group.innermost?_eq_some hi
    exact ⟨g, (d.regular_tableAfter pre).findsClosure_iff.mpr ⟨i, s, hi, hg⟩⟩

omit hd hw in
/-- The finished table, from the call on that appends middleware. -/
theorem findGroups_eq_of_isUse {pre post : List Node} {u : Node}
    (hsplit : root.walk = pre ++ u :: post) {key : String} (hu : d.IsUse u key) :
    d.findGroups root = post.foldl d.noteNode
      ((d.tableAfter pre).use key u.start (middlewareList u.callArguments)) := by
  rw [findGroups, hsplit, List.foldl_append, List.foldl_cons, d.noteNode_of_isUse hu]
  rfl

theorem middleware_kept {pre post : List Node} {u : Node}
    (hsplit : root.walk = pre ++ u :: post) {key : String} (hu : d.IsUse u key) {g : Group}
    (hg : (d.tableAfter pre).FindsClosure key u.start g) :
    ∃ g', (d.findGroups root).FindsClosure key u.start g' ∧ g'.scope = g.scope ∧
      g.middleware ++ middlewareList u.callArguments <+: g'.middleware := by
  obtain ⟨i, s, hi, hgi⟩ := (d.regular_tableAfter pre).findsClosure_iff.mp hg
  have huse : (((d.tableAfter pre).use key u.start (middlewareList u.callArguments)).closures
      key)[i]? = some (g.use (middlewareList u.callArguments)) := by
    rw [GroupTable.closures_use_of_closure _ _ hi, if_pos rfl, List.getElem?_modify, hgi]
    simp
  obtain ⟨g', hg', hext⟩ := GroupTable.closures_run huse (post.flatMap d.steps)
  rw [← foldl_noteNode_eq_run, ← findGroups_eq_of_isUse hsplit hu] at hg'
  refine ⟨g', ?_, hext.scope, hext.middleware⟩
  have hfin := (innermost?_tableAfter hd hw hsplit key).trans hi
  exact (d.regular_tableAfter root.walk).findsClosure_iff.mpr ⟨i, s, hfin, hg'⟩

/-- A route that depends on the middleware of a call stands in a group of a literal in `L`. -/
theorem exists_literal_of_readCall_ne {pre post : List Node} {u : Node}
    (hsplit : root.walk = pre ++ u :: post) {key : String} (hu : d.IsUse u key) {g : Group}
    (hg : (d.tableAfter pre).FindsClosure key u.start g) (hL : L ∈ d.literals key root.walk)
    (hscope : g.scope = some L.span) (refs : List Middleware) {c : Node} (hc : c ∈ root.walk)
    {path : String}
    (hne : d.readCall path (post.foldl d.noteNode ((d.tableAfter pre).use key u.start refs)) c ≠
      d.readCall path (d.findGroups root) c) :
    ∃ target M g', d.target? c = some target ∧ M ∈ d.literals target.receiver root.walk ∧
      (d.findGroups root).FindsClosure target.receiver c.start g' ∧ g'.scope = some M.span ∧
      M ∈ L.walk ∧ c ∈ M.walk := by
  have hpost : ∀ n ∈ post, n ∈ root.walk := by
    intro n hn
    simp [hsplit, hn]
  have hsame : d.SameOutside root L (d.findGroups root)
      (post.foldl d.noteNode ((d.tableAfter pre).use key u.start refs)) := by
    rw [findGroups_eq_of_isUse hsplit hu]
    exact SameOutside.foldl_noteNode hd hw hpost
      (.of_use (d.regular_tableAfter pre) hg hL hscope _ refs)
  by_contra hnone
  refine hne (readCall_congr ?_ path).symm
  intro target htarget
  rcases hsame.lookup_eq_or target.receiver c.start with heq | ⟨g', M, hg', hM, hML, hs, hholds⟩
  · exact heq
  · exact absurd ⟨target, M, g', htarget, hM, ⟨hg', by rw [hs]; simp⟩, hs, hML,
      (holds_iff_mem_walk hw hM hc).mp hholds⟩ hnone

end trees

/-- **Closures scope lexically.** In a well-formed tree of a framework that opens groups with
function literals, for every node `c` and every handle:

* a lookup of the handle at `c` finds a closure while the walk is at `c` exactly when it does in the
  finished table, and that is when a literal bound under the handle contains `c`;
* it finds the same closure, which is that of the innermost such literal, and later calls can only
  have appended middleware to it.

A call `u` that appends middleware to the closure of a literal `L` leaves it there, and had the call
been given any other middleware, then only routes would be read differently whose group was opened
by a literal `M` that is `L` or lies in it; such a route stands in `L`. -/
theorem closure_scope_lexical (d : Detector) (hd : d.grammar.groupBinding = .closure) (root : Node)
    (hw : root.WellFormed) :
    (∀ pre c post, root.walk = pre ++ c :: post → ∀ key,
      ((∃ g, (d.tableAfter pre).FindsClosure key c.start g) ↔
        ∃ g, (d.findGroups root).FindsClosure key c.start g) ∧
      ((∃ g, (d.findGroups root).FindsClosure key c.start g) ↔
        ∃ L ∈ d.literals key root.walk, c ∈ L.walk) ∧
      ∀ g, (d.tableAfter pre).FindsClosure key c.start g →
        ∃ (i : ℕ) (L : Node) (g' : Group), (d.literals key root.walk)[i]? = some L ∧
          IsInnermost (d.literals key root.walk) c L ∧ g.scope = some L.span ∧
          ((d.tableAfter pre).closures key)[i]? = some g ∧
          ((d.findGroups root).closures key)[i]? = some g' ∧
          (d.findGroups root).FindsClosure key c.start g' ∧ g.Extends g') ∧
    ∀ pre u post, root.walk = pre ++ u :: post → ∀ key, d.IsUse u key → ∀ g,
      (d.tableAfter pre).FindsClosure key u.start g → ∀ L ∈ d.literals key root.walk,
      g.scope = some L.span →
      (∃ g', (d.findGroups root).FindsClosure key u.start g' ∧ g'.scope = some L.span ∧
        g.middleware ++ middlewareList u.callArguments <+: g'.middleware) ∧
      ∀ refs, ∀ c ∈ root.walk, ∀ path,
        d.readCall path (post.foldl d.noteNode ((d.tableAfter pre).use key u.start refs)) c ≠
          d.readCall path (d.findGroups root) c →
        c ∈ L.walk ∧ ∃ target M g', d.target? c = some target ∧
          M ∈ d.literals target.receiver root.walk ∧
          (d.findGroups root).FindsClosure target.receiver c.start g' ∧
          g'.scope = some M.span ∧ M ∈ L.walk ∧ c ∈ M.walk := by
  refine ⟨?_, ?_⟩
  · intro pre c post hsplit key
    have hc : c ∈ root.walk := by simp [hsplit]
    exact ⟨exists_findsClosure_tableAfter_iff hd hw hsplit key,
      exists_findsClosure_iff hd hw hc key, fun g => findsClosure_finished hd hw hsplit⟩
  · intro pre u post hsplit key hu g hg L hL hscope
    refine ⟨?_, ?_⟩
    · obtain ⟨g', hg', hs, hpre⟩ := middleware_kept hd hw hsplit hu hg
      exact ⟨g', hg', hs.trans hscope, hpre⟩
    · intro refs c hc path hne
      obtain ⟨target, M, g', ht, hM, hg', hs, hML, hcM⟩ :=
        exists_literal_of_readCall_ne hd hw hsplit hu hg hL hscope refs hc hne
      exact ⟨Node.mem_walk_trans hcM hML, target, M, g', ht, hM, hg', hs, hML, hcM⟩

/-! ### A group with one route -/

/-- The tree of `r.Get("/me", h)` at byte 33. -/
def getCall : Node :=
  .mk { kind := .call, span := ⟨33, 48⟩ }
    [.mk { kind := .selector, role := some .function, span := ⟨33, 38⟩ }
      [.mk { kind := .identifier, role := some .operand, span := ⟨33, 34⟩, text := "r" } [],
       .mk { kind := .fieldIdentifier, role := some .field, span := ⟨35, 38⟩, text := "Get" } []],
     .mk { kind := .other "argument_list", role := some .arguments, span := ⟨38, 48⟩ }
      [.mk { kind := .interpretedString, span := ⟨39, 44⟩, text := "\"/me\"" } [],
       .mk { kind := .identifier, span := ⟨46, 47⟩, text := "h" } []]]

/-- The tree of `r.Use(Auth)` at byte 20. -/
def useCall : Node :=
  .mk { kind := .call, span := ⟨20, 31⟩ }
    [.mk { kind := .selector, role := some .function, span := ⟨20, 25⟩ }
      [.mk { kind := .identifier, role := some .operand, span := ⟨20, 21⟩, text := "r" } [],
       .mk { kind := .fieldIdentifier, role := some .field, span := ⟨22, 25⟩, text := "Use" } []],
     .mk { kind := .other "argument_list", role := some .arguments, span := ⟨25, 31⟩ }
      [.mk { kind := .identifier, span := ⟨26, 30⟩, text := "Auth" } []]]

/-- The tree of `func(r R) { r.Use(Auth); r.Get("/me", h) }` at byte 8. -/
def groupLiteral : Node :=
  .mk { kind := .funcLiteral, span := ⟨8, 50⟩ }
    [.mk { kind := .other "parameter_list", role := some .parameters, span := ⟨12, 17⟩ }
      [.mk { kind := .other "parameter_declaration", span := ⟨13, 16⟩ }
        [.mk { kind := .identifier, role := some .name, span := ⟨13, 14⟩, text := "r" } [],
         .mk { kind := .typeIdentifier, span := ⟨15, 16⟩, text := "R" } []]],
     .mk { kind := .other "block", role := some .body, span := ⟨18, 50⟩ } [useCall, getCall]]

/-- The tree of `r.Group(func(r R) { r.Use(Auth); r.Get("/me", h) })`. -/
def groupCall : Node :=
  .mk { kind := .call, span := ⟨0, 51⟩ }
    [.mk { kind := .selector, role := some .function, span := ⟨0, 7⟩ }
      [.mk { kind := .identifier, role := some .operand, span := ⟨0, 1⟩, text := "r" } [],
       .mk { kind := .fieldIdentifier, role := some .field, span := ⟨2, 7⟩, text := "Group" } []],
     .mk { kind := .other "argument_list", role := some .arguments, span := ⟨7, 51⟩ }
      [groupLiteral]]

/-- In the literal `r` is its parameter, for the route and for the call that appends middleware,
which stays in the group. -/
theorem groupCall_scopes_lexically :
    (∃ g, (findGroups { grammar := .chi } groupCall).FindsClosure "r" getCall.start g) ∧
      ∃ g, (findGroups { grammar := .chi } groupCall).FindsClosure "r" useCall.start g ∧
        { name := "Auth" } ∈ g.middleware := by
  obtain ⟨hlookup, hkept⟩ :=
    closure_scope_lexical { grammar := .chi } rfl groupCall (by decide)
  have hliterals : literals { grammar := .chi } "r" groupCall.walk = [groupLiteral] := by
    rw [Node.walk_eq_preorder]
    rfl
  have hroot : groupLiteral ∈ groupCall.walk := by
    rw [Node.walk_eq_preorder]
    exact List.mem_of_getElem? (i := 5) rfl
  have huse : useCall ∈ groupLiteral.walk := by
    rw [Node.walk_eq_preorder]
    exact List.mem_of_getElem? (i := 6) rfl
  have hget : getCall ∈ groupLiteral.walk := by
    rw [Node.walk_eq_preorder]
    exact List.mem_of_getElem? (i := 12) rfl
  constructor
  · obtain ⟨pre, post, hsplit⟩ := List.append_of_mem (Node.mem_walk_trans hget hroot)
    exact (hlookup pre getCall post hsplit "r").2.1.mpr ⟨groupLiteral, by simp [hliterals], hget⟩
  · obtain ⟨pre, post, hsplit⟩ := List.append_of_mem (Node.mem_walk_trans huse hroot)
    obtain ⟨hsame, hexists, hfound⟩ := hlookup pre useCall post hsplit "r"
    obtain ⟨g, hg⟩ := hsame.mpr (hexists.mpr ⟨groupLiteral, by simp [hliterals], huse⟩)
    obtain ⟨i, L, -, hL, -, hscope, -⟩ := hfound g hg
    have hisUse : IsUse { grammar := .chi } useCall "r" :=
      ⟨rfl, ⟨_, "Use", rfl, by decide, by decide, by decide⟩, by decide⟩
    obtain ⟨g', hg', -, hmiddleware⟩ :=
      (hkept pre useCall post hsplit "r" hisUse g hg L (List.mem_of_getElem? hL) hscope).1
    refine ⟨g', hg', hmiddleware.subset (List.mem_append_right _ ?_)⟩
    decide +kernel

end Detector

end RouteAudit
