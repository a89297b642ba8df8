import RouteAudit.Proofs.GroupTable
import RouteAudit.Proofs.SyntaxTree

/-! # Closures scope lexically

Where a framework opens groups with function literals, a handle is the parameter of such a literal.
`findGroups` walks a tree and resolves handles while the table is still growing; routes are read
against the finished table. Both look at byte positions only. In a well-formed tree this is lexical
scoping:

* `holds_iff_mem_walk`: a bound literal's range holds the start of a node exactly when the node lies
  in the literal;
* `innermost?_tableAfter`: what is bound when a node is met, or later, is never around the node, so
  the growing table and the finished one choose the same closure;
* `isInnermost_of_innermost?`: the closure they choose is that of the innermost literal. -/

namespace RouteAudit

open Go (Node Span)

/-! ### Literals that open groups -/

namespace Detector

variable (d : Detector)

/-- The handle that a node binds and the function literal it opens a group with. -/
def opened? (n : Node) : Option (String × Node) :=
  match n.methodCall? with
  | some (_, method) =>
    if n.kind = .call ∧ d.grammar.groupMethods.contains method then namedLiteral? n else none
  | none => none

/-- The literals that nodes bind under a handle, in the order of the nodes. -/
def literals (key : String) (ns : List Node) : List Node :=
  ns.filterMap fun n =>
    match d.opened? n with
    | some (k, body) => if k = key then some body else none
    | none => none

/-- The table after some nodes have been met. -/
def tableAfter (ns : List Node) : GroupTable := ns.foldl d.noteNode {}

/-- The node appends middleware to the group that a handle means. -/
structure IsUse (n : Node) (key : String) : Prop where
  call : n.kind = .call
  method : ∃ receiver method, n.methodCall? = some (receiver, method) ∧
    d.grammar.groupMethods.contains method = false ∧
    d.grammar.useMethods.contains method = true ∧ receiver.dottedName = key
  named : key.isEmpty = false

theorem mem_literals_iff {key : String} {ns : List Node} {L : Node} :
    L ∈ d.literals key ns ↔ ∃ n ∈ ns, d.opened? n = some (key, L) := by
  unfold literals
  rw [List.mem_filterMap]
  constructor
  · rintro ⟨n, hn, h⟩
    refine ⟨n, hn, ?_⟩
    cases ho : d.opened? n with
    | none => simp [ho] at h
    | some q =>
        obtain ⟨k, body⟩ := q
        simp only [ho, Option.ite_none_right_eq_some, Option.some.injEq] at h
        rw [h.1, h.2]
  · rintro ⟨n, hn, h⟩
    exact ⟨n, hn, by simp [h]⟩

theorem literals_append (key : String) (ns ms : List Node) :
    d.literals key (ns ++ ms) = d.literals key ns ++ d.literals key ms := List.filterMap_append

theorem literals_singleton (key : String) (n : Node) :
    d.literals key [n] =
      match d.opened? n with
      | some (k, body) => if k = key then [body] else []
      | none => [] := by
  unfold literals
  cases ho : d.opened? n with
  | none => simp [ho]
  | some q => by_cases hk : q.1 = key <;> simp [ho, hk]

theorem mem_callArguments_of_opened? {n L : Node} {key : String}
    (h : d.opened? n = some (key, L)) : n.kind = .call ∧ L ∈ n.callArguments := by
  unfold opened? at h
  split at h
  · split at h
    · rename_i hcall
      unfold namedLiteral? at h
      split at h
      · rename_i body hlast
        split at h
        · cases h
          exact ⟨hcall.1, List.mem_of_getLast? hlast⟩
        · cases h
      · cases h
    · cases h
  · cases h

/-- What a node can do to the groups of a framework that opens them with function literals. -/
theorem steps_cases (hd : d.grammar.groupBinding = .closure) (n : Node) :
    (∃ key body parent inner, d.opened? n = some (key, body) ∧
      d.steps n = [.bind key (some parent) n.start inner [] (some body.span)]) ∨
    (d.opened? n = none ∧
      (d.steps n = [] ∨ ∃ key refs, d.steps n = [.use key n.start refs])) := by
  have hb : ¬(d.grammar.groupBinding = .assignment ∧ isAssignment n = true) := by simp [hd]
  unfold steps opened? callStep?
  rw [if_neg hb]
  by_cases hk : n.kind = .call
  · rw [if_pos hk]
    cases n.methodCall? with
    | none => exact .inr ⟨rfl, .inl rfl⟩
    | some q =>
        obtain ⟨receiver, method⟩ := q
        dsimp only
        by_cases hm : d.grammar.groupMethods.contains method = true
        · rw [if_pos ⟨hk, hm⟩, if_pos ⟨hd, hm⟩]
          unfold closureStep?
          cases hl : namedLiteral? n with
          | none => exact .inr ⟨rfl, .inl rfl⟩
          | some q =>
              obtain ⟨key, body⟩ := q
              exact .inl ⟨key, body, _, _, rfl, rfl⟩
        · rw [if_neg fun h => hm h.2, if_neg fun h => hm h.2]
          right
          refine ⟨rfl, ?_⟩
          split
          · split
            · exact .inl rfl
            · exact .inr ⟨_, _, rfl⟩
          · exact .inl rfl
  · rw [if_neg hk]
    right
    refine ⟨?_, .inl rfl⟩
    split
    · rw [if_neg fun h => hk h.1]
    · rfl

theorem noteNode_of_isUse {n : Node} {key : String} (h : d.IsUse n key) (t : GroupTable) :
    d.noteNode t n = t.use key n.start (middlewareList n.callArguments) := by
  obtain ⟨receiver, method, hcall, hgroup, huse, rfl⟩ := h.method
  have hassign : isAssignment n = false := by simp [isAssignment, h.call]
  simp only [noteNode, hassign, h.call, noteCall, hcall, hgroup, huse, h.named]
  simp

/-! ### Positions and ancestry -/

section positions
variable {d} {root : Node} (h : root.WellFormed)

include h

/-- A bound literal stands in a list of arguments of the node that binds it, after its start. -/
theorem exists_holder {key : String} {n L : Node} (hn : n ∈ root.walk)
    (ho : d.opened? n = some (key, L)) :
    ∃ a ∈ n.children, L ∈ a.children ∧ a.span.start < L.span.start := by
  obtain ⟨hkind, hL⟩ := d.mem_callArguments_of_opened? ho
  exact h.exists_arguments hn hkind hL

theorem mem_walk_of_opened? {key : String} {n L : Node} (hn : n ∈ root.walk)
    (ho : d.opened? n = some (key, L)) : L ∈ n.walk := by
  obtain ⟨a, ha, hL, -⟩ := exists_holder h hn ho
  exact Node.mem_walk_trans (Node.mem_walk_of_mem_children hL) (Node.mem_walk_of_mem_children ha)

theorem start_lt_of_opened? {key : String} {n L : Node} (hn : n ∈ root.walk)
    (ho : d.opened? n = some (key, L)) : n.span.start < L.span.start := by
  obtain ⟨a, ha, -, hlt⟩ := exists_holder h hn ho
  have := h.nested n hn a ha
  omega

theorem mem_walk_of_mem_literals {key : String} {L : Node} (hL : L ∈ d.literals key root.walk) :
    L ∈ root.walk := by
  obtain ⟨n, hn, ho⟩ := d.mem_literals_iff.mp hL
  exact Node.mem_walk_trans (mem_walk_of_opened? h hn ho) hn

theorem eq_or_start_lt {key : String} {L b : Node} (hL : L ∈ d.literals key root.walk)
    (hb : b ∈ root.walk) (hLb : L ∈ b.walk) : L = b ∨ b.span.start < L.span.start := by
  obtain ⟨n, hn, ho⟩ := d.mem_literals_iff.mp hL
  obtain ⟨a, ha, hLa, hlt⟩ := exists_holder h hn ho
  have har : a ∈ root.walk := Node.mem_walk_trans (Node.mem_walk_of_mem_children ha) hn
  rcases h.eq_or_parent_mem_walk har hb hLa hLb with hEq | hab
  · exact .inl hEq
  · have := h.span_le_of_mem hb hab
    right
    omega

/-- The range of a bound literal holds the start of a node exactly when the node lies in it. -/
theorem holds_iff_mem_walk {key : String} {L c : Node} (hL : L ∈ d.literals key root.walk)
    (hc : c ∈ root.walk) : L.span.holds c.start = true ↔ c ∈ L.walk := by
  have hLr := mem_walk_of_mem_literals h hL
  have hne := h.nonempty c hc
  rw [Span.holds_iff, Node.start]
  constructor
  · rintro ⟨hle, hlt⟩
    rcases h.mem_walk_or_disjoint hc hLr with hin | hin | hdis
    · exact hin
    · -- a node around the literal would start before it
      rcases eq_or_start_lt h hL hc hin with rfl | hbefore
      · exact Node.self_mem_walk _
      · omega
    · omega
  · intro hin
    have := h.span_le_of_mem hLr hin
    omega

theorem mem_walk_of_start_le {key key' : String} {L M c : Node}
    (hL : L ∈ d.literals key root.walk) (hM : M ∈ d.literals key' root.walk) (hcL : c ∈ L.walk)
    (hcM : c ∈ M.walk) (hle : M.span.start ≤ L.span.start) : L ∈ M.walk := by
  have hLr := mem_walk_of_mem_literals h hL
  have hMr := mem_walk_of_mem_literals h hM
  rcases h.mem_walk_or_disjoint hLr hMr with hin | hin | hdis
  · exact hin
  · rcases eq_or_start_lt h hM hLr hin with rfl | hbefore
    · exact Node.self_mem_walk _
    · omega
  · have h₁ := h.span_le_of_mem hLr hcL
    have h₂ := h.span_le_of_mem hMr hcM
    have h₃ := h.nonempty c (Node.mem_walk_trans hcL hLr)
    omega

theorem not_holds_of_later {pre post : List Node} {c : Node}
    (hsplit : root.walk = pre ++ c :: post) {key : String} {L : Node}
    (hL : L ∈ d.literals key (c :: post)) : L.span.holds c.start = false := by
  obtain ⟨n, hn, ho⟩ := d.mem_literals_iff.mp hL
  have hnr : n ∈ root.walk := by rw [hsplit]; exact List.mem_append_right _ hn
  have hlt := start_lt_of_opened? h hnr ho
  have hle : c.span.start ≤ n.span.start := by
    have hsorted := h.spanned.starts_sorted
    rw [hsplit, List.pairwise_append, List.pairwise_cons] at hsorted
    rcases List.mem_cons.mp hn with rfl | hpost
    · exact Nat.le_refl _
    · exact hsorted.2.1.1 n hpost
  rw [← Bool.not_eq_true, Span.holds_iff, Node.start]
  omega

end positions

/-! ### The growing table and the finished one -/

theorem findGroups_eq_tableAfter (root : Node) : d.findGroups root = d.tableAfter root.walk := rfl

theorem regular_tableAfter (ns : List Node) : (d.tableAfter ns).Regular := by
  rw [tableAfter, foldl_noteNode_eq_run]
  exact GroupTable.regular_empty.run _

theorem map_scope_closures_noteNode (hd : d.grammar.groupBinding = .closure) (t : GroupTable)
    (n : Node) (key : String) :
    ((d.noteNode t n).closures key).map Group.scope =
      (t.closures key).map Group.scope ++ (d.literals key [n]).map fun L => some L.span := by
  rw [noteNode_eq_run, literals_singleton]
  rcases d.steps_cases hd n with ⟨k, body, parent, inner, ho, hs⟩ | ⟨ho, hs | ⟨k, refs, hs⟩⟩
  · rw [ho, hs]
    simp only [GroupTable.run_cons, GroupTable.run_nil, GroupStep.apply]
    rw [t.closures_bind_of_scoped (Group.scope_nested ..)]
    by_cases hk : key = k
    · rw [if_pos hk, if_pos hk.symm, List.map_append]
      simp
    · rw [if_neg hk, if_neg (Ne.symm hk)]
      simp
  · rw [ho, hs]
    simp
  · rw [ho, hs]
    simp [GroupStep.apply, GroupTable.map_scope_closures_use]

theorem map_scope_closures_foldl_noteNode (hd : d.grammar.groupBinding = .closure)
    (ns : List Node) (t : GroupTable) (key : String) :
    ((ns.foldl d.noteNode t).closures key).map Group.scope =
      (t.closures key).map Group.scope ++ (d.literals key ns).map fun L => some L.span := by
  induction ns generalizing t with
  | nil => simp [literals]
  | cons n rest ih =>
      have hcons : d.literals key (n :: rest) = d.literals key [n] ++ d.literals key rest :=
        d.literals_append key [n] rest
      rw [List.foldl_cons, ih, d.map_scope_closures_noteNode hd, hcons, List.map_append,
        List.append_assoc]

/-- The closures of a handle are the literals bound under it, in order. -/
theorem map_scope_closures_tableAfter (hd : d.grammar.groupBinding = .closure) (ns : List Node)
    (key : String) :
    ((d.tableAfter ns).closures key).map Group.scope =
      (d.literals key ns).map fun L => some L.span :=
  d.map_scope_closures_foldl_noteNode hd ns {} key

end Detector

/-- A lookup of the handle at the position finds this group, and it is a closure's. -/
structure GroupTable.FindsClosure (t : GroupTable) (key : String) (p : ℕ) (g : Group) : Prop where
  found : t.lookup key p = some g
  scope : g.scope ≠ none

theorem GroupTable.Regular.findsClosure_iff {t : GroupTable} (h : t.Regular) {key : String}
    {p : ℕ} {g : Group} :
    t.FindsClosure key p g ↔
      ∃ i s, Group.innermost? p (t.closures key) = some (i, s) ∧ (t.closures key)[i]? = some g := by
  constructor
  · rintro ⟨hfound, hscope⟩
    cases hi : Group.innermost? p (t.closures key) with
    | none =>
        rw [t.lookup_of_named hi] at hfound
        exact absurd (h.named key g hfound) hscope
    | some q =>
        rw [t.lookup_of_closure hi] at hfound
        exact ⟨q.1, q.2, rfl, hfound⟩
  · rintro ⟨i, s, hi, hg⟩
    refine ⟨by rw [t.lookup_of_closure hi, hg], ?_⟩
    exact h.ranged key g (List.mem_of_getElem? hg)

/-- The literal contains the node, and every other of the literals that does contains it too. -/
structure IsInnermost (literals : List Node) (c L : Node) : Prop where
  mem : L ∈ literals
  around : c ∈ L.walk
  least : ∀ M ∈ literals, c ∈ M.walk → L ∈ M.walk

namespace Detector

section moments
variable {d : Detector} (hd : d.grammar.groupBinding = .closure) {root : Node}
  (h : root.WellFormed)

include hd

theorem scope_of_getElem? {ns : List Node} {key : String} {i : ℕ} {g : Group}
    (hg : ((d.tableAfter ns).closures key)[i]? = some g) :
    ∃ L, (d.literals key ns)[i]? = some L ∧ g.scope = some L.span := by
  have hscope : (((d.tableAfter ns).closures key).map Group.scope)[i]? = some g.scope := by
    rw [List.getElem?_map, hg]
    rfl
  rw [d.map_scope_closures_tableAfter hd, List.getElem?_map, Option.map_eq_some_iff] at hscope
  obtain ⟨L, hL, he⟩ := hscope
  exact ⟨L, hL, he.symm⟩

theorem exists_scope_of_mem_literals {ns : List Node} {key : String} {L : Node}
    (hL : L ∈ d.literals key ns) :
    ∃ g ∈ (d.tableAfter ns).closures key, g.scope = some L.span := by
  have hmem : some L.span ∈ ((d.tableAfter ns).closures key).map Group.scope := by
    rw [d.map_scope_closures_tableAfter hd]
    exact List.mem_map_of_mem hL
  exact List.mem_map.mp hmem

include h

theorem exists_startAround?_of_mem_literals {c M : Node} {key : String} (hc : c ∈ root.walk)
    (hM : M ∈ d.literals key root.walk) (hcM : c ∈ M.walk) :
    ∃ g ∈ (d.findGroups root).closures key, g.startAround? c.start = some M.span.start := by
  obtain ⟨g, hg, hscope⟩ := exists_scope_of_mem_literals hd hM
  refine ⟨g, hg, Group.startAround?_eq_some_iff.mpr ⟨M.span, hscope, ?_, rfl⟩⟩
  exact (holds_iff_mem_walk h hM hc).mpr hcM

/-- The growing table and the finished one choose the same closure. -/
theorem innermost?_tableAfter {pre post : List Node} {c : Node}
    (hsplit : root.walk = pre ++ c :: post) (key : String) :
    Group.innermost? c.start ((d.findGroups root).closures key) =
      Group.innermost? c.start ((d.tableAfter pre).closures key) := by
  have hrun : d.findGroups root = (c :: post).foldl d.noteNode (d.tableAfter pre) := by
    rw [findGroups, hsplit, List.foldl_append]
    rfl
  let later : List Group :=
    (d.literals key (c :: post)).map fun L => { scope := some L.span }
  have hscopes : ((d.findGroups root).closures key).map Group.scope =
      ((d.tableAfter pre).closures key ++ later).map Group.scope := by
    rw [hrun, d.map_scope_closures_foldl_noteNode hd, List.map_append, List.map_map]
    rfl
  rw [Group.innermost?_congr _ hscopes, Group.innermost?_append]
  intro g hg
  obtain ⟨L, hL, rfl⟩ := List.mem_map.mp hg
  have hno := not_holds_of_later h hsplit hL
  simp [Group.startAround?, hno]

/-- The closure that a table of the whole tree chooses is that of the innermost literal. -/
theorem isInnermost_of_innermost? {c : Node} (hc : c ∈ root.walk) {key : String} {i s : ℕ}
    (hi : Group.innermost? c.start ((d.findGroups root).closures key) = some (i, s)) :
    ∃ L g, (d.literals key root.walk)[i]? = some L ∧
      ((d.findGroups root).closures key)[i]? = some g ∧ g.scope = some L.span ∧
      IsInnermost (d.literals key root.walk) c L := by
  obtain ⟨⟨g, hg, haround⟩, hmax⟩ := Group.innermost?_eq_some hi
  obtain ⟨L, hL, hscope⟩ := scope_of_getElem? hd hg
  have hLmem : L ∈ d.literals key root.walk := List.mem_of_getElem? hL
  obtain ⟨r, hr, hholds, hstart⟩ := Group.startAround?_eq_some_iff.mp haround
  rw [hscope, Option.some.injEq] at hr
  subst hr
  have hcL : c ∈ L.walk := (holds_iff_mem_walk h hLmem hc).mp hholds
  refine ⟨L, g, hL, hg, hscope, hLmem, hcL, ?_⟩
  intro M hM hcM
  obtain ⟨k, hk, hkaround⟩ := exists_startAround?_of_mem_literals hd h hc hM hcM
  have hle := hmax k hk _ hkaround
  exact mem_walk_of_start_le h hLmem hM hcL hcM (by omega)

/-- A handle means a closure at a node exactly when a literal bound under it contains the node. -/
theorem exists_findsClosure_iff {c : Node} (hc : c ∈ root.walk) (key : String) :
    (∃ g, (d.findGroups root).FindsClosure key c.start g) ↔
      ∃ L ∈ d.literals key root.walk, c ∈ L.walk := by
  have hreg : (d.findGroups root).Regular := d.regular_tableAfter root.walk
  constructor
  · rintro ⟨g, hg⟩
    obtain ⟨i, s, hi, -⟩ := hreg.findsClosure_iff.mp hg
    obtain ⟨L, -, -, -, -, hin⟩ := isInnermost_of_innermost? hd h hc hi
    exact ⟨L, hin.mem, hin.around⟩
  · rintro ⟨L, hL, hcL⟩
    cases hi : Group.innermost? c.start ((d.findGroups root).closures key) with
    | none =>
        obtain ⟨k, hk, haround⟩ := exists_startAround?_of_mem_literals hd h hc hL hcL
        rw [Group.innermost?_eq_none_iff.mp hi k hk] at haround
        cases haround
    | some q =>
        obtain ⟨L', g, -, hg, -, -⟩ := isInnermost_of_innermost? hd h hc hi
        exact ⟨g, hreg.findsClosure_iff.mpr ⟨q.1, q.2, hi, hg⟩⟩

end moments

end Detector

end RouteAudit
