import Mathlib.Data.List.Basic
import RouteAudit.Routing.Detector

/-! # Steps of a group table

A detector fills its table of groups in steps of two kinds: a `GroupStep` binds a handle to a group
inside another, or appends middleware to the group that a handle means. `Detector.steps` lists the
steps of a node, and `findGroups_eq_run` says that the table of a tree is the run of the steps of
its nodes in turn, whatever the grammar.

What a step does is said once, by field: `closures_bind_of_scoped`, `closures_use_of_closure` and
their companions. A lookup chooses among the closures by their ranges alone (`innermost?_congr`),
and a step changes no range that is there (`map_scope_closures_use`). -/

namespace RouteAudit

open Go (Node Span)

/-! ### The innermost range -/

namespace Group

theorem startAround?_eq_some_iff {g : Group} {p s : ℕ} :
    g.startAround? p = some s ↔ ∃ r, g.scope = some r ∧ r.holds p = true ∧ r.start = s := by
  unfold startAround?
  cases hs : g.scope with
  | none => simp
  | some r => simp

theorem startAround?_congr {g h : Group} (hs : g.scope = h.scope) (p : ℕ) :
    g.startAround? p = h.startAround? p := by
  unfold startAround?
  rw [hs]

theorem innermost?_congr (p : ℕ) : ∀ {gs hs : List Group}, gs.map scope = hs.map scope →
    innermost? p gs = innermost? p hs
  | [], [], _ => rfl
  | [], _ :: _, h => by simp at h
  | _ :: _, [], h => by simp at h
  | g :: gs, k :: hs, h => by
      simp only [List.map_cons, List.cons.injEq] at h
      simp only [innermost?]
      rw [startAround?_congr h.1, innermost?_congr p h.2]

theorem innermost?_eq_none_iff {p : ℕ} {gs : List Group} :
    innermost? p gs = none ↔ ∀ g ∈ gs, g.startAround? p = none := by
  induction gs with
  | nil => simp [innermost?]
  | cons g rest ih =>
      rw [List.forall_mem_cons, ← ih]
      cases hg : g.startAround? p with
      | none => simp [innermost?, hg]
      | some s =>
          cases hr : innermost? p rest with
          | none => simp [innermost?, hg, hr]
          | some q => simp only [innermost?, hg, hr]; split <;> simp

/-- The innermost group is around the position, and no other that is starts after it. -/
theorem innermost?_eq_some {p : ℕ} {gs : List Group} : ∀ {i s : ℕ},
    innermost? p gs = some (i, s) →
      (∃ g, gs[i]? = some g ∧ g.startAround? p = some s) ∧
        ∀ g ∈ gs, ∀ u, g.startAround? p = some u → u ≤ s := by
  induction gs with
  | nil => intro i s h; simp [innermost?] at h
  | cons g rest ih =>
      intro i s h
      cases hg : g.startAround? p with
      | none =>
          simp only [innermost?, hg, Option.map_eq_some_iff] at h
          obtain ⟨⟨j, t⟩, hr, he⟩ := h
          cases he
          obtain ⟨⟨g', hg', ha⟩, hmax⟩ := ih hr
          refine ⟨⟨g', by simpa using hg', ha⟩, ?_⟩
          intro k hk u hu
          rcases List.mem_cons.mp hk with rfl | hk
          · rw [hg] at hu; cases hu
          · exact hmax k hk u hu
      | some t =>
          cases hr : innermost? p rest with
          | none =>
              simp only [innermost?, hg, hr, Option.some.injEq, Prod.mk.injEq] at h
              obtain ⟨rfl, rfl⟩ := h
              refine ⟨⟨g, rfl, hg⟩, ?_⟩
              intro k hk u hu
              rcases List.mem_cons.mp hk with rfl | hk
              · rw [hg] at hu; cases hu; exact Nat.le_refl _
              · rw [innermost?_eq_none_iff.mp hr k hk] at hu; cases hu
          | some q =>
              obtain ⟨j, v⟩ := q
              obtain ⟨⟨g', hg', ha⟩, hmax⟩ := ih hr
              simp only [innermost?, hg, hr] at h
              split at h
              · rename_i hlt
                simp only [Option.some.injEq, Prod.mk.injEq] at h
                obtain ⟨rfl, rfl⟩ := h
                refine ⟨⟨g', by simpa using hg', ha⟩, ?_⟩
                intro k hk u hu
                rcases List.mem_cons.mp hk with rfl | hk
                · rw [hg] at hu; cases hu; omega
                · exact hmax k hk u hu
              · rename_i hge
                simp only [Option.some.injEq, Prod.mk.injEq] at h
                obtain ⟨rfl, rfl⟩ := h
                refine ⟨⟨g, rfl, hg⟩, ?_⟩
                intro k hk u hu
                rcases List.mem_cons.mp hk with rfl | hk
                · rw [hg] at hu; cases hu; exact Nat.le_refl _
                · have := hmax k hk u hu; omega

theorem innermost?_append {p : ℕ} (gs : List Group) {hs : List Group}
    (h : ∀ g ∈ hs, g.startAround? p = none) : innermost? p (gs ++ hs) = innermost? p gs := by
  induction gs with
  | nil => rw [List.nil_append, innermost?_eq_none_iff.mpr h, innermost?]
  | cons g rest ih => rw [List.cons_append, innermost?, ih, innermost?]

end Group

/-! ### Fields of a table after a step -/

namespace GroupTable

variable (t : GroupTable)

theorem closures_bind_of_named {key : String} {g : Group} (h : g.scope = none) (k : String) :
    (t.bind key g).closures k = t.closures k := by
  simp [bind, h, closures]

theorem byName_bind_of_named {key : String} {g : Group} (h : g.scope = none) :
    (t.bind key g).byName = Assoc.set key g t.byName := by
  simp [bind, h]

theorem byName_bind_of_scoped {key : String} {g : Group} {s : Span} (h : g.scope = some s) :
    (t.bind key g).byName = t.byName := by
  simp [bind, h]

theorem closures_bind_of_scoped {key : String} {g : Group} {s : Span} (h : g.scope = some s)
    (k : String) :
    (t.bind key g).closures k = if k = key then t.closures k ++ [g] else t.closures k := by
  simp only [bind, h, closures]
  split
  · rename_i hk
    subst hk
    rw [Assoc.lookup_update_same]
    rfl
  · rename_i hk
    rw [Assoc.lookup_update_ne _ _ hk]

theorem closures_use_of_closure {key : String} {p i s : ℕ} (refs : List Middleware)
    (h : Group.innermost? p (t.closures key) = some (i, s)) (k : String) :
    (t.use key p refs).closures k =
      if k = key then (t.closures k).modify i (·.use refs) else t.closures k := by
  simp only [use, h]
  by_cases hk : k = key
  · subst hk
    rw [if_pos rfl, closures, Assoc.lookup_update_same]
    rfl
  · rw [if_neg hk, closures, Assoc.lookup_update_ne _ _ hk, closures]

theorem closures_use_of_named {key : String} {p : ℕ} (refs : List Middleware)
    (h : Group.innermost? p (t.closures key) = none) (k : String) :
    (t.use key p refs).closures k = t.closures k := by
  simp only [use, h]
  rfl

theorem byName_use_of_closure {key : String} {p i s : ℕ} (refs : List Middleware)
    (h : Group.innermost? p (t.closures key) = some (i, s)) :
    (t.use key p refs).byName = t.byName := by
  simp [use, h]

theorem byName_use_of_named {key : String} {p : ℕ} (refs : List Middleware)
    (h : Group.innermost? p (t.closures key) = none) :
    (t.use key p refs).byName =
      Assoc.update key (fun g => (g.getD {}).use refs) t.byName := by
  simp [use, h]

theorem map_scope_modify (gs : List Group) (i : ℕ) (refs : List Middleware) :
    (gs.modify i (·.use refs)).map Group.scope = gs.map Group.scope := by
  refine List.ext_getElem? fun j => ?_
  rw [List.getElem?_map, List.getElem?_map, List.getElem?_modify]
  cases gs[j]? with
  | none => rfl
  | some g => by_cases h : i = j <;> simp [h, Group.use]

theorem map_scope_closures_use (key : String) (p : ℕ) (refs : List Middleware) (k : String) :
    ((t.use key p refs).closures k).map Group.scope = (t.closures k).map Group.scope := by
  cases h : Group.innermost? p (t.closures key) with
  | none => rw [t.closures_use_of_named refs h]
  | some q =>
      rw [t.closures_use_of_closure refs h]
      split
      · exact map_scope_modify _ _ _
      · rfl

/-! ### Lookups -/

theorem lookup_of_closure {k : String} {p i s : ℕ}
    (h : Group.innermost? p (t.closures k) = some (i, s)) :
    t.lookup k p = (t.closures k)[i]? := by
  simp [lookup, h]

theorem lookup_of_named {k : String} {p : ℕ}
    (h : Group.innermost? p (t.closures k) = none) : t.lookup k p = t.byName.lookup k := by
  simp [lookup, h]

end GroupTable

/-! ### Steps -/

@[simp] theorem Group.scope_nested (parent : Option Group) (inner : String)
    (refs : List Middleware) (scope : Option Span) :
    (Group.nested parent inner refs scope).scope = scope := by cases parent <;> rfl

theorem Group.nested_eq (parent : Option Group) (inner : String) (refs : List Middleware)
    (scope : Option Span) :
    nested parent inner refs scope =
      ⟨joinPrefix (parent.getD {}).pathPrefix inner, (parent.getD {}).middleware ++ refs,
        scope⟩ := by
  cases parent with
  | none => rw [Option.getD_none, joinPrefix_empty_left, List.nil_append]; rfl
  | some g => rfl

/-- One change of a table. -/
inductive GroupStep where
  /-- Bind a handle to a group inside the one that a parent means, or to a group by itself. -/
  | bind (key : String) (parent : Option String) (position : ℕ) (inner : String)
      (refs : List Middleware) (scope : Option Span)
  /-- Append middleware to the group that a handle means. -/
  | use (key : String) (position : ℕ) (refs : List Middleware)
deriving DecidableEq

/-- The handle whose group the step changes. -/
def GroupStep.handle : GroupStep → String
  | bind key .. => key
  | use key .. => key

/-- The table after a step. -/
def GroupStep.apply (t : GroupTable) : GroupStep → GroupTable
  | bind key parent position inner refs scope =>
    t.bind key (Group.nested (parent.bind (t.lookup · position)) inner refs scope)
  | use key position refs => t.use key position refs

/-- The table after steps in turn. -/
def GroupTable.run (t : GroupTable) (ss : List GroupStep) : GroupTable := ss.foldl GroupStep.apply t

namespace GroupTable

@[simp] theorem run_nil (t : GroupTable) : t.run [] = t := rfl

@[simp] theorem run_cons (t : GroupTable) (s : GroupStep) (ss : List GroupStep) :
    t.run (s :: ss) = (s.apply t).run ss := rfl

theorem run_append (t : GroupTable) (ss us : List GroupStep) :
    t.run (ss ++ us) = (t.run ss).run us := List.foldl_append

theorem lookup_congr {t t' : GroupTable} {k : String} (hclosures : t.closures k = t'.closures k)
    (hnamed : t.byName.lookup k = t'.byName.lookup k) (p : ℕ) : t.lookup k p = t'.lookup k p := by
  unfold lookup
  rw [hclosures, hnamed]

theorem lookup_apply_of_ne {s : GroupStep} {k : String} (h : k ≠ s.handle) (t : GroupTable)
    (p : ℕ) : (s.apply t).lookup k p = t.lookup k p := by
  cases s with
  | bind key parent position inner refs scope =>
      replace h : k ≠ key := h
      cases scope with
      | none =>
          refine lookup_congr ?_ ?_ p
          · rw [GroupStep.apply, t.closures_bind_of_named (Group.scope_nested ..)]
          · rw [GroupStep.apply, t.byName_bind_of_named (Group.scope_nested ..),
              Assoc.lookup_set_ne _ _ h]
      | some r =>
          refine lookup_congr ?_ ?_ p
          · rw [GroupStep.apply, t.closures_bind_of_scoped (Group.scope_nested ..), if_neg h]
          · rw [GroupStep.apply, t.byName_bind_of_scoped (Group.scope_nested ..)]
  | use key position refs =>
      replace h : k ≠ key := h
      cases hi : Group.innermost? position (t.closures key) with
      | none =>
          refine lookup_congr ?_ ?_ p
          · rw [GroupStep.apply, t.closures_use_of_named refs hi]
          · rw [GroupStep.apply, t.byName_use_of_named refs hi, Assoc.lookup_update_ne _ _ h]
      | some q =>
          refine lookup_congr ?_ ?_ p
          · rw [GroupStep.apply, t.closures_use_of_closure refs hi, if_neg h]
          · rw [GroupStep.apply, t.byName_use_of_closure refs hi]

theorem lookup_run_of_ne {ss : List GroupStep} {k : String} (h : ∀ s ∈ ss, k ≠ s.handle)
    (t : GroupTable) (p : ℕ) : (t.run ss).lookup k p = t.lookup k p := by
  induction ss generalizing t with
  | nil => rfl
  | cons s rest ih =>
      rw [List.forall_mem_cons] at h
      rw [run_cons, ih h.2, lookup_apply_of_ne h.1]

/-- Named groups have no range and closures have one. -/
structure Regular (t : GroupTable) : Prop where
  named : ∀ k g, t.byName.lookup k = some g → g.scope = none
  ranged : ∀ k, ∀ g ∈ t.closures k, g.scope ≠ none

theorem regular_empty : Regular {} where
  named k g h := by cases h
  ranged k g h := by cases h

theorem Regular.bind {t : GroupTable} (h : t.Regular) (key : String) (g : Group) :
    (t.bind key g).Regular := by
  cases hs : g.scope with
  | none =>
      refine ⟨fun k g' hk => ?_, fun k g' hk => ?_⟩
      · rw [t.byName_bind_of_named hs] at hk
        by_cases he : k = key
        · subst he
          rw [Assoc.lookup_set_same] at hk
          cases hk
          exact hs
        · rw [Assoc.lookup_set_ne _ _ he] at hk
          exact h.named k g' hk
      · rw [t.closures_bind_of_named hs] at hk
        exact h.ranged k g' hk
  | some s =>
      refine ⟨fun k g' hk => ?_, fun k g' hk => ?_⟩
      · rw [t.byName_bind_of_scoped hs] at hk
        exact h.named k g' hk
      · rw [t.closures_bind_of_scoped hs] at hk
        split at hk
        · rcases List.mem_append.mp hk with hk | hk
          · exact h.ranged k g' hk
          · rw [List.mem_singleton.mp hk, hs]
            simp
        · exact h.ranged k g' hk

theorem Regular.use {t : GroupTable} (h : t.Regular) (key : String) (p : ℕ)
    (refs : List Middleware) : (t.use key p refs).Regular := by
  refine ⟨fun k g hk => ?_, fun k g hk => ?_⟩
  · cases hi : Group.innermost? p (t.closures key) with
    | some q =>
        rw [t.byName_use_of_closure refs hi] at hk
        exact h.named k g hk
    | none =>
        rw [t.byName_use_of_named refs hi] at hk
        by_cases he : k = key
        · subst he
          rw [Assoc.lookup_update_same] at hk
          cases hk
          cases hn : t.byName.lookup k with
          | none => rfl
          | some g' => exact h.named k g' hn
        · rw [Assoc.lookup_update_ne _ _ he] at hk
          exact h.named k g hk
  · have hmem : g.scope ∈ ((t.use key p refs).closures k).map Group.scope :=
      List.mem_map_of_mem hk
    rw [map_scope_closures_use] at hmem
    obtain ⟨g', hg', he⟩ := List.mem_map.mp hmem
    rw [← he]
    exact h.ranged k g' hg'

theorem Regular.run {t : GroupTable} (h : t.Regular) (ss : List GroupStep) :
    (t.run ss).Regular := by
  induction ss generalizing t with
  | nil => exact h
  | cons s rest ih =>
      refine ih ?_
      cases s with
      | bind key parent position inner refs scope => exact h.bind key _
      | use key position refs => exact h.use key position refs

end GroupTable

/-! ### Groups grow -/

/-- The group is the other one with more middleware. -/
structure Group.Extends (g g' : Group) : Prop where
  pathPrefix : g'.pathPrefix = g.pathPrefix
  scope : g'.scope = g.scope
  middleware : g.middleware <+: g'.middleware

namespace Group.Extends

theorem refl (g : Group) : g.Extends g := ⟨rfl, rfl, List.prefix_rfl⟩

theorem trans {f g h : Group} (hfg : f.Extends g) (hgh : g.Extends h) : f.Extends h :=
  ⟨hgh.pathPrefix.trans hfg.pathPrefix, hgh.scope.trans hfg.scope,
    hfg.middleware.trans hgh.middleware⟩

theorem use (g : Group) (refs : List Middleware) : g.Extends (g.use refs) :=
  ⟨rfl, rfl, List.prefix_append _ _⟩

end Group.Extends

namespace GroupTable

/-- A closure keeps its place, and a step can only extend it. -/
theorem closures_apply {t : GroupTable} {k : String} {i : ℕ} {g : Group}
    (h : (t.closures k)[i]? = some g) (s : GroupStep) :
    ∃ g', ((s.apply t).closures k)[i]? = some g' ∧ g.Extends g' := by
  have hlt : i < (t.closures k).length := (List.getElem?_eq_some_iff.mp h).1
  cases s with
  | bind key parent position inner refs scope =>
      refine ⟨g, ?_, .refl g⟩
      cases scope with
      | none => rw [GroupStep.apply, t.closures_bind_of_named (Group.scope_nested ..), h]
      | some r =>
          rw [GroupStep.apply, t.closures_bind_of_scoped (Group.scope_nested ..)]
          split
          · rw [List.getElem?_append_left hlt, h]
          · exact h
  | use key position refs =>
      rw [GroupStep.apply]
      cases hi : Group.innermost? position (t.closures key) with
      | none => exact ⟨g, by rw [t.closures_use_of_named refs hi, h], .refl g⟩
      | some q =>
          rw [t.closures_use_of_closure refs hi]
          split
          · rw [List.getElem?_modify, h]
            by_cases hq : q.1 = i
            · exact ⟨g.use refs, by simp [hq], .use g refs⟩
            · exact ⟨g, by simp [hq], .refl g⟩
          · exact ⟨g, h, .refl g⟩

theorem closures_run {t : GroupTable} {k : String} {i : ℕ} {g : Group}
    (h : (t.closures k)[i]? = some g) (ss : List GroupStep) :
    ∃ g', ((t.run ss).closures k)[i]? = some g' ∧ g.Extends g' := by
  induction ss generalizing t g with
  | nil => exact ⟨g, h, .refl g⟩
  | cons s rest ih =>
      obtain ⟨g₁, h₁, hext₁⟩ := closures_apply h s
      obtain ⟨g₂, h₂, hext₂⟩ := ih h₁
      exact ⟨g₂, h₂, hext₁.trans hext₂⟩

end GroupTable

namespace Detector

variable (d : Detector)

/-- The step of an assignment whose value opens a group. A handle that is assigned from itself has
no parent. -/
def assignedStep? (target value : Node) : Option GroupStep :=
  if value.kind = .call then
    match value.methodCall? with
    | some (receiver, method) =>
      let key := target.dottedName
      if d.grammar.groupMethods.contains method && !key.isEmpty && key != "_" then
        let inner := match value.callArguments with
          | [] => ""
          | first :: _ => first.stringOrEmpty
        let parent := if receiver.dottedName = key then none else some receiver.dottedName
        some (.bind key parent value.start inner (middlewareList (value.callArguments.drop 1)) none)
      else none
    | none => none
  else none

/-- The function literal at the end of a call's arguments, with the parameter that names it. -/
def namedLiteral? (call : Node) : Option (String × Node) :=
  match call.callArguments.getLast? with
  | some body =>
    if body.kind = .funcLiteral ∧ (!body.parameterName.isEmpty && body.parameterName != "_") = true
    then some (body.parameterName, body) else none
  | none => none

/-- The step of a call that opens a group with a function literal. -/
def closureStep? (call receiver : Node) : Option GroupStep :=
  match namedLiteral? call with
  | some (key, body) =>
    let inner := match call.callArguments with
      | first :: _ :: _ => first.stringOrEmpty
      | _ => ""
    some (.bind key (some receiver.dottedName) call.start inner [] (some body.span))
  | none => none

/-- The step of a call of a method. -/
def callStep? (call : Node) : Option GroupStep :=
  match call.methodCall? with
  | some (receiver, method) =>
    if d.grammar.groupBinding = .closure ∧ d.grammar.groupMethods.contains method then
      closureStep? call receiver
    else if d.grammar.useMethods.contains method then
      let key := receiver.dottedName
      if key.isEmpty then none
      else some (.use key call.start (middlewareList call.callArguments))
    else none
  | none => none

/-- The steps of a node. -/
def steps (n : Node) : List GroupStep :=
  if d.grammar.groupBinding = .assignment ∧ isAssignment n then
    n.assignments.filterMap fun p => d.assignedStep? p.1 p.2
  else if n.kind = .call then (d.callStep? n).toList
  else []

theorem bindAssigned_eq_run (t : GroupTable) (target value : Node) :
    d.bindAssigned t target value = t.run (d.assignedStep? target value).toList := by
  unfold bindAssigned assignedStep?
  by_cases hcall : value.kind = .call
  · rw [if_pos hcall, if_pos hcall]
    cases value.methodCall? with
    | none => rfl
    | some q =>
        obtain ⟨receiver, method⟩ := q
        dsimp only
        split
        · by_cases h : receiver.dottedName = target.dottedName
          · rw [if_pos h, if_pos h]
            rfl
          · rw [if_neg h, if_neg h]
            rfl
        · rfl
  · rw [if_neg hcall, if_neg hcall]
    rfl

theorem bindClosure_eq_run (t : GroupTable) (call receiver : Node) :
    bindClosure t call receiver = t.run (closureStep? call receiver).toList := by
  unfold bindClosure closureStep? namedLiteral?
  dsimp only
  cases call.callArguments.getLast? with
  | none => rfl
  | some body =>
      dsimp only
      by_cases hk : body.kind = .funcLiteral
      · by_cases hn : (!body.parameterName.isEmpty && body.parameterName != "_") = true
        · rw [if_pos hk, if_pos hn, if_pos ⟨hk, hn⟩]
          rfl
        · rw [if_pos hk, if_neg hn, if_neg fun h => hn h.2]
          rfl
      · rw [if_neg hk, if_neg fun h => hk h.1]
        rfl

theorem noteCall_eq_run (t : GroupTable) (call : Node) :
    d.noteCall t call = t.run (d.callStep? call).toList := by
  unfold noteCall callStep?
  cases call.methodCall? with
  | none => rfl
  | some q =>
      obtain ⟨receiver, method⟩ := q
      dsimp only
      split
      · exact bindClosure_eq_run t call receiver
      · split
        · split <;> rfl
        · rfl

/-- A node changes the table by its steps. -/
theorem noteNode_eq_run (t : GroupTable) (n : Node) : d.noteNode t n = t.run (d.steps n) := by
  unfold noteNode steps
  split
  · generalize n.assignments = ps
    induction ps generalizing t with
    | nil => rfl
    | cons p rest ih =>
        rw [List.foldl_cons, ih, bindAssigned_eq_run, ← GroupTable.run_append]
        cases h : d.assignedStep? p.1 p.2 with
        | none => simp only [List.filterMap_cons, h, Option.toList_none, List.nil_append]
        | some s => simp only [List.filterMap_cons, h, Option.toList_some, List.singleton_append]
  · split
    · exact d.noteCall_eq_run t n
    · rfl

theorem foldl_noteNode_eq_run (t : GroupTable) (ns : List Node) :
    ns.foldl d.noteNode t = t.run (ns.flatMap d.steps) := by
  induction ns generalizing t with
  | nil => rfl
  | cons n rest ih =>
      rw [List.foldl_cons, ih, noteNode_eq_run, List.flatMap_cons, GroupTable.run_append]

/-- The table of a tree is the run of the steps of its nodes. -/
theorem findGroups_eq_run (root : Node) :
    d.findGroups root = GroupTable.run {} (root.walk.flatMap d.steps) :=
  d.foldl_noteNode_eq_run {} root.walk

end Detector

end RouteAudit
