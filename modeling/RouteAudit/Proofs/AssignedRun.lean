import Mathlib.Data.List.Basic
import RouteAudit.Proofs.GroupTable

/-! # Runs of assignments

Where groups are assigned to variables, a handle is opened from another one, and
`v1 := api.Group("/v1")` takes what `api` has at that moment. No closure is bound then, and a handle
means the same at every position (`Unscoped.lookup_eq`).

A run is `Orderly` when no handle is bound twice and none is read before it is bound. In an orderly
run a handle has what its parent had when it was opened, what it was opened with, and what the run
appends to it (`Orderly.lookup_of_bound`); one that no step binds has what is appended to it alone
(`Orderly.getD_lookup_of_unbound`). -/

namespace RouteAudit

open Go (Node)

/-! ### What a step binds and reads -/

namespace GroupStep

/-- The handle that the step binds. -/
def bound? : GroupStep → Option String
  | bind key .. => some key
  | use .. => none

/-- The handle whose group the step starts from. -/
def read? : GroupStep → Option String
  | bind _ parent .. => parent
  | use key .. => some key

/-- The middleware that the step appends to a handle. -/
def usedOn (x : String) : GroupStep → List Middleware
  | bind .. => []
  | use key _ refs => if key = x then refs else []

/-- A handle assigned from another one, or middleware on a handle. -/
inductive Assigned : GroupStep → Prop
  | bind {key parent : String} (position : ℕ) (inner : String) (refs : List Middleware)
      (h : parent ≠ key) : Assigned (.bind key (some parent) position inner refs none)
  | use (key : String) (position : ℕ) (refs : List Middleware) : Assigned (.use key position refs)

instance : DecidablePred Assigned
  | .bind key (some parent) position inner refs none =>
    if h : parent = key then .isFalse fun hs => by cases hs with | bind _ _ _ hne => exact hne h
    else .isTrue (.bind position inner refs h)
  | .bind _ (some _) _ _ _ (some _) => .isFalse nofun
  | .bind _ none _ _ _ _ => .isFalse nofun
  | .use key position refs => .isTrue (.use key position refs)

theorem Assigned.read?_ne {s : GroupStep} (h : s.Assigned) {x : String} (hs : s.bound? = some x) :
    s.read? ≠ some x := by
  cases h with
  | bind position inner refs hne =>
      cases hs
      exact fun he => hne (Option.some.inj he)
  | use key position refs => cases hs

/-- What becomes of the group of a handle that the step does not bind. -/
def noted (x : String) (o : Option Group) : GroupStep → Option Group
  | bind .. => o
  | use key _ refs => if key = x then some ((o.getD {}).use refs) else o

end GroupStep

/-- The middleware that steps append to a handle, in turn. -/
def usesOf (x : String) (ss : List GroupStep) : List Middleware := ss.flatMap (·.usedOn x)

theorem usesOf_append (x : String) (ss us : List GroupStep) :
    usesOf x (ss ++ us) = usesOf x ss ++ usesOf x us := List.flatMap_append

theorem usesOf_cons (x : String) (s : GroupStep) (ss : List GroupStep) :
    usesOf x (s :: ss) = s.usedOn x ++ usesOf x ss := List.flatMap_cons

theorem usesOf_eq_nil {x : String} {ss : List GroupStep} (h : ∀ s ∈ ss, s.read? ≠ some x) :
    usesOf x ss = [] := by
  refine List.flatMap_eq_nil_iff.mpr fun s hs => ?_
  cases s with
  | bind key parent position inner refs scope => rfl
  | use key position refs =>
      have hne : key ≠ x := fun he => h _ hs (congrArg some he)
      rw [GroupStep.usedOn, if_neg hne]

namespace Detector

variable (d : Detector)

theorem assigned_of_assignedStep? {target value : Node} {s : GroupStep}
    (h : d.assignedStep? target value = some s) (hread : s.read? ≠ none) : s.Assigned := by
  unfold assignedStep? at h
  split at h
  · cases hcall : value.methodCall? with
    | none => rw [hcall] at h; cases h
    | some q =>
        obtain ⟨receiver, method⟩ := q
        rw [hcall] at h
        dsimp only at h
        rw [Option.ite_none_right_eq_some] at h
        obtain ⟨-, h⟩ := h
        cases h
        by_cases hself : receiver.dottedName = target.dottedName
        · exact absurd (if_pos hself) hread
        · rw [if_neg hself]
          exact .bind _ _ _ hself
  · cases h

theorem assigned_of_callStep? (hd : d.grammar.groupBinding = .assignment) {call : Node}
    {s : GroupStep} (h : d.callStep? call = some s) : s.Assigned := by
  unfold callStep? at h
  split at h
  · rw [if_neg fun hc => by rw [hd] at hc; cases hc.1] at h
    split at h
    · dsimp only at h
      split at h
      · cases h
      · cases h
        exact .use _ _ _
    · cases h
  · cases h

theorem assigned_of_mem_steps (hd : d.grammar.groupBinding = .assignment) {n : Node} {s : GroupStep}
    (h : s ∈ d.steps n) (hread : s.read? ≠ none) : s.Assigned := by
  unfold steps at h
  split at h
  · obtain ⟨p, -, hp⟩ := List.mem_filterMap.mp h
    exact d.assigned_of_assignedStep? hp hread
  · split at h
    · exact d.assigned_of_callStep? hd (Option.mem_toList.mp h)
    · cases h

end Detector

/-! ### Tables without closures -/

namespace Group

theorem use_nil (g : Group) : g.use [] = g := by
  rw [use, List.append_nil]

theorem use_use (g : Group) (refs later : List Middleware) :
    (g.use refs).use later = g.use (refs ++ later) := by
  simp only [use, List.append_assoc]

end Group

namespace GroupTable

/-- No closure is bound. -/
def Unscoped (t : GroupTable) : Prop := ∀ k, t.closures k = []

theorem unscoped_empty : Unscoped {} := fun _ => rfl

variable {t : GroupTable}

theorem Unscoped.innermost? (h : t.Unscoped) (k : String) (p : ℕ) :
    Group.innermost? p (t.closures k) = none := by
  rw [h k, Group.innermost?]

theorem Unscoped.lookup_eq (h : t.Unscoped) (k : String) (p : ℕ) :
    t.lookup k p = t.byName.lookup k := t.lookup_of_named (h.innermost? k p)

theorem Unscoped.apply (h : t.Unscoped) {s : GroupStep} (hs : s.Assigned) :
    (s.apply t).Unscoped := by
  intro k
  cases hs with
  | bind position inner refs hne =>
      rw [GroupStep.apply, t.closures_bind_of_named (Group.scope_nested ..), h k]
  | use key position refs =>
      rw [GroupStep.apply, t.closures_use_of_named refs (h.innermost? key position), h k]

theorem Unscoped.run (h : t.Unscoped) {ss : List GroupStep} (hs : ∀ s ∈ ss, s.Assigned) :
    (t.run ss).Unscoped := by
  induction ss generalizing t with
  | nil => exact h
  | cons s rest ih =>
      rw [List.forall_mem_cons] at hs
      exact ih (h.apply hs.1) hs.2

/-! ### One handle along a run -/

theorem Unscoped.lookup_bind (h : t.Unscoped) (key parent : String) (position : ℕ) (inner : String)
    (refs : List Middleware) :
    ((GroupStep.bind key (some parent) position inner refs none).apply t).byName.lookup key =
      some ⟨joinPrefix ((t.byName.lookup parent).getD {}).pathPrefix inner,
        ((t.byName.lookup parent).getD {}).middleware ++ refs, none⟩ := by
  rw [GroupStep.apply, t.byName_bind_of_named (Group.scope_nested ..), Assoc.lookup_set_same,
    Group.nested_eq, Option.bind_some, h.lookup_eq]

theorem Unscoped.lookup_apply (h : t.Unscoped) {s : GroupStep} (hs : s.Assigned) {x : String}
    (hx : s.bound? ≠ some x) :
    (s.apply t).byName.lookup x = s.noted x (t.byName.lookup x) := by
  cases hs with
  | @bind key parent position inner refs hne =>
      have hxk : x ≠ key := fun he => hx (congrArg some he.symm)
      rw [GroupStep.apply, t.byName_bind_of_named (Group.scope_nested ..),
        Assoc.lookup_set_ne _ _ hxk, GroupStep.noted]
  | use key position refs =>
      rw [GroupStep.apply, t.byName_use_of_named refs (h.innermost? key position), GroupStep.noted]
      by_cases hk : key = x
      · rw [if_pos hk, hk, Assoc.lookup_update_same]
      · rw [if_neg hk, Assoc.lookup_update_ne _ _ (Ne.symm hk)]

/-- A handle that no step binds changes by the steps that append to it and by no other. -/
theorem Unscoped.lookup_run (h : t.Unscoped) {ss : List GroupStep} (hs : ∀ s ∈ ss, s.Assigned)
    {x : String} (hx : ∀ s ∈ ss, s.bound? ≠ some x) :
    (t.run ss).byName.lookup x = ss.foldl (fun o s => s.noted x o) (t.byName.lookup x) := by
  induction ss generalizing t with
  | nil => rfl
  | cons s rest ih =>
      rw [List.forall_mem_cons] at hs hx
      rw [run_cons, ih (h.apply hs.1) hs.2 hx.2, h.lookup_apply hs.1 hx.1, List.foldl_cons]

end GroupTable

namespace GroupStep

theorem noted_some (x : String) (g : Group) (s : GroupStep) :
    s.noted x (some g) = some (g.use (s.usedOn x)) := by
  cases s with
  | bind key parent position inner refs scope => exact congrArg some g.use_nil.symm
  | use key position refs =>
      rw [noted, usedOn]
      split
      · rfl
      · rw [g.use_nil]

theorem getD_noted (x : String) (o : Option Group) (s : GroupStep) :
    (s.noted x o).getD {} = (o.getD {}).use (s.usedOn x) := by
  cases o with
  | some g => rw [noted_some, Option.getD_some, Option.getD_some]
  | none =>
      cases s with
      | bind key parent position inner refs scope => exact (Group.use_nil _).symm
      | use key position refs =>
          rw [noted, usedOn]
          split
          · rfl
          · rw [Group.use_nil]

theorem foldl_noted_some (x : String) (g : Group) (ss : List GroupStep) :
    ss.foldl (fun o s => s.noted x o) (some g) = some (g.use (usesOf x ss)) := by
  induction ss generalizing g with
  | nil => exact congrArg some g.use_nil.symm
  | cons s rest ih => rw [List.foldl_cons, noted_some, ih, Group.use_use, usesOf_cons]

theorem getD_foldl_noted (x : String) (o : Option Group) (ss : List GroupStep) :
    (ss.foldl (fun o s => s.noted x o) o).getD {} = (o.getD {}).use (usesOf x ss) := by
  induction ss generalizing o with
  | nil => exact (Group.use_nil _).symm
  | cons s rest ih => rw [List.foldl_cons, ih, getD_noted, Group.use_use, usesOf_cons]

end GroupStep

/-! ### Orderly runs -/

/-- Handles are assigned from others, each at most once and before it is read. -/
structure Orderly (ss : List GroupStep) : Prop where
  assigned : ∀ s ∈ ss, s.Assigned
  once : ss.Pairwise fun s s' => ∀ x ∈ s.bound?, s'.bound? ≠ some x
  before : ss.Pairwise fun s s' => ∀ x ∈ s.read?, s'.bound? ≠ some x

instance (ss : List GroupStep) : Decidable (Orderly ss) :=
  decidable_of_iff
    ((∀ s ∈ ss, s.Assigned) ∧ (ss.Pairwise fun s s' => ∀ x ∈ s.bound?, s'.bound? ≠ some x) ∧
      ss.Pairwise fun s s' => ∀ x ∈ s.read?, s'.bound? ≠ some x)
    ⟨fun h => ⟨h.1, h.2.1, h.2.2⟩, fun h => ⟨h.assigned, h.once, h.before⟩⟩

theorem pairwise_replace {α : Type} {R : α → α → Prop} {pre post : List α} {a b : α}
    (h : (pre ++ a :: post).Pairwise R) (hleft : ∀ s, R s b) (hright : ∀ s, R a s → R b s) :
    (pre ++ b :: post).Pairwise R := by
  rw [List.pairwise_append, List.pairwise_cons] at h ⊢
  obtain ⟨hpre, ⟨ha, hpost⟩, hcross⟩ := h
  refine ⟨hpre, ⟨fun s hs => hright s (ha s hs), hpost⟩, fun s hs s' hs' => ?_⟩
  rcases List.mem_cons.mp hs' with rfl | hs'
  · exact hleft s
  · exact hcross s hs s' (List.mem_cons_of_mem _ hs')

namespace Orderly

variable {ss : List GroupStep} {i j : ℕ} {s s' : GroupStep} {x : String}

theorem eq_of_bound (h : Orderly ss) (hi : ss[i]? = some s) (hj : ss[j]? = some s')
    (hs : s.bound? = some x) (hs' : s'.bound? = some x) : i = j := by
  obtain ⟨hilt, rfl⟩ := List.getElem?_eq_some_iff.mp hi
  obtain ⟨hjlt, rfl⟩ := List.getElem?_eq_some_iff.mp hj
  rcases Nat.lt_trichotomy i j with hlt | heq | hgt
  · exact absurd hs' (List.pairwise_iff_getElem.mp h.once i j hilt hjlt hlt x hs)
  · exact heq
  · exact absurd hs (List.pairwise_iff_getElem.mp h.once j i hjlt hilt hgt x hs')

theorem lt_of_read (h : Orderly ss) (hi : ss[i]? = some s) (hj : ss[j]? = some s')
    (hs : s.bound? = some x) (hs' : s'.read? = some x) : i < j := by
  have hne := (h.assigned s (List.mem_of_getElem? hi)).read?_ne hs
  obtain ⟨hilt, rfl⟩ := List.getElem?_eq_some_iff.mp hi
  obtain ⟨hjlt, rfl⟩ := List.getElem?_eq_some_iff.mp hj
  rcases Nat.lt_trichotomy i j with hlt | heq | hgt
  · exact hlt
  · subst heq
    exact absurd hs' hne
  · exact absurd hs (List.pairwise_iff_getElem.mp h.before j i hjlt hilt hgt x hs')

theorem replace_use {pre post : List GroupStep} {y : String} {position : ℕ}
    {refs : List Middleware} (h : Orderly (pre ++ .use y position refs :: post))
    (refs' : List Middleware) : Orderly (pre ++ .use y position refs' :: post) := by
  refine ⟨fun s hs => ?_, pairwise_replace h.once ?_ fun _ hR => hR,
    pairwise_replace h.before ?_ fun _ hR => hR⟩
  · rcases List.mem_append.mp hs with hs | hs
    · exact h.assigned s (List.mem_append_left _ hs)
    · rcases List.mem_cons.mp hs with rfl | hs
      · exact .use y position refs'
      · exact h.assigned s (List.mem_append_right _ (List.mem_cons_of_mem _ hs))
  · exact fun s x _ hbound => by cases hbound
  · exact fun s x _ hbound => by cases hbound

theorem take (h : Orderly ss) (k : ℕ) : Orderly (ss.take k) where
  assigned s hs := h.assigned s (List.mem_of_mem_take hs)
  once := h.once.sublist (List.take_sublist k ss)
  before := h.before.sublist (List.take_sublist k ss)

theorem unscoped_run (h : Orderly ss) : (GroupTable.run {} ss).Unscoped :=
  GroupTable.unscoped_empty.run h.assigned

/-- A handle that no step binds has the middleware appended to it, and nothing else. -/
theorem getD_lookup_of_unbound (h : Orderly ss) (hx : ∀ s ∈ ss, s.bound? ≠ some x) :
    ((GroupTable.run {} ss).byName.lookup x).getD {} = ⟨"", usesOf x ss, none⟩ := by
  rw [GroupTable.unscoped_empty.lookup_run h.assigned hx, GroupStep.getD_foldl_noted]
  rfl

/-- A handle has what its parent had when it was opened, what it was opened with, and what the run
appends to it. -/
theorem lookup_of_bound {pre post : List GroupStep} {y : String} {position : ℕ} {inner : String}
    {refs : List Middleware} {g : Group}
    (h : Orderly (pre ++ .bind x (some y) position inner refs none :: post))
    (hg : ((GroupTable.run {} pre).byName.lookup y).getD {} = g) :
    (GroupTable.run {} (pre ++ .bind x (some y) position inner refs none :: post)).byName.lookup x =
      some ⟨joinPrefix g.pathPrefix inner, g.middleware ++ (refs ++
        usesOf x (pre ++ .bind x (some y) position inner refs none :: post)), none⟩ := by
  have honce := (List.pairwise_cons.mp (List.pairwise_append.mp h.once).2.1).1
  have hbefore := (List.pairwise_append.mp h.before).2.2
  have hpost : ∀ s ∈ post, s.bound? ≠ some x := fun s hs => honce s hs x rfl
  -- nothing is appended to the handle before it is there
  have hpre : usesOf x pre = [] :=
    usesOf_eq_nil fun s hs hread => hbefore s hs _ (List.mem_cons_self ..) x hread rfl
  have hunscoped : (GroupTable.run {} pre).Unscoped :=
    GroupTable.unscoped_empty.run fun s hs => h.assigned s (List.mem_append_left _ hs)
  have hbind := h.assigned _ (List.mem_append_right pre (List.mem_cons_self ..))
  have hrest : ∀ s ∈ post, s.Assigned := fun s hs =>
    h.assigned s (List.mem_append_right _ (List.mem_cons_of_mem _ hs))
  rw [GroupTable.run_append, GroupTable.run_cons, (hunscoped.apply hbind).lookup_run hrest hpost,
    hunscoped.lookup_bind, hg, GroupStep.foldl_noted_some, usesOf_append, hpre, usesOf_cons]
  simp only [Group.use, GroupStep.usedOn, List.nil_append, List.append_assoc]

end Orderly

end RouteAudit
