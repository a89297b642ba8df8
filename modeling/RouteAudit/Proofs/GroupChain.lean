import RouteAudit.Proofs.AssignedRun

/-! # Chains of handles

A `HandleChain` follows a handle back, parent by parent, to one that no step binds.
`HandleChain.lookup_last` gives the group of its last handle in closed form, from the steps alone:
the prefixes of the chain joined, and for each handle the middleware it was opened with and what was
appended to it before the next one was opened.

What a run appends elsewhere does not reach the handle (`HandleChain.lookup_last_replace`): its
group is the same whatever that middleware is. -/

namespace RouteAudit

open Go (Node)

/-! ### Chains -/

/-- A handle with its line of parents: no step binds the first, and each next one is opened from the
one before. -/
structure HandleChain (ss : List GroupStep) where
  length : ℕ
  handle : ℕ → String
  /-- Where in the run the handle is opened. -/
  opened : ℕ → ℕ
  /-- The prefix that the handle is opened with. -/
  inner : ℕ → String
  /-- The middleware that the handle is opened with. -/
  refs : ℕ → List Middleware
  root : ∀ s ∈ ss, s.bound? ≠ some (handle 0)
  link : ∀ i < length, ∃ position, ss[opened (i + 1)]? =
    some (.bind (handle (i + 1)) (some (handle i)) position (inner (i + 1)) (refs (i + 1)) none)

namespace HandleChain

variable {ss : List GroupStep} (c : HandleChain ss)

def last : String := c.handle c.length

/-- The middleware that a handle of the chain is opened with: none for the first. -/
def own : ℕ → List Middleware
  | 0 => []
  | i + 1 => c.refs (i + 1)

/-- The steps before the next handle is opened, and all of them for the last one. -/
def history (i : ℕ) : List GroupStep :=
  if i < c.length then ss.take (c.opened (i + 1)) else ss

/-- The prefixes of the chain up to a handle, joined. -/
def joined (i : ℕ) : String := ((List.range i).map fun j => c.inner (j + 1)).foldl joinPrefix ""

/-- The middleware of the first handles of the chain, each with what it is opened with and what its
history appends to it. -/
def gathered (i : ℕ) : List Middleware :=
  (List.range i).flatMap fun j => c.own j ++ usesOf (c.handle j) (c.history j)

theorem joined_succ (i : ℕ) : c.joined (i + 1) = joinPrefix (c.joined i) (c.inner (i + 1)) := by
  simp only [joined, List.range_succ, List.map_append, List.foldl_append, List.map_cons,
    List.map_nil, List.foldl_cons, List.foldl_nil]

theorem gathered_succ (i : ℕ) :
    c.gathered (i + 1) = c.gathered i ++ (c.own i ++ usesOf (c.handle i) (c.history i)) := by
  simp only [gathered, List.range_succ, List.flatMap_append, List.flatMap_singleton]

variable {c}

theorem opened_lt (h : Orderly ss) {i : ℕ} (hi : i + 1 < c.length) :
    c.opened (i + 1) < c.opened (i + 2) := by
  obtain ⟨_, hparent⟩ := c.link i (by omega)
  obtain ⟨_, hchild⟩ := c.link (i + 1) hi
  exact h.lt_of_read hparent hchild rfl rfl

theorem opened_lt_of_lt (h : Orderly ss) {i j : ℕ} (hij : i < j) (hj : j < c.length) :
    c.opened (i + 1) < c.opened (j + 1) := by
  induction j with
  | zero => omega
  | succ j ih =>
      have hstep := opened_lt h hj
      rcases Nat.lt_succ_iff_lt_or_eq.mp hij with hlt | rfl
      · exact Nat.lt_trans (ih hlt (by omega)) hstep
      · exact hstep

theorem handle_ne (h : Orderly ss) {i j : ℕ} (hij : i < j) (hj : j ≤ c.length) :
    c.handle i ≠ c.handle j := by
  intro heq
  obtain ⟨j, rfl⟩ : ∃ j', j = j' + 1 := ⟨j - 1, by omega⟩
  obtain ⟨_, hj'⟩ := c.link j hj
  cases i with
  | zero => exact c.root _ (List.mem_of_getElem? hj') (congrArg some heq.symm)
  | succ i =>
      obtain ⟨_, hi'⟩ := c.link i (by omega)
      have hlt := opened_lt_of_lt (c := c) h (Nat.lt_of_succ_lt_succ hij) hj
      have hsame := h.eq_of_bound hi' hj' (congrArg some heq) rfl
      omega

/-! ### The closed form -/

theorem take_eq_append {α : Type} {xs : List α} {m k : ℕ} {a : α} (h : xs[m]? = some a)
    (hk : m < k) : xs.take k = xs.take m ++ a :: (xs.take k).drop (m + 1) := by
  obtain ⟨hm, rfl⟩ := List.getElem?_eq_some_iff.mp h
  have hlt : m < (xs.take k).length := by
    rw [List.length_take]
    omega
  have hdrop := List.drop_eq_getElem_cons hlt
  rw [List.getElem_take] at hdrop
  rw [← hdrop]
  have htake : (xs.take k).take m = xs.take m := by
    rw [List.take_take, Nat.min_eq_left (Nat.le_of_lt hk)]
  rw [← htake, List.take_append_drop]

theorem lookup_take_of_parent (h : Orderly ss) {i : ℕ} (hi : i < c.length)
    (hparent :
      ((GroupTable.run {} (ss.take (c.opened (i + 1)))).byName.lookup (c.handle i)).getD {} =
      ⟨c.joined i, c.gathered i ++
        (c.own i ++ usesOf (c.handle i) (ss.take (c.opened (i + 1)))), none⟩)
    {k : ℕ} (hk : c.opened (i + 1) < k) :
    (GroupTable.run {} (ss.take k)).byName.lookup (c.handle (i + 1)) =
      some ⟨c.joined (i + 1), c.gathered (i + 1) ++
        (c.own (i + 1) ++ usesOf (c.handle (i + 1)) (ss.take k)), none⟩ := by
  obtain ⟨position, hopen⟩ := c.link i hi
  have hhistory : c.history i = ss.take (c.opened (i + 1)) := if_pos hi
  have horderly := h.take k
  rw [take_eq_append hopen hk] at horderly ⊢
  rw [horderly.lookup_of_bound hparent, c.joined_succ, c.gathered_succ, hhistory, own]

/-- The group of a handle at any moment after it is opened. -/
theorem lookup_take (h : Orderly ss) {i : ℕ} (hi : i < c.length) {k : ℕ}
    (hk : c.opened (i + 1) < k) :
    (GroupTable.run {} (ss.take k)).byName.lookup (c.handle (i + 1)) =
      some ⟨c.joined (i + 1), c.gathered (i + 1) ++
        (c.own (i + 1) ++ usesOf (c.handle (i + 1)) (ss.take k)), none⟩ := by
  -- along the chain; `k` is general because the parent is looked at in an earlier moment
  induction i generalizing k with
  | zero =>
      refine lookup_take_of_parent h hi ?_ hk
      exact (h.take _).getD_lookup_of_unbound fun s hs => c.root s (List.mem_of_mem_take hs)
  | succ i ih =>
      refine lookup_take_of_parent h hi ?_ hk
      rw [ih (by omega) (opened_lt h hi), Option.getD_some]

/-- The group of the last handle of a chain, in closed form. -/
theorem lookup_last (h : Orderly ss) (hc : 0 < c.length) (p : ℕ) :
    (GroupTable.run {} ss).lookup c.last p =
      some ⟨c.joined c.length, c.gathered (c.length + 1), none⟩ := by
  obtain ⟨n, hn⟩ : ∃ n, c.length = n + 1 := ⟨c.length - 1, by omega⟩
  obtain ⟨position, hopen⟩ := c.link n (by omega)
  have hlt : c.opened (n + 1) < ss.length := (List.getElem?_eq_some_iff.mp hopen).1
  have hlook := lookup_take (c := c) h (by omega) hlt
  rw [List.take_length] at hlook
  have hhistory : c.history (n + 1) = ss := if_neg (by omega)
  rw [h.unscoped_run.lookup_eq, last, hn, hlook, c.gathered_succ (n + 1), hhistory]

theorem getD_lookup_last (h : Orderly ss) (p : ℕ) :
    ((GroupTable.run {} ss).lookup c.last p).getD {} =
      ⟨c.joined c.length, c.gathered (c.length + 1), none⟩ := by
  rcases Nat.eq_zero_or_pos c.length with hzero | hpos
  · have hlast : c.last = c.handle 0 := congrArg c.handle hzero
    have hhistory : c.history 0 = ss := if_neg (by omega)
    rw [h.unscoped_run.lookup_eq, hlast, h.getD_lookup_of_unbound c.root, hzero, c.gathered_succ,
      hhistory]
    rfl
  · rw [lookup_last h hpos, Option.getD_some]

/-! ### Every handle has a chain -/

/-- The chain of a handle that no step binds. -/
def single (x : String) (hx : ∀ s ∈ ss, s.bound? ≠ some x) : HandleChain ss where
  length := 0
  handle _ := x
  opened _ := 0
  inner _ := ""
  refs _ := []
  root := hx
  link i hi := absurd hi (Nat.not_lt_zero i)

/-- The chain of a handle that is opened from the last one of a chain. -/
def snoc (c : HandleChain ss) {x : String} {k position : ℕ} {inner : String}
    {refs : List Middleware}
    (h : ss[k]? = some (.bind x (some c.last) position inner refs none)) : HandleChain ss where
  length := c.length + 1
  handle i := if i ≤ c.length then c.handle i else x
  opened i := if i ≤ c.length then c.opened i else k
  inner i := if i ≤ c.length then c.inner i else inner
  refs i := if i ≤ c.length then c.refs i else refs
  root := c.root
  link i hi := by
    rw [if_pos (Nat.le_of_lt_succ hi)]
    rcases Nat.lt_succ_iff_lt_or_eq.mp hi with hlt | rfl
    · have hle : i + 1 ≤ c.length := hlt
      simp only [if_pos hle]
      exact c.link i hlt
    · simp only [if_neg (Nat.not_succ_le_self c.length)]
      exact ⟨position, h⟩

theorem last_snoc (c : HandleChain ss) {x : String} {k position : ℕ} {inner : String}
    {refs : List Middleware}
    (h : ss[k]? = some (.bind x (some c.last) position inner refs none)) :
    (c.snoc h).last = x := if_neg (Nat.not_succ_le_self _)

theorem unbound_or_exists (ss : List GroupStep) (x : String) :
    (∀ s ∈ ss, s.bound? ≠ some x) ∨
      ∃ (k : ℕ) (s : GroupStep), ss[k]? = some s ∧ s.bound? = some x := by
  by_cases hx : ∃ s ∈ ss, s.bound? = some x
  · obtain ⟨s, hs, hbound⟩ := hx
    obtain ⟨k, hk⟩ := List.mem_iff_getElem?.mp hs
    exact .inr ⟨k, s, hk, hbound⟩
  · exact .inl fun s hs hbound => hx ⟨s, hs, hbound⟩

theorem exists_of_bound (h : Orderly ss) {k : ℕ} {s : GroupStep} (hk : ss[k]? = some s) {x : String}
    (hs : s.bound? = some x) : ∃ c : HandleChain ss, 0 < c.length ∧ c.last = x := by
  induction k using Nat.strongRecOn generalizing s x with
  | _ k ih =>
      cases h.assigned s (List.mem_of_getElem? hk) with
      | use key position refs => cases hs
      | @bind key y position inner refs hne =>
          cases hs
          rcases unbound_or_exists ss y with hy | ⟨j, s', hj, hbound⟩
          · exact ⟨(single y hy).snoc hk, Nat.succ_pos _, last_snoc ..⟩
          · obtain ⟨c, -, rfl⟩ := ih j (h.lt_of_read hj hk hbound rfl) hj hbound
            exact ⟨c.snoc hk, Nat.succ_pos _, last_snoc ..⟩

theorem exists_of_handle (h : Orderly ss) (x : String) : ∃ c : HandleChain ss, c.last = x := by
  rcases unbound_or_exists ss x with hx | ⟨k, s, hk, hbound⟩
  · exact ⟨single x hx, rfl⟩
  · obtain ⟨c, -, hc⟩ := exists_of_bound h hk hbound
    exact ⟨c, hc⟩

end HandleChain

/-- The run opens one handle from the other. -/
def ChildOf (ss : List GroupStep) (y x : String) : Prop :=
  ∃ position inner refs, .bind y (some x) position inner refs none ∈ ss

theorem HandleChain.handle_ne_of_childOf {ss : List GroupStep} (h : Orderly ss) (c : HandleChain ss)
    {y : String} (hy : ChildOf ss y c.last) {i : ℕ} (hi : i ≤ c.length) : c.handle i ≠ y := by
  intro heq
  obtain ⟨position, inner, refs, hmem⟩ := hy
  obtain ⟨k, hk⟩ := List.mem_iff_getElem?.mp hmem
  cases i with
  | zero => exact c.root _ hmem (congrArg some heq.symm)
  | succ i =>
      obtain ⟨n, hn⟩ : ∃ n, c.length = n + 1 := ⟨c.length - 1, by omega⟩
      obtain ⟨_, hlink⟩ := c.link i hi
      obtain ⟨_, hlast⟩ := c.link n (by omega)
      have hsame : c.opened (i + 1) = k := h.eq_of_bound hlink hk (congrArg some heq) rfl
      have hlt : c.opened (n + 1) < k :=
        h.lt_of_read hlast hk rfl (by rw [GroupStep.read?, last, hn])
      rcases Nat.lt_or_ge i n with hin | hin
      · have := opened_lt_of_lt (c := c) h hin (by omega)
        omega
      · obtain rfl : i = n := by omega
        omega

/-! ### Middleware that does not reach a handle -/

section replace

variable {pre post : List GroupStep} {y : String} {position : ℕ} {refs : List Middleware}

theorem usesOf_replace {x : String} (hxy : y ≠ x) (refs' : List Middleware) :
    usesOf x (pre ++ .use y position refs' :: post) =
      usesOf x (pre ++ .use y position refs :: post) := by
  simp only [usesOf_append, usesOf_cons, GroupStep.usedOn, if_neg hxy]

theorem usesOf_take_replace {x : String} (hxy : y ≠ x) (refs' : List Middleware) (m : ℕ) :
    usesOf x ((pre ++ .use y position refs' :: post).take m) =
      usesOf x ((pre ++ .use y position refs :: post).take m) := by
  rw [List.take_append, List.take_append]
  cases m - pre.length with
  | zero => rw [List.take_zero, List.take_zero]
  | succ k => rw [List.take_succ_cons, List.take_succ_cons, usesOf_replace hxy]

theorem getElem?_replace {k : ℕ} {s : GroupStep} {x : String} (refs' : List Middleware)
    (hk : (pre ++ .use y position refs :: post)[k]? = some s) (hs : s.bound? = some x) :
    (pre ++ .use y position refs' :: post)[k]? = some s := by
  rcases Nat.lt_or_ge k pre.length with hlt | hge
  · rw [List.getElem?_append_left hlt] at hk ⊢
    exact hk
  · rw [List.getElem?_append_right hge] at hk ⊢
    cases hd : k - pre.length with
    | zero =>
        rw [hd, List.getElem?_cons_zero] at hk
        cases hk
        cases hs
    | succ j =>
        rw [hd, List.getElem?_cons_succ] at hk
        rw [List.getElem?_cons_succ]
        exact hk

theorem forall_unbound_replace {x : String} (refs' : List Middleware)
    (hx : ∀ s ∈ pre ++ .use y position refs :: post, s.bound? ≠ some x) :
    ∀ s ∈ pre ++ .use y position refs' :: post, s.bound? ≠ some x := by
  intro s hs hbound
  obtain ⟨k, hk⟩ := List.mem_iff_getElem?.mp hs
  exact hx s (List.mem_of_getElem? (getElem?_replace refs hk hbound)) hbound

theorem lookup_replace_of_unbound (h : Orderly (pre ++ .use y position refs :: post)) {x : String}
    (hx : ∀ s ∈ pre ++ .use y position refs :: post, s.bound? ≠ some x) (hxy : y ≠ x)
    (refs' : List Middleware) (p : ℕ) :
    (GroupTable.run {} (pre ++ .use y position refs' :: post)).lookup x p =
      (GroupTable.run {} (pre ++ .use y position refs :: post)).lookup x p := by
  have h' := h.replace_use refs'
  rw [h'.unscoped_run.lookup_eq, h.unscoped_run.lookup_eq,
    GroupTable.unscoped_empty.lookup_run h'.assigned (forall_unbound_replace refs' hx),
    GroupTable.unscoped_empty.lookup_run h.assigned hx]
  simp only [List.foldl_append, List.foldl_cons, GroupStep.noted, if_neg hxy]

namespace HandleChain

/-- The same chain in a run with other middleware. -/
def replace (c : HandleChain (pre ++ .use y position refs :: post)) (refs' : List Middleware) :
    HandleChain (pre ++ .use y position refs' :: post) where
  length := c.length
  handle := c.handle
  opened := c.opened
  inner := c.inner
  refs := c.refs
  root := forall_unbound_replace refs' c.root
  link i hi := by
    obtain ⟨p, hlink⟩ := c.link i hi
    exact ⟨p, getElem?_replace refs' hlink rfl⟩

/-- The history of a handle of the chain appends the same to it: the step in question is on another
handle, or comes after the next one is opened. -/
theorem usesOf_history_replace (c : HandleChain (pre ++ .use y position refs :: post))
    (refs' : List Middleware) {i : ℕ}
    (hi : c.handle i = y → i < c.length ∧ c.opened (i + 1) ≤ pre.length) :
    usesOf (c.handle i) ((c.replace refs').history i) = usesOf (c.handle i) (c.history i) := by
  by_cases hy : c.handle i = y
  · obtain ⟨hlt, hle⟩ := hi hy
    rw [history, history, if_pos hlt, if_pos (show i < (c.replace refs').length from hlt)]
    show usesOf _ (List.take (c.opened (i + 1)) _) = _
    rw [List.take_append_of_le_length hle, List.take_append_of_le_length hle]
  · rw [history, history]
    show usesOf _ (if i < c.length then List.take (c.opened (i + 1)) _ else _) = _
    split
    · exact usesOf_take_replace (Ne.symm hy) refs' _
    · exact usesOf_replace (Ne.symm hy) refs'

/-- Middleware reaches the last handle of a chain only along the chain, and from each handle only
before the next one is opened. -/
theorem lookup_last_replace (h : Orderly (pre ++ .use y position refs :: post))
    (c : HandleChain (pre ++ .use y position refs :: post))
    (hy : ∀ i ≤ c.length, c.handle i = y → i < c.length ∧ c.opened (i + 1) ≤ pre.length)
    (refs' : List Middleware) (p : ℕ) :
    (GroupTable.run {} (pre ++ .use y position refs' :: post)).lookup c.last p =
      (GroupTable.run {} (pre ++ .use y position refs :: post)).lookup c.last p := by
  rcases Nat.eq_zero_or_pos c.length with hzero | hpos
  · have hlast : c.last = c.handle 0 := congrArg c.handle hzero
    have hne : y ≠ c.handle 0 := fun he => by
      have := (hy 0 (Nat.zero_le _) he.symm).1
      omega
    rw [hlast]
    exact lookup_replace_of_unbound h c.root hne refs' p
  · have hgathered : (c.replace refs').gathered (c.length + 1) = c.gathered (c.length + 1) := by
      refine List.flatMap_congr fun i hi => ?_
      have hle : i ≤ c.length := Nat.le_of_lt_succ (List.mem_range.mp hi)
      exact congrArg (c.own i ++ ·) (c.usesOf_history_replace refs' (hy i hle))
    rw [lookup_last h hpos, ← hgathered]
    exact lookup_last (c := c.replace refs') (h.replace_use refs') hpos p

/-- Middleware appended to a handle after the next one of the chain is opened does not reach the end
of the chain. -/
theorem lookup_last_replace_of_opened (h : Orderly (pre ++ .use y position refs :: post))
    (c : HandleChain (pre ++ .use y position refs :: post)) {i : ℕ} (hi : i < c.length)
    (hy : c.handle i = y) (hopened : c.opened (i + 1) < pre.length) (refs' : List Middleware)
    (p : ℕ) :
    (GroupTable.run {} (pre ++ .use y position refs' :: post)).lookup c.last p =
      (GroupTable.run {} (pre ++ .use y position refs :: post)).lookup c.last p := by
  refine lookup_last_replace h c (fun j hj hjy => ?_) refs' p
  rcases Nat.lt_trichotomy i j with hlt | rfl | hgt
  · exact absurd (hy.trans hjy.symm) (handle_ne h hlt hj)
  · exact ⟨hi, Nat.le_of_lt hopened⟩
  · exact absurd (hjy.trans hy.symm) (handle_ne h hgt (Nat.le_of_lt hi))

end HandleChain

theorem lookup_parent_replace (h : Orderly (pre ++ .use y position refs :: post)) {x : String}
    (hx : ChildOf (pre ++ .use y position refs :: post) y x) (refs' : List Middleware) (p : ℕ) :
    (GroupTable.run {} (pre ++ .use y position refs' :: post)).lookup x p =
      (GroupTable.run {} (pre ++ .use y position refs :: post)).lookup x p := by
  obtain ⟨c, rfl⟩ := HandleChain.exists_of_handle h x
  exact c.lookup_last_replace h (fun i hi hy => absurd hy (c.handle_ne_of_childOf h hx hi)) refs' p

theorem lookup_sibling_replace (h : Orderly (pre ++ .use y position refs :: post)) {x z : String}
    (hx : ChildOf (pre ++ .use y position refs :: post) y x)
    (hz : ChildOf (pre ++ .use y position refs :: post) z x) (hzy : z ≠ y)
    (refs' : List Middleware) (p : ℕ) :
    (GroupTable.run {} (pre ++ .use y position refs' :: post)).lookup z p =
      (GroupTable.run {} (pre ++ .use y position refs :: post)).lookup z p := by
  obtain ⟨c, rfl⟩ := HandleChain.exists_of_handle h x
  obtain ⟨position', inner, refs₁, hmem⟩ := hz
  obtain ⟨k, hk⟩ := List.mem_iff_getElem?.mp hmem
  have hlast := (c.snoc hk).lookup_last_replace h (fun i hi hy => ?_) refs' p
  · rwa [c.last_snoc hk] at hlast
  · by_cases hle : i ≤ c.length
    · exact absurd ((if_pos hle).symm.trans hy) (c.handle_ne_of_childOf h hx hle)
    · exact absurd ((if_neg hle).symm.trans hy) hzy

end replace

/-- **A group is its chain.** In an orderly run each handle that is opened ends a chain; its prefix
is the prefixes of the chain joined, and its middleware is, for each handle of the chain in turn,
what that handle was opened with and what was appended to it before the next one was opened.
Middleware appended to a parent after the child was opened does not reach the child, and middleware
appended to a child reaches neither the parent nor its other children. The tables of a detector that
binds by assignment come from such steps. -/
theorem handle_chain_closed_form {ss : List GroupStep} (h : Orderly ss) :
    (∀ (d : Detector) (root : Node), d.grammar.groupBinding = .assignment →
      d.findGroups root = GroupTable.run {} (root.walk.flatMap d.steps) ∧
        ∀ s ∈ root.walk.flatMap d.steps, s.read? ≠ none → s.Assigned) ∧
    (∀ s ∈ ss, ∀ x, s.bound? = some x → ∃ c : HandleChain ss, 0 < c.length ∧ c.last = x) ∧
    (∀ (c : HandleChain ss) (p : ℕ), ∃ g : Group,
      ((GroupTable.run {} ss).lookup c.last p).getD {} = g ∧
        (0 < c.length → (GroupTable.run {} ss).lookup c.last p = some g) ∧
        g.pathPrefix = ((List.range c.length).map fun i => c.inner (i + 1)).foldl joinPrefix "" ∧
        g.middleware = (List.range (c.length + 1)).flatMap fun i =>
          c.own i ++ usesOf (c.handle i)
            (if i < c.length then ss.take (c.opened (i + 1)) else ss)) ∧
    ∀ pre y position refs post, ss = pre ++ .use y position refs :: post → ∀ refs' p,
      (∀ c : HandleChain ss, ∀ i < c.length, c.handle i = y → c.opened (i + 1) < pre.length →
        (GroupTable.run {} (pre ++ .use y position refs' :: post)).lookup c.last p =
          (GroupTable.run {} ss).lookup c.last p) ∧
      ∀ x, ChildOf ss y x →
        (GroupTable.run {} (pre ++ .use y position refs' :: post)).lookup x p =
          (GroupTable.run {} ss).lookup x p ∧
        ∀ z, z ≠ y → ChildOf ss z x →
          (GroupTable.run {} (pre ++ .use y position refs' :: post)).lookup z p =
            (GroupTable.run {} ss).lookup z p := by
  refine ⟨fun d root hd => ⟨d.findGroups_eq_run root, fun s hs hread => ?_⟩,
    fun s hs x hbound => ?_,
    fun c p => ⟨_, c.getD_lookup_last h p, fun hc => c.lookup_last h hc p, rfl, rfl⟩, ?_⟩
  · obtain ⟨n, -, hn⟩ := List.mem_flatMap.mp hs
    exact d.assigned_of_mem_steps hd hn hread
  · obtain ⟨k, hk⟩ := List.mem_iff_getElem?.mp hs
    exact HandleChain.exists_of_bound h hk hbound
  · rintro pre y position refs post rfl refs' p
    refine ⟨fun c i hi hy hopened => ?_, fun x hx => ⟨?_, fun z hz hzx => ?_⟩⟩
    · exact c.lookup_last_replace_of_opened h hi hy hopened refs' p
    · exact lookup_parent_replace h hx refs' p
    · exact lookup_sibling_replace h hx hzx hz refs' p

/-- Two versions of an interface under one router, with middleware between the calls. -/
def versionedRun : List GroupStep :=
  [.use "r" 10 [⟨"Logger", []⟩],
    .bind "api" (some "r") 30 "/api/" [⟨"AuthRequired", []⟩] none,
    .use "api" 70 [⟨"RequireRole", ["admin"]⟩],
    .bind "v1" (some "api") 110 "/v1" [] none,
    .bind "v2" (some "api") 140 "v2" [] none,
    .use "api" 170 [⟨"RateLimit", []⟩],
    .use "v1" 200 [⟨"Audit", []⟩]]

/-- The chain from the router to the first version. -/
def versionedChain : HandleChain versionedRun :=
  ((HandleChain.single "r" (by decide)).snoc (k := 1) rfl).snoc (k := 3) rfl

/-- The first version has its own middleware and that of the router and the interface when it was
opened; no later middleware on the interface reaches it, and its own does not reach the second. -/
theorem versionedRun_closed_form :
    Orderly versionedRun ∧
      (∃ g, (GroupTable.run {} versionedRun).lookup "v1" 250 = some g ∧ g.pathPrefix = "/api/v1" ∧
        g.middleware = [⟨"Logger", []⟩, ⟨"AuthRequired", []⟩, ⟨"RequireRole", ["admin"]⟩,
          ⟨"Audit", []⟩]) ∧
      ∀ refs,
        (GroupTable.run {} (versionedRun.set 5 (.use "api" 170 refs))).lookup "v1" 250 =
          (GroupTable.run {} versionedRun).lookup "v1" 250 ∧
        (GroupTable.run {} (versionedRun.set 6 (.use "v1" 200 refs))).lookup "v2" 250 =
          (GroupTable.run {} versionedRun).lookup "v2" 250 := by
  have horderly : Orderly versionedRun := by decide
  obtain ⟨-, -, hclosed, hisolated⟩ := handle_chain_closed_form horderly
  obtain ⟨g, -, hlookup, hprefix, hmiddleware⟩ := hclosed versionedChain 250
  refine ⟨horderly,
    ⟨g, hlookup (by decide), hprefix.trans (by decide), hmiddleware.trans (by decide)⟩,
    fun refs => ⟨?_, ?_⟩⟩
  · exact (hisolated (versionedRun.take 5) "api" 170 _ (versionedRun.drop 6) rfl refs 250).1
      versionedChain 1 (by decide) rfl (by decide)
  · have hchild : ChildOf versionedRun "v1" "api" := ⟨110, "/v1", [], by decide⟩
    have hsibling : ChildOf versionedRun "v2" "api" := ⟨140, "v2", [], by decide⟩
    exact ((hisolated (versionedRun.take 6) "v1" 200 _ [] rfl refs 250).2 "api" hchild).2 "v2"
      (by decide) hsibling

end RouteAudit
