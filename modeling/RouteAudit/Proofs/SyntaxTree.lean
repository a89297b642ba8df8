import Mathlib.Data.List.Basic
import RouteAudit.Go.Node

/-! # Nodes of a tree and their ranges

`walk` lists the nodes of a tree with an explicit stack; `walk_eq_cons` gives it as a recursion on
the tree, and `m ∈ n.walk` is used for "`m` is a node of the tree below `n`, `n` included".

A tree is `Spanned` when a child's byte range lies in its parent's and siblings come one after the
other. The walk then goes from left to right:

* `pairwise_walk`: a node that is met later lies in the earlier one or starts after its end;
* `starts_sorted`: no node starts before one that was met earlier.

A tree is `WellFormed` when moreover no range is empty and a list of arguments starts before its
first argument. Positions then tell everything about ancestry:

* `nodup_walk`: the walk meets each node once;
* `mem_walk_or_disjoint`: of two nodes one lies in the other, or their ranges are disjoint;
* `eq_or_parent_mem_walk`: an ancestor of a node is the node itself or an ancestor of its parent. -/

namespace RouteAudit.Go

theorem Span.holds_iff {s : Span} {p : ℕ} : s.holds p = true ↔ s.start ≤ p ∧ p < s.stop := by
  simp [Span.holds]

namespace Node

/-! ### Walking -/

theorem preorderAll_eq_flatMap (cs : List Node) : preorderAll cs = cs.flatMap preorder := by
  induction cs with
  | nil => rfl
  | cons c rest ih => rw [preorderAll, ih, List.flatMap_cons]

theorem preorder_eq_cons (n : Node) : n.preorder = n :: n.children.flatMap preorder := by
  cases n with
  | mk i cs => rw [preorder, preorderAll_eq_flatMap, children_mk]

/-- The stack holds what is left to be listed. -/
theorem walkFrom_eq (done pending : List Node) :
    walkFrom done pending = done.reverse ++ pending.flatMap preorder := by
  fun_induction walkFrom done pending with
  | case1 done => simp
  | case2 done n rest ih =>
      rw [ih, List.flatMap_append, List.flatMap_cons, preorder_eq_cons n]
      simp

theorem walk_eq_preorder (n : Node) : n.walk = n.preorder := by
  rw [walk, walkFrom_eq]
  simp

theorem walk_eq_cons (n : Node) : n.walk = n :: n.children.flatMap walk := by
  have hfun : walk = preorder := funext walk_eq_preorder
  rw [hfun, preorder_eq_cons]

/-! ### Nodes below a node -/

/-- Induction from the children of a node to the node. -/
theorem children_induction {P : Node → Prop} (step : ∀ n, (∀ c ∈ n.children, P c) → P n)
    (n : Node) : P n :=
  step n fun c _hc => children_induction step c
termination_by n.size
decreasing_by exact size_lt_of_mem_children _hc

theorem mem_walk_iff {m n : Node} : m ∈ n.walk ↔ m = n ∨ ∃ c ∈ n.children, m ∈ c.walk := by
  rw [walk_eq_cons, List.mem_cons, List.mem_flatMap]

@[simp] theorem self_mem_walk (n : Node) : n ∈ n.walk := mem_walk_iff.mpr (.inl rfl)

theorem mem_walk_of_mem_children {c n : Node} (h : c ∈ n.children) : c ∈ n.walk :=
  mem_walk_iff.mpr (.inr ⟨c, h, self_mem_walk c⟩)

theorem mem_walk_trans {a b c : Node} (hab : a ∈ b.walk) (hbc : b ∈ c.walk) : a ∈ c.walk := by
  induction c using children_induction with
  | step c ih =>
      rcases mem_walk_iff.mp hbc with rfl | ⟨e, he, hbe⟩
      · exact hab
      · exact mem_walk_iff.mpr (.inr ⟨e, he, ih e he hbe⟩)

theorem size_le_of_mem_walk {m n : Node} (h : m ∈ n.walk) : m.size ≤ n.size := by
  induction n using children_induction with
  | step n ih =>
      rcases mem_walk_iff.mp h with rfl | ⟨c, hc, hm⟩
      · exact Nat.le_refl _
      · have h₁ := ih c hc hm
        have h₂ := size_lt_of_mem_children hc
        omega

theorem not_mem_walk_of_mem_children {c n : Node} (h : c ∈ n.children) : n ∉ c.walk := by
  intro hn
  have h₁ := size_le_of_mem_walk hn
  have h₂ := size_lt_of_mem_children h
  omega

theorem eq_of_mem_walk_of_mem_walk {a b : Node} (hab : a ∈ b.walk) (hba : b ∈ a.walk) : a = b := by
  rcases mem_walk_iff.mp hab with hEq | ⟨c, hc, hac⟩
  · exact hEq
  · exact absurd (mem_walk_trans hba hac) (not_mem_walk_of_mem_children hc)

theorem exists_parent {m n : Node} (h : m ∈ n.walk) (hne : m ≠ n) :
    ∃ p ∈ n.walk, m ∈ p.children := by
  induction n using children_induction with
  | step n ih =>
      rcases mem_walk_iff.mp h with rfl | ⟨c, hc, hm⟩
      · exact absurd rfl hne
      · by_cases hmc : m = c
        · exact ⟨n, self_mem_walk n, hmc ▸ hc⟩
        · obtain ⟨p, hp, hmp⟩ := ih c hc hm hmc
          exact ⟨p, mem_walk_trans hp (mem_walk_of_mem_children hc), hmp⟩

/-! ### Ranges of nodes -/

/-- Ranges run forward, a child lies in its parent, and siblings come one after the other. -/
structure Spanned (root : Node) : Prop where
  forward : ∀ n ∈ root.walk, n.span.start ≤ n.span.stop
  nested : ∀ n ∈ root.walk, ∀ c ∈ n.children,
    n.span.start ≤ c.span.start ∧ c.span.stop ≤ n.span.stop
  ordered : ∀ n ∈ root.walk, n.children.Pairwise fun a b => a.span.stop ≤ b.span.start

theorem spanned_iff {root : Node} :
    root.Spanned ↔ ∀ n ∈ root.preorder,
      n.span.start ≤ n.span.stop ∧
      (∀ c ∈ n.children, n.span.start ≤ c.span.start ∧ c.span.stop ≤ n.span.stop) ∧
      n.children.Pairwise fun a b => a.span.stop ≤ b.span.start := by
  rw [← walk_eq_preorder]
  constructor
  · intro h n hn
    exact ⟨h.forward n hn, h.nested n hn, h.ordered n hn⟩
  · intro h
    exact ⟨fun n hn => (h n hn).1, fun n hn => (h n hn).2.1, fun n hn => (h n hn).2.2⟩

instance (root : Node) : Decidable root.Spanned := decidable_of_iff _ spanned_iff.symm

namespace Spanned

variable {root : Node}

theorem mono (h : root.Spanned) {n : Node} (hn : n ∈ root.walk) : n.Spanned where
  forward m hm := h.forward m (mem_walk_trans hm hn)
  nested m hm := h.nested m (mem_walk_trans hm hn)
  ordered m hm := h.ordered m (mem_walk_trans hm hn)

theorem child (h : root.Spanned) {c : Node} (hc : c ∈ root.children) : c.Spanned :=
  h.mono (mem_walk_of_mem_children hc)

theorem span_le (h : root.Spanned) {m : Node} (hm : m ∈ root.walk) :
    root.span.start ≤ m.span.start ∧ m.span.stop ≤ root.span.stop := by
  induction root using children_induction with
  | step n ih =>
      rcases mem_walk_iff.mp hm with rfl | ⟨c, hc, hmc⟩
      · exact ⟨Nat.le_refl _, Nat.le_refl _⟩
      · have h₁ := ih c hc (h.child hc) hmc
        have h₂ := h.nested n (self_mem_walk n) c hc
        omega

/-- A node that is met later lies in the earlier one or starts after its end. -/
theorem pairwise_walk (h : root.Spanned) :
    root.walk.Pairwise fun a b => b ∈ a.walk ∨ a.span.stop ≤ b.span.start := by
  induction root using children_induction with
  | step n ih =>
      rw [walk_eq_cons, List.pairwise_cons]
      constructor
      · intro b hb
        exact .inl (by rw [walk_eq_cons]; exact List.mem_cons_of_mem _ hb)
      · rw [List.pairwise_flatMap]
        refine ⟨fun c hc => ih c hc (h.child hc), ?_⟩
        -- nodes of different children are as far apart as the children
        refine List.Pairwise.imp_of_mem ?_ (h.ordered n (self_mem_walk n))
        intro c e hc he hce a ha b hb
        have h₁ := (h.child hc).span_le ha
        have h₂ := (h.child he).span_le hb
        right
        omega

theorem starts_sorted (h : root.Spanned) :
    root.walk.Pairwise fun a b => a.span.start ≤ b.span.start := by
  refine List.Pairwise.imp_of_mem ?_ h.pairwise_walk
  intro a b ha _ hab
  have hforward := h.forward a ha
  rcases hab with hin | hafter
  · exact ((h.mono ha).span_le hin).1
  · omega

end Spanned

/-! ### Well-formed trees -/

/-- The byte ranges of a tree are those of a text. -/
structure WellFormed (root : Node) : Prop where
  nonempty : ∀ n ∈ root.walk, n.span.start < n.span.stop
  nested : ∀ n ∈ root.walk, ∀ c ∈ n.children,
    n.span.start ≤ c.span.start ∧ c.span.stop ≤ n.span.stop
  ordered : ∀ n ∈ root.walk, n.children.Pairwise fun a b => a.span.stop ≤ b.span.start
  /-- The list of arguments of a call starts before the first argument. -/
  opened : ∀ n ∈ root.walk, n.kind = .call → ∀ a ∈ n.child? .arguments, ∀ p ∈ a.parts.head?,
    a.span.start < p.span.start

/-- Whether a tree is well-formed can be seen by going through its nodes. -/
theorem wellFormed_iff {root : Node} :
    root.WellFormed ↔ ∀ n ∈ root.preorder,
      n.span.start < n.span.stop ∧
      (∀ c ∈ n.children, n.span.start ≤ c.span.start ∧ c.span.stop ≤ n.span.stop) ∧
      (n.children.Pairwise fun a b => a.span.stop ≤ b.span.start) ∧
      (n.kind = .call → ∀ a ∈ n.child? .arguments, ∀ p ∈ a.parts.head?,
        a.span.start < p.span.start) := by
  rw [← walk_eq_preorder]
  constructor
  · intro h n hn
    exact ⟨h.nonempty n hn, h.nested n hn, h.ordered n hn, h.opened n hn⟩
  · intro h
    exact ⟨fun n hn => (h n hn).1, fun n hn => (h n hn).2.1, fun n hn => (h n hn).2.2.1,
      fun n hn => (h n hn).2.2.2⟩

instance (root : Node) : Decidable root.WellFormed := decidable_of_iff _ wellFormed_iff.symm

namespace WellFormed

variable {root : Node}

theorem mono (h : root.WellFormed) {n : Node} (hn : n ∈ root.walk) : n.WellFormed where
  nonempty m hm := h.nonempty m (mem_walk_trans hm hn)
  nested m hm := h.nested m (mem_walk_trans hm hn)
  ordered m hm := h.ordered m (mem_walk_trans hm hn)
  opened m hm := h.opened m (mem_walk_trans hm hn)

theorem child (h : root.WellFormed) {c : Node} (hc : c ∈ root.children) : c.WellFormed :=
  h.mono (mem_walk_of_mem_children hc)

theorem spanned (h : root.WellFormed) : root.Spanned where
  forward n hn := Nat.le_of_lt (h.nonempty n hn)
  nested := h.nested
  ordered := h.ordered

theorem span_le (h : root.WellFormed) {m : Node} (hm : m ∈ root.walk) :
    root.span.start ≤ m.span.start ∧ m.span.stop ≤ root.span.stop :=
  h.spanned.span_le hm

theorem span_le_of_mem (h : root.WellFormed) {a b : Node} (hb : b ∈ root.walk)
    (ha : a ∈ b.walk) : b.span.start ≤ a.span.start ∧ a.span.stop ≤ b.span.stop :=
  (h.mono hb).span_le ha

theorem nodup_walk (h : root.WellFormed) : root.walk.Nodup := by
  induction root using children_induction with
  | step n ih =>
      rw [walk_eq_cons, List.nodup_cons]
      constructor
      · intro hn
        obtain ⟨c, hc, hnc⟩ := List.mem_flatMap.mp hn
        exact not_mem_walk_of_mem_children hc hnc
      · rw [List.Nodup, List.pairwise_flatMap]
        refine ⟨fun c hc => ih c hc (h.child hc), ?_⟩
        refine List.Pairwise.imp_of_mem ?_ (h.ordered n (self_mem_walk n))
        rintro c e hc he hce a ha b hb rfl
        have h₁ := (h.child hc).span_le ha
        have h₂ := (h.child he).span_le hb
        have h₃ := (h.child hc).nonempty a ha
        omega

/-- Of two nodes one lies in the other, or their ranges are disjoint. -/
theorem mem_walk_or_disjoint (h : root.WellFormed) {a b : Node} (ha : a ∈ root.walk)
    (hb : b ∈ root.walk) :
    a ∈ b.walk ∨ b ∈ a.walk ∨ a.span.stop ≤ b.span.start ∨ b.span.stop ≤ a.span.start := by
  by_cases hab : a = b
  · exact .inl (hab ▸ self_mem_walk a)
  · obtain ⟨pre, post, hsplit⟩ := List.append_of_mem ha
    have hpair := h.spanned.pairwise_walk
    rw [hsplit, List.pairwise_append, List.pairwise_cons] at hpair
    rw [hsplit, List.mem_append, List.mem_cons] at hb
    rcases hb with hpre | rfl | hpost
    · rcases hpair.2.2 b hpre a (by simp) with hin | hafter
      · exact .inl hin
      · exact .inr (.inr (.inr hafter))
    · exact absurd rfl hab
    · rcases hpair.2.1.1 b hpost with hin | hafter
      · exact .inr (.inl hin)
      · exact .inr (.inr (.inl hafter))

/-! ### Parents -/

theorem eq_of_mem_children (h : root.WellFormed) {p c e m : Node} (hp : p ∈ root.walk)
    (hc : c ∈ p.children) (he : e ∈ p.children) (hmc : m ∈ c.walk) (hme : m ∈ e.walk) : c = e := by
  by_contra hne
  have hcr : c ∈ root.walk := mem_walk_trans (mem_walk_of_mem_children hc) hp
  have her : e ∈ root.walk := mem_walk_trans (mem_walk_of_mem_children he) hp
  have h₁ := h.span_le_of_mem hcr hmc
  have h₂ := h.span_le_of_mem her hme
  have h₃ := h.nonempty m (mem_walk_trans hmc hcr)
  obtain ⟨pre, post, hsplit⟩ := List.append_of_mem hc
  have hord := h.ordered p hp
  rw [hsplit, List.pairwise_append, List.pairwise_cons] at hord
  rw [hsplit, List.mem_append, List.mem_cons] at he
  rcases he with hpre | rfl | hpost
  · have := hord.2.2 e hpre c (by simp)
    omega
  · exact hne rfl
  · have := hord.2.1.1 e hpost
    omega

theorem parent_unique (h : root.WellFormed) {p q m : Node} (hp : p ∈ root.walk)
    (hq : q ∈ root.walk) (hmp : m ∈ p.children) (hmq : m ∈ q.children) : p = q := by
  -- a parent strictly below the other would lie below the shared child itself
  have below : ∀ {p q : Node}, p ∈ root.walk → m ∈ p.children → m ∈ q.children → q ∈ p.walk →
      q = p := by
    intro p q hp hmp hmq hqp
    rcases mem_walk_iff.mp hqp with hEq | ⟨c, hc, hqc⟩
    · exact hEq
    · have hmc : m ∈ c.walk := mem_walk_trans (mem_walk_of_mem_children hmq) hqc
      have hcm : c = m := h.eq_of_mem_children hp hc hmp hmc (self_mem_walk m)
      exact absurd (hcm ▸ hqc) (not_mem_walk_of_mem_children hmq)
  rcases h.mem_walk_or_disjoint hp hq with hin | hin | hdis
  · exact below hq hmq hmp hin
  · exact (below hp hmp hmq hin).symm
  · have h₁ := h.nested p hp m hmp
    have h₂ := h.nested q hq m hmq
    have h₃ := h.nonempty m (mem_walk_trans (mem_walk_of_mem_children hmp) hp)
    omega

theorem eq_or_parent_mem_walk (h : root.WellFormed) {p m a : Node} (hp : p ∈ root.walk)
    (ha : a ∈ root.walk) (hmp : m ∈ p.children) (hma : m ∈ a.walk) : m = a ∨ p ∈ a.walk := by
  by_cases hne : m = a
  · exact .inl hne
  · obtain ⟨q, hq, hmq⟩ := exists_parent hma hne
    have hpq := h.parent_unique hp (mem_walk_trans hq ha) hmp hmq
    exact .inr (hpq ▸ hq)

/-! ### Arguments -/

theorem exists_arguments (h : root.WellFormed) {call m : Node} (hcall : call ∈ root.walk)
    (hkind : call.kind = .call) (hm : m ∈ call.callArguments) :
    ∃ a ∈ call.children, m ∈ a.children ∧ a.span.start < m.span.start := by
  unfold callArguments partsOf at hm
  cases hargs : call.child? .arguments with
  | none => rw [hargs] at hm; cases hm
  | some a =>
      rw [hargs] at hm
      replace hm : m ∈ a.parts := hm
      have ha : a ∈ call.children := List.mem_of_find?_eq_some hargs
      have har : a ∈ root.walk := mem_walk_trans (mem_walk_of_mem_children ha) hcall
      refine ⟨a, ha, (List.mem_filter.mp hm).1, ?_⟩
      have hopen := h.opened call hcall hkind a hargs
      have hord : a.parts.Pairwise fun b c => b.span.stop ≤ c.span.start :=
        (h.ordered a har).sublist List.filter_sublist
      cases hparts : a.parts with
      | nil => rw [hparts] at hm; cases hm
      | cons p rest =>
          rw [hparts] at hm hopen hord
          have hfirst : a.span.start < p.span.start := hopen p rfl
          rcases List.mem_cons.mp hm with rfl | hrest
          · exact hfirst
          · have hp : p ∈ a.children :=
              (List.mem_filter.mp (hparts ▸ List.mem_cons_self : p ∈ a.parts)).1
            have h₁ := h.nonempty p (mem_walk_trans (mem_walk_of_mem_children hp) har)
            have h₂ := (List.pairwise_cons.mp hord).1 m hrest
            omega

end WellFormed

end Node

end RouteAudit.Go
