import Mathlib.Data.List.Lex
import Mathlib.Logic.Function.Iterate
import RouteAudit.Proofs.SyntaxTree

/-! # The walk is the pre-order

`walk` keeps a stack of pending nodes. A `Tour` is a moment of it, and `Tour.round` is one round of
its loop (`walkFrom_round`). Each round leaves one node less to go through (`left_round`), so the
stack is empty after as many rounds as there are nodes and not before (`pending_rounds_eq_nil_iff`).
The stack holds what is left to be listed, so the nodes met after some rounds are the first ones of
the walk (`met_rounds`).

Equal nodes may stand in several places of a tree, so places are told by addresses: an address says
at each level which child to go to. `addresses` lists the addresses of a tree in lexicographic order
(`pairwise_addresses`), without leaving one out (`mem_addresses_iff`), and the walk lists the nodes
at them (`map_nodeAt?_addresses`). An address comes after the addresses it starts with, hence a node
after its ancestors. -/

namespace RouteAudit.Go.Node

/-! ### Rounds of the walk -/

/-- The nodes that a walk has met, the latest first, and the stack of nodes still to be met. -/
structure Tour where
  met : List Node
  pending : List Node

namespace Tour

/-- The next node is met, and its children take its place on the stack. -/
def round : Tour → Tour
  | ⟨met, []⟩ => ⟨met, []⟩
  | ⟨met, n :: rest⟩ => ⟨n :: met, n.children ++ rest⟩

/-- How many nodes are still to be met. -/
def left (t : Tour) : ℕ := sizeAll t.pending

theorem left_eq_zero_iff {t : Tour} : t.left = 0 ↔ t.pending = [] := by
  obtain ⟨met, pending⟩ := t
  cases pending with
  | nil => simp [left, sizeAll]
  | cons n rest =>
      have := n.size_pos
      simp only [left, sizeAll, reduceCtorEq, iff_false]
      omega

theorem left_round (t : Tour) : t.round.left = t.left - 1 := by
  obtain ⟨met, pending⟩ := t
  cases pending with
  | nil => rfl
  | cons n rest =>
      obtain ⟨i, cs⟩ := n
      simp only [round, left, children_mk, sizeAll_append, sizeAll, size]
      omega

theorem length_met_round (t : Tour) :
    t.round.met.length + t.round.left = t.met.length + t.left := by
  obtain ⟨met, pending⟩ := t
  cases pending with
  | nil => rfl
  | cons n rest =>
      obtain ⟨i, cs⟩ := n
      simp only [round, left, children_mk, sizeAll_append, sizeAll, size, List.length_cons]
      omega

theorem walkFrom_round (t : Tour) :
    walkFrom t.round.met t.round.pending = walkFrom t.met t.pending := by
  obtain ⟨met, pending⟩ := t
  cases pending with
  | nil => rfl
  | cons n rest => rw [round, walkFrom.eq_2]

theorem left_rounds (t : Tour) (k : ℕ) : (round^[k] t).left = t.left - k := by
  induction k with
  | zero => rfl
  | succ k ih =>
      rw [Function.iterate_succ_apply', left_round, ih]
      omega

theorem length_met_rounds (t : Tour) (k : ℕ) :
    (round^[k] t).met.length + (round^[k] t).left = t.met.length + t.left := by
  induction k with
  | zero => rfl
  | succ k ih => rw [Function.iterate_succ_apply', length_met_round, ih]

theorem walkFrom_rounds (t : Tour) (k : ℕ) :
    walkFrom (round^[k] t).met (round^[k] t).pending = walkFrom t.met t.pending := by
  induction k with
  | zero => rfl
  | succ k ih => rw [Function.iterate_succ_apply', walkFrom_round, ih]

/-- The stack is empty after as many rounds as there are nodes, and not before. -/
theorem pending_rounds_eq_nil_iff (t : Tour) (k : ℕ) :
    (round^[k] t).pending = [] ↔ t.left ≤ k := by
  rw [← left_eq_zero_iff, left_rounds]
  omega

/-- A walk that starts at a node. -/
def start (n : Node) : Tour := ⟨[], [n]⟩

@[simp] theorem left_start (n : Node) : (start n).left = n.size := by
  simp [start, left, sizeAll]

/-- Every moment splits the walk into what has been met and what is still on the stack. -/
theorem walk_eq_append (n : Node) (k : ℕ) :
    n.walk =
      (round^[k] (start n)).met.reverse ++ (round^[k] (start n)).pending.flatMap preorder := by
  rw [← walkFrom_eq, walkFrom_rounds]
  rfl

theorem length_met_rounds_start (n : Node) (k : ℕ) :
    (round^[k] (start n)).met.length = min k n.size := by
  have hlength := (start n).length_met_rounds k
  rw [left_rounds, left_start] at hlength
  replace hlength : (round^[k] (start n)).met.length + (n.size - k) = n.size := by
    simpa [start] using hlength
  omega

theorem met_rounds (n : Node) (k : ℕ) : (round^[k] (start n)).met.reverse = n.walk.take k := by
  have hlength := length_met_rounds_start n k
  by_cases hk : k ≤ n.size
  · rw [walk_eq_append n k, List.take_append_of_le_length (by simp; omega),
      List.take_of_length_le (by simp; omega)]
  · have hnil := ((start n).pending_rounds_eq_nil_iff k).mpr (by simp; omega)
    rw [walk_eq_append n k, hnil, List.flatMap_nil, List.append_nil,
      List.take_of_length_le (by simp; omega)]

end Tour

theorem length_walk (n : Node) : n.walk.length = n.size := by
  have hnil := ((Tour.start n).pending_rounds_eq_nil_iff n.size).mpr (by simp)
  rw [Tour.walk_eq_append n n.size, hnil, List.flatMap_nil, List.append_nil, List.length_reverse,
    Tour.length_met_rounds_start, Nat.min_self]

/-! ### Addresses -/

/-- The node at an address: at each level the child with this number. -/
def nodeAt? : Node → List ℕ → Option Node
  | n, [] => some n
  | n, i :: address => n.children[i]?.bind fun c => c.nodeAt? address

mutual

/-- The addresses of a tree, each before those that go on from it. -/
def addresses : Node → List (List ℕ)
  | mk _ cs => [] :: addressesFrom 0 cs

/-- The addresses of children, of which the first has this number. -/
def addressesFrom (i : ℕ) : List Node → List (List ℕ)
  | [] => []
  | c :: rest => (addresses c).map (i :: ·) ++ addressesFrom (i + 1) rest

end

theorem addresses_eq_cons (n : Node) : n.addresses = [] :: addressesFrom 0 n.children := by
  cases n with
  | mk i cs => rw [addresses, children_mk]

theorem mem_addressesFrom_iff {address : List ℕ} {cs : List Node} {i : ℕ} :
    address ∈ addressesFrom i cs ↔
      ∃ j c below, cs[j]? = some c ∧ below ∈ c.addresses ∧ address = (i + j) :: below := by
  induction cs generalizing i with
  | nil => simp [addressesFrom]
  | cons c rest ih =>
      rw [addressesFrom, List.mem_append, List.mem_map, ih]
      constructor
      · rintro (⟨below, hbelow, rfl⟩ | ⟨j, e, below, he, hbelow, rfl⟩)
        · exact ⟨0, c, below, rfl, hbelow, rfl⟩
        · exact ⟨j + 1, e, below, he, hbelow, by rw [Nat.add_assoc, Nat.add_comm 1 j]⟩
      · rintro ⟨j, e, below, he, hbelow, rfl⟩
        cases j with
        | zero =>
            obtain rfl : c = e := Option.some.inj he
            exact .inl ⟨below, hbelow, rfl⟩
        | succ j =>
            exact .inr ⟨j, e, below, he, hbelow, by rw [Nat.add_assoc, Nat.add_comm 1 j]⟩

/-- Every place of a tree has its address in the list, and nothing else is in it. -/
theorem mem_addresses_iff {n : Node} {address : List ℕ} :
    address ∈ n.addresses ↔ ∃ m, n.nodeAt? address = some m := by
  induction address generalizing n with
  | nil => simp [addresses_eq_cons, nodeAt?]
  | cons i below ih =>
      rw [addresses_eq_cons, List.mem_cons, mem_addressesFrom_iff]
      simp only [reduceCtorEq, false_or, nodeAt?, Option.bind_eq_some_iff]
      constructor
      · rintro ⟨j, c, below', hc, hbelow, heq⟩
        obtain ⟨rfl, rfl⟩ := List.cons.inj heq
        obtain ⟨m, hm⟩ := ih.mp hbelow
        exact ⟨m, c, by rwa [Nat.zero_add], hm⟩
      · rintro ⟨m, c, hc, hm⟩
        exact ⟨i, c, below, hc, ih.mpr ⟨m, hm⟩, by rw [Nat.zero_add]⟩

theorem pairwise_addressesFrom {cs : List Node} (h : ∀ c ∈ cs, c.addresses.Pairwise (· < ·))
    (i : ℕ) : (addressesFrom i cs).Pairwise (· < ·) := by
  induction cs generalizing i with
  | nil => exact .nil
  | cons c rest ih =>
      rw [List.forall_mem_cons] at h
      rw [addressesFrom, List.pairwise_append, List.pairwise_map]
      refine ⟨?_, ih h.2 (i + 1), ?_⟩
      · exact h.1.imp fun hlt => List.cons_lt_cons_iff.mpr (.inr ⟨rfl, hlt⟩)
      · intro a ha b hb
        obtain ⟨below, -, rfl⟩ := List.mem_map.mp ha
        obtain ⟨j, e, below', -, -, rfl⟩ := mem_addressesFrom_iff.mp hb
        exact List.cons_lt_cons_iff.mpr (.inl (by omega))

/-- The addresses come in lexicographic order, each once. -/
theorem pairwise_addresses (n : Node) : n.addresses.Pairwise (· < ·) := by
  induction n using children_induction with
  | step n ih =>
      rw [addresses_eq_cons, List.pairwise_cons]
      refine ⟨fun address h => ?_, pairwise_addressesFrom ih 0⟩
      obtain ⟨j, c, below, -, -, rfl⟩ := mem_addressesFrom_iff.mp h
      exact List.nil_lt_cons _ _

theorem map_nodeAt?_addressesFrom {n : Node}
    (h : ∀ c ∈ n.children, c.addresses.map c.nodeAt? = c.walk.map some) :
    ∀ before cs, n.children = before ++ cs →
      (addressesFrom before.length cs).map n.nodeAt? = (cs.flatMap walk).map some
  | _, [], _ => rfl
  | before, c :: rest, hchildren => by
      have hrest := map_nodeAt?_addressesFrom h (before ++ [c]) rest (by rw [hchildren]; simp)
      rw [List.length_append, List.length_singleton] at hrest
      have hbelow : ∀ below, n.nodeAt? (before.length :: below) = c.nodeAt? below := by
        intro below
        rw [nodeAt?, hchildren, List.getElem?_append_right (Nat.le_refl _)]
        simp
      rw [addressesFrom, List.map_append, hrest, List.map_map, List.flatMap_cons, List.map_append,
        ← h c (by rw [hchildren]; simp)]
      congr 1
      exact List.map_congr_left fun below _ => hbelow below

/-- The walk lists the nodes at the addresses. -/
theorem map_nodeAt?_addresses (n : Node) : n.addresses.map n.nodeAt? = n.walk.map some := by
  induction n using children_induction with
  | step n ih =>
      rw [addresses_eq_cons, walk_eq_cons, List.map_cons, List.map_cons,
        ← map_nodeAt?_addressesFrom ih [] n.children rfl]
      rfl

theorem index_lt_of_isPrefix {n : Node} {i j : ℕ} {a b : List ℕ} (ha : n.addresses[i]? = some a)
    (hb : n.addresses[j]? = some b) (hon : a <+: b) (hne : a ≠ b) : i < j := by
  obtain ⟨hi, rfl⟩ := List.getElem?_eq_some_iff.mp ha
  obtain ⟨hj, rfl⟩ := List.getElem?_eq_some_iff.mp hb
  by_contra h
  rcases Nat.lt_or_eq_of_le (Nat.le_of_not_lt h) with hlt | rfl
  · have hback := List.pairwise_iff_getElem.mp n.pairwise_addresses j i hj hi hlt
    exact absurd hback (List.not_lt.mpr hon.le)
  · exact hne rfl

/-- **The walk with a stack is the pre-order.** For every tree the loop ends, after as many rounds
as the tree has nodes and not before, and after each round it has listed the first nodes of the
walk. The walk is the recursive pre-order: a node, then what its children give from left to right.
It lists the nodes at the addresses of the tree, which come in lexicographic order and are all
there, so every place is met once, and a node is met before the nodes below it. Where ranges are
nested and siblings ordered, the nodes are listed in the order in which they start. -/
theorem stack_walk_is_preorder (n : Node) :
    (∀ k, ((Tour.round^[k] (Tour.start n)).pending = [] ↔ n.size ≤ k) ∧
      (Tour.round^[k] (Tour.start n)).met.reverse = n.walk.take k) ∧
    n.walk.length = n.size ∧
    n.walk = n.preorder ∧ n.preorder = n :: n.children.flatMap preorder ∧
    n.walk.map some = n.addresses.map n.nodeAt? ∧
    n.addresses.Pairwise (· < ·) ∧
    (∀ address, address ∈ n.addresses ↔ ∃ m, n.nodeAt? address = some m) ∧
    (∀ (i j : ℕ) (a b : List ℕ), n.addresses[i]? = some a → n.addresses[j]? = some b →
      a <+: b → a ≠ b → i < j) ∧
    (n.Spanned → n.walk.Pairwise fun a b => a.start ≤ b.start) := by
  refine ⟨fun k => ⟨?_, Tour.met_rounds n k⟩, n.length_walk, n.walk_eq_preorder,
    n.preorder_eq_cons, n.map_nodeAt?_addresses.symm, n.pairwise_addresses,
    fun _ => mem_addresses_iff, fun _ _ _ _ => index_lt_of_isPrefix, Spanned.starts_sorted⟩
  rw [Tour.pending_rounds_eq_nil_iff, Tour.left_start]

/-- A block with two equal nodes without text, one of them below a call. -/
def twinsTree : Node :=
  let gap : Node := .mk { kind := .other "gap", span := ⟨2, 2⟩ } []
  .mk { kind := .other "block", span := ⟨0, 9⟩ }
    [gap, .mk { kind := .call, span := ⟨2, 7⟩ } [gap],
     .mk { kind := .identifier, span := ⟨8, 9⟩ } []]

/-- Equal nodes are met as often as they stand in the tree. -/
theorem twinsTree_walk_is_preorder :
    twinsTree.addresses = [[], [0], [1], [1, 0], [2]] ∧
      twinsTree.walk.map some = twinsTree.addresses.map twinsTree.nodeAt? ∧
      twinsTree.nodeAt? [0] = twinsTree.nodeAt? [1, 0] ∧
      (Tour.round^[4] (Tour.start twinsTree)).pending ≠ [] ∧
      (Tour.round^[5] (Tour.start twinsTree)).pending = [] ∧
      twinsTree.walk.Pairwise fun a b => a.start ≤ b.start := by
  obtain ⟨hrounds, -, -, -, hwalk, -, -, -, hstarts⟩ := stack_walk_is_preorder twinsTree
  have hsize : twinsTree.size = 5 := by decide
  refine ⟨by decide, hwalk, rfl, fun h => ?_, (hrounds 5).1.mpr (by omega), hstarts (by decide)⟩
  have := (hrounds 4).1.mp h
  omega

end RouteAudit.Go.Node
