import Mathlib.Data.List.MinMax
import RouteAudit.Proofs.GroupTable

/-! # Middleware goes to one group

Two groups of a table may look alike, so which of them a lookup finds is told by where the table
keeps it: a `GroupSlot` is the place of a named group or of a closure among those of its handle. A
lookup finds a slot and reads the group in it (`lookup_eq_bind_slot?`).

`GroupTable.use` writes to one slot. It never changes which slot a lookup finds, because it changes
no range (`slot?_use`), and it changes the group in the slot of its handle only (`groupAt?_use`).
A handle that has no slot gets a named one (`slot?_use_of_unknown`, `groupAt?_use_of_unknown`).

A lookup compares the ranges of all closures of a handle, so each of them has to have one.
`strictLookup?` demands it and has no answer otherwise. In a `Reachable` table it always has one,
the same as `lookup` (`Regular.strictLookup?_eq`). -/

namespace RouteAudit

open Go (Node Span)

/-- Where a table keeps a group. -/
inductive GroupSlot where
  | named (key : String)
  | closure (key : String) (index : ℕ)
deriving DecidableEq

namespace GroupTable

variable (t : GroupTable)

/-- The group in a slot. -/
def groupAt? : GroupSlot → Option Group
  | .named key => t.byName.lookup key
  | .closure key i => (t.closures key)[i]?

/-- The slot of the group that a handle means at a position. -/
def slot? (key : String) (position : ℕ) : Option GroupSlot :=
  match Group.innermost? position (t.closures key) with
  | some (i, _) => some (.closure key i)
  | none => if (t.byName.lookup key).isSome then some (.named key) else none

/-! ### Slots and lookups -/

theorem slot?_of_closure {k : String} {p i s : ℕ}
    (h : Group.innermost? p (t.closures k) = some (i, s)) : t.slot? k p = some (.closure k i) := by
  simp [slot?, h]

theorem slot?_of_named {k : String} {p : ℕ} (h : Group.innermost? p (t.closures k) = none) :
    t.slot? k p = if (t.byName.lookup k).isSome then some (.named k) else none := by
  simp [slot?, h]

theorem lookup_eq_bind_slot? (k : String) (p : ℕ) :
    t.lookup k p = (t.slot? k p).bind t.groupAt? := by
  cases h : Group.innermost? p (t.closures k) with
  | some q =>
      rw [t.lookup_of_closure h, t.slot?_of_closure h]
      rfl
  | none =>
      rw [t.lookup_of_named h, t.slot?_of_named h]
      cases hn : t.byName.lookup k with
      | none => rfl
      | some g => exact hn.symm

/-- A slot that is found is the innermost closure, or the named group if there is no closure. -/
theorem slot?_cases {k : String} {p : ℕ} {slot : GroupSlot} (h : t.slot? k p = some slot) :
    (∃ i s, Group.innermost? p (t.closures k) = some (i, s) ∧ slot = .closure k i) ∨
      Group.innermost? p (t.closures k) = none ∧ slot = .named k ∧
        ∃ g, t.byName.lookup k = some g := by
  cases hi : Group.innermost? p (t.closures k) with
  | some q =>
      rw [t.slot?_of_closure hi] at h
      exact .inl ⟨q.1, q.2, rfl, (Option.some.inj h).symm⟩
  | none =>
      rw [t.slot?_of_named hi] at h
      split at h
      · next hn => exact .inr ⟨rfl, (Option.some.inj h).symm, Option.isSome_iff_exists.mp hn⟩
      · cases h

theorem exists_groupAt? {k : String} {p : ℕ} {slot : GroupSlot} (h : t.slot? k p = some slot) :
    ∃ g, t.groupAt? slot = some g := by
  obtain ⟨i, s, hi, rfl⟩ | ⟨-, rfl, hg⟩ := t.slot?_cases h
  · obtain ⟨⟨g, hg, -⟩, -⟩ := Group.innermost?_eq_some hi
    exact ⟨g, hg⟩
  · exact hg

theorem lookup_of_slot? {k : String} {p : ℕ} {slot : GroupSlot} (h : t.slot? k p = some slot) :
    t.lookup k p = t.groupAt? slot := by
  rw [lookup_eq_bind_slot?, h, Option.bind_some]

theorem slot?_eq_none_iff {k : String} {p : ℕ} : t.slot? k p = none ↔ t.lookup k p = none := by
  cases h : t.slot? k p with
  | none => simp [lookup_eq_bind_slot?, h]
  | some slot =>
      obtain ⟨g, hg⟩ := t.exists_groupAt? h
      simp [t.lookup_of_slot? h, hg]

theorem lookup_byName_of_slot?_none {k : String} {p : ℕ} (h : t.slot? k p = none) :
    Group.innermost? p (t.closures k) = none ∧ t.byName.lookup k = none := by
  cases hi : Group.innermost? p (t.closures k) with
  | some q => cases (t.slot?_of_closure hi).symm.trans h
  | none =>
      rw [t.slot?_of_named hi] at h
      cases hn : t.byName.lookup k with
      | none => exact ⟨rfl, rfl⟩
      | some g => simp [hn] at h

/-! ### Slots after a use -/

section use
variable {t} {k : String} {b : ℕ} (refs : List Middleware)

theorem innermost?_closures_use (k : String) (b : ℕ) (k' : String) (p : ℕ) :
    Group.innermost? p ((t.use k b refs).closures k') = Group.innermost? p (t.closures k') :=
  Group.innermost?_congr p (t.map_scope_closures_use k b refs k')

/-- Which slot a lookup finds depends on the ranges of the closures and on the names that have a
group. -/
theorem slot?_congr {t t' : GroupTable} {k : String} {p : ℕ}
    (hrange : Group.innermost? p (t'.closures k) = Group.innermost? p (t.closures k))
    (hnamed : (t'.byName.lookup k).isSome = (t.byName.lookup k).isSome) :
    t'.slot? k p = t.slot? k p := by
  unfold slot?
  rw [hrange, hnamed]

theorem slot?_use {slot : GroupSlot} (h : t.slot? k b = some slot) (k' : String) (p : ℕ) :
    (t.use k b refs).slot? k' p = t.slot? k' p := by
  refine slot?_congr (innermost?_closures_use refs k b k' p) ?_
  obtain ⟨i, s, hi, -⟩ | ⟨hi, -, g, hg⟩ := t.slot?_cases h
  · rw [t.byName_use_of_closure refs hi]
  · rw [t.byName_use_of_named refs hi]
    by_cases hk : k' = k
    · rw [hk, Assoc.lookup_update_same, hg, Option.isSome_some, Option.isSome_some]
    · rw [Assoc.lookup_update_ne _ _ hk]

/-- A use of a known handle writes to the slot of the handle and to no other. -/
theorem groupAt?_use {slot : GroupSlot} (h : t.slot? k b = some slot) (slot' : GroupSlot) :
    (t.use k b refs).groupAt? slot' =
      if slot' = slot then (t.groupAt? slot').map (·.use refs) else t.groupAt? slot' := by
  obtain ⟨i, s, hi, rfl⟩ | ⟨hi, rfl, g, hg⟩ := t.slot?_cases h
  · cases slot' with
    | named k' => simp only [groupAt?, t.byName_use_of_closure refs hi, reduceCtorEq, if_false]
    | closure k' j =>
        simp only [groupAt?, t.closures_use_of_closure refs hi, GroupSlot.closure.injEq]
        by_cases hk : k' = k
        · rw [if_pos hk, List.getElem?_modify]
          by_cases hj : j = i
          · simp [hk, hj]
          · simp [hj, Ne.symm hj]
        · rw [if_neg hk, if_neg fun hc => hk hc.1]
  · cases slot' with
    | closure k' j => simp only [groupAt?, t.closures_use_of_named refs hi, reduceCtorEq, if_false]
    | named k' =>
        simp only [groupAt?, t.byName_use_of_named refs hi, GroupSlot.named.injEq]
        by_cases hk : k' = k
        · rw [if_pos hk, hk, Assoc.lookup_update_same, hg]
          rfl
        · rw [if_neg hk, Assoc.lookup_update_ne _ _ hk]

theorem slot?_use_of_unknown (h : t.slot? k b = none) (k' : String) (p : ℕ) :
    (t.use k b refs).slot? k' p =
      if k' = k ∧ t.slot? k' p = none then some (.named k) else t.slot? k' p := by
  obtain ⟨hi, hn⟩ := t.lookup_byName_of_slot?_none h
  have hrange := innermost?_closures_use (t := t) refs k b k' p
  by_cases hk : k' = k
  · subst hk
    have hadded : ((t.use k' b refs).byName.lookup k').isSome = true := by
      rw [t.byName_use_of_named refs hi, Assoc.lookup_update_same, Option.isSome_some]
    cases hp : Group.innermost? p (t.closures k') with
    | some q =>
        rw [hp] at hrange
        rw [slot?_of_closure _ hrange, slot?_of_closure _ hp, if_neg (by simp)]
    | none =>
        rw [hp] at hrange
        rw [slot?_of_named _ hrange, slot?_of_named _ hp, hn, if_pos hadded, if_pos (by simp)]
  · rw [if_neg fun hc => hk hc.1]
    refine slot?_congr hrange ?_
    rw [t.byName_use_of_named refs hi, Assoc.lookup_update_ne _ _ hk]

theorem groupAt?_use_of_unknown (h : t.slot? k b = none) (slot : GroupSlot) :
    (t.use k b refs).groupAt? slot =
      if slot = .named k then some ⟨"", refs, none⟩ else t.groupAt? slot := by
  obtain ⟨hi, hn⟩ := t.lookup_byName_of_slot?_none h
  cases slot with
  | closure k' j => simp only [groupAt?, t.closures_use_of_named refs hi, reduceCtorEq, if_false]
  | named k' =>
      simp only [groupAt?, t.byName_use_of_named refs hi, GroupSlot.named.injEq]
      by_cases hk : k' = k
      · subst hk
        rw [if_pos rfl, Assoc.lookup_update_same, hn]
        rfl
      · rw [if_neg hk, Assoc.lookup_update_ne _ _ hk]

/-! ### Lookups after a use -/

theorem lookup_use_of_same_slot {slot : GroupSlot} (h : t.slot? k b = some slot) {k' : String}
    {p : ℕ} (h' : t.slot? k' p = some slot) :
    (t.use k b refs).lookup k' p = (t.lookup k' p).map (·.use refs) := by
  have hslot : (t.use k b refs).slot? k' p = some slot := (slot?_use refs h k' p).trans h'
  rw [lookup_of_slot? _ hslot, lookup_of_slot? _ h', groupAt?_use refs h, if_pos rfl]

theorem lookup_use_of_other_slot {slot : GroupSlot} (h : t.slot? k b = some slot) {k' : String}
    {p : ℕ} (h' : t.slot? k' p ≠ some slot) :
    (t.use k b refs).lookup k' p = t.lookup k' p := by
  rw [lookup_eq_bind_slot?, lookup_eq_bind_slot?, slot?_use refs h]
  cases hs : t.slot? k' p with
  | none => rfl
  | some slot' =>
      have hne : slot' ≠ slot := fun he => h' (he ▸ hs)
      rw [Option.bind_some, Option.bind_some, groupAt?_use refs h, if_neg hne]

theorem lookup_use_of_unknown (h : t.slot? k b = none) (k' : String) (p : ℕ) :
    (t.use k b refs).lookup k' p =
      if k' = k ∧ t.lookup k' p = none then some ⟨"", refs, none⟩ else t.lookup k' p := by
  simp only [← slot?_eq_none_iff]
  rw [lookup_eq_bind_slot?, slot?_use_of_unknown refs h]
  by_cases hc : k' = k ∧ t.slot? k' p = none
  · rw [if_pos hc, if_pos hc, Option.bind_some, groupAt?_use_of_unknown refs h, if_pos rfl]
  · rw [if_neg hc, if_neg hc, lookup_eq_bind_slot?]
    cases hs : t.slot? k' p with
    | none => rfl
    | some slot =>
        -- the handle has no named group, so a slot that is found is not its named slot
        have hne : slot ≠ .named k := by
          rintro rfl
          obtain ⟨g, hg⟩ := t.exists_groupAt? hs
          exact absurd hg (by simp [groupAt?, (t.lookup_byName_of_slot?_none h).2])
        rw [Option.bind_some, Option.bind_some, groupAt?_use_of_unknown refs h, if_neg hne]

end use

/-! ### Ranges of closures -/

/-- Groups with their ranges, if all of them have one. -/
def ranged? (gs : List Group) : Option (List (Span × Group)) :=
  gs.mapM fun g => g.scope.map fun s => (s, g)

/-- The lookup that needs the range of every closure of the handle: of those around the position
the one that starts last, and the first of these. -/
def strictLookup? (key : String) (position : ℕ) : Option (Option Group) :=
  (ranged? (t.closures key)).map fun ranged =>
    (((ranged.filter fun q => q.1.holds position).argmax fun q => q.1.start).map Prod.snd).or
      (t.byName.lookup key)

theorem ranged?_cons_eq_some_iff {g : Group} {gs : List Group} {ranged : List (Span × Group)} :
    ranged? (g :: gs) = some ranged ↔
      ∃ s rest, g.scope = some s ∧ ranged? gs = some rest ∧ ranged = (s, g) :: rest := by
  simp only [ranged?, List.mapM_cons, Option.bind_eq_bind, Option.bind_eq_some_iff,
    Option.map_eq_some_iff]
  constructor
  · rintro ⟨_, ⟨s, hs, rfl⟩, rest, hrest, heq⟩
    exact ⟨s, rest, hs, hrest, (Option.some.inj heq).symm⟩
  · rintro ⟨s, rest, hs, hrest, rfl⟩
    exact ⟨(s, g), ⟨s, hs, rfl⟩, rest, hrest, rfl⟩

theorem exists_ranged? {gs : List Group} (h : ∀ g ∈ gs, g.scope ≠ none) :
    ∃ ranged, ranged? gs = some ranged := by
  induction gs with
  | nil => exact ⟨[], rfl⟩
  | cons g gs ih =>
      rw [List.forall_mem_cons] at h
      obtain ⟨s, hs⟩ := Option.ne_none_iff_exists'.mp h.1
      obtain ⟨ranged, hranged⟩ := ih h.2
      exact ⟨_, ranged?_cons_eq_some_iff.mpr ⟨s, ranged, hs, hranged, rfl⟩⟩

/-- The innermost group is the greatest by start among those around the position. -/
theorem argmax_ranged? (p : ℕ) : ∀ {gs : List Group} {ranged : List (Span × Group)},
    ranged? gs = some ranged →
      (((ranged.filter fun q => q.1.holds p).argmax fun q => q.1.start).map fun q =>
          (q.1.start, q.2)) =
        (Group.innermost? p gs).bind fun q => gs[q.1]?.map fun g => (q.2, g)
  | [], ranged, h => by
      cases h
      rfl
  | g :: gs, ranged, h => by
      obtain ⟨s, rest, hs, hrest, rfl⟩ := ranged?_cons_eq_some_iff.mp h
      have ih := argmax_ranged? p hrest
      cases hp : s.holds p with
      | false =>
          have hg : g.startAround? p = none := by simp [Group.startAround?, hs, hp]
          rw [List.filter_cons_of_neg (by simp [hp]), ih, Group.innermost?, hg]
          cases Group.innermost? p gs with
          | none => rfl
          | some q => rfl
      | true =>
          have hg : g.startAround? p = some s.start := by simp [Group.startAround?, hs, hp]
          rw [List.filter_cons_of_pos (by simp [hp]), List.argmax_cons]
          cases hi : Group.innermost? p gs with
          | none =>
              rw [hi, Option.bind_none, Option.map_eq_none_iff] at ih
              rw [ih, Group.innermost?, hg, hi]
              rfl
          | some q =>
              obtain ⟨⟨g', hg', -⟩, -⟩ := Group.innermost?_eq_some hi
              rw [hi, Option.bind_some, hg', Option.map_some, Option.map_eq_some_iff] at ih
              obtain ⟨r, hr, heq⟩ := ih
              obtain ⟨hstart, rfl⟩ := Prod.mk.inj heq
              rw [hr, Group.innermost?, hg, hi]
              dsimp only
              rw [hstart]
              split
              · simp [hg', hstart]
              · rfl

theorem Regular.strictLookup?_eq {t : GroupTable} (h : t.Regular) (key : String) (p : ℕ) :
    t.strictLookup? key p = some (t.lookup key p) := by
  obtain ⟨ranged, hranged⟩ := exists_ranged? (h.ranged key)
  have hmax := argmax_ranged? p hranged
  rw [strictLookup?, hranged, Option.map_some]
  congr 1
  cases hi : Group.innermost? p (t.closures key) with
  | none =>
      rw [hi, Option.bind_none, Option.map_eq_none_iff] at hmax
      rw [hmax, t.lookup_of_named hi]
      rfl
  | some q =>
      obtain ⟨⟨g, hg, -⟩, -⟩ := Group.innermost?_eq_some hi
      rw [hi, Option.bind_some, hg, Option.map_some, Option.map_eq_some_iff] at hmax
      obtain ⟨r, hr, heq⟩ := hmax
      obtain ⟨-, rfl⟩ := Prod.mk.inj heq
      rw [hr, t.lookup_of_closure hi, hg]
      rfl

/-! ### Reachable tables -/

/-- The tables that bindings and uses make of an empty one. -/
inductive Reachable : GroupTable → Prop where
  | empty : Reachable {}
  | bind {t : GroupTable} (h : Reachable t) (key : String) (g : Group) : Reachable (t.bind key g)
  | use {t : GroupTable} (h : Reachable t) (key : String) (position : ℕ) (refs : List Middleware) :
      Reachable (t.use key position refs)

theorem Reachable.regular {t : GroupTable} (h : t.Reachable) : t.Regular := by
  induction h with
  | empty => exact regular_empty
  | bind _ key g ih => exact ih.bind key g
  | use _ key position refs ih => exact ih.use key position refs

theorem Reachable.run {t : GroupTable} (h : t.Reachable) (ss : List GroupStep) :
    (t.run ss).Reachable := by
  induction ss generalizing t with
  | nil => exact h
  | cons s rest ih =>
      refine ih ?_
      cases s with
      | bind key parent position inner refs scope => exact h.bind key _
      | use key position refs => exact h.use key position refs

theorem reachable_findGroups (d : Detector) (root : Node) : (d.findGroups root).Reachable := by
  rw [d.findGroups_eq_run]
  exact Reachable.empty.run _

/-- **A use touches one group only.** In a table that bindings and uses have made, let a handle be
used at a position. If the handle means a group there, the lookups that find this very group see its
middleware extended at the end and its prefix and range unchanged, and all others find what they
found before. If it means none, the lookups of that handle that found nothing now find a named
group with this middleware and no prefix, and all others find what they found before.

In such a table named groups have no range and closures have one. A lookup can therefore compare the
ranges of closures and never fails. -/
theorem use_touches_one_group {t : GroupTable} (h : t.Reachable) (k : String) (b : ℕ)
    (refs : List Middleware) :
    (∀ slot, t.slot? k b = some slot → ∀ k' b',
      (t.slot? k' b' = some slot → ∃ g, t.lookup k' b' = some g ∧
        (t.use k b refs).lookup k' b' = some ⟨g.pathPrefix, g.middleware ++ refs, g.scope⟩) ∧
      (t.slot? k' b' ≠ some slot → (t.use k b refs).lookup k' b' = t.lookup k' b')) ∧
    (t.lookup k b = none → ∀ k' b', (t.use k b refs).lookup k' b' =
      if k' = k ∧ t.lookup k' b' = none then some ⟨"", refs, none⟩ else t.lookup k' b') ∧
    (∀ k' b', t.lookup k' b' = (t.slot? k' b').bind t.groupAt? ∧
      (t.slot? k' b' = none ↔ t.lookup k' b' = none)) ∧
    (∀ k' g, t.byName.lookup k' = some g → g.scope = none) ∧
    (∀ k', ∀ g ∈ t.closures k', g.scope ≠ none) ∧
    ∀ k' b', t.strictLookup? k' b' = some (t.lookup k' b') := by
  refine ⟨fun slot hslot k' b' => ⟨fun hsame => ?_, fun hother => ?_⟩, fun hnone k' b' => ?_,
    fun k' b' => ⟨t.lookup_eq_bind_slot? k' b', t.slot?_eq_none_iff⟩, h.regular.named,
    h.regular.ranged, fun k' b' => h.regular.strictLookup?_eq k' b'⟩
  · obtain ⟨g, hg⟩ := t.exists_groupAt? hsame
    have hlookup : t.lookup k' b' = some g := (t.lookup_of_slot? hsame).trans hg
    refine ⟨g, hlookup, ?_⟩
    rw [lookup_use_of_same_slot refs hslot hsame, hlookup]
    rfl
  · exact lookup_use_of_other_slot refs hslot hother
  · exact lookup_use_of_unknown refs (t.slot?_eq_none_iff.mpr hnone) k' b'

/-- A handle with a named group and three closures, two of which start together. -/
def tiedTable : GroupTable :=
  (((GroupTable.bind {} "r" ⟨"/api", [], none⟩).bind "r" ⟨"/left", [], some ⟨10, 50⟩⟩).bind "r"
    ⟨"/right", [], some ⟨10, 30⟩⟩).bind "r" ⟨"/inner", [], some ⟨20, 25⟩⟩

/-- Of the closures that start together the one bound first gets the middleware, also where a lookup
finds it at another position. A handle without a group becomes a named one. -/
theorem tiedTable_use_touches_one :
    let auth : List Middleware := [⟨"Auth", []⟩]
    let used := tiedTable.use "r" 12 auth
    used.lookup "r" 40 = some ⟨"/left", auth, some ⟨10, 50⟩⟩ ∧
      used.lookup "r" 22 = some ⟨"/inner", [], some ⟨20, 25⟩⟩ ∧
      used.lookup "r" 60 = some ⟨"/api", [], none⟩ ∧
      (tiedTable.use "s" 12 auth).lookup "s" 0 = some ⟨"", auth, none⟩ ∧
      tiedTable.strictLookup? "r" 22 = some (tiedTable.lookup "r" 22) := by
  intro auth used
  have hreachable : tiedTable.Reachable :=
    (((Reachable.empty.bind "r" _).bind "r" _).bind "r" _).bind "r" _
  obtain ⟨hknown, -, -, -, -, hstrict⟩ := use_touches_one_group hreachable "r" 12 auth
  obtain ⟨-, hunknown, -⟩ := use_touches_one_group hreachable "s" 12 auth
  have hslot : tiedTable.slot? "r" 12 = some (.closure "r" 0) := by decide
  refine ⟨?_, ?_, ?_, ?_, hstrict "r" 22⟩
  · obtain ⟨g, hg, hused⟩ := (hknown _ hslot "r" 40).1 (by decide)
    obtain rfl : (⟨"/left", [], some ⟨10, 50⟩⟩ : Group) = g := Option.some.inj hg
    exact hused
  · exact (hknown _ hslot "r" 22).2 (by decide)
  · exact (hknown _ hslot "r" 60).2 (by decide)
  · exact hunknown (by decide) "s" 0

end GroupTable

end RouteAudit
