import Mathlib.Data.List.Forall2

/-! # Steps and traversals that may fail

What is known of the parts when a step after another one, or a traversal of a list, has succeeded or
failed. -/

namespace RouteAudit

variable {ε α β γ : Type}

/-! ### Steps -/

theorem Except.exists_of_bind_eq_ok {x : Except ε α} {f : α → Except ε β} {b : β}
    (h : x >>= f = .ok b) : ∃ a, x = .ok a ∧ f a = .ok b := by
  cases x with
  | error e => cases h
  | ok a => exact ⟨a, rfl, h⟩

theorem Except.error_of_bind {x : Except ε α} {f : α → Except ε β} {e : ε}
    (h : x >>= f = .error e) : x = .error e ∨ ∃ a, x = .ok a ∧ f a = .error e := by
  cases x with
  | error e' =>
      cases h
      exact .inl rfl
  | ok a => exact .inr ⟨a, rfl, h⟩

theorem Except.eq_ok_of_mapError {ε' : Type} {x : Except ε α} {f : ε → ε'} {a : α}
    (h : x.mapError f = .ok a) : x = .ok a := by
  cases x with
  | ok b => exact congrArg Except.ok (Except.ok.inj h)
  | error e => cases h

theorem Except.eq_ok_of_toOption {x : Except ε α} {a : α} (h : x.toOption = some a) :
    x = .ok a := by
  cases x with
  | ok b => exact congrArg Except.ok (Option.some.inj h)
  | error e => cases h

/-! ### Traversals -/

theorem mapM_eq_ok_iff {f : α → Except ε β} {xs : List α} {ys : List β} :
    xs.mapM f = .ok ys ↔ List.Forall₂ (fun a b => f a = .ok b) xs ys := by
  induction xs generalizing ys with
  | nil =>
      rw [List.mapM_nil, List.forall₂_nil_left_iff]
      exact ⟨fun h => (Except.ok.inj h).symm, fun h => congrArg Except.ok h.symm⟩
  | cons a rest ih =>
      rw [List.mapM_cons]
      constructor
      · intro h
        obtain ⟨b, ha, h⟩ := Except.exists_of_bind_eq_ok h
        obtain ⟨bs, hrest, h⟩ := Except.exists_of_bind_eq_ok h
        cases h
        exact .cons ha (ih.mp hrest)
      · intro h
        cases h with
        | cons ha hrest =>
            rw [ha, ih.mpr hrest]
            rfl

theorem exists_of_mem_mapM {f : α → Except ε β} {xs : List α} {ys : List β} {b : β}
    (h : xs.mapM f = .ok ys) (hb : b ∈ ys) : ∃ a ∈ xs, f a = .ok b := by
  obtain ⟨i, hi, rfl⟩ := List.getElem_of_mem hb
  obtain ⟨hlength, hget⟩ := List.forall₂_iff_get.mp (mapM_eq_ok_iff.mp h)
  have hi' : i < xs.length := hlength ▸ hi
  exact ⟨xs[i], List.getElem_mem hi', hget i hi' hi⟩

theorem mapM_eq_map {f : α → Except ε β} {value : α → β} {xs : List α}
    (h : ∀ a ∈ xs, f a = .ok (value a)) : xs.mapM f = .ok (xs.map value) := by
  rw [mapM_eq_ok_iff, List.forall₂_map_right_iff, List.forall₂_same]
  exact h

/-- A traversal that fails fails like the first step that does. -/
theorem mapM_cases (f : α → Except ε β) (xs : List α) :
    (∀ a ∈ xs, ∃ b, f a = .ok b) ∨
    ∃ before a after e, xs = before ++ a :: after ∧ (∀ a ∈ before, ∃ b, f a = .ok b) ∧
      f a = .error e ∧ xs.mapM f = .error e := by
  induction xs with
  | nil => exact .inl fun _ ha => absurd ha List.not_mem_nil
  | cons a rest ih =>
      rw [List.mapM_cons]
      cases ha : f a with
      | error e => exact .inr ⟨[], a, rest, e, rfl, fun _ hb => absurd hb List.not_mem_nil, ha, rfl⟩
      | ok b =>
          obtain hall | ⟨before, a', after, e, hsplit, hbefore, ha', herr⟩ := ih
          · exact .inl (List.forall_mem_cons.mpr ⟨⟨b, ha⟩, hall⟩)
          · refine .inr ⟨a :: before, a', after, e, by rw [hsplit, List.cons_append],
              List.forall_mem_cons.mpr ⟨⟨b, ha⟩, hbefore⟩, ha', ?_⟩
            rw [herr]
            rfl

theorem mapM_flatMap (f : α → List β) (g : β → Except ε γ) (xs : List α) :
    (xs.flatMap f).mapM g = List.flatten <$> xs.mapM fun x => (f x).mapM g := by
  induction xs with
  | nil => rfl
  | cons x rest ih =>
      rw [List.flatMap_cons, List.mapM_append, List.mapM_cons, ih]
      cases (f x).mapM g with
      | error e => rfl
      | ok head =>
          cases rest.mapM fun x => (f x).mapM g with
          | error e => rfl
          | ok tail => rfl

end RouteAudit
