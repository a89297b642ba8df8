/-! # Association lists

Lists of keys with values that keep the order in which the keys were first given. `update` changes
the value under a key or adds the key at the end, and `set` replaces the value. -/

namespace RouteAudit.Assoc

variable {α : Type}

/-- Change the value under a key, or add the key at the end with a value made from nothing. -/
def update (key : String) (f : Option α → α) : List (String × α) → List (String × α)
  | [] => [(key, f none)]
  | (k, v) :: rest => if k = key then (k, f (some v)) :: rest else (k, v) :: update key f rest

/-- Give a key a value; a known key keeps its place. -/
def set (key : String) (value : α) (xs : List (String × α)) : List (String × α) :=
  update key (fun _ => value) xs

theorem lookup_update_same (key : String) (f : Option α → α) (xs : List (String × α)) :
    (update key f xs).lookup key = some (f (xs.lookup key)) := by
  induction xs with
  | nil => simp [update]
  | cons x rest ih =>
    obtain ⟨k, v⟩ := x
    by_cases h : k = key
    · simp [update, h]
    · have h' : (key == k) = false := by simpa using fun e => h e.symm
      simp [update, h, List.lookup_cons, h', ih]

theorem lookup_update_ne {key other : String} (f : Option α → α) (xs : List (String × α))
    (h : other ≠ key) : (update key f xs).lookup other = xs.lookup other := by
  induction xs with
  | nil =>
    have h' : (other == key) = false := by simpa using h
    simp [update, List.lookup_cons, h']
  | cons x rest ih =>
    obtain ⟨k, v⟩ := x
    by_cases hk : k = key
    · subst hk
      have h' : (other == k) = false := by simpa using h
      simp [update, List.lookup_cons, h']
    · simp only [update, hk, if_false, List.lookup_cons, ih]

@[simp] theorem lookup_set_same (key : String) (value : α) (xs : List (String × α)) :
    (set key value xs).lookup key = some value := lookup_update_same ..

theorem lookup_set_ne {key other : String} (value : α) (xs : List (String × α))
    (h : other ≠ key) : (set key value xs).lookup other = xs.lookup other := lookup_update_ne _ _ h

end RouteAudit.Assoc
