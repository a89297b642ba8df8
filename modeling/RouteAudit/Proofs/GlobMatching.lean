import Mathlib.Data.List.Basic
import Mathlib.Data.List.Forall2
import RouteAudit.Pattern.Glob

/-! # What globs match

A glob matches a text item by item, so a glob that is put together of two matches the texts that are
put together of what the two match (`covers_append`). Stars take any characters, all other items
exactly one, and a glob matches what can be cut into pieces that its items take
(`covers_iff_pieces`).

Two stars and a slash in front of a glob are read as a star and a slash, whatever follows them
(`parse_anchored`). So `anchored_glob_at_any_level`: such a glob matches a path when the rest of it
matches the path or what follows one of its slashes.

How a glob ends can be read off its text: unless that ends in a question mark or in the bracket that
closes a set, its last character is a star or stands for itself (`getLast?_items`). -/

namespace RouteAudit

theorem Text.eq_of_cutAt {sep : Char} {s before after : List Char}
    (h : cutAt sep s = some (before, after)) : s = before ++ sep :: after := by
  induction s generalizing before with
  | nil => cases h
  | cons c rest ih =>
      rw [cutAt] at h
      split at h
      · next hc =>
          cases h
          rw [hc, List.nil_append]
      · obtain ⟨⟨b, a⟩, hcut, heq⟩ := Option.map_eq_some_iff.mp h
        cases heq
        rw [ih hcut, List.cons_append]

namespace Glob

/-! ### Matching -/

theorem someRest_iff {p : List Char → Bool} {cs : List Char} :
    someRest p cs = true ↔ ∃ xs ys, cs = xs ++ ys ∧ p ys = true := by
  induction cs with
  | nil => simp [someRest]
  | cons c cs ih =>
      rw [someRest, Bool.or_eq_true, ih]
      constructor
      · rintro (h | ⟨xs, ys, rfl, h⟩)
        · exact ⟨[], c :: cs, rfl, h⟩
        · exact ⟨c :: xs, ys, rfl, h⟩
      · rintro ⟨xs, ys, heq, h⟩
        cases xs with
        | nil => exact .inl (by rwa [heq])
        | cons x xs =>
            cases heq
            exact .inr ⟨xs, ys, rfl, h⟩

@[simp] theorem covers_nil {cs : List Char} : covers [] cs = true ↔ cs = [] := by
  rw [covers, List.isEmpty_iff]

theorem covers_star_cons {g : Glob} {cs : List Char} :
    covers (.star :: g) cs = true ↔ ∃ xs ys, cs = xs ++ ys ∧ covers g ys = true := by
  rw [covers, someRest_iff]

theorem covers_item_cons {item : GlobItem} (hitem : item ≠ .star) {g : Glob} {cs : List Char} :
    covers (item :: g) cs = true ↔
      ∃ c rest, cs = c :: rest ∧ accepts item c = true ∧ covers g rest = true := by
  cases item with
  | star => exact absurd rfl hitem
  | any => cases cs <;> simp [covers]
  | one d => cases cs <;> simp [covers]
  | set negated ranges => cases cs <;> simp [covers]

theorem covers_append {g h : Glob} {cs : List Char} :
    covers (g ++ h) cs = true ↔
      ∃ xs ys, cs = xs ++ ys ∧ covers g xs = true ∧ covers h ys = true := by
  induction g generalizing cs with
  | nil => simp
  | cons item g ih =>
      rw [List.cons_append]
      by_cases hitem : item = .star
      · subst hitem
        simp only [covers_star_cons, ih]
        constructor
        · rintro ⟨us, _, rfl, xs, ys, rfl, hg, hh⟩
          exact ⟨us ++ xs, ys, by simp, ⟨us, xs, rfl, hg⟩, hh⟩
        · rintro ⟨_, ys, rfl, ⟨us, xs, rfl, hg⟩, hh⟩
          exact ⟨us, xs ++ ys, by simp, xs, ys, rfl, hg, hh⟩
      · simp only [covers_item_cons hitem, ih]
        constructor
        · rintro ⟨c, _, rfl, hc, xs, ys, rfl, hg, hh⟩
          exact ⟨c :: xs, ys, rfl, ⟨c, xs, rfl, hc, hg⟩, hh⟩
        · rintro ⟨_, ys, rfl, ⟨c, xs, rfl, hc, hg⟩, hh⟩
          exact ⟨c, xs ++ ys, rfl, hc, xs, ys, rfl, hg, hh⟩

@[simp] theorem covers_star (cs : List Char) : covers [.star] cs = true := by
  rw [covers_star_cons]
  exact ⟨cs, [], by simp⟩

theorem covers_literal {word : List Char} {cs : List Char} :
    covers (word.map .one) cs = true ↔ cs = word := by
  induction word generalizing cs with
  | nil => simp
  | cons c word ih =>
      rw [List.map_cons, covers_item_cons (by simp)]
      simp only [ih, accepts, beq_iff_eq]
      constructor
      · rintro ⟨_, _, rfl, rfl, rfl⟩
        rfl
      · rintro rfl
        exact ⟨c, word, rfl, rfl, rfl⟩

/-- What an item can stand for. -/
inductive Takes : GlobItem → List Char → Prop where
  | star (cs : List Char) : Takes .star cs
  | any (c : Char) : Takes .any [c]
  | one (c : Char) : Takes (.one c) [c]
  | inside {ranges : List CharRange} {c : Char} (h : ∃ r ∈ ranges, r.low ≤ c ∧ c ≤ r.high) :
      Takes (.set false ranges) [c]
  | outside {ranges : List CharRange} {c : Char} (h : ∀ r ∈ ranges, ¬(r.low ≤ c ∧ c ≤ r.high)) :
      Takes (.set true ranges) [c]

theorem any_holds_iff {ranges : List CharRange} {c : Char} :
    (ranges.any fun r => r.holds c) = true ↔ ∃ r ∈ ranges, r.low ≤ c ∧ c ≤ r.high := by
  simp [CharRange.holds]

theorem takes_iff {item : GlobItem} (hitem : item ≠ .star) {cs : List Char} :
    Takes item cs ↔ ∃ c, cs = [c] ∧ accepts item c = true := by
  constructor
  · intro h
    cases h with
    | star => exact absurd rfl hitem
    | any c => exact ⟨c, rfl, rfl⟩
    | one c => exact ⟨c, rfl, by simp [accepts]⟩
    | @inside ranges c h => exact ⟨c, rfl, by simp [accepts, any_holds_iff.mpr h]⟩
    | @outside ranges c h =>
        have hnone : (ranges.any fun r => r.holds c) = false := by
          rw [← Bool.not_eq_true, any_holds_iff]
          rintro ⟨r, hr, hc⟩
          exact h r hr hc
        exact ⟨c, rfl, by simp [accepts, hnone]⟩
  · rintro ⟨c, rfl, h⟩
    cases item with
    | star => exact absurd rfl hitem
    | any => exact .any c
    | one d =>
        obtain rfl : c = d := by simpa [accepts] using h
        exact .one c
    | set negated ranges =>
        cases negated with
        | false => exact .inside (any_holds_iff.mp (by simpa [accepts] using h))
        | true =>
            refine .outside fun r hr hc => ?_
            have hany := any_holds_iff.mpr ⟨r, hr, hc⟩
            simp [accepts, hany] at h

/-- A glob matches what can be cut into pieces that its items take. -/
theorem covers_iff_pieces {g : Glob} {cs : List Char} :
    covers g cs = true ↔ ∃ pieces, cs = pieces.flatten ∧ List.Forall₂ Takes g pieces := by
  induction g generalizing cs with
  | nil => simp
  | cons item g ih =>
      simp only [List.forall₂_cons_left_iff]
      by_cases hitem : item = .star
      · subst hitem
        rw [covers_star_cons]
        constructor
        · rintro ⟨xs, ys, rfl, h⟩
          obtain ⟨pieces, rfl, hpieces⟩ := ih.mp h
          exact ⟨xs :: pieces, rfl, xs, pieces, .star xs, hpieces, rfl⟩
        · rintro ⟨_, rfl, xs, pieces, -, hpieces, rfl⟩
          exact ⟨xs, pieces.flatten, rfl, ih.mpr ⟨pieces, rfl, hpieces⟩⟩
      · rw [covers_item_cons hitem]
        constructor
        · rintro ⟨c, rest, rfl, hc, h⟩
          obtain ⟨pieces, rfl, hpieces⟩ := ih.mp h
          exact ⟨[c] :: pieces, rfl, [c], pieces, (takes_iff hitem).mpr ⟨c, rfl, hc⟩, hpieces, rfl⟩
        · rintro ⟨_, rfl, piece, pieces, hpiece, hpieces, rfl⟩
          obtain ⟨c, rfl, hc⟩ := (takes_iff hitem).mp hpiece
          exact ⟨c, pieces.flatten, rfl, hc, ih.mpr ⟨pieces, rfl, hpieces⟩⟩

theorem covers_of_getLast?_star {g : Glob} (hlast : g.getLast? = some .star) {cs : List Char}
    (h : covers g cs = true) (more : List Char) : covers g (cs ++ more) = true := by
  obtain ⟨g, rfl⟩ := List.getLast?_eq_some_iff.mp hlast
  rw [covers_append] at h ⊢
  obtain ⟨xs, ys, rfl, hg, -⟩ := h
  exact ⟨xs, ys ++ more, by simp, hg, covers_star _⟩

theorem getLast?_of_covers {g : Glob} {c : Char} (hlast : g.getLast? = some (.one c))
    {cs : List Char} (h : covers g cs = true) : cs.getLast? = some c := by
  obtain ⟨g, rfl⟩ := List.getLast?_eq_some_iff.mp hlast
  rw [covers_append] at h
  obtain ⟨xs, ys, rfl, -, hc⟩ := h
  have hword : covers ([c].map .one) ys = true := hc
  rw [covers_literal.mp hword]
  simp

/-- A star and a slash in front of a glob, tried with and without a slash in front of the text: the
rest of the glob matches the text or what follows one of its slashes. -/
theorem covers_anchored {g : Glob} {cs : List Char} :
    covers (.star :: .one '/' :: g) cs = true ∨
        covers (.star :: .one '/' :: g) ('/' :: cs) = true ↔
      ∃ w, covers g w = true ∧ (w = cs ∨ ∃ before, cs = before ++ '/' :: w) := by
  have hslash : ∀ {ds : List Char}, covers (.star :: .one '/' :: g) ds = true ↔
      ∃ before w, ds = before ++ '/' :: w ∧ covers g w = true := by
    intro ds
    rw [covers_star_cons]
    constructor
    · rintro ⟨before, _, rfl, h⟩
      obtain ⟨c, w, rfl, hc, hw⟩ := (covers_item_cons (by simp)).mp h
      obtain rfl : c = '/' := by simpa [accepts] using hc
      exact ⟨before, w, rfl, hw⟩
    · rintro ⟨before, w, rfl, hw⟩
      exact ⟨before, '/' :: w, rfl, (covers_item_cons (by simp)).mpr ⟨'/', w, rfl, rfl, hw⟩⟩
  rw [hslash, hslash]
  constructor
  · rintro (⟨before, w, rfl, hw⟩ | ⟨before, w, heq, hw⟩)
    · exact ⟨w, hw, .inr ⟨before, rfl⟩⟩
    · cases before with
      | nil => exact ⟨w, hw, .inl (List.cons.inj heq).2.symm⟩
      | cons c before => exact ⟨w, hw, .inr ⟨before, (List.cons.inj heq).2⟩⟩
  · rintro ⟨w, hw, rfl | ⟨before, rfl⟩⟩
    · exact .inr ⟨[], w, rfl, hw⟩
    · exact .inl ⟨before, w, rfl, hw⟩

/-! ### Reading globs -/

theorem eq_of_splitSet {cs inside after : List Char} (h : splitSet cs = some (inside, after)) :
    ∃ start, cs = start ++ ']' :: after := by
  unfold splitSet at h
  extract_lets lead at h
  obtain ⟨⟨before, rest⟩, hcut, heq⟩ := Option.map_eq_some_iff.mp h
  cases heq
  refine ⟨cs.take lead ++ before, ?_⟩
  rw [List.append_assoc, ← Text.eq_of_cutAt hcut, List.take_append_drop]

@[simp] theorem items_nil (bound : ℕ) : items bound [] = [] := by
  cases bound <;> rfl

/-- Two stars and a slash in front are a star and a slash, and the rest is read as by itself. -/
theorem parse_anchored (pattern : String) :
    parse ("**/" ++ pattern) = .star :: .one '/' :: parse pattern := by
  have hlength : ("**/" ++ pattern).length = pattern.length + 3 := by
    rw [String.length_append]
    exact Nat.add_comm 3 _
  have htext : ("**/" ++ pattern).toList = '*' :: '*' :: '/' :: pattern.toList := by
    rw [String.toList_append]
    rfl
  rw [parse, parse, hlength, htext]
  rfl

theorem getLast?_items {bound : ℕ} {cs : List Char} {c : Char} (hbound : cs.length ≤ bound)
    (hlast : cs.getLast? = some c) (hquestion : c ≠ '?') (hbracket : c ≠ ']') :
    (items bound cs).getLast? = some (if c = '*' then .star else .one c) := by
  -- either the first character is the last one, or the induction speaks of the rest
  have cut : ∀ {d : Char} {rest : List Char}, (d :: rest).getLast? = some c →
      rest = [] ∧ d = c ∨ rest.getLast? = some c := by
    intro d rest h
    cases rest with
    | nil => exact .inl ⟨rfl, Option.some.inj h⟩
    | cons e rest => exact .inr (by rwa [List.getLast?_cons_cons] at h)
  fun_induction items bound cs with
  | case1 cs =>
      rw [List.length_eq_zero_iff.mp (Nat.le_zero.mp hbound)] at hlast
      cases hlast
  | case2 => cases hlast
  | case3 bound rest more hmore ih =>
      rcases cut hlast with ⟨rfl, rfl⟩ | hrest
      · cases (items_nil bound).symm.trans hmore
      · rw [← hmore]
        exact ih (Nat.le_of_succ_le_succ hbound) hrest
  | case4 bound rest hne ih =>
      rcases cut hlast with ⟨rfl, rfl⟩ | hrest
      · simp
      · rw [List.getLast?_cons, ih (Nat.le_of_succ_le_succ hbound) hrest, Option.getD_some]
  | case5 bound rest ih =>
      rcases cut hlast with ⟨rfl, rfl⟩ | hrest
      · exact absurd rfl hquestion
      · rw [List.getLast?_cons, ih (Nat.le_of_succ_le_succ hbound) hrest, Option.getD_some]
  | case6 bound rest inside after hset ih =>
      obtain ⟨start, rfl⟩ := eq_of_splitSet hset
      rcases cut hlast with ⟨hnil, -⟩ | hrest
      · simp at hnil
      · rw [List.getLast?_append, List.getLast?_cons, Option.some_or] at hrest
        cases hafter : after.getLast? with
        | none =>
            rw [hafter, Option.getD_none] at hrest
            exact absurd (Option.some.inj hrest).symm hbracket
        | some e =>
            rw [hafter, Option.getD_some] at hrest
            have hshort : after.length ≤ bound := by
              simp only [List.length_cons, List.length_append] at hbound
              omega
            rw [List.getLast?_cons, ih hshort (hafter.trans hrest), Option.getD_some]
  | case7 bound rest hset ih =>
      rcases cut hlast with ⟨rfl, rfl⟩ | hrest
      · simp
      · rw [List.getLast?_cons, ih (Nat.le_of_succ_le_succ hbound) hrest, Option.getD_some]
  | case8 bound d rest hstar hmark hopen ih =>
      rcases cut hlast with ⟨rfl, rfl⟩ | hrest
      · rw [items_nil, if_neg hstar]
        rfl
      · rw [List.getLast?_cons, ih (Nat.le_of_succ_le_succ hbound) hrest, Option.getD_some]

end Glob

/-- **Two stars and a slash anchor a glob at any level.** A glob with them in front matches a path
exactly when the rest of it matches the path as a whole or what follows one of its slashes. A glob
matches a text when the text can be cut into pieces, one for each item of the glob: any characters
for a star, and one character, of those that it stands for, for any other item. -/
theorem anchored_glob_at_any_level (pattern path : String) :
    (matchesAnyGlob path ["**/" ++ pattern] = true ↔
      ∃ w, Glob.fits pattern w = true ∧ (w = path ∨ ∃ before, path = before ++ "/" ++ w)) ∧
    ∀ w : String, Glob.fits pattern w = true ↔
      ∃ pieces, w.toList = pieces.flatten ∧
        List.Forall₂ Glob.Takes (Glob.parse pattern) pieces := by
  refine ⟨?_, fun w => Glob.covers_iff_pieces⟩
  rw [matchesAnyGlob, List.any_cons, List.any_nil, Bool.or_false, Bool.or_eq_true, Glob.fits,
    Glob.fits, Glob.parse_anchored, String.toList_append]
  refine Glob.covers_anchored.trans ?_
  constructor
  · rintro ⟨w, hw, hplace⟩
    refine ⟨String.ofList w, by rwa [Glob.fits, String.toList_ofList], ?_⟩
    rcases hplace with rfl | ⟨before, heq⟩
    · exact .inl (String.ofList_toList)
    · refine .inr ⟨String.ofList before, String.toList_injective ?_⟩
      simpa using heq
  · rintro ⟨w, hw, rfl | ⟨before, rfl⟩⟩
    · exact ⟨w.toList, hw, .inl rfl⟩
    · exact ⟨w.toList, hw, .inr ⟨before.toList, by simp⟩⟩

/-- The slash in front of a path lets the glob match at the top, and a star takes slashes. -/
example : matchesAnyGlob "main.go" ["**/m*[n-p].g?"] = true ∧
    matchesAnyGlob "a/b/main.go" ["**/b*.go"] = true ∧
    matchesAnyGlob "xmain.go" ["**/main.go"] = false := by decide

end RouteAudit
