import Mathlib.Data.List.Basic
import RouteAudit.Text.Basic

/-! # Parts and the text that joins them

`Text.join` writes a separator between parts, and `Text.split` cuts a text at its separators. Parts
that do not contain the separator are found again (`split_join`), so texts joined of such parts are
equal exactly when the parts are (`join_inj`). -/

namespace RouteAudit.Text

/-! ### Cutting what was joined -/

theorem splitAt_of_not_mem {sep : Char} : ∀ {s : List Char}, sep ∉ s → splitAt sep s = [s]
  | [], _ => rfl
  | c :: s, h => by
      rw [List.mem_cons, not_or] at h
      rw [splitAt, if_neg (Ne.symm h.1), splitAt_of_not_mem h.2]

theorem splitAt_append_sep {sep : Char} (rest : List Char) : ∀ s : List Char,
    splitAt sep (s ++ sep :: rest) = splitAt sep s ++ splitAt sep rest
  | [] => by simp [splitAt]
  | c :: s => by
      rw [List.cons_append, splitAt, splitAt, splitAt_append_sep rest s]
      split
      · rw [List.cons_append]
      · cases h : splitAt sep s with
        | nil => exact absurd h (splitAt_ne_nil sep s)
        | cons part parts => rfl

theorem splitAt_append_cons {sep : Char} (rest : List Char) {s : List Char} (h : sep ∉ s) :
    splitAt sep (s ++ sep :: rest) = s :: splitAt sep rest := by
  rw [splitAt_append_sep, splitAt_of_not_mem h, List.singleton_append]

/-- Parts without the separator are found again in the text that joins them. -/
theorem splitAt_intercalate {sep : Char} : ∀ {ps : List (List Char)}, ps ≠ [] →
    (∀ p ∈ ps, sep ∉ p) → splitAt sep (List.intercalate [sep] ps) = ps
  | [], hne, _ => absurd rfl hne
  | [p], _, h => by
      rw [List.intercalate_singleton, splitAt_of_not_mem (h p List.mem_cons_self)]
  | p :: q :: ps, _, h => by
      have hrest := splitAt_intercalate (List.cons_ne_nil q ps)
        fun r hr => h r (List.mem_cons_of_mem p hr)
      rw [List.intercalate_cons_cons, List.append_assoc, List.singleton_append,
        splitAt_append_cons _ (h p List.mem_cons_self), hrest]

/-! ### Joining -/

@[simp] theorem join_singleton (sep p : String) : join sep [p] = p := by
  simp [join]

theorem join_cons_cons (sep p q : String) (rest : List String) :
    join sep (p :: q :: rest) = p ++ sep ++ join sep (q :: rest) := by
  simp [join, List.intercalate_cons_cons, String.append_assoc]

theorem join_append (sep : String) {rest : List String} (hrest : rest ≠ []) :
    ∀ {parts : List String}, parts ≠ [] →
      join sep (parts ++ rest) = join sep parts ++ sep ++ join sep rest
  | [], hparts => absurd rfl hparts
  | [p], _ => by
      obtain ⟨q, rest, rfl⟩ := List.exists_cons_of_ne_nil hrest
      rw [List.singleton_append, join_cons_cons, join_singleton]
  | p :: q :: parts, _ => by
      have ih := join_append sep hrest (List.cons_ne_nil q parts)
      rw [List.cons_append] at ih
      rw [List.cons_append, List.cons_append, join_cons_cons, join_cons_cons, ih]
      simp only [String.append_assoc]

section separator
variable {sep : Char} {text : String} (htext : text.toList = [sep])

include htext

theorem split_join {parts : List String} (hne : parts ≠ [])
    (hparts : ∀ p ∈ parts, sep ∉ p.toList) : split sep (join text parts) = parts := by
  have hcut : splitAt sep (List.intercalate [sep] (parts.map String.toList)) =
      parts.map String.toList := splitAt_intercalate (by simpa using hne) (by simpa using hparts)
  rw [split, join, htext, String.toList_ofList, hcut, List.map_map]
  simp [Function.comp_def]

/-- Parts without the separator are told apart by the text that joins them. -/
theorem join_inj {ps qs : List String} (hps : ps ≠ []) (hqs : qs ≠ [])
    (hp : ∀ p ∈ ps, sep ∉ p.toList) (hq : ∀ q ∈ qs, sep ∉ q.toList) :
    join text ps = join text qs ↔ ps = qs := by
  constructor
  · intro h
    rw [← split_join htext hps hp, h, split_join htext hqs hq]
  · rintro rfl
    rfl

end separator

end RouteAudit.Text
