import RouteAudit.Config.Load
import RouteAudit.Proofs.FloatRange

/-! # Faults of a configuration

Not every value that settings cannot be read from is refused with a configuration error: some
conversions fail in a way of their own, which nobody translates. `faults` lists what is wrong with a
value, setting by setting in the order in which the settings are read, and says of each fault
whether it is reported. Reading stops at the first one. So a value yields settings exactly when it
has no fault, and its error is one of the configuration exactly when the first fault is a reported
one: `settings_or_reported_iff`.

`Fails x l` says that the computation `x` ends as the list `l` of faults has it. It goes through
sequencing and through the items of a list (`Fails.bind`, `Fails.mapM`), and there is one lemma for
each way in which a setting is read. -/

namespace RouteAudit.Settings

/-! ### What can be wrong with a value -/

/-- What becomes of something that is wrong with a configuration. -/
inductive Fault where
  /-- It is refused with a configuration error. -/
  | reported
  /-- A conversion fails with an error of its own. -/
  | stray
deriving DecidableEq, Repr

namespace Fault

/-- The fault, if the condition fails. -/
def ifNot (condition : Bool) (fault : Fault) : List Fault := if condition then [] else [fault]

/-- A value that is written out holds no integer that is too long for it. -/
def ofText (v : Value) : List Fault := ifNot v.isWritable .stray

/-- A text that may be left out. -/
def ofOptionalText (v : Value) : List Fault := if v.isSet then ofText v else []

/-- A list of texts, for which one text may stand. -/
def ofTexts : Value → List Fault
  | .text _ => []
  | .list items => items.flatMap ofText
  | _ => [.reported]

/-- An integer. Infinity is none, and nobody translates the error that says so. -/
def ofInteger : Value → List Fault
  | .bool _ => []
  | .int _ => []
  | .float (.infinite _) => [.stray]
  | .float .nan => [.reported]
  | .float _ => []
  | .text s =>
    ifNot (decide (Numeral.digitCount s ≤ 4300) && (Numeral.readInt? s).isSome) .reported
  | _ => [.reported]

/-- A floating point number. Large integers are none, and nobody translates that error either. -/
def ofNumber : Value → List Fault
  | .bool _ => []
  | .int n => ifNot (decide (n.natAbs < Binary64.overflowBound)) .stray
  | .float _ => []
  | .text s => ifNot (Numeral.readFloat? s).isSome .reported
  | _ => [.reported]

/-- A mapping that may be left out. -/
def ofMapping : Value → List Fault
  | .map _ => []
  | v => ifNot (!v.isSet) .reported

/-- What is wrong with the value under a key. Null stands for a value that is left out. -/
def under (key : String) (check : Value → List Fault) (entries : List (Value × Value)) :
    List Fault :=
  match Value.lookup key entries with
  | none => []
  | some .null => []
  | some v => check v

/-- What is no suppression is refused, and the error quotes it. -/
def ofRefused (entry : Value) : List Fault := ofText entry ++ [.reported]

/-- A suppression: a mapping that names a rule. -/
def ofSuppression : Value → List Fault
  | .map entries =>
    match setValue? "rule" entries with
    | some rule => ofText rule ++ (under "route" ofOptionalText entries ++
        under "reason" ofOptionalText entries)
    | none => ofRefused (.map entries)
  | entry => ofRefused entry

/-- A list of suppressions that may be left out. Of a text the characters count as entries, and of a
mapping the keys; nobody looks for other values that are no lists. -/
def ofSuppressions : Value → List Fault
  | .list items => items.flatMap ofSuppression
  | .text s => s.toList.map fun _ => .reported
  | .map entries => entries.flatMap fun e => ofSuppression e.1
  | v => ifNot (!v.isSet) .stray

end Fault

/-- The mapping that says which rules are enabled. -/
def rulesOf (entries : List (Value × Value)) : List (Value × Value) :=
  match setValue? "rules" entries with
  | some (.map rules) => rules
  | _ => []

/-- What is wrong with a configuration, in the order in which it is found. -/
def faults : Value → List Fault
  | .map entries =>
    List.flatten
      [Fault.under "rules" Fault.ofMapping entries,
        Fault.under "suppressions" Fault.ofSuppressions entries,
        Fault.under "include" Fault.ofTexts entries,
        Fault.under "enabled" Fault.ofTexts (rulesOf entries),
        Fault.under "disabled" Fault.ofTexts (rulesOf entries),
        Fault.under "auth_patterns" Fault.ofTexts entries,
        Fault.under "min_severity" Fault.ofOptionalText entries,
        Fault.under "exclude" Fault.ofTexts entries,
        Fault.under "parallel_workers" Fault.ofInteger entries,
        Fault.under "timeout_seconds" Fault.ofInteger entries,
        Fault.under "max_file_size_mb" Fault.ofNumber entries]
  | _ => [.reported]

/-! ### Computations that fail as a list of faults has it -/

/-- How a computation fails, if it does. -/
def fault? {α : Type} : Except ConfigError α → Option Fault
  | .ok _ => none
  | .error e => some (if e.isReported then .reported else .stray)

/-- The computation fails with the first of the faults, and not at all when there is none. -/
def Fails {α : Type} (x : Except ConfigError α) (l : List Fault) : Prop := fault? x = l.head?

namespace Fails

variable {α β : Type}

theorem ok (a : α) : Fails (.ok a) [] := rfl

theorem bind {x : Except ConfigError α} {f : α → Except ConfigError β} {l l' : List Fault}
    (hx : Fails x l) (hf : ∀ a, x = .ok a → Fails (f a) l') : Fails (x >>= f) (l ++ l') := by
  unfold Fails at hx hf ⊢
  cases x with
  | error e =>
      rw [List.head?_append, ← hx]
      rfl
  | ok a =>
      rw [List.head?_append, ← hx]
      exact hf a rfl

theorem bind_ok {x : Except ConfigError α} {l : List Fault} (hx : Fails x l) (f : α → β) :
    Fails (x >>= fun a => .ok (f a)) l := by
  have h := hx.bind fun a _ => ok (f a)
  rwa [List.append_nil] at h

theorem map {x : Except ConfigError α} {l : List Fault} (hx : Fails x l) (f : α → β) :
    Fails (f <$> x) l := by
  cases x with
  | error e => exact hx
  | ok a => exact hx

theorem mapM {f : α → Except ConfigError β} {g : α → List Fault} {items : List α}
    (h : ∀ a ∈ items, Fails (f a) (g a)) : Fails (items.mapM f) (items.flatMap g) := by
  induction items with
  | nil => exact ok []
  | cons a rest ih =>
      rw [List.mapM_cons, List.flatMap_cons]
      refine (h a List.mem_cons_self).bind fun b _ => ?_
      have hrest := ih fun c hc => h c (List.mem_cons_of_mem a hc)
      exact hrest.bind_ok fun bs => b :: bs

end Fails

/-! ### One setting -/

open Fault

theorem fails_textOf (v : Value) : Fails (textOf v) (ofText v) := by
  unfold textOf ofText ifNot
  split
  · exact .ok _
  · rfl

theorem under_of_unset {key : String} {entries : List (Value × Value)} {check : Value → List Fault}
    (hcheck : ∀ v, v.isSet = false → check v = []) (h : setValue? key entries = none) :
    under key check entries = [] := by
  unfold setValue? at h
  unfold under
  split
  · rfl
  · rfl
  · next v _ hv =>
      rw [hv] at h
      exact hcheck v (by simpa using h)

theorem under_of_set {key : String} {entries : List (Value × Value)} {v : Value}
    (h : setValue? key entries = some v) (check : Value → List Fault) :
    v.isSet = true ∧ under key check entries = check v := by
  unfold setValue? at h
  split at h
  · next w hw =>
      split_ifs at h with hset
      obtain rfl := Option.some.inj h
      refine ⟨hset, ?_⟩
      cases w with
      | null => cases hset
      | bool | int | float | text | date | moment | list | map => rw [under, hw]
  · cases h

theorem fails_displayAt (key otherwise : String) (entries : List (Value × Value)) :
    Fails (displayAt key otherwise entries) (under key ofOptionalText entries) := by
  unfold displayAt
  cases h : setValue? key entries with
  | none =>
      rw [under_of_unset (fun v hv => by simp [ofOptionalText, hv]) h]
      exact .ok otherwise
  | some v =>
      obtain ⟨hset, hunder⟩ := under_of_set h ofOptionalText
      rw [hunder, ofOptionalText, if_pos hset]
      exact fails_textOf v

theorem fails_textsAt (key : String) (entries : List (Value × Value)) :
    Fails (textsAt key entries) (under key ofTexts entries) := by
  unfold textsAt under
  cases Value.lookup key entries with
  | none => exact .ok _
  | some v =>
      cases v with
      | null => exact .ok _
      | text s => exact .ok _
      | list items => exact .mapM fun v _ => fails_textOf v
      | bool | int | float | date | moment | map => rfl

theorem fails_numberAt {α : Type} {read : Value → Except ConfigError α} {check : Value → List Fault}
    (h : ∀ v, Fails (read v) (check v)) (key : String) (otherwise : α)
    (entries : List (Value × Value)) :
    Fails (numberAt read key otherwise entries) (under key check entries) := by
  unfold numberAt under
  cases Value.lookup key entries with
  | none => exact .ok otherwise
  | some v =>
      cases v with
      | null => exact .ok otherwise
      | bool | int | float | text | date | moment | list | map => exact h _

theorem fails_integerOfText (s : String) : Fails ((integerOfText s).mapError .badNumber)
    (ifNot (decide (Numeral.digitCount s ≤ 4300) && (Numeral.readInt? s).isSome) .reported) := by
  unfold integerOfText
  by_cases hcount : Numeral.digitCount s ≤ 4300
  · rw [if_neg (by omega)]
    cases Numeral.readInt? s with
    | none => simp [ifNot, Fails, fault?, Except.mapError, ConfigError.isReported]
    | some n => simp [ifNot, Fails, fault?, Except.mapError, hcount]
  · rw [if_pos (by omega)]
    simp [ifNot, Fails, fault?, Except.mapError, ConfigError.isReported, hcount]

theorem fails_integerOf (v : Value) : Fails (integerOf v) (ofInteger v) := by
  cases v with
  | bool b => exact .ok _
  | int n => exact .ok n
  | float x =>
      cases x with
      | nan => rfl
      | infinite negative => rfl
      | finite negative m e => exact .ok _
  | text s => exact fails_integerOfText s
  | null | date | moment | list | map => rfl

theorem fails_floatOfInteger (n : ℤ) :
    Fails (floatOfInteger n) (ifNot (decide (n.natAbs < Binary64.overflowBound)) .stray) := by
  unfold floatOfInteger
  split
  · next sign h =>
      have hlarge := Binary64.ofInt_eq_infinite_iff.mp ⟨sign, h⟩
      rw [decide_eq_false (Nat.not_lt.mpr hlarge)]
      rfl
  · next hfinite =>
      have hsmall : n.natAbs < Binary64.overflowBound := by
        by_contra hlarge
        obtain ⟨sign, h⟩ := Binary64.ofInt_eq_infinite_iff.mpr (Nat.not_lt.mp hlarge)
        exact hfinite sign h
      rw [decide_eq_true hsmall]
      exact .ok _

theorem fails_floatOf (v : Value) : Fails (floatOf v) (ofNumber v) := by
  cases v with
  | bool b => exact .ok _
  | int n => exact fails_floatOfInteger n
  | float x => exact .ok x
  | text s =>
      unfold floatOf ofNumber
      dsimp only
      cases Numeral.readFloat? s with
      | none => rfl
      | some x => rfl
  | null | date | moment | list | map => rfl

/-! ### Suppressions -/

theorem fails_refusal (entry : Value) :
    Fails (.error (refusal entry) : Except ConfigError Suppression) (ofRefused entry) := by
  unfold refusal ofRefused ofText ifNot
  split <;> rfl

theorem fails_suppressionOf (entry : Value) : Fails (suppressionOf entry) (ofSuppression entry) := by
  cases entry with
  | map entries =>
      unfold suppressionOf ofSuppression
      dsimp only
      cases setValue? "rule" entries with
      | none => exact fails_refusal (.map entries)
      | some rule =>
          refine (fails_textOf rule).bind fun text _ => ?_
          refine (fails_displayAt "route" "" entries).bind fun route _ => ?_
          exact (fails_displayAt "reason" "" entries).bind_ok (Suppression.mk text route)
  | null | bool | int | float | text | date | moment | list => exact fails_refusal _

theorem fails_mapM_suppressionOf (items : List Value) :
    Fails (items.mapM suppressionOf) (items.flatMap ofSuppression) :=
  .mapM fun entry _ => fails_suppressionOf entry

theorem ofSuppressions_of_unset {v : Value} (hv : v.isSet = false) : ofSuppressions v = [] := by
  cases v with
  | list items =>
      have hitems : items = [] := by simpa [Value.isSet] using hv
      rw [hitems]
      rfl
  | text s =>
      have hs : s = "" := by simpa [Value.isSet] using hv
      rw [hs]
      rfl
  | map entries =>
      have hentries : entries = [] := by simpa [Value.isSet] using hv
      rw [hentries]
      rfl
  | null | bool | int | float | date | moment => simp [ofSuppressions, ifNot, hv]

theorem fails_suppressionsAt (entries : List (Value × Value)) :
    Fails (suppressionsAt entries) (under "suppressions" ofSuppressions entries) := by
  unfold suppressionsAt
  cases h : setValue? "suppressions" entries with
  | none =>
      rw [under_of_unset (fun _ => ofSuppressions_of_unset) h]
      exact .ok _
  | some v =>
      obtain ⟨hset, hunder⟩ := under_of_set h ofSuppressions
      rw [hunder]
      cases v with
      | list items => exact fails_mapM_suppressionOf items
      | text s =>
          have h := fails_mapM_suppressionOf (s.toList.map fun c => .text (String.singleton c))
          rw [List.flatMap_map] at h
          rw [ofSuppressions, List.map_eq_flatMap]
          exact h
      | map entries =>
          have h := fails_mapM_suppressionOf (entries.map (·.1))
          rw [List.flatMap_map] at h
          exact h
      | null | bool | int | float | date | moment =>
          change Fails _ (ifNot (!Value.isSet _) .stray)
          rw [hset]
          rfl

/-! ### Whole configurations -/

theorem fails_rulesAt (entries : List (Value × Value)) :
    Fails (rulesAt entries) (under "rules" ofMapping entries) := by
  unfold rulesAt
  cases h : setValue? "rules" entries with
  | none =>
      rw [under_of_unset (fun v hv => by cases v <;> simp [ofMapping, ifNot, hv]) h]
      exact .ok _
  | some v =>
      obtain ⟨hset, hunder⟩ := under_of_set h ofMapping
      rw [hunder]
      cases v with
      | map rules => exact .ok rules
      | null | bool | int | float | text | date | moment | list =>
          change Fails _ (ifNot (!Value.isSet _) .reported)
          rw [hset]
          rfl

theorem eq_rulesOf {entries rules : List (Value × Value)} (h : rulesAt entries = .ok rules) :
    rules = rulesOf entries := by
  unfold rulesAt at h
  unfold rulesOf
  split at h
  · next hunset =>
      rw [hunset]
      exact (Except.ok.inj h).symm
  · next hset =>
      rw [hset]
      exact (Except.ok.inj h).symm
  · cases h

/-- Loading goes through the settings in the order of the table. -/
theorem fails_ofValue (v : Value) : Fails (ofValue v) (faults v) := by
  cases v with
  | map entries =>
      simp only [faults, List.flatten_cons, List.flatten_nil]
      refine (fails_rulesAt entries).bind fun rules hrules => ?_
      obtain rfl := eq_rulesOf hrules
      refine (fails_suppressionsAt entries).bind fun _ _ => ?_
      refine (fails_textsAt "include" entries).bind fun _ _ => ?_
      refine (fails_textsAt "enabled" (rulesOf entries)).bind fun _ _ => ?_
      refine (fails_textsAt "disabled" (rulesOf entries)).bind fun _ _ => ?_
      refine (fails_textsAt "auth_patterns" entries).bind fun _ _ => ?_
      refine (fails_displayAt "min_severity" "info" entries).bind fun _ _ => ?_
      extract_lets standard rest
      -- the patterns of excluded files are read only when the key is there
      have hrest (excluded : List String) : Fails (rest excluded)
          (under "parallel_workers" ofInteger entries ++ (under "timeout_seconds" ofInteger entries ++
            (under "max_file_size_mb" ofNumber entries ++ []))) := by
        refine (fails_numberAt fails_integerOf "parallel_workers" _ entries).bind fun _ _ => ?_
        refine (fails_numberAt fails_integerOf "timeout_seconds" _ entries).bind fun _ _ => ?_
        have hsize (v : Value) := (fails_floatOf v).map SizeLimit.exact
        exact (fails_numberAt hsize "max_file_size_mb" _ entries).bind fun _ _ => .ok _
      split_ifs with hsome
      · exact (fails_textsAt "exclude" entries).bind fun excluded _ => hrest excluded
      · have hnone : under "exclude" ofTexts entries = [] := by
          rw [under, Option.not_isSome_iff_eq_none.mp hsome]
        rw [hnone]
        exact (Fails.ok _).bind fun excluded _ => hrest excluded
  | null | bool | int | float | text | date | moment | list => rfl

theorem fault?_eq_none_iff {α : Type} {x : Except ConfigError α} :
    fault? x = none ↔ ∃ a, x = .ok a := by
  cases x with
  | ok a => simp [fault?]
  | error e => simp [fault?]

theorem fault?_eq_reported_iff {α : Type} {x : Except ConfigError α} :
    fault? x = some .reported ↔ ∃ e, x = .error e ∧ e.isReported = true := by
  cases x with
  | ok a => simp [fault?]
  | error e => simp [fault?]

/-- **A configuration fails by its first fault.** It gives settings exactly when nothing is wrong
with it. Otherwise there is a configuration error, unless a conversion is the first to fail. Values
that are nested beyond the recursion limit of the interpreter are outside this model. -/
theorem settings_or_reported_iff (v : Value) :
    ((∃ s, ofValue v = .ok s) ↔ faults v = []) ∧
    ((∃ e, ofValue v = .error e ∧ e.isReported = true) ↔ (faults v).head? = some .reported) ∧
    (((∃ s, ofValue v = .ok s) ∨ ∃ e, ofValue v = .error e ∧ e.isReported = true) ↔
      (faults v).head? ≠ some .stray) := by
  have hfails : fault? (ofValue v) = (faults v).head? := fails_ofValue v
  rw [← fault?_eq_none_iff, ← fault?_eq_reported_iff, hfails, List.head?_eq_none_iff]
  refine ⟨Iff.rfl, Iff.rfl, ?_⟩
  cases faults v with
  | nil => simp
  | cons fault rest => cases fault <;> simp

/-- A number in the place of the suppressions is refused with no configuration error. -/
theorem counted_suppressions_stray :
    ¬ ((∃ s, ofValue (.object [("suppressions", .int 5)]) = .ok s) ∨
      ∃ e, ofValue (.object [("suppressions", .int 5)]) = .error e ∧ e.isReported = true) := by
  have h : ofValue (.object [("suppressions", .int 5)]) = .error (.notIterable "int") := rfl
  rw [h]
  rintro (⟨s, hs⟩ | ⟨e, he, hreported⟩)
  · cases hs
  · cases he
    cases hreported

end RouteAudit.Settings
