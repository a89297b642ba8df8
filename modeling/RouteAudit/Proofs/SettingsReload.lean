import Mathlib.Tactic.SplitIfs
import RouteAudit.Config.Load

/-! # Settings that are written and loaded again

Loading fills in what a value leaves out, takes scalars for texts and texts for numbers. What it
ends with is in a normal form, `IsNormal`: there are globs to include, a least severity and a
rule in each suppression, since a value that counts as set never has the empty text
(`display_ne_empty`), and the size limit is the standard one or a floating point number. In this
form nothing is left to fill in or to convert. So the value of such settings is loaded as they
are, but for the standard size limit, which comes back as the floating point number that equals
it (`ofValue_toValue`).

`Yields x P` says that what the computation `x` ends with has the property `P`. It goes through
sequencing and through the items of a list. -/

namespace RouteAudit

/-! ### Texts of values -/

theorem intText_ne_empty (n : Int) : intText n ≠ "" := by
  unfold intText decimalDigits
  split <;> simp [String.ofList_eq_empty_iff]

namespace Binary64

theorem layout_ne_nil (digits : List Char) (point : Int) : layout digits point ≠ [] := by
  unfold layout
  split_ifs <;> simp

theorem render_ne_empty (x : Binary64) : x.render ≠ "" := by
  cases x with
  | nan => decide
  | infinite negative => cases negative <;> decide
  | finite negative m e =>
      unfold render
      dsimp only
      split_ifs <;> simp [layout_ne_nil]

end Binary64

namespace Value

theorem display_ne_empty {v : Value} (h : v.isSet = true) : v.display ≠ "" := by
  cases v with
  | null => cases h
  | bool b => cases b <;> simp [display, quoted]
  | int n => exact intText_ne_empty n
  | float x => exact x.render_ne_empty
  | text s => simpa [isSet, display] using h
  | date d => simp [display, Date.display]
  | moment t => simp [display, Moment.display, Date.display]
  | list items => simp [display, quoted]
  | map entries => simp [display, quoted]

end Value

namespace Settings

/-! ### What a computation yields -/

section yields
variable {α β : Type}

/-- What the computation ends with has the property. -/
def Yields (x : Except ConfigError α) (P : α → Prop) : Prop := ∀ a, x = .ok a → P a

namespace Yields

theorem ok {P : α → Prop} {a : α} (h : P a) : Yields (.ok a) P := by
  intro b hb
  cases hb
  exact h

theorem error {P : α → Prop} (e : ConfigError) : Yields (.error e) P := by
  intro b hb
  cases hb

theorem any (x : Except ConfigError α) : Yields x fun _ => True := fun _ _ => trivial

theorem bind {x : Except ConfigError α} {f : α → Except ConfigError β} {P : α → Prop}
    {Q : β → Prop} (hx : Yields x P) (hf : ∀ a, P a → Yields (f a) Q) : Yields (x >>= f) Q := by
  cases x with
  | error e => exact error e
  | ok a => exact hf a (hx a rfl)

theorem mapM {f : α → Except ConfigError β} {P : β → Prop} (h : ∀ a, Yields (f a) P) :
    ∀ items : List α, Yields (items.mapM f) fun bs => ∀ b ∈ bs, P b
  | [] => ok (by simp)
  | a :: rest => by
      rw [List.mapM_cons]
      refine (h a).bind fun b hb => (mapM h rest).bind fun bs hbs => ok ?_
      simpa using ⟨hb, hbs⟩

end Yields

end yields

/-! ### What loading ends with -/

/-- Settings as loading leaves them. -/
structure IsNormal (s : Settings) : Prop where
  included : s.included ≠ []
  minSeverity : s.minSeverity ≠ ""
  rules : ∀ p ∈ s.suppressions, p.rule ≠ ""
  sizeLimit : s.sizeLimit = .standard ∨ ∃ x, s.sizeLimit = .exact x

theorem yields_textOf {v : Value} (h : v.isSet = true) : Yields (textOf v) (· ≠ "") := by
  unfold textOf
  split_ifs
  · exact .ok (Value.display_ne_empty h)
  · exact .error _

theorem isSet_of_setValue? {key : String} {entries : List (Value × Value)} {v : Value}
    (h : setValue? key entries = some v) : v.isSet = true := by
  unfold setValue? at h
  split at h
  · split_ifs at h with hset
    cases h
    exact hset
  · cases h

theorem yields_displayAt {otherwise : String} (h : otherwise ≠ "") (key : String)
    (entries : List (Value × Value)) : Yields (displayAt key otherwise entries) (· ≠ "") := by
  unfold displayAt
  split
  · next hv => exact yields_textOf (isSet_of_setValue? hv)
  · exact .ok h

theorem yields_suppressionOf (entry : Value) : Yields (suppressionOf entry) (·.rule ≠ "") := by
  unfold suppressionOf
  split
  · split
    · next hv =>
        refine (yields_textOf (isSet_of_setValue? hv)).bind fun rule hrule => ?_
        refine (Yields.any _).bind fun route _ => ?_
        exact (Yields.any _).bind fun reason _ => .ok hrule
    · exact .error _
  · exact .error _

theorem yields_suppressionsAt (entries : List (Value × Value)) :
    Yields (suppressionsAt entries) fun ps => ∀ p ∈ ps, p.rule ≠ "" := by
  unfold suppressionsAt
  split
  · exact .ok (by simp)
  · exact (Yields.any _).bind fun items _ => .mapM yields_suppressionOf items

theorem yields_sizeLimit (key : String) (entries : List (Value × Value)) :
    Yields (numberAt (fun v => SizeLimit.exact <$> floatOf v) key .standard entries)
      fun l => l = .standard ∨ ∃ x, l = .exact x := by
  unfold numberAt
  split
  · exact .ok (.inl rfl)
  · exact .ok (.inl rfl)
  · exact (Yields.any (floatOf _)).bind fun x _ => .ok (.inr ⟨x, rfl⟩)

theorem yields_ofValue (v : Value) : Yields (ofValue v) IsNormal := by
  unfold ofValue
  split
  · next entries =>
      refine (Yields.any _).bind fun rules _ => ?_
      refine (yields_suppressionsAt entries).bind fun suppressions hrules => ?_
      refine (Yields.any _).bind fun included _ => ?_
      refine (Yields.any _).bind fun enabledRules _ => ?_
      refine (Yields.any _).bind fun disabledRules _ => ?_
      refine (Yields.any _).bind fun authPatterns _ => ?_
      refine (yields_displayAt (by decide) "min_severity" entries).bind fun minSeverity hmin => ?_
      extract_lets standard rest
      have hrest (excluded : List String) : Yields (rest excluded) IsNormal := by
        refine (Yields.any _).bind fun workers _ => ?_
        refine (Yields.any _).bind fun timeout _ => ?_
        refine (yields_sizeLimit "max_file_size_mb" entries).bind fun sizeLimit hsize => .ok ?_
        refine ⟨?_, hmin, hrules, hsize⟩
        dsimp only
        split_ifs with hempty
        · decide
        · simpa using hempty
      split_ifs
      · exact (Yields.any _).bind fun excluded _ => hrest excluded
      · exact (Yields.any _).bind fun excluded _ => hrest excluded
  · exact .error _

/-! ### Loading what was written -/

theorem mapM_map_eq_ok {α β : Type} {f : β → Except ConfigError α} {g : α → β} :
    ∀ {xs : List α}, (∀ a ∈ xs, f (g a) = .ok a) → (xs.map g).mapM f = .ok xs
  | [], _ => rfl
  | a :: rest, h => by
      have hrest : (rest.map g).mapM f = .ok rest :=
        mapM_map_eq_ok fun b hb => h b (List.mem_cons_of_mem a hb)
      rw [List.map_cons, List.mapM_cons, h a List.mem_cons_self, hrest]
      rfl

theorem textsAt_of_texts {key : String} {entries : List (Value × Value)} {l : List String}
    (h : Value.lookup key entries = some (.texts l)) : textsAt key entries = .ok l := by
  rw [textsAt, h]
  exact mapM_map_eq_ok fun _ _ => rfl

theorem displayAt_of_text {key otherwise : String} {entries : List (Value × Value)} {s : String}
    (h : Value.lookup key entries = some (.text s)) (hs : s = "" → otherwise = "") :
    displayAt key otherwise entries = .ok s := by
  rw [displayAt, setValue?, h]
  by_cases hempty : s = ""
  · rw [hs hempty, hempty]
    rfl
  · have hset : (Value.text s).isSet = true := by simpa [Value.isSet] using hempty
    simp only [hset]
    rfl

theorem suppressionOf_toValue {p : Suppression} (h : p.rule ≠ "") :
    suppressionOf p.toValue = .ok p := by
  obtain ⟨rule, route, reason⟩ := p
  rw [Suppression.toValue, Value.object]
  dsimp only [List.map]
  have hrule : setValue? "rule" [(.text "rule", .text rule), (.text "route", .text route),
      (.text "reason", .text reason)] = some (.text rule) :=
    if_pos (by simpa [Value.isSet] using h)
  rw [suppressionOf, hrule]
  dsimp only
  rw [displayAt_of_text rfl fun _ => rfl, displayAt_of_text rfl fun _ => rfl]
  rfl

theorem suppressionsAt_of_list {entries : List (Value × Value)} {ps : List Suppression}
    (h : Value.lookup "suppressions" entries = some (.list (ps.map Suppression.toValue)))
    (hrules : ∀ p ∈ ps, p.rule ≠ "") : suppressionsAt entries = .ok ps := by
  have hitems := mapM_map_eq_ok fun p hp => suppressionOf_toValue (hrules p hp)
  rw [suppressionsAt, setValue?, h]
  cases ps with
  | nil => rfl
  | cons p rest => exact hitems

theorem integerAt_of_int {key : String} {entries : List (Value × Value)} {n : Int}
    (h : Value.lookup key entries = some (.int n)) (otherwise : Int) :
    numberAt integerOf key otherwise entries = .ok n := by
  rw [numberAt, h]
  rfl

theorem sizeLimitAt_of_toValue {key : String} {entries : List (Value × Value)} {l : SizeLimit}
    (h : Value.lookup key entries = some l.toValue) (hl : l = .standard ∨ ∃ x, l = .exact x)
    (otherwise : SizeLimit) :
    numberAt (fun v => SizeLimit.exact <$> floatOf v) key otherwise entries =
      .ok (.exact l.megabytes) := by
  rw [numberAt, h]
  obtain rfl | ⟨x, rfl⟩ := hl
  · rfl
  · rfl

/-- Settings in normal form are loaded from their value as they are, up to the kind of number that
the size limit is. -/
theorem ofValue_toValue {s : Settings} (h : s.IsNormal) :
    ofValue s.toValue = .ok { s with sizeLimit := .exact s.sizeLimit.megabytes } := by
  obtain ⟨entries, hentries⟩ : ∃ entries, s.toValue = .map entries := ⟨_, rfl⟩
  have hlookup (key : String) : Value.lookup key entries = s.toValue.get? key := by
    rw [hentries, Value.get?]
  obtain ⟨rules, hrules, henabled, hdisabled⟩ : ∃ rules, rulesAt entries = .ok rules ∧
      textsAt "enabled" rules = .ok s.enabledRules ∧
      textsAt "disabled" rules = .ok s.disabledRules := by
    have hmapping : rulesAt entries = .ok [(.text "enabled", .texts s.enabledRules),
        (.text "disabled", .texts s.disabledRules)] := by
      rw [rulesAt, setValue?, hlookup]
      rfl
    exact ⟨_, hmapping, textsAt_of_texts rfl, textsAt_of_texts rfl⟩
  have hsuppressions := suppressionsAt_of_list (hlookup "suppressions") h.rules
  have hincluded : textsAt "include" entries = .ok s.included := textsAt_of_texts (hlookup _)
  have hexcluded : textsAt "exclude" entries = .ok s.excluded := textsAt_of_texts (hlookup _)
  have hpatterns : textsAt "auth_patterns" entries = .ok s.authPatterns :=
    textsAt_of_texts (hlookup _)
  have hseverity : displayAt "min_severity" "info" entries = .ok s.minSeverity :=
    displayAt_of_text (hlookup _) fun hempty => absurd hempty h.minSeverity
  have hworkers := integerAt_of_int (n := s.workers) (hlookup "parallel_workers")
  have htimeout := integerAt_of_int (n := s.timeout) (hlookup "timeout_seconds")
  have hsize := sizeLimitAt_of_toValue (hlookup "max_file_size_mb") h.sizeLimit
  have hgiven : (Value.lookup "exclude" entries).isSome = true := by
    rw [hlookup]
    rfl
  have hnonempty : s.included.isEmpty = false := by simpa using h.included
  rw [hentries, ofValue]
  simp only [hrules, hsuppressions, hincluded, henabled, hdisabled, hpatterns, hseverity, hgiven,
    hexcluded, hworkers, htimeout, hsize, hnonempty, bind, Except.bind, if_true]
  rfl

end Settings

/-! ### The round trip -/

/-- Two limits are one number: they are the same, or both equal one integer. -/
def SizeLimit.SameNumber (a b : SizeLimit) : Prop :=
  a = b ∨ ∃ n, a.toValue.asInteger? = some n ∧ b.toValue.asInteger? = some n

theorem SizeLimit.sameNumber_exact_megabytes {l : SizeLimit}
    (h : l = .standard ∨ ∃ x, l = .exact x) : (SizeLimit.exact l.megabytes).SameNumber l := by
  obtain rfl | ⟨x, rfl⟩ := h
  · exact .inr ⟨10, by decide +kernel, rfl⟩
  · exact .inl rfl

namespace Settings

/-- **Loading normalises in one step.** Settings that were loaded from any value are loaded again
from the value they are written as, and every setting comes back as it was; only the size limit may
be another kind of number, and it is the same number. What comes back is not changed by a further
loading. -/
theorem loaded_settings_reload (v : Value) (s : Settings) (h : ofValue v = .ok s) :
    ∃ t, ofValue s.toValue = .ok t ∧ t = { s with sizeLimit := t.sizeLimit } ∧
      t.sizeLimit.SameNumber s.sizeLimit ∧ ofValue t.toValue = .ok t := by
  have hnormal : s.IsNormal := yields_ofValue v s h
  have hsize := SizeLimit.sameNumber_exact_megabytes hnormal.sizeLimit
  refine ⟨_, ofValue_toValue hnormal, rfl, hsize, ?_⟩
  exact ofValue_toValue ⟨hnormal.included, hnormal.minSeverity, hnormal.rules, .inr ⟨_, rfl⟩⟩

/-- A configuration in which little is as it is written out: an empty list, a text in the place of a
list, a date and truth values in the place of texts, texts and truth values in that of numbers. -/
def roughConfiguration : Value :=
  .object [("include", .list []), ("exclude", .text "gen/**"),
    ("rules", .object [("enabled", .list [.text "AP001", .date ⟨2024, 5, 1⟩])]),
    ("suppressions", .list [.object [("rule", .bool true), ("route", .bool false)]]),
    ("min_severity", .bool true), ("parallel_workers", .text " 8 "),
    ("timeout_seconds", .bool true)]

/-- The settings that it gives. -/
def roughSettings : Settings where
  excluded := ["gen/**"]
  enabledRules := ["AP001", "2024-05-01"]
  suppressions := [⟨"True", "", ""⟩]
  minSeverity := "True"
  workers := 8
  timeout := 1

theorem roughSettings_reload :
    ofValue roughConfiguration = .ok roughSettings ∧
      ∃ t, ofValue roughSettings.toValue = .ok t ∧
        t = { roughSettings with sizeLimit := t.sizeLimit } ∧
        t.sizeLimit.SameNumber (.whole 10) ∧ ofValue t.toValue = .ok t := by
  have hloaded : ofValue roughConfiguration = .ok roughSettings := rfl
  exact ⟨hloaded, loaded_settings_reload roughConfiguration roughSettings hloaded⟩

end Settings

end RouteAudit
