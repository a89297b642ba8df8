import Mathlib.Data.List.Nodup
import RouteAudit.Command.Options
import RouteAudit.Proofs.Fallible

/-! # The options that are given

The arguments of a command are read option by option. `givenOnto` follows the reader and lists the
options that it applies, with their values; all of them are known options
(`mem_of_mem_givenOnto`). If each known option either leaves a part of what is read as it is
(`Opt.Preserves`) or acts on that part alone (`Opt.Commutes`), then the part can be told from the
options of the second kind (`foldlM_givenOnto`).

For a scan the part is all that does not concern its report (`ScanArguments.beyondReport`). So
arguments that differ only in the options for the report are read alike beyond it
(`beyondReport_eq_of_givenBeyondReport`). -/

namespace RouteAudit.Command

section reader
variable {A : Type} {options : List (Opt A)}

/-! ### The options that are applied -/

/-- The options that reading applies, with their values and in order. -/
def givenOnto (options : List (Opt A)) :
    (bound : ℕ) → Progress A → List (String × Mark A) → List (Opt A × String)
  | 0, _, _ => []
  | n + 1, p, marks =>
    match marks with
    | [] => []
    | (_, .option o _ value) :: rest =>
      match optionsAt options o value rest with
      | .error _ => []
      | .ok (found, after, _) => found ++ givenOnto options n p after
    | (_, .unknownOption) :: rest => givenOnto options n p rest
    | plain =>
      let (q, rest) := readPlain p plain
      givenOnto options n q rest

/-- An argument that is taken for an option is taken for a known one. -/
def Mark.IsFrom (options : List (Opt A)) : Mark A → Prop
  | .option o _ _ => o ∈ options
  | _ => True

theorem mem_of_mem_namesOf {name : String} {o : Opt A} (h : (name, o) ∈ namesOf options) :
    o ∈ options := by
  obtain ⟨o', ho', hname⟩ := List.mem_flatMap.mp h
  obtain ⟨_, -, heq⟩ := List.mem_map.mp hname
  cases heq
  exact ho'

theorem mem_of_lookup_namesOf {name : String} {o : Opt A}
    (h : (namesOf options).lookup name = some o) : o ∈ options := by
  obtain ⟨before, after, hsplit, -⟩ := List.lookup_eq_some_iff.mp h
  have hmem : (name, o) ∈ namesOf options := by
    rw [hsplit]
    exact List.mem_append_right before List.mem_cons_self
  exact mem_of_mem_namesOf hmem

theorem mem_of_mem_candidates {text : String} {c : String × Opt A × Attached}
    (h : c ∈ candidates options text) : c.2.1 ∈ options := by
  unfold candidates at h
  split at h
  · obtain ⟨⟨name, o⟩, hmem, hsome⟩ := List.mem_filterMap.mp h
    rw [← Option.some.inj (Option.ite_none_right_eq_some.mp hsome).2]
    exact mem_of_mem_namesOf hmem
  · obtain ⟨⟨name, o⟩, hmem, hsome⟩ := List.mem_filterMap.mp h
    split at hsome
    · cases hsome
      exact mem_of_mem_namesOf hmem
    · rw [← Option.some.inj (Option.ite_none_right_eq_some.mp hsome).2]
      exact mem_of_mem_namesOf hmem

theorem isFrom_of_markOf {text : String} {m : Mark A} (h : markOf options text = .ok m) :
    m.IsFrom options := by
  unfold markOf at h
  split at h
  · cases h
    trivial
  split at h
  · rename_i hlookup
    cases h
    exact mem_of_lookup_namesOf hlookup
  split at h
  · cases h
    trivial
  dsimp only at h
  split at h
  · rename_i hlookup
    cases h
    exact mem_of_lookup_namesOf hlookup
  split at h
  · rename_i name o value hone
    cases h
    have hmem : (name, o, value) ∈ candidates options text := by
      rw [hone]
      exact List.mem_singleton_self _
    exact mem_of_mem_candidates hmem
  · cases h
    split <;> trivial
  · cases h

theorem isFrom_of_marksOf {args : List String} {marks : List (String × Mark A)}
    (h : marksOf options args = .ok marks) : ∀ m ∈ marks, m.2.IsFrom options := by
  induction args generalizing marks with
  | nil =>
      cases h
      exact fun _ hm => absurd hm List.not_mem_nil
  | cons arg rest ih =>
      unfold marksOf at h
      split at h
      · rename_i heq
        cases heq
      · rename_i heq
        cases heq
        cases h
        refine List.forall_mem_cons.mpr ⟨trivial, ?_⟩
        intro m hm
        obtain ⟨_, -, rfl⟩ := List.mem_map.mp hm
        trivial
      · rename_i heq
        cases heq
        obtain ⟨m, hmark, h⟩ := Except.exists_of_bind_eq_ok h
        obtain ⟨ms, hrest, h⟩ := Except.exists_of_bind_eq_ok h
        cases h
        exact List.forall_mem_cons.mpr ⟨isFrom_of_markOf hmark, ih hrest⟩

theorem mem_of_givenValue {o : Opt A} {value : List Char} {x : Opt A × String}
    (ho : o ∈ options) (h : givenValue o value = .ok x) : x.1 ∈ options := by
  unfold givenValue at h
  split at h
  · cases h
    exact ho
  · cases h

theorem mem_of_cluster {o : Opt A} {done found : List (Opt A × String)} {text : List Char}
    {ending : ClusterEnd A} (ho : o ∈ options) (hdone : ∀ x ∈ done, x.1 ∈ options)
    (h : cluster options o done text = .ok (found, ending)) :
    (∀ x ∈ found, x.1 ∈ options) ∧ ∀ last, ending = .waiting last → last ∈ options := by
  induction text generalizing o done with
  | nil =>
      cases h
      refine ⟨hdone, ?_⟩
      rintro _ ⟨⟩
      exact ho
  | cons c rest ih =>
      have hnext : ∀ value, ∀ x ∈ done ++ [(o, value)], x.1 ∈ options := by
        intro value
        exact List.forall_mem_append.mpr ⟨hdone, List.forall_mem_singleton.mpr ho⟩
      have hcomplete : ∀ last, (ClusterEnd.complete : ClusterEnd A) = .waiting last →
          last ∈ options := by
        rintro _ ⟨⟩
      rw [cluster] at h
      split at h
      · cases h
        exact ⟨hnext _, hcomplete⟩
      split at h
      · cases h
      split at h
      · cases h
        refine ⟨hnext _, ?_⟩
        rintro _ ⟨⟩
      · rename_i next hlookup
        have hmem := mem_of_lookup_namesOf hlookup
        split at h
        · rename_i value
          obtain ⟨x, hvalue, h⟩ := Except.exists_of_bind_eq_ok h
          cases h
          refine ⟨?_, hcomplete⟩
          rw [List.append_cons]
          exact List.forall_mem_append.mpr
            ⟨hnext _, List.forall_mem_singleton.mpr (mem_of_givenValue hmem hvalue)⟩
        · exact ih hmem (hnext _) h

theorem suffix_of_followingValue {o : Opt A} {rest after : List (String × Mark A)} {value : String}
    (h : followingValue o rest = .ok (value, after)) : after <:+ rest := by
  unfold followingValue at h
  split at h
  · split at h
    · cases h
      exact List.suffix_cons _ _
    · cases h
  · cases h
    exact List.suffix_rfl

theorem mem_of_optionsIn {o : Opt A} {value : Attached} {found : List (Opt A × String)}
    {ending : ClusterEnd A} (ho : o ∈ options)
    (h : optionsIn options o value = .ok (found, ending)) :
    (∀ x ∈ found, x.1 ∈ options) ∧ ∀ last, ending = .waiting last → last ∈ options := by
  cases value with
  | nothing =>
      cases h
      refine ⟨fun _ hx => absurd hx List.not_mem_nil, ?_⟩
      rintro _ ⟨⟩
      exact ho
  | afterEquals v =>
      obtain ⟨x, hvalue, h⟩ := Except.exists_of_bind_eq_ok h
      cases h
      refine ⟨List.forall_mem_singleton.mpr (mem_of_givenValue ho hvalue), ?_⟩
      rintro _ ⟨⟩
  | joined v => exact mem_of_cluster ho (fun _ hx => absurd hx List.not_mem_nil) h

theorem mem_of_optionsAt {o : Opt A} {value : Attached} {rest after : List (String × Mark A)}
    {found : List (Opt A × String)} {extra : List String} (ho : o ∈ options)
    (h : optionsAt options o value rest = .ok (found, after, extra)) :
    (∀ x ∈ found, x.1 ∈ options) ∧ after <:+ rest := by
  obtain ⟨⟨first, ending⟩, hfirst, h⟩ := Except.exists_of_bind_eq_ok h
  obtain ⟨hknown, hwaiting⟩ := mem_of_optionsIn ho hfirst
  cases ending with
  | complete =>
      cases h
      exact ⟨hknown, List.suffix_rfl⟩
  | leftOver text =>
      cases h
      exact ⟨hknown, List.suffix_rfl⟩
  | waiting last =>
      obtain ⟨⟨v, after'⟩, hvalue, h⟩ := Except.exists_of_bind_eq_ok h
      cases h
      exact ⟨List.forall_mem_append.mpr
        ⟨hknown, List.forall_mem_singleton.mpr (hwaiting last rfl)⟩,
        suffix_of_followingValue hvalue⟩

theorem suffix_skipDashes (marks : List (String × Mark A)) : skipDashes marks <:+ marks := by
  unfold skipDashes
  split
  · exact List.suffix_cons _ _
  · exact List.suffix_rfl

section plain
variable (p : Progress A) (plain : List (String × Mark A))

theorem suffix_takePositional : (takePositional p plain).2 <:+ plain := by
  unfold takePositional
  split
  · exact List.suffix_rfl
  split
  · rename_i hskip
    have hrest := suffix_skipDashes plain
    rw [hskip] at hrest
    exact (suffix_skipDashes _).trans ((List.suffix_cons _ _).trans hrest)
  · exact suffix_skipDashes plain

theorem positional_takePositional : (takePositional p plain).1.positional = none := by
  unfold takePositional
  split
  · rename_i hnone
    exact hnone
  split <;> rfl

theorem suffix_readPlain : (readPlain p plain).2 <:+ plain := by
  unfold readPlain
  dsimp only
  split
  · split
    · exact suffix_takePositional p plain
    · exact List.drop_suffix _ _
  · exact List.nil_suffix

theorem positional_readPlain : (readPlain p plain).1.positional = none := by
  unfold readPlain
  dsimp only
  split
  · split
    · exact positional_takePositional p plain
    · rename_i hnone
      exact Option.not_isSome_iff_eq_none.mp hnone
  · exact positional_takePositional p plain

variable {p} in
/-- How far plain arguments are read depends on what is expected only. -/
theorem readPlain_congr {p' : Progress A} (h : p'.positional = p.positional) :
    (readPlain p' plain).2 = (readPlain p plain).2 := by
  have htake : (takePositional p' plain).2 = (takePositional p plain).2 := by
    unfold takePositional
    rw [h]
    split
    · rfl
    split <;> rfl
  unfold readPlain
  dsimp only
  rw [h, htake]
  split
  · split <;> rfl
  · rfl

end plain

theorem givenOnto_congr {p p' : Progress A} (h : p'.positional = p.positional) (n : ℕ)
    (marks : List (String × Mark A)) :
    givenOnto options n p' marks = givenOnto options n p marks := by
  induction n generalizing p p' marks with
  | zero => rfl
  | succ n ih =>
      unfold givenOnto
      split
      · rfl
      · split
        · rfl
        · rw [ih h]
      · exact ih h _
      · dsimp only
        rw [readPlain_congr _ h]
        exact ih ((positional_readPlain p' _).trans (positional_readPlain p _).symm) _

theorem mem_of_mem_givenOnto {n : ℕ} {p : Progress A} {marks : List (String × Mark A)}
    (hmarks : ∀ m ∈ marks, m.2.IsFrom options) :
    ∀ x ∈ givenOnto options n p marks, x.1 ∈ options := by
  fun_induction givenOnto options n p marks with
  | case1 => exact fun _ hx => absurd hx List.not_mem_nil
  | case2 => exact fun _ hx => absurd hx List.not_mem_nil
  | case3 => exact fun _ hx => absurd hx List.not_mem_nil
  | case4 n p text o name value rest found after extra hfound ih =>
      obtain ⟨ho, hrest⟩ := List.forall_mem_cons.mp hmarks
      obtain ⟨hknown, hsuffix⟩ := mem_of_optionsAt ho hfound
      exact List.forall_mem_append.mpr ⟨hknown, ih fun m hm => hrest m (hsuffix.subset hm)⟩
  | case5 n p text rest ih => exact ih (List.forall_mem_cons.mp hmarks).2
  | case6 n p plain hnil hoption hunknown q rest hread ih =>
      have hsuffix := suffix_readPlain p plain
      rw [hread] at hsuffix
      exact ih fun m hm => hmarks m (hsuffix.subset hm)

theorem exists_of_readAll {command : String} {positional : Option (String → A → A)} {start a : A}
    {args : List String} (h : Invocation.readAll command options positional start args = .ok a) :
    ∃ marks p, marksOf options args = .ok marks ∧
      readOnto options (marks.length + 1) { value := start, positional } marks = .ok p ∧
      p.value = a := by
  obtain ⟨⟨a', extras⟩, hread, h⟩ := Except.exists_of_bind_eq_ok h
  obtain ⟨marks, hmarks, hread⟩ := Except.exists_of_bind_eq_ok (Except.eq_ok_of_mapError hread)
  obtain ⟨p, hp, hread⟩ := Except.exists_of_bind_eq_ok hread
  refine ⟨marks, p, hmarks, hp, ?_⟩
  cases hread
  dsimp only at h
  split at h
  · cases h
    rfl
  · cases h

/-! ### A part of what is read -/

/-- Whatever its value, the option leaves a part of what is read as it is. -/
def Opt.Preserves {B : Type} (o : Opt A) (part : A → B) : Prop :=
  ∀ text a b, o.apply text a = .ok b → part b = part a

/-- Whatever its value, the option does to a part of what is read what it does to the whole. -/
def Opt.Commutes (o : Opt A) (part : A → A) : Prop :=
  ∀ text a b, o.apply text a = .ok b → o.apply text (part a) = .ok (part b)

/-- The options with their values, applied one after the other. -/
def applyAll (given : List (Opt A × String)) (a : A) : Except Stop A :=
  given.foldlM (fun a f => f.1.apply f.2 a) a

theorem applyAll_append (given given' : List (Opt A × String)) (a : A) :
    applyAll (given ++ given') a = applyAll given a >>= applyAll given' :=
  List.foldlM_append

/-- The plain argument that is expected is for no part of what is read. -/
def Progress.Preserves {B : Type} (p : Progress A) (part : A → B) : Prop :=
  ∀ set, p.positional = some set → ∀ text a, part (set text a) = part a

theorem Progress.Preserves.readPlain {B : Type} {part : A → B} {p : Progress A}
    (h : p.Preserves part) (plain : List (String × Mark A)) :
    part (readPlain p plain).1.value = part p.value := by
  have htake : part (takePositional p plain).1.value = part p.value := by
    unfold takePositional
    split
    · rfl
    · rename_i set hset
      split
      · exact h set hset _ _
      · rfl
  unfold Command.readPlain
  dsimp only
  split
  · split
    · exact htake
    · rfl
  · exact htake

section part
variable {part : A → A} {counts : Opt A → Bool}
  (hcounts : ∀ o ∈ options, counts o = true → o.Commutes part)
  (hother : ∀ o ∈ options, counts o = false → o.Preserves part)

include hcounts hother

theorem applyAll_filter {found : List (Opt A × String)} {a b : A}
    (hfound : ∀ x ∈ found, x.1 ∈ options) (h : applyAll found a = .ok b) :
    applyAll (found.filter fun f => counts f.1) (part a) = .ok (part b) := by
  induction found generalizing a with
  | nil =>
      cases h
      rfl
  | cons f rest ih =>
      obtain ⟨hf, hrest⟩ := List.forall_mem_cons.mp hfound
      obtain ⟨a', ha', h⟩ := Except.exists_of_bind_eq_ok h
      rw [List.filter_cons]
      cases hc : counts f.1 with
      | true =>
          rw [if_pos rfl, applyAll, List.foldlM_cons, hcounts f.1 hf hc _ _ _ ha']
          exact ih hrest h
      | false =>
          rw [if_neg Bool.false_ne_true, ← hother f.1 hf hc _ _ _ ha']
          exact ih hrest h

/-- The part that comes out of reading is what the options make of it that count for it. -/
theorem applyAll_givenOnto {n : ℕ} {p p' : Progress A} {marks : List (String × Mark A)}
    (hmarks : ∀ m ∈ marks, m.2.IsFrom options) (hp : p.Preserves part)
    (h : readOnto options n p marks = .ok p') :
    applyAll ((givenOnto options n p marks).filter fun f => counts f.1) (part p.value) =
      .ok (part p'.value) := by
  induction n generalizing p marks with
  | zero =>
      cases h
      rfl
  | succ n ih =>
      -- the same for all plain arguments, whatever the first of them is
      have hplain : readOnto options n (readPlain p marks).1 (readPlain p marks).2 = .ok p' →
          applyAll ((givenOnto options n (readPlain p marks).1 (readPlain p marks).2).filter
            fun f => counts f.1) (part p.value) = .ok (part p'.value) := by
        intro h
        have hnext : (readPlain p marks).1.Preserves part := by
          intro set hset
          rw [positional_readPlain] at hset
          cases hset
        rw [← hp.readPlain marks]
        exact ih (fun m hm => hmarks m ((suffix_readPlain p marks).subset hm)) hnext h
      rcases marks with _ | ⟨⟨text, mark⟩, rest⟩
      · cases h
        rfl
      obtain ⟨hmark, hrest⟩ := List.forall_mem_cons.mp hmarks
      cases mark with
      | dashes => exact hplain h
      | argument => exact hplain h
      | unknownOption =>
          let next := { p with extras := p.extras ++ [text] }
          have hsame : givenOnto options n next rest = givenOnto options n p rest :=
            givenOnto_congr (show next.positional = p.positional from rfl) n rest
          have hgiven := ih (p := next) hrest hp h
          rw [hsame] at hgiven
          exact hgiven
      | option o name value =>
          obtain ⟨⟨found, after, extra⟩, hfound, h⟩ := Except.exists_of_bind_eq_ok h
          obtain ⟨a, ha, h⟩ := Except.exists_of_bind_eq_ok h
          obtain ⟨hknown, hsuffix⟩ := mem_of_optionsAt hmark hfound
          let next := { p with value := a, extras := p.extras ++ extra }
          have hsame : givenOnto options n next after = givenOnto options n p after :=
            givenOnto_congr (show next.positional = p.positional from rfl) n after
          have hgiven := ih (p := next) (fun m hm => hrest m (hsuffix.subset hm)) hp h
          rw [hsame] at hgiven
          have hall : givenOnto options (n + 1) p ((text, .option o name value) :: rest) =
              found ++ givenOnto options n p after := by
            rw [givenOnto, hfound]
          rw [hall, List.filter_append, applyAll_append,
            applyAll_filter hcounts hother hknown ha]
          exact hgiven

end part

section options
variable {α B : Type} {names : List String} {part : A → B}

theorem preserves_chosen {choices : List (String × α)} {spelling : String → String}
    {set : α → A → A} (h : ∀ v a, part (set v a) = part a) :
    Opt.Preserves ⟨names, .value fun text a => return set (← chosen choices (spelling text)) a⟩
      part := by
  intro text a b hread
  unfold Opt.apply at hread
  dsimp only at hread
  cases hchosen : chosen choices (spelling text) with
  | error message =>
      rw [hchosen] at hread
      cases hread
  | ok v =>
      rw [hchosen] at hread
      cases hread
      exact h v a

theorem preserves_choiceOption {choices : List (String × α)} {set : α → A → A}
    (h : ∀ v a, part (set v a) = part a) : (choiceOption names choices set).Preserves part :=
  preserves_chosen h

theorem preserves_textOption {set : String → A → A} (h : ∀ text a, part (set text a) = part a) :
    (textOption names set).Preserves part := by
  intro text a b hread
  cases hread
  exact h text a

theorem preserves_switchOption {set : A → A} (h : ∀ a, part (set a) = part a) :
    (switchOption names set).Preserves part := by
  intro text a b hread
  cases hread
  exact h a

end options

section options
variable {α : Type} {names : List String} {part : A → A}

theorem commutes_choiceOption {choices : List (String × α)} {set : α → A → A}
    (h : ∀ v a, part (set v a) = set v (part a)) :
    (choiceOption names choices set).Commutes part := by
  intro text a b hread
  unfold Opt.apply choiceOption at hread ⊢
  dsimp only at hread ⊢
  cases hchosen : chosen choices text with
  | error message =>
      rw [hchosen] at hread
      cases hread
  | ok v =>
      rw [hchosen] at hread
      cases hread
      exact congrArg Except.ok (h v a).symm

theorem commutes_textOption {set : String → A → A}
    (h : ∀ text a, part (set text a) = set text (part a)) :
    (textOption names set).Commutes part := by
  intro text a b hread
  cases hread
  exact congrArg Except.ok (h text a).symm

theorem commutes_switchOption {set : A → A} (h : ∀ a, part (set a) = set (part a)) :
    (switchOption names set).Commutes part := by
  intro text a b hread
  cases hread
  exact congrArg Except.ok (h a).symm

theorem commutes_helpOption : (helpOption : Opt A).Commutes part := by
  intro text a b hread
  cases hread

end options

end reader

/-! ### The options of a scan -/

/-- The arguments of a scan with those for its report left at their defaults. -/
def ScanArguments.beyondReport (a : ScanArguments) : ScanArguments :=
  { a with
    format := .terminal
    grouping := none
    sortBy := .severity
    descending := true
    severity := none
    filter := {} }

/-- The names of the options for the report. -/
def reportOptionNames : List String :=
  ["--severity", "--classification", "--method", "--framework", "--route-contains", "--rule",
    "--sort-by", "--sort-dir", "--group-by", "--show-suppressed", "--output"]

def Opt.isForReport (o : Opt ScanArguments) : Bool := o.names.any reportOptionNames.contains

theorem preserves_beyondReport {o : Opt ScanArguments} (ho : o ∈ scanOptions)
    (hreport : o.isForReport = true) : o.Preserves ScanArguments.beyondReport := by
  simp only [scanOptions, commonOptions, List.mem_append, List.mem_cons, List.not_mem_nil,
    or_false] at ho
  -- in the order of the list; those that are not for the report have other names
  rcases ho with (rfl | rfl | rfl | rfl) | rfl | rfl | rfl | rfl | rfl | rfl | rfl | rfl | rfl |
    rfl | rfl | rfl | rfl | rfl | rfl | rfl | rfl
  · exact absurd hreport (by decide)
  · exact absurd hreport (by decide)
  · exact absurd hreport (by decide)
  · exact absurd hreport (by decide)
  · exact preserves_choiceOption fun _ _ => rfl
  · exact absurd hreport (by decide)
  · exact preserves_choiceOption fun _ _ => rfl
  · exact preserves_choiceOption fun _ _ => rfl
  · exact preserves_choiceOption fun _ _ => rfl
  · exact preserves_switchOption fun _ => rfl
  · exact absurd hreport (by decide)
  · exact preserves_choiceOption fun _ _ => rfl
  · exact preserves_choiceOption fun _ _ => rfl
  · exact preserves_chosen fun _ _ => rfl
  · exact preserves_textOption fun _ _ => rfl
  · exact preserves_choiceOption fun _ _ => rfl
  · exact preserves_textOption fun _ _ => rfl
  · exact absurd hreport (by decide)
  · exact absurd hreport (by decide)
  · exact absurd hreport (by decide)
  · exact absurd hreport (by decide)

/-- What options tell a scan beyond its report: all but its target, which is a plain argument. -/
def ScanArguments.core (a : ScanArguments) : ScanArguments := { a.beyondReport with path := "." }

theorem preserves_core {o : Opt ScanArguments} (ho : o ∈ scanOptions)
    (hreport : o.isForReport = true) : o.Preserves ScanArguments.core := by
  intro text a b hread
  rw [ScanArguments.core, preserves_beyondReport ho hreport text a b hread, ScanArguments.core]

theorem commutes_workersOption : workersOption.Commutes ScanArguments.core := by
  intro text a b hread
  unfold workersOption Opt.apply at hread ⊢
  dsimp only at hread ⊢
  cases hvalue : Numeral.readInt? text with
  | none =>
      rw [hvalue] at hread
      cases hread
  | some n =>
      rw [hvalue] at hread
      dsimp only at hread ⊢
      by_cases hlong : 4300 < Numeral.digitCount text
      · rw [if_pos hlong] at hread
        cases hread
      · rw [if_neg hlong] at hread ⊢
        cases hread
        rfl

theorem commutes_core {o : Opt ScanArguments} (ho : o ∈ scanOptions)
    (hreport : o.isForReport = false) : o.Commutes ScanArguments.core := by
  simp only [scanOptions, commonOptions, List.mem_append, List.mem_cons, List.not_mem_nil,
    or_false] at ho
  rcases ho with (rfl | rfl | rfl | rfl) | rfl | rfl | rfl | rfl | rfl | rfl | rfl | rfl | rfl |
    rfl | rfl | rfl | rfl | rfl | rfl | rfl | rfl
  · exact commutes_helpOption
  · exact commutes_switchOption fun _ => rfl
  · exact commutes_switchOption fun _ => rfl
  · exact commutes_textOption fun _ _ => rfl
  · exact absurd hreport (by decide)
  · exact commutes_textOption fun _ _ => rfl
  · exact absurd hreport (by decide)
  · exact absurd hreport (by decide)
  · exact absurd hreport (by decide)
  · exact absurd hreport (by decide)
  · exact commutes_switchOption fun _ => rfl
  · exact absurd hreport (by decide)
  · exact absurd hreport (by decide)
  · exact absurd hreport (by decide)
  · exact absurd hreport (by decide)
  · exact absurd hreport (by decide)
  · exact absurd hreport (by decide)
  · exact commutes_textOption fun _ _ => rfl
  · exact commutes_switchOption fun _ => rfl
  · exact commutes_workersOption
  · exact commutes_choiceOption fun _ _ => rfl

/-! ### Arguments that differ in the report -/

/-- What reading the arguments of a scan starts with. -/
def scanStart : Progress ScanArguments where
  value := {}
  positional := some fun text a => { a with path := text }

/-- The options that arguments give to a scan, with their values. -/
def givenOptions (args : List String) : List (Opt ScanArguments × String) :=
  match marksOf scanOptions (Invocation.withCommand args).tail with
  | .ok marks => givenOnto scanOptions (marks.length + 1) scanStart marks
  | .error _ => []

/-- The options beyond the report that arguments give to a scan, by their names and values. -/
def givenBeyondReport (args : List String) : List (List String × String) :=
  ((givenOptions args).filter fun f => !f.1.isForReport).map fun f => (f.1.names, f.2)

theorem exists_of_ofArguments {args : List String} {a : ScanArguments}
    (h : Invocation.ofArguments args = .ok (.scan a)) :
    ∃ marks p, marksOf scanOptions (Invocation.withCommand args).tail = .ok marks ∧
      readOnto scanOptions (marks.length + 1) scanStart marks = .ok p ∧ p.value = a := by
  obtain ⟨_, -, h⟩ := Except.exists_of_bind_eq_ok h
  split at h
  · rename_i rest hcommand
    obtain ⟨a', hread, h⟩ := Except.exists_of_bind_eq_ok h
    cases h
    rw [hcommand, List.tail_cons]
    exact exists_of_readAll hread
  · obtain ⟨_, -, h⟩ := Except.exists_of_bind_eq_ok h
    cases h
  · obtain ⟨_, -, h⟩ := Except.exists_of_bind_eq_ok h
    cases h
  · cases h
  · cases h

theorem mem_of_mem_givenOptions {args : List String} :
    ∀ x ∈ givenOptions args, x.1 ∈ scanOptions := by
  unfold givenOptions
  split
  · rename_i hmarks
    exact mem_of_mem_givenOnto (isFrom_of_marksOf hmarks)
  · exact fun _ hx => absurd hx List.not_mem_nil

/-- What a scan is told beyond its report comes from the options that are not for the report. -/
theorem applyAll_givenOptions {args : List String} {a : ScanArguments}
    (h : Invocation.ofArguments args = .ok (.scan a)) :
    applyAll ((givenOptions args).filter fun f => !f.1.isForReport) {} = .ok a.core := by
  obtain ⟨marks, p, hmarks, hread, rfl⟩ := exists_of_ofArguments h
  have hcounts : ∀ o ∈ scanOptions, (!o.isForReport) = true → o.Commutes ScanArguments.core :=
    fun o ho hbeyond => commutes_core ho (Bool.not_eq_eq_eq_not.mp hbeyond)
  have hother : ∀ o ∈ scanOptions, (!o.isForReport) = false → o.Preserves ScanArguments.core :=
    fun o ho hreport => preserves_core ho (Bool.not_eq_eq_eq_not.mp hreport)
  have hstart : scanStart.Preserves ScanArguments.core := by
    rintro set ⟨⟩ text a
    rfl
  rw [givenOptions, hmarks]
  exact applyAll_givenOnto hcounts hother (isFrom_of_marksOf hmarks) hstart hread

theorem eq_of_map_names {xs ys : List (Opt ScanArguments × String)}
    (hxs : ∀ x ∈ xs, x.1 ∈ scanOptions) (hys : ∀ y ∈ ys, y.1 ∈ scanOptions)
    (h : xs.map (fun f => (f.1.names, f.2)) = ys.map fun f => (f.1.names, f.2)) : xs = ys := by
  have hnames : (scanOptions.map Opt.names).Nodup := by decide
  induction xs generalizing ys with
  | nil => exact (List.map_eq_nil_iff.mp h.symm).symm
  | cons x rest ih =>
      obtain ⟨y, rest', rfl, hhead, htail⟩ := List.map_eq_cons_iff.mp h.symm
      obtain ⟨hx, hrest⟩ := List.forall_mem_cons.mp hxs
      obtain ⟨hy, hrest'⟩ := List.forall_mem_cons.mp hys
      have hoption : y.1 = x.1 := List.inj_on_of_nodup_map hnames hy hx (Prod.mk.inj hhead).1
      rw [ih hrest hrest' htail.symm, Prod.ext hoption (Prod.mk.inj hhead).2]

/-- Arguments with the same target that give a scan the same options beyond the report are read
alike beyond it. -/
theorem beyondReport_eq_of_given {args args' : List String} {a a' : ScanArguments}
    (h : Invocation.ofArguments args = .ok (.scan a))
    (h' : Invocation.ofArguments args' = .ok (.scan a'))
    (hgiven : givenBeyondReport args = givenBeyondReport args') (hpath : a.path = a'.path) :
    a.beyondReport = a'.beyondReport := by
  have hsame := eq_of_map_names (fun x hx => mem_of_mem_givenOptions x (List.mem_filter.mp hx).1)
    (fun x hx => mem_of_mem_givenOptions x (List.mem_filter.mp hx).1) hgiven
  have hcore : a.core = a'.core := by
    have hread := applyAll_givenOptions h
    rw [hsame, applyAll_givenOptions h'] at hread
    exact (Except.ok.inj hread).symm
  have hbeyond : ∀ a : ScanArguments, a.beyondReport = { a.core with path := a.path } :=
    fun _ => rfl
  rw [hbeyond, hbeyond, hcore, hpath]

end RouteAudit.Command
