import Mathlib.Data.List.Nodup
import Mathlib.Data.List.Perm.Basic
import Mathlib.Data.String.Basic
import RouteAudit.Config.Settings
import RouteAudit.Proofs.FileSelection
import RouteAudit.Proofs.GlobMatching

/-! # Leaving out directories changes nothing

A directory is not entered when its path with a slash at the end is excluded. Each file below would
have been refused by the same glob: a glob that ends in a star matches whatever follows what it
matches, and a glob whose last character stands for itself and is no slash matches no path that ends
in a slash (`fits_below`). So the selected files are all those that are included and not excluded,
each on its own (`mem_select_iff`).

Entries are visited in the order of their names, which differ within a directory, so it does not
matter in which order they were listed, at any depth (`select_eq_of_relisted`). -/

namespace RouteAudit

/-! ### Globs and what lies below a directory -/

namespace Glob

/-- The last character of a glob is a star, or it stands for itself and is no slash. -/
def HasPlainEnd (pattern : String) : Prop :=
  ∀ c ∈ pattern.toList.getLast?, c = '*' ∨ c ≠ '/' ∧ c ≠ '?' ∧ c ≠ ']'

/-- A glob that matches a directory with its slash matches all that lies below. -/
theorem fits_below {pattern : String} (hend : HasPlainEnd pattern) {dir : String}
    (h : fits pattern (dir ++ "/") = true) (rest : String) :
    fits pattern (dir ++ "/" ++ rest) = true := by
  rw [fits, parse] at h ⊢
  rw [String.toList_append]
  have hbound : pattern.toList.length ≤ pattern.length := Nat.le_of_eq String.length_toList
  cases hlast : pattern.toList.getLast? with
  | none =>
      rw [List.getLast?_eq_none_iff.mp hlast, items_nil, covers_nil] at h
      simp at h
  | some c =>
      by_cases hstar : c = '*'
      · have hitem := getLast?_items hbound hlast (by simp [hstar]) (by simp [hstar])
        rw [if_pos hstar] at hitem
        exact covers_of_getLast?_star hitem h _
      · obtain ⟨hslash, hquestion, hbracket⟩ := (hend c hlast).resolve_left hstar
        have hitem := getLast?_items hbound hlast hquestion hbracket
        rw [if_neg hstar] at hitem
        have hc := getLast?_of_covers hitem h
        rw [String.toList_append, List.getLast?_append] at hc
        exact absurd (Option.some.inj hc).symm hslash

end Glob

theorem matchesAnyGlob_below {patterns : List String}
    (hend : ∀ p ∈ patterns, Glob.HasPlainEnd p) {dir : String}
    (h : matchesAnyGlob (dir ++ "/") patterns = true) (rest : String) :
    matchesAnyGlob (dir ++ "/" ++ rest) patterns = true := by
  rw [matchesAnyGlob, List.any_eq_true] at h ⊢
  obtain ⟨p, hp, hfits⟩ := h
  refine ⟨p, hp, ?_⟩
  rw [Bool.or_eq_true] at hfits ⊢
  rcases hfits with hfits | hfits
  · exact .inl (Glob.fits_below (hend p hp) hfits rest)
  · rw [← String.append_assoc] at hfits
    have hbelow := Glob.fits_below (hend p hp) hfits rest
    simp only [String.append_assoc] at hbelow ⊢
    exact .inr hbelow

theorem hasPlainEnd_standard : ∀ p ∈ ({} : Settings).excluded, Glob.HasPlainEnd p := by
  simp only [List.forall_mem_cons]
  refine ⟨?_, ?_, ?_, ?_, ?_, by simp⟩ <;> intro c hc <;> obtain rfl := Option.some.inj hc
  · exact .inl rfl
  · exact .inr (by decide)
  · exact .inl rfl
  · exact .inl rfl
  · exact .inl rfl

namespace Selection

@[simp] theorem relative_singleton (p : String) : relative [p] = p := Text.join_singleton "/" p

theorem relative_append {rest : List String} (hrest : rest ≠ []) {dir : List String}
    (hdir : dir ≠ []) : relative (dir ++ rest) = relative dir ++ "/" ++ relative rest :=
  Text.join_append "/" hrest hdir

variable {s : Selection}

/-- What lies below a directory that is left out would not be taken either. -/
theorem takes_of_prunes (hend : ∀ p ∈ s.excluded, Glob.HasPlainEnd p) {dir rest : List String}
    (hdir : dir ≠ []) (hprunes : s.prunes dir = true) (hrest : rest ≠ []) :
    s.takes (dir ++ rest) = false := by
  have hexcluded := matchesAnyGlob_below hend hprunes (relative rest)
  rw [← relative_append hrest hdir] at hexcluded
  rw [takes, hexcluded, Bool.not_true, Bool.and_false]

/-- The files that are taken one by one, wherever they lie. -/
theorem mem_select_iff (hend : ∀ p ∈ s.excluded, Glob.HasPlainEnd p) {t : FileTree} :
    ∀ {above parts : List String}, t.isProper = true →
      (parts ∈ s.select above t ↔ ∃ rest leaf, rest ≠ [] ∧ parts = above ++ rest ∧
        t.listed? rest = some leaf ∧ leaf.isDirectory = false ∧ s.takes parts = true) := by
  induction t using FileTree.induction_on_entries with
  | step t ih =>
      intro above parts hproper
      obtain ⟨hnodup, hall⟩ := FileTree.entries_of_isProper hproper
      rw [(s.select_perm above t).mem_iff, List.mem_flatMap]
      constructor
      · rintro ⟨e, he, hparts⟩
        have hlookup : t.entries.lookup e.1 = some e.2 := FileTree.lookup_of_mem hnodup he
        simp only [branchOf] at hparts
        split_ifs at hparts with hdir hprunes htakes
        · cases hparts
        · obtain ⟨rest, leaf, -, rfl, hrest, hleaf, htakes⟩ := (ih e he (hall e he).2).mp hparts
          refine ⟨e.1 :: rest, leaf, List.cons_ne_nil _ _, by simp, ?_, hleaf, htakes⟩
          rw [FileTree.listed?_cons, hlookup, Option.bind_some, hrest]
        · obtain rfl := List.mem_singleton.mp hparts
          refine ⟨[e.1], e.2, List.cons_ne_nil _ _, rfl, ?_, by simpa using hdir, htakes⟩
          rw [FileTree.listed?_cons, hlookup, Option.bind_some, FileTree.listed?_nil]
        · cases hparts
      · rintro ⟨rest, leaf, hne, rfl, hrest, hleaf, htakes⟩
        obtain ⟨p, rest, rfl⟩ := List.exists_cons_of_ne_nil hne
        rw [FileTree.listed?_cons, Option.bind_eq_some_iff] at hrest
        obtain ⟨c, hlookup, hrest⟩ := hrest
        have he := FileTree.mem_of_lookup hlookup
        refine ⟨(p, c), he, ?_⟩
        simp only [branchOf]
        cases rest with
        | nil =>
            cases hrest
            simp [hleaf, htakes]
        | cons q rest =>
            have hdir := FileTree.isDirectory_of_listed? hrest
            have hsplit : above ++ p :: q :: rest = above ++ [p] ++ q :: rest := by simp
            rw [hsplit] at htakes ⊢
            have hkept : s.prunes (above ++ [p]) = false := by
              by_contra hprunes
              rw [takes_of_prunes hend (by simp) (by simpa using hprunes) (List.cons_ne_nil q rest)]
                at htakes
              cases htakes
            rw [if_pos hdir, hkept, if_neg Bool.false_ne_true]
            exact (ih (p, c) he (hall (p, c) he).2).mpr
              ⟨q :: rest, leaf, List.cons_ne_nil _ _, rfl, hrest, hleaf, htakes⟩

end Selection

/-! ### The order of listings -/

namespace FileTree

/-- The same files and directories, with the entries of some directories listed in another order. -/
inductive Relisted : FileTree → FileTree → Prop where
  | refl (t : FileTree) : Relisted t t
  | trans {t u v : FileTree} (h : Relisted t u) (h' : Relisted u v) : Relisted t v
  | reorder {es es' : List (String × FileTree)} (h : es.Perm es') :
      Relisted (directory es) (directory es')
  | inside {t u : FileTree} (before after : List (String × FileTree)) (name : String)
      (h : Relisted t u) :
      Relisted (directory (before ++ (name, t) :: after)) (directory (before ++ (name, u) :: after))

namespace Relisted

variable {t u : FileTree}

theorem isDirectory_eq (h : Relisted t u) : t.isDirectory = u.isDirectory := by
  induction h with
  | refl t => rfl
  | trans _ _ ih ih' => exact ih.trans ih'
  | reorder h => rfl
  | inside before after name h ih => rfl

theorem isProper_of (h : Relisted t u) (hproper : t.isProper = true) : u.isProper = true := by
  induction h with
  | refl t => exact hproper
  | trans _ _ ih ih' => exact ih' (ih hproper)
  | reorder h =>
      obtain ⟨hnodup, hall⟩ := areProper_iff.mp hproper
      exact areProper_iff.mpr
        ⟨(h.map Prod.fst).nodup_iff.mp hnodup, fun e he => hall e (h.mem_iff.mpr he)⟩
  | inside before after name h ih =>
      obtain ⟨hnodup, hall⟩ := areProper_iff.mp hproper
      refine areProper_iff.mpr ⟨by simpa using hnodup, ?_⟩
      simp only [List.forall_mem_append, List.forall_mem_cons] at hall ⊢
      obtain ⟨hbefore, ⟨hname, hinner⟩, hafter⟩ := hall
      exact ⟨hbefore, ⟨hname, ih hinner⟩, hafter⟩

end Relisted

end FileTree

namespace Selection

variable {s : Selection}

theorem inOrder_eq_of_perm {bs bs' : List Branch} (hperm : bs.Perm bs')
    (hnodup : (bs.map (·.name)).Nodup) : inOrder bs = inOrder bs' := by
  have hle : ∀ cs : List Branch,
      (inOrder cs).Pairwise fun a b => decide (a.name ≤ b.name) = true := fun cs =>
    List.pairwise_mergeSort (fun a b c hab hbc => by
      simp only [decide_eq_true_eq] at hab hbc ⊢
      exact String.le_trans hab hbc) (fun a b => by
      simp only [Bool.or_eq_true, decide_eq_true_eq]
      exact String.le_total a.name b.name) cs
  have hsame : (inOrder bs).Perm (inOrder bs') :=
    (List.mergeSort_perm bs _).trans (hperm.trans (List.mergeSort_perm bs' _).symm)
  refine List.Perm.eq_of_pairwise ?_ (hle bs) (hle bs') hsame
  intro a b ha hb hab hba
  simp only [decide_eq_true_eq] at hab hba
  refine List.inj_on_of_nodup_map hnodup (List.mem_mergeSort.mp ha)
    (hperm.mem_iff.mpr (List.mem_mergeSort.mp hb)) ?_
  exact String.le_antisymm hab hba

/-- The order of a listing does not show in what is selected. -/
theorem select_eq_of_perm {es es' : List (String × FileTree)} (hperm : es.Perm es')
    (hnodup : (es.map Prod.fst).Nodup) (above : List String) :
    s.select above (.directory es) = s.select above (.directory es') := by
  have hbranches := hperm.map (s.branchOf above)
  have hnames : ((es.map (s.branchOf above)).map (·.name)).Nodup := by
    rwa [List.map_map]
  rw [select, select, selectEntries_eq_map, selectEntries_eq_map,
    inOrder_eq_of_perm (hbranches.filter _) ((List.filter_sublist.map _).nodup hnames),
    inOrder_eq_of_perm (hbranches.filter _) ((List.filter_sublist.map _).nodup hnames)]

theorem select_eq_of_relisted {t u : FileTree} (h : t.Relisted u) (hproper : t.isProper = true) :
    ∀ above, s.select above t = s.select above u := by
  induction h with
  | refl t => exact fun _ => rfl
  | trans h _ ih ih' => exact fun above => (ih hproper above).trans (ih' (h.isProper_of hproper) above)
  | reorder h => exact select_eq_of_perm h (FileTree.areProper_iff.mp hproper).1
  | inside before after name h ih =>
      intro above
      obtain ⟨-, hall⟩ := FileTree.areProper_iff.mp hproper
      have hinner := (hall (name, _) (List.mem_append_right before List.mem_cons_self)).2
      refine select_congr ?_
      rw [List.map_append, List.map_append, List.map_cons, List.map_cons]
      congr 2
      simp only [branchOf, h.isDirectory_eq, ih hinner]

/-- **Leaving out directories is an optimisation only, and the order of listings is irrelevant.**
Let every excluding glob end in a star or in a character that stands for itself and is no slash.
Then the files collected below a directory are exactly those whose path is included and not
excluded, each of them once, and the list of them is the same in whatever order the entries of the
directories are listed. -/
theorem pruning_and_listing_unobservable (s : Selection)
    (hend : ∀ p ∈ s.excluded, Glob.HasPlainEnd p) (target : Path)
    (entries : List (String × FileTree)) (hproper : (FileTree.directory entries).isProper = true) :
    (∀ path, path ∈ s.collect target (.directory entries) ↔
      ∃ parts leaf, parts ≠ [] ∧ path = { target with parts := target.parts ++ parts } ∧
        (FileTree.directory entries).listed? parts = some leaf ∧ leaf.isDirectory = false ∧
        matchesAnyGlob (relative parts) s.included = true ∧
        matchesAnyGlob (relative parts) s.excluded = false) ∧
    (s.collect target (.directory entries)).Nodup ∧
    ∀ entries', (FileTree.directory entries).Relisted (.directory entries') →
      s.collect target (.directory entries') = s.collect target (.directory entries) := by
  refine ⟨fun path => ?_, ?_, fun entries' hrelisted => ?_⟩
  · rw [collect_directory, List.mem_map]
    constructor
    · rintro ⟨parts, hparts, rfl⟩
      obtain ⟨_, leaf, hne, rfl, hlisted, hleaf, htakes⟩ := (mem_select_iff hend hproper).mp hparts
      rw [takes, Bool.and_eq_true, Bool.not_eq_true'] at htakes
      exact ⟨parts, leaf, hne, rfl, hlisted, hleaf, htakes⟩
    · rintro ⟨parts, leaf, hne, rfl, hlisted, hleaf, hincluded, hexcluded⟩
      have htakes : s.takes parts = true := by
        rw [takes, hincluded, hexcluded, Bool.not_false, Bool.and_true]
      exact ⟨parts, (mem_select_iff hend hproper).mpr
        ⟨parts, leaf, hne, rfl, hlisted, hleaf, htakes⟩, rfl⟩
  · refine (nodup_select hproper).map fun parts parts' heq => ?_
    simpa using heq
  · rw [collect_directory, collect_directory, select_eq_of_relisted hrelisted hproper]

/-- A directory with sources of its own, some of them generated, and with sources of others. -/
def shopEntries : List (String × FileTree) :=
  [("vendor", .directory [("cart.go", .file [])]),
   ("api", .directory [("main.go", .file []), ("main_gen.go", .file [])])]

/-- With the standard globs and one for generated files, the directory `vendor` is not entered, and
the source that was not generated is collected, whichever way the entries are listed. -/
theorem shop_pruning_unobservable :
    let s : Selection := ⟨["**/*.go"], "*_gen.go" :: ({} : Settings).excluded⟩
    let target : Path := ⟨"/", ["shop"]⟩
    ⟨"/", ["shop", "api", "main.go"]⟩ ∈ s.collect target (.directory shopEntries) ∧
      ⟨"/", ["shop", "vendor", "cart.go"]⟩ ∉ s.collect target (.directory shopEntries) ∧
      s.collect target (.directory shopEntries.reverse) =
        s.collect target (.directory shopEntries) := by
  intro s target
  have hend : ∀ p ∈ s.excluded, Glob.HasPlainEnd p := by
    refine List.forall_mem_cons.mpr ⟨fun c hc => ?_, hasPlainEnd_standard⟩
    obtain rfl := Option.some.inj hc
    exact .inr (by decide)
  obtain ⟨hmem, -, horder⟩ := pruning_and_listing_unobservable s hend target shopEntries (by decide)
  refine ⟨(hmem _).mpr ?_, fun h => ?_, horder _ (.reorder (List.reverse_perm _).symm)⟩
  · exact ⟨["api", "main.go"], .file [], by decide, rfl, rfl, rfl, by decide +kernel,
      by decide +kernel⟩
  · obtain ⟨parts, -, -, heq, -, -, -, hexcluded⟩ := (hmem _).mp h
    obtain rfl : parts = ["vendor", "cart.go"] := by simpa [target] using heq.symm
    exact absurd hexcluded (by decide +kernel)

end Selection

end RouteAudit
