import Mathlib.Data.List.Nodup
import RouteAudit.Files.Select
import RouteAudit.Proofs.FileAccess

/-! # Which files are selected

What is selected in a directory is what is selected in each of its entries by itself (`branchOf`),
put in order (`select_perm`). From that, by induction along the tree: the selected paths lead to
entries that are no directories (`exists_listed?_of_mem_select`), no path is selected twice
(`nodup_select`), and the selection depends on names only, so that it stays the same when another
file is put where something else than a directory was listed (`select_put`). -/

namespace RouteAudit

namespace FileTree

theorem sizeOf_lt_of_mem_entries {t : FileTree} {e : String × FileTree} (h : e ∈ t.entries) :
    sizeOf e.2 < sizeOf t := by
  cases t with
  | file content => cases h
  | dangling => cases h
  | directory es =>
      have hmem : sizeOf e < sizeOf es := List.sizeOf_lt_of_mem h
      have hpair : sizeOf e.2 < sizeOf e := by
        cases e
        simp +arith
      simp only [directory.sizeOf_spec]
      omega

/-- What holds of a tree whenever it holds of its entries holds of every tree. -/
theorem induction_on_entries {P : FileTree → Prop}
    (step : ∀ t : FileTree, (∀ e ∈ t.entries, P e.2) → P t) (t : FileTree) : P t :=
  step t fun e he =>
    have _hlt := sizeOf_lt_of_mem_entries he
    induction_on_entries step e.2
termination_by sizeOf t
decreasing_by exact _hlt

end FileTree

namespace Selection

variable (s : Selection)

/-- What is selected in one entry of a directory that lies at some parts. -/
def branchOf (above : List String) (e : String × FileTree) : Branch :=
  let path := above ++ [e.1]
  ⟨e.1, e.2.isDirectory,
    if e.2.isDirectory then if s.prunes path then [] else s.select path e.2
    else if s.takes path then [path] else []⟩

theorem selectEntries_eq_map (above : List String) (es : List (String × FileTree)) :
    s.selectEntries above es = es.map (s.branchOf above) := by
  induction es with
  | nil => rw [selectEntries, List.map_nil]
  | cons e rest ih =>
      obtain ⟨name, t⟩ := e
      cases t with
      | directory entries => rw [selectEntries, ih]; rfl
      | file content =>
          rw [selectEntries, ih]
          · rfl
          · simp
      | dangling =>
          rw [selectEntries, ih]
          · rfl
          · simp

theorem select_perm (above : List String) (t : FileTree) :
    (s.select above t).Perm (t.entries.flatMap fun e => (s.branchOf above e).paths) := by
  cases t with
  | file content => exact .refl _
  | dangling => exact .refl _
  | directory es =>
      rw [select, selectEntries_eq_map, FileTree.entries]
      have hsorted : (inOrder ((es.map (s.branchOf above)).filter fun b => !b.isDirectory) ++
          inOrder ((es.map (s.branchOf above)).filter fun b => b.isDirectory)).Perm _ :=
        (List.mergeSort_perm _ _).append (List.mergeSort_perm _ _)
      have hparted := List.filter_append_perm (fun b => b.isDirectory) (es.map (s.branchOf above))
      have hbranches := hsorted.trans (List.perm_append_comm.trans hparted)
      have hpaths := hbranches.flatMap_right Branch.paths
      rwa [List.flatMap_map] at hpaths

variable {s}

theorem mem_paths_branchOf {above parts : List String} {e : String × FileTree}
    (h : parts ∈ (s.branchOf above e).paths) :
    (e.2.isDirectory = false ∧ parts = above ++ [e.1]) ∨ parts ∈ s.select (above ++ [e.1]) e.2 := by
  simp only [branchOf] at h
  split_ifs at h with hdir hprunes htakes
  · cases h
  · exact .inr h
  · exact .inl ⟨by simpa using hdir, List.mem_singleton.mp h⟩
  · cases h

/-- Every selected path leads to an entry that is no directory. -/
theorem exists_listed?_of_mem_select {t : FileTree} : ∀ {above parts : List String},
    t.isProper = true → parts ∈ s.select above t →
      ∃ rest leaf, rest ≠ [] ∧ parts = above ++ rest ∧ t.listed? rest = some leaf ∧
        leaf.isDirectory = false := by
  induction t using FileTree.induction_on_entries with
  | step t ih =>
      intro above parts hproper h
      rw [(s.select_perm above t).mem_iff, List.mem_flatMap] at h
      obtain ⟨e, he, hparts⟩ := h
      obtain ⟨hnodup, hall⟩ := FileTree.entries_of_isProper hproper
      have hlookup : t.entries.lookup e.1 = some e.2 := FileTree.lookup_of_mem hnodup he
      rcases mem_paths_branchOf hparts with ⟨hleaf, rfl⟩ | hbelow
      · refine ⟨[e.1], e.2, List.cons_ne_nil _ _, rfl, ?_, hleaf⟩
        rw [FileTree.listed?_cons, hlookup, Option.bind_some, FileTree.listed?_nil]
      · obtain ⟨rest, leaf, -, rfl, hrest, hleaf⟩ := ih e he (hall e he).2 hbelow
        refine ⟨e.1 :: rest, leaf, List.cons_ne_nil _ _, by simp, ?_, hleaf⟩
        rw [FileTree.listed?_cons, hlookup, Option.bind_some, hrest]

theorem isPrefix_of_mem_branchOf {above parts : List String} {e : String × FileTree}
    (hproper : e.2.isProper = true) (h : parts ∈ (s.branchOf above e).paths) :
    above ++ [e.1] <+: parts := by
  rcases mem_paths_branchOf h with ⟨-, rfl⟩ | hbelow
  · exact List.prefix_refl _
  · obtain ⟨rest, -, -, rfl, -⟩ := exists_listed?_of_mem_select hproper hbelow
    exact List.prefix_append _ _

theorem nodup_select {t : FileTree} : ∀ {above : List String}, t.isProper = true →
    (s.select above t).Nodup := by
  induction t using FileTree.induction_on_entries with
  | step t ih =>
      intro above hproper
      obtain ⟨hnodup, hall⟩ := FileTree.entries_of_isProper hproper
      rw [(s.select_perm above t).nodup_iff, List.nodup_flatMap]
      constructor
      · intro e he
        simp only [branchOf]
        split_ifs
        · exact List.nodup_nil
        · exact ih e he (hall e he).2
        · exact List.nodup_singleton _
        · exact List.nodup_nil
      · -- entries differ in their names, and so do the paths below them
        refine (List.pairwise_map.mp hnodup).imp_of_mem ?_
        intro e e' he he' hne parts hparts hparts'
        have h₁ := isPrefix_of_mem_branchOf (hall e he).2 hparts
        have h₂ := isPrefix_of_mem_branchOf (hall e' he').2 hparts'
        have heq := (List.prefix_of_prefix_length_le h₁ h₂ (by simp)).eq_of_length (by simp)
        simp only [List.append_cancel_left_eq, List.cons.injEq, and_true] at heq
        exact hne heq

theorem collect_directory (target : Path) (es : List (String × FileTree)) :
    s.collect target (.directory es) = (s.select [] (.directory es)).map fun parts =>
      { target with parts := target.parts ++ parts } := rfl

theorem select_congr {above : List String} {es es' : List (String × FileTree)}
    (h : es.map (s.branchOf above) = es'.map (s.branchOf above)) :
    s.select above (.directory es) = s.select above (.directory es') := by
  rw [select, select, selectEntries_eq_map, selectEntries_eq_map, h]

/-- The selection does not look into files. -/
theorem select_put (content : List UInt8) {leaf : FileTree} (hleaf : leaf.isDirectory = false) :
    ∀ {parts : List String} {t : FileTree} (above : List String), parts ≠ [] →
      t.listed? parts = some leaf → s.select above (t.put parts (.file content)) = s.select above t
  | [], _, _, hne, _ => absurd rfl hne
  | p :: rest, t, above, _, h => by
      cases t with
      | file bytes => cases h
      | dangling => cases h
      | directory es =>
          rw [FileTree.listed?_cons, Option.bind_eq_some_iff] at h
          obtain ⟨c, hc, hrest⟩ := h
          obtain ⟨before, after, hsplit, hupdate⟩ := Assoc.update_of_lookup
            (f := fun old => (old.getD .empty).put rest (.file content)) hc
          have hbranch : s.branchOf above (p, c.put rest (.file content)) =
              s.branchOf above (p, c) := by
            cases rest with
            | nil =>
                cases hrest
                simp only [branchOf, FileTree.put, hleaf]
                rfl
            | cons q rest =>
                have hdir := FileTree.isDirectory_of_listed? hrest
                have hsame :=
                  select_put content hleaf (above ++ [p]) (List.cons_ne_nil q rest) hrest
                simp only [branchOf, hsame, hdir]
                rfl
          rw [FileTree.put, hupdate]
          refine select_congr ?_
          change es = _ at hsplit
          rw [hsplit, List.map_append, List.map_append, List.map_cons, List.map_cons,
            Option.getD_some, hbranch]

end Selection

end RouteAudit
