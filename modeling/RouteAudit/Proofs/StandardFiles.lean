import RouteAudit.Proofs.FilePruning

/-! # Which files are scanned by default

The standard globs speak of characters and not of the parts of a path: stars cross slashes, and a
path is tried with a slash in front as well. That they mean what they suggest comes from the slashes
in them, since no part of a path has one. A glob `**/*word` asks for the end of the path, and that
is the end of the file's name (`suffix_relative_iff`). A glob `**/word/**` asks for `word` between
two slashes, and that is the name of a directory on the way (`segment_iff`). -/

namespace RouteAudit

namespace Selection

/-- The globs that are used when none are given. -/
def standard : Selection := ⟨({} : Settings).included, ({} : Settings).excluded⟩

/-- The names of the directories that they leave out. -/
def leftOut : List String := ["vendor", "testdata", ".git", "node_modules"]

/-! ### The parts of a path in its text -/

theorem toList_relative (parts : List String) :
    (relative parts).toList = List.intercalate ['/'] (parts.map String.toList) := by
  simp [relative, Text.join]

section parts
variable {parts : List String} (hparts : ∀ p ∈ parts, '/' ∉ p.toList)

include hparts

theorem splitAt_relative (hne : parts ≠ []) :
    Text.splitAt '/' (relative parts).toList = parts.map String.toList := by
  rw [toList_relative]
  refine Text.splitAt_intercalate (by simpa using hne) ?_
  simpa using hparts

/-- The text of a path has a word and a slash at its start or after a slash exactly when the word is
the name of a directory on the way. -/
theorem segment_iff (hne : parts ≠ []) {word : String} (hword : '/' ∉ word.toList) :
    (∃ w any, w = word.toList ++ '/' :: any ∧
        (w = (relative parts).toList ∨ ∃ before, (relative parts).toList = before ++ '/' :: w)) ↔
      word ∈ parts.dropLast := by
  have hsplit := splitAt_relative hparts hne
  constructor
  · rintro ⟨_, any, rfl, hw⟩
    obtain ⟨before, hcut⟩ : ∃ before,
        parts.map String.toList = before ++ word.toList :: Text.splitAt '/' any := by
      rcases hw with hw | ⟨before, hw⟩
      · rw [← hw, Text.splitAt_append_cons any hword] at hsplit
        exact ⟨[], hsplit.symm⟩
      · rw [hw, Text.splitAt_append_sep, Text.splitAt_append_cons any hword] at hsplit
        exact ⟨_, hsplit.symm⟩
    have hmem : word.toList ∈ (parts.map String.toList).dropLast := by
      rw [hcut, List.dropLast_append_of_ne_nil (List.cons_ne_nil _ _),
        List.dropLast_cons_of_ne_nil (Text.splitAt_ne_nil _ _)]
      simp
    rw [← List.map_dropLast, List.mem_map] at hmem
    obtain ⟨p, hp, heq⟩ := hmem
    exact String.toList_injective heq ▸ hp
  · intro hmem
    obtain ⟨dirs, rest, heq⟩ := List.append_of_mem hmem
    have hlast : rest ++ [parts.getLast hne] ≠ [] := by simp
    have hcut : parts = dirs ++ word :: (rest ++ [parts.getLast hne]) := by
      rw [← List.cons_append, ← List.append_assoc, ← heq, List.dropLast_append_getLast hne]
    generalize rest ++ [parts.getLast hne] = rest at hcut hlast
    have hbelow : (relative (word :: rest)).toList =
        word.toList ++ '/' :: (relative rest).toList := by
      rw [← List.singleton_append, relative_append hlast (List.cons_ne_nil _ _)]
      simp
    refine ⟨_, (relative rest).toList, rfl, ?_⟩
    rw [← hbelow, hcut]
    cases dirs with
    | nil => exact .inl rfl
    | cons p dirs =>
        refine .inr ⟨(relative (p :: dirs)).toList, ?_⟩
        rw [relative_append (List.cons_ne_nil word rest) (List.cons_ne_nil p dirs)]
        simp

end parts

theorem suffix_relative_iff {dirs : List String} {name : String} {word : List Char}
    (hword : '/' ∉ word) :
    word <:+ (relative (dirs ++ [name])).toList ↔ word <:+ name.toList := by
  cases dirs with
  | nil => simp
  | cons p dirs =>
      rw [relative_append (List.cons_ne_nil _ _) (List.cons_ne_nil p dirs), relative_singleton,
        String.toList_append, String.toList_append]
      constructor
      · intro h
        have hname : '/' :: name.toList <:+ (relative (p :: dirs)).toList ++ "/".toList ++ name.toList := by
          rw [List.append_assoc]
          exact List.suffix_append _ _
        rcases List.suffix_or_suffix_of_suffix h hname with hshort | hlong
        · rcases List.suffix_cons_iff.mp hshort with rfl | hshort
          · exact absurd List.mem_cons_self hword
          · exact hshort
        · exact absurd (hlong.subset List.mem_cons_self) hword
      · intro h
        exact h.trans (List.suffix_append _ _)

/-! ### The standard globs -/

theorem matches_anchored_iff {pattern : String} {g : Glob}
    (hparse : Glob.parse pattern = .star :: .one '/' :: g) (path : String) :
    (Glob.fits pattern path || Glob.fits pattern ("/" ++ path)) = true ↔
      ∃ w, Glob.covers g w = true ∧
        (w = path.toList ∨ ∃ before, path.toList = before ++ '/' :: w) := by
  rw [Bool.or_eq_true, Glob.fits, Glob.fits, hparse, String.toList_append]
  exact Glob.covers_anchored

/-- A glob `**/*word` matches the paths that end in the word. -/
theorem matches_ending_iff {pattern : String} {word : List Char}
    (hparse : Glob.parse pattern = .star :: .one '/' :: .star :: word.map .one) (path : String) :
    (Glob.fits pattern path || Glob.fits pattern ("/" ++ path)) = true ↔
      word <:+ path.toList := by
  have hcovers : ∀ w, Glob.covers (.star :: word.map .one) w = true ↔ word <:+ w := by
    intro w
    rw [Glob.covers_star_cons]
    constructor
    · rintro ⟨before, _, rfl, h⟩
      rw [Glob.covers_literal.mp h]
      exact List.suffix_append _ _
    · rintro ⟨before, rfl⟩
      exact ⟨before, word, rfl, Glob.covers_literal.mpr rfl⟩
  rw [matches_anchored_iff hparse]
  constructor
  · rintro ⟨w, hw, rfl | ⟨before, heq⟩⟩
    · exact (hcovers _).mp hw
    · rw [heq]
      exact ((hcovers w).mp hw).trans ((List.suffix_cons _ _).trans (List.suffix_append _ _))
  · intro h
    exact ⟨path.toList, (hcovers _).mpr h, .inl rfl⟩

/-- A glob `**/word/**` matches the paths through a directory of that name. -/
theorem matches_directory_iff {pattern word : String}
    (hparse : Glob.parse pattern =
      .star :: .one '/' :: ((word.toList ++ ['/']).map .one ++ [.star]))
    (hword : '/' ∉ word.toList) {parts : List String} (hne : parts ≠ [])
    (hparts : ∀ p ∈ parts, '/' ∉ p.toList) :
    (Glob.fits pattern (relative parts) || Glob.fits pattern ("/" ++ relative parts)) = true ↔
      word ∈ parts.dropLast := by
  have hcovers : ∀ w, Glob.covers ((word.toList ++ ['/']).map .one ++ [.star]) w = true ↔
      ∃ any, w = word.toList ++ '/' :: any := by
    intro w
    rw [Glob.covers_append]
    constructor
    · rintro ⟨_, any, rfl, h, -⟩
      rw [Glob.covers_literal.mp h]
      exact ⟨any, by simp⟩
    · rintro ⟨any, rfl⟩
      exact ⟨word.toList ++ ['/'], any, by simp, Glob.covers_literal.mpr rfl, Glob.covers_star any⟩
  rw [matches_anchored_iff hparse, ← segment_iff hparts hne hword]
  simp only [hcovers, exists_and_right]

section standard
variable {dirs : List String} {name : String}

theorem included_standard_iff :
    matchesAnyGlob (relative (dirs ++ [name])) standard.included = true ↔
      Text.endsWith name ".go" = true := by
  have hgo : Glob.parse "**/*.go" = .star :: .one '/' :: .star :: ".go".toList.map .one := by decide
  simp only [matchesAnyGlob, standard, List.any_cons, List.any_nil, Bool.or_false]
  rw [matches_ending_iff hgo, suffix_relative_iff (by decide), Text.endsWith,
    List.isSuffixOf_iff_suffix]

theorem excluded_standard_iff (hnames : ∀ p ∈ dirs ++ [name], '/' ∉ p.toList) :
    matchesAnyGlob (relative (dirs ++ [name])) standard.excluded = true ↔
      Text.endsWith name "_test.go" = true ∨ ∃ d ∈ dirs, d ∈ leftOut := by
  have htest : Glob.parse "**/*_test.go" =
      .star :: .one '/' :: .star :: "_test.go".toList.map .one := by decide
  have hparse : ∀ word ∈ leftOut, Glob.parse ("**/" ++ word ++ "/**") =
      .star :: .one '/' :: ((word.toList ++ ['/']).map .one ++ [.star]) := by decide
  have hdir : ∀ word ∈ leftOut, (Glob.fits ("**/" ++ word ++ "/**") (relative (dirs ++ [name])) ||
      Glob.fits ("**/" ++ word ++ "/**") ("/" ++ relative (dirs ++ [name]))) = true ↔ word ∈ dirs := by
    intro word hword
    have hslash : '/' ∉ word.toList := by
      revert word
      decide
    rw [matches_directory_iff (hparse word hword) hslash (by simp) hnames, List.dropLast_concat]
  have hend : (Glob.fits "**/*_test.go" (relative (dirs ++ [name])) ||
      Glob.fits "**/*_test.go" ("/" ++ relative (dirs ++ [name]))) = true ↔
        Text.endsWith name "_test.go" = true := by
    rw [matches_ending_iff htest, suffix_relative_iff (by decide), Text.endsWith,
      List.isSuffixOf_iff_suffix]
  have hglobs : ∀ p, p ∈ standard.excluded ↔
      p = "**/*_test.go" ∨ ∃ word ∈ leftOut, p = "**/" ++ word ++ "/**" := by
    intro p
    simp only [standard, leftOut, List.mem_cons, List.not_mem_nil, or_false, exists_eq_or_imp,
      exists_eq_left, String.reduceAppend]
    exact or_left_comm
  rw [matchesAnyGlob, List.any_eq_true]
  constructor
  · rintro ⟨p, hp, hfits⟩
    rcases (hglobs p).mp hp with rfl | ⟨word, hword, rfl⟩
    · exact .inl (hend.mp hfits)
    · exact .inr ⟨word, (hdir word hword).mp hfits, hword⟩
  · rintro (htest | ⟨word, hdirs, hword⟩)
    · exact ⟨_, (hglobs _).mpr (.inl rfl), hend.mpr htest⟩
    · exact ⟨_, (hglobs _).mpr (.inr ⟨word, hword, rfl⟩), (hdir word hword).mpr hdirs⟩

end standard

/-- **The standard globs mean what they suggest.** Below a directory, with the standard globs, a
file is collected exactly when its name ends in `.go` and not in `_test.go`, and none of the
directories on the way to it, from the first one on, is named `vendor`, `testdata`, `.git` or
`node_modules`. -/
theorem standard_selection_exact (target : Path) (entries : List (String × FileTree))
    (hproper : (FileTree.directory entries).isProper = true) (path : Path) :
    path ∈ standard.collect target (.directory entries) ↔
      ∃ dirs name leaf, path = { target with parts := target.parts ++ (dirs ++ [name]) } ∧
        (FileTree.directory entries).listed? (dirs ++ [name]) = some leaf ∧
        leaf.isDirectory = false ∧
        Text.endsWith name ".go" = true ∧ Text.endsWith name "_test.go" = false ∧
        ∀ d ∈ dirs, d ≠ "vendor" ∧ d ≠ "testdata" ∧ d ≠ ".git" ∧ d ≠ "node_modules" := by
  have hnames : ∀ {parts leaf}, (FileTree.directory entries).listed? parts = some leaf →
      ∀ p ∈ parts, '/' ∉ p.toList := fun hlisted p hp =>
    (Path.isName_iff.mp (FileTree.isName_of_listed? hproper hlisted p hp)).2.2.2
  have htakes : ∀ {dirs name leaf},
      (FileTree.directory entries).listed? (dirs ++ [name]) = some leaf →
      (standard.takes (dirs ++ [name]) = true ↔
        Text.endsWith name ".go" = true ∧ Text.endsWith name "_test.go" = false ∧
          ∀ d ∈ dirs, d ≠ "vendor" ∧ d ≠ "testdata" ∧ d ≠ ".git" ∧ d ≠ "node_modules") := by
    intro dirs name leaf hlisted
    rw [takes, Bool.and_eq_true, Bool.not_eq_true', included_standard_iff, ← Bool.not_eq_true,
      excluded_standard_iff (hnames hlisted), not_or, Bool.not_eq_true]
    simp [leftOut]
  rw [collect_directory, List.mem_map]
  constructor
  · rintro ⟨parts, hparts, rfl⟩
    obtain ⟨_, leaf, hne, rfl, hlisted, hleaf, h⟩ :=
      (mem_select_iff hasPlainEnd_standard hproper).mp hparts
    obtain ⟨dirs, name, rfl⟩ := (List.eq_nil_or_concat' parts).resolve_left hne
    exact ⟨dirs, name, leaf, rfl, hlisted, hleaf, (htakes hlisted).mp h⟩
  · rintro ⟨dirs, name, leaf, rfl, hlisted, hleaf, h⟩
    exact ⟨dirs ++ [name], (mem_select_iff hasPlainEnd_standard hproper).mpr
      ⟨dirs ++ [name], leaf, by simp, rfl, hlisted, hleaf, (htakes hlisted).mpr h⟩, rfl⟩

/-- A directory in which names come close to those that are left out. -/
def nearMisses : List (String × FileTree) :=
  [("vendor.go", .file []), ("myvendor", .directory [("a.go", .file [])]),
   ("lib", .directory [("vendor", .directory [("b.go", .file [])])])]

/-- Names have to be met exactly, at any depth. -/
theorem nearMisses_selection_exact :
    let target : Path := ⟨"/", ["shop"]⟩
    ⟨"/", ["shop", "vendor.go"]⟩ ∈ standard.collect target (.directory nearMisses) ∧
      ⟨"/", ["shop", "myvendor", "a.go"]⟩ ∈ standard.collect target (.directory nearMisses) ∧
      ⟨"/", ["shop", "lib", "vendor", "b.go"]⟩ ∉ standard.collect target (.directory nearMisses) := by
  intro target
  have hexact := standard_selection_exact target nearMisses (by decide)
  refine ⟨(hexact _).mpr ?_, (hexact _).mpr ?_, fun h => ?_⟩
  · exact ⟨[], "vendor.go", .file [], rfl, rfl, rfl, by decide, by decide, by simp⟩
  · exact ⟨["myvendor"], "a.go", .file [], rfl, rfl, rfl, by decide, by decide, by decide⟩
  · obtain ⟨dirs, name, leaf, heq, -, -, -, -, hdirs⟩ := (hexact _).mp h
    have hparts : ["lib", "vendor"] ++ ["b.go"] = dirs ++ [name] := by simpa [target] using heq
    obtain ⟨rfl, -⟩ := List.append_inj' hparts rfl
    exact (hdirs "vendor" (by simp)).1 rfl

end Selection

end RouteAudit
