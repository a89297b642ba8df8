import RouteAudit.Proofs.Extraction
import RouteAudit.Proofs.SortedReport

/-! # Layouts of reports

A list of findings is laid out in groups. However it is grouped, nothing is lost and nothing
comes twice: the groups are those of the keys in the order in which these first occur, and each
holds the findings of its key in the order of the list (`groupBy_eq_groupsOf`), so together they
are the list in another order. A Markdown report without a grouping goes through the severities
instead, and that is a stable sort (`flatMap_bySeverity`).

`MarkdownReport.blocks` reads from the lines of a report the blocks of lines that are about one
finding each. They are the blocks of the findings that are not suppressed, group by group
(`blocks_lines`). -/

namespace RouteAudit

/-! ### Groups -/

theorem firstSeen_concat (xs : List String) (x : String) :
    firstSeen (xs ++ [x]) = if x ∈ xs then firstSeen xs else firstSeen xs ++ [x] := by
  induction xs with
  | nil => rfl
  | cons y rest ih =>
      rw [List.cons_append, firstSeen, ih]
      by_cases hrest : x ∈ rest
      · rw [if_pos hrest, if_pos (List.mem_cons_of_mem y hrest), firstSeen]
      · rw [if_neg hrest, List.filter_append, firstSeen]
        by_cases hxy : x = y
        · subst hxy
          simp
        · simp [hxy, hrest]

theorem pairwise_idxOf_firstSeen (xs : List String) :
    (firstSeen xs).Pairwise fun a b => xs.idxOf a < xs.idxOf b := by
  induction xs with
  | nil => exact List.Pairwise.nil
  | cons x rest ih =>
      rw [firstSeen, List.pairwise_cons]
      constructor
      · intro b hb
        have hne : b ≠ x := by simpa using (List.mem_filter.mp hb).2
        rw [List.idxOf_cons_self, List.idxOf_cons_ne _ (Ne.symm hne)]
        exact Nat.succ_pos _
      · refine (ih.filter _).imp_of_mem ?_
        intro a b ha hb hlt
        have hax : a ≠ x := by simpa using (List.mem_filter.mp ha).2
        have hbx : b ≠ x := by simpa using (List.mem_filter.mp hb).2
        rw [List.idxOf_cons_ne _ (Ne.symm hax), List.idxOf_cons_ne _ (Ne.symm hbx)]
        exact Nat.succ_lt_succ hlt

section groups
variable {α κ : Type}

/-- The elements by their keys. -/
def groupsOf (key : α → String) (xs : List α) : List (String × List α) :=
  (firstSeen (xs.map key)).map fun k => (k, xs.filter fun a => key a == k)

theorem update_map (key : String) (f : Option κ → κ) (v : String → κ) :
    ∀ {ks : List String}, ks.Nodup → Assoc.update key f (ks.map fun k => (k, v k)) =
      if key ∈ ks then ks.map fun k => (k, if k = key then f (some (v k)) else v k)
      else ks.map (fun k => (k, v k)) ++ [(key, f none)]
  | [], _ => rfl
  | k :: ks, h => by
      obtain ⟨hk, hks⟩ := List.nodup_cons.mp h
      rw [List.map_cons, Assoc.update, update_map key f v hks]
      by_cases hkey : k = key
      · subst hkey
        have hrest : ∀ k' ∈ ks, (k', v k') = (k', if k' = k then f (some (v k')) else v k') := by
          intro k' hk'
          have hne : k' ≠ k := fun heq => hk (heq ▸ hk')
          rw [if_neg hne]
        simp only [if_true, List.mem_cons_self, List.map_cons, List.map_congr_left hrest]
      · have hmem : key ∈ k :: ks ↔ key ∈ ks := by simp [Ne.symm hkey]
        simp only [hkey, if_false, hmem]
        split_ifs <;> simp [hkey]

/-- Adding an element to the group of its key keeps the elements by their keys. -/
theorem addToGroup_groupsOf (key : α → String) (xs : List α) (a : α) :
    addToGroup key (groupsOf key xs) a = groupsOf key (xs ++ [a]) := by
  have hgroup (k : String) : (xs ++ [a]).filter (fun b => key b == k) =
      (xs.filter fun b => key b == k) ++ if k = key a then [a] else [] := by
    by_cases hk : k = key a
    · subst hk
      simp
    · simp [hk, Ne.symm hk]
  rw [addToGroup, groupsOf, groupsOf, update_map _ _ _ (nodup_firstSeen _), List.map_append,
    List.map_singleton, firstSeen_concat]
  simp only [mem_firstSeen, hgroup, Option.getD_some, Option.getD_none]
  split_ifs with hseen
  · refine List.map_congr_left fun k _ => ?_
    split_ifs <;> simp
  · -- a new key is none of the others, and no earlier element has it
    have hothers : ∀ k ∈ firstSeen (xs.map key), (if k = key a then [a] else []) = [] := by
      intro k hk
      have hne : k ≠ key a := fun heq => hseen (mem_firstSeen.mp (heq ▸ hk))
      rw [if_neg hne]
    have hnone : (xs.filter fun b => key b == key a) = [] := by
      rw [List.filter_eq_nil_iff]
      intro b hb hkey
      exact hseen (List.mem_map.mpr ⟨b, hb, by simpa using hkey⟩)
    rw [List.map_append, List.map_singleton, hnone, if_pos rfl]
    congr 1
    refine List.map_congr_left fun k hk => ?_
    rw [hothers k hk, List.append_nil]

theorem foldl_addToGroup (key : α → String) (xs : List α) : ∀ done : List α,
    xs.foldl (addToGroup key) (groupsOf key done) = groupsOf key (done ++ xs) := by
  induction xs with
  | nil => intro done; simp
  | cons a rest ih =>
      intro done
      rw [List.foldl_cons, addToGroup_groupsOf, ih, List.append_assoc, List.singleton_append]

theorem groupBy_eq_groupsOf (key : α → String) (xs : List α) :
    groupBy key xs = groupsOf key xs := foldl_addToGroup key xs []

theorem flatMap_filter_perm [DecidableEq κ] {key : α → κ} : ∀ {ks : List κ} {xs : List α},
    ks.Nodup → (∀ a ∈ xs, key a ∈ ks) →
      (ks.flatMap fun k => xs.filter fun a => key a == k).Perm xs
  | [], xs, _, hcover => by
      have hnil : xs = [] :=
        List.eq_nil_iff_forall_not_mem.mpr fun a ha => by simpa using hcover a ha
      rw [hnil]
      exact .refl _
  | k :: ks, xs, hnodup, hcover => by
      obtain ⟨hk, hks⟩ := List.nodup_cons.mp hnodup
      -- the other keys do not see the elements of the first
      have hothers : (ks.flatMap fun k' => xs.filter fun a => key a == k') =
          ks.flatMap fun k' => (xs.filter fun a => !(key a == k)).filter fun a => key a == k' := by
        refine List.flatMap_congr fun k' hk' => ?_
        have hne : k' ≠ k := fun heq => hk (heq ▸ hk')
        rw [List.filter_filter]
        refine List.filter_congr fun a _ => ?_
        by_cases hak : key a = k' <;> simp [hak, hne]
      have hrest : ∀ a ∈ xs.filter fun a => !(key a == k), key a ∈ ks := by
        intro a ha
        obtain ⟨hmem, hne⟩ := List.mem_filter.mp ha
        exact (List.mem_cons.mp (hcover a hmem)).resolve_left (by simpa using hne)
      rw [List.flatMap_cons, hothers]
      exact ((flatMap_filter_perm hks hrest).append_left _).trans (List.filter_append_perm _ _)

/-- The groups make up the list. Each has a key of its own and holds what the list has of it, in the
order of the list; the keys come in the order in which they first occur. -/
structure IsGrouping (key : α → String) (xs : List α) (groups : List (String × List α)) : Prop where
  complete : (groups.flatMap Prod.snd).Perm xs
  content : ∀ g ∈ groups, g.2 ≠ [] ∧ g.2 = xs.filter fun a => key a == g.1
  distinct : (groups.map Prod.fst).Nodup
  ordered : (groups.map Prod.fst).Pairwise fun k k' =>
    (xs.map key).idxOf k < (xs.map key).idxOf k'

theorem isGrouping_groupBy (key : α → String) (xs : List α) :
    IsGrouping key xs (groupBy key xs) := by
  have hkeys : (groupsOf key xs).map Prod.fst = firstSeen (xs.map key) := by
    rw [groupsOf, List.map_map]
    exact List.map_id'' (fun _ => rfl) _
  rw [groupBy_eq_groupsOf]
  constructor
  · rw [groupsOf, List.flatMap_map]
    refine flatMap_filter_perm (nodup_firstSeen _) fun a ha => ?_
    exact mem_firstSeen.mpr (List.mem_map_of_mem ha)
  · intro g hg
    obtain ⟨k, hk, rfl⟩ := List.mem_map.mp hg
    obtain ⟨a, ha, rfl⟩ := List.mem_map.mp (mem_firstSeen.mp hk)
    refine ⟨List.ne_nil_of_mem (List.mem_filter.mpr ⟨ha, ?_⟩), rfl⟩
    exact beq_self_eq_true _
  · rw [hkeys]
    exact nodup_firstSeen _
  · rw [hkeys]
    exact pairwise_idxOf_firstSeen _

end groups

/-! ### Findings by severity -/

namespace Severity

theorem rank_injective {s t : Severity} (h : s.rank = t.rank) : s = t := by
  revert h
  cases s <;> cases t <;> decide

theorem pairwise_descending : descending.Pairwise fun s t => t.rank < s.rank := by decide

theorem filter_flatMap_descending (fs : List Finding) (v : Severity) :
    ((descending.flatMap fun s => fs.filter fun f => f.severity == s).filter fun f =>
      f.severity == v) = fs.filter fun f => f.severity == v := by
  have hone (s : Severity) : ((fs.filter fun f => f.severity == s).filter fun f =>
      f.severity == v) = if s = v then fs.filter fun f => f.severity == v else [] := by
    split_ifs with hs
    · subst hs
      simp
    · rw [List.filter_filter, List.filter_eq_nil_iff]
      intro f _ hf
      simp only [Bool.and_eq_true, beq_iff_eq] at hf
      exact hs (hf.2.symm.trans hf.1)
  rw [List.filter_flatMap]
  simp only [hone]
  cases v <;> simp [descending]

end Severity

theorem findingLe_severity_iff {f g : Finding} :
    directed true (fun a b => SortKey.findingLe a b .severity) f g = true ↔
      g.severity.rank ≤ f.severity.rank := by
  simp [directed, SortKey.findingLe]

/-- Going through the severities, the gravest first, is a stable sort. -/
theorem flatMap_descending (fs : List Finding) :
    (Severity.descending.flatMap fun s => fs.filter fun f => f.severity == s) =
      sortFindings .severity true fs := by
  refine eq_of_filter_tied_eq (fun f => findingLe_severity_iff.mpr (Nat.le_refl _)) ?_
    (sorted_sortWith (SortKey.sorts_findingLe .severity) true fs) fun f => ?_
  · rw [List.pairwise_flatMap]
    refine ⟨fun s _ => ?_, Severity.pairwise_descending.imp ?_⟩
    · refine List.pairwise_of_forall_mem_list fun f hf g hg => ?_
      have hf' : f.severity = s := by simpa using (List.mem_filter.mp hf).2
      have hg' : g.severity = s := by simpa using (List.mem_filter.mp hg).2
      rw [findingLe_severity_iff, hf', hg']
    · intro s s' hlt f hf g hg
      have hf' : f.severity = s := by simpa using (List.mem_filter.mp hf).2
      have hg' : g.severity = s' := by simpa using (List.mem_filter.mp hg).2
      rw [findingLe_severity_iff, hf', hg']
      exact Nat.le_of_lt hlt
  · -- ties have one severity, and within it both sides keep the order of the list
    have htied : tied (directed true fun a b => SortKey.findingLe a b .severity) f =
        fun g => g.severity == f.severity := by
      funext g
      rw [Bool.eq_iff_iff, tied_iff, findingLe_severity_iff, findingLe_severity_iff, beq_iff_eq]
      constructor
      · rintro ⟨hgf, hfg⟩
        exact Severity.rank_injective (Nat.le_antisymm hgf hfg)
      · intro heq
        rw [heq]
        exact ⟨Nat.le_refl _, Nat.le_refl _⟩
    rw [htied, Severity.filter_flatMap_descending]
    exact (filter_sortFindings_severity true fs f.severity).symm

namespace MarkdownReport

theorem flatMap_bySeverity (fs : List Finding) :
    (bySeverity fs).flatMap Prod.snd = sortFindings .severity true fs := by
  have hempty : ∀ gs : List (Severity × List Finding),
      (gs.filter fun g => !g.2.isEmpty).flatMap Prod.snd = gs.flatMap Prod.snd := by
    intro gs
    induction gs with
    | nil => rfl
    | cons g rest ih =>
        obtain ⟨s, fs⟩ := g
        cases fs with
        | nil => simpa using ih
        | cons f fs => simpa using ih
  rw [bySeverity, hempty, List.flatMap_map]
  exact flatMap_descending fs

/-! ### Findings in the lines of a report -/

/-- The sections of a report, each with its heading. -/
def sections (grouping : Option Grouping) (active : List Finding) : List (String × List Finding) :=
  match grouping with
  | some g => groupFindings (some g) active
  | none => (bySeverity active).map fun g => (g.1.sign ++ " " ++ g.1.title ++ " Severity", g.2)

theorem findingSections_eq (grouping : Option Grouping) (active : List Finding) :
    findingSections grouping active =
      (sections grouping active).flatMap fun c => chapter c.1 c.2 := by
  cases grouping with
  | some g => rfl
  | none => rw [findingSections, sections, List.flatMap_map]

/-- The line is the heading of a finding. -/
def isFindingHeading (line : String) : Bool := Text.startsWith line "#### "

/-- The blocks of lines that are about one finding each: they go from the heading of a finding to
the next heading of any kind. -/
def blocks : List String → List (List String)
  | [] => []
  | line :: rest =>
    if isFindingHeading line then
      (line :: rest.takeWhile fun l => !Text.startsWith l "#") :: blocks rest
    else blocks rest

/-- The lines start with a heading, if there are any. -/
def startsWithHeading (ls : List String) : Bool := ls.head?.all fun l => Text.startsWith l "#"

/-- None of the lines is the heading of a finding. -/
def arePlain (ls : List String) : Bool := ls.all fun l => !isFindingHeading l

theorem arePlain_append (ls ms : List String) :
    arePlain (ls ++ ms) = (arePlain ls && arePlain ms) :=
  List.all_append

theorem arePlain_map {α : Type} {f : α → String} (h : ∀ a, isFindingHeading (f a) = false)
    (xs : List α) : arePlain (xs.map f) = true := by
  simp [arePlain, h]

theorem blocks_append_of_plain {ls : List String} (h : arePlain ls = true) (rest : List String) :
    blocks (ls ++ rest) = blocks rest := by
  induction ls with
  | nil => rfl
  | cons l ls ih =>
      rw [arePlain, List.all_cons, Bool.and_eq_true, Bool.not_eq_true'] at h
      rw [List.cons_append, blocks, h.1, if_neg Bool.false_ne_true]
      exact ih h.2

theorem isFindingHeading_of_plain {l : String} (h : Text.startsWith l "#" = false) :
    isFindingHeading l = false := by
  unfold isFindingHeading
  unfold Text.startsWith at h ⊢
  cases hl : l.toList with
  | nil => rfl
  | cons c rest =>
      rw [hl] at h
      have hc : ('#' == c) = false := by simpa [List.isPrefixOf] using h
      simp [List.isPrefixOf, hc]

/-- The lines of a finding after its heading. -/
def detailLines (f : Finding) : List String := (findingLines f).tail

theorem findingLines_eq (f : Finding) :
    findingLines f = ("#### " ++ f.ruleId ++ ": " ++ f.ruleName) :: detailLines f := rfl

theorem startsWith_entry (label s : String) : Text.startsWith (entry label s) "#" = false := by
  simp [entry, Text.startsWith, List.isPrefixOf]

theorem startsWith_row (cells : List String) : Text.startsWith (row cells) "#" = false := by
  simp [row, Text.startsWith, List.isPrefixOf]

theorem startsWith_detail {f : Finding} {l : String} (h : l ∈ detailLines f) :
    Text.startsWith l "#" = false := by
  have hcases : l = "" ∨ ∃ label s, l = entry label s := by
    simp only [detailLines, findingLines, List.cons_append, List.tail_cons, List.nil_append,
      List.mem_cons, List.mem_append] at h
    rcases h with rfl | rfl | rfl | rfl | rfl | h | rfl | h
    · exact .inl rfl
    · exact .inr ⟨_, _, rfl⟩
    · exact .inr ⟨_, _, rfl⟩
    · exact .inr ⟨_, _, rfl⟩
    · exact .inr ⟨_, _, rfl⟩
    · split_ifs at h
      · cases h
      · exact .inr ⟨_, _, List.mem_singleton.mp h⟩
    · exact .inl rfl
    · cases h
  obtain rfl | ⟨label, s, rfl⟩ := hcases
  · decide
  · exact startsWith_entry label s

theorem isFindingHeading_first (f : Finding) :
    isFindingHeading ("#### " ++ f.ruleId ++ ": " ++ f.ruleName) = true := by
  simp [isFindingHeading, Text.startsWith, List.isPrefixOf]

/-- The lines of a finding are read as its block if a heading comes next. -/
theorem blocks_findingLines (f : Finding) {rest : List String}
    (h : startsWithHeading rest = true) :
    blocks (findingLines f ++ rest) = findingLines f :: blocks rest := by
  have hstop : (rest.takeWhile fun l => !Text.startsWith l "#") = [] := by
    cases rest with
    | nil => rfl
    | cons l more => exact List.takeWhile_cons_of_neg (by simpa [startsWithHeading] using h)
  have hdetails : ((detailLines f ++ rest).takeWhile fun l => !Text.startsWith l "#") =
      detailLines f := by
    rw [List.takeWhile_append_of_pos fun l hl => by rw [startsWith_detail hl]; rfl, hstop,
      List.append_nil]
  rw [findingLines_eq, List.cons_append, blocks, if_pos (isFindingHeading_first f), hdetails,
    blocks_append_of_plain (List.all_eq_true.mpr fun l hl => by
      rw [isFindingHeading_of_plain (startsWith_detail hl)]
      rfl)]

theorem startsWithHeading_flatMap (fs : List Finding) {rest : List String}
    (h : startsWithHeading rest = true) :
    startsWithHeading (fs.flatMap findingLines ++ rest) = true := by
  cases fs with
  | nil => exact h
  | cons f fs =>
      rw [List.flatMap_cons, findingLines_eq]
      simp [startsWithHeading, Text.startsWith, List.isPrefixOf]

theorem blocks_flatMap (fs : List Finding) {rest : List String}
    (h : startsWithHeading rest = true) :
    blocks (fs.flatMap findingLines ++ rest) = fs.map findingLines ++ blocks rest := by
  induction fs with
  | nil => rfl
  | cons f fs ih =>
      rw [List.flatMap_cons, List.append_assoc,
        blocks_findingLines f (startsWithHeading_flatMap fs h), ih, List.map_cons,
        List.cons_append]

theorem startsWithHeading_chapters (cs : List (String × List Finding)) {rest : List String}
    (h : startsWithHeading rest = true) :
    startsWithHeading ((cs.flatMap fun c => chapter c.1 c.2) ++ rest) = true := by
  cases cs with
  | nil => exact h
  | cons c cs =>
      rw [List.flatMap_cons, chapter]
      simp [startsWithHeading, Text.startsWith, List.isPrefixOf]

theorem blocks_chapters (cs : List (String × List Finding)) {rest : List String}
    (h : startsWithHeading rest = true) :
    blocks ((cs.flatMap fun c => chapter c.1 c.2) ++ rest) =
      (cs.flatMap Prod.snd).map findingLines ++ blocks rest := by
  induction cs with
  | nil => rfl
  | cons c cs ih =>
      have hhead : arePlain ["### " ++ c.1, ""] = true := by
        have hheading : isFindingHeading ("### " ++ c.1) = false :=
          startsWith_append_of_clash (by decide) c.1
        rw [arePlain, List.all_cons, hheading]
        rfl
      rw [List.flatMap_cons, chapter, List.append_assoc, List.append_assoc,
        blocks_append_of_plain hhead, blocks_flatMap c.2 (startsWithHeading_chapters cs h), ih,
        List.flatMap_cons, List.map_append, List.append_assoc]

/-! ### The other parts of a report -/

theorem plain_entry (label s : String) : isFindingHeading (entry label s) = false :=
  isFindingHeading_of_plain (startsWith_entry label s)

theorem plain_row (cells : List String) : isFindingHeading (row cells) = false :=
  isFindingHeading_of_plain (startsWith_row cells)

theorem arePlain_summaryLines (r : ScanResult) (endpoints : List Endpoint) (active : List Finding) :
    arePlain (summaryLines r endpoints active) = true := by
  have hrows : arePlain (countRows active) = true := arePlain_map (fun s => plain_row _) _
  rw [summaryLines, arePlain_append, arePlain_append, hrows]
  simp only [arePlain, List.all_cons, plain_entry]
  decide

theorem arePlain_endpointLines (endpoints : List Endpoint) :
    arePlain (endpointLines endpoints) = true := by
  have hrows : arePlain (endpoints.map endpointRow) = true := arePlain_map (fun e => plain_row _) _
  rw [endpointLines, arePlain_append, arePlain_append, hrows]
  decide

theorem arePlain_failureLines (failures : List (String × String)) :
    arePlain (failureLines failures) = true := by
  have hitem (e : String × String) :
      isFindingHeading ("- " ++ code e.1 ++ ": " ++ e.2) = false := by
    rw [String.append_assoc, String.append_assoc]
    exact startsWith_append_of_clash (by decide) _
  rw [failureLines, arePlain_append, arePlain_append, arePlain_map hitem]
  decide

/-- What follows the findings in a report. -/
def closingLines (r : ScanResult) (endpoints : List Endpoint) : List String :=
  (if endpoints.isEmpty then [] else endpointLines endpoints) ++
    if r.parseErrors.isEmpty then [] else failureLines r.parseErrors

theorem startsWithHeading_closingLines (r : ScanResult) (endpoints : List Endpoint) :
    startsWithHeading (closingLines r endpoints) = true := by
  unfold closingLines
  split_ifs <;> rfl

theorem blocks_closingLines (r : ScanResult) (endpoints : List Endpoint) :
    blocks (closingLines r endpoints) = [] := by
  have hplain : arePlain (closingLines r endpoints) = true := by
    rw [closingLines, arePlain_append, Bool.and_eq_true]
    constructor
    · split_ifs
      · rfl
      · exact arePlain_endpointLines endpoints
    · split_ifs
      · rfl
      · exact arePlain_failureLines r.parseErrors
  have hnone := blocks_append_of_plain hplain []
  rwa [List.append_nil] at hnone

/-- The findings that a report lists are those of its sections, one after the other. -/
theorem blocks_lines (r : ScanResult) (endpoints : List Endpoint) (findings : List Finding)
    (grouping : Option Grouping) :
    blocks (lines r endpoints findings grouping) =
      ((sections grouping (findings.filter fun f => !f.suppressed)).flatMap Prod.snd).map
        findingLines := by
  rw [lines]
  generalize (findings.filter fun f => !f.suppressed) = active
  have hclosing := startsWithHeading_closingLines r endpoints
  rw [List.append_assoc, List.append_assoc, blocks_append_of_plain (arePlain_summaryLines ..)]
  change blocks (_ ++ closingLines r endpoints) = _
  split_ifs with hactive
  · have hnone : active = [] := by simpa using hactive
    rw [hnone, List.nil_append, blocks_closingLines]
    cases grouping <;> rfl
  · rw [List.append_assoc, blocks_append_of_plain (by decide), findingSections_eq,
      blocks_chapters _ hclosing, blocks_closingLines, List.append_nil]

end MarkdownReport

end RouteAudit
