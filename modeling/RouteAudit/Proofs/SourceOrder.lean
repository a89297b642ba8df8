import RouteAudit.Proofs.DiscoveryOrder
import RouteAudit.Proofs.SyntaxTree

/-! # Endpoints come in source order

A tree is `LaidOut` as text is when it is `Spanned` and a node that starts later stands on no
earlier row. The walk then never goes up (`lines_sorted`), although a call starts with its whole
chain of receivers and so shares its start with the calls inside that chain. A detector reads the
calls in the order of the walk and gives each endpoint the line of its call (`line_of_endpoint?`),
so its endpoints stand in the order of their lines (`lines_sorted_discover`).

What one detector finds is therefore in order before the endpoints of a file are sorted, and the
sort is stable, so it leaves alone what is in order (`filter_mergeSort_of_pairwise`). Frameworks are
distinct, so the endpoints of a framework are those of one detector (`filter_foundBy_of_mem`). -/

namespace RouteAudit

/-! ### Rows along the walk -/

namespace Go.Node

/-- Ranges are those of a text, and a node that starts later stands on no earlier row. -/
structure LaidOut (root : Node) : Prop extends root.Spanned where
  rows : ∀ a ∈ root.walk, ∀ b ∈ root.walk, a.span.start ≤ b.span.start → a.info.row ≤ b.info.row

/-- Whether a tree is laid out as a text can be seen by going through its nodes. -/
theorem laidOut_iff {root : Node} :
    root.LaidOut ↔ root.Spanned ∧ ∀ a ∈ root.preorder, ∀ b ∈ root.preorder,
      a.span.start ≤ b.span.start → a.info.row ≤ b.info.row := by
  rw [← walk_eq_preorder]
  exact ⟨fun h => ⟨h.toSpanned, h.rows⟩, fun h => ⟨h.1, h.2⟩⟩

instance (root : Node) : Decidable root.LaidOut := decidable_of_iff _ laidOut_iff.symm

theorem LaidOut.lines_sorted {root : Node} (h : root.LaidOut) :
    root.walk.Pairwise fun a b => a.line ≤ b.line := by
  refine List.Pairwise.imp_of_mem ?_ h.starts_sorted
  intro a b ha hb hstart
  exact Nat.succ_le_succ (h.rows a ha b hb hstart)

end Go.Node

/-! ### One detector -/

namespace Detector

open Go (Node)

variable (d : Detector) (path : String)

theorem line_of_endpoint? {t : GroupTable} {call : Node} {e : Endpoint}
    (h : (d.readCall path t call).endpoint? = some e) : e.line = call.line := by
  rw [endpoint?_readCall, Option.map_eq_some_iff] at h
  obtain ⟨r, -, rfl⟩ := h
  rfl

/-- A detector finds endpoints in the order of their lines. -/
theorem lines_sorted_discover {root : Node} (h : root.LaidOut) :
    (d.discover path root).Pairwise fun a b => a.line ≤ b.line := by
  rw [discover, readings, List.pairwise_filterMap, List.pairwise_map]
  refine (h.lines_sorted.sublist List.filter_sublist).imp ?_
  intro call call' hle e he e' he'
  rw [d.line_of_endpoint? path he, d.line_of_endpoint? path he']
  exact hle

theorem framework_of_mem_discover {root : Node} {e : Endpoint} (he : e ∈ d.discover path root) :
    e.framework = d.framework :=
  d.labels_finder path root _ rfl e he

theorem comesBefore_sorted_discover {root : Node} (h : root.LaidOut) :
    (d.discover path root).Pairwise fun a b => a.comesBefore b = true := by
  refine List.Pairwise.imp_of_mem ?_ (d.lines_sorted_discover path h)
  intro a b ha hb hle
  rw [Endpoint.comesBefore_iff, d.framework_of_mem_discover path ha,
    d.framework_of_mem_discover path hb]
  rcases Nat.lt_or_eq_of_le hle with hlt | heq
  · exact .inl hlt
  · exact .inr ⟨heq, String.le_refl _⟩

end Detector

/-! ### All detectors of a file -/

section detectors
variable {file : SourceFile}

/-- The endpoints of the detectors that accept a file, one detector after the other. -/
def foundBy (file : SourceFile) (detectors : List Detector) : List Endpoint :=
  (detectors.filter fun d => d.accepts file.imports).flatMap fun d => d.discover file.path file.root

/-- Detectors never give up, so discovery sorts what they found. -/
theorem discover_detectors (file : SourceFile) (detectors : List Detector) :
    ∃ found, discover (detectors.map Detector.finder) file = .ok found ∧
      found.endpoints = (foundBy file detectors).mergeSort Endpoint.comesBefore := by
  have hnever : ∀ f ∈ acceptedFor file (detectors.map Detector.finder),
      ∀ reason, ¬ f.GaveUp file reason := by
    intro f hf reason hgave
    obtain ⟨d, -, rfl⟩ := List.mem_map.mp (List.mem_filter.mp hf).1
    cases hgave
  refine ⟨_, discover_of_found hnever, ?_⟩
  dsimp only
  rw [acceptedFor, List.filter_map, List.flatMap_map]
  rfl

theorem filter_eq_singleton {α β : Type} [DecidableEq β] {key : α → β} {a : α} {l : List α}
    (hdistinct : (l.map key).Nodup) (ha : a ∈ l) : l.filter (fun x => key x = key a) = [a] := by
  induction l with
  | nil => cases ha
  | cons x rest ih =>
      rw [List.map_cons, List.nodup_cons] at hdistinct
      rcases List.mem_cons.mp ha with rfl | ha
      · have hnone : rest.filter (fun x => key x = key a) = [] := by
          rw [List.filter_eq_nil_iff]
          intro y hy hkey
          exact hdistinct.1 (List.mem_map.mpr ⟨y, hy, of_decide_eq_true hkey⟩)
        rw [List.filter_cons_of_pos (by simp), hnone]
      · have hne : key x ≠ key a := fun hkey => hdistinct.1 (hkey ▸ List.mem_map_of_mem ha)
        rw [List.filter_cons_of_neg (by simpa using hne), ih hdistinct.2 ha]

theorem filter_foundBy (detectors : List Detector) (framework : Framework) :
    (foundBy file detectors).filter (fun e => e.framework = framework) =
      foundBy file (detectors.filter fun d => d.framework = framework) := by
  have hone : ∀ d : Detector,
      (d.discover file.path file.root).filter (fun e => e.framework = framework) =
        if d.framework = framework then d.discover file.path file.root else [] := by
    intro d
    split
    · next hd =>
        rw [List.filter_eq_self]
        intro e he
        exact decide_eq_true ((d.framework_of_mem_discover file.path he).trans hd)
    · next hd =>
        rw [List.filter_eq_nil_iff]
        intro e he
        simpa [d.framework_of_mem_discover file.path he] using hd
  rw [foundBy, foundBy, List.filter_flatMap, List.filter_comm]
  induction detectors.filter (fun d => d.accepts file.imports) with
  | nil => rfl
  | cons d rest ih =>
      rw [List.flatMap_cons, hone, ih, List.filter_cons]
      simp only [decide_eq_true_eq]
      split
      · rw [List.flatMap_cons]
      · rw [List.nil_append]

theorem filter_foundBy_of_mem {detectors : List Detector}
    (hdistinct : (detectors.map Detector.framework).Nodup) {d : Detector} (hd : d ∈ detectors)
    (haccepts : d.accepts file.imports = true) :
    (foundBy file detectors).filter (fun e => e.framework = d.framework) =
      d.discover file.path file.root := by
  rw [filter_foundBy, filter_eq_singleton hdistinct hd]
  simp [foundBy, haccepts]

theorem filter_foundBy_eq_nil {detectors : List Detector} {framework : Framework}
    (hnone : ∀ d ∈ detectors, d.accepts file.imports = true → d.framework ≠ framework) :
    (foundBy file detectors).filter (fun e => e.framework = framework) = [] := by
  rw [List.filter_eq_nil_iff]
  intro e he hframework
  obtain ⟨d, hd, hed⟩ := List.mem_flatMap.mp he
  obtain ⟨hmem, haccepts⟩ := List.mem_filter.mp hd
  refine hnone d hmem haccepts ?_
  rw [← d.framework_of_mem_discover file.path hed]
  exact of_decide_eq_true hframework

end detectors

/-- **Endpoints come in source order.** In a tree that is laid out as text, every detector finds its
endpoints in the order of their lines. Whatever other detectors of other frameworks found in the
file, the sorted list of all endpoints holds those of one framework as its detector found them, the
same ones in the same order, and none of a framework without a detector that accepts the file. -/
theorem endpoints_in_source_order (file : SourceFile) (hroot : file.root.LaidOut)
    (detectors : List Detector) (hdistinct : (detectors.map Detector.framework).Nodup) :
    (∀ d : Detector, (d.discover file.path file.root).Pairwise fun a b => a.line ≤ b.line) ∧
    ∃ found, discover (detectors.map Detector.finder) file = .ok found ∧
      (∀ d ∈ detectors, d.accepts file.imports = true →
        found.endpoints.filter (fun e => e.framework = d.framework) =
          d.discover file.path file.root) ∧
      ∀ framework, (∀ d ∈ detectors, d.accepts file.imports = true → d.framework ≠ framework) →
        found.endpoints.filter (fun e => e.framework = framework) = [] := by
  refine ⟨fun d => d.lines_sorted_discover file.path hroot, ?_⟩
  obtain ⟨found, hfound, hsorted⟩ := discover_detectors file detectors
  refine ⟨found, hfound, fun d hd haccepts => ?_, fun framework hnone => ?_⟩
  · have hclass := filter_foundBy_of_mem hdistinct hd haccepts
    rw [hsorted, filter_mergeSort_of_pairwise Endpoint.comesBefore_trans Endpoint.comesBefore_total,
      hclass]
    rw [hclass]
    exact d.comesBefore_sorted_discover file.path hroot
  · have hclass := filter_foundBy_eq_nil hnone
    rw [hsorted, filter_mergeSort_of_pairwise Endpoint.comesBefore_trans Endpoint.comesBefore_total,
      hclass]
    rw [hclass]
    exact .nil

/-- The tree of `r.POST("/x", h)` on a row of a file whose rows have twenty bytes each. -/
def postOnRow (row : ℕ) : Go.Node :=
  let span (start stop : ℕ) : Go.Span := ⟨20 * row + start, 20 * row + stop⟩
  .mk { kind := .call, span := span 0 15, row }
    [.mk { kind := .selector, role := some .function, span := span 0 6, row }
      [.mk { kind := .identifier, role := some .operand, span := span 0 1, row, text := "r" } [],
       .mk { kind := .fieldIdentifier, role := some .field, span := span 2 6, row,
             text := "POST" } []],
     .mk { kind := .other "argument_list", role := some .arguments, span := span 6 15, row }
      [.mk { kind := .interpretedString, span := span 7 11, row, text := "\"/x\"" } [],
       .mk { kind := .identifier, span := span 13 14, row, text := "h" } []]]

/-- A file that imports two frameworks and registers a route on its first and on its third row. -/
def twoRowsFile : SourceFile where
  path := "main.go"
  root := .mk { kind := .other "block", span := ⟨0, 60⟩ } [postOnRow 0, postOnRow 2]
  imports := [("github.com/gin-gonic/gin", "gin"), ("github.com/labstack/echo/v4", "echo")]

/-- Both frameworks report both calls, and each finds its own in the sorted list again. -/
theorem two_rows_in_source_order :
    let gin : Detector := ⟨.gin, .standard⟩
    let echo : Detector := ⟨.echo, .standard⟩
    ∃ found, discover ([gin, echo].map Detector.finder) twoRowsFile = .ok found ∧
      found.endpoints.filter (fun e => e.framework = .gin) = gin.discover "main.go" twoRowsFile.root ∧
      found.endpoints.filter (fun e => e.framework = .echo) =
        echo.discover "main.go" twoRowsFile.root ∧
      (gin.discover "main.go" twoRowsFile.root).map (·.line) = [1, 3] := by
  intro gin echo
  obtain ⟨-, found, hfound, hclass, -⟩ := endpoints_in_source_order twoRowsFile (by decide +kernel)
    [gin, echo] (by decide)
  refine ⟨found, hfound, hclass gin (by simp) (by decide +kernel),
    hclass echo (by simp) (by decide +kernel), ?_⟩
  simp only [Detector.discover, Detector.readings, Detector.findGroups, Go.Node.walk_eq_preorder]
  decide +kernel

end RouteAudit
