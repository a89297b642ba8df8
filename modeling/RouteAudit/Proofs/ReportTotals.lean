import RouteAudit.Report.Filter
import RouteAudit.Report.Json
import RouteAudit.Report.Markdown

/-! # Totals of reports

A JSON report and a Markdown report each open with totals: the endpoints, the findings that are not
suppressed, and how many of these there are of each severity. `JsonReport.totals` reads them from
the structured report and `MarkdownReport.totals` from the printed lines. The first counts the whole
result, the second what the report shows (the two `totals_eq_count`), so they agree exactly when
nothing that counts is hidden. -/

namespace RouteAudit

/-- The totals of a report, as far as they are found in it. -/
structure ReportTotals where
  endpoints : Option Nat
  findings : Option Nat
  /-- The findings of each severity, the mildest first. -/
  severities : List (Option Nat)
deriving DecidableEq, Repr

namespace ReportTotals

/-- The totals of some endpoints and findings. -/
def count (endpoints : List Endpoint) (findings : List Finding) : ReportTotals where
  endpoints := some endpoints.length
  findings := some findings.length
  severities := Severity.all.map fun s => some (ScanResult.countSeverity findings s)

theorem count_eq_of_perm {es es' : List Endpoint} {fs fs' : List Finding} (he : es.Perm es')
    (hf : fs.Perm fs') : count es fs = count es' fs' := by
  unfold count ScanResult.countSeverity
  simp only [he.length_eq, hf.length_eq, hf.countP_eq]

end ReportTotals

/-! ### Totals in JSON -/

namespace JsonReport

/-- The number under a key of a mapping. -/
def countAt? (key : String) (v : Value) : Option Nat :=
  ((v.get? key).bind Value.asInteger?).map Int.toNat

def totals (r : ScanResult) (endpoints : List Endpoint) (findings : List Finding)
    (grouping : Option Grouping) : ReportTotals :=
  let summary := (value r endpoints findings grouping).get? "summary"
  { endpoints := summary.bind (countAt? "total_endpoints")
    findings := summary.bind (countAt? "total_findings")
    severities := Severity.all.map fun s =>
      (summary.bind (Value.get? "severity_counts")).bind (countAt? s.name) }

theorem totals_eq_count (r : ScanResult) (endpoints : List Endpoint) (findings : List Finding)
    (grouping : Option Grouping) :
    totals r endpoints findings grouping = .count r.endpoints r.activeFindings := rfl

end JsonReport

/-! ### Numbers in lines -/

/-- The number after a text that a line starts with. -/
def countAfter? (start line : String) : Option Nat :=
  if Text.startsWith line start then
    some (Nat.ofDigitChars 10 ((line.toList.drop start.toList.length).takeWhile Char.isDigit) 0)
  else none

/-- Neither text starts with the other. -/
def clash (a b : String) : Bool := !Text.startsWith a b && !Text.startsWith b a

section lines
variable {start line head : String}

theorem countAfter?_eq_none (h : Text.startsWith line start = false) :
    countAfter? start line = none := by
  rw [countAfter?, h, if_neg Bool.false_ne_true]

theorem startsWith_append_of_clash (h : clash head start = true) (tail : String) :
    Text.startsWith (head ++ tail) start = false := by
  rw [clash, Bool.and_eq_true, Bool.not_eq_true', Bool.not_eq_true', Text.startsWith,
    Text.startsWith] at h
  obtain ⟨hhead, hstart⟩ := h
  refine Bool.eq_false_iff.mpr fun hlong => ?_
  rw [Text.startsWith, String.toList_append, List.isPrefixOf_iff_prefix] at hlong
  -- both start the line, so the shorter starts the longer
  rcases List.prefix_or_prefix_of_prefix hlong (List.prefix_append _ _) with hp | hp
  · exact Bool.eq_false_iff.mp hhead (List.isPrefixOf_iff_prefix.mpr hp)
  · exact Bool.eq_false_iff.mp hstart (List.isPrefixOf_iff_prefix.mpr hp)

theorem countAfter?_of_clash (h : clash head start = true) (tail : String) :
    countAfter? start (head ++ tail) = none :=
  countAfter?_eq_none (startsWith_append_of_clash h tail)

/-- A number is read back if no further digit follows. -/
theorem countAfter?_eq_some {n : Nat} (rest : List Char)
    (hline : line.toList = start.toList ++ (decimalDigits n ++ rest))
    (hrest : rest.head?.any Char.isDigit = false) : countAfter? start line = some n := by
  have hstarts : Text.startsWith line start = true := by
    rw [Text.startsWith, hline, List.isPrefixOf_iff_prefix]
    exact List.prefix_append _ _
  have hdigits : ∀ c ∈ decimalDigits n, c.isDigit = true := fun c hc =>
    Nat.isDigit_of_mem_toDigits (by decide) (by decide) hc
  have hstop : rest.takeWhile Char.isDigit = [] := by
    cases rest with
    | nil => rfl
    | cons c more => exact List.takeWhile_cons_of_neg (by simpa using hrest)
  rw [countAfter?, if_pos hstarts, hline, List.drop_left, List.takeWhile_append_of_pos hdigits,
    hstop, List.append_nil, decimalDigits, Nat.ofDigitChars_toDigits (by decide) (by decide)]

end lines

/-! ### Totals in Markdown -/

namespace MarkdownReport

/-- What comes before the number in the row of a severity. -/
def rowStart (s : Severity) : String := "| " ++ s.title ++ " | "

def totals (r : ScanResult) (endpoints : List Endpoint) (findings : List Finding)
    (grouping : Option Grouping) : ReportTotals :=
  let read start := (lines r endpoints findings grouping).findSome? (countAfter? start)
  { endpoints := read (entry "Endpoints Found" "")
    findings := read (entry "Security Findings" "")
    severities := Severity.all.map fun s => read (rowStart s) }

theorem countAfter?_entry (label : String) (n : Nat) :
    countAfter? (entry label "") (entry label (natText n)) = some n :=
  countAfter?_eq_some [] (by simp [entry, natText]) rfl

theorem countAfter?_row (s : Severity) (n : Nat) :
    countAfter? (rowStart s) (row [s.title, natText n]) = some n :=
  countAfter?_eq_some [' ', '|']
    (by simp [row, rowStart, natText, Text.join, List.intercalate]) rfl

theorem countAfter?_entry_of_clash {start label : String}
    (h : clash ("- **" ++ label ++ ":** ") start = true) (s : String) :
    countAfter? start (entry label s) = none := countAfter?_of_clash h s

theorem countAfter?_row_of_ne {s t : Severity} (h : t ≠ s) (n : Nat) :
    countAfter? (rowStart s) (row [t.title, natText n]) = none := by
  have hrow : row [t.title, natText n] = rowStart t ++ (natText n ++ " |") := by
    apply String.toList_inj.mp
    simp [row, rowStart, Text.join, List.intercalate]
  rw [hrow]
  refine countAfter?_of_clash ?_ _
  revert h
  cases s <;> cases t <;> decide

section summary
variable (r : ScanResult) (endpoints : List Endpoint) (active : List Finding)

theorem read_endpoints :
    (summaryLines r endpoints active).findSome? (countAfter? (entry "Endpoints Found" "")) =
      some endpoints.length := by
  simp (disch := decide) only [summaryLines, List.cons_append, List.findSome?_cons,
    countAfter?_eq_none, countAfter?_entry_of_clash, countAfter?_entry]

theorem read_findings :
    (summaryLines r endpoints active).findSome? (countAfter? (entry "Security Findings" "")) =
      some active.length := by
  simp (disch := decide) only [summaryLines, List.cons_append, List.findSome?_cons,
    countAfter?_eq_none, countAfter?_entry_of_clash, countAfter?_entry]

theorem read_severity (s : Severity) :
    (summaryLines r endpoints active).findSome? (countAfter? (rowStart s)) =
      some (ScanResult.countSeverity active s) := by
  -- the rows of graver severities come first
  cases s <;> simp (disch := decide) only [summaryLines, countRows, Severity.descending,
    List.map_cons, List.cons_append, List.nil_append, List.findSome?_cons, countAfter?_eq_none,
    countAfter?_entry_of_clash, countAfter?_row_of_ne, countAfter?_row]

end summary

theorem totals_eq_count (r : ScanResult) (endpoints : List Endpoint) (findings : List Finding)
    (grouping : Option Grouping) :
    totals r endpoints findings grouping =
      .count endpoints (findings.filter fun f => !f.suppressed) := by
  simp only [totals, lines, List.append_assoc, List.findSome?_append, read_endpoints, read_findings,
    read_severity, Option.some_or, ReportTotals.count]

end MarkdownReport

/-! ### What a report shows -/

namespace ReportFilter

/-- The endpoints in a report on a result. -/
def shownEndpoints (f : ReportFilter) (key : SortKey) (descending : Bool) (r : ScanResult) :
    List Endpoint :=
  sortEndpoints key descending (f.endpoints r.endpoints)

/-- The findings in a report on a result. -/
def shownFindings (f : ReportFilter) (threshold : Severity) (key : SortKey) (descending : Bool)
    (r : ScanResult) : List Finding :=
  sortFindings key descending (f.findings (f.endpoints r.endpoints) threshold r.findings)

/-- A finding that is not suppressed is shown. -/
def showsActive (f : ReportFilter) (threshold : Severity) (r : ScanResult) (d : Finding) : Bool :=
  (f.endpoints r.endpoints).contains d.endpoint && d.severity.atLeast threshold &&
    f.keepsRule d.ruleId

variable (f : ReportFilter) (threshold : Severity) (key : SortKey) (descending : Bool)
  (r : ScanResult)

theorem shownEndpoints_perm :
    (f.shownEndpoints key descending r).Perm (r.endpoints.filter f.keepsEndpoint) := by
  unfold shownEndpoints sortEndpoints endpoints
  cases key with
  | severity => exact List.Perm.refl _
  | route => exact List.mergeSort_perm _ _
  | method => exact List.mergeSort_perm _ _
  | exposure => exact List.mergeSort_perm _ _

theorem active_shownFindings_perm :
    ((f.shownFindings threshold key descending r).filter fun d => !d.suppressed).Perm
      (r.activeFindings.filter (f.showsActive threshold r)) := by
  refine ((List.mergeSort_perm _ _).filter _).trans (List.Perm.of_eq ?_)
  unfold findings ScanResult.activeFindings showsActive
  rw [List.filter_filter, List.filter_filter]
  apply List.filter_congr
  intro d _
  cases d.suppressed <;> simp

theorem showsActive_iff (hall : ∀ e ∈ r.endpoints, f.keepsEndpoint e = true) (d : Finding) :
    f.showsActive threshold r d = true ↔ d.endpoint ∈ r.endpoints ∧
      threshold.rank ≤ d.severity.rank ∧ f.keepsRule d.ruleId = true := by
  have hkept : f.endpoints r.endpoints = r.endpoints := List.filter_eq_self.mpr hall
  rw [showsActive, hkept]
  simp [and_assoc]

end ReportFilter

/-- However a report is sorted and grouped, the JSON and the Markdown form of it have the same
totals exactly when every endpoint and every finding that is not suppressed is in it. -/
theorem totals_agree_iff_nothing_hidden (r : ScanResult) (f : ReportFilter) (threshold : Severity)
    (key : SortKey) (descending : Bool) (grouping : Option Grouping) :
    JsonReport.totals r (f.shownEndpoints key descending r)
        (f.shownFindings threshold key descending r) grouping =
      MarkdownReport.totals r (f.shownEndpoints key descending r)
        (f.shownFindings threshold key descending r) grouping ↔
    (∀ e ∈ r.endpoints, f.keepsEndpoint e = true) ∧
      ∀ d ∈ r.findings, d.suppressed = false →
        d.endpoint ∈ r.endpoints ∧ threshold.rank ≤ d.severity.rank ∧
          f.keepsRule d.ruleId = true := by
  rw [JsonReport.totals_eq_count, MarkdownReport.totals_eq_count,
    ReportTotals.count_eq_of_perm (f.shownEndpoints_perm key descending r)
      (f.active_shownFindings_perm threshold key descending r)]
  have hactive : (∀ d ∈ r.findings, d.suppressed = false → d.endpoint ∈ r.endpoints ∧
        threshold.rank ≤ d.severity.rank ∧ f.keepsRule d.ruleId = true) ↔
      ∀ d ∈ r.activeFindings, d.endpoint ∈ r.endpoints ∧
        threshold.rank ≤ d.severity.rank ∧ f.keepsRule d.ruleId = true := by
    simp only [ScanResult.activeFindings, List.mem_filter, Bool.not_eq_true', and_imp]
  rw [hactive]
  constructor
  · intro h
    have hendpoints := Option.some.inj (congrArg ReportTotals.endpoints h)
    have hfindings := Option.some.inj (congrArg ReportTotals.findings h)
    have hall := List.length_filter_eq_length_iff.mp hendpoints.symm
    refine ⟨hall, fun d hd => (f.showsActive_iff threshold r hall d).mp ?_⟩
    exact List.length_filter_eq_length_iff.mp hfindings.symm d hd
  · rintro ⟨hall, hshown⟩
    rw [List.filter_eq_self.mpr hall, List.filter_eq_self.mpr fun d hd =>
      (f.showsActive_iff threshold r hall d).mpr (hshown d hd)]

/-- A result with two endpoints and an objection to the second. -/
def itemsResult : ScanResult :=
  let read : Endpoint := { route := "/items", methods := [.get], filePath := "a.go", line := 7 }
  let write : Endpoint := { route := "/items", methods := [.post], filePath := "a.go", line := 8 }
  { scanPath := "."
    endpoints := [read, write]
    findings :=
      [{ ruleId := "AP001", ruleName := "", severity := .high, message := "", endpoint := write }] }

/-- Without a filter the totals are the same. -/
theorem itemsResult_totals_agree :
    JsonReport.totals itemsResult (({} : ReportFilter).shownEndpoints .route true itemsResult)
        (({} : ReportFilter).shownFindings .info .route true itemsResult) none =
      MarkdownReport.totals itemsResult
        (({} : ReportFilter).shownEndpoints .route true itemsResult)
        (({} : ReportFilter).shownFindings .info .route true itemsResult) none :=
  (totals_agree_iff_nothing_hidden itemsResult {} .info .route true none).mpr (by decide)

/-- Limited to one method, the report counts both endpoints in one form and one of them in the
other. -/
theorem itemsResult_totals_differ :
    let f : ReportFilter := { methods := [.get] }
    JsonReport.totals itemsResult (f.shownEndpoints .severity true itemsResult)
        (f.shownFindings .info .severity true itemsResult) none =
      ⟨some 2, some 1, [some 0, some 0, some 0, some 1, some 0]⟩ ∧
    MarkdownReport.totals itemsResult (f.shownEndpoints .severity true itemsResult)
        (f.shownFindings .info .severity true itemsResult) none =
      ⟨some 1, some 0, [some 0, some 0, some 0, some 0, some 0]⟩ := by
  decide +kernel

end RouteAudit
