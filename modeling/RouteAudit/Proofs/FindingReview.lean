import RouteAudit.Proofs.Fallible
import RouteAudit.Scan.Project

/-! # The findings of a scan

Which rules count is decided twice: the rule set runs the rules that `Settings.activeRules` lists,
and a finding is kept if `Settings.isRuleEnabled` holds of its rule. The second decision is the
finer one (`isEnabled_of_isRuleEnabled`), so the first never shows (`RuleSet.filter_evaluateAll`) as
long as findings carry the identifiers of the rules they come from (`Check.Labels`). What is kept is
then `Reviewed` under the suppressions of the settings: the first one that covers a finding marks
it, and nothing else about it changes. `findings_of_enabled_rules` puts the two together for a whole
scan, for any rules and whatever patterns are taken to mean. -/

namespace RouteAudit

/-! ### Rules that count -/

namespace Check

/-- Its findings carry its identifier. -/
def Labels (r : Check) : Prop := ∀ e, ∀ f ∈ r.evaluate e, f.ruleId = r.id

/-- Its findings are about the endpoint that it looks at. -/
def Local (r : Check) : Prop := ∀ e, ∀ f ∈ r.evaluate e, f.endpoint = e

theorem Labels.filter_evaluate {r : Check} (h : r.Labels) (p : String → Bool) (e : Endpoint) :
    (r.evaluate e).filter (fun f => p f.ruleId) = if p r.id then r.evaluate e else [] := by
  split
  · rename_i hp
    rw [List.filter_eq_self]
    intro f hf
    rwa [h e f hf]
  · rename_i hp
    rw [List.filter_eq_nil_iff]
    intro f hf
    rwa [h e f hf]

theorem filter_flatMap_evaluate (p : String → Bool) {rules : List Check}
    (h : ∀ r ∈ rules, r.Labels) (e : Endpoint) :
    (rules.flatMap fun r => r.evaluate e).filter (fun f => p f.ruleId) =
      (rules.filter fun r => p r.id).flatMap fun r => r.evaluate e := by
  induction rules with
  | nil => rfl
  | cons r rest ih =>
      obtain ⟨hr, hrest⟩ := List.forall_mem_cons.mp h
      rw [List.flatMap_cons, List.filter_append, ih hrest, hr.filter_evaluate]
      rw [List.filter_cons]
      split
      · rw [List.flatMap_cons]
      · rw [List.nil_append]

theorem labels_of_mem_standard {r : Check} (h : r ∈ standard) : r.Labels := by
  obtain ⟨rule, -, rfl⟩ := List.mem_map.mp h
  exact fun e f hf => Rule.ruleId_of_mem_evaluate hf

theorem local_of_mem_standard {r : Check} (h : r ∈ standard) : r.Local := by
  obtain ⟨rule, -, rfl⟩ := List.mem_map.mp h
  intro e f hf
  rw [(Rule.mem_evaluate_iff.mp hf).2]
  rfl

end Check

/-- Findings that count come from rules that count. It does not matter which other rules are run. -/
theorem RuleSet.filter_evaluateAll {rs : RuleSet} (hlabels : ∀ r ∈ rs.rules, r.Labels)
    {p : String → Bool} (h : ∀ id, p id = true → rs.isEnabled id = true) (es : List Endpoint) :
    (rs.evaluateAll es).filter (fun f => p f.ruleId) =
      es.flatMap fun e => (rs.rules.filter fun r => p r.id).flatMap fun r => r.evaluate e := by
  have hactive : (rs.active.filter fun r => p r.id) = rs.rules.filter fun r => p r.id := by
    rw [active, List.filter_filter]
    refine List.filter_congr fun r _ => ?_
    cases hp : p r.id with
    | true => rw [h r.id hp, Bool.and_self]
    | false => rw [Bool.false_and]
  have hlabels' : ∀ r ∈ rs.active, r.Labels := fun r hr => hlabels r (List.mem_filter.mp hr).1
  rw [evaluateAll, List.filter_flatMap]
  congr 1
  funext e
  rw [evaluate, Check.filter_flatMap_evaluate p hlabels', hactive]

theorem Scanner.isEnabled_of_isRuleEnabled (s : Scanner) (id : String)
    (h : s.settings.isRuleEnabled id = true) : s.ruleSet.isEnabled id = true := by
  rw [Settings.isRuleEnabled, Bool.and_eq_true] at h
  obtain ⟨hnamed, hdisabled⟩ := h
  unfold ruleSet RuleSet.isEnabled Settings.activeRules
  by_cases hnone : s.settings.enabledRules.isEmpty = true
  · simp [hnone]
  · have hmem : s.settings.enabledRules.contains id = true := by simpa [hnone] using hnamed
    simp only [hnone, Bool.false_eq_true, if_false, List.contains_iff_mem, List.mem_filter]
    exact ⟨List.contains_iff_mem.mp hmem, hdisabled⟩

/-! ### Suppressions -/

section review
variable (holds : String → String → Bool)

/-- The suppression is for the rule of the finding or for all rules, and for its route or for all
routes. `holds` says which patterns hold of which routes. -/
def Suppression.Covers (p : Suppression) (f : Finding) : Prop :=
  (p.rule = f.ruleId ∨ p.rule = "*") ∧ (p.route = "" ∨ holds p.route f.endpoint.fullRoute = true)

/-- What becomes of a finding: it stays as it is if no suppression covers it, and otherwise it is
marked with the reason of the first that does. -/
inductive Reviewed (suppressions : List Suppression) (f : Finding) : Finding → Prop where
  | kept (h : ∀ p ∈ suppressions, ¬ p.Covers holds f) : Reviewed suppressions f f
  | marked {before after : List Suppression} {p : Suppression}
      (hsplit : suppressions = before ++ p :: after) (hbefore : ∀ q ∈ before, ¬ q.Covers holds f)
      (hp : p.Covers holds f) :
      Reviewed suppressions f { f with suppressed := true, suppressionReason := p.reason }

variable {holds}

theorem Reviewed.suppressed_iff {suppressions : List Suppression} {f f' : Finding}
    (h : Reviewed holds suppressions f f') :
    f'.suppressed = true ↔ f.suppressed = true ∨ ∃ p ∈ suppressions, p.Covers holds f := by
  cases h with
  | kept h => exact (or_iff_left fun ⟨p, hp, hcovers⟩ => h p hp hcovers).symm
  | marked hsplit hbefore hp =>
      refine iff_of_true rfl (.inr ⟨_, ?_, hp⟩)
      rw [hsplit]
      exact List.mem_append_right _ List.mem_cons_self

variable (holds)

/-- The search that finds the patterns that hold, and never fails. -/
def RouteSearch.ofPredicate : RouteSearch := fun pattern route => .ok (holds pattern route)

namespace Suppression

theorem applies_ofPredicate (p : Suppression) (f : Finding) :
    ∃ found, p.applies (.ofPredicate holds) f.ruleId f.route = .ok found ∧
      (found = true ↔ p.Covers holds f) := by
  unfold applies coversRoute Covers
  by_cases hrule : p.coversRule f.ruleId = true
  · have hfor : p.rule = f.ruleId ∨ p.rule = "*" := by simpa [coversRule] using hrule
    rw [if_pos hrule]
    by_cases hroute : p.route.isEmpty = true
    · refine ⟨true, by rw [if_pos hroute], iff_of_true rfl ⟨hfor, .inl ?_⟩⟩
      exact String.isEmpty_iff.mp hroute
    · have hsome : p.route ≠ "" := fun hnil => hroute (String.isEmpty_iff.mpr hnil)
      refine ⟨holds p.route f.route, by rw [if_neg hroute]; rfl, ?_⟩
      exact ⟨fun hfound => ⟨hfor, .inr hfound⟩, fun hcovers => hcovers.2.resolve_left hsome⟩
  · have hfor : ¬ (p.rule = f.ruleId ∨ p.rule = "*") := by simpa [coversRule] using hrule
    rw [if_neg hrule]
    exact ⟨false, rfl, iff_of_false Bool.false_ne_true fun hcovers => hfor hcovers.1⟩

/-- Going through the suppressions finds the first that covers the finding. -/
theorem reason?_ofPredicate (f : Finding) (suppressions : List Suppression) :
    (reason? (.ofPredicate holds) f.ruleId f.route suppressions = .ok none ∧
      ∀ p ∈ suppressions, ¬ p.Covers holds f) ∨
    ∃ before p after, suppressions = before ++ p :: after ∧
      (∀ q ∈ before, ¬ q.Covers holds f) ∧ p.Covers holds f ∧
      reason? (.ofPredicate holds) f.ruleId f.route suppressions = .ok (some p.reason) := by
  induction suppressions with
  | nil => exact .inl ⟨rfl, fun _ hp => absurd hp List.not_mem_nil⟩
  | cons p rest ih =>
      obtain ⟨found, happlies, hfound⟩ := p.applies_ofPredicate holds f
      rw [reason?, happlies]
      cases found with
      | true => exact .inr ⟨[], p, rest, rfl, fun _ hq => absurd hq List.not_mem_nil,
          hfound.mp rfl, rfl⟩
      | false =>
          have hp : ¬ p.Covers holds f := fun hcovers => Bool.false_ne_true (hfound.mpr hcovers)
          obtain ⟨hnone, hrest⟩ | ⟨before, q, after, hsplit, hbefore, hq, hsome⟩ := ih
          · exact .inl ⟨hnone, List.forall_mem_cons.mpr ⟨hp, hrest⟩⟩
          · exact .inr ⟨p :: before, q, after, by rw [hsplit, List.cons_append],
              List.forall_mem_cons.mpr ⟨hp, hbefore⟩, hq, hsome⟩

end Suppression

end review

/-! ### A whole scan -/

namespace Scanner

/-- What the rules that count make of some endpoints, by endpoint and then by rule. -/
def madeFor (s : Scanner) (es : List Endpoint) : List Finding :=
  es.flatMap fun e =>
    (s.rules.filter fun r => s.settings.isRuleEnabled r.id).flatMap fun r => r.evaluate e

variable {s : Scanner}

theorem filter_evaluateAll_eq_madeFor (h : ∀ r ∈ s.rules, r.Labels) (es : List Endpoint) :
    (s.ruleSet.evaluateAll es).filter (fun f => s.settings.isRuleEnabled f.ruleId) =
      s.madeFor es :=
  RuleSet.filter_evaluateAll h s.isEnabled_of_isRuleEnabled es

theorem exists_reviewed {holds : String → String → Bool} (hsearch : s.search = .ofPredicate holds)
    (f : Finding) :
    ∃ f', s.reviewed f = .ok f' ∧ Reviewed holds s.settings.suppressions f f' := by
  unfold reviewed
  rw [hsearch]
  obtain ⟨hnone, hcovers⟩ | ⟨before, p, after, hsplit, hbefore, hp, hsome⟩ :=
    Suppression.reason?_ofPredicate holds f s.settings.suppressions
  · exact ⟨f, by rw [hnone]; rfl, .kept hcovers⟩
  · exact ⟨_, by rw [hsome]; rfl, .marked hsplit hbefore hp⟩

theorem endpoint_of_reviewed {f f' : Finding} (h : s.reviewed f = .ok f') :
    f'.endpoint = f.endpoint := by
  obtain ⟨reason?, -, h⟩ := Except.exists_of_bind_eq_ok h
  cases reason? with
  | none =>
      cases h
      rfl
  | some reason =>
      cases h
      rfl

theorem endpoint_mem_of_findingsOf (hlocal : ∀ r ∈ s.rules, r.Local) {es : List Endpoint}
    {fs : List Finding} (hfs : s.findingsOf es = .ok fs) {f : Finding} (hf : f ∈ fs) :
    f.endpoint ∈ es := by
  obtain ⟨made, hmade, hreviewed⟩ := exists_of_mem_mapM hfs hf
  obtain ⟨e, he, hmade⟩ := List.mem_flatMap.mp (List.mem_filter.mp hmade).1
  obtain ⟨r, hr, hmade⟩ := List.mem_flatMap.mp hmade
  rw [endpoint_of_reviewed hreviewed, hlocal r (List.mem_filter.mp hr).1 e made hmade]
  exact he

theorem exists_of_finish {scanPath : String} {files : List String} {elapsed : ℕ}
    {scans : List FileScan} {r : ScanResult} (h : s.finish scanPath files elapsed scans = .ok r) :
    ∃ found, s.findingsOf (classifiedIn scans) = .ok found ∧
      r = resultOf scanPath files elapsed scans found := by
  rw [finish] at h
  cases hfound : s.findingsOf (classifiedIn scans) with
  | error f =>
      rw [hfound] at h
      cases h
  | ok found =>
      rw [hfound] at h
      exact ⟨found, rfl, (Except.ok.inj h).symm⟩

theorem exists_findingsOf {holds : String → String → Bool}
    (hsearch : s.search = .ofPredicate holds) (es : List Endpoint) :
    ∃ fs, s.findingsOf es = .ok fs ∧
      List.Forall₂ (Reviewed holds s.settings.suppressions)
        ((s.ruleSet.evaluateAll es).filter fun f => s.settings.isRuleEnabled f.ruleId) fs := by
  choose review hreview hreviewed using exists_reviewed hsearch
  refine ⟨_, mapM_eq_map fun f _ => hreview f, ?_⟩
  rw [List.forall₂_map_right_iff, List.forall₂_same]
  exact fun f _ => hreviewed f

theorem exists_finish {holds : String → String → Bool} (hsearch : s.search = .ofPredicate holds)
    (scanPath : String) (files : List String) (elapsed : ℕ) (scans : List FileScan) :
    ∃ r, s.finish scanPath files elapsed scans = .ok r := by
  obtain ⟨found, hfound, -⟩ := exists_findingsOf hsearch (classifiedIn scans)
  rw [finish, hfound]
  exact ⟨_, rfl⟩

/-- **Exact findings.** Let the rules label their findings, and let patterns mean anything. Then a
scan comes to a result. Its findings are those of the rules that count, by endpoint and then by
rule, each as it was made or marked by the first suppression that covers it; so a finding is marked
exactly when some suppression covers it, unless the rule has made it so. Running only the rules that
the settings list as active makes no difference to what counts. -/
theorem findings_of_enabled_rules (s : Scanner) (holds : String → String → Bool)
    (hsearch : s.search = .ofPredicate holds) (hlabels : ∀ r ∈ s.rules, r.Labels)
    (scanPath : String) (files : List String) (elapsed : ℕ) (scans : List FileScan) :
    ∃ result, s.finish scanPath files elapsed scans = .ok result ∧
      result.endpoints = (scans.flatMap endpointsOf).map Endpoint.classified ∧
      List.Forall₂ (Reviewed holds s.settings.suppressions)
        (s.madeFor result.endpoints) result.findings ∧
      List.Forall₂ (fun f f' => f'.suppressed = true ↔
        f.suppressed = true ∨ ∃ p ∈ s.settings.suppressions, p.Covers holds f)
        (s.madeFor result.endpoints) result.findings ∧
      (s.ruleSet.evaluateAll result.endpoints).filter
          (fun f => s.settings.isRuleEnabled f.ruleId) =
        (RuleSet.evaluateAll ⟨none, s.rules⟩ result.endpoints).filter
          (fun f => s.settings.isRuleEnabled f.ruleId) := by
  obtain ⟨fs, hfs, hreviewed⟩ := exists_findingsOf hsearch (classifiedIn scans)
  rw [filter_evaluateAll_eq_madeFor hlabels] at hreviewed
  refine ⟨_, by rw [finish, hfs]; rfl, rfl, hreviewed, ?_, ?_⟩
  · exact hreviewed.imp fun _ _ h => h.suppressed_iff
  · rw [filter_evaluateAll_eq_madeFor hlabels, RuleSet.filter_evaluateAll hlabels fun _ _ => rfl]
    rfl

/-- A scanner with the standard rules that takes patterns to be routes, and suppresses one. -/
def plain : Scanner where
  settings := { suppressions := [{ rule := "*", route := "/items", reason := "by design" }] }
  finders := []
  search := .ofPredicate fun pattern route => pattern == route

/-- A file with two routes that anyone may call. -/
def twoRoutes : FileScan :=
  ⟨"main.go", .ok { endpoints := [
    { route := "/orders", methods := [.get], filePath := "main.go", line := 4 },
    { route := "/items", methods := [.get], filePath := "main.go", line := 5 }] }⟩

/-- Both routes have findings, and those of the one that is suppressed are marked. -/
theorem plain_findings_of_enabled_rules :
    ∃ result, plain.finish "main.go" ["main.go"] 0 [twoRoutes] = .ok result ∧
      (plain.madeFor result.endpoints).map (fun f => (f.ruleId, f.route)) =
        [("AP001", "/orders"), ("AP008", "/orders"), ("AP001", "/items"), ("AP008", "/items")] ∧
      List.Forall₂ (fun f f' => f'.suppressed = true ↔ f.suppressed = true ∨
        ∃ p ∈ plain.settings.suppressions, p.Covers (fun pattern route => pattern == route) f)
        (plain.madeFor result.endpoints) result.findings := by
  obtain ⟨result, hresult, hendpoints, -, hmarked, -⟩ := findings_of_enabled_rules plain _ rfl
    (fun r hr => Check.labels_of_mem_standard hr) "main.go" ["main.go"] 0 [twoRoutes]
  refine ⟨result, hresult, ?_, hmarked⟩
  rw [hendpoints]
  decide +kernel

end Scanner

end RouteAudit
