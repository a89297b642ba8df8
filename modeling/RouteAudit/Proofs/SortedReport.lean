import RouteAudit.Proofs.DiscoveryOrder
import RouteAudit.Proofs.FindingReview
import RouteAudit.Proofs.ProjectScan
import RouteAudit.Proofs.ReportTotals

/-! # Sorted reports

A report filters endpoints and findings and then sorts the two lists, each by itself. They agree
all the same: both sorts are stable in both directions, and the findings of a scan come endpoint
by endpoint. So a finding never stands before another one although its endpoint comes later.

Endpoints may be equal without being the same. To say which one a finding is about, endpoints
carry the number they have in the result, and findings the number of their endpoint
(`Scanner.numberedFindings`). Filtering and sorting with the numbers is filtering and sorting
without them (`map_numberedFindings`, `map_sortWith`). Along ties a stable sort keeps what holds
of the input (`pairwise_sortWith`); for endpoints this is that numbers rise, for findings that
they do not fall, and `coherent_sortWith` puts the two together. -/

namespace RouteAudit

/-! ### Stable sorting in a direction -/

section direction
variable {α β : Type}

/-- An order or its reverse. -/
def directed (descending : Bool) (le : α → α → Bool) (a b : α) : Bool :=
  if descending then le b a else le a b

/-- An order by which a list can be sorted. -/
structure Sorts (le : α → α → Bool) : Prop where
  trans : ∀ a b c, le a b = true → le b c = true → le a c = true
  total : ∀ a b, (le a b || le b a) = true

theorem Sorts.directed {le : α → α → Bool} (h : Sorts le) (descending : Bool) :
    Sorts (directed descending le) := by
  cases descending with
  | false => exact ⟨h.trans, h.total⟩
  | true => exact ⟨fun a b c hab hbc => h.trans c b a hbc hab, fun a b => h.total b a⟩

theorem Sorts.comap {le : β → β → Bool} (h : Sorts le) (f : α → β) :
    Sorts fun a b => le (f a) (f b) :=
  ⟨fun a b c => h.trans (f a) (f b) (f c), fun a b => h.total (f a) (f b)⟩

theorem sortWith_eq (descending : Bool) (le : α → α → Bool) (xs : List α) :
    sortWith descending le xs = xs.mergeSort (directed descending le) := rfl

theorem sortWith_perm (descending : Bool) (le : α → α → Bool) (xs : List α) :
    (sortWith descending le xs).Perm xs := List.mergeSort_perm _ _

theorem map_sortWith (descending : Bool) (le : β → β → Bool) (f : α → β) (xs : List α) :
    (sortWith descending (fun a b => le (f a) (f b)) xs).map f =
      sortWith descending le (xs.map f) :=
  List.map_mergeSort fun _ _ _ _ => rfl

variable {le : α → α → Bool} (h : Sorts le) (descending : Bool)

include h

theorem sorted_sortWith (xs : List α) :
    (sortWith descending le xs).Pairwise fun a b => directed descending le a b = true :=
  List.pairwise_mergeSort (h.directed descending).trans (h.directed descending).total xs

theorem filter_sortWith {p : α → Bool} (hp : ∀ a b, p a = true → p b = true → le a b = true)
    (xs : List α) : (sortWith descending le xs).filter p = xs.filter p := by
  refine filter_mergeSort (h.directed descending).trans (h.directed descending).total ?_ xs
  intro a b ha hb
  cases descending with
  | false => exact hp a b ha hb
  | true => exact hp b a hb ha

/-- A sorted list stands in order, and what holds along the input holds along the ties. -/
theorem pairwise_sortWith {R : α → α → Prop} {xs : List α} (hR : xs.Pairwise R) :
    (sortWith descending le xs).Pairwise fun a b =>
      directed descending le a b = true ∧ (directed descending le b a = true → R a b) := by
  have hd := h.directed descending
  have hsorted := sorted_sortWith h descending xs
  rw [List.pairwise_iff_forall_sublist] at hR hsorted ⊢
  intro a b hab
  have hle := hsorted hab
  refine ⟨hle, fun hba => hR ?_⟩
  -- the two are in one class of ties, and of these the input is a part of the result
  have hclass := hab.filter (tied (directed descending le) a)
  rw [sortWith_eq, filter_mergeSort hd.trans hd.total] at hclass
  · have haa : directed descending le a a = true := by simpa using hd.total a a
    simp only [tied, haa, hle, hba, Bool.and_self, List.filter_cons_of_pos, List.filter_nil]
      at hclass
    exact hclass.trans List.filter_sublist
  · intro b c hb hc
    exact hd.trans b a c (tied_iff.mp hb).2 (tied_iff.mp hc).1

end direction

/-! ### The keys of a report -/

theorem sorts_texts : Sorts fun a b : String => decide (a ≤ b) where
  trans a b c hab hbc := by
    rw [decide_eq_true_iff] at hab hbc ⊢
    exact String.le_trans hab hbc
  total a b := by simpa using String.le_total a b

theorem sorts_numbers : Sorts fun a b : ℕ => decide (a ≤ b) where
  trans a b c hab hbc := by
    rw [decide_eq_true_iff] at hab hbc ⊢
    exact Nat.le_trans hab hbc
  total a b := by simpa using Nat.le_total a b

namespace SortKey

theorem sorts_endpointLe (k : SortKey) : Sorts fun a b => k.endpointLe a b := by
  cases k with
  | severity => exact ⟨fun _ _ _ _ _ => rfl, fun _ _ => rfl⟩
  | route => exact sorts_texts.comap Endpoint.fullRoute
  | method => exact sorts_texts.comap Endpoint.methodText
  | exposure => exact sorts_numbers.comap fun e : Endpoint => e.exposure.rank

theorem findingLe_eq {k : SortKey} (hk : k ≠ .severity) :
    (fun d d' => k.findingLe d d') = fun d d' => k.endpointLe d.endpoint d'.endpoint := by
  cases k with
  | severity => exact absurd rfl hk
  | route | method | exposure => rfl

theorem sorts_findingLe (k : SortKey) : Sorts fun d d' => k.findingLe d d' := by
  by_cases hk : k = .severity
  · subst hk
    exact sorts_numbers.comap fun d : Finding => d.severity.rank
  · rw [findingLe_eq hk]
    exact k.sorts_endpointLe.comap Finding.endpoint

end SortKey

theorem filter_sortFindings_severity (descending : Bool) (ds : List Finding) (v : Severity) :
    ((sortFindings .severity descending ds).filter fun d => d.severity == v) =
      ds.filter fun d => d.severity == v := by
  refine filter_sortWith (SortKey.sorts_findingLe .severity) descending ?_ ds
  intro d d' hd hd'
  rw [beq_iff_eq] at hd hd'
  simp [SortKey.findingLe, hd, hd']

theorem sortEndpoints_eq {k : SortKey} (hk : k ≠ .severity) (descending : Bool)
    (es : List Endpoint) :
    sortEndpoints k descending es = sortWith descending (fun a b => k.endpointLe a b) es := by
  cases k with
  | severity => exact absurd rfl hk
  | route | method | exposure => rfl

/-! ### Numbers of endpoints -/

theorem pairwise_zipIdx {α : Type} (xs : List α) : xs.zipIdx.Pairwise fun a b => a.2 < b.2 := by
  have hrange : (xs.zipIdx.map Prod.snd).Pairwise (· < ·) := by
    rw [List.zipIdx_map_snd]
    exact List.pairwise_lt_range' 1
  exact List.pairwise_map.mp hrange

namespace Scanner

variable (s : Scanner)

/-- The findings about one endpoint. -/
def findingsAbout (e : Endpoint) : List Finding := (s.findingsOf [e]).toOption.getD []

/-- The findings about some endpoints, each with the number of its endpoint among them. -/
def numberedFindings (es : List Endpoint) : List (Finding × ℕ) :=
  es.zipIdx.flatMap fun e => (s.findingsAbout e.1).map fun d => (d, e.2)

variable {s}

theorem findingsOf_eq_flatMap {es : List Endpoint} {ds : List Finding}
    (h : s.findingsOf es = .ok ds) : ds = es.flatMap s.findingsAbout := by
  have hsplit := s.findingsOf_flatMap (fun e => [e]) es
  rw [List.flatMap_singleton', h] at hsplit
  cases hall : es.mapM fun e => s.findingsOf [e] with
  | error f =>
      rw [hall] at hsplit
      cases hsplit
  | ok dss =>
      have habout : List.Forall₂ (fun e ds => s.findingsAbout e = ds) es dss :=
        (mapM_eq_ok_iff.mp hall).imp fun e ds hds => by rw [findingsAbout, hds]; rfl
      rw [← List.forall₂_map_left_iff, List.forall₂_eq_eq_eq] at habout
      rw [hall, ← habout] at hsplit
      exact Except.ok.inj hsplit

theorem map_numberedFindings {es : List Endpoint} {ds : List Finding}
    (h : s.findingsOf es = .ok ds) : (s.numberedFindings es).map Prod.fst = ds := by
  have hfirst : es.zipIdx.flatMap (fun e => s.findingsAbout e.1) = es.flatMap s.findingsAbout := by
    rw [← List.flatMap_map Prod.fst s.findingsAbout, List.zipIdx_map_fst]
  rw [findingsOf_eq_flatMap h, numberedFindings, List.map_flatMap, ← hfirst]
  simp only [List.map_map, Function.comp_def, List.map_id']

section checks
variable (hlocal : ∀ r ∈ s.rules, r.Local)

include hlocal

theorem endpoint_of_mem_findingsAbout {e : Endpoint} {d : Finding} (h : d ∈ s.findingsAbout e) :
    d.endpoint = e := by
  rw [findingsAbout] at h
  cases hds : s.findingsOf [e] with
  | error f =>
      rw [hds] at h
      cases h
  | ok ds =>
      rw [hds] at h
      exact List.mem_singleton.mp (endpoint_mem_of_findingsOf hlocal hds h)

theorem getElem?_of_mem_numberedFindings {es : List Endpoint} {d : Finding × ℕ}
    (h : d ∈ s.numberedFindings es) : es[d.2]? = some d.1.endpoint := by
  obtain ⟨e, he, hd⟩ := List.mem_flatMap.mp h
  obtain ⟨d', hd', rfl⟩ := List.mem_map.mp hd
  rw [endpoint_of_mem_findingsAbout hlocal hd']
  exact List.mem_zipIdx_iff_getElem?.mp he

end checks

variable (s) in
theorem pairwise_numberedFindings (es : List Endpoint) :
    (s.numberedFindings es).Pairwise fun a b => a.2 ≤ b.2 := by
  rw [numberedFindings, List.pairwise_flatMap]
  constructor
  · intro e _
    rw [List.pairwise_map]
    exact List.pairwise_of_forall fun _ _ => Nat.le_refl e.2
  · refine (pairwise_zipIdx es).imp ?_
    intro e e' hlt a ha b hb
    obtain ⟨d, -, rfl⟩ := List.mem_map.mp ha
    obtain ⟨d', -, rfl⟩ := List.mem_map.mp hb
    exact Nat.le_of_lt hlt

end Scanner

namespace ReportFilter

variable (f : ReportFilter) (threshold : Severity)

/-- The endpoints that a filter keeps, each with its number before. -/
def numberedEndpoints (es : List Endpoint) : List (Endpoint × ℕ) :=
  es.zipIdx.filter fun e => f.keepsEndpoint e.1

/-- A finding about a kept endpoint is kept. -/
def keepsFinding (d : Finding) : Bool :=
  d.severity.atLeast threshold && f.keepsRule d.ruleId && (f.showSuppressed || !d.suppressed)

/-- The findings that a filter keeps when it goes by the numbers of the kept endpoints. -/
def numberedFindings (kept : List (Endpoint × ℕ)) (ds : List (Finding × ℕ)) :
    List (Finding × ℕ) :=
  ds.filter fun d => (kept.map Prod.snd).contains d.2 && f.keepsFinding threshold d.1

theorem map_numberedEndpoints (es : List Endpoint) :
    (f.numberedEndpoints es).map Prod.fst = f.endpoints es := by
  have hmap := List.filter_map (f := Prod.fst) (p := f.keepsEndpoint) (l := es.zipIdx)
  rw [List.zipIdx_map_fst] at hmap
  exact hmap.symm

theorem mem_numberedEndpoints_iff {es : List Endpoint} {e : Endpoint} {n : ℕ} :
    (e, n) ∈ f.numberedEndpoints es ↔ es[n]? = some e ∧ f.keepsEndpoint e = true := by
  rw [numberedEndpoints, List.mem_filter, List.mem_zipIdx_iff_getElem?]

/-- It makes no difference whether the numbers or the endpoints themselves are looked for. -/
theorem contains_number_iff {es : List Endpoint} {e : Endpoint} {n : ℕ} (h : es[n]? = some e) :
    ((f.numberedEndpoints es).map Prod.snd).contains n = (f.endpoints es).contains e := by
  rw [Bool.eq_iff_iff, List.contains_iff_mem, List.contains_iff_mem, endpoints, List.mem_filter,
    List.mem_map]
  constructor
  · rintro ⟨⟨e', n'⟩, hmem, rfl⟩
    obtain ⟨he', hkeeps⟩ := f.mem_numberedEndpoints_iff.mp hmem
    obtain rfl : e' = e := Option.some.inj (he'.symm.trans h)
    exact ⟨List.mem_of_getElem? h, hkeeps⟩
  · rintro ⟨-, hkeeps⟩
    exact ⟨(e, n), f.mem_numberedEndpoints_iff.mpr ⟨h, hkeeps⟩, rfl⟩

theorem map_numberedFindings {s : Scanner} (hlocal : ∀ r ∈ s.rules, r.Local) {es : List Endpoint}
    {ds : List Finding} (h : s.findingsOf es = .ok ds) :
    (f.numberedFindings threshold (f.numberedEndpoints es) (s.numberedFindings es)).map Prod.fst =
      f.findings (f.endpoints es) threshold ds := by
  have hkept : f.numberedFindings threshold (f.numberedEndpoints es) (s.numberedFindings es) =
      (s.numberedFindings es).filter fun d =>
        (f.endpoints es).contains d.1.endpoint && f.keepsFinding threshold d.1 := by
    refine List.filter_congr fun d hd => ?_
    rw [f.contains_number_iff (Scanner.getElem?_of_mem_numberedFindings hlocal hd)]
  rw [hkept, ← Scanner.map_numberedFindings h, findings, List.filter_map]
  simp only [keepsFinding, Function.comp_def, Bool.and_assoc]

end ReportFilter

/-! ### Two lists that agree -/

/-- The findings are about endpoints that are listed, and they stand in the order of these. -/
structure Coherent (es : List (Endpoint × ℕ)) (ds : List (Finding × ℕ)) : Prop where
  listed : ∀ d ∈ ds, (d.1.endpoint, d.2) ∈ es
  ordered : ds.Pairwise fun d d' =>
    es.idxOf (d.1.endpoint, d.2) ≤ es.idxOf (d'.1.endpoint, d'.2)

theorem idxOf_le_of_pairwise {α : Type} [BEq α] [LawfulBEq α] {R : α → α → Prop} {xs : List α}
    {a b : α} (h : xs.Pairwise R) (ha : a ∈ xs) (hb : b ∈ xs) (hba : ¬ R b a) :
    xs.idxOf a ≤ xs.idxOf b := by
  by_contra hlt
  rw [List.pairwise_iff_getElem] at h
  have hR := h _ _ (List.idxOf_lt_length_iff.mpr hb) (List.idxOf_lt_length_iff.mpr ha)
    (Nat.lt_of_not_le hlt)
  rw [List.getElem_idxOf, List.getElem_idxOf] at hR
  exact hba hR

/-- Endpoints and findings that are sorted by one key of the endpoints agree if the numbers rise
along the endpoints and do not fall along the findings. -/
theorem coherent_sortWith {le : Endpoint → Endpoint → Bool} (hle : Sorts le) (descending : Bool)
    {es : List (Endpoint × ℕ)} {ds : List (Finding × ℕ)}
    (hes : es.Pairwise fun a b => a.2 < b.2) (hds : ds.Pairwise fun a b => a.2 ≤ b.2)
    (hlisted : ∀ d ∈ ds, (d.1.endpoint, d.2) ∈ es) :
    Coherent (sortWith descending (fun a b => le a.1 b.1) es)
      (sortWith descending (fun a b => le a.1.endpoint b.1.endpoint) ds) := by
  have hplaces := pairwise_sortWith (hle.comap Prod.fst) descending hes
  have hfindings := pairwise_sortWith (hle.comap fun d : Finding × ℕ => d.1.endpoint) descending hds
  have hlisted' : ∀ d ∈ sortWith descending (fun a b => le a.1.endpoint b.1.endpoint) ds,
      (d.1.endpoint, d.2) ∈ sortWith descending (fun a b => le a.1 b.1) es := fun d hd =>
    (sortWith_perm _ _ _).mem_iff.mpr (hlisted d ((sortWith_perm _ _ _).mem_iff.mp hd))
  refine ⟨hlisted', hfindings.imp_of_mem ?_⟩
  intro d d' hd hd' ⟨hdd', htie⟩
  refine idxOf_le_of_pairwise hplaces (hlisted' d hd) (hlisted' d' hd') ?_
  -- were the endpoint of the second listed first, the two would be a tie with falling numbers
  rintro ⟨hd'd, hrise⟩
  exact Nat.not_lt.mpr (htie hd'd) (hrise hdd')

/-! ### The report on a scan -/

namespace ReportFilter

variable (f : ReportFilter) (threshold : Severity) (key : SortKey) (descending : Bool)

/-- The endpoints of a report, each with its number in the result. -/
def sortedEndpoints (es : List Endpoint) : List (Endpoint × ℕ) :=
  sortWith descending (fun a b => key.endpointLe a.1 b.1) (f.numberedEndpoints es)

/-- The findings of a report, each with the number of its endpoint in the result. -/
def sortedFindings (s : Scanner) (es : List Endpoint) : List (Finding × ℕ) :=
  sortWith descending (fun a b => key.findingLe a.1 b.1)
    (f.numberedFindings threshold (f.numberedEndpoints es) (s.numberedFindings es))

theorem map_sortedEndpoints {key : SortKey} (hkey : key ≠ .severity) (es : List Endpoint) :
    (f.sortedEndpoints key descending es).map Prod.fst =
      sortEndpoints key descending (f.endpoints es) := by
  rw [sortedEndpoints, map_sortWith descending (fun a b => key.endpointLe a b),
    sortEndpoints_eq hkey, map_numberedEndpoints]

section checks
variable {s : Scanner} (hlocal : ∀ r ∈ s.rules, r.Local)

include hlocal

theorem map_sortedFindings {es : List Endpoint} {ds : List Finding}
    (h : s.findingsOf es = .ok ds) :
    (f.sortedFindings threshold key descending s es).map Prod.fst =
      sortFindings key descending (f.findings (f.endpoints es) threshold ds) := by
  rw [sortedFindings, map_sortWith descending (fun a b => key.findingLe a b), sortFindings,
    f.map_numberedFindings threshold hlocal h]

theorem coherent_sorted {key : SortKey} (hkey : key ≠ .severity) (es : List Endpoint) :
    Coherent (f.sortedEndpoints key descending es)
      (f.sortedFindings threshold key descending s es) := by
  have hle : (fun a b : Finding × ℕ => key.findingLe a.1 b.1) =
      fun a b => key.endpointLe a.1.endpoint b.1.endpoint := by
    funext a b
    exact congrFun (congrFun (SortKey.findingLe_eq hkey) a.1) b.1
  rw [sortedEndpoints, sortedFindings, hle]
  refine coherent_sortWith key.sorts_endpointLe descending ((pairwise_zipIdx es).filter _)
    ((s.pairwise_numberedFindings es).filter _) ?_
  intro d hd
  obtain ⟨hmem, hkept⟩ := List.mem_filter.mp hd
  have hplace := Scanner.getElem?_of_mem_numberedFindings hlocal hmem
  rw [f.contains_number_iff hplace, Bool.and_eq_true, List.contains_iff_mem] at hkept
  exact f.mem_numberedEndpoints_iff.mpr ⟨hplace, (List.mem_filter.mp hkept.1).2⟩

end checks

end ReportFilter

/-- **Sorted reports are coherent.** Let the rules make findings about the endpoints that they look
at. The endpoints and findings of a report on a scan are those that the filter keeps, and they stand
in the order of the key. By a key of the endpoints, a finding never stands before another one whose
endpoint comes earlier in the list of endpoints, where endpoints are told apart by their numbers in
the scan. By severity, the endpoints stay in the order of the scan, and so do the findings of each
severity. All of this holds in both directions. -/
theorem Scanner.sorted_report_coherent (s : Scanner) (hlocal : ∀ r ∈ s.rules, r.Local)
    (scanPath : String) (files : List String) (elapsed : ℕ) (scans : List FileScan)
    (r : ScanResult) (hr : s.finish scanPath files elapsed scans = .ok r) (f : ReportFilter)
    (threshold : Severity) (key : SortKey) (descending : Bool) :
    let kept := f.endpoints r.endpoints
    let found := f.findings kept threshold r.findings
    let endpoints := sortEndpoints key descending kept
    let findings := sortFindings key descending found
    (endpoints.Perm kept ∧ findings.Perm found) ∧
    (endpoints.Pairwise (fun e e' =>
        directed descending (fun a b => key.endpointLe a b) e e' = true) ∧
      findings.Pairwise fun d d' =>
        directed descending (fun a b => key.findingLe a b) d d' = true) ∧
    (key ≠ .severity →
      (f.sortedEndpoints key descending r.endpoints).map Prod.fst = endpoints ∧
      (f.sortedFindings threshold key descending s r.endpoints).map Prod.fst = findings ∧
      (s.numberedFindings r.endpoints).map Prod.fst = r.findings ∧
      Coherent (f.sortedEndpoints key descending r.endpoints)
        (f.sortedFindings threshold key descending s r.endpoints)) ∧
    (key = .severity → endpoints = kept ∧ ∀ v : Severity,
      (findings.filter fun d => d.severity == v) = found.filter fun d => d.severity == v) := by
  intro kept found endpoints findings
  have hfindings : s.findingsOf r.endpoints = .ok r.findings := by
    obtain ⟨ds, hds, rfl⟩ := exists_of_finish hr
    exact hds
  refine ⟨⟨f.shownEndpoints_perm key descending r, sortWith_perm _ _ _⟩,
    ⟨?_, sorted_sortWith key.sorts_findingLe descending found⟩, ?_, ?_⟩
  · by_cases hkey : key = .severity
    · -- by severity no endpoint has to come before another
      subst hkey
      exact List.pairwise_of_forall fun _ _ => by cases descending <;> rfl
    · have hsorted := sorted_sortWith key.sorts_endpointLe descending kept
      rwa [← sortEndpoints_eq hkey] at hsorted
  · intro hkey
    exact ⟨f.map_sortedEndpoints descending hkey r.endpoints,
      f.map_sortedFindings threshold key descending hlocal hfindings,
      map_numberedFindings hfindings,
      f.coherent_sorted threshold descending hlocal hkey r.endpoints⟩
  · rintro rfl
    exact ⟨rfl, filter_sortFindings_severity descending found⟩

/-- The findings about two routes of one file, sorted by routes from the last one on. -/
theorem Scanner.plain_report_coherent :
    ∃ r, plain.finish "main.go" ["main.go"] 0 [twoRoutes] = .ok r ∧
      Coherent (({} : ReportFilter).sortedEndpoints .route true r.endpoints)
        (({} : ReportFilter).sortedFindings .info .route true plain r.endpoints) := by
  obtain ⟨r, hr⟩ := exists_finish (s := plain) rfl "main.go" ["main.go"] 0 [twoRoutes]
  have hcoherent := sorted_report_coherent plain (fun _ => Check.local_of_mem_standard) "main.go"
    ["main.go"] 0 [twoRoutes] r hr {} .info .route true
  exact ⟨r, hr, (hcoherent.2.2.1 (by decide)).2.2.2⟩

end RouteAudit
