import Mathlib.Data.List.Basic
import Mathlib.Data.String.Basic
import RouteAudit.Proofs.CallReading
import RouteAudit.Proofs.RuleCoverage
import RouteAudit.Scan.Project

/-! # The order of the finders does not show

`discover` puts the endpoints of all finders in one list and sorts it by line and framework. The
sort is stable, so the sorted list is determined by what the input holds in each class of ties
(`mergeSort_eq_of_filter_eq`), in the order in which it stands there. Endpoints on one line of one
framework are ties. A finder that `Labels` its endpoints with its own framework contributes to the
classes of that framework only, so when frameworks are pairwise distinct, each class comes from one
finder and is the same in every order of the finders (`filter_found_eq_of_perm`). When a finder
gives up, nothing is kept of the others, whichever of them came first (`discover_of_gaveUp`). -/

namespace RouteAudit

/-! ### Stable sorting -/

section sorting
variable {α β : Type} {le : α → α → Bool}

/-- Neither of the two has to come before the other. -/
def tied (le : α → α → Bool) (a b : α) : Bool := le a b && le b a

theorem tied_iff {a b : α} : tied le a b = true ↔ le a b = true ∧ le b a = true := by
  rw [tied, Bool.and_eq_true]

/-- Two sorted lists are equal if they hold the same in each class of ties. -/
theorem eq_of_filter_tied_eq (hrefl : ∀ a, le a a = true) : ∀ {l m : List α},
    l.Pairwise (fun a b => le a b = true) → m.Pairwise (fun a b => le a b = true) →
      (∀ a, l.filter (tied le a) = m.filter (tied le a)) → l = m
  | [], [], _, _, _ => rfl
  | [], b :: m, _, _, h => by
      have hb := h b
      rw [List.filter_cons_of_pos (tied_iff.mpr ⟨hrefl b, hrefl b⟩)] at hb
      cases hb
  | a :: l, [], _, _, h => by
      have ha := h a
      rw [List.filter_cons_of_pos (tied_iff.mpr ⟨hrefl a, hrefl a⟩)] at ha
      cases ha
  | a :: l, b :: m, hl, hm, h => by
      have haa : tied le a a = true := tied_iff.mpr ⟨hrefl a, hrefl a⟩
      have hbb : tied le b b = true := tied_iff.mpr ⟨hrefl b, hrefl b⟩
      -- each head occurs in the other list, so it comes after the other head
      have ham : a ∈ b :: m := by
        have hmem : a ∈ (a :: l).filter (tied le a) := List.mem_filter.mpr ⟨List.mem_cons_self, haa⟩
        rw [h a] at hmem
        exact (List.mem_filter.mp hmem).1
      have hbl : b ∈ a :: l := by
        have hmem : b ∈ (b :: m).filter (tied le b) := List.mem_filter.mpr ⟨List.mem_cons_self, hbb⟩
        rw [← h b] at hmem
        exact (List.mem_filter.mp hmem).1
      have hba : le b a = true := by
        rcases List.mem_cons.mp ham with rfl | ham
        · exact hrefl a
        · exact (List.pairwise_cons.mp hm).1 a ham
      have hab : le a b = true := by
        rcases List.mem_cons.mp hbl with rfl | hbl
        · exact hrefl b
        · exact (List.pairwise_cons.mp hl).1 b hbl
      have hhead := h a
      rw [List.filter_cons_of_pos haa, List.filter_cons_of_pos (tied_iff.mpr ⟨hab, hba⟩)] at hhead
      obtain rfl : a = b := (List.cons.inj hhead).1
      have htail : l = m := by
        refine eq_of_filter_tied_eq hrefl (List.pairwise_cons.mp hl).2
          (List.pairwise_cons.mp hm).2 ?_
        intro c
        have hc := h c
        by_cases hca : tied le c a = true
        · rw [List.filter_cons_of_pos hca, List.filter_cons_of_pos hca] at hc
          exact (List.cons.inj hc).2
        · rwa [List.filter_cons_of_neg hca, List.filter_cons_of_neg hca] at hc
      rw [htail]

variable (htrans : ∀ a b c, le a b = true → le b c = true → le a c = true)
  (htotal : ∀ a b, (le a b || le b a) = true)

include htrans htotal

theorem filter_mergeSort_of_pairwise {p : α → Bool} {l : List α}
    (hpair : (l.filter p).Pairwise fun a b => le a b = true) :
    (l.mergeSort le).filter p = l.filter p := by
  have hsub : List.Sublist (l.filter p) (l.mergeSort le) :=
    List.sublist_mergeSort htrans htotal hpair List.filter_sublist
  have hfilter : List.Sublist (l.filter p) ((l.mergeSort le).filter p) := by
    have h := hsub.filter p
    rwa [List.filter_filter, funext fun a => Bool.and_self (p a)] at h
  exact (hfilter.eq_of_length ((List.mergeSort_perm l le).filter p).length_eq.symm).symm

theorem filter_mergeSort {p : α → Bool} (hp : ∀ a b, p a = true → p b = true → le a b = true)
    (l : List α) : (l.mergeSort le).filter p = l.filter p :=
  filter_mergeSort_of_pairwise htrans htotal <| List.pairwise_of_forall_mem_list fun a ha b hb =>
    hp a b (List.mem_filter.mp ha).2 (List.mem_filter.mp hb).2

/-- A stable sort depends on what its input holds in each class of ties only. -/
theorem mergeSort_eq_of_filter_eq {l m : List α}
    (h : ∀ a, l.filter (tied le a) = m.filter (tied le a)) : l.mergeSort le = m.mergeSort le := by
  have hrefl : ∀ a, le a a = true := fun a => by simpa using htotal a a
  refine eq_of_filter_tied_eq hrefl (List.pairwise_mergeSort htrans htotal l)
    (List.pairwise_mergeSort htrans htotal m) fun a => ?_
  have hclass : ∀ b c, tied le a b = true → tied le a c = true → le b c = true := fun b c hb hc =>
    htrans b a c (tied_iff.mp hb).2 (tied_iff.mp hc).1
  rw [filter_mergeSort htrans htotal hclass, filter_mergeSort htrans htotal hclass, h a]

omit htrans htotal

theorem flatMap_eq_of_perm {f : α → List β} {l m : List α} (hperm : l.Perm m)
    (h : l.Pairwise fun a b => f a = [] ∨ f b = []) : l.flatMap f = m.flatMap f := by
  induction hperm with
  | nil => rfl
  | cons a _ ih => rw [List.flatMap_cons, List.flatMap_cons, ih (List.pairwise_cons.mp h).2]
  | swap a b l =>
      have hab := (List.pairwise_cons.mp h).1 a List.mem_cons_self
      simp only [List.flatMap_cons]
      rcases hab with hb | ha
      · rw [hb, List.nil_append, List.nil_append]
      · rw [ha, List.nil_append, List.nil_append]
  | trans hlm _ ih₁ ih₂ => exact (ih₁ h).trans (ih₂ (hlm.pairwise h fun hab => hab.symm))

end sorting

/-! ### The order of endpoints -/

namespace Endpoint

theorem comesBefore_iff {a b : Endpoint} :
    a.comesBefore b = true ↔
      a.line < b.line ∨ a.line = b.line ∧ a.framework.name ≤ b.framework.name := by
  simp [comesBefore]

theorem comesBefore_trans (a b c : Endpoint) (hab : a.comesBefore b = true)
    (hbc : b.comesBefore c = true) : a.comesBefore c = true := by
  rw [comesBefore_iff] at hab hbc ⊢
  rcases hab with hab | ⟨hab, hn⟩ <;> rcases hbc with hbc | ⟨hbc, hn'⟩
  · exact .inl (by omega)
  · exact .inl (by omega)
  · exact .inl (by omega)
  · exact .inr ⟨by omega, String.le_trans hn hn'⟩

theorem comesBefore_total (a b : Endpoint) : (a.comesBefore b || b.comesBefore a) = true := by
  rw [Bool.or_eq_true, comesBefore_iff, comesBefore_iff]
  rcases Nat.lt_trichotomy a.line b.line with h | h | h
  · exact .inl (.inl h)
  · rcases String.le_total a.framework.name b.framework.name with hn | hn
    · exact .inl (.inr ⟨h, hn⟩)
    · exact .inr (.inr ⟨h.symm, hn⟩)
  · exact .inr (.inl h)

theorem framework_eq_of_tied {a b : Endpoint} (h : tied comesBefore a b = true) :
    a.framework = b.framework := by
  rw [tied_iff, comesBefore_iff, comesBefore_iff] at h
  obtain ⟨hab, hba⟩ := h
  have hle : a.framework.name ≤ b.framework.name ∧ b.framework.name ≤ a.framework.name := by
    rcases hab with hab | ⟨hab, hn⟩ <;> rcases hba with hba | ⟨hba, hn'⟩
    · omega
    · omega
    · omega
    · exact ⟨hn, hn'⟩
  exact Framework.name_injective (String.le_antisymm hle.1 hle.2)

end Endpoint

/-! ### What one finder contributes -/

namespace Finder

/-- The finder reports endpoints of its own framework only. -/
def Labels (f : Finder) : Prop :=
  ∀ path root es, f.find path root = .ok es → ∀ e ∈ es, e.framework = f.framework

/-- What a finder reports about a file, nothing if it gives up. -/
def found (file : SourceFile) (f : Finder) : List Endpoint :=
  match f.find file.path file.root with
  | .ok es => es
  | .error _ => []

/-- The finder gives up on a file. -/
def GaveUp (file : SourceFile) (reason : String) (f : Finder) : Prop :=
  f.find file.path file.root = .error reason

theorem labels_failing (f : Finder) (reason : String) : (f.failing reason).Labels := by
  intro path root es h
  cases h

theorem Labels.framework_of_mem_found {f : Finder} (h : f.Labels) {file : SourceFile}
    {e : Endpoint} (he : e ∈ f.found file) : e.framework = f.framework := by
  unfold found at he
  split at he
  · rename_i es hes
    exact h _ _ es hes e he
  · cases he

end Finder

theorem Detector.labels_finder (d : Detector) : d.finder.Labels := by
  intro path root es h
  cases h
  exact forall_mem_discover fun _ _ _ _ _ => rfl

/-! ### All finders of a file -/

section finders
variable {file : SourceFile}

theorem mapM_find_eq_ok : ∀ {fs : List Finder}, (∀ f ∈ fs, ∀ reason, ¬ f.GaveUp file reason) →
    fs.mapM (fun f => f.find file.path file.root) = .ok (fs.map (Finder.found file))
  | [], _ => rfl
  | f :: fs, h => by
      have hrest := mapM_find_eq_ok fun g hg => h g (List.mem_cons_of_mem f hg)
      rw [List.mapM_cons, hrest, List.map_cons]
      cases hf : f.find file.path file.root with
      | ok es =>
          have hfound : f.found file = es := by rw [Finder.found, hf]
          rw [hfound]
          rfl
      | error reason => exact absurd hf (h f List.mem_cons_self reason)

theorem mapM_find_eq_error : ∀ {fs : List Finder}, (∃ f ∈ fs, ∃ reason, f.GaveUp file reason) →
    ∃ f ∈ fs, ∃ reason, f.GaveUp file reason ∧
      fs.mapM (fun f => f.find file.path file.root) = .error reason
  | [], h => by
      obtain ⟨f, hf, -⟩ := h
      cases hf
  | f :: fs, h => by
      rw [List.mapM_cons]
      cases hf : f.find file.path file.root with
      | error reason => exact ⟨f, List.mem_cons_self, reason, hf, rfl⟩
      | ok es =>
          have hrest : ∃ g ∈ fs, ∃ reason, g.GaveUp file reason := by
            obtain ⟨g, hg, reason, hgave⟩ := h
            rcases List.mem_cons.mp hg with rfl | hg
            · rw [Finder.GaveUp, hf] at hgave
              cases hgave
            · exact ⟨g, hg, reason, hgave⟩
          obtain ⟨g, hg, reason, hgave, herr⟩ := mapM_find_eq_error hrest
          refine ⟨g, List.mem_cons_of_mem f hg, reason, hgave, ?_⟩
          rw [herr]
          rfl

/-- The finders that accept a file. -/
def acceptedFor (file : SourceFile) (finders : List Finder) : List Finder :=
  finders.filter fun f => f.accepts file.imports

theorem discover_of_found {finders : List Finder}
    (h : ∀ f ∈ acceptedFor file finders, ∀ reason, ¬ f.GaveUp file reason) :
    discover finders file =
      .ok ⟨((acceptedFor file finders).flatMap (Finder.found file)).mergeSort Endpoint.comesBefore,
        (acceptedFor file finders).map (·.framework)⟩ := by
  unfold discover
  dsimp only
  rw [← acceptedFor, mapM_find_eq_ok h, List.flatMap_def]

theorem discover_of_gaveUp {finders : List Finder}
    (h : ∃ f ∈ acceptedFor file finders, ∃ reason, f.GaveUp file reason) :
    ∃ f ∈ acceptedFor file finders, ∃ reason, f.GaveUp file reason ∧
      discover finders file = .error (.failed reason) := by
  obtain ⟨f, hf, reason, hgave, herr⟩ := mapM_find_eq_error h
  refine ⟨f, hf, reason, hgave, ?_⟩
  unfold discover
  dsimp only
  rw [← acceptedFor, herr]

/-- Each class of ties comes from one finder, so it is the same in every order of the finders. -/
theorem filter_found_eq_of_perm {fs gs : List Finder} (hperm : fs.Perm gs)
    (hdistinct : (fs.map (·.framework)).Nodup) (hlabels : ∀ f ∈ fs, f.Labels) (a : Endpoint) :
    (fs.flatMap (Finder.found file)).filter (tied Endpoint.comesBefore a) =
      (gs.flatMap (Finder.found file)).filter (tied Endpoint.comesBefore a) := by
  rw [List.filter_flatMap, List.filter_flatMap]
  refine flatMap_eq_of_perm hperm ?_
  have hother : ∀ f ∈ fs, f.framework ≠ a.framework →
      (f.found file).filter (tied Endpoint.comesBefore a) = [] := by
    intro f hf hne
    rw [List.filter_eq_nil_iff]
    intro e he htie
    have hlabel := (hlabels f hf).framework_of_mem_found he
    exact hne (hlabel.symm.trans (Endpoint.framework_eq_of_tied htie).symm)
  refine (List.pairwise_map.mp hdistinct).imp_of_mem fun {f g} hf hg hne => ?_
  by_cases hfa : f.framework = a.framework
  · exact .inr (hother g hg fun hga => hne (hfa.trans hga.symm))
  · exact .inl (hother f hf hfa)

end finders

/-! ### Any order of the finders -/

/-- **The order of the finders never shows.** Two orders of finders of distinct frameworks discover
the same endpoints in a file, in the same order, and the same frameworks. If a finder that accepts
the file gives up, then in every order the file fails with the reason of such a finder, and nothing
that others found is kept. -/
theorem discovery_order_irrelevant (s : Scanner) (order : List Finder)
    (hperm : order.Perm s.finders) (hdistinct : (s.finders.map (·.framework)).Nodup)
    (hlabels : ∀ f ∈ s.finders, f.Labels) (file : SourceFile) :
    ((∀ f ∈ s.finders, f.accepts file.imports = true → ∀ reason, ¬ f.GaveUp file reason) →
      ∃ found found', discover s.finders file = .ok found ∧ discover order file = .ok found' ∧
        found'.endpoints = found.endpoints ∧
        ∀ framework, framework ∈ found'.frameworks ↔ framework ∈ found.frameworks) ∧
    ((∃ f ∈ s.finders, f.accepts file.imports = true ∧ ∃ reason, f.GaveUp file reason) →
      let scan := { s with finders := order }.scanLoaded file.path (.ok file)
      (∃ f ∈ s.finders, f.accepts file.imports = true ∧ ∃ reason, f.GaveUp file reason ∧
        Scanner.failureOf? scan = some (file.path, "analysis failed: " ++ reason)) ∧
      Scanner.endpointsOf scan = [] ∧ Scanner.frameworksOf scan = []) := by
  have hacc : (acceptedFor file order).Perm (acceptedFor file s.finders) := hperm.filter _
  have hmem : ∀ {f}, f ∈ acceptedFor file order ↔ f ∈ s.finders ∧ f.accepts file.imports = true :=
    fun {f} => hacc.mem_iff.trans List.mem_filter
  constructor
  · intro hok
    have hok' : ∀ f ∈ acceptedFor file order, ∀ reason, ¬ f.GaveUp file reason :=
      fun f hf => hok f (hmem.mp hf).1 (hmem.mp hf).2
    refine ⟨_, _, discover_of_found fun f hf => hok' f (hacc.mem_iff.mpr hf),
      discover_of_found hok', ?_, ?_⟩
    · refine mergeSort_eq_of_filter_eq Endpoint.comesBefore_trans Endpoint.comesBefore_total ?_
      intro a
      refine filter_found_eq_of_perm hacc ?_ (fun f hf => hlabels f (hmem.mp hf).1) a
      have hsub : List.Sublist ((acceptedFor file s.finders).map (·.framework))
          (s.finders.map (·.framework)) := List.filter_sublist.map _
      exact (hacc.map _).nodup_iff.mpr (hsub.nodup hdistinct)
    · intro framework
      exact (hacc.map _).mem_iff
  · rintro ⟨f, hf, haccepts, reason, hgave⟩
    obtain ⟨g, hg, reason', hgave', herr⟩ :=
      discover_of_gaveUp ⟨f, hmem.mpr ⟨hf, haccepts⟩, reason, hgave⟩
    have hscan : { s with finders := order }.scanLoaded file.path (.ok file) =
        ⟨file.path, .error (.failed reason')⟩ := by
      rw [Scanner.scanLoaded, Except.bind, herr]
    rw [hscan]
    exact ⟨⟨g, (hmem.mp hg).1, (hmem.mp hg).2, reason', hgave', rfl⟩, rfl, rfl⟩

/-- A file that imports two frameworks and registers `r.POST("/x", h)`. -/
def sharedFile : SourceFile where
  path := "main.go"
  root := postCall
  imports := [("github.com/gin-gonic/gin", "gin"), ("github.com/labstack/echo/v4", "echo")]

/-- A finder with the standard vocabulary. -/
def finderOf (g : Grammar) : Finder := Detector.finder ⟨g, .standard⟩

/-- Both frameworks report the call, and it does not show which was asked first; when one gives up,
neither is reported. -/
theorem shared_call_order_irrelevant :
    (∃ found found', discover [finderOf .gin, finderOf .echo] sharedFile = .ok found ∧
      discover [finderOf .echo, finderOf .gin] sharedFile = .ok found' ∧
      found'.endpoints = found.endpoints ∧ found.endpoints.length = 2) ∧
    (let s : Scanner := { finders := [finderOf .echo, (finderOf .gin).failing "no grammar"] }
      let scan := s.scanLoaded "main.go" (.ok sharedFile)
      Scanner.failureOf? scan = some ("main.go", "analysis failed: no grammar") ∧
        Scanner.endpointsOf scan = []) := by
  have hfinds : ∀ g reason, ¬ (finderOf g).GaveUp sharedFile reason := fun _ _ h => by cases h
  constructor
  · have hlabels : ∀ f ∈ [finderOf .gin, finderOf .echo], f.Labels := by
      simp only [List.forall_mem_cons]
      exact ⟨Detector.labels_finder _, Detector.labels_finder _, by simp⟩
    have hok : ∀ f ∈ [finderOf .gin, finderOf .echo], ∀ reason, ¬ f.GaveUp sharedFile reason := by
      simp only [List.forall_mem_cons]
      exact ⟨hfinds _, hfinds _, by simp⟩
    obtain ⟨hsame, -⟩ := discovery_order_irrelevant { finders := [finderOf .gin, finderOf .echo] }
      [finderOf .echo, finderOf .gin] (.swap _ _ _) (by decide) hlabels sharedFile
    obtain ⟨found, found', h, h', hend, -⟩ := hsame fun f hf _ => hok f hf
    refine ⟨found, found', h, h', hend, ?_⟩
    rw [discover_of_found fun f hf => hok f (List.mem_filter.mp hf).1] at h
    cases h
    rw [List.length_mergeSort]
    simp only [finderOf, Detector.finder, Detector.discover, Detector.readings,
      Detector.findGroups, Go.Node.walk_eq_preorder]
    decide +kernel
  · have hlabels : ∀ f ∈ [(finderOf .gin).failing "no grammar", finderOf .echo], f.Labels := by
      simp only [List.forall_mem_cons]
      exact ⟨Finder.labels_failing _ _, Detector.labels_finder _, by simp⟩
    obtain ⟨-, hfails⟩ := discovery_order_irrelevant
      { finders := [(finderOf .gin).failing "no grammar", finderOf .echo] }
      [finderOf .echo, (finderOf .gin).failing "no grammar"] (.swap _ _ _) (by decide) hlabels
      sharedFile
    obtain ⟨⟨f, hf, -, reason, hgave, hfailure⟩, hnone, -⟩ :=
      hfails ⟨_, List.mem_cons_self, by decide +kernel, "no grammar", rfl⟩
    refine ⟨hfailure.trans ?_, hnone⟩
    simp only [List.mem_cons, List.not_mem_nil, or_false] at hf
    rcases hf with rfl | rfl
    · cases hgave
      rfl
    · exact absurd hgave (hfinds _ _)

end RouteAudit
