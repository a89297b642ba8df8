import RouteAudit.Proofs.AuthPatterns
import RouteAudit.Proofs.UseScope

/-! # The form of discovered records

Nothing in the type of a record links its fields: a list field may repeat itself, and the source and
the inherited flag may say anything. The records of discovered endpoints are put together from the
chain `g` of a group and the chain `r` of a route, and there the fields hang together. `IsRecordOf`
collects the links.

The source of an extracted record tells whether its chain says anything (`source_extract`), because
a step changes the source exactly when its middleware does (`source_note`). Merging takes the
source of the route first and that of the group after it (`source_merge_extract`), and the merged
record says something exactly when one of the chains does (`isConfigured_merge_extract`). -/

namespace RouteAudit

/-! ### Sources -/

namespace Extractor

variable (x : Extractor)

theorem demandsAny_eq (m : Middleware) :
    x.demandsAny m = (!x.marks m && (x.passLiterals && !m.literals.isEmpty) &&
      (x.vocabulary.requirement? m.name).isSome) := by
  unfold demandsAny demands
  generalize (!x.marks m && (x.passLiterals && !m.literals.isEmpty)) = counts
  cases hr : x.vocabulary.requirement? m.name with
  | none => simp
  | some f =>
      cases f with
      | dependencies => exact absurd hr (requirement?_ne_dependencies _ _)
      | _ => cases counts <;> decide

theorem source_noteAuth (a : Authorization) (m : Middleware) :
    (x.noteAuth a m).source =
      if x.vocabulary.isAuth m.name then .middleware else a.source := by
  unfold noteAuth
  split <;> rfl

theorem source_noteLiterals (a : Authorization) (m : Middleware) :
    (x.noteLiterals a m).source =
      if (x.passLiterals && !m.literals.isEmpty && (x.vocabulary.requirement? m.name).isSome) = true
      then .middleware else a.source := by
  unfold noteLiterals
  split
  · rename_i hl
    rw [hl]
    cases x.vocabulary.requirement? m.name <;> rfl
  · rename_i hl
    rw [Bool.not_eq_true] at hl
    rw [hl]
    rfl

theorem source_note (a : Authorization) (m : Middleware) :
    (x.note a m).source = if x.configures m then .middleware else a.source := by
  unfold configures protects note
  rw [demandsAny_eq]
  cases hm : x.marks m with
  | true =>
      rw [if_pos (by exact hm)]
      rfl
  | false =>
      have hanon : ¬x.vocabulary.isAnonymous m.name = true := by
        rw [Bool.not_eq_true]
        exact hm
      rw [if_neg hanon, source_noteLiterals, source_noteAuth]
      simp only [authenticates, hm, Bool.not_false, Bool.true_and, Bool.false_or]
      cases x.vocabulary.isAuth m.name with
      | true => simp
      | false => simp

theorem source_foldl_note (chain : List Middleware) : ∀ a : Authorization,
    (chain.foldl x.note a).source = if chain.any x.configures then .middleware else a.source := by
  induction chain with
  | nil => intro a; rfl
  | cons m rest ih =>
      intro a
      rw [List.foldl_cons, ih, source_note, List.any_cons]
      cases x.configures m <;> cases rest.any x.configures <;> rfl

theorem source_extract (chain : List Middleware) :
    (x.extract chain).source = if chain.any x.configures then .middleware else .unset :=
  x.source_foldl_note chain {}

theorem source_extractGroup (g : List Middleware) :
    (x.extractGroup g).source = if g.any x.configures then .router else .unset := by
  show (if (x.extract g).isConfigured then .router else (x.extract g).source) = _
  rw [isConfigured_extract, source_extract]
  split <;> rfl

end Extractor

/-! ### Merged records -/

namespace Authorization

theorem source_merge (p c : Authorization) :
    (p.merge c).source = if c.source = .unset then p.source else c.source := by
  unfold merge
  dsimp only
  split <;> rfl

theorem inherited_merge (p c : Authorization) :
    (p.merge c).inherited = (p.inherited && !c.requiresAuth) := by
  unfold merge
  dsimp only
  split <;> rfl

theorem nodup_values_merge (p c : Authorization) (f : AuthField) :
    ((p.merge c).values f).Nodup := by
  cases h : c.allowsAnonymous with
  | true =>
      rw [(merge_of_allowsAnonymous h).2.2]
      exact List.nodup_nil
  | false =>
      rw [values_merge h]
      exact nodup_firstSeen _

end Authorization

namespace Extractor

variable (x : Extractor) (g r : List Middleware)

/-- The route's own chain names the source; one that says nothing leaves it to the group. -/
theorem source_merge_extract :
    ((x.extractGroup g).merge (x.extract r)).source =
      if r.any x.configures then .middleware
      else if g.any x.configures then .router else .unset := by
  rw [Authorization.source_merge, source_extract, source_extractGroup]
  cases r.any x.configures <;> rfl

theorem inherited_merge_extract :
    ((x.extractGroup g).merge (x.extract r)).inherited =
      ((x.extract g).requiresAuth && !(x.extract r).requiresAuth) :=
  Authorization.inherited_merge ..

theorem isConfigured_merge_extract :
    ((x.extractGroup g).merge (x.extract r)).isConfigured = (g ++ r).any x.configures := by
  cases h : r.any x.marks with
  | true =>
      have hconf : r.any x.configures = true := by rw [any_configures, h, Bool.true_or]
      rw [List.any_append, hconf, Bool.or_true]
      refine Authorization.isConfigured_of_allowsAnonymous ?_
      rw [allowsAnonymous_merge_extract, hconf, if_pos rfl, h]
  | false =>
      rw [Authorization.isConfigured, x.requiresAuth_merge_extract g h,
        x.allowsAnonymous_merge_extract_of_unmarked g r h,
        x.isEmpty_dependencies_merge_extract g h, x.hasRequirements_merge_extract g h,
        any_configures, any_configures, any_protects, any_protects, List.any_append,
        List.any_append, List.any_append, h]
      -- a group's marker may lose its effect only to a route that protects itself
      generalize g.any x.marks = marked
      generalize g.any x.authenticates = groupAuth
      generalize r.any x.authenticates = routeAuth
      generalize g.any x.demandsAny = groupDemand
      generalize r.any x.demandsAny = routeDemand
      revert marked groupAuth routeAuth groupDemand routeDemand
      decide

end Extractor

/-! ### The form of a record -/

/-- The links between the fields of a record that comes from the chain `g` of a group and the chain
`r` of a route. -/
structure Authorization.IsRecordOf (x : Extractor) (g r : List Middleware) (a : Authorization) :
    Prop where
  distinct : a.roles.Nodup ∧ a.scopes.Nodup ∧ a.permissions.Nodup ∧ a.policies.Nodup ∧
    a.dependencies.Nodup
  dependencies : a.requiresAuth = true ↔ a.dependencies ≠ []
  unset : a.source = .unset ↔ a.isConfigured = false
  middleware : a.source = .middleware ↔ (x.extract r).isConfigured = true
  router : a.source = .router ↔
    (x.extract g).isConfigured = true ∧ (x.extract r).isConfigured = false
  inherited : a.inherited = true ↔
    (x.extract g).requiresAuth = true ∧ (x.extract r).requiresAuth = false
  /-- What a group requires is kept, or the route admits anyone. -/
  kept : a.inherited = true → a.requiresAuth = true ∨ a.allowsAnonymous = true

theorem Authorization.requiresAuth_iff_of_consistent {a : Authorization} (h : a.Consistent) :
    a.requiresAuth = true ↔ a.dependencies ≠ [] := by
  unfold Consistent at h
  rw [← List.isEmpty_eq_false_iff, h, Bool.not_eq_false']

/-- Extraction and merging lead to records of this form. -/
theorem Extractor.isRecordOf_merge_extract (x : Extractor) (g r : List Middleware) :
    Authorization.IsRecordOf x g r ((x.extractGroup g).merge (x.extract r)) where
  distinct :=
    have hnodup := Authorization.nodup_values_merge (x.extractGroup g) (x.extract r)
    ⟨hnodup .roles, hnodup .scopes, hnodup .permissions, hnodup .policies, hnodup .dependencies⟩
  dependencies := Authorization.requiresAuth_iff_of_consistent (x.consistent_merge_extract g r)
  unset := by
    rw [source_merge_extract, isConfigured_merge_extract, List.any_append]
    cases r.any x.configures <;> cases g.any x.configures <;> decide
  middleware := by
    rw [source_merge_extract, isConfigured_extract]
    cases r.any x.configures <;> cases g.any x.configures <;> decide
  router := by
    rw [source_merge_extract, isConfigured_extract, isConfigured_extract]
    cases r.any x.configures <;> cases g.any x.configures <;> decide
  inherited := by
    rw [inherited_merge_extract, Bool.and_eq_true, Bool.not_eq_true']
  kept := by
    intro h
    rw [inherited_merge_extract, Bool.and_eq_true, requiresAuth_extract] at h
    cases hmarks : r.any x.marks with
    | true =>
        right
        exact (Authorization.merge_of_allowsAnonymous (by rw [allowsAnonymous_extract, hmarks])).1
    | false =>
        left
        rw [x.requiresAuth_merge_extract g hmarks, List.any_append, h.1, Bool.true_or]

/-- **Discovered records are well formed.** Every endpoint that a detector finds in a tree is that
of a call in the tree. Its middleware and its record are made of the chain of the group that the
call's receiver means and the chain of the route, and the record has the form that these chains give
it. -/
theorem discovered_record_well_formed (d : Detector) (path : String) (root : Go.Node) (e : Endpoint)
    (he : e ∈ d.discover path root) :
    ∃ call ∈ root.walk, ∃ reg, d.registration? call = some reg ∧
      e = d.registered path (d.findGroups root) call reg ∧
      e.middleware =
        (Detector.groupChain (d.findGroups root) call reg ++ d.routeChain reg).map (·.name) ∧
      e.authorization.IsRecordOf d.extractor (Detector.groupChain (d.findGroups root) call reg)
        (d.routeChain reg) := by
  obtain ⟨call, hcall, -, reg, hreg, rfl⟩ := Detector.mem_discover_iff.mp he
  refine ⟨call, hcall, reg, hreg, rfl, Detector.middleware_registered .., ?_⟩
  rw [Detector.authorization_registered]
  exact d.extractor.isRecordOf_merge_extract _ _

/-- The endpoint of a route in a group that authenticates. -/
def guardedEndpoint : Endpoint where
  route := "/me"
  methods := [.get]
  filePath := "main.go"
  line := 1
  framework := .chi
  handler := "h"
  middleware := ["Auth"]
  authorization :=
    { requiresAuth := true, dependencies := ["Auth"], inherited := true, source := .router }

/-- It is found, its record comes from two chains, and the group's chain alone says something. -/
theorem guarded_record_well_formed :
    guardedEndpoint ∈ ({ grammar := .chi } : Detector).discover "main.go" Detector.groupCall ∧
      ∃ g r, guardedEndpoint.middleware = (g ++ r).map Middleware.name ∧
        (Extractor.extract ⟨.standard, true⟩ g).requiresAuth = true ∧
        (Extractor.extract ⟨.standard, true⟩ r).isConfigured = false := by
  have hmem : guardedEndpoint ∈
      ({ grammar := .chi } : Detector).discover "main.go" Detector.groupCall := by
    simp only [Detector.discover, Detector.readings, Detector.findGroups, Go.Node.walk_eq_preorder]
    decide +kernel
  obtain ⟨call, -, reg, -, -, hnames, hform⟩ := discovered_record_well_formed _ _ _ _ hmem
  exact ⟨hmem, _, _, hnames, (hform.inherited.mp rfl).1, (hform.router.mp rfl).2⟩

end RouteAudit
