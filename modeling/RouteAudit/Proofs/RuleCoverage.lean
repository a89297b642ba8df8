import RouteAudit.Proofs.CallReading
import RouteAudit.Proofs.ChainExposure
import RouteAudit.Proofs.SyntaxTree
import RouteAudit.Rule.Engine

/-! # Every unprotected endpoint is reported

The rules look at more of a record than its class does: the class ignores the authentication
dependencies of a record that requires no authentication, the rules count them as protection. On an
arbitrary record an endpoint could be open to anyone and escape every rule. The records of
discovered endpoints are not arbitrary. They are put together from the chains of a group and of a
route (`exists_chains_of_mem_discover`), and in such a record there are dependencies exactly when
authentication is required (`consistent_merge_extract`). For consistent records the class and the
rules agree (`exposure_eq_anyone_iff`), and each discovered endpoint is accounted for
(`discovered_endpoint_accounted`). -/

namespace RouteAudit

/-! ### Consistent records -/

namespace Authorization

/-- There are authentication dependencies exactly when authentication is required. -/
def Consistent (a : Authorization) : Prop := a.dependencies.isEmpty = !a.requiresAuth

/-- A consistent record admits anyone exactly when it is anonymous or nothing protects it. -/
theorem exposure_eq_anyone_iff {a : Authorization} (h : a.Consistent) :
    a.exposure = .anyone ↔ a.allowsAnonymous = true ∨ a.hasSignal = false := by
  unfold Consistent at h
  unfold exposure hasSignal hasRequirements
  rw [h]
  cases a.allowsAnonymous <;> cases a.requiresAuth <;> cases a.roles.isEmpty <;>
    cases a.scopes.isEmpty <;> cases a.permissions.isEmpty <;> cases a.policies.isEmpty <;> decide

end Authorization

theorem Extractor.consistent_merge_extract (x : Extractor) (g r : List Middleware) :
    ((x.extractGroup g).merge (x.extract r)).Consistent := by
  unfold Authorization.Consistent
  cases h : r.any x.marks with
  | true =>
      have hanon : (x.extract r).allowsAnonymous = true := by rw [x.allowsAnonymous_extract, h]
      simp [Authorization.merge, hanon]
  | false => rw [x.isEmpty_dependencies_merge_extract g h, x.requiresAuth_merge_extract g h]

/-! ### Discovered endpoints -/

namespace Detector

variable (d : Detector)

theorem exists_chains_of_mem_discover {path : String} {root : Go.Node} {e : Endpoint}
    (h : e ∈ d.discover path root) :
    ∃ g r, e.authorization = (d.extractor.extractGroup g).merge (d.extractor.extract r) := by
  refine forall_mem_discover (P := fun e => ∃ g r, e.authorization =
    (d.extractor.extractGroup g).merge (d.extractor.extract r)) ?_ e h
  intro call target route methods args
  exact ⟨_, _, rfl⟩

theorem consistent_of_mem_discover {path : String} {root : Go.Node} {e : Endpoint}
    (h : e ∈ d.discover path root) : e.authorization.Consistent := by
  obtain ⟨g, r, hgr⟩ := d.exists_chains_of_mem_discover h
  rw [hgr]
  exact d.extractor.consistent_merge_extract g r

end Detector

/-! ### Rules that fire -/

/-- The rules of the catalogue make a finding with this identifier of the endpoint. -/
def Fires (id : String) (e : Endpoint) : Prop := ∃ f ∈ RuleSet.evaluate {} e, f.ruleId = id

theorem mem_evaluate_catalogue {e : Endpoint} {f : Finding} :
    f ∈ RuleSet.evaluate {} e ↔ ∃ r ∈ Rule.catalogue, r.objects e = true ∧ f = r.finding e := by
  have hactive : RuleSet.active {} = Rule.catalogue.map Rule.check :=
    List.filter_eq_self.mpr fun _ _ => rfl
  rw [RuleSet.evaluate, hactive, List.flatMap_map, List.mem_flatMap]
  simp only [Rule.check, Rule.mem_evaluate_iff]

theorem fires_iff {id : String} {e : Endpoint} :
    Fires id e ↔ ∃ r ∈ Rule.catalogue, r.id = id ∧ r.objects e = true := by
  unfold Fires
  simp only [mem_evaluate_catalogue]
  constructor
  · rintro ⟨f, ⟨r, hr, hobj, rfl⟩, hid⟩
    exact ⟨r, hr, hid, hobj⟩
  · rintro ⟨r, hr, hid, hobj⟩
    exact ⟨r.finding e, ⟨r, hr, hobj, rfl⟩, hid⟩

theorem fires_id_iff {r : Rule} (hr : r ∈ Rule.catalogue) {e : Endpoint} :
    Fires r.id e ↔ r.objects e = true := by
  rw [fires_iff]
  constructor
  · rintro ⟨s, hs, hid, hobj⟩
    have hinj : ∀ a ∈ Rule.catalogue, ∀ b ∈ Rule.catalogue, a.id = b.id → a = b := by decide
    rwa [← hinj s hs r hr hid]
  · intro h
    exact ⟨r, hr, rfl, h⟩

/-! ### Coverage -/

section coverage
variable {e : Endpoint} (hclass : e.exposure = e.authorization.exposure)

include hclass

theorem exposure_eq_anyone_of_allowsAnonymous (h : e.authorization.allowsAnonymous = true) :
    e.exposure = .anyone := by
  rw [hclass, Authorization.exposure, if_pos h]

theorem isSilentlyPublic_iff (hcons : e.authorization.Consistent) :
    Rule.isSilentlyPublic e = true ↔
      e.exposure = .anyone ∧ e.authorization.allowsAnonymous = false := by
  simp only [Rule.isSilentlyPublic, Bool.and_eq_true, beq_iff_eq, Bool.not_eq_true']
  constructor
  · rintro ⟨h, -⟩
    exact h
  · rintro ⟨hany, hanon⟩
    refine ⟨⟨hany, hanon⟩, ?_⟩
    rw [hclass, Authorization.exposure_eq_anyone_iff hcons, hanon] at hany
    simpa using hany

/-- A rule that objects to an endpoint not open to anyone is about its roles. -/
theorem id_of_objects_of_restricted (h : e.exposure ≠ .anyone) {r : Rule}
    (hobj : r.objects e = true) : r.id = "AP005" ∨ r.id = "AP006" := by
  have hanon : e.authorization.allowsAnonymous = false := by
    by_contra hne
    exact h (exposure_eq_anyone_of_allowsAnonymous hclass (by simpa using hne))
  have hsilent : Rule.isSilentlyPublic e = false := by simp [Rule.isSilentlyPublic, h]
  cases r with
  | publicWithoutIntent => simp [Rule.objects, hsilent] at hobj
  | anonymousWrite => simp [Rule.objects, hanon] at hobj
  | groupConflict => simp [Rule.objects, hanon] at hobj
  | unprotectedWrite => simp [Rule.objects, hsilent] at hobj
  | excessiveRoles limit => exact .inl rfl
  | weakRoleNames names => exact .inr rfl
  | sensitiveRoute keywords => simp [Rule.objects, h] at hobj
  | withoutAuthentication => simp [Rule.objects, hsilent] at hobj

end coverage

theorem fires_AP001_iff {e : Endpoint} : Fires "AP001" e ↔ Rule.isSilentlyPublic e = true :=
  fires_id_iff (r := .publicWithoutIntent) (by decide)

theorem fires_AP002_iff {e : Endpoint} :
    Fires "AP002" e ↔ e.isWrite = true ∧ e.authorization.allowsAnonymous = true := by
  rw [← Bool.and_eq_true]
  exact fires_id_iff (r := .anonymousWrite) (by decide)

theorem fires_AP004_iff {e : Endpoint} :
    Fires "AP004" e ↔ e.isWrite = true ∧ Rule.isSilentlyPublic e = true := by
  rw [← Bool.and_eq_true]
  exact fires_id_iff (r := .unprotectedWrite) (by decide)

theorem fires_AP008_iff {e : Endpoint} : Fires "AP008" e ↔ Rule.isSilentlyPublic e = true :=
  fires_id_iff (r := .withoutAuthentication) (by decide)

/-- **No unprotected endpoint is silent and no protected one is accused.** An endpoint that a
detector finds in a tree and that is then classified: if it is open to anyone without a marker, the
rules for unprotected endpoints object, the one for writes exactly when it is a write; of the two
rules for open writes exactly one objects; the two rules for silent endpoints go together; and an
endpoint that is not open to anyone is reported for its roles at most. -/
theorem discovered_endpoint_accounted (d : Detector) (path : String) (root : Go.Node)
    (e : Endpoint) (he : e ∈ (d.discover path root).map Endpoint.classified) :
    (e.exposure = .anyone →
      e.authorization.allowsAnonymous = true ∨
        Fires "AP001" e ∧ Fires "AP008" e ∧ (Fires "AP004" e ↔ e.isWrite = true)) ∧
    (e.exposure = .anyone → e.isWrite = true → Xor (Fires "AP002" e) (Fires "AP004" e)) ∧
    (Fires "AP001" e ↔ Fires "AP008" e) ∧
    (e.exposure ≠ .anyone →
      ∀ f ∈ RuleSet.evaluate {} e, f.ruleId = "AP005" ∨ f.ruleId = "AP006") := by
  obtain ⟨e₀, he₀, rfl⟩ := List.mem_map.mp he
  have hclass : e₀.classified.exposure = e₀.classified.authorization.exposure := rfl
  have hcons : e₀.classified.authorization.Consistent := by
    show e₀.authorization.Consistent
    exact d.consistent_of_mem_discover he₀
  have hsilent := isSilentlyPublic_iff hclass hcons
  rw [fires_AP001_iff, fires_AP002_iff, fires_AP004_iff, fires_AP008_iff, hsilent]
  refine ⟨?_, ?_, Iff.rfl, ?_⟩
  · intro hany
    cases hanon : e₀.classified.authorization.allowsAnonymous with
    | true => exact .inl rfl
    | false => exact .inr ⟨⟨hany, rfl⟩, ⟨hany, rfl⟩, fun h => h.1, fun h => ⟨h, hany, rfl⟩⟩
  · intro hany hwrite
    cases hanon : e₀.classified.authorization.allowsAnonymous with
    | true => exact .inl ⟨⟨hwrite, rfl⟩, fun h => by cases h.2.2⟩
    | false => exact .inr ⟨⟨hwrite, hany, rfl⟩, fun h => by cases h.2⟩
  · intro hne f hf
    obtain ⟨r, -, hobj, rfl⟩ := mem_evaluate_catalogue.mp hf
    exact id_of_objects_of_restricted hclass hne hobj

/-- The tree of `r.POST("/x", h)`. -/
def postCall : Go.Node :=
  .mk { kind := .call, span := ⟨0, 15⟩ }
    [.mk { kind := .selector, role := some .function, span := ⟨0, 6⟩ }
      [.mk { kind := .identifier, role := some .operand, span := ⟨0, 1⟩, text := "r" } [],
       .mk { kind := .fieldIdentifier, role := some .field, span := ⟨2, 6⟩, text := "POST" } []],
     .mk { kind := .other "argument_list", role := some .arguments, span := ⟨6, 15⟩ }
      [.mk { kind := .interpretedString, span := ⟨7, 11⟩, text := "\"/x\"" } [],
       .mk { kind := .identifier, span := ⟨13, 14⟩, text := "h" } []]]

/-- The endpoint that it registers. -/
def postEndpoint : Endpoint where
  route := "/x"
  methods := [.post]
  filePath := "main.go"
  line := 1
  framework := .gin
  handler := "h"

theorem unprotected_post_accounted :
    postEndpoint ∈ (({ grammar := .gin } : Detector).discover "main.go" postCall).map
        Endpoint.classified ∧
      Fires "AP001" postEndpoint ∧ Fires "AP008" postEndpoint ∧ Fires "AP004" postEndpoint := by
  have hmem : postEndpoint ∈
      (({ grammar := .gin } : Detector).discover "main.go" postCall).map Endpoint.classified := by
    simp only [Detector.discover, Detector.readings, Detector.findGroups, Go.Node.walk_eq_preorder]
    decide +kernel
  obtain ⟨hpublic, -⟩ := discovered_endpoint_accounted _ _ _ postEndpoint hmem
  rcases hpublic rfl with hanon | ⟨h₁, h₈, h₄⟩
  · cases hanon
  · exact ⟨hmem, h₁, h₈, h₄.mpr (by decide)⟩

end RouteAudit
