import RouteAudit.Proofs.RecordForm

/-! # Which routes are accused of a conflict

The rule AP003 reports a route that admits anyone against the authentication of its group. It sees
one record for both, with one flag for anonymous access and one for what is inherited. Where the
route is marked itself, the flags mean what the rule says. A route that says nothing takes over the
marker of its group, though, and if that group authenticates as well, both flags are set and the
rule accuses a route that overrides nothing.

`fires_AP003_iff_chains` says in terms of the two chains when the rule objects, and
`conflict_accuses_route_iff` that this is the one case in which the route is not to blame. -/

namespace RouteAudit

theorem fires_AP003_iff {e : Endpoint} :
    Fires "AP003" e ↔
      e.authorization.allowsAnonymous = true ∧ e.authorization.inherited = true := by
  rw [← Bool.and_eq_true]
  exact fires_id_iff (r := .groupConflict) (by decide)

namespace Extractor

variable (x : Extractor)

theorem marks_and_authenticates_of_silent {m : Middleware} (h : x.configures m = false) :
    x.marks m = false ∧ x.authenticates m = false := by
  rw [configures, protects, Bool.or_eq_false_iff, Bool.or_eq_false_iff] at h
  exact ⟨h.1, h.2.1⟩

theorem allowsAnonymous_merge_extract_iff (g r : List Middleware) :
    ((x.extractGroup g).merge (x.extract r)).allowsAnonymous = true ↔
      (∃ m ∈ r, x.marks m = true) ∨
        (∃ m ∈ g, x.marks m = true) ∧ ∀ m ∈ r, x.configures m = false := by
  rw [allowsAnonymous_merge_extract]
  cases hconf : r.any x.configures with
  | true =>
      obtain ⟨m, hm, hmconf⟩ := List.any_eq_true.mp hconf
      rw [if_pos rfl, List.any_eq_true]
      refine ⟨.inl, ?_⟩
      rintro (hmarked | ⟨-, hsilent⟩)
      · exact hmarked
      · rw [hsilent m hm] at hmconf
        cases hmconf
  | false =>
      have hsilent : ∀ m ∈ r, x.configures m = false := by simpa using hconf
      rw [if_neg Bool.false_ne_true, List.any_eq_true]
      refine ⟨fun hmarked => .inr ⟨hmarked, hsilent⟩, ?_⟩
      rintro (⟨m, hm, hmarks⟩ | ⟨hmarked, -⟩)
      · rw [(x.marks_and_authenticates_of_silent (hsilent m hm)).1] at hmarks
        cases hmarks
      · exact hmarked

theorem inherited_merge_extract_iff (g r : List Middleware) :
    ((x.extractGroup g).merge (x.extract r)).inherited = true ↔
      (∃ m ∈ g, x.authenticates m = true) ∧ ∀ m ∈ r, x.authenticates m = false := by
  rw [inherited_merge_extract, requiresAuth_extract, requiresAuth_extract, Bool.and_eq_true,
    List.any_eq_true, Bool.not_eq_true']
  simp

end Extractor

/-- The rule objects when the group authenticates, the route does not, and the route is marked or
leaves it to a group that is marked. -/
theorem fires_AP003_iff_chains {x : Extractor} {g r : List Middleware} {e : Endpoint}
    (h : e.authorization = (x.extractGroup g).merge (x.extract r)) :
    Fires "AP003" e ↔
      (∃ m ∈ g, x.authenticates m = true) ∧ (∀ m ∈ r, x.authenticates m = false) ∧
        ((∃ m ∈ r, x.marks m = true) ∨
          (∃ m ∈ g, x.marks m = true) ∧ ∀ m ∈ r, x.configures m = false) := by
  rw [fires_AP003_iff, h, x.allowsAnonymous_merge_extract_iff, x.inherited_merge_extract_iff]
  constructor
  · rintro ⟨hanon, hgroup, hroute⟩
    exact ⟨hgroup, hroute, hanon⟩
  · rintro ⟨hgroup, hroute, hanon⟩
    exact ⟨hanon, hgroup, hroute⟩

/-- **When a conflict is the route's.** Let the record of an endpoint be put together from the chain
`g` of a group and the chain `r` of a route. AP003 objects to it when the group authenticates, the
route does not, and the route is marked or says nothing in a group that is marked. So an objection
means that the route has a marker and the group authenticates, with one exception: the group has
both and the route says nothing. -/
theorem conflict_accuses_route_iff (x : Extractor) (g r : List Middleware) (e : Endpoint)
    (h : e.authorization = (x.extractGroup g).merge (x.extract r)) :
    (Fires "AP003" e ↔
      (∃ m ∈ g, x.authenticates m = true) ∧ (∀ m ∈ r, x.authenticates m = false) ∧
        ((∃ m ∈ r, x.marks m = true) ∨
          (∃ m ∈ g, x.marks m = true) ∧ ∀ m ∈ r, x.configures m = false)) ∧
    ((Fires "AP003" e → (∃ m ∈ r, x.marks m = true) ∧ ∃ m ∈ g, x.authenticates m = true) ↔
      ¬((∃ m ∈ g, x.authenticates m = true) ∧ (∃ m ∈ g, x.marks m = true) ∧
        ∀ m ∈ r, x.configures m = false)) := by
  have hfires := fires_AP003_iff_chains h
  refine ⟨hfires, ?_, ?_⟩
  · rintro himp ⟨hauth, hmarked, hsilent⟩
    have hroute : ∀ m ∈ r, x.authenticates m = false := fun m hm =>
      (x.marks_and_authenticates_of_silent (hsilent m hm)).2
    obtain ⟨⟨m, hm, hmarks⟩, -⟩ := himp (hfires.mpr ⟨hauth, hroute, .inr ⟨hmarked, hsilent⟩⟩)
    rw [(x.marks_and_authenticates_of_silent (hsilent m hm)).1] at hmarks
    cases hmarks
  · intro hnot hfired
    obtain ⟨hauth, -, hroute | ⟨hmarked, hsilent⟩⟩ := hfires.mp hfired
    · exact ⟨hroute, hauth⟩
    · exact absurd ⟨hauth, hmarked, hsilent⟩ hnot

/-- An endpoint whose record comes from the chains of a group and of a route. -/
def conflictEndpoint (g r : List Middleware) : Endpoint where
  route := "/x"
  methods := [.get]
  filePath := "main.go"
  line := 1
  authorization := (Extractor.extractGroup ⟨.standard, true⟩ g).merge
    (Extractor.extract ⟨.standard, true⟩ r)

/-- A route that opts out of the authentication of its group is accused, and is to blame. -/
theorem opt_out_accused :
    Fires "AP003" (conflictEndpoint [⟨"Auth", []⟩] [⟨"Public", []⟩]) ∧
      (∃ m ∈ [(⟨"Public", []⟩ : Middleware)], Extractor.marks ⟨.standard, true⟩ m = true) ∧
      ∃ m ∈ [(⟨"Auth", []⟩ : Middleware)], Extractor.authenticates ⟨.standard, true⟩ m = true := by
  have hfires : Fires "AP003" (conflictEndpoint [⟨"Auth", []⟩] [⟨"Public", []⟩]) :=
    fires_AP003_iff.mpr (by decide +kernel)
  obtain ⟨-, hiff⟩ := conflict_accuses_route_iff ⟨.standard, true⟩ [⟨"Auth", []⟩] [⟨"Public", []⟩]
    (conflictEndpoint [⟨"Auth", []⟩] [⟨"Public", []⟩]) rfl
  exact ⟨hfires, hiff.mpr (by decide +kernel) hfires⟩

/-- In a group with both `Auth` and `Public`, a route with nothing but a logger is accused. -/
theorem silent_route_accused :
    ¬(Fires "AP003" (conflictEndpoint [⟨"Auth", []⟩, ⟨"Public", []⟩] [⟨"Logger", []⟩]) →
      (∃ m ∈ [(⟨"Logger", []⟩ : Middleware)], Extractor.marks ⟨.standard, true⟩ m = true) ∧
      ∃ m ∈ [(⟨"Auth", []⟩ : Middleware), ⟨"Public", []⟩],
        Extractor.authenticates ⟨.standard, true⟩ m = true) := by
  intro himp
  have hfires : Fires "AP003"
      (conflictEndpoint [⟨"Auth", []⟩, ⟨"Public", []⟩] [⟨"Logger", []⟩]) :=
    fires_AP003_iff.mpr (by decide +kernel)
  exact absurd (himp hfires).1 (by decide +kernel)

end RouteAudit
