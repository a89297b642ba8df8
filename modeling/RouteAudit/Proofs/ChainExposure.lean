import RouteAudit.Proofs.Extraction

/-! # The exposure of a route, read off its chains

A route stands in a group: the group has a chain `g` of middleware and the route a chain `r` of its
own. Two records are extracted, put together and classified. `chainExposure` decides the class from
the two chains alone, and `exposure_merge_extract` says that the decision is the class.

Between them stand the facts about a merged record: unless the route's own record is anonymous, each
of its parts is the part of the group's record joined with the part of the route's
(`requiresAuth_merge`, `values_merge`), and so it speaks about `g ++ r`. Who is admitted without
authentication is decided by the route's record alone once it says anything
(`allowsAnonymous_merge`). -/

namespace RouteAudit

/-! ### Merged records -/

namespace Authorization

variable {p c : Authorization}

theorem isConfigured_of_allowsAnonymous (h : c.allowsAnonymous = true) : c.isConfigured = true := by
  simp [isConfigured, h]

theorem allowsAnonymous_merge :
    (p.merge c).allowsAnonymous =
      if c.isConfigured then c.allowsAnonymous else p.allowsAnonymous := by
  cases h : c.allowsAnonymous with
  | true => simp [merge, h, isConfigured_of_allowsAnonymous h]
  | false => simp [merge, h]

section kept
variable {override : Bool} (h : (override && c.allowsAnonymous) = false)

include h

theorem requiresAuth_merge_of_kept :
    (p.merge c override).requiresAuth = (p.requiresAuth || c.requiresAuth) := by
  simp [merge, h]

theorem values_merge_of_kept (f : AuthField) :
    (p.merge c override).values f = firstSeen (p.values f ++ c.values f) := by
  cases f <;> simp [merge, h, values]

theorem isEmpty_values_merge_of_kept (f : AuthField) :
    ((p.merge c override).values f).isEmpty = ((p.values f).isEmpty && (c.values f).isEmpty) := by
  rw [values_merge_of_kept h, Bool.eq_iff_iff, Bool.and_eq_true, List.isEmpty_iff,
    List.isEmpty_iff, List.isEmpty_iff, firstSeen_eq_nil_iff, List.append_eq_nil_iff]

end kept

theorem requiresAuth_merge (h : c.allowsAnonymous = false) :
    (p.merge c).requiresAuth = (p.requiresAuth || c.requiresAuth) :=
  requiresAuth_merge_of_kept (by rw [h, Bool.and_false])

theorem values_merge (h : c.allowsAnonymous = false) (f : AuthField) :
    (p.merge c).values f = firstSeen (p.values f ++ c.values f) :=
  values_merge_of_kept (by rw [h, Bool.and_false]) f

theorem isEmpty_values_merge (h : c.allowsAnonymous = false) (f : AuthField) :
    ((p.merge c).values f).isEmpty = ((p.values f).isEmpty && (c.values f).isEmpty) :=
  isEmpty_values_merge_of_kept (by rw [h, Bool.and_false]) f

end Authorization

/-! ### The record of a route in its group -/

namespace Extractor

variable (x : Extractor) (g r : List Middleware)

theorem values_extractGroup (f : AuthField) :
    (x.extractGroup g).values f = (x.extract g).values f := by cases f <;> rfl

theorem allowsAnonymous_merge_extract :
    ((x.extractGroup g).merge (x.extract r)).allowsAnonymous =
      if r.any x.configures then r.any x.marks else g.any x.marks := by
  rw [Authorization.allowsAnonymous_merge, isConfigured_extract, allowsAnonymous_extract]
  have hg : (x.extractGroup g).allowsAnonymous = g.any x.marks := x.allowsAnonymous_extract g
  rw [hg]

section
variable {r} (h : r.any x.marks = false)

include h

theorem requiresAuth_merge_extract :
    ((x.extractGroup g).merge (x.extract r)).requiresAuth = (g ++ r).any x.authenticates := by
  have hg : (x.extractGroup g).requiresAuth = g.any x.authenticates := x.requiresAuth_extract g
  rw [Authorization.requiresAuth_merge (by rw [allowsAnonymous_extract, h]), hg,
    requiresAuth_extract, List.any_append]

theorem isEmpty_dependencies_merge_extract :
    ((x.extractGroup g).merge (x.extract r)).dependencies.isEmpty =
      !(g ++ r).any x.authenticates := by
  have hm := Authorization.isEmpty_values_merge (p := x.extractGroup g) (c := x.extract r)
    (by rw [allowsAnonymous_extract, h]) .dependencies
  rw [values_extractGroup] at hm
  simp only [Authorization.values, isEmpty_dependencies_extract] at hm
  rw [hm, List.any_append, Bool.not_or]

theorem isEmpty_values_merge_extract {f : AuthField} (hf : f ≠ .dependencies) :
    (((x.extractGroup g).merge (x.extract r)).values f).isEmpty =
      !(g ++ r).any (x.demands f) := by
  rw [Authorization.isEmpty_values_merge (by rw [allowsAnonymous_extract, h]),
    values_extractGroup, x.isEmpty_values_extract hf, x.isEmpty_values_extract hf,
    List.any_append, Bool.not_or]

theorem hasRequirements_merge_extract :
    ((x.extractGroup g).merge (x.extract r)).hasRequirements = (g ++ r).any x.demandsAny := by
  have hreq := Authorization.hasRequirements_of_isEmpty_values fun _ hf =>
    x.isEmpty_values_merge_extract g h hf
  rw [hreq, any_demandsAny]

end

/-! ### The decision -/

/-- The class of a route with chain `r` in a group with chain `g`. Anyone is admitted if the route
is marked, if the route says nothing and its group is marked, or if nothing protects the route. -/
def chainExposure : Exposure :=
  if r.any x.marks || (!r.any x.configures && g.any x.marks) || !(g ++ r).any x.protects then
    .anyone
  else if (g ++ r).any fun m =>
      x.demands .permissions m || x.demands .scopes m || x.demands .policies m then
    .policyRestricted
  else if (g ++ r).any (x.demands .roles) then .roleRestricted
  else .authenticated

/-- The route's own chain decides first; only a chain that says nothing leaves it to the group. -/
theorem allowsAnonymous_merge_extract_of_unmarked (h : r.any x.marks = false) :
    ((x.extractGroup g).merge (x.extract r)).allowsAnonymous =
      (!r.any x.configures && g.any x.marks) := by
  rw [allowsAnonymous_merge_extract, h]
  cases r.any x.configures <;> simp

/-- **The exposure decision.** The class of the record that is put together from the chains of a
group and of a route is the class that the chains decide. -/
theorem exposure_merge_extract :
    ((x.extractGroup g).merge (x.extract r)).exposure = x.chainExposure g r := by
  unfold Authorization.exposure chainExposure
  cases h : r.any x.marks with
  | true =>
      have hconf : r.any x.configures = true := by rw [any_configures, h, Bool.true_or]
      have hanon : ((x.extractGroup g).merge (x.extract r)).allowsAnonymous = true := by
        rw [allowsAnonymous_merge_extract, hconf, h, if_pos rfl]
      simp [hanon]
  | false =>
      have hr := x.isEmpty_values_merge_extract g h (f := .roles) (by decide)
      have hs := x.isEmpty_values_merge_extract g h (f := .scopes) (by decide)
      have hp := x.isEmpty_values_merge_extract g h (f := .permissions) (by decide)
      have hq := x.isEmpty_values_merge_extract g h (f := .policies) (by decide)
      simp only [Authorization.values] at hr hs hp hq
      rw [x.allowsAnonymous_merge_extract_of_unmarked g r h, x.requiresAuth_merge_extract g h,
        x.hasRequirements_merge_extract g h, x.isEmpty_dependencies_merge_extract g h, hr, hs, hp,
        hq, any_or, any_or, any_protects, any_demandsAny]
      -- what is left is the same ladder over the truth values of both sides
      generalize (!r.any x.configures && g.any x.marks) = anonymous
      generalize (g ++ r).any x.authenticates = authenticated
      generalize (g ++ r).any (x.demands .roles) = role
      generalize (g ++ r).any (x.demands .scopes) = scope
      generalize (g ++ r).any (x.demands .permissions) = permission
      generalize (g ++ r).any (x.demands .policies) = policy
      revert anonymous authenticated role scope permission policy
      decide

end Extractor

end RouteAudit
