import RouteAudit.Proofs.AuthPatterns

/-! # Merging never weakens

The records of a group and of a route are any two records here, extracted or not. The class of a
record is decided in two steps: a marker opens it to anyone, and without a marker the class goes by
the record's `strength`, the rank of the most that it demands (`rank_exposure`). A merged record
that keeps the demands of both is as strong as the stronger of the two (`strength_merge`), and it
has a marker only if both records are open to anyone (`exposure_of_merge_marked`). So its class is
never below the class of either. The one way to lose protection is a marker of the route that
overrides the group, and then nothing is left of any demand. -/

namespace RouteAudit.Authorization

/-! ### Strength -/

/-- The record demands a policy, a permission or a scope. -/
def demandsPolicy (a : Authorization) : Bool :=
  !a.policies.isEmpty || !a.permissions.isEmpty || !a.scopes.isEmpty

/-- The rank of the most that a record demands, whether it has a marker or not. -/
def strength (a : Authorization) : ℕ :=
  if a.demandsPolicy then 3
  else if !a.roles.isEmpty then 2
  else if a.requiresAuth then 1
  else 0

theorem rank_exposure (a : Authorization) :
    a.exposure.rank = if a.allowsAnonymous then 0 else a.strength := by
  rw [exposure_eq_ladder, strength, demandsPolicy]
  split
  · rfl
  · split
    · rfl
    · split
      · rfl
      · split <;> rfl

theorem rank_exposure_le_strength (a : Authorization) : a.exposure.rank ≤ a.strength := by
  rw [rank_exposure]
  split
  · exact Nat.zero_le _
  · exact Nat.le_refl _

theorem exposure_of_marked {a : Authorization} (h : a.allowsAnonymous = true) :
    a.exposure = .anyone := by
  rw [exposure, if_pos h]

theorem exposure_of_not_isConfigured {a : Authorization} (h : a.isConfigured = false) :
    a.exposure = .anyone := by
  simp only [isConfigured, Bool.or_eq_false_iff] at h
  obtain ⟨⟨⟨hauth, hanon⟩, -⟩, hreq⟩ := h
  simp [exposure, hauth, hanon, hreq]

/-! ### Merged records -/

section kept
variable {p c : Authorization} {override : Bool} (h : (override && c.allowsAnonymous) = false)

include h

theorem demandsPolicy_merge :
    (p.merge c override).demandsPolicy = (p.demandsPolicy || c.demandsPolicy) := by
  have hpolicies := isEmpty_values_merge_of_kept (p := p) h .policies
  have hpermissions := isEmpty_values_merge_of_kept (p := p) h .permissions
  have hscopes := isEmpty_values_merge_of_kept (p := p) h .scopes
  simp only [values] at hpolicies hpermissions hscopes
  unfold demandsPolicy
  rw [hpolicies, hpermissions, hscopes]
  simp only [Bool.not_and]
  ac_rfl

/-- The demands of both records count, and so the greater one decides. -/
theorem strength_merge : (p.merge c override).strength = max p.strength c.strength := by
  have hroles := isEmpty_values_merge_of_kept (p := p) h .roles
  simp only [values] at hroles
  unfold strength
  rw [demandsPolicy_merge h, hroles, requiresAuth_merge_of_kept h]
  -- what is left is a ladder over three facts about each record
  generalize p.demandsPolicy = policy
  generalize c.demandsPolicy = policy'
  generalize p.roles.isEmpty = free
  generalize c.roles.isEmpty = free'
  generalize p.requiresAuth = authenticated
  generalize c.requiresAuth = authenticated'
  revert policy policy' free free' authenticated authenticated'
  decide

theorem exposure_of_merge_marked (hmarked : (p.merge c override).allowsAnonymous = true) :
    p.exposure = .anyone ∧ c.exposure = .anyone := by
  cases override with
  | false =>
      have hboth : (p.allowsAnonymous && c.allowsAnonymous) = true := by simpa [merge] using hmarked
      rw [Bool.and_eq_true] at hboth
      exact ⟨exposure_of_marked hboth.1, exposure_of_marked hboth.2⟩
  | true =>
      rw [Bool.true_and] at h
      rw [allowsAnonymous_merge] at hmarked
      cases hconf : c.isConfigured with
      | true =>
          rw [hconf, if_pos rfl, h] at hmarked
          cases hmarked
      | false =>
          rw [hconf, if_neg Bool.false_ne_true] at hmarked
          exact ⟨exposure_of_marked hmarked, exposure_of_not_isConfigured hconf⟩

/-- A merged record that keeps the demands of both is in no lower class than either. -/
theorem max_rank_le_rank_merge :
    max p.exposure.rank c.exposure.rank ≤ (p.merge c override).exposure.rank := by
  cases hmarked : (p.merge c override).allowsAnonymous with
  | true =>
      obtain ⟨hp, hc⟩ := exposure_of_merge_marked h hmarked
      rw [hp, hc]
      exact Nat.zero_le _
  | false =>
      have hmerged := (p.merge c override).rank_exposure
      rw [hmarked, if_neg Bool.false_ne_true, strength_merge h] at hmerged
      have hp := p.rank_exposure_le_strength
      have hc := c.rank_exposure_le_strength
      omega

end kept

theorem rank_merge_of_unmarked {p c : Authorization} (hp : p.allowsAnonymous = false)
    (hc : c.allowsAnonymous = false) (override : Bool) :
    (p.merge c override).exposure.rank = max p.exposure.rank c.exposure.rank := by
  have hkept : (override && c.allowsAnonymous) = false := by rw [hc, Bool.and_false]
  have hunmarked : (p.merge c override).allowsAnonymous = false := by
    cases override <;> simp [merge, hp, hc]
  rw [rank_exposure, hunmarked, strength_merge hkept, p.rank_exposure, c.rank_exposure, hp, hc]
  rfl

/-- **Merging never weakens, except by the route's own marker.** For any two records, the class of
the merged one is at least the class of each, whether the route may override or not, as long as an
overriding route has no marker. It is no more than that where neither record has one. With an
overriding marker of the route, anyone is admitted and no demand is left. -/
theorem merge_never_weakens (p c : Authorization) :
    max p.exposure.rank c.exposure.rank ≤ (p.merge c false).exposure.rank ∧
    (c.allowsAnonymous = false →
      max p.exposure.rank c.exposure.rank ≤ (p.merge c true).exposure.rank) ∧
    (p.allowsAnonymous = false → c.allowsAnonymous = false → ∀ override,
      (p.merge c override).exposure.rank = max p.exposure.rank c.exposure.rank) ∧
    (c.allowsAnonymous = true →
      (p.merge c true).exposure = .anyone ∧ (p.merge c true).requiresAuth = false ∧
        ∀ f, (p.merge c true).values f = []) := by
  refine ⟨max_rank_le_rank_merge rfl, fun hc => max_rank_le_rank_merge hc, fun hp hc =>
    rank_merge_of_unmarked hp hc, fun hc => ?_⟩
  obtain ⟨hmarked, hauth, hvalues⟩ := merge_of_allowsAnonymous (p := p) hc
  exact ⟨exposure_of_marked hmarked, hauth, hvalues⟩

/-- The record of a group that asks for a role, and has a marker all the same. -/
def opsGroup : Authorization where
  requiresAuth := true
  allowsAnonymous := true
  roles := ["ops"]
  dependencies := ["Auth"]
  inherited := true
  source := .router

/-- A route with a demand of its own closes the group, and it does so for the role as well. -/
theorem opsGroup_never_weakened :
    opsGroup.exposure = .anyone ∧
    max opsGroup.exposure.rank (exposure { requiresAuth := true }).rank ≤
      (opsGroup.merge { requiresAuth := true } true).exposure.rank ∧
    (opsGroup.merge { requiresAuth := true } true).exposure = .roleRestricted ∧
    (opsGroup.merge { allowsAnonymous := true } true).values .roles = [] := by
  refine ⟨by decide, ?_, by decide, ?_⟩
  · exact (merge_never_weakens opsGroup { requiresAuth := true }).2.1 rfl
  · exact ((merge_never_weakens opsGroup { allowsAnonymous := true }).2.2.2 rfl).2.2 .roles

end RouteAudit.Authorization
