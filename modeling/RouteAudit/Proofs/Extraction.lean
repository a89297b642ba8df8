import Mathlib.Data.List.Basic
import RouteAudit.Authorization.Middleware

/-! # What a chain of middleware says

`extract` notes one middleware after the other. Here the record it ends with is given in terms of
the chain alone: a middleware `marks` its route as anonymous, `authenticates` its callers, or
`demands` values of a list field, and an anonymous marker does nothing else.

* `values_extract`: a list field holds what the middleware contribute to it, in first-seen order;
* `requiresAuth_extract`, `allowsAnonymous_extract`, `isConfigured_extract`: the flags say whether
  some middleware of the chain is of a kind.

All of them come from what one step notes (`values_note`, `requiresAuth_note`,
`allowsAnonymous_note`) and from two inductions over the chain, one for the flags
(`flag_foldl_note`) and one for the list fields (`values_foldl_note`). -/

namespace RouteAudit

/-! ### First-seen order -/

theorem firstSeen_of_nodup {xs : List String} (h : xs.Nodup) : firstSeen xs = xs := by
  induction xs with
  | nil => rfl
  | cons x rest ih =>
      obtain ⟨hx, hrest⟩ := List.nodup_cons.mp h
      rw [firstSeen, ih hrest, List.filter_eq_self.mpr]
      intro y hy
      have hne : y ≠ x := fun e => hx (e ▸ hy)
      simpa using hne

theorem filter_firstSeen (p : String → Bool) (xs : List String) :
    (firstSeen xs).filter p = firstSeen (xs.filter p) := by
  induction xs with
  | nil => rfl
  | cons x rest ih =>
      have hcomm : ((firstSeen rest).filter (· != x)).filter p =
          ((firstSeen rest).filter p).filter (· != x) := by
        rw [List.filter_filter, List.filter_filter]
        congr 1
        funext y
        exact Bool.and_comm _ _
      by_cases hp : p x = true
      · rw [firstSeen, List.filter_cons_of_pos hp, List.filter_cons_of_pos hp, firstSeen, hcomm, ih]
      · rw [firstSeen, List.filter_cons_of_neg hp, List.filter_cons_of_neg hp, hcomm, ← ih,
          List.filter_eq_self.mpr]
        intro y hy
        have hy' : p y = true := (List.mem_filter.mp hy).2
        have hne : y ≠ x := fun e => hp (e ▸ hy')
        simpa using hne

theorem firstSeen_firstSeen_append (xs ys : List String) :
    firstSeen (firstSeen xs ++ ys) = firstSeen (xs ++ ys) := by
  induction xs with
  | nil => rfl
  | cons x rest ih =>
      have h : ((firstSeen rest).filter (· != x) ++ ys).filter (· != x) =
          (firstSeen rest ++ ys).filter (· != x) := by
        simp [List.filter_append, List.filter_filter]
      rw [firstSeen, List.cons_append, List.cons_append, firstSeen, firstSeen, filter_firstSeen, h,
        ← filter_firstSeen, ih]

theorem firstSeen_append_firstSeen (xs ys : List String) :
    firstSeen (xs ++ firstSeen ys) = firstSeen (xs ++ ys) := by
  induction xs with
  | nil => exact firstSeen_of_nodup (nodup_firstSeen ys)
  | cons x rest ih => rw [List.cons_append, List.cons_append, firstSeen, firstSeen, ih]

theorem firstSeen_eq_nil_iff {xs : List String} : firstSeen xs = [] ↔ xs = [] := by
  cases xs <;> simp [firstSeen]

theorem firstSeen_eq_eraseDups : ∀ xs : List String, firstSeen xs = xs.eraseDups
  | [] => rfl
  | x :: rest => by
      rw [firstSeen, filter_firstSeen, firstSeen_eq_eraseDups (rest.filter (· != x)),
        List.eraseDups_cons]
      rfl
termination_by xs => xs.length
decreasing_by exact Nat.lt_succ_of_le (List.length_filter_le _ _)

/-! ### Records -/

namespace Authorization

@[simp] theorem requiresAuth_add (a : Authorization) (f : AuthField) (xs : List String) :
    (a.add f xs).requiresAuth = a.requiresAuth := by cases f <;> rfl

@[simp] theorem allowsAnonymous_add (a : Authorization) (f : AuthField) (xs : List String) :
    (a.add f xs).allowsAnonymous = a.allowsAnonymous := by cases f <;> rfl

@[simp] theorem inherited_add (a : Authorization) (f : AuthField) (xs : List String) :
    (a.add f xs).inherited = a.inherited := by cases f <;> rfl

@[simp] theorem values_add_same (a : Authorization) (f : AuthField) (xs : List String) :
    (a.add f xs).values f = firstSeen (a.values f ++ xs) := values_setValues_same ..

theorem values_add_ne (a : Authorization) {f g : AuthField} (xs : List String) (h : g ≠ f) :
    (a.add f xs).values g = a.values g := values_setValues_ne _ _ h

theorem values_congr {a b : Authorization} (hr : a.roles = b.roles) (hs : a.scopes = b.scopes)
    (hp : a.permissions = b.permissions) (hq : a.policies = b.policies)
    (hd : a.dependencies = b.dependencies) : a.values = b.values := by
  funext f
  cases f <;> assumption

theorem eq_of_values {a b : Authorization} (hauth : a.requiresAuth = b.requiresAuth)
    (hanon : a.allowsAnonymous = b.allowsAnonymous) (hvalues : ∀ f, a.values f = b.values f)
    (hinherited : a.inherited = b.inherited) (hsource : a.source = b.source) : a = b := by
  have hroles := hvalues .roles
  have hscopes := hvalues .scopes
  have hpermissions := hvalues .permissions
  have hpolicies := hvalues .policies
  have hdependencies := hvalues .dependencies
  cases a
  cases b
  simp_all [values]

theorem hasRequirements_of_isEmpty_values {a : Authorization} {q : AuthField → Bool}
    (h : ∀ f, f ≠ .dependencies → (a.values f).isEmpty = !q f) :
    a.hasRequirements = (q .roles || q .scopes || q .permissions || q .policies) := by
  have hr := h .roles (by decide)
  have hs := h .scopes (by decide)
  have hp := h .permissions (by decide)
  have hq := h .policies (by decide)
  simp only [values] at hr hs hp hq
  rw [hasRequirements, hr, hs, hp, hq]
  simp only [Bool.not_not]

end Authorization

/-! ### What a middleware means -/

theorem any_or {α : Type} (p q : α → Bool) (xs : List α) :
    (xs.any fun m => p m || q m) = (xs.any p || xs.any q) := by
  induction xs with
  | nil => rfl
  | cons m rest ih =>
      rw [List.any_cons, List.any_cons, List.any_cons, ih]
      cases p m <;> cases q m <;> simp

namespace Extractor

variable (x : Extractor)

/-- The middleware marks its route as anonymous. -/
def marks (m : Middleware) : Bool := x.vocabulary.isAnonymous m.name

/-- The middleware authenticates callers; an anonymous marker never does. -/
def authenticates (m : Middleware) : Bool := !x.marks m && x.vocabulary.isAuth m.name

/-- The middleware demands some value of a list field: its literals count, there are some, and its
name belongs to the field. An anonymous marker demands nothing. -/
def demands (f : AuthField) (m : Middleware) : Bool :=
  !x.marks m && (x.passLiterals && !m.literals.isEmpty) &&
    x.vocabulary.requirement? m.name == some f

/-- The middleware demands some role, scope, permission or policy. -/
def demandsAny (m : Middleware) : Bool :=
  x.demands .roles m || x.demands .scopes m || x.demands .permissions m || x.demands .policies m

/-- The middleware protects its route in some way. -/
def protects (m : Middleware) : Bool := x.authenticates m || x.demandsAny m

/-- The middleware says anything at all about who is admitted. -/
def configures (m : Middleware) : Bool := x.marks m || x.protects m

/-- What a middleware contributes to a list field. -/
def contribution (f : AuthField) (m : Middleware) : List String :=
  if f = .dependencies then if x.authenticates m then [m.name] else []
  else if x.demands f m then m.literals else []

theorem requirement?_ne_dependencies (v : Vocabulary) (name : String) :
    v.requirement? name ≠ some .dependencies := by
  unfold Vocabulary.requirement?
  repeat' split
  all_goals simp

theorem contribution_of_marks {m : Middleware} (h : x.marks m = true) (f : AuthField) :
    x.contribution f m = [] := by
  simp [contribution, authenticates, demands, h]

theorem contribution_dependencies_eq_nil_iff {m : Middleware} :
    x.contribution .dependencies m = [] ↔ x.authenticates m = false := by
  simp [contribution]

theorem contribution_eq_nil_iff {f : AuthField} (hf : f ≠ .dependencies) {m : Middleware} :
    x.contribution f m = [] ↔ x.demands f m = false := by
  rw [contribution, if_neg hf]
  cases hd : x.demands f m with
  | false => simp
  | true =>
      have hl : m.literals.isEmpty = false := by
        simp only [demands, Bool.and_eq_true, Bool.not_eq_true'] at hd
        exact hd.1.2.2
      simpa using hl

/-! ### One step -/

theorem requiresAuth_noteLiterals (a : Authorization) (m : Middleware) :
    (x.noteLiterals a m).requiresAuth = a.requiresAuth := by
  unfold noteLiterals
  split
  · split <;> simp
  · rfl

theorem allowsAnonymous_noteLiterals (a : Authorization) (m : Middleware) :
    (x.noteLiterals a m).allowsAnonymous = a.allowsAnonymous := by
  unfold noteLiterals
  split
  · split <;> simp
  · rfl

theorem requiresAuth_note (a : Authorization) (m : Middleware) :
    (x.note a m).requiresAuth = (a.requiresAuth || x.authenticates m) := by
  unfold note authenticates marks
  split
  · rename_i h
    simp [h]
  · rename_i h
    rw [requiresAuth_noteLiterals]
    unfold noteAuth
    split <;> rename_i ha <;> simp [h, ha]

theorem allowsAnonymous_note (a : Authorization) (m : Middleware) :
    (x.note a m).allowsAnonymous = (a.allowsAnonymous || x.marks m) := by
  unfold note marks
  split
  · rename_i h
    simp [h]
  · rename_i h
    rw [allowsAnonymous_noteLiterals]
    unfold noteAuth
    split <;> simp [h]

theorem inherited_note (a : Authorization) (m : Middleware) :
    (x.note a m).inherited = a.inherited := by
  unfold note noteLiterals noteAuth
  repeat' split
  all_goals simp

theorem values_noteAuth (a : Authorization) (m : Middleware) (f : AuthField) :
    (x.noteAuth a m).values f =
      if f = .dependencies ∧ x.vocabulary.isAuth m.name = true then
        firstSeen (a.values f ++ [m.name])
      else a.values f := by
  unfold noteAuth
  by_cases ha : x.vocabulary.isAuth m.name = true
  · rw [if_pos ha]
    have hv : ({ a.add .dependencies [m.name] with requiresAuth := true, source := .middleware } :
        Authorization).values = (a.add .dependencies [m.name]).values :=
      Authorization.values_congr rfl rfl rfl rfl rfl
    rw [hv]
    by_cases hf : f = .dependencies
    · subst hf
      rw [if_pos ⟨rfl, ha⟩, Authorization.values_add_same]
    · rw [if_neg fun h => hf h.1, Authorization.values_add_ne _ _ hf]
  · rw [if_neg ha, if_neg fun h => ha h.2]

theorem values_noteLiterals (a : Authorization) (m : Middleware) (f : AuthField) :
    (x.noteLiterals a m).values f =
      if (x.passLiterals && !m.literals.isEmpty) = true ∧
          x.vocabulary.requirement? m.name = some f then
        firstSeen (a.values f ++ m.literals)
      else a.values f := by
  unfold noteLiterals
  by_cases hl : (x.passLiterals && !m.literals.isEmpty) = true
  · rw [if_pos hl]
    cases hr : x.vocabulary.requirement? m.name with
    | none => simp
    | some g =>
        have hv : ({ a.add g m.literals with source := .middleware } : Authorization).values =
            (a.add g m.literals).values := Authorization.values_congr rfl rfl rfl rfl rfl
        simp only [hv]
        by_cases hf : f = g
        · subst hf
          rw [if_pos ⟨hl, rfl⟩, Authorization.values_add_same]
        · rw [Authorization.values_add_ne _ _ hf, if_neg]
          rintro ⟨-, h⟩
          exact hf (Option.some.inj h).symm
  · rw [if_neg hl, if_neg fun h => hl h.1]

theorem values_note (a : Authorization) (m : Middleware) {f : AuthField}
    (ha : (a.values f).Nodup) :
    (x.note a m).values f = firstSeen (a.values f ++ x.contribution f m) := by
  have hself : a.values f = firstSeen (a.values f ++ []) := by
    rw [List.append_nil, firstSeen_of_nodup ha]
  by_cases hm : x.marks m = true
  · rw [x.contribution_of_marks hm, ← hself, note, if_pos (by exact hm)]
    cases f <;> rfl
  · rw [note, if_neg (by exact hm), values_noteLiterals, values_noteAuth]
    have hm' : x.marks m = false := by simpa using hm
    by_cases hf : f = .dependencies
    · subst hf
      rw [if_neg fun h => requirement?_ne_dependencies _ _ h.2, contribution, if_pos rfl]
      by_cases hauth : x.vocabulary.isAuth m.name = true
      · rw [if_pos ⟨rfl, hauth⟩, if_pos (by simp [authenticates, hm', hauth])]
      · rw [if_neg fun h => hauth h.2, if_neg (by simp [authenticates, hauth]), ← hself]
    · have hdep : ¬(f = .dependencies ∧ x.vocabulary.isAuth m.name = true) := fun h => hf h.1
      rw [if_neg hdep, contribution, if_neg hf]
      by_cases hd : (x.passLiterals && !m.literals.isEmpty) = true ∧
          x.vocabulary.requirement? m.name = some f
      · rw [if_pos hd, if_pos]
        simp only [demands, hm', hd.1, hd.2, Bool.not_false, Bool.and_self, beq_self_eq_true]
      · rw [if_neg hd, if_neg, ← hself]
        intro h
        simp only [demands, hm', Bool.not_false, Bool.true_and] at h
        rw [Bool.and_eq_true, beq_iff_eq] at h
        exact hd h

/-! ### A whole chain -/

/-- A flag that some middleware raise and none lowers is up after a chain with one of them. -/
theorem flag_foldl_note (flag : Authorization → Bool) (raises : Middleware → Bool)
    (hstep : ∀ a m, flag (x.note a m) = (flag a || raises m)) (chain : List Middleware) :
    ∀ a, flag (chain.foldl x.note a) = (flag a || chain.any raises) := by
  induction chain with
  | nil => intro a; simp
  | cons m rest ih =>
      intro a
      rw [List.foldl_cons, ih, hstep, List.any_cons, Bool.or_assoc]

theorem values_foldl_note (f : AuthField) (chain : List Middleware) :
    ∀ a : Authorization, (a.values f).Nodup →
      (chain.foldl x.note a).values f =
        firstSeen (a.values f ++ chain.flatMap (x.contribution f)) := by
  induction chain with
  | nil =>
      intro a ha
      simp [firstSeen_of_nodup ha]
  | cons m rest ih =>
      intro a ha
      have hstep := x.values_note a m ha
      have hnodup : ((x.note a m).values f).Nodup := hstep ▸ nodup_firstSeen _
      rw [List.foldl_cons, ih _ hnodup, hstep, firstSeen_firstSeen_append, List.flatMap_cons,
        List.append_assoc]

theorem requiresAuth_extract (chain : List Middleware) :
    (x.extract chain).requiresAuth = chain.any x.authenticates :=
  x.flag_foldl_note (·.requiresAuth) _ x.requiresAuth_note chain {}

theorem allowsAnonymous_extract (chain : List Middleware) :
    (x.extract chain).allowsAnonymous = chain.any x.marks :=
  x.flag_foldl_note (·.allowsAnonymous) _ x.allowsAnonymous_note chain {}

theorem inherited_extract (chain : List Middleware) : (x.extract chain).inherited = false := by
  have hstep : ∀ a m, (x.note a m).inherited = (a.inherited || false) := by
    intro a m
    rw [inherited_note, Bool.or_false]
  have hnone : (chain.any fun _ => false) = false := by simp [List.any_eq_false]
  exact (x.flag_foldl_note (·.inherited) _ hstep chain {}).trans hnone

/-- A list field of an extracted record holds the contributions of the chain. -/
theorem values_extract (f : AuthField) (chain : List Middleware) :
    (x.extract chain).values f = firstSeen (chain.flatMap (x.contribution f)) := by
  have hnil : ({} : Authorization).values f = [] := by cases f <;> rfl
  rw [extract, values_foldl_note _ _ _ _ (by simp [hnil]), hnil, List.nil_append]

theorem isEmpty_dependencies_extract (chain : List Middleware) :
    (x.extract chain).dependencies.isEmpty = !chain.any x.authenticates := by
  have h : (x.extract chain).dependencies = [] ↔ ∀ m ∈ chain, x.authenticates m = false := by
    rw [show (x.extract chain).dependencies = (x.extract chain).values .dependencies from rfl,
      values_extract, firstSeen_eq_nil_iff, List.flatMap_eq_nil_iff]
    simp only [contribution_dependencies_eq_nil_iff]
  rw [Bool.eq_iff_iff, List.isEmpty_iff, h]
  simp

theorem isEmpty_values_extract {f : AuthField} (hf : f ≠ .dependencies) (chain : List Middleware) :
    ((x.extract chain).values f).isEmpty = !chain.any (x.demands f) := by
  have h : (x.extract chain).values f = [] ↔ ∀ m ∈ chain, x.demands f m = false := by
    rw [values_extract, firstSeen_eq_nil_iff, List.flatMap_eq_nil_iff]
    simp only [x.contribution_eq_nil_iff hf]
  rw [Bool.eq_iff_iff, List.isEmpty_iff, h]
  simp

theorem any_demandsAny (chain : List Middleware) :
    chain.any x.demandsAny = (chain.any (x.demands .roles) || chain.any (x.demands .scopes) ||
      chain.any (x.demands .permissions) || chain.any (x.demands .policies)) := by
  unfold demandsAny
  rw [any_or, any_or, any_or]

theorem any_protects (chain : List Middleware) :
    chain.any x.protects = (chain.any x.authenticates || chain.any x.demandsAny) := any_or ..

theorem any_configures (chain : List Middleware) :
    chain.any x.configures = (chain.any x.marks || chain.any x.protects) := any_or ..

theorem hasRequirements_extract (chain : List Middleware) :
    (x.extract chain).hasRequirements = chain.any x.demandsAny := by
  have h := Authorization.hasRequirements_of_isEmpty_values fun _ hf =>
    x.isEmpty_values_extract hf chain
  rw [h, any_demandsAny]

theorem isConfigured_extract (chain : List Middleware) :
    (x.extract chain).isConfigured = chain.any x.configures := by
  rw [Authorization.isConfigured, requiresAuth_extract, allowsAnonymous_extract,
    isEmpty_dependencies_extract, hasRequirements_extract, any_configures, any_protects]
  cases chain.any x.authenticates <;> cases chain.any x.marks <;> simp

end Extractor

end RouteAudit
