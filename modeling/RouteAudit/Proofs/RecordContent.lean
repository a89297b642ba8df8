import RouteAudit.Proofs.RecordForm

/-! # The content of extracted records

`extract` notes one middleware after the other, with an early end for anonymous markers and three
updates that do not know of each other. `content` gives what comes out field by field, as filters of
the chain: `authNames` are the names that authenticate and `literalsFor` the literals that belong to
a list field, each in first-seen order. The record has this content (`extract_eq_content`), and a
marker adds its flag and nothing else (`extract_of_marks`).

A route in a group has two chains, and the two records are merged. As long as no middleware is a
marker, the merged record is that of the one chain that the two make up, except for the fields that
tell where it comes from (`merge_extract_eq`). -/

namespace RouteAudit

/-! ### Where a record comes from -/

namespace Authorization

/-- The record with another account of where it comes from. -/
def withOrigin (a : Authorization) (inherited : Bool) (source : AuthSource) : Authorization :=
  { a with inherited, source }

@[simp] theorem values_withOrigin (a : Authorization) (inherited : Bool) (source : AuthSource)
    (f : AuthField) : (a.withOrigin inherited source).values f = a.values f := by cases f <;> rfl

end Authorization

namespace Extractor

variable (x : Extractor)

/-! ### Content -/

/-- The names that indicate authentication, less those that mark the route as anonymous. -/
def authNames (chain : List Middleware) : List String :=
  (chain.filter fun m =>
    x.vocabulary.isAuth m.name && !x.vocabulary.isAnonymous m.name).map (·.name)

/-- The literals of the middleware whose names belong to a list field, if literals count at all.
Those of anonymous markers do not. -/
def literalsFor (f : AuthField) (chain : List Middleware) : List String :=
  if x.passLiterals then
    (chain.filter fun m =>
      !x.vocabulary.isAnonymous m.name && x.vocabulary.requirement? m.name == some f).flatMap
        (·.literals)
  else []

/-- What a chain says, field by field and without its source. -/
def content (chain : List Middleware) : Authorization where
  requiresAuth := chain.any fun m => x.vocabulary.isAuth m.name && !x.vocabulary.isAnonymous m.name
  allowsAnonymous := chain.any fun m => x.vocabulary.isAnonymous m.name
  roles := (x.literalsFor .roles chain).eraseDups
  scopes := (x.literalsFor .scopes chain).eraseDups
  permissions := (x.literalsFor .permissions chain).eraseDups
  policies := (x.literalsFor .policies chain).eraseDups
  dependencies := (x.authNames chain).eraseDups

theorem authenticates_eq (m : Middleware) :
    x.authenticates m = (x.vocabulary.isAuth m.name && !x.vocabulary.isAnonymous m.name) :=
  Bool.and_comm _ _

theorem flatMap_contribution_dependencies (chain : List Middleware) :
    chain.flatMap (x.contribution .dependencies) = x.authNames chain := by
  induction chain with
  | nil => rfl
  | cons m rest ih =>
      rw [List.flatMap_cons, ih, authNames, authNames, List.filter_cons, contribution, if_pos rfl,
        authenticates_eq]
      split <;> rfl

theorem contribution_eq {f : AuthField} (hf : f ≠ .dependencies) (m : Middleware) :
    x.contribution f m =
      if x.passLiterals && (!x.vocabulary.isAnonymous m.name &&
        x.vocabulary.requirement? m.name == some f) then m.literals else [] := by
  rw [contribution, if_neg hf, demands, marks]
  cases x.passLiterals <;> cases x.vocabulary.isAnonymous m.name <;>
    cases m.literals <;> simp

theorem flatMap_contribution {f : AuthField} (hf : f ≠ .dependencies) (chain : List Middleware) :
    chain.flatMap (x.contribution f) = x.literalsFor f chain := by
  induction chain with
  | nil => simp [literalsFor]
  | cons m rest ih =>
      rw [List.flatMap_cons, ih, literalsFor, literalsFor, List.filter_cons, contribution_eq _ hf]
      cases x.passLiterals with
      | false => simp
      | true =>
          simp only [Bool.true_and, if_true]
          split <;> simp

theorem values_content (f : AuthField) (chain : List Middleware) :
    (x.content chain).values f = firstSeen (chain.flatMap (x.contribution f)) := by
  rw [firstSeen_eq_eraseDups]
  cases f with
  | dependencies => rw [flatMap_contribution_dependencies]; rfl
  | _ => rw [flatMap_contribution _ (by decide)]; rfl

/-! ### Extracted records -/

theorem extract_eq_content (chain : List Middleware) :
    x.extract chain = (x.content chain).withOrigin false (x.extract chain).source := by
  apply Authorization.eq_of_values
  · rw [requiresAuth_extract]
    exact congrArg chain.any (funext x.authenticates_eq)
  · exact x.allowsAnonymous_extract chain
  · intro f
    rw [values_extract, Authorization.values_withOrigin, values_content]
  · exact x.inherited_extract chain
  · rfl

theorem isConfigured_content (chain : List Middleware) :
    (x.content chain).isConfigured = chain.any x.configures := by
  rw [← isConfigured_extract, extract_eq_content]
  rfl

theorem extract_of_marks (before after : List Middleware) {m : Middleware}
    (h : x.marks m = true) :
    x.extract (before ++ m :: after) =
      { x.extract (before ++ after) with allowsAnonymous := true, source := .middleware } := by
  apply Authorization.eq_of_values
  · have hauth : x.authenticates m = false := by simp [authenticates, h]
    simp [requiresAuth_extract, hauth]
  · simp [allowsAnonymous_extract, h]
  · intro f
    have hvalues : (x.extract (before ++ m :: after)).values f =
        (x.extract (before ++ after)).values f := by
      simp [values_extract, x.contribution_of_marks h]
    rw [hvalues]
    exact congrFun (Authorization.values_congr rfl rfl rfl rfl rfl) f
  · simp only [inherited_extract]
  · have hconf : x.configures m = true := by simp [configures, h]
    simp [source_extract, hconf]

/-- **The exact content of an extracted record.** The record of every chain is the content of the
chain, with a source exactly when there is any content. An anonymous marker contributes its flag and
nothing else, wherever it stands and whatever else its name contains. -/
theorem extracted_record_exact :
    (∀ chain, x.extract chain = (x.content chain).withOrigin false
      (if (x.content chain).isConfigured then .middleware else .unset)) ∧
    ∀ before m after, x.vocabulary.isAnonymous m.name = true →
      x.extract (before ++ m :: after) =
        { x.extract (before ++ after) with allowsAnonymous := true, source := .middleware } := by
  constructor
  · intro chain
    rw [isConfigured_content, ← source_extract, ← extract_eq_content]
  · intro before m after h
    exact x.extract_of_marks before after h

/-- A marker whose name also mentions authentication, a role and a guard. -/
def markedGuard : Middleware := ⟨"NoAuthRoleGuard", ["admin"]⟩

/-- The marker's role and name are left out, and the role that is asked for twice is there once. -/
theorem markedGuard_exact :
    Vocabulary.standard.isAnonymous markedGuard.name = true ∧
    Vocabulary.standard.isAuth markedGuard.name = true ∧
    extract ⟨.standard, true⟩ [⟨"Auth", []⟩, markedGuard, ⟨"RequireRole", ["ops", "dev", "ops"]⟩] =
      { requiresAuth := true, allowsAnonymous := true, roles := ["ops", "dev"]
        dependencies := ["Auth", "RequireRole"], source := .middleware } := by
  obtain ⟨hcontent, hmarker⟩ := extracted_record_exact ⟨.standard, true⟩
  have hmarked : Vocabulary.standard.isAnonymous markedGuard.name = true := by decide
  have hwithout := hmarker [⟨"Auth", []⟩] markedGuard [⟨"RequireRole", ["ops", "dev", "ops"]⟩]
    hmarked
  rw [hcontent ([_] ++ [_])] at hwithout
  refine ⟨hmarked, by decide, hwithout.trans ?_⟩
  decide

/-! ### One chain or two -/

section boundary
variable (g r : List Middleware)

theorem values_merge_extract (h : r.any x.marks = false) (f : AuthField) :
    ((x.extractGroup g).merge (x.extract r)).values f = (x.extract (g ++ r)).values f := by
  rw [Authorization.values_merge (by rw [allowsAnonymous_extract, h]), values_extractGroup,
    values_extract, values_extract, values_extract, List.flatMap_append,
    firstSeen_firstSeen_append, firstSeen_append_firstSeen]

/-- Without markers, the merged record is that of the whole chain but for where it comes from. -/
theorem merge_extract_eq (h : (g ++ r).any x.marks = false) :
    (x.extractGroup g).merge (x.extract r) =
      (x.extract (g ++ r)).withOrigin ((x.extract g).requiresAuth && !(x.extract r).requiresAuth)
        (if (x.extract r).isConfigured then .middleware
          else if (x.extract g).isConfigured then .router else .unset) := by
  have hboth : g.any x.marks = false ∧ r.any x.marks = false := by
    rwa [List.any_append, Bool.or_eq_false_iff] at h
  apply Authorization.eq_of_values
  · rw [x.requiresAuth_merge_extract g hboth.2, ← requiresAuth_extract]
    rfl
  · rw [x.allowsAnonymous_merge_extract_of_unmarked g r hboth.2, hboth.1, Bool.and_false]
    exact ((x.allowsAnonymous_extract (g ++ r)).trans h).symm
  · intro f
    rw [x.values_merge_extract g r hboth.2, Authorization.values_withOrigin]
  · exact x.inherited_merge_extract g r
  · rw [source_merge_extract, isConfigured_extract, isConfigured_extract]
    rfl

/-- **Only the origin of a record depends on the boundary of its group.** For chains without
anonymous markers, merging the record of the group with that of the route gives the record of the
two chains in one, except that `inherited` and `source` tell which chain it comes from. So two ways
to cut one chain into that of a group and that of a route differ in these two fields alone. -/
theorem group_boundary_changes_origin_only
    (h : ∀ m ∈ g ++ r, x.vocabulary.isAnonymous m.name = false) :
    (x.extractGroup g).merge (x.extract r) =
      (x.extract (g ++ r)).withOrigin ((x.extract g).requiresAuth && !(x.extract r).requiresAuth)
        (if (x.extract r).isConfigured then .middleware
          else if (x.extract g).isConfigured then .router else .unset) ∧
    ∀ g' r', g' ++ r' = g ++ r → ∃ inherited source,
      (x.extractGroup g').merge (x.extract r') =
        ((x.extractGroup g).merge (x.extract r)).withOrigin inherited source := by
  have hmarks : (g ++ r).any x.marks = false := by
    rw [List.any_eq_false]
    intro m hm
    rw [Bool.not_eq_true]
    exact h m hm
  refine ⟨x.merge_extract_eq g r hmarks, ?_⟩
  intro g' r' hcut
  have hcutMarks : (g' ++ r').any x.marks = false := by rwa [hcut]
  rw [x.merge_extract_eq g' r' hcutMarks, x.merge_extract_eq g r hmarks, hcut]
  exact ⟨_, _, rfl⟩

end boundary

/-- A group that asks for two roles. -/
def staffGroup : List Middleware := [⟨"Auth", []⟩, ⟨"RequireRole", ["admin", "ops"]⟩]

/-- A route that asks for one of them again. -/
def staffRoute : List Middleware := [⟨"RequireRole", ["ops", "dev"]⟩, ⟨"Auth", []⟩]

/-- The roles of both are there once, and the group's own role check may as well be the route's. -/
theorem staffRoute_boundary :
    (∀ m ∈ staffGroup ++ staffRoute, Vocabulary.standard.isAnonymous m.name = false) ∧
    (extractGroup ⟨.standard, true⟩ staffGroup).merge (extract ⟨.standard, true⟩ staffRoute) =
      { requiresAuth := true, roles := ["admin", "ops", "dev"]
        dependencies := ["Auth", "RequireRole"], source := .middleware } ∧
    ∃ inherited source,
      (extractGroup ⟨.standard, true⟩ (staffGroup.take 1)).merge
          (extract ⟨.standard, true⟩ (staffGroup.drop 1 ++ staffRoute)) =
        ((extractGroup ⟨.standard, true⟩ staffGroup).merge
          (extract ⟨.standard, true⟩ staffRoute)).withOrigin inherited source := by
  have hplain : ∀ m ∈ staffGroup ++ staffRoute, Vocabulary.standard.isAnonymous m.name = false := by
    decide
  obtain ⟨hmerge, hmoved⟩ :=
    group_boundary_changes_origin_only ⟨.standard, true⟩ staffGroup staffRoute hplain
  refine ⟨hplain, ?_, hmoved _ _ rfl⟩
  rw [hmerge]
  decide

end Extractor

end RouteAudit
