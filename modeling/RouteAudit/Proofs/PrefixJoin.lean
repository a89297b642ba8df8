import Mathlib.Data.List.DropRight
import RouteAudit.Endpoint
import RouteAudit.Routing.Group

/-! # Joined prefixes and full routes

Paths are put together by two definitions that treat slashes differently. `joinPrefix` nests the
prefix of a group in another: it drops the slashes where the two meet and writes one. `joinRoute`
puts a route below a prefix: it drops the slashes at the end of the prefix, but keeps those in front
of the route and adds one only if there is none.

Between two neighbours a part counts with `pathOf`, its text without outer slashes behind a single
slash. What stands at the end and at the start of a joined prefix is told through it
(`trimEnd_joinPrefix`, `trimStart_joinPrefix`), and both results follow:

* `prefixes_form_monoid`: a chain of groups has one prefix, however it is put together;
* `full_route_respects_nesting`: a route in a nested group, and the exact inputs on which the two
  ways of joining agree. -/

namespace RouteAudit

/-! ### Trimming -/

namespace Text

variable (p : Char → Bool)

theorem dropEndWhile_append (s t : List Char) :
    dropEndWhile p (s ++ t) =
      if (dropEndWhile p t).isEmpty then dropEndWhile p s else s ++ dropEndWhile p t := by
  simp only [dropEndWhile, List.reverse_append, List.dropWhile_append, List.isEmpty_reverse]
  split <;> simp

theorem dropEndWhile_cons (c : Char) (s : List Char) :
    dropEndWhile p (c :: s) =
      if (dropEndWhile p s).isEmpty then if p c then [] else [c] else c :: dropEndWhile p s := by
  rw [← List.singleton_append, dropEndWhile_append, ← List.nil_append [c], dropEndWhile_concat]
  simp

theorem dropWhile_dropEndWhile (s : List Char) :
    (dropEndWhile p s).dropWhile p = dropEndWhile p (s.dropWhile p) := by
  induction s with
  | nil => rfl
  | cons c s ih =>
      cases hc : p c with
      | true =>
          rw [List.dropWhile_cons_of_pos hc, ← ih, dropEndWhile_cons]
          split
          · rename_i h
            simp [List.isEmpty_iff.mp h]
          · rw [List.dropWhile_cons_of_pos hc]
      | false =>
          have hc' : ¬p c = true := by simp [hc]
          rw [List.dropWhile_cons_of_neg hc', dropEndWhile_cons]
          split <;> simp [hc]

@[simp] theorem dropEndWhile_dropEndWhile (s : List Char) :
    dropEndWhile p (dropEndWhile p s) = dropEndWhile p s :=
  List.rdropWhile_idempotent p s

theorem dropEndWhile_eq_nil_iff {s : List Char} :
    dropEndWhile p s = [] ↔ ∀ c ∈ s, p c = true :=
  List.rdropWhile_eq_nil_iff

theorem dropEndWhile_of_getLast? {s : List Char} (h : ∀ c ∈ s.getLast?, p c = false) :
    dropEndWhile p s = s := by
  refine List.rdropWhile_eq_self_iff.mpr fun hne => ?_
  simp [h (s.getLast hne) (List.getLast?_eq_some_getLast hne)]

theorem trimEnd_eq_empty_iff {s : String} : trimEnd p s = "" ↔ ∀ c ∈ s.toList, p c = true := by
  rw [← String.toList_eq_nil_iff, toList_trimEnd, dropEndWhile_eq_nil_iff]

theorem trim_eq_trimStart_trimEnd (s : String) : trim p s = trimStart p (trimEnd p s) := by
  apply String.ext
  rw [toList_trim, toList_trimStart, toList_trimEnd, dropWhile_dropEndWhile]

theorem trim_eq_empty_iff {s : String} : trim p s = "" ↔ trimEnd p s = "" := by
  rw [← String.toList_eq_nil_iff, toList_trim, ← dropWhile_dropEndWhile,
    List.dropWhile_eq_nil_iff, ← dropEndWhile_eq_nil_iff, dropEndWhile_dropEndWhile,
    ← toList_trimEnd, String.toList_eq_nil_iff]

end Text

/-! ### The path that a part stands for -/

/-- A part as it counts between two neighbours: its text without outer slashes, behind one slash. A
part of slashes alone counts for nothing. -/
def pathOf (s : String) : String :=
  if (Text.trim (· == '/') s).isEmpty then "" else "/" ++ Text.trim (· == '/') s

example : pathOf "//api/v1/" = "/api/v1" ∧ pathOf "///" = "" := by decide

theorem toList_pathOf (s : String) :
    (pathOf s).toList =
      if (Text.trim (· == '/') s).toList.isEmpty then []
      else '/' :: (Text.trim (· == '/') s).toList := by
  have hempty : (Text.trim (· == '/') s).isEmpty = (Text.trim (· == '/') s).toList.isEmpty := by
    rw [Bool.eq_iff_iff, String.isEmpty_iff, List.isEmpty_iff, String.toList_eq_nil_iff]
  rw [pathOf, hempty]
  split
  · rfl
  · rw [String.toList_append]
    rfl

theorem pathOf_of_slashes {s : String} (h : Text.trimEnd (· == '/') s = "") : pathOf s = "" := by
  simp [pathOf, (Text.trim_eq_empty_iff _).mpr h]

theorem pathOf_of_ne {s : String} (h : Text.trimEnd (· == '/') s ≠ "") :
    pathOf s = "/" ++ Text.trimStart (· == '/') (Text.trimEnd (· == '/') s) := by
  have htrim : Text.trim (· == '/') s ≠ "" := mt (Text.trim_eq_empty_iff _).mp h
  rw [← Text.trim_eq_trimStart_trimEnd]
  simp [pathOf, htrim]

/-! ### Joined prefixes -/

section joined
variable {a b : String} (ha : a ≠ "") (hb : b ≠ "")

include ha hb

theorem joinPrefix_of_ne :
    joinPrefix a b = Text.trimEnd (· == '/') a ++ "/" ++ Text.trimStart (· == '/') b := by
  simp [joinPrefix, ha, hb]

theorem toList_joinPrefix :
    (joinPrefix a b).toList =
      Text.dropEndWhile (· == '/') a.toList ++ '/' :: b.toList.dropWhile (· == '/') := by
  simp [joinPrefix_of_ne ha hb]

/-- Without the slashes at its end, a joined prefix is the outer part with the path of the inner. -/
theorem trimEnd_joinPrefix :
    Text.trimEnd (· == '/') (joinPrefix a b) = Text.trimEnd (· == '/') a ++ pathOf b := by
  apply String.ext
  rw [Text.toList_trimEnd, toList_joinPrefix ha hb, String.toList_append, toList_pathOf,
    Text.toList_trimEnd, Text.toList_trim, Text.dropEndWhile_append, Text.dropEndWhile_cons]
  split <;> simp

theorem trimStart_joinPrefix :
    "/" ++ Text.trimStart (· == '/') (joinPrefix a b) =
      pathOf a ++ "/" ++ Text.trimStart (· == '/') b := by
  apply String.ext
  simp only [String.toList_append, Text.toList_trimStart]
  rw [toList_joinPrefix ha hb, toList_pathOf, Text.toList_trim, ← Text.dropWhile_dropEndWhile,
    List.dropWhile_append]
  split
  · rw [List.dropWhile_cons_of_pos rfl, List.dropWhile_idempotent]
    rfl
  · simp

end joined

theorem joinPrefix_eq_empty_iff {a b : String} : joinPrefix a b = "" ↔ a = "" ∧ b = "" := by
  by_cases ha : a = ""
  · simp [ha]
  · by_cases hb : b = ""
    · simp [hb]
    · have h : joinPrefix a b ≠ "" := by
        rw [ne_eq, ← String.toList_eq_nil_iff, toList_joinPrefix ha hb]
        simp
      simp [h, ha]

/-- A part between two others counts with its path, whichever of the two it is joined to first. -/
theorem joinPrefix_assoc (a b c : String) :
    joinPrefix (joinPrefix a b) c = joinPrefix a (joinPrefix b c) := by
  by_cases ha : a = ""
  · simp [ha]
  by_cases hb : b = ""
  · simp [hb]
  by_cases hc : c = ""
  · simp [hc]
  have hab : joinPrefix a b ≠ "" := fun h => ha (joinPrefix_eq_empty_iff.mp h).1
  have hbc : joinPrefix b c ≠ "" := fun h => hb (joinPrefix_eq_empty_iff.mp h).1
  calc joinPrefix (joinPrefix a b) c
    _ = Text.trimEnd (· == '/') a ++ pathOf b ++ "/" ++ Text.trimStart (· == '/') c := by
      rw [joinPrefix_of_ne hab hc, trimEnd_joinPrefix ha hb]
    _ = Text.trimEnd (· == '/') a ++ ("/" ++ Text.trimStart (· == '/') (joinPrefix b c)) := by
      rw [trimStart_joinPrefix hb hc]
      simp only [String.append_assoc]
    _ = joinPrefix a (joinPrefix b c) := by
      rw [joinPrefix_of_ne ha hbc, String.append_assoc]

/-! ### Chains of groups -/

/-- A group opened inside another. -/
def Group.around (outer inner : Group) : Group :=
  nested (some outer) inner.pathPrefix inner.middleware inner.scope

/-- A way to put a chain of groups together, two neighbours at a time. -/
inductive Bracketing where
  | single (g : Group)
  | pair (outer inner : Bracketing)

namespace Bracketing

/-- The groups of the chain, from the outermost on. -/
def groups : Bracketing → List Group
  | single g => [g]
  | pair outer inner => outer.groups ++ inner.groups

/-- The prefixes of the groups, joined in the order that the brackets give. -/
def joined : Bracketing → String
  | single g => g.pathPrefix
  | pair outer inner => joinPrefix outer.joined inner.joined

/-- Opening the groups one inside the other leads to the prefix of any bracketing. -/
theorem pathPrefix_foldl_around (b : Bracketing) : ∀ g : Group,
    (b.groups.foldl Group.around g).pathPrefix = joinPrefix g.pathPrefix b.joined := by
  induction b with
  | single h => intro g; rfl
  | pair outer inner ihOuter ihInner =>
      intro g
      rw [groups, List.foldl_append, ihInner, ihOuter, joinPrefix_assoc, joined]

end Bracketing

/-- **Prefixes form a monoid.** Joining is associative and the empty prefix changes nothing on
either side, whatever slashes the parts begin or end with. So the group at the end of a chain of
nested groups has the prefix that any way of bracketing the chain gives. -/
theorem prefixes_form_monoid :
    (∀ a b c, joinPrefix (joinPrefix a b) c = joinPrefix a (joinPrefix b c)) ∧
    (∀ a, joinPrefix "" a = a ∧ joinPrefix a "" = a) ∧
    (∀ (b : Bracketing) (g : Group),
      (b.groups.foldl Group.around g).pathPrefix = joinPrefix g.pathPrefix b.joined) :=
  ⟨joinPrefix_assoc, fun a => ⟨joinPrefix_empty_left a, joinPrefix_empty_right a⟩,
    Bracketing.pathPrefix_foldl_around⟩

/-! ### Routes below prefixes -/

namespace Endpoint

variable {p q : String} (r : String)

theorem joinRoute_of_ne (hp : p ≠ "") :
    joinRoute p r = Text.trimEnd (· == '/') p ++ rooted r := by
  simp [joinRoute, hp]

theorem toList_rooted :
    (rooted r).toList = if r.toList.head? = some '/' then r.toList else '/' :: r.toList := by
  have hstart : Text.startsWith r "/" = true ↔ r.toList.head? = some '/' := by
    rw [Text.startsWith]
    cases r.toList with
    | nil => simp
    | cons c s => simp [eq_comm (a := c)]
  unfold rooted
  split <;> simp_all

@[simp] theorem rooted_rooted : rooted (rooted r) = rooted r := by
  apply String.ext
  rw [toList_rooted (rooted r), if_pos]
  rw [toList_rooted]
  split <;> simp_all

theorem rooted_append {t : String} (ht : t ≠ "") : rooted (t ++ r) = rooted t ++ r := by
  obtain ⟨c, s, hs⟩ := List.exists_cons_of_ne_nil (mt String.toList_eq_nil_iff.mp ht)
  apply String.ext
  simp only [toList_rooted, String.toList_append, hs, List.cons_append, List.head?_cons]
  split <;> simp

theorem rooted_eq_iff :
    rooted r = "/" ++ Text.trimStart (· == '/') r ↔ Text.startsWith r "//" = false := by
  rw [String.ext_iff, toList_rooted, String.toList_append, Text.toList_trimStart, Text.startsWith]
  cases r.toList with
  | nil => simp
  | cons c s =>
      by_cases hc : '/' = c
      · subst hc
        cases s with
        | nil => simp
        | cons d t =>
            by_cases hd : '/' = d
            · -- the second slash is kept on one side and dropped on the other
              subst hd
              have hshort := (List.dropWhile_sublist (· == '/') (l := t)).length_le
              have hne : '/' :: t ≠ t.dropWhile (· == '/') := by
                intro h
                rw [← h, List.length_cons] at hshort
                omega
              simp [hne]
            · simp [List.isPrefixOf, hd, Ne.symm hd]
      · simp [List.isPrefixOf, hc, Ne.symm hc]

theorem startsWith_trimEnd (hq : Text.trimEnd (· == '/') q ≠ "") :
    Text.startsWith (Text.trimEnd (· == '/') q) "//" = Text.startsWith q "//" := by
  have hbegin : Text.dropEndWhile (· == '/') q.toList <+: q.toList := List.rdropWhile_prefix ..
  rw [ne_eq, ← String.toList_eq_nil_iff, Text.toList_trimEnd] at hq
  rw [Bool.eq_iff_iff, Text.startsWith, Text.startsWith, List.isPrefixOf_iff_prefix,
    List.isPrefixOf_iff_prefix, Text.toList_trimEnd]
  constructor
  · intro h
    exact h.trans hbegin
  · intro h
    rcases List.prefix_or_prefix_of_prefix h hbegin with hlong | hshort
    · exact hlong
    · -- the trimmed text would be slashes alone
      have hslashes : ∀ c ∈ Text.dropEndWhile (· == '/') q.toList, (c == '/') = true := by
        intro c hc
        have hmem := hshort.subset hc
        simpa using hmem
      have hnil := (Text.dropEndWhile_eq_nil_iff (· == '/')).mpr hslashes
      rw [Text.dropEndWhile_dropEndWhile] at hnil
      exact absurd hnil hq

/-- In front of a full route, its prefix counts with its path unless it has two slashes there. -/
theorem rooted_joinRoute_iff (hq : q ≠ "") :
    rooted (joinRoute q r) = pathOf q ++ rooted r ↔
      (∀ c ∈ q.toList, c = '/') ∨ Text.startsWith q "//" = false := by
  have hslashes : Text.trimEnd (· == '/') q = "" ↔ ∀ c ∈ q.toList, c = '/' := by
    simp only [Text.trimEnd_eq_empty_iff, beq_iff_eq]
  rw [joinRoute_of_ne r hq, ← hslashes]
  by_cases h : Text.trimEnd (· == '/') q = ""
  · simp [h, pathOf_of_slashes h]
  · rw [rooted_append _ h, pathOf_of_ne h, String.append_left_inj, rooted_eq_iff,
      startsWith_trimEnd h]
    simp [h]

theorem joinRoute_joinPrefix_iff (p q r : String) :
    joinRoute (joinPrefix p q) r = joinRoute p (joinRoute q r) ↔
      p = "" ∨ (∀ c ∈ q.toList, c = '/') ∨ Text.startsWith q "//" = false := by
  by_cases hp : p = ""
  · simp [hp]
  by_cases hq : q = ""
  · simp [hq]
  have hpq : joinPrefix p q ≠ "" := fun h => hp (joinPrefix_eq_empty_iff.mp h).1
  rw [joinRoute_of_ne _ hpq, joinRoute_of_ne _ hp, trimEnd_joinPrefix hp hq, String.append_assoc,
    String.append_right_inj, eq_comm, rooted_joinRoute_iff r hq]
  simp [hp]

theorem joinRoute_eq_joinPrefix_iff {p r : String} (hr : r ≠ "") :
    joinRoute p r = joinPrefix p r ↔ p = "" ∨ Text.startsWith r "//" = false := by
  by_cases hp : p = ""
  · simp [hp]
  rw [joinRoute_of_ne _ hp, joinPrefix_of_ne hp hr, String.append_assoc, String.append_right_inj,
    rooted_eq_iff]
  simp [hp]

/-- The endpoint with another prefix and route. -/
def placed (e : Endpoint) (groupPrefix route : String) : Endpoint :=
  { e with routerPrefix := groupPrefix, route := route }

@[simp] theorem fullRoute_placed (e : Endpoint) (groupPrefix route : String) :
    (e.placed groupPrefix route).fullRoute = joinRoute groupPrefix route := rfl

/-- **Full routes respect nesting.** A route in a nested group has the full route that the outer
prefix gives to its full route in the inner group, if the inner prefix begins with at most one
slash. Otherwise this holds only below an empty prefix or for an inner prefix of slashes alone. A
route that begins with at most one slash is put below its prefix as a nested prefix would be, and
one that begins with two slashes is so only if the prefix is empty. -/
theorem full_route_respects_nesting (e : Endpoint) (p q r : String) :
    ((e.placed (joinPrefix p q) r).fullRoute = (e.placed p (e.placed q r).fullRoute).fullRoute ↔
      p = "" ∨ (∀ c ∈ q.toList, c = '/') ∨ Text.startsWith q "//" = false) ∧
    (r ≠ "" → ((e.placed p r).fullRoute = joinPrefix p r ↔
      p = "" ∨ Text.startsWith r "//" = false)) := by
  simp only [fullRoute_placed]
  exact ⟨joinRoute_joinPrefix_iff p q r, joinRoute_eq_joinPrefix_iff⟩

/-- An endpoint in a group of a versioned interface. -/
def versionedEndpoint : Endpoint where
  route := "users"
  methods := [.get]
  filePath := "main.go"
  line := 1
  routerPrefix := "/api/"

/-- Its full route is joined like a prefix. A second slash in front of a nested prefix shows in the
full route, but not in the prefix of the nested group. -/
theorem versionedEndpoint_respects_nesting :
    (versionedEndpoint.placed (joinPrefix "/api/" "v1/") "users").fullRoute =
      (versionedEndpoint.placed "/api/"
        (versionedEndpoint.placed "v1/" "users").fullRoute).fullRoute ∧
    (versionedEndpoint.placed "/api/" "users").fullRoute = joinPrefix "/api/" "users" ∧
    joinPrefix "/api/" "users" = "/api/users" ∧
    (versionedEndpoint.placed (joinPrefix "/api/" "//v1") "users").fullRoute ≠
      (versionedEndpoint.placed "/api/"
        (versionedEndpoint.placed "//v1" "users").fullRoute).fullRoute := by
  have hnested := full_route_respects_nesting versionedEndpoint "/api/" "v1/" "users"
  have hdoubled := full_route_respects_nesting versionedEndpoint "/api/" "//v1" "users"
  refine ⟨hnested.1.mpr (.inr (.inr ?_)), (hnested.2 ?_).mpr (.inr ?_), ?_, mt hdoubled.1.mp ?_⟩
  · decide
  · decide
  · decide
  · decide
  · simp [Text.startsWith]

end Endpoint

end RouteAudit
