import RouteAudit.Proofs.HandlerWrappers
import RouteAudit.Proofs.PrefixJoin
import RouteAudit.Proofs.SharedCalls

/-! # Routes of patterns

A pattern of `net/http` is a path, possibly with a host in front of it, possibly with a verb and a
blank in front of that: `"GET example.com/items"`. `splitPattern` cuts at the first blank, asks
whether the word before it spells a verb, trims what is left, and drops what stands before the
first slash. The steps do not get in each other's way. A path starts with a slash, which no trimming
and no host reaches beyond (`dropHost_append`, `toList_trim_append`), and a first word that spells
no verb is part of the host.

`patterns_decoded_exactly` says so for every host and path, and that all routes that are found in a
tree start with a slash: of a text with a slash somewhere, dropping the host leaves a text with a
slash in front (`startsWith_splitPattern`). -/

namespace RouteAudit

open Go (Node)

/-! ### Cutting and trimming -/

namespace Text

theorem cutAt_of_not_mem {sep : Char} {s : List Char} (h : sep ∉ s) : cutAt sep s = none := by
  induction s with
  | nil => rfl
  | cons c rest ih =>
      rw [List.mem_cons, not_or] at h
      rw [cutAt, if_neg (Ne.symm h.1), ih h.2]
      rfl

theorem cutAt_append_cons {sep : Char} {word : List Char} (h : sep ∉ word) (rest : List Char) :
    cutAt sep (word ++ sep :: rest) = some (word, rest) := by
  induction word with
  | nil => exact if_pos rfl
  | cons c more ih =>
      rw [List.mem_cons, not_or] at h
      rw [List.cons_append, cutAt, if_neg (Ne.symm h.1), ih h.2]
      rfl

theorem startsWith_slash_iff {s : String} :
    startsWith s "/" = true ↔ ∃ rest, s.toList = '/' :: rest := by
  rw [startsWith, List.isPrefixOf_iff_prefix]
  constructor
  · rintro ⟨rest, hrest⟩
    exact ⟨rest, hrest.symm⟩
  · rintro ⟨rest, hrest⟩
    exact ⟨rest, hrest.symm⟩

variable {p : Char → Bool}

theorem dropWhile_append_cons {c : Char} (hc : p c = false) (s t : List Char) :
    (s ++ c :: t).dropWhile p = s.dropWhile p ++ c :: t := by
  rw [List.dropWhile_append, List.dropWhile_cons_of_neg (by simp [hc])]
  split
  · rename_i hnone
    rw [List.isEmpty_iff.mp hnone, List.nil_append]
  · rfl

theorem toList_trim_append {host path : String} (hpath : startsWith path "/" = true)
    (hend : ∀ c ∈ path.toList.getLast?, isBlank c = false) :
    (trim isBlank (host ++ path)).toList = host.toList.dropWhile isBlank ++ path.toList := by
  obtain ⟨rest, hrest⟩ := startsWith_slash_iff.mp hpath
  rw [toList_trim, String.toList_append, hrest, dropWhile_append_cons isBlank_slash, ← hrest,
    dropEndWhile_append, dropEndWhile_of_getLast? isBlank hend, hrest]
  rfl

end Text

/-! ### Patterns -/

theorem dropHost_append {host : List Char} (h : '/' ∉ host) (rest : List Char) :
    dropHost (host ++ '/' :: rest) = '/' :: rest := by
  unfold dropHost
  split
  · rename_i hnil
    simp at hnil
  · rename_i tail hslash
    cases host with
    | nil => rfl
    | cons c more =>
        obtain ⟨rfl, -⟩ := List.cons.inj hslash
        exact absurd List.mem_cons_self h
  · have hhost : ∀ c ∈ host, (c != '/') = true := by
      intro c hc
      rw [bne_iff_ne]
      exact fun he => h (he ▸ hc)
    rw [if_pos (by simp), List.dropWhile_append_of_pos hhost]
    rfl

theorem head?_dropHost {route : List Char} (h : '/' ∈ dropHost route) :
    ∃ rest, dropHost route = '/' :: rest := by
  obtain ⟨host, rest, hroute, hhost⟩ := List.eq_append_cons_of_mem (mem_of_mem_dropHost h)
  exact ⟨rest, by rw [hroute, dropHost_append hhost]⟩

namespace Method

theorem parse?_name (m : Method) : parse? m.name = some m := by cases m <;> decide

theorem space_not_mem_name (m : Method) : ' ' ∉ m.name.toList := by cases m <;> decide

end Method

theorem splitPattern_of_verb {word rest : String} {m : Method} (hword : ' ' ∉ word.toList)
    (hm : Method.parse? word = some m) :
    splitPattern (word ++ " " ++ rest) =
      (String.ofList (dropHost (Text.trim Text.isBlank rest).toList), some m) := by
  have hcut : Text.cutAt ' ' (word ++ " " ++ rest).toList = some (word.toList, rest.toList) := by
    rw [String.toList_append, String.toList_append, List.append_assoc]
    exact Text.cutAt_append_cons hword rest.toList
  unfold splitPattern
  rw [hcut]
  dsimp only
  rw [String.ofList_toList, hm, String.ofList_toList]

theorem splitPattern_of_no_verb {pattern : String}
    (h : ∀ word rest, pattern = word ++ " " ++ rest → ' ' ∉ word.toList →
      Method.parse? word = none) :
    splitPattern pattern = (String.ofList (dropHost pattern.toList), none) := by
  unfold splitPattern
  by_cases hspace : ' ' ∈ pattern.toList
  · obtain ⟨word, rest, hpattern, hword⟩ := List.eq_append_cons_of_mem hspace
    have hnone : Method.parse? (String.ofList word) = none := by
      refine h (String.ofList word) (String.ofList rest) ?_ (by simpa using hword)
      apply String.ext
      simp [hpattern]
    rw [show Text.cutAt ' ' pattern.toList = some (word, rest) by
      rw [hpattern, Text.cutAt_append_cons hword]]
    dsimp only
    rw [hnone]
  · rw [Text.cutAt_of_not_mem hspace]

section decoding
variable {host path : String} (hhost : '/' ∉ host.toList)
  (hpath : Text.startsWith path "/" = true)

include hhost hpath

theorem dropHost_host_path : String.ofList (dropHost (host ++ path).toList) = path := by
  obtain ⟨rest, hrest⟩ := Text.startsWith_slash_iff.mp hpath
  rw [String.toList_append, hrest, dropHost_append hhost, ← hrest, String.ofList_toList]

/-- A host is dropped after a verb as it is without one, also when blanks stand in front of it. -/
theorem splitPattern_verb_host_path (hend : ∀ c ∈ path.toList.getLast?, Text.isBlank c = false)
    {word : String} {m : Method} (hword : ' ' ∉ word.toList) (hm : Method.parse? word = some m) :
    splitPattern (word ++ " " ++ (host ++ path)) = (path, some m) := by
  have hkept : '/' ∉ host.toList.dropWhile Text.isBlank := fun h =>
    hhost ((List.dropWhile_suffix _).subset h)
  obtain ⟨rest, hrest⟩ := Text.startsWith_slash_iff.mp hpath
  rw [splitPattern_of_verb hword hm, Text.toList_trim_append hpath hend, hrest,
    dropHost_append hkept, ← hrest, String.ofList_toList]

end decoding

/-- A route with a slash has one in front. -/
theorem startsWith_splitPattern {pattern : String}
    (h : Text.contains (splitPattern pattern).1 "/" = true) :
    Text.startsWith (splitPattern pattern).1 "/" = true := by
  have hhost : ∃ route, (splitPattern pattern).1 = String.ofList (dropHost route) := by
    unfold splitPattern
    split
    · exact ⟨_, rfl⟩
    · split
      · exact ⟨_, rfl⟩
      · exact ⟨_, rfl⟩
  obtain ⟨route, hroute⟩ := hhost
  rw [hroute, Text.contains_slash_iff, String.toList_ofList] at h
  rw [hroute, Text.startsWith_slash_iff, String.toList_ofList]
  exact head?_dropHost h

/-! ### Routes -/

/-- **Patterns are decoded exactly.** Let a host have no slash and a path start with one.

* Behind a verb and a blank, host and path are decoded to the path and the verb, if the path ends in
  no white space. This holds for every word without a blank that spells a verb.
* Without a verb in front, where the text before the first blank spells none, they are decoded to
  the path alone.

Every endpoint that `net/http` finds in a tree has a route that starts with a slash, and it has no
prefix in front of it. -/
theorem patterns_decoded_exactly :
    (∀ (m : Method) (host path : String), '/' ∉ host.toList → Text.startsWith path "/" = true →
      (∀ c ∈ path.toList.getLast?, Text.isBlank c = false) →
        splitPattern (m.name ++ " " ++ (host ++ path)) = (path, some m) ∧
        ∀ word, ' ' ∉ word.toList → Method.parse? word = some m →
          splitPattern (word ++ " " ++ (host ++ path)) = (path, some m)) ∧
    (∀ host path : String, '/' ∉ host.toList → Text.startsWith path "/" = true →
      (∀ word rest, host ++ path = word ++ " " ++ rest → ' ' ∉ word.toList →
        Method.parse? word = none) →
        splitPattern (host ++ path) = (path, none)) ∧
    ∀ (v : Vocabulary) (file : String) (root : Node),
      ∀ e ∈ Detector.discover ⟨.netHttp, v⟩ file root,
        Text.startsWith e.route "/" = true ∧ e.fullRoute = e.route := by
  refine ⟨fun m host path hhost hpath hend => ⟨?_, fun word hword hm => ?_⟩,
    fun host path hhost hpath hnone => ?_, fun v file root e he => ?_⟩
  · exact splitPattern_verb_host_path hhost hpath hend m.space_not_mem_name m.parse?_name
  · exact splitPattern_verb_host_path hhost hpath hend hword hm
  · rw [splitPattern_of_no_verb hnone, dropHost_host_path hhost hpath]
  · obtain ⟨call, -, -, r, hr, rfl⟩ := Detector.mem_discover_iff.mp he
    obtain ⟨-, -, -, first, rest, -, hroute, hslash⟩ := Detector.registration?_netHttp hr
    constructor
    · show Text.startsWith r.route "/" = true
      rw [hroute] at hslash ⊢
      exact startsWith_splitPattern hslash
    · rw [Endpoint.fullRoute, Detector.routerPrefix_registered,
        Detector.findGroups_of_groupless rfl rfl, Detector.groupOf?_empty]
      rfl

/-- A verb before a blank host and a path with a blank in it, and a host whose first word is no
verb. -/
theorem spaced_patterns_decoded :
    splitPattern "GET \u3000/a b" = ("/a b", some .get) ∧
    splitPattern "go to/x" = ("/x", none) ∧
    ∃ e ∈ Detector.discover { grammar := .netHttp } "main.go" uncoveringCall,
      Text.startsWith e.route "/" = true := by
  obtain ⟨hverb, hplain, hroutes⟩ := patterns_decoded_exactly
  have hfirst : ∀ word rest, "go to" ++ "/x" = word ++ " " ++ rest → ' ' ∉ word.toList →
      Method.parse? word = none := by
    intro word rest heq hword
    have hcut := Text.cutAt_append_cons hword rest.toList
    have hlist : word.toList ++ ' ' :: rest.toList = ("go to" ++ "/x").toList := by
      rw [heq]
      simp
    rw [hlist, show Text.cutAt ' ' ("go to" ++ "/x").toList = some (['g', 'o'], "to/x".toList) by
      decide] at hcut
    obtain rfl : "go" = word := String.ext (Prod.mk.inj (Option.some.inj hcut)).1
    decide
  have hfound : uncoveringEndpoint "Gate" ["Auth"]
      { requiresAuth := true, dependencies := ["Auth"], source := .middleware } ∈
        Detector.discover { grammar := .netHttp } "main.go" uncoveringCall := by
    simp only [Detector.discover, Detector.readings, Detector.findGroups, Node.walk_eq_preorder]
    decide +kernel
  have hend : ∀ c ∈ "/a b".toList.getLast?, Text.isBlank c = false := by
    intro c hc
    obtain rfl : 'b' = c := Option.some.inj hc
    decide
  exact ⟨(hverb .get "\u3000" "/a b" (by decide) (by decide) hend).1,
    hplain "go to" "/x" (by decide) (by decide) hfirst,
    _, hfound, (hroutes .standard "main.go" uncoveringCall _ hfound).1⟩

end RouteAudit
