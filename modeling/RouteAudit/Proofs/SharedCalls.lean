import RouteAudit.Proofs.SyntaxTree
import RouteAudit.Proofs.VerbCalls

/-! # Calls that two frameworks could share

Most files that use a framework import `net/http` as well, and then both are looked for. The calls
that `net/http` registers routes with have the names `HandleFunc` and `Handle`, and of the other
frameworks one has a call of such a name: there `Handle` takes a verb and then the path. So the two
disagree about the first argument. For `net/http` it is a pattern that has a slash once it has been
taken apart, and its characters are all in the literal (`mem_of_mem_splitPattern`). For the other it
spells a verb. No text does both, because trimming and capitals keep a slash
(`parse?_eq_none_of_slash`), whatever other characters become the letters of a verb.

`no_call_reported_twice` is the result for whole trees. -/

namespace RouteAudit

open Go (Node)

/-! ### Slashes -/

namespace Text

variable {p : Char → Bool} {c : Char}

theorem mem_dropWhile_of_not (hp : p c = false) {s : List Char} (h : c ∈ s) :
    c ∈ s.dropWhile p := by
  induction s with
  | nil => exact h
  | cons d r ih =>
      rw [List.dropWhile_cons]
      split
      · rename_i hd
        rcases List.mem_cons.mp h with rfl | hr
        · rw [hp] at hd
          cases hd
        · exact ih hr
      · exact h

theorem mem_trim_of_not (hp : p c = false) {s : String} (h : c ∈ s.toList) :
    c ∈ (trim p s).toList := by
  rw [toList_trim, dropEndWhile, List.mem_reverse]
  exact mem_dropWhile_of_not hp (List.mem_reverse.mpr (mem_dropWhile_of_not hp h))

theorem mem_of_mem_trim {s : String} (h : c ∈ (trim p s).toList) : c ∈ s.toList := by
  rw [toList_trim, dropEndWhile, List.mem_reverse] at h
  have hreverse := (List.dropWhile_suffix p).subset h
  exact (List.dropWhile_suffix p).subset (List.mem_reverse.mp hreverse)

theorem slash_mem_upper {s : String} (h : '/' ∈ s.toList) : '/' ∈ (upper s).toList := by
  rw [toList_upper, List.mem_flatMap]
  refine ⟨'/', h, ?_⟩
  rw [upperChar_ascii (by decide)]
  decide

theorem contains_slash_iff {s : String} : contains s "/" = true ↔ '/' ∈ s.toList := by
  rw [contains, show "/".toList = ['/'] from rfl, occurs_singleton, List.contains_iff_mem]

theorem mem_of_cutAt {sep : Char} {s word rest : List Char} (h : cutAt sep s = some (word, rest))
    (hc : c ∈ rest) : c ∈ s := by
  induction s generalizing word with
  | nil => cases h
  | cons d r ih =>
      rw [cutAt] at h
      split at h
      · cases h
        exact List.mem_cons_of_mem d hc
      · obtain ⟨cut, hcut, heq⟩ := Option.map_eq_some_iff.mp h
        cases heq
        exact List.mem_cons_of_mem d (ih hcut)

end Text

theorem Method.parse?_eq_none_of_slash {s : String} (h : '/' ∈ s.toList) : parse? s = none := by
  cases hm : parse? s with
  | none => rfl
  | some m =>
      have hname : m.name = Text.upper (Text.trim Text.isBlank s) := name_of_ofName? hm
      have hslash := Text.slash_mem_upper (Text.mem_trim_of_not Text.isBlank_slash h)
      rw [← hname] at hslash
      cases m <;> exact absurd hslash (by decide)

/-! ### Patterns -/

variable {c : Char}

theorem mem_of_mem_dropHost {route : List Char} (h : c ∈ dropHost route) : c ∈ route := by
  unfold dropHost at h
  split at h
  · exact h
  · exact h
  · split at h
    · exact (List.dropWhile_suffix _).subset h
    · exact h

theorem mem_of_mem_splitPattern {pattern : String} (h : c ∈ (splitPattern pattern).1.toList) :
    c ∈ pattern.toList := by
  have hwhole : c ∈ (String.ofList (dropHost pattern.toList)).toList → c ∈ pattern.toList := by
    rw [String.toList_ofList]
    exact mem_of_mem_dropHost
  unfold splitPattern at h
  split at h
  · exact hwhole h
  · rename_i word rest hcut
    split at h
    · exact hwhole h
    · rw [String.toList_ofList] at h
      have hrest := Text.mem_of_mem_trim (mem_of_mem_dropHost h)
      rw [String.toList_ofList] at hrest
      exact Text.mem_of_cutAt hcut hrest

theorem verbOf?_eq_none_of_pattern {n : Node}
    (h : Text.contains (splitPattern n.stringOrEmpty).1 "/" = true) : verbOf? n = none := by
  have hslash : '/' ∈ n.stringOrEmpty.toList :=
    mem_of_mem_splitPattern (Text.contains_slash_iff.mp h)
  unfold Node.stringOrEmpty at hslash
  unfold verbOf?
  cases hvalue : n.stringValue? with
  | none =>
      rw [hvalue] at hslash
      exact absurd hslash (by decide)
  | some s =>
      rw [hvalue] at hslash
      exact Method.parse?_eq_none_of_slash hslash

/-! ### Calls -/

/-- A call with a name that `net/http` knows stands for a verb argument or for nothing. -/
theorem Grammar.lookup_verbs_of_netHttp {g : Grammar} (hg : g ∈ [gin, echo, chi, fiber])
    {name : String} (hname : name ∈ netHttp.allVerbCalls) :
    g.verbs.lookup name = none ∧ g.allVerbCalls.contains name = false := by
  have hall : ∀ g ∈ [gin, echo, chi, fiber], ∀ name ∈ netHttp.allVerbCalls,
      g.verbs.lookup name = none ∧ g.allVerbCalls.contains name = false := by decide
  exact hall g hg name hname

theorem length_filterMap_add_le {α β : Type} {f f' : α → Option β}
    (h : ∀ a, f a = none ∨ f' a = none) (xs : List α) :
    (xs.filterMap f).length + (xs.filterMap f').length ≤ xs.length := by
  induction xs with
  | nil => exact Nat.le_refl 0
  | cons a rest ih =>
      rw [List.filterMap_cons, List.filterMap_cons, List.length_cons]
      rcases h a with hnone | hnone
      · rw [hnone]
        cases f' a <;> simp only [List.length_cons] <;> omega
      · rw [hnone]
        cases f a <;> simp only [List.length_cons] <;> omega

namespace Detector

theorem methodCall?_of_target? {d : Detector} (hbare : d.grammar.bareCalls = false) {call : Node}
    {target : Target} (h : d.target? call = some target) :
    ∃ receiver, call.methodCall? = some (receiver, target.method) := by
  cases hcall : call.methodCall? with
  | none => simp [target?, hcall, hbare] at h
  | some found =>
      rw [target?_of_methodCall? hcall] at h
      cases h
      exact ⟨found.1, rfl⟩

theorem verbs?_netHttp {v : Vocabulary} {method : String} {args : List Node}
    {found : List Method × List Node} (h : verbs? ⟨.netHttp, v⟩ method args = some found) :
    method ∈ Grammar.netHttp.allVerbCalls ∧ found = (Method.all, args) := by
  have hverbs : verbs? ⟨.netHttp, v⟩ method args =
      if Grammar.netHttp.allVerbCalls.contains method then some (Method.all, args) else none := rfl
  rw [hverbs] at h
  split at h
  · rename_i hname
    cases h
    exact ⟨List.contains_iff_mem.mp hname, rfl⟩
  · cases h

/-- What `net/http` reads off a call: one of its two names, all arguments, and a pattern that has a
slash once it has been taken apart. -/
theorem registration?_netHttp {v : Vocabulary} {call : Node} {reg : Registration}
    (h : registration? ⟨.netHttp, v⟩ call = some reg) :
    target? ⟨.netHttp, v⟩ call = some reg.target ∧
      reg.target.method ∈ Grammar.netHttp.allVerbCalls ∧ reg.args = call.callArguments ∧
      ∃ first rest, call.callArguments = first :: rest ∧
        reg.route = (splitPattern first.stringOrEmpty).1 ∧ Text.contains reg.route "/" = true := by
  obtain ⟨target, htarget, h⟩ := Option.bind_eq_some_iff.mp h
  obtain ⟨found, hfound, h⟩ := Option.bind_eq_some_iff.mp h
  obtain ⟨hname, rfl⟩ := verbs?_netHttp hfound
  obtain ⟨first, rest, hargs, -, -, hslash, rfl⟩ := registrationOf?_eq_some_iff.mp h
  exact ⟨htarget, hname, rfl, first, rest, hargs, rfl, hslash rfl⟩

theorem verbOf?_of_verbs? {d : Detector} {name : String} {args : List Node}
    {found : List Method × List Node} (hverbs : d.grammar.verbs.lookup name = none)
    (hall : d.grammar.allVerbCalls.contains name = false)
    (h : d.verbs? name args = some found) :
    ∃ first rest, args = first :: rest ∧ verbOf? first ≠ none := by
  unfold verbs? at h
  rw [hverbs, hall] at h
  cases args with
  | nil => simp at h
  | cons first rest =>
      refine ⟨first, rest, rfl, fun hnone => ?_⟩
      simp [hnone] at h

/-- No call has a registration with `net/http` and with another framework. -/
theorem registration?_eq_none_or {g : Grammar} (hg : g ∈ [Grammar.gin, .echo, .chi, .fiber])
    (v w : Vocabulary) (call : Node) :
    registration? ⟨.netHttp, v⟩ call = none ∨ registration? ⟨g, w⟩ call = none := by
  cases hhttp : registration? ⟨.netHttp, v⟩ call with
  | none => exact .inl rfl
  | some reg =>
      obtain ⟨htarget, hname, -, first, rest, hargs, hroute, hslash⟩ := registration?_netHttp hhttp
      rw [hroute] at hslash
      right
      cases hreg : registration? ⟨g, w⟩ call with
      | none => rfl
      | some reg' =>
          obtain ⟨target, htarget', hreg⟩ := Option.bind_eq_some_iff.mp hreg
          obtain ⟨found, hfound, -⟩ := Option.bind_eq_some_iff.mp hreg
          have hbare : g.bareCalls = false := by
            have hall : ∀ g ∈ [Grammar.gin, .echo, .chi, .fiber], g.bareCalls = false := by decide
            exact hall g hg
          obtain ⟨receiver, hcall⟩ := methodCall?_of_target? hbare htarget'
          -- both read the name off the same call
          have hsame : target.method = reg.target.method := by
            rw [target?_of_methodCall? hcall] at htarget
            rw [← Option.some.inj htarget]
          obtain ⟨hverbs, hall⟩ := Grammar.lookup_verbs_of_netHttp hg (hsame ▸ hname)
          obtain ⟨first', rest', hargs', hverb⟩ := verbOf?_of_verbs? hverbs hall hfound
          obtain ⟨rfl, rfl⟩ : first = first' ∧ rest = rest' := by simpa [hargs] using hargs'
          exact absurd (verbOf?_eq_none_of_pattern hslash) hverb

/-- **No call is reported twice because of `net/http`.** In every tree, a call that registers an
endpoint with `net/http` registers none with another framework, whatever the vocabularies are. So
the two find no more endpoints together than the tree has calls. -/
theorem no_call_reported_twice (g : Grammar) (hg : g ∈ [Grammar.gin, .echo, .chi, .fiber])
    (v w : Vocabulary) (path : String) (root : Node) :
    (∀ call ∈ root.walk, ∀ e e',
      ¬(readCall ⟨.netHttp, v⟩ path (findGroups ⟨.netHttp, v⟩ root) call = .route e ∧
        readCall ⟨g, w⟩ path (findGroups ⟨g, w⟩ root) call = .route e')) ∧
    (discover ⟨.netHttp, v⟩ path root).length + (discover ⟨g, w⟩ path root).length ≤
      root.walk.countP fun n => n.kind == .call := by
  have hone : ∀ call,
      (readCall ⟨.netHttp, v⟩ path (findGroups ⟨.netHttp, v⟩ root) call).endpoint? = none ∨
        (readCall ⟨g, w⟩ path (findGroups ⟨g, w⟩ root) call).endpoint? = none := by
    intro call
    rw [endpoint?_readCall, endpoint?_readCall, Option.map_eq_none_iff, Option.map_eq_none_iff]
    exact registration?_eq_none_or hg v w call
  constructor
  · rintro call - e e' ⟨he, he'⟩
    rcases hone call with hnone | hnone
    · rw [he] at hnone
      cases hnone
    · rw [he'] at hnone
      cases hnone
  · unfold discover readings
    rw [List.filterMap_map, List.filterMap_map, List.countP_eq_length_filter]
    exact length_filterMap_add_le hone _

/-- The tree of `r.Handle("GET", "/x")`. -/
def handleCall : Node :=
  .mk { kind := .call, span := ⟨0, 21⟩ }
    [.mk { kind := .selector, role := some .function, span := ⟨0, 8⟩ }
      [.mk { kind := .identifier, role := some .operand, span := ⟨0, 1⟩, text := "r" } [],
       .mk { kind := .fieldIdentifier, role := some .field, span := ⟨2, 8⟩, text := "Handle" } []],
     .mk { kind := .other "argument_list", role := some .arguments, span := ⟨8, 21⟩ }
      [.mk { kind := .interpretedString, span := ⟨9, 14⟩, text := "\"GET\"" } [],
       .mk { kind := .interpretedString, span := ⟨16, 20⟩, text := "\"/x\"" } []]]

/-- The endpoint that it registers with one framework. -/
def handleEndpoint : Endpoint where
  route := "/x"
  methods := [.get]
  filePath := "main.go"
  line := 1
  framework := .gin

/-- One framework reads it as a route, and so `net/http` does not. -/
theorem handleCall_reported_once :
    readCall { grammar := .gin } "main.go" (findGroups { grammar := .gin } handleCall) handleCall =
        .route handleEndpoint ∧
      ∀ e, readCall { grammar := .netHttp } "main.go"
        (findGroups { grammar := .netHttp } handleCall) handleCall ≠ .route e := by
  have hroute : readCall { grammar := .gin } "main.go"
      (findGroups { grammar := .gin } handleCall) handleCall = .route handleEndpoint := by
    simp only [findGroups, Node.walk_eq_preorder]
    decide +kernel
  refine ⟨hroute, fun e he => ?_⟩
  exact (no_call_reported_twice .gin (by simp) .standard .standard "main.go" handleCall).1
    handleCall (Node.self_mem_walk _) e handleEndpoint ⟨he, hroute⟩

end Detector

end RouteAudit
