import RouteAudit.Go.Name
import RouteAudit.Proofs.JoinedText

/-! # Keys of handles

A router is known by the text of the expression that holds it, such as `s.api.v1`. `SelectorChain n
parts` says that `n` is a chain of selectors, of any length, that starts in an identifier and has
these parts. The key of a chain is its parts with dots between them (`dottedName_of_chain`), and no
part of a chain has a dot, so keys tell chains apart as far as their parts differ.

A call of a method is split into receiver and method, and it also has a name as a whole. Both read
the selector that is called, the one from its two ends (`methodCall?_eq_some_iff`), the other as a
chain that is one part longer than the receiver (`chainParts_of_selects`). -/

namespace RouteAudit.Go.Node

/-- The node selects a name from an operand. -/
structure Selects (n operand : Node) (name : String) : Prop where
  kind : n.kind = .selector
  operand : n.child? .operand = some operand
  field : ∃ f, n.child? .field = some f ∧ f.text = name

/-- The node is a chain of selectors that starts in an identifier, with these parts in source
order. -/
inductive SelectorChain : Node → List String → Prop where
  | root {n : Node} (h : n.kind.isIdentifier = true) : SelectorChain n [n.text]
  | select {n operand : Node} {name : String} {parts : List String} (h : n.Selects operand name)
      (rest : SelectorChain operand parts) : SelectorChain n (parts ++ [name])

/-! ### Parts of a chain -/

theorem operandParts_of_find? {cs : List Node} {operand : Node}
    (h : cs.find? (fun c => c.role == some .operand) = some operand) :
    operandParts cs = operand.chainParts := by
  induction cs with
  | nil => cases h
  | cons c rest ih =>
      rw [operandParts]
      by_cases hc : c.role = some .operand
      · rw [List.find?_cons_of_pos (by simpa using hc)] at h
        rw [if_pos hc, Option.some.inj h]
      · rw [List.find?_cons_of_neg (by simpa using hc)] at h
        rw [if_neg hc, ih h]

theorem chainParts_of_isIdentifier {n : Node} (h : n.kind.isIdentifier = true) :
    n.chainParts = [n.text] := by
  obtain ⟨i, cs⟩ := n
  exact if_pos h

theorem Selects.textOf {n operand : Node} {name : String} (h : n.Selects operand name) :
    n.textOf .field = name := by
  obtain ⟨f, hf, rfl⟩ := h.field
  rw [Node.textOf, hf]

theorem chainParts_of_selects {n operand : Node} {name : String} (h : n.Selects operand name) :
    n.chainParts = operand.chainParts ++ [name] := by
  have htext := h.textOf
  have hoperand := h.operand
  have hkind := h.kind
  obtain ⟨i, cs⟩ := n
  replace hkind : i.kind = .selector := hkind
  rw [chainParts, hkind, if_neg (by decide), if_pos rfl, htext, ← operandParts_of_find? hoperand]
  rfl

theorem chainParts_of_chain {n : Node} {parts : List String} (h : n.SelectorChain parts) :
    n.chainParts = parts := by
  induction h with
  | root hroot => exact chainParts_of_isIdentifier hroot
  | select hselects _ ih => rw [chainParts_of_selects hselects, ih]

theorem SelectorChain.ne_nil {n : Node} {parts : List String} (h : n.SelectorChain parts) :
    parts ≠ [] := by
  cases h with
  | root => exact List.cons_ne_nil _ _
  | select => simp

/-! ### Keys -/

/-- The key of a chain is its parts, joined by dots. -/
theorem dottedName_of_chain {n : Node} {parts : List String} (h : n.SelectorChain parts) :
    n.dottedName = Text.join "." parts := by
  rw [dottedName, chainParts_of_chain h]

theorem dottedName_of_selects {n operand : Node} {name : String} (h : n.Selects operand name)
    (hparts : operand.chainParts ≠ []) : n.dottedName = operand.dottedName ++ "." ++ name := by
  rw [dottedName, chainParts_of_selects h, Text.join_append "." (List.cons_ne_nil _ _) hparts,
    Text.join_singleton]
  rfl

/-! ### Calls of methods -/

theorem exists_of_textOf_ne_empty {n : Node} {r : Role} (h : n.textOf r ≠ "") :
    ∃ c, n.child? r = some c ∧ c.text = n.textOf r := by
  unfold textOf at h ⊢
  split at h
  · next c hc => exact ⟨c, hc, rfl⟩
  · exact absurd rfl h

/-- What is called is a selector with a name in it. -/
theorem methodCall?_eq_some_iff {call receiver : Node} {method : String} :
    call.methodCall? = some (receiver, method) ↔
      method ≠ "" ∧ ∃ f, call.child? .function = some f ∧ f.Selects receiver method := by
  constructor
  · intro h
    unfold methodCall? at h
    split at h
    · next f hf =>
        split at h
        · next hkind =>
            dsimp only at h
            split at h
            · next operand hoperand =>
                split at h
                · cases h
                · next hmethod =>
                    cases h
                    refine ⟨by simpa using hmethod, f, hf, hkind, hoperand, ?_⟩
                    exact exists_of_textOf_ne_empty (by simpa using hmethod)
            · cases h
        · cases h
    · cases h
  · rintro ⟨hmethod, f, hf, hselects⟩
    have hempty : ¬method.isEmpty = true := by simpa using hmethod
    rw [methodCall?, hf]
    dsimp only
    rw [if_pos hselects.kind, hselects.operand, hselects.textOf]
    dsimp only
    rw [if_neg hempty]

theorem callName_of_child? {call f : Node} (h : call.child? .function = some f) :
    call.callName = f.dottedName := by
  rw [callName, h]

/-- **Keys of handles are faithful.** The key of a chain of selectors is its parts, joined by dots
in source order. Where no part has a dot, two chains have the same key exactly when they have the
same parts. A call of a method on such a chain is split into this chain and the method, and its name
is the key of the chain, a dot and the method. -/
theorem handle_keys_faithful {a b : Node} {ps qs : List String} (ha : a.SelectorChain ps)
    (hb : b.SelectorChain qs) (hps : ∀ p ∈ ps, '.' ∉ p.toList) (hqs : ∀ q ∈ qs, '.' ∉ q.toList) :
    a.dottedName = Text.join "." ps ∧
    (a.dottedName = b.dottedName ↔ ps = qs) ∧
    ∀ (call : Node) (method : String),
      (call.methodCall? = some (a, method) ↔
        method ≠ "" ∧ ∃ f, call.child? .function = some f ∧ f.Selects a method) ∧
      (call.methodCall? = some (a, method) → call.callName = a.dottedName ++ "." ++ method) := by
  refine ⟨dottedName_of_chain ha, ?_, fun call method => ⟨methodCall?_eq_some_iff, fun h => ?_⟩⟩
  · rw [dottedName_of_chain ha, dottedName_of_chain hb]
    exact Text.join_inj rfl ha.ne_nil hb.ne_nil hps hqs
  · obtain ⟨-, f, hf, hselects⟩ := methodCall?_eq_some_iff.mp h
    have hne : a.chainParts ≠ [] := by
      rw [chainParts_of_chain ha]
      exact ha.ne_nil
    rw [callName_of_child? hf, dottedName_of_selects hselects hne]

/-- An operand: an identifier and the names that are selected from it, the last one first. -/
def chainFrom (root : String) : List String → Node
  | [] => .mk { kind := .identifier, role := some .operand, text := root } []
  | name :: names => .mk { kind := .selector, role := some .operand }
      [chainFrom root names, .mk { kind := .fieldIdentifier, role := some .field, text := name } []]

theorem selectorChain_chainFrom (root : String) : ∀ names : List String,
    (chainFrom root names).SelectorChain (root :: names.reverse)
  | [] => .root rfl
  | name :: names => by
      have hselects : (chainFrom root (name :: names)).Selects (chainFrom root names) name :=
        ⟨rfl, by cases names <;> rfl, _, by cases names <;> rfl, rfl⟩
      rw [List.reverse_cons, ← List.cons_append]
      exact .select hselects (selectorChain_chainFrom root names)

/-- The call `s.api.v1.GET()`. -/
def versionedCall : Node :=
  .mk { kind := .call }
    [.mk { kind := .selector, role := some .function }
      [chainFrom "s" ["v1", "api"],
       .mk { kind := .fieldIdentifier, role := some .field, text := "GET" } []]]

/-- The handles `s.api.v1` and `s.apiv1` differ, and the call is named after the first. -/
theorem versionedCall_key_faithful :
    (chainFrom "s" ["v1", "api"]).dottedName = "s.api.v1" ∧
      (chainFrom "s" ["v1", "api"]).dottedName ≠ (chainFrom "s" ["apiv1"]).dottedName ∧
      versionedCall.methodCall? = some (chainFrom "s" ["v1", "api"], "GET") ∧
      versionedCall.callName = "s.api.v1.GET" := by
  obtain ⟨hkey, hiff, hcall⟩ := handle_keys_faithful (selectorChain_chainFrom "s" ["v1", "api"])
    (selectorChain_chainFrom "s" ["apiv1"]) (by decide) (by decide)
  have hmethod := (hcall versionedCall "GET").1.mpr ⟨by decide, _, rfl, rfl, rfl, _, rfl, rfl⟩
  have hkey' : (chainFrom "s" ["v1", "api"]).dottedName = "s.api.v1" := hkey.trans (by decide)
  refine ⟨hkey', fun h => absurd (hiff.mp h) (by decide), hmethod, ?_⟩
  rw [(hcall versionedCall "GET").2 hmethod, hkey']
  decide

end RouteAudit.Go.Node
