import RouteAudit.Data.Yaml.Node

/-! # Values of documents

`Yaml.read` gives the value that a text denotes. In a mapping a repeated key keeps its last value,
and a merge key puts the entries of other mappings before its own. -/

namespace RouteAudit.Yaml

/-- Entries taken over from several mappings: those of the earlier ones are set last. -/
def merged (parts : List (List (Value × Value))) : List (Value × Value) := parts.reverse.flatten

/-- A key that takes over the entries of other mappings. -/
def Node.isMerge : Node → Bool
  | .scalar .merge _ => true
  | _ => false

/-- The value of a key. As a key the sign for the value of a mapping is a text. -/
def keyOf : Node → Except Fault Value
  | .scalar .value text => return .text text
  | .scalar tag text => tag.read text
  | _ => throw .malformed

mutual

/-- The value of a node. -/
def Node.value : Node → Except Fault Value
  | .scalar tag text => tag.read text
  | .sequence tag items => do
    unless tag == .list do throw .malformed
    return .list (← valuesOf items)
  | .mapping tag entries => do
    unless tag == .map do throw .malformed
    let (taken, own) ← entriesOf entries
    return .map (Value.entriesOf (taken ++ own))

def valuesOf : List Node → Except Fault (List Value)
  | [] => return []
  | n :: rest => do return (← n.value) :: (← valuesOf rest)

/-- The entries of a mapping: those taken over from others, and its own. -/
def entriesOf : List (Node × Node) → Except Fault (List (Value × Value) × List (Value × Value))
  | [] => return ([], [])
  | (k, v) :: rest => do
    if k.isMerge then
      let more ← mergedFrom v
      let (taken, own) ← entriesOf rest
      return (more ++ taken, own)
    else
      let key ← keyOf k
      let value ← v.value
      let (taken, own) ← entriesOf rest
      return (taken, (key, value) :: own)

/-- The entries that a merge key takes over from a mapping or a sequence of mappings. -/
def mergedFrom : Node → Except Fault (List (Value × Value))
  | .mapping _ entries => do
    let (taken, own) ← entriesOf entries
    return taken ++ own
  | .sequence _ items => return merged (← mergedFromAll items)
  | .scalar .. => throw .malformed

def mergedFromAll : List Node → Except Fault (List (List (Value × Value)))
  | [] => return []
  | .mapping _ entries :: rest => do
    let (taken, own) ← entriesOf entries
    return (taken ++ own) :: (← mergedFromAll rest)
  | _ :: _ => throw .malformed

end

/-- The value that a text denotes; a text without a document denotes nothing. -/
def read (text : String) : Except Fault Value :=
  match (tokens? text.toList).bind Node.ofTokens? with
  | none => .error .malformed
  | some none => .ok .null
  | some (some root) => root.value

end RouteAudit.Yaml
