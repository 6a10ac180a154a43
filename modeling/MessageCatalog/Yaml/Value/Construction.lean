import MessageCatalog.Text.Lowercase
import MessageCatalog.Yaml.Graph.Reading
import MessageCatalog.Yaml.Scalar.Binary
import MessageCatalog.Yaml.Value.Basic

/-!
# Construction of values

The value of a node is determined by its tag. Collections are filled breadth first, each after the
collection that it is found in, so that of two faults the one that is nearer to the root is reported.
Before a mapping is filled, the mappings under its merge keys are put in front of its own entries.
-/

namespace MessageCatalog
namespace Yaml

/-- The state of construction. -/
structure Construction where
  graph : Graph
  /-- The collections that are found and not yet filled, in order. -/
  waiting : List NodeId
  /-- The collections that are found. -/
  found : List NodeId
deriving DecidableEq, Repr

/-- A step of construction. -/
abbrev Building (α : Type) : Type :=
  StateT Construction (Except Failure) α

namespace Building

/-- Gives up: the document is malformed. -/
def fail {α : Type} : Building α :=
  throw .malformed

/-- The node with a number. -/
def node (id : NodeId) : Building Node :=
  return (← get).graph.node id

/-- Replaces a node. -/
def replace (id : NodeId) (node : Node) : Building Unit :=
  modify fun s => { s with graph := s.graph.replace id node }

/-- A bound for the length of a path through the graph on which no node is met twice. -/
def depth : Building Nat :=
  return (← get).graph.nodes.size + 1

/-- The text of a scalar; that of a mapping is the text of its default value. -/
def scalarText (id : NodeId) : Nat → Building Text
  | 0 => fail
  | depth + 1 => do
      match ← node id with
      | .scalar _ text => return text
      | .sequence .. => fail
      | .mapping _ entries =>
          let graph := (← get).graph
          let some (_, value) := entries.find? fun (key, _) => (graph.node key).tag = .value | fail
          scalarText value depth

/-- Remembers that a collection is to be filled. -/
def await (id : NodeId) : Building Unit :=
  modify fun s =>
    if s.found.contains id then s
    else { s with waiting := s.waiting ++ [id], found := id :: s.found }

/-- The value that the text of a scalar gives. -/
def ofScalar (id : NodeId) (read : Text → Except Failure Value) : Building Value := do
  match read (← scalarText id (← depth)) with
  | .ok v => return v
  | .error e => throw e

/-- The truth value with a name. -/
def booleanOf (t : Text) : Except Failure Value :=
  let word := Text.lowercase t
  match Tag.booleans.lookup word with
  | some b => .ok (.boolean b)
  | none => .error (.unknownBoolean word)

/-- The date or moment that a text denotes. -/
def momentOf (t : Text) : Except Failure Value := do
  match ← Moment.ofText t with
  | .inl date => return .date date
  | .inr moment => return .moment moment

/-- The date or moment of a node, which must be a scalar itself. -/
def moment (id : NodeId) : Building Value := do
  match ← node id with
  | .mapping .. => ofScalar id fun _ => .error .momentOfMapping
  | _ => ofScalar id momentOf

/-- The value of a node; collections are filled later. -/
def value (id : NodeId) : Building Value := do
  match (← node id).tag with
  | .null => ofScalar id fun _ => .ok .null
  | .boolean => ofScalar id booleanOf
  | .integer => ofScalar id fun t => (Number.integer t).map .integer
  | .float => ofScalar id fun t => (Number.float t).map .float
  | .binary => ofScalar id fun t => ((Binary.decode t).map .bytes).elim (.error .malformed) .ok
  | .moment => moment id
  | .text => ofScalar id fun t => .ok (.text t)
  | .orderedMapping => do await id; return .sequence id
  | .pairs => do await id; return .sequence id
  | .sequence => do await id; return .sequence id
  | .mapping => do await id; return .mapping id
  | .set => do await id; return .set id
  | .merge => fail
  | .value => fail
  | .unknown => fail

/-- The entries of a mapping node. -/
def entriesOf (id : NodeId) : Building (List (NodeId × NodeId)) := do
  match ← node id with
  | .mapping _ entries => return entries
  | _ => fail

/-- The node with another tag. -/
def retagged (tag : Tag) : Node → Node
  | .scalar _ text => .scalar tag text
  | .sequence _ items => .sequence tag items
  | .mapping _ entries => .mapping tag entries

/-- Puts the entries under merge keys in front of the own entries of a mapping, and makes texts of the
keys of default values. -/
def flatten : Nat → NodeId → Building Unit
  | 0, _ => fail
  | depth + 1, id => do
      let graph := (← get).graph
      let isMerge (entry : NodeId × NodeId) : Bool := (graph.node entry.1).tag = .merge
      let entries ← entriesOf id
      let tag := (← node id).tag
      let own := entries.filter (!isMerge ·)
      for (key, _) in own do
        if (graph.node key).tag = .value then replace key (retagged .text (graph.node key))
      replace id (.mapping tag own)
      let merged ← (entries.filter isMerge).flatMapM fun (_, source) => do
        match ← node source with
        | .scalar .. => fail
        | .mapping .. => do
            flatten depth source
            entriesOf source
        | .sequence _ items => do
            let parts ← items.mapM fun item => do
              flatten depth item
              entriesOf item
            return parts.reverse.flatten
      replace id (.mapping tag (merged ++ own))

/-- The entries of a mapping; of two values for a key the later one counts. -/
def mapping (id : NodeId) : Building (List (Value × Value)) := do
  flatten (← depth) id
  let mut result : List (Value × Value) := []
  for (keyNode, valueNode) in ← entriesOf id do
    let key ← value keyNode
    if !key.isKey then fail
    result := Value.put key (← value valueNode) result
  return result

/-- The items of a sequence node. -/
def itemsOf (id : NodeId) : Building (List NodeId) := do
  match ← node id with
  | .sequence _ items => return items
  | _ => fail

/-- The entry of a mapping with a single one. -/
def pair (id : NodeId) : Building Value := do
  match ← entriesOf id with
  | [(key, item)] => return .pair (← value key) (← value item)
  | _ => fail

/-- What a collection holds. -/
def collection (id : NodeId) : Building Collection := do
  match (← node id).tag with
  | .sequence => return .sequence (← (← itemsOf id).mapM value)
  | .mapping => return .mapping (← mapping id)
  | .set => return .set ((← mapping id).map (·.1))
  | _ => return .sequence (← (← itemsOf id).mapM pair)

/-- Fills the collections that wait, and those that are found on the way; each is filled once. -/
def collections : Nat → Building (List (NodeId × Collection))
  | 0 => fail
  | fuel + 1 => do
      match (← get).waiting with
      | [] => return []
      | id :: waiting => do
          modify ({ · with waiting })
          let filled ← collection id
          return (id, filled) :: (← collections fuel)

end Building

namespace Document

/-- The document that a graph gives. -/
def ofGraph (g : Graph) : Except Failure Document :=
  match g.root with
  | none => .ok ⟨.null, []⟩
  | some root => do
      let building : Building Document := do
        let value ← Building.value root
        return ⟨value, ← Building.collections (← Building.depth)⟩
      return (← building.run ⟨g, [], []⟩).1

/-- The document that a text gives. -/
def ofText (t : Text) : Except Failure Document := do
  if !t.all isAllowed then throw .malformed
  ofGraph (← Graph.ofTokens (Tokens.ofText t))

end Document
end Yaml
end MessageCatalog
