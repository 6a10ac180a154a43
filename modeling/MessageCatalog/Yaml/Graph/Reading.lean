import MessageCatalog.Yaml.Graph.Basic
import MessageCatalog.Yaml.Token.Stream

/-!
# Reading node graphs

Tokens are read node by node. A text has at most one document. Where a node may stand and none does,
an empty scalar is read. Anchors belong to one node each and are known from the start of that node on,
so that a collection can refer to itself.
-/

namespace MessageCatalog
namespace Yaml
namespace Graph

/-- A graph that is partly read. -/
structure Partial where
  tokens : List Token
  /-- Why there are no more tokens behind the last one. -/
  failure : Failure
  /-- What the handles of tags stand for. -/
  handles : List (Text × Text)
  anchors : List (Text × NodeId)
  nodes : Array Node
deriving DecidableEq, Repr

/-- A step of reading a graph. -/
abbrev Reading (α : Type) : Type :=
  StateT Partial (Except Failure) α

/-- The handles that every document knows. -/
def knownHandles : List (Text × Text) :=
  [("!", "!"), ("!!", Tag.common)]

/-- The tag that leaves a node to its form. -/
def plainTag : Text := "!"

/-- The parts of a node before its content: its anchor and the full name of its tag. -/
structure Properties where
  anchor : Option Text
  tag : Option Text
deriving DecidableEq, Repr

namespace Properties

/-- The node has neither an anchor nor a tag. -/
def isEmpty (p : Properties) : Bool :=
  p.anchor.isNone && p.tag.isNone

/-- The tag of a collection whose form gives it the tag `form`. -/
def collectionTag (p : Properties) (form : Tag) : Tag :=
  match p.tag with
  | none => form
  | some name => if name = plainTag then form else .ofName name

/-- The tag of a scalar. -/
def scalarTag (p : Properties) (isPlain : Bool) (text : Text) : Tag :=
  match p.tag with
  | none => if isPlain then .ofForm text else .text
  | some name => if name = plainTag then .ofForm text else .ofName name

end Properties

namespace Reading

/-- Gives up: the document is malformed. -/
def fail {α : Type} : Reading α :=
  throw .malformed

/-- The next token. -/
def peek : Reading Token := do
  let s ← get
  match s.tokens with
  | token :: _ => return token
  | [] => throw s.failure

/-- Takes the next token. -/
def skip : Reading Unit :=
  modify fun s => { s with tokens := s.tokens.drop 1 }

/-- Takes a token if it comes next, and tells whether it did. -/
def accepts (token : Token) : Reading Bool := do
  if (← peek) = token then
    skip
    return true
  else return false

/-- Takes a token that must come next. -/
def expect (token : Token) : Reading Unit := do
  unless ← accepts token do fail

/-- Adds a node. -/
def add (node : Node) : Reading NodeId :=
  modifyGet fun s => (s.nodes.size, { s with nodes := s.nodes.push node })

/-- Adds a node with an anchor perhaps, which must be a new one. -/
def addAnchored (anchor : Option Text) (node : Node) : Reading NodeId := do
  let id ← add node
  if let some name := anchor then
    modify fun s => { s with anchors := (name, id) :: s.anchors }
  return id

/-- Replaces a node. -/
def fill (id : NodeId) (node : Node) : Reading Unit :=
  modify fun s => { s with nodes := s.nodes.setIfInBounds id node }

/-- Reads a node unless one of the given tokens comes next, which means that it is left out. -/
def unlessNext (stops : List Token) (node : Reading NodeId) : Reading NodeId := do
  if stops.contains (← peek) then add .empty else node

/-- The full name of a tag. -/
def fullTag (handle : Option Text) (suffix : Text) : Reading Text := do
  match handle with
  | none => return suffix
  | some handle =>
      let some expansion := (← get).handles.lookup handle | fail
      return expansion ++ suffix

/-- Takes an anchor if one comes next. -/
def anchor? : Reading (Option Text) := do
  match ← peek with
  | .anchor name => do
      skip
      return some name
  | _ => return none

/-- Takes a tag if one comes next. -/
def tag? : Reading (Option (Option Text × Text)) := do
  match ← peek with
  | .tag handle suffix => do
      skip
      return some (handle, suffix)
  | _ => return none

/-- Takes the anchor and the tag of a node, in either order. -/
def properties : Reading Properties := do
  let first ← anchor?
  let tag ← tag?
  let anchor ← if first.isNone && tag.isSome then anchor? else pure first
  match tag with
  | none => return ⟨anchor, none⟩
  | some (handle, suffix) => return ⟨anchor, some (← fullTag handle suffix)⟩

/-- The anchor, if there is one, belongs to no node yet. -/
def requireNew (anchor : Option Text) : Reading Unit := do
  let s ← get
  if (anchor.map fun name => (s.anchors.lookup name).isSome).getD false then fail

/-- The node that a reference denotes. -/
def referent (anchor : Text) : Reading NodeId := do
  let some id := (← get).anchors.lookup anchor | fail
  return id

/-- Reads a sequence by reading its items. -/
def sequence (p : Properties) (items : Reading (List NodeId)) : Reading NodeId := do
  let tag := p.collectionTag .sequence
  let id ← addAnchored p.anchor (.sequence tag [])
  fill id (.sequence tag (← items))
  return id

/-- Reads a mapping by reading its entries. -/
def mapping (p : Properties) (entries : Reading (List (NodeId × NodeId))) : Reading NodeId := do
  let tag := p.collectionTag .mapping
  let id ← addAnchored p.anchor (.mapping tag [])
  fill id (.mapping tag (← entries))
  return id

mutual

/-- Reads a node. Collections by indentation can start only where `inBlock` is set, and a sequence
that is not indented further than the mapping around it only where `indentless` is set. -/
def node (inBlock indentless : Bool) : Nat → Reading NodeId
  | 0 => fail
  | fuel + 1 => do
      if let .reference anchor ← peek then
        skip
        return ← referent anchor
      let p ← properties
      requireNew p.anchor
      let token ← peek
      match token with
      | .scalar isPlain text => do
          skip
          addAnchored p.anchor (.scalar (p.scalarTag isPlain text) text)
      | .flowSequenceStart => do
          skip
          sequence p (flowItems true fuel)
      | .flowMappingStart => do
          skip
          mapping p (flowEntries true fuel)
      | _ =>
          if token = .blockEntry ∧ indentless then sequence p (indentlessItems fuel)
          else if token = .blockSequenceStart ∧ inBlock then do
            skip
            sequence p (blockItems fuel)
          else if token = .blockMappingStart ∧ inBlock then do
            skip
            mapping p (blockEntries fuel)
          else if p.isEmpty then fail
          else addAnchored p.anchor (.scalar (p.scalarTag true []) [])

/-- Reads the items of a sequence by indentation. -/
def blockItems : Nat → Reading (List NodeId)
  | 0 => fail
  | fuel + 1 => do
      if ← accepts .blockEntry then
        let item ← unlessNext [.blockEntry, .blockEnd] (node true false fuel)
        return item :: (← blockItems fuel)
      expect .blockEnd
      return []

/-- Reads the items of a sequence that is not indented. -/
def indentlessItems : Nat → Reading (List NodeId)
  | 0 => fail
  | fuel + 1 => do
      if ← accepts .blockEntry then
        let item ← unlessNext [.blockEntry, .key, .value, .blockEnd] (node true false fuel)
        return item :: (← indentlessItems fuel)
      return []

/-- Reads the entries of a mapping by indentation. -/
def blockEntries : Nat → Reading (List (NodeId × NodeId))
  | 0 => fail
  | fuel + 1 => do
      if ← accepts .key then
        let part := unlessNext [.key, .value, .blockEnd] (node true true fuel)
        let key ← part
        let value ← if ← accepts .value then part else add .empty
        return (key, value) :: (← blockEntries fuel)
      expect .blockEnd
      return []

/-- Reads an entry behind the sign of its key, in brackets that `close` closes. -/
def flowEntry (close : Token) : Nat → Reading (NodeId × NodeId)
  | 0 => fail
  | fuel + 1 => do
      let key ← unlessNext [.value, .flowEntry, close] (node false false fuel)
      let value ←
        if ← accepts .value then unlessNext [.flowEntry, close] (node false false fuel)
        else add .empty
      return (key, value)

/-- Reads the items of a sequence in brackets. An item with the sign of a key is a mapping of one
entry. -/
def flowItems (isFirst : Bool) : Nat → Reading (List NodeId)
  | 0 => fail
  | fuel + 1 => do
      if ← accepts .flowSequenceEnd then return []
      if !isFirst then expect .flowEntry
      if ← accepts .flowSequenceEnd then return []
      let item ←
        if ← accepts .key then
          mapping ⟨none, none⟩ (return [← flowEntry .flowSequenceEnd fuel])
        else node false false fuel
      return item :: (← flowItems false fuel)

/-- Reads the entries of a mapping in brackets. -/
def flowEntries (isFirst : Bool) : Nat → Reading (List (NodeId × NodeId))
  | 0 => fail
  | fuel + 1 => do
      if ← accepts .flowMappingEnd then return []
      if !isFirst then expect .flowEntry
      if ← accepts .flowMappingEnd then return []
      let entry ←
        if ← accepts .key then flowEntry .flowMappingEnd fuel
        else return (← node false false fuel, ← add .empty) :: (← flowEntries false fuel)
      return entry :: (← flowEntries false fuel)

end

/-- Reads the directives of a document, which come before its start. -/
def directives (hasVersion : Bool) (handles : List (Text × Text)) :
    Nat → Reading (List (Text × Text))
  | 0 => fail
  | fuel + 1 => do
      match ← peek with
      | .version major => do
          if hasVersion ∨ major ≠ 1 then fail
          skip
          directives true handles fuel
      | .handle name expansion => do
          if (handles.lookup name).isSome then fail
          skip
          directives hasVersion ((name, expansion) :: handles) fuel
      | .otherDirective => do
          skip
          directives hasVersion handles fuel
      | _ => return handles

/-- Reads a document whose start is marked. -/
def markedDocument (fuel : Nat) : Reading NodeId := do
  let handles ← directives false [] fuel
  expect .documentStart
  modify ({ · with handles := handles ++ knownHandles })
  let token ← peek
  if token.isDirective || [.documentStart, .documentEnd, .streamEnd].contains token then add .empty
  else node true false fuel

/-- Takes marks of the end of a document. -/
def documentEnds : Nat → Reading Unit
  | 0 => fail
  | fuel + 1 => do
      if ← accepts .documentEnd then documentEnds fuel

/-- Reads a text with at most one document, and gives the root of that document. -/
def document (fuel : Nat) : Reading (Option NodeId) := do
  let token ← peek
  if token = .streamEnd then return none
  let root ←
    if token.isDirective ∨ token = .documentStart then markedDocument fuel
    else node true false fuel
  documentEnds fuel
  expect .streamEnd
  return some root

end Reading

/-- The graph that tokens denote. A node takes up at most two steps for each of its tokens. -/
def ofTokens (t : Tokens) : Except Failure Graph := do
  let start : Partial := ⟨t.tokens, t.failure.getD .malformed, knownHandles, [], #[]⟩
  let (root, s) ← (Reading.document (2 * t.tokens.length + 4)).run start
  return ⟨s.nodes, root⟩

end Graph
end Yaml
end MessageCatalog
