import MessageCatalog.Markup.Definition
import MessageCatalog.Markup.Encoding
import MessageCatalog.Markup.Node

/-!
# Reading markup documents

A document is a declaration, definitions and one root element, with comments and processing
instructions around them. Elements nest, references inside them are replaced, and an entity must
contain whole elements only. Names are then resolved in the namespaces that attributes declare: a
name in a namespace is written with the namespace between braces before it.
-/

namespace MessageCatalog
namespace Markup

/-- What can come next inside an element. -/
inductive Token where
  | opening (name : Text) (attributes : List (Text × Text)) (empty : Bool)
  | closing (name : Text)
  | data (t : Text)
  | comment (t : Text)
  | instruction
  | reference (r : Reference)
deriving DecidableEq, Repr

namespace Scan

/-- Takes the attributes of a start tag with their literals, and tells whether the element is
empty. -/
def attributes : Nat → Scan (List (Text × Text) × Bool)
  | 0 => failure
  | fuel + 1 => do
      let spaced ← spaces
      if ← accepts ['>'] then return ([], false)
      else if ← accepts ['/', '>'] then return ([], true)
      else
        unless spaced do failure
        let attributeName ← qualifiedName
        let _ ← spaces
        expect ['=']
        let _ ← spaces
        let literal ← quoted
        let (others, empty) ← attributes fuel
        return ((attributeName, literal) :: others, empty)

/-- Takes a tag, a comment, character data or a processing instruction behind its opening. -/
def tag : Scan Token := do
  if ← accepts ['/'] then
    let closed ← qualifiedName
    let _ ← spaces
    expect ['>']
    return .closing closed
  else if ← accepts "!--" then return .comment (← comment)
  else if ← accepts "![CDATA[" then return .data (← upTo "]]>")
  else if ← accepts ['?'] then
    instruction
    return .instruction
  else
    let opened ← qualifiedName
    let (given, empty) ← attributes (← rest).length
    return .opening opened given empty

/-- Takes what comes next inside an element. -/
def token : Scan Token := do
  if ← accepts ['<'] then tag
  else if ← accepts ['&'] then return .reference (← reference)
  else
    let t ← span fun c => c ≠ '<' && c ≠ '&'
    if t.isEmpty || (splitAt "]]>".toList t).isSome then failure else return .data t

end Scan

/-- An element that is being read, with its children in reverse. -/
structure Frame where
  name : Text
  attributes : List (Text × Text)
  children : List Node

namespace Frame

/-- The frame of the content of an entity, which no tag closes. -/
def entity : Frame := ⟨[], [], []⟩

/-- The frame with one more child. -/
def add (f : Frame) (child : Node) : Frame :=
  { f with children := child :: f.children }

/-- The element of a frame. -/
def node (f : Frame) : Node :=
  .element f.name f.attributes f.children.reverse

end Frame

namespace Definitions

/-- The values of the attributes of an element: the given ones, each at most once, then the defaults
of those that are not given. -/
def attributesOf (d : Definitions) (element : Text) (given : List (Text × Text)) :
    Option (List (Text × Text)) := do
  if !(given.map (·.1)).Nodup then none
  let own ← given.mapM fun (name, literal) => do
    let tokens := ((d.rule? element name).map (·.tokens)).getD false
    return (name, ← d.value tokens literal)
  let missing (rule : AttributeRule) : Option (Text × Text) :=
    if rule.element = element && !(given.map (·.1)).contains rule.name
        && d.rule? element rule.name = some rule then
      rule.default.map fun value => (rule.name, value)
    else none
  return own ++ (d.attributes.filterMap missing).eraseDups

/-- Reads the content of the frame `inner`, which stands inside the frames `outer`, up to the tag that
closes the outermost frame; the frame of an entity ends with the text. The replacement text of an
entity is read by `nested`, and `fuel` bounds the number of tokens. -/
def contentWith (d : Definitions) (nested : Text → Option Frame) :
    (fuel : Nat) → (outer : List Frame) → (inner : Frame) → Text → Option (Frame × Text)
  | 0, _, _, _ => none
  | _ + 1, outer, inner, [] =>
      if outer.isEmpty && inner.name.isEmpty then some (inner, []) else none
  | fuel + 1, outer, inner, c :: text => do
      let (token, rest) ← Scan.token.run (c :: text)
      match token with
      | .data t => contentWith d nested fuel outer (inner.add (.text t)) rest
      | .comment t => contentWith d nested fuel outer (inner.add (.comment t)) rest
      | .instruction => contentWith d nested fuel outer inner rest
      | .reference (.character c) => contentWith d nested fuel outer (inner.add (.text [c])) rest
      | .opening name given empty =>
          let attributes ← d.attributesOf name given
          if empty then
            contentWith d nested fuel outer (inner.add (.element name attributes [])) rest
          else contentWith d nested fuel (inner :: outer) ⟨name, attributes, []⟩ rest
      | .closing name =>
          if inner.name ≠ name then none
          else
            match outer with
            | [] => some (inner, rest)
            | parent :: outer => contentWith d nested fuel outer (parent.add inner.node) rest
      | .reference (.entity name) =>
          match predefined? name with
          | some c => contentWith d nested fuel outer (inner.add (.text [c])) rest
          | none =>
              match d.entities.lookup name with
              | some (.text replacement) => do
                  let frame ← nested replacement
                  contentWith d nested fuel outer
                    { inner with children := frame.children ++ inner.children } rest
              | _ => none

/-- The frame of the replacement text of an entity, in which entities are nested at most `depth`
deep. -/
def entityContent (d : Definitions) : (depth : Nat) → Text → Option Frame
  | 0, _ => none
  | depth + 1, t => Prod.fst <$> d.contentWith (entityContent d depth) (t.length + 1) [] .entity t

/-- Reads the content of the root element, whose start tag has been read into the frame. -/
def content (d : Definitions) (root : Frame) (text : Text) : Option (Frame × Text) :=
  d.contentWith (d.entityContent d.entities.length) (text.length + 1) [] root text

end Definitions

/-- The namespaces by prefix; the empty prefix is that of names without one. -/
abbrev Namespaces : Type :=
  List (Text × Text)

namespace Namespaces

/-- The namespace of the names that the markup standard reserves. -/
def reserved : Text := "http://www.w3.org/XML/1998/namespace"

/-- The namespace of namespace declarations. -/
def declarations : Text := "http://www.w3.org/2000/xmlns/"

/-- The namespaces outside the root element. -/
def initial : Namespaces := [("xml".toList, reserved)]

/-- The prefix that an attribute declares, if it is a namespace declaration. -/
def declared? (attributeName : Text) : Option Text :=
  if attributeName = "xmlns".toList then some []
  else
    match attributeName.cut ':' with
    | some (before, after) => if before = "xmlns".toList then some after else none
    | none => none

/-- A prefix may be bound to a namespace. -/
def bindable (pre uri : Text) : Bool :=
  pre ≠ "xmlns".toList && uri ≠ declarations && (pre = "xml".toList) == (uri = reserved)
    && (pre = [] || uri ≠ []) && !uri.contains '\x7d'

/-- The namespaces inside an element with the given attributes. -/
def extend (spaces : Namespaces) : List (Text × Text) → Option Namespaces
  | [] => some spaces
  | (name, value) :: rest =>
      match declared? name with
      | none => extend spaces rest
      | some pre => if bindable pre value then extend ((pre, value) :: spaces) rest else none

/-- A name in a namespace. -/
def expanded (uri name : Text) : Text :=
  if uri = [] then name else '\x7b' :: uri ++ '\x7d' :: name

/-- The resolved name of an element. -/
def tag (spaces : Namespaces) (name : Text) : Option Text :=
  match name.cut ':' with
  | some (pre, local_) => (spaces.lookup pre).map fun uri => expanded uri local_
  | none => some (expanded ((spaces.lookup []).getD []) name)

/-- The resolved attributes of an element, without namespace declarations; no two may have the same
resolved name. -/
def attributes (spaces : Namespaces) (given : List (Text × Text)) :
    Option (List (Text × Text)) := do
  let own := given.filter fun (name, _) => (declared? name).isNone
  let resolved ← own.mapM fun (name, value) =>
    match name.cut ':' with
    | some (pre, local_) => (spaces.lookup pre).map fun uri => (expanded uri local_, value)
    | none => some (name, value)
  if (resolved.map (·.1)).Nodup then some resolved else none

mutual

/-- The node with all names resolved. -/
def resolve (spaces : Namespaces) : Node → Option Node
  | .text t => some (.text t)
  | .comment t => some (.comment t)
  | .element name given children => do
      let spaces ← spaces.extend given
      let tag ← spaces.tag name
      let own ← spaces.attributes given
      let children ← resolveAll spaces children
      return .element tag own children

/-- The nodes with all names resolved. -/
def resolveAll (spaces : Namespaces) : List Node → Option (List Node)
  | [] => some []
  | node :: rest => do
      let node ← resolve spaces node
      let rest ← resolveAll spaces rest
      return node :: rest

end

end Namespaces

/-- Reads the root element, whose start tag comes next. -/
def readRoot (d : Definitions) : Scan Node := do
  Scan.expect ['<']
  match ← Scan.tag with
  | .opening name given empty => do
      let some attributes := d.attributesOf name given | failure
      if empty then return .element name attributes []
      else
        let text ← Scan.rest
        match d.content ⟨name, attributes, []⟩ text with
        | some (frame, rest) =>
            set rest
            return frame.node
        | none => failure
  | _ => failure

/-- Reads a whole document. -/
def readDocument : Scan Node := do
  let declaration ← Scan.declaration
  let fuel := (← Scan.rest).length + 1
  Scan.miscellany fuel
  let d ←
    if ← Scan.accepts "<!DOCTYPE" then Scan.documentType (.initial declaration.standalone)
    else pure (.initial declaration.standalone)
  Scan.miscellany fuel
  let root ← readRoot d
  Scan.miscellany fuel
  if (← Scan.rest).isEmpty then return root else failure

/-- The root element of a document. -/
def Node.ofText? (text : Text) : Option Node := do
  if !text.all isLegal then none
  let (root, _) ← readDocument.run (normalizeBreaks text)
  Namespaces.initial.resolve root

/-- The root element of the document that the bytes encode. -/
def Node.ofBytes (bytes : Bytes) : Except MarkupError Node := do
  match Node.ofText? (← Encoding.read bytes) with
  | some root => return root
  | none => throw .malformed

end Markup
end MessageCatalog
