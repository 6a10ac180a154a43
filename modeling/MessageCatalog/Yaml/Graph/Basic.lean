import MessageCatalog.Yaml.Tag

/-!
# Node graphs

A document denotes a graph: its nodes are numbered, and collections refer to their parts by number, so
that a node with an anchor can be a part of several collections, even of itself.
-/

namespace MessageCatalog
namespace Yaml

/-- The number of a node. -/
abbrev NodeId : Type := Nat

/-- A node of a document. -/
inductive Node where
  | scalar (tag : Tag) (text : Text)
  | sequence (tag : Tag) (items : List NodeId)
  | mapping (tag : Tag) (entries : List (NodeId × NodeId))
deriving DecidableEq, Repr

namespace Node

/-- The tag of a node. -/
def tag : Node → Tag
  | .scalar tag _ => tag
  | .sequence tag _ => tag
  | .mapping tag _ => tag

/-- What an absent node stands for. -/
def empty : Node :=
  .scalar .null []

end Node

/-- The nodes of a document; without a root the document is empty. -/
structure Graph where
  nodes : Array Node
  root : Option NodeId
deriving DecidableEq, Repr

namespace Graph

/-- The node with a number. -/
def node (g : Graph) (id : NodeId) : Node :=
  (g.nodes[id]?).getD .empty

/-- The graph with another node for a number. -/
def replace (g : Graph) (id : NodeId) (node : Node) : Graph :=
  { g with nodes := g.nodes.setIfInBounds id node }

end Graph

end Yaml
end MessageCatalog
