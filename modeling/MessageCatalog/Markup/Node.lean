import MessageCatalog.Text.Basic

/-!
# Document trees

A document is a tree of elements, texts and comments. The text of an element is that of everything
inside it, comments included.
-/

namespace MessageCatalog
namespace Markup

/-- A node of a document tree. -/
inductive Node where
  | text (content : Text)
  | comment (content : Text)
  | element (tag : Text) (attributes : List (Text × Text)) (children : List Node)
deriving Repr

mutual

/-- The text inside a node, comments included. -/
def Node.content : Node → Text
  | .text content => content
  | .comment content => content
  | .element _ _ children => Node.contents children

/-- The texts inside a list of nodes, in order. -/
def Node.contents : List Node → Text
  | [] => []
  | node :: rest => node.content ++ Node.contents rest

end

end Markup
end MessageCatalog
