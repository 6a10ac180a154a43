import MessageCatalog.Markup.Document

/-!
# Elements of document trees

An element has a tag, attributes and children. The children are looked through for the elements with
one tag, for all elements, or for the comments; texts between them do not matter to such a search.

**Results.**
* `Markup.Element`, `Markup.elements`, `Markup.named`, `Markup.comments`: elements and searches.
* `Markup.ofBytes_isElement`: the root of a document that is read is an element.
-/

namespace MessageCatalog
namespace Markup

/-- An element of a document tree. -/
structure Element where
  tag : Text
  attributes : List (Text × Text)
  children : List Node

namespace Element

/-- The element as a node. -/
def node (e : Element) : Node :=
  .element e.tag e.attributes e.children

/-- The value of an attribute; it is empty if the element lacks the attribute. -/
def value (e : Element) (name : String) : Text :=
  (e.attributes.lookup name.toList).getD []

/-- The value of the attribute `name`. -/
def name (e : Element) : Text :=
  e.value "name"

/-- The text inside the element. -/
def content (e : Element) : Text :=
  Node.contents e.children

end Element

/-- The element that a node is, if it is one. -/
def Node.element? : Node → Option Element
  | .element tag attributes children => some ⟨tag, attributes, children⟩
  | _ => none

/-- The node is an element. -/
def Node.IsElement (n : Node) : Prop :=
  ∃ e : Element, n = e.node

/-- The comment that a node is, if it is one. -/
def Node.comment? : Node → Option Text
  | .comment t => some t
  | _ => none

/-- The elements among the nodes, in document order. -/
def elements (nodes : List Node) : List Element :=
  nodes.filterMap Node.element?

/-- The elements with a tag among the nodes. -/
def named (tag : String) (nodes : List Node) : List Element :=
  (elements nodes).filter fun e => e.tag = tag.toList

/-- The comments among the nodes. -/
def comments (nodes : List Node) : List Text :=
  nodes.filterMap Node.comment?

section
variable {tag : String} {t : Text} {attributes : List (Text × Text)} {children nodes : List Node}

@[simp] theorem elements_text : elements (.text t :: nodes) = elements nodes := rfl

@[simp] theorem elements_comment : elements (.comment t :: nodes) = elements nodes := rfl

@[simp] theorem elements_element :
    elements (.element t attributes children :: nodes) =
      ⟨t, attributes, children⟩ :: elements nodes :=
  rfl

@[simp] theorem named_text : named tag (.text t :: nodes) = named tag nodes := rfl

@[simp] theorem named_comment : named tag (.comment t :: nodes) = named tag nodes := rfl

@[simp] theorem named_element_self :
    named tag (.element tag.toList attributes children :: nodes) =
      ⟨tag.toList, attributes, children⟩ :: named tag nodes :=
  List.filter_cons_of_pos (decide_eq_true rfl)

theorem named_element_of_ne (h : t ≠ tag.toList) :
    named tag (.element t attributes children :: nodes) = named tag nodes :=
  List.filter_cons_of_neg (by simpa using h)

@[simp] theorem comments_text : comments (.text t :: nodes) = comments nodes := rfl

@[simp] theorem comments_comment : comments (.comment t :: nodes) = t :: comments nodes := rfl

@[simp] theorem comments_element :
    comments (.element t attributes children :: nodes) = comments nodes := rfl

end

namespace Scan

variable {α β : Type} {P : α → Prop} {Q : β → Prop} {s : Scan α} {f : α → Scan β}

/-- Every value that a scan takes has a property. -/
def Yields (P : α → Prop) (s : Scan α) : Prop :=
  ∀ t a rest, s.run t = some (a, rest) → P a

theorem Yields.bind (hs : Yields P s) (hf : ∀ a, P a → Yields Q (f a)) : Yields Q (s >>= f) := by
  intro t b rest h
  rw [StateT.run_bind, Option.bind_eq_bind, Option.bind_eq_some_iff] at h
  obtain ⟨⟨a, t'⟩, ha, hb⟩ := h
  exact hf a (hs t a t' ha) t' b rest hb

theorem Yields.bind_any (hf : ∀ a, Yields Q (f a)) : Yields Q (s >>= f) :=
  .bind (P := fun _ => True) (fun _ _ _ _ => trivial) fun a _ => hf a

theorem yields_pure {a : α} (ha : P a) : Yields P (pure a : Scan α) := by
  rintro t b rest ⟨⟩
  exact ha

theorem yields_failure : Yields P (failure : Scan α) := by
  rintro t b rest ⟨⟩

end Scan

/-- The root that is read is an element. -/
theorem readRoot_isElement (d : Definitions) : (readRoot d).Yields Node.IsElement := by
  refine .bind_any fun _ => .bind_any fun token => ?_
  cases token with
  | opening name given empty =>
      simp only
      cases d.attributesOf name given with
      | none => exact Scan.yields_failure
      | some attributes =>
          cases empty with
          | true => exact Scan.yields_pure ⟨⟨name, attributes, []⟩, rfl⟩
          | false =>
              refine .bind_any fun text => ?_
              cases d.content ⟨name, attributes, []⟩ text with
              | none => exact Scan.yields_failure
              | some read => exact .bind_any fun _ => Scan.yields_pure ⟨⟨_, _, _⟩, rfl⟩
  | _ => exact Scan.yields_failure

theorem readDocument_isElement : readDocument.Yields Node.IsElement := by
  have hend (d : Definitions) (fuel : Nat) : (do
      Scan.miscellany fuel
      let root ← readRoot d
      Scan.miscellany fuel
      if (← Scan.rest).isEmpty then return root else failure :
        Scan Node).Yields Node.IsElement := by
    refine .bind_any fun _ => (readRoot_isElement d).bind fun root hroot => ?_
    refine .bind_any fun _ => .bind_any fun rest => ?_
    split
    · exact Scan.yields_pure hroot
    · exact Scan.yields_failure
  refine .bind_any fun declaration => .bind_any fun text => ?_
  refine .bind_any fun _ => .bind_any fun typed => ?_
  simp only
  split
  · exact .bind_any fun d => hend d _
  · exact .bind_any fun d => hend d _

theorem resolve_isElement {spaces : Namespaces} {node root : Node} (hnode : node.IsElement)
    (h : spaces.resolve node = some root) : root.IsElement := by
  obtain ⟨e, rfl⟩ := hnode
  simp only [Element.node, Namespaces.resolve, Option.bind_eq_bind, Option.bind_eq_some_iff] at h
  obtain ⟨inner, -, tag, -, own, -, children, -, h⟩ := h
  cases h
  exact ⟨⟨tag, own, children⟩, rfl⟩

theorem ofText?_isElement {t : Text} {root : Node} (h : Node.ofText? t = some root) :
    root.IsElement := by
  rw [Node.ofText?] at h
  split at h
  · cases h
  · simp only [Option.bind_eq_bind, Option.bind_eq_some_iff] at h
    obtain ⟨⟨read, rest⟩, hread, hresolve⟩ := h
    exact resolve_isElement (readDocument_isElement _ read rest hread) hresolve

/-- The root of a parsed document is an element. -/
theorem ofBytes_isElement {bytes : Bytes} {root : Node} (h : Node.ofBytes bytes = .ok root) :
    root.IsElement := by
  rw [Node.ofBytes] at h
  cases hread : Encoding.read bytes with
  | error e =>
      rw [hread] at h
      cases h
  | ok t =>
      rw [hread] at h
      cases htext : Node.ofText? t with
      | none =>
          simp only [bind, Except.bind, htext] at h
          cases h
      | some read =>
          simp only [bind, Except.bind, htext] at h
          cases h
          exact ofText?_isElement htext

end Markup
end MessageCatalog
