import MessageCatalog.Proofs.Bundle.Document

/-!
# Comments in bundle documents

A comment is kept in the document tree. Beside elements it is passed over, except that the first one
in a resource describes it; but the text of an element is all that is written inside it, and there a
comment counts like any other text.

**Results.**
* `Markup.withoutComments`: the tree without its comments, the texts around each of them joined.
* `Markup.contents_withoutComments_iff`: the text stays the same exactly if all comments are empty.
* `Bundle.withoutComments_isBundle_iff`: a document is read with its comments exactly if it is read
  without them.
* `Bundle.ofNode_withoutComments`: the two bundles agree up to texts, property values, code and the
  comments of resources, and in all but the last exactly if no element that counts for a text has
  anything in a comment.
-/

namespace MessageCatalog
namespace Markup

/-- Two lists of nodes in a row; a text at the end of the first is joined with one that follows. -/
def joined : List Node → List Node → List Node
  | [.text t], .text u :: rest => .text (t ++ u) :: rest
  | front, rest => front ++ rest

mutual

/-- What is left of a node without comments. -/
def Node.withoutComments : Node → List Node
  | .text t => [.text t]
  | .comment _ => []
  | .element tag attributes children => [.element tag attributes (withoutComments children)]

/-- The nodes without the comments among them and inside them, the texts around a comment joined. -/
def withoutComments : List Node → List Node
  | [] => []
  | node :: rest => joined node.withoutComments (withoutComments rest)

end

mutual

/-- The comments in a node. -/
def Node.innerComments : Node → List Text
  | .text _ => []
  | .comment t => [t]
  | .element _ _ children => innerComments children

/-- The comments among the nodes and inside them. -/
def innerComments : List Node → List Text
  | [] => []
  | node :: rest => node.innerComments ++ innerComments rest

end

/-- The element without the comments inside it. -/
def Element.withoutComments (e : Element) : Element :=
  { e with children := Markup.withoutComments e.children }

section
variable (front rest : List Node)

theorem contents_append :
    Node.contents (front ++ rest) = Node.contents front ++ Node.contents rest := by
  induction front with
  | nil => rfl
  | cons node front ih => simp [Node.contents, ih]

@[simp] theorem contents_joined :
    Node.contents (joined front rest) = Node.contents front ++ Node.contents rest := by
  fun_cases joined front rest with
  | case1 t u rest => simp [Node.contents, Node.content]
  | case2 => exact contents_append front rest

@[simp] theorem elements_joined :
    elements (joined front rest) = elements front ++ elements rest := by
  fun_cases joined front rest with
  | case1 t u rest => rfl
  | case2 => exact List.filterMap_append

@[simp] theorem comments_joined :
    comments (joined front rest) = comments front ++ comments rest := by
  fun_cases joined front rest with
  | case1 t u rest => rfl
  | case2 => exact List.filterMap_append

end

theorem elements_withoutComments (nodes : List Node) :
    elements (withoutComments nodes) = (elements nodes).map Element.withoutComments := by
  induction nodes with
  | nil => rfl
  | cons node rest ih =>
      rw [withoutComments, elements_joined, ih]
      cases node <;> rfl

theorem named_withoutComments (tag : String) (nodes : List Node) :
    named tag (withoutComments nodes) = (named tag nodes).map Element.withoutComments := by
  rw [named, elements_withoutComments, List.filter_map]
  rfl

theorem comments_withoutComments (nodes : List Node) : comments (withoutComments nodes) = [] := by
  induction nodes with
  | nil => rfl
  | cons node rest ih =>
      rw [withoutComments, comments_joined, ih]
      cases node <;> rfl

mutual

theorem content_withoutComments_sublist (node : Node) :
    (Node.contents node.withoutComments).Sublist node.content ∧
      node.content.length =
        (Node.contents node.withoutComments).length + node.innerComments.flatten.length := by
  cases node with
  | text t => simp [Node.withoutComments, Node.contents, Node.content, Node.innerComments]
  | comment t => simp [Node.withoutComments, Node.contents, Node.content, Node.innerComments]
  | element tag attributes children =>
      simpa [Node.withoutComments, Node.contents, Node.content, Node.innerComments] using
        contents_withoutComments_sublist children

/-- Leaving out comments takes their characters out of the text, and only these. -/
theorem contents_withoutComments_sublist (nodes : List Node) :
    (Node.contents (withoutComments nodes)).Sublist (Node.contents nodes) ∧
      (Node.contents nodes).length =
        (Node.contents (withoutComments nodes)).length + (innerComments nodes).flatten.length := by
  cases nodes with
  | nil => simp [withoutComments, Node.contents, innerComments]
  | cons node rest =>
      -- joining two texts neither adds nor drops a character
      obtain ⟨hsublist, hlength⟩ := content_withoutComments_sublist node
      obtain ⟨hsublist', hlength'⟩ := contents_withoutComments_sublist rest
      constructor
      · rw [withoutComments, contents_joined]
        exact hsublist.append hsublist'
      · simp [withoutComments, Node.contents, innerComments, hlength, hlength']
        omega

end

/-- The text stays the same without comments exactly if all comments are empty. -/
theorem contents_withoutComments_iff (nodes : List Node) :
    Node.contents (withoutComments nodes) = Node.contents nodes ↔
      ∀ c ∈ innerComments nodes, c = [] := by
  obtain ⟨hsublist, hlength⟩ := contents_withoutComments_sublist nodes
  constructor
  · intro h
    -- equal texts are equally long, so nothing has been taken out
    have hnone : (innerComments nodes).flatten = [] := by
      rw [h] at hlength
      exact List.eq_nil_of_length_eq_zero (by omega)
    exact List.flatten_eq_nil_iff.mp hnone
  · intro h
    have hnone := List.flatten_eq_nil_iff.mpr h
    exact hsublist.eq_of_length (by simp [hlength, hnone])

end Markup

namespace Bundle

open Markup

section
variable {source : Text}

@[simp] theorem withoutComments_name (e : Element) : e.withoutComments.name = e.name := rfl

@[simp] theorem withoutComments_kind? (e : Element) : kind? e.withoutComments = kind? e := rfl

section Acceptance

theorem withoutComments_isPart_iff (e : Element) : IsPart e.withoutComments ↔ IsPart e := by
  have hproperties : (∀ p ∈ named "property" e.withoutComments.children, p.name ≠ []) ↔
      ∀ p ∈ named "property" e.children, p.name ≠ [] := by
    rw [Element.withoutComments, named_withoutComments, List.forall_mem_map]
    rfl
  constructor
  · intro h
    cases h with
    | code htag => exact .code htag
    | factory htag hclass hsignature => exact .factory htag hclass hsignature
    | resource htag hname hnames => exact .resource htag hname (hproperties.mp hnames)
  · intro h
    cases h with
    | code htag => exact .code htag
    | factory htag hclass hsignature => exact .factory htag hclass hsignature
    | resource htag hname hnames => exact .resource htag hname (hproperties.mpr hnames)

theorem resourceElements_withoutComments (nodes : List Node) :
    resourceElements (withoutComments nodes) =
      (resourceElements nodes).map Element.withoutComments := by
  rw [resourceElements, elements_withoutComments, List.filter_map]
  rfl

/-- A document is read without its comments exactly if it is read with them. -/
theorem withoutComments_isBundle_iff (root : Element) :
    IsBundle root.withoutComments ↔ IsBundle root := by
  have hparts : (∀ e ∈ elements root.withoutComments.children, IsPart e) ↔
      ∀ e ∈ elements root.children, IsPart e := by
    rw [Element.withoutComments, elements_withoutComments, List.forall_mem_map]
    simp only [withoutComments_isPart_iff]
  have hnames : (resourceElements root.withoutComments.children).map Element.name =
      (resourceElements root.children).map Element.name := by
    rw [Element.withoutComments, resourceElements_withoutComments, List.map_map]
    rfl
  constructor
  · intro h
    exact ⟨h.tag, h.locale, hparts.mp h.parts, hnames ▸ h.names⟩
  · intro h
    exact ⟨h.tag, h.locale, hparts.mpr h.parts, hnames.symm ▸ h.names⟩

end Acceptance

/-- The resource without its comment. -/
def bare (r : Resource) : Resource :=
  { r with comment := none }

/-- The resource without its comment, its text and the values of its properties. -/
def outlineOf (r : Resource) : Resource :=
  { r with
    text := r.text.map fun _ => []
    properties := r.properties.map fun p => { p with value := [] }
    comment := none }

/-- The bundle without the comments of its resources. -/
def withoutRemarks (b : Bundle) : Bundle :=
  { b with resources := b.resources.map bare }

/-- The bundle without comments, texts, values of properties and the content of its code. -/
def outline (b : Bundle) : Bundle :=
  { b with
    resources := b.resources.map outlineOf
    options := { b.options with code := b.options.code.map fun _ => [] } }

/-- The elements whose text is that of a resource. -/
def textElements (e : Element) : List Element :=
  (named "text" e.children).getLast?.toList ++ named "property" e.children

/-- The elements whose text is part of the bundle: the last code, and of each resource the last text
and all properties. -/
def countedElements (root : Element) : List Element :=
  (named "code" root.children).getLast?.toList ++
    (resourceElements root.children).flatMap textElements

theorem resourceOfKind_outline (e : Element) (kind : ResourceKind) :
    outlineOf (resourceOfKind e.withoutComments kind) = outlineOf (resourceOfKind e kind) := by
  simp [outlineOf, resourceOfKind, Element.withoutComments, named_withoutComments,
    Function.comp_def, propertyOf, Element.name, Element.value]

theorem content_withoutComments_iff (e : Element) :
    e.withoutComments.content = e.content ↔ ∀ c ∈ innerComments e.children, c = [] :=
  contents_withoutComments_iff e.children

/-- The text of the last of some elements stays the same exactly if the comments in it are empty. -/
theorem lastContent_withoutComments_iff (tag : String) (nodes : List Node) :
    (named tag (withoutComments nodes)).getLast?.map Element.content =
        (named tag nodes).getLast?.map Element.content ↔
      ∀ e ∈ (named tag nodes).getLast?.toList, ∀ c ∈ innerComments e.children, c = [] := by
  rw [named_withoutComments, List.getLast?_map]
  cases (named tag nodes).getLast? with
  | none => simp
  | some e => simp [content_withoutComments_iff]

theorem properties_withoutComments_iff (nodes : List Node) :
    (named "property" (withoutComments nodes)).map propertyOf =
        (named "property" nodes).map propertyOf ↔
      ∀ e ∈ named "property" nodes, ∀ c ∈ innerComments e.children, c = [] := by
  rw [named_withoutComments, List.map_map, List.map_inj_left]
  simp [propertyOf, content_withoutComments_iff]

/-- A resource is the same without the comments in its element, but for its own comment, exactly if
those in its texts are empty. -/
theorem resourceOfKind_bare_iff (e : Element) (kind : ResourceKind) :
    bare (resourceOfKind e.withoutComments kind) = bare (resourceOfKind e kind) ↔
      ∀ t ∈ textElements e, ∀ c ∈ innerComments t.children, c = [] := by
  rw [textElements, List.forall_mem_append, ← lastContent_withoutComments_iff,
    ← properties_withoutComments_iff]
  simp [bare, resourceOfKind, Element.withoutComments, Element.name, Element.value]

theorem resource?_withoutComments {e : Element} {kind : ResourceKind} (h : kind? e = some kind) :
    resource? e = some (resourceOfKind e kind) ∧
      resource? e.withoutComments = some (resourceOfKind e.withoutComments kind) := by
  constructor
  · rw [resource?, h, Option.map_some]
  · rw [resource?, withoutComments_kind?, h, Option.map_some]

theorem resource?_of_none {e : Element} (h : kind? e = none) :
    resource? e = none ∧ resource? e.withoutComments = none := by
  constructor
  · rw [resource?, h, Option.map_none]
  · rw [resource?, withoutComments_kind?, h, Option.map_none]

theorem resources_outline (es : List Element) :
    ((es.map Element.withoutComments).filterMap resource?).map outlineOf =
      (es.filterMap resource?).map outlineOf := by
  induction es with
  | nil => rfl
  | cons e es ih =>
      cases hkind : kind? e with
      | none =>
          obtain ⟨h, h'⟩ := resource?_of_none hkind
          simpa [h, h'] using ih
      | some kind =>
          obtain ⟨h, h'⟩ := resource?_withoutComments hkind
          simpa [h, h', resourceOfKind_outline] using ih

theorem resources_bare_iff (es : List Element) :
    ((es.map Element.withoutComments).filterMap resource?).map bare =
        (es.filterMap resource?).map bare ↔
      ∀ t ∈ (es.filter fun e => (kind? e).isSome).flatMap textElements,
        ∀ c ∈ innerComments t.children, c = [] := by
  induction es with
  | nil => simp
  | cons e es ih =>
      cases hkind : kind? e with
      | none =>
          obtain ⟨h, h'⟩ := resource?_of_none hkind
          simpa [h, h', hkind] using ih
      | some kind =>
          obtain ⟨h, h'⟩ := resource?_withoutComments hkind
          rw [List.map_cons, List.filterMap_cons_some h, List.filterMap_cons_some h',
            List.filter_cons_of_pos (by simp [hkind]), List.flatMap_cons, List.forall_mem_append,
            List.map_cons, List.map_cons, List.cons.injEq, ih, resourceOfKind_bare_iff]

/-- Without comments, only resources and code are declared in another way. -/
theorem declared_withoutComments (root : Element) :
    declared root.withoutComments =
      { declared root with
        resources := ((elements root.children).map Element.withoutComments).filterMap resource?
        options :=
          { (declared root).options with
            code :=
              (named "code" (withoutComments root.children)).getLast?.map Element.content } } := by
  have helements : elements root.withoutComments.children =
      (elements root.children).map Element.withoutComments :=
    elements_withoutComments root.children
  have hfactories : (named "factory" root.withoutComments.children).map factoryOf =
      (named "factory" root.children).map factoryOf := by
    rw [Element.withoutComments, named_withoutComments, List.map_map]
    rfl
  rw [declared, helements, hfactories]
  rfl

theorem declared_outline (root : Element) :
    outline (declared root.withoutComments) = outline (declared root) := by
  rw [declared_withoutComments, outline, outline, resources_outline, named_withoutComments]
  simp [declared, Function.comp_def]

/-- The declared bundle is the same without comments, but for the comments of its resources, exactly
if those in the elements that count for a text are empty. -/
theorem declared_withoutRemarks_iff (root : Element) :
    withoutRemarks (declared root.withoutComments) = withoutRemarks (declared root) ↔
      ∀ e ∈ countedElements root, ∀ c ∈ innerComments e.children, c = [] := by
  rw [countedElements, List.forall_mem_append, ← lastContent_withoutComments_iff, resourceElements,
    ← resources_bare_iff, declared_withoutComments]
  simp [withoutRemarks, declared, and_comm]

theorem comment_eq_none_of_mem {es : List Element} {r : Resource}
    (h : r ∈ (es.map Element.withoutComments).filterMap resource?) : r.comment = none := by
  obtain ⟨e', he', hr⟩ := List.mem_filterMap.mp h
  obtain ⟨e, -, rfl⟩ := List.mem_map.mp he'
  obtain ⟨kind, -, rfl⟩ := Option.map_eq_some_iff.mp hr
  simp [resourceOfKind, Element.withoutComments, comments_withoutComments]

/-- A document is read with its comments exactly if it is read without them. The two bundles agree
in their outline. They are the same but for the comments of resources exactly if no element whose
text is part of the bundle has anything in a comment: what a comment in such an element says is read
as text. -/
theorem ofNode_withoutComments (source : Text) (root : Element) :
    ((∃ b, ofNode source root.node = .ok b) ↔
        ∃ b, ofNode source root.withoutComments.node = .ok b) ∧
      ∀ b b', ofNode source root.node = .ok b → ofNode source root.withoutComments.node = .ok b' →
        outline b = outline b' ∧ (∀ r ∈ b'.resources, r.comment = none) ∧
          (withoutRemarks b = withoutRemarks b' ↔
            ∀ e ∈ countedElements root, ∀ c ∈ innerComments e.children, c = []) := by
  simp only [ofNode_eq_ok_iff, withoutComments_isBundle_iff, exists_and_left]
  constructor
  · simp
  · rintro b b' ⟨-, rfl⟩ ⟨-, rfl⟩
    refine ⟨(declared_outline root).symm, fun r hr => ?_, ?_⟩
    · rw [declared_withoutComments] at hr
      exact comment_eq_none_of_mem hr
    · rw [← declared_withoutRemarks_iff, eq_comm]

end

/-- A message whose text has a comment in it. -/
def remarked : Element :=
  ⟨"resourceBundle", [],
    [.element "message" [("name".toList, "a")]
      [.element "text" [] [.text "x", .comment " c ", .text "y"]]]⟩

/-- A bundle of one message. -/
def greeting (text : Text) : Bundle :=
  ⟨none, [⟨"a", .message, some text, [], none, none⟩],
    ⟨none, none, none, none, none, none, []⟩⟩

/-- The comment is read as part of the text, so that the two bundles differ. -/
theorem remarked_read :
    ofNode "a.xml" remarked.node = .ok (greeting "x c y") ∧
      ofNode "a.xml" remarked.withoutComments.node = .ok (greeting "xy") ∧
      withoutRemarks (greeting "x c y") ≠ withoutRemarks (greeting "xy") := by
  have hread : ofNode "a.xml" remarked.node = .ok (greeting "x c y") := by rfl
  have hread' : ofNode "a.xml" remarked.withoutComments.node = .ok (greeting "xy") := by rfl
  obtain ⟨-, -, hiff⟩ := (ofNode_withoutComments "a.xml" remarked).2 _ _ hread hread'
  refine ⟨hread, hread', fun heq => ?_⟩
  have hempty : (" c ".toList : Text) = [] :=
    hiff.mp heq ⟨"text", [], [.text "x", .comment " c ", .text "y"]⟩ List.mem_cons_self _
      List.mem_cons_self
  cases hempty

end Bundle
end MessageCatalog
