import Mathlib.Data.List.Nodup
import Mathlib.Data.List.Pairwise
import MessageCatalog.Proofs.Bundle.Refusal
import MessageCatalog.Proofs.Markup.Element

/-!
# Bundle documents

Reading goes through the children of the root element with the bundle read so far in hand, and stops
at the first element that does not fit. What a bundle document is, and which bundle it declares, can
be said without that order: every element child is one of a few kinds, no two resources have the
same name, and each part of the bundle is found among the children of one element.

**Results.**
* `Bundle.IsBundle`, `Bundle.declared`: the shape of a bundle document and the bundle that it
  declares.
* `Bundle.addChildren_eq_ok_iff`: what reading adds to a bundle, from what one child adds to it.
* `Bundle.ofBytes_eq_ok_iff`: exactly the documents of that shape are read, as the bundles that they
  declare; all others are refused for their shape.
-/

namespace MessageCatalog

namespace Bundle

open Markup

/-- The kind of resource that an element declares, if it declares one. -/
def kind? (e : Element) : Option ResourceKind :=
  if e.tag = "message".toList then some .message
  else if e.tag = "exception".toList then some .exception
  else none

/-- The resource elements among the nodes. -/
def resourceElements (nodes : List Node) : List Element :=
  (elements nodes).filter fun e => (kind? e).isSome

/-- An element that may stand in a bundle document: included code, a hint with class and signature,
or a resource that has a name and whose properties have names. -/
inductive IsPart (e : Element) : Prop
  | code (htag : e.tag = "code".toList)
  | factory (htag : e.tag = "factory".toList) (hclass : e.value "className" ≠ [])
      (hsignature : e.value "signature" ≠ [])
  | resource (htag : e.tag = "message".toList ∨ e.tag = "exception".toList) (hname : e.name ≠ [])
      (hproperties : ∀ p ∈ named "property" e.children, p.name ≠ [])

/-- An element is the root of a bundle document. -/
structure IsBundle (root : Element) : Prop where
  tag : root.tag = "resourceBundle".toList
  locale : root.value "locale" = [] ∨ ∃ l, Locale.parse (root.value "locale") = .ok l
  parts : ∀ e ∈ elements root.children, IsPart e
  names : ((resourceElements root.children).map Element.name).Nodup

/-- The property that an element declares. -/
def propertyOf (e : Element) : Property :=
  ⟨e.name, e.content⟩

/-- The hint that an element declares. -/
def factoryOf (e : Element) : FactoryHint :=
  ⟨e.value "className", e.value "signature"⟩

/-- The resource that an element declares as one of a kind. -/
def resourceOfKind (e : Element) (kind : ResourceKind) : Resource where
  name := e.name
  kind
  text := (named "text" e.children).getLast?.map Element.content
  properties := (named "property" e.children).map propertyOf
  comment := (comments e.children).head?.map Text.strip
  exception := if kind = .exception then some (detailsOf e.attributes) else none

/-- The resource that an element declares, if it declares one. -/
def resource? (e : Element) : Option Resource :=
  (kind? e).map (resourceOfKind e)

/-- The bundle that an element declares as the root of a document. -/
def declared (root : Element) : Bundle where
  locale := if root.value "locale" = [] then none else Locale.parse? (root.value "locale")
  resources := (elements root.children).filterMap resource?
  options :=
    { exceptionClassName := attribute? root.attributes "exceptionClassName"
      nativeNamespace := attribute? root.attributes "cppNamespace"
      nativeCommonInclude := attribute? root.attributes "cppCommonInclude"
      nativeExceptionClassName := attribute? root.attributes "cppExceptionClassName"
      nativeExceptionClassLocation := attribute? root.attributes "cppExceptionClassLocation"
      code := (named "code" root.children).getLast?.map Element.content
      factories := (named "factory" root.children).map factoryOf }

section
variable {source : Text}

theorem present?_eq_none_iff {t : Option Text} : Text.present? t = none ↔ t.getD [] = [] := by
  rcases t with _ | _ | ⟨c, t⟩ <;> simp [Text.present?]

theorem present?_eq_some_iff_eq {t : Option Text} {u : Text} :
    Text.present? t = some u ↔ t = some u ∧ u ≠ [] := by
  rcases t with _ | _ | ⟨c, t⟩
  · simp [Text.present?]
  · simp [Text.present?]
  · simp only [Text.present?, Option.some.injEq]
    exact ⟨fun h => ⟨h, h ▸ List.cons_ne_nil c t⟩, And.left⟩

theorem present?_eq_some_iff {t : Option Text} {u : Text} :
    Text.present? t = some u ↔ t.getD [] = u ∧ u ≠ [] := by
  rw [present?_eq_some_iff_eq]
  refine and_congr_left fun hne => ?_
  cases t with
  | none => simp [Ne.symm hne]
  | some t => simp

section Resources

/-- What nodes add to a resource. -/
def extendResource (r : Resource) (nodes : List Node) : Resource where
  name := r.name
  kind := r.kind
  text := ((named "text" nodes).getLast?.map Element.content).or r.text
  properties := r.properties ++ (named "property" nodes).map propertyOf
  comment := r.comment.or ((comments nodes).head?.map Text.strip)
  exception := r.exception

section
variable {r : Resource} {tag : Text} {attributes : Attributes} {children rest : List Node}

theorem text_ne_property : ("text".toList : Text) ≠ "property".toList := by decide

theorem extendResource_nil : extendResource r [] = r := by
  simp [extendResource, named, elements, comments]

theorem extendResource_comment {t : Text} :
    extendResource r (.comment t :: rest) =
      extendResource (if r.comment.isNone then { r with comment := some t.strip } else r) rest := by
  cases hcomment : r.comment <;> simp [extendResource, hcomment]

theorem extendResource_text :
    extendResource r (.element "text".toList attributes children :: rest) =
      extendResource { r with text := some (Node.contents children) } rest := by
  simp only [extendResource, named_element_self, named_element_of_ne text_ne_property,
    comments_element, List.getLast?_cons]
  cases (named "text" rest).getLast? <;> rfl

theorem extendResource_property :
    extendResource r (.element "property".toList attributes children :: rest) =
      extendResource
        { r with
          properties := r.properties ++ [propertyOf ⟨"property".toList, attributes, children⟩] }
        rest := by
  simp only [extendResource, named_element_self, named_element_of_ne text_ne_property.symm,
    comments_element, List.map_cons, List.append_assoc, List.singleton_append]

theorem extendResource_other (htext : tag ≠ "text".toList) (hproperty : tag ≠ "property".toList) :
    extendResource r (.element tag attributes children :: rest) = extendResource r rest := by
  simp only [extendResource, named_element_of_ne htext, named_element_of_ne hproperty,
    comments_element]

end

/-- Contents are added to a resource exactly if all properties among them have names. -/
theorem addContents_eq_ok_iff {r r' : Resource} {nodes : List Node} :
    addContents source r nodes = .ok r' ↔
      (∀ p ∈ named "property" nodes, p.name ≠ []) ∧ extendResource r nodes = r' := by
  fun_induction addContents source r nodes with
  | case1 r =>
      rw [extendResource_nil]
      simp [named, elements]
  | case2 r t rest ih => exact ih
  | case3 r t rest ih => rw [ih, extendResource_comment, named_comment]
  | case4 r attributes children rest ih =>
      rw [ih, extendResource_text, named_element_of_ne text_ne_property]
  | case5 r attributes children rest hname hproperty =>
      have hempty : Element.name ⟨"property".toList, attributes, children⟩ = [] :=
        present?_eq_none_iff.mp hname
      refine iff_of_false (by simp) ?_
      rintro ⟨hnames, -⟩
      rw [named_element_self] at hnames
      exact hnames _ List.mem_cons_self hempty
  | case6 r attributes children rest name hname hproperty ih =>
      obtain ⟨hvalue, hne⟩ := present?_eq_some_iff.mp hname
      obtain rfl : Element.name ⟨"property".toList, attributes, children⟩ = name := hvalue
      rw [ih, extendResource_property, named_element_self, List.forall_mem_cons, and_iff_right hne]
      rfl
  | case7 r tag attributes children rest htext hproperty ih =>
      rw [ih, extendResource_other htext hproperty, named_element_of_ne hproperty]

/-- The resource of an element is read exactly if the element and its properties have names. -/
theorem resourceOf_eq_ok_iff {e : Element} {kind : ResourceKind} {r : Resource} :
    resourceOf source e.tag kind e.attributes e.children = .ok r ↔
      (e.name ≠ [] ∧ ∀ p ∈ named "property" e.children, p.name ≠ []) ∧
        resourceOfKind e kind = r := by
  rw [resourceOf]
  cases hname : Text.present? (attribute? e.attributes "name") with
  | none =>
      have hempty : e.name = [] := present?_eq_none_iff.mp hname
      simp [hempty]
  | some name =>
      obtain ⟨hvalue, hne⟩ := present?_eq_some_iff.mp hname
      obtain rfl : e.name = name := hvalue
      simp [addContents_eq_ok_iff, extendResource, resourceOfKind, hne]

/-- The hint of an element is read exactly if it has a class and a signature. -/
theorem hintOf_eq_ok_iff {e : Element} {hint : FactoryHint} :
    hintOf source e.attributes = .ok hint ↔
      (e.value "className" ≠ [] ∧ e.value "signature" ≠ []) ∧ factoryOf e = hint := by
  rw [hintOf]
  cases hclass : Text.present? (attribute? e.attributes "className") with
  | none =>
      have hempty : e.value "className" = [] := present?_eq_none_iff.mp hclass
      simp [hempty]
  | some className =>
      obtain ⟨hvalue, hne⟩ := present?_eq_some_iff.mp hclass
      obtain rfl : e.value "className" = className := hvalue
      cases hsignature : Text.present? (attribute? e.attributes "signature") with
      | none =>
          have hempty : e.value "signature" = [] := present?_eq_none_iff.mp hsignature
          simp [hempty]
      | some signature =>
          obtain ⟨hvalue', hne'⟩ := present?_eq_some_iff.mp hsignature
          obtain rfl : e.value "signature" = signature := hvalue'
          simp [factoryOf, hne, hne']

end Resources

section Children

theorem kindOfTag?_eq (e : Element) : kindOfTag? e.tag = kind? e := by
  rw [kindOfTag?, kind?, List.lookup_cons, List.lookup_cons]
  split
  · next h => rw [if_pos (by simpa using h)]
  · next h =>
    rw [if_neg (by simpa using h)]
    split
    · next h' => rw [if_pos (by simpa using h')]
    · next h' => rw [if_neg (by simpa using h'), List.lookup_nil]

theorem kind?_isSome_iff {e : Element} :
    (kind? e).isSome ↔ e.tag = "message".toList ∨ e.tag = "exception".toList := by
  rw [kind?]
  split_ifs with hmessage hexception
  · exact iff_of_true rfl (.inl hmessage)
  · exact iff_of_true rfl (.inr hexception)
  · exact iff_of_false (by simp) (by simp only [hmessage, hexception, or_self, not_false_eq_true])

theorem code_ne_factory : ("code".toList : Text) ≠ "factory".toList := by decide

theorem IsPart.factory_iff {e : Element} (h : e.tag = "factory".toList) :
    IsPart e ↔ e.value "className" ≠ [] ∧ e.value "signature" ≠ [] := by
  constructor
  · intro hpart
    cases hpart with
    | code htag => exact absurd (htag.symm.trans h) code_ne_factory
    | factory _ hclass hsignature => exact ⟨hclass, hsignature⟩
    | resource htag => exact absurd htag (by rw [h]; decide)
  · rintro ⟨hclass, hsignature⟩
    exact .factory h hclass hsignature

theorem IsPart.resource_iff {e : Element} (h : (kind? e).isSome) :
    IsPart e ↔ e.name ≠ [] ∧ ∀ p ∈ named "property" e.children, p.name ≠ [] := by
  rw [kind?_isSome_iff] at h
  constructor
  · intro hpart
    cases hpart with
    | code htag => exact absurd h (by rw [htag]; decide)
    | factory htag => exact absurd h (by rw [htag]; decide)
    | resource _ hname hproperties => exact ⟨hname, hproperties⟩
  · rintro ⟨hname, hproperties⟩
    exact .resource h hname hproperties

theorem not_isPart {e : Element} (hcode : e.tag ≠ "code".toList)
    (hfactory : e.tag ≠ "factory".toList) (hkind : kind? e = none) : ¬ IsPart e := by
  intro hpart
  cases hpart with
  | code htag => exact hcode htag
  | factory htag => exact hfactory htag
  | resource htag =>
      have hsome := kind?_isSome_iff.mpr htag
      simp [hkind] at hsome

/-- What nodes add to a bundle. -/
def extendBundle (b : Bundle) (nodes : List Node) : Bundle where
  locale := b.locale
  resources := b.resources ++ (elements nodes).filterMap resource?
  options :=
    { b.options with
      code := ((named "code" nodes).getLast?.map Element.content).or b.options.code
      factories := b.options.factories ++ (named "factory" nodes).map factoryOf }

section
variable {b : Bundle} {tag : Text} {attributes : Attributes} {children rest : List Node}

theorem resourceElements_of_none (h : kind? ⟨tag, attributes, children⟩ = none) :
    resourceElements (.element tag attributes children :: rest) = resourceElements rest :=
  List.filter_cons_of_neg (by simp [h])

theorem resourceElements_of_some {kind : ResourceKind}
    (h : kind? ⟨tag, attributes, children⟩ = some kind) :
    resourceElements (.element tag attributes children :: rest) =
      ⟨tag, attributes, children⟩ :: resourceElements rest :=
  List.filter_cons_of_pos (by simp [h])

theorem extendBundle_nil : extendBundle b [] = b := by
  simp [extendBundle, named, elements]

theorem extendBundle_code :
    extendBundle b (.element "code".toList attributes children :: rest) =
      extendBundle
        { b with options := { b.options with code := some (Node.contents children) } } rest := by
  have hnone : resource? ⟨"code".toList, attributes, children⟩ = none := rfl
  simp only [extendBundle, elements_element, List.filterMap_cons_none hnone, named_element_self,
    named_element_of_ne code_ne_factory, List.getLast?_cons]
  cases (named "code" rest).getLast? <;> rfl

theorem extendBundle_factory :
    extendBundle b (.element "factory".toList attributes children :: rest) =
      extendBundle
        { b with
          options :=
            { b.options with
              factories :=
                b.options.factories ++ [factoryOf ⟨"factory".toList, attributes, children⟩] } }
        rest := by
  have hnone : resource? ⟨"factory".toList, attributes, children⟩ = none := rfl
  simp only [extendBundle, elements_element, List.filterMap_cons_none hnone, named_element_self,
    named_element_of_ne code_ne_factory.symm, List.map_cons, List.append_assoc,
    List.singleton_append]

theorem extendBundle_resource (hcode : tag ≠ "code".toList) (hfactory : tag ≠ "factory".toList)
    {kind : ResourceKind} (hkind : kind? ⟨tag, attributes, children⟩ = some kind) :
    extendBundle b (.element tag attributes children :: rest) =
      extendBundle
        { b with
          resources := b.resources ++ [resourceOfKind ⟨tag, attributes, children⟩ kind] }
        rest := by
  have hsome : resource? ⟨tag, attributes, children⟩ =
      some (resourceOfKind ⟨tag, attributes, children⟩ kind) := by
    rw [resource?, hkind, Option.map_some]
  simp only [extendBundle, elements_element, List.filterMap_cons_some hsome,
    named_element_of_ne hcode, named_element_of_ne hfactory, List.append_assoc,
    List.singleton_append]

end

/-- The children of the root are added exactly if each of them fits and all names differ. -/
theorem addChildren_eq_ok_iff {b b' : Bundle} {nodes : List Node}
    (hb : (b.resources.map (·.name)).Nodup) :
    addChildren source b nodes = .ok b' ↔
      (∀ e ∈ elements nodes, IsPart e) ∧
        (b.resources.map (·.name) ++ (resourceElements nodes).map Element.name).Nodup ∧
        extendBundle b nodes = b' := by
  -- the bundle read so far grows along the recursion; `hb` is what the check for old names keeps
  fun_induction addChildren source b nodes with
  | case1 b =>
      rw [extendBundle_nil]
      simpa [elements, resourceElements] using fun _ => hb
  | case2 b t rest ih => exact ih hb
  | case3 b t rest ih => exact ih hb
  | case4 b attributes children rest ih =>
      rw [ih hb, elements_element, List.forall_mem_cons, and_iff_right (IsPart.code rfl),
        resourceElements_of_none rfl, extendBundle_code]
  | case5 b attributes children rest error hhint hcode =>
      refine iff_of_false (by simp) ?_
      rintro ⟨hparts, -⟩
      have hpart := hparts ⟨"factory".toList, attributes, children⟩ List.mem_cons_self
      rw [IsPart.factory_iff rfl] at hpart
      cases hhint.symm.trans (hintOf_eq_ok_iff.mpr ⟨hpart, rfl⟩)
  | case6 b attributes children rest hint hhint hcode ih =>
      obtain ⟨hpart, rfl⟩ :=
        (hintOf_eq_ok_iff (e := ⟨"factory".toList, attributes, children⟩)).mp hhint
      rw [ih hb, elements_element, List.forall_mem_cons,
        and_iff_right ((IsPart.factory_iff rfl).mpr hpart), resourceElements_of_none rfl,
        extendBundle_factory]
  | case7 b tag attributes children rest hcode hfactory hkind =>
      rw [kindOfTag?_eq ⟨tag, attributes, children⟩] at hkind
      refine iff_of_false (by simp) ?_
      rintro ⟨hparts, -⟩
      exact not_isPart hcode hfactory hkind (hparts _ List.mem_cons_self)
  | case8 b tag attributes children rest hcode hfactory kind hkind error hresource =>
      rw [kindOfTag?_eq ⟨tag, attributes, children⟩] at hkind
      refine iff_of_false (by simp) ?_
      rintro ⟨hparts, -⟩
      have hpart := hparts ⟨tag, attributes, children⟩ List.mem_cons_self
      rw [IsPart.resource_iff (Option.isSome_of_mem hkind)] at hpart
      cases hresource.symm.trans (resourceOf_eq_ok_iff.mpr ⟨hpart, rfl⟩)
  | case9 b tag attributes children rest hcode hfactory kind hkind r hresource hold =>
      rw [kindOfTag?_eq ⟨tag, attributes, children⟩] at hkind
      obtain ⟨-, rfl⟩ := (resourceOf_eq_ok_iff (e := ⟨tag, attributes, children⟩)).mp hresource
      -- the name is in both lists
      refine iff_of_false (by simp) ?_
      rintro ⟨-, hnames, -⟩
      rw [resourceElements_of_some hkind, List.map_cons] at hnames
      exact (List.nodup_append.mp hnames).2.2 _ hold _ List.mem_cons_self rfl
  | case10 b tag attributes children rest hcode hfactory kind hkind r hresource hnew ih =>
      rw [kindOfTag?_eq ⟨tag, attributes, children⟩] at hkind
      obtain ⟨hpart, rfl⟩ := (resourceOf_eq_ok_iff (e := ⟨tag, attributes, children⟩)).mp hresource
      have hnames : ((b.resources ++ [resourceOfKind ⟨tag, attributes, children⟩ kind]).map
          (·.name)).Nodup := by
        rw [List.map_append]
        exact hb.append (List.nodup_singleton _) (List.disjoint_singleton.mpr hnew)
      rw [ih hnames, elements_element, List.forall_mem_cons,
        and_iff_right ((IsPart.resource_iff (Option.isSome_of_mem hkind)).mpr hpart),
        resourceElements_of_some hkind, extendBundle_resource hcode hfactory hkind, List.map_append,
        List.append_assoc]
      rfl

end Children

theorem localeOf_eq_ok_iff {root : Element} {l : Option Locale} :
    localeOf source root.attributes = .ok l ↔
      (root.value "locale" = [] ∨ ∃ l, Locale.parse (root.value "locale") = .ok l) ∧
        (if root.value "locale" = [] then none else Locale.parse? (root.value "locale")) = l := by
  rw [localeOf]
  cases hlocale : Text.present? (attribute? root.attributes "locale") with
  | none =>
      have hempty : root.value "locale" = [] := present?_eq_none_iff.mp hlocale
      simp [hempty]
  | some identifier =>
      obtain ⟨hvalue, hne⟩ := present?_eq_some_iff.mp hlocale
      obtain rfl : root.value "locale" = identifier := hvalue
      simp only [hne, if_false, false_or, Locale.parse?]
      cases Locale.parse (root.value "locale") with
      | ok locale => simp [Except.toOption]
      | error e => simp

/-- An element is read as a bundle exactly if it is the root of a bundle document, and then the
bundle is the one that it declares. -/
theorem ofNode_eq_ok_iff {root : Element} {b : Bundle} :
    ofNode source root.node = .ok b ↔ IsBundle root ∧ declared root = b := by
  rw [Element.node, ofNode]
  by_cases htag : root.tag = "resourceBundle".toList
  · rw [if_neg (not_not_intro htag)]
    cases hlocale : localeOf source root.attributes with
    | error e =>
        refine iff_of_false (by simp) ?_
        rintro ⟨hroot, -⟩
        cases hlocale.symm.trans (localeOf_eq_ok_iff.mpr ⟨hroot.locale, rfl⟩)
    | ok l =>
        obtain ⟨hvalid, rfl⟩ := localeOf_eq_ok_iff.mp hlocale
        simp only
        rw [addChildren_eq_ok_iff (by exact List.nodup_nil)]
        constructor
        · rintro ⟨hparts, hnames, rfl⟩
          exact ⟨⟨htag, hvalid, hparts, hnames⟩, by simp [declared, extendBundle]⟩
        · rintro ⟨hroot, rfl⟩
          exact ⟨hroot.parts, hroot.names, by simp [declared, extendBundle]⟩
  · rw [if_pos htag]
    refine iff_of_false (by simp) ?_
    rintro ⟨hroot, -⟩
    exact htag hroot.tag

variable (source) in
/-- Exactly the documents of the shape of a bundle are read, each as the bundle that it declares.
Any other document is refused for what it contains. -/
theorem ofBytes_eq_ok_iff {bytes : Bytes} {root : Node} (h : Node.ofBytes bytes = .ok root) :
    ∃ e : Element, root = e.node ∧
      (∀ b, ofBytes source bytes = .ok b ↔ IsBundle e ∧ declared e = b) ∧
      (¬ IsBundle e → ∃ error, ofBytes source bytes = .error error ∧
        ∀ encoding, error ≠ .unknownEncoding encoding) := by
  obtain ⟨e, rfl⟩ := ofBytes_isElement h
  have hread : ofBytes source bytes = ofNode source e.node := by rw [ofBytes, h]
  refine ⟨e, rfl, fun b => by rw [hread, ofNode_eq_ok_iff], fun hnot => ?_⟩
  rw [hread]
  cases hnode : ofNode source e.node with
  | ok b => exact absurd (ofNode_eq_ok_iff.mp hnode).1 hnot
  | error error =>
      refine ⟨error, rfl, ?_⟩
      rintro encoding rfl
      exact ofNode_ne_unknownEncoding _ hnode

end

/-- A document with a message of two comments and two texts. -/
def ordersDocument : Bytes :=
  Text.utf8 ("<resourceBundle><message name=\"m\"><!--a--><text>b</text><text>c</text><!--d-->"
    ++ "</message></resourceBundle>").toList

/-- The bundle of that document. -/
def orders : Bundle where
  locale := none
  resources := [⟨"m", .message, some "c", [], some "a", none⟩]
  options := ⟨none, none, none, none, none, none, []⟩

/-- The document is read; of its texts the last counts, of its comments the first. -/
theorem orders_read :
    ∃ root, Node.ofBytes ordersDocument = .ok root ∧
      ∃ e : Element, root = e.node ∧ IsBundle e ∧ declared e = orders := by
  have hread : ofBytes "o.xml" ordersDocument = .ok orders := by decide +kernel
  cases hroot : Node.ofBytes ordersDocument with
  | error e => cases e <;> simp [ofBytes, hroot] at hread
  | ok root =>
      obtain ⟨e, heq, hiff, -⟩ := ofBytes_eq_ok_iff "o.xml" hroot
      exact ⟨root, rfl, e, heq, (hiff orders).mp hread⟩

end Bundle
end MessageCatalog
