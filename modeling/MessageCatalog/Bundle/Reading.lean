import MessageCatalog.Bundle.Basic
import MessageCatalog.Markup.Document

/-!
# Reading bundles

A bundle document has the root element `resourceBundle`, whose children are messages, exceptions,
constructor hints and included code. Every resource has a name of its own. Inside a resource the last
text and the first comment count, and elements that are not known are passed over.
-/

namespace MessageCatalog

/-- Why a document is not a bundle. The first field of each cause is the name of the source. -/
inductive BundleError where
  | malformed (source : Text)
  | wrongRoot (source tag : Text)
  | wrongLocale (source : Text) (e : LocaleError)
  | duplicate (source name : Text)
  | unexpectedElement (source tag : Text)
  | incompleteFactory (source : Text)
  | unnamedResource (source tag : Text)
  | unnamedProperty (source resource : Text)
  /-- The document names an encoding that is not known, or one whose characters are not single
  bytes. -/
  | unknownEncoding (encoding : Text)
deriving DecidableEq, Repr

/-- The wording of a refusal. -/
def BundleError.message : BundleError → Text
  | .malformed source => "Malformed resource bundle " ++ source
  | .wrongRoot source tag =>
      "Resource bundle " ++ source ++ " must have root element <resourceBundle>, found <" ++ tag ++ ">"
  | .wrongLocale source e => "Resource bundle " ++ source ++ " has invalid locale: " ++ e.message
  | .duplicate source name => "Duplicate resource '" ++ name ++ "' in " ++ source
  | .unexpectedElement source tag => "Unexpected element <" ++ tag ++ "> in " ++ source
  | .incompleteFactory source =>
      "<factory> requires 'className' and 'signature' in " ++ source
  | .unnamedResource source tag => "<" ++ tag ++ "> without a name in " ++ source
  | .unnamedProperty source resource =>
      "<property> without a name on '" ++ resource ++ "' in " ++ source
  | .unknownEncoding encoding => "unknown encoding: " ++ encoding

namespace Bundle

open Markup (Node)

/-- The attributes of an element. -/
abbrev Attributes : Type := List (Text × Text)

/-- The value of an attribute. -/
def attribute? (attributes : Attributes) (name : String) : Option Text :=
  attributes.lookup name.toList

/-- The kind of resource that an element declares. -/
def kindOfTag? (tag : Text) : Option ResourceKind :=
  [("message".toList, ResourceKind.message), ("exception".toList, .exception)].lookup tag

/-- A flag is set when its value, stripped, is the word true in any case. -/
def flagValue (value : Text) : Bool :=
  Text.asciiLowercase value.strip = "true".toList

/-- The details of an exception element. -/
def detailsOf (attributes : Attributes) : ExceptionDetails where
  className := attribute? attributes "className"
  nativeClassName := attribute? attributes "cppClassName"
  nativeClassLocation := attribute? attributes "cppClassLocation"
  chained :=
    ((attribute? attributes "cppChainExceptions").or
      (attribute? attributes "chainExceptions")).map flagValue

/-- Adds the children of a resource element to a resource: the last text, all properties, the first
comment. -/
def addContents (source : Text) : Resource → List Node → Except BundleError Resource
  | r, [] => .ok r
  | r, .text _ :: rest => addContents source r rest
  | r, .comment t :: rest =>
      addContents source (if r.comment.isNone then { r with comment := some t.strip } else r) rest
  | r, .element tag attributes children :: rest =>
      if tag = "text".toList then
        addContents source { r with text := some (Node.contents children) } rest
      else if tag = "property".toList then
        match Text.present? (attribute? attributes "name") with
        | none => .error (.unnamedProperty source r.name)
        | some name =>
            addContents source
              { r with properties := r.properties ++ [⟨name, Node.contents children⟩] } rest
      else addContents source r rest

/-- The resource of an element. -/
def resourceOf (source tag : Text) (kind : ResourceKind) (attributes : Attributes)
    (children : List Node) : Except BundleError Resource :=
  match Text.present? (attribute? attributes "name") with
  | none => .error (.unnamedResource source tag)
  | some name =>
      addContents source
        { name, kind, text := none, properties := [], comment := none
          exception := if kind = .exception then some (detailsOf attributes) else none }
        children

/-- The hint of an element. -/
def hintOf (source : Text) (attributes : Attributes) : Except BundleError FactoryHint :=
  match Text.present? (attribute? attributes "className"),
    Text.present? (attribute? attributes "signature") with
  | some className, some signature => .ok ⟨className, signature⟩
  | _, _ => .error (.incompleteFactory source)

/-- Adds the children of the root element to a bundle, in document order. -/
def addChildren (source : Text) : Bundle → List Node → Except BundleError Bundle
  | b, [] => .ok b
  | b, .text _ :: rest => addChildren source b rest
  | b, .comment _ :: rest => addChildren source b rest
  | b, .element tag attributes children :: rest =>
      if tag = "code".toList then
        addChildren source
          { b with options := { b.options with code := some (Node.contents children) } } rest
      else if tag = "factory".toList then
        match hintOf source attributes with
        | .error e => .error e
        | .ok hint =>
            addChildren source
              { b with options := { b.options with factories := b.options.factories ++ [hint] } }
              rest
      else
        match kindOfTag? tag with
        | none => .error (.unexpectedElement source tag)
        | some kind =>
            match resourceOf source tag kind attributes children with
            | .error e => .error e
            | .ok resource =>
                if resource.name ∈ b.resources.map (·.name) then
                  .error (.duplicate source resource.name)
                else addChildren source { b with resources := b.resources ++ [resource] } rest

/-- The locale that the root element declares, if it declares one. -/
def localeOf (source : Text) (attributes : Attributes) : Except BundleError (Option Locale) :=
  match Text.present? (attribute? attributes "locale") with
  | none => .ok none
  | some identifier =>
      match Locale.parse identifier with
      | .ok locale => .ok (some locale)
      | .error e => .error (.wrongLocale source e)

/-- The bundle of a document tree. -/
def ofNode (source : Text) : Node → Except BundleError Bundle
  | .text _ => .error (.malformed source)
  | .comment _ => .error (.malformed source)
  | .element tag attributes children =>
      if tag ≠ "resourceBundle".toList then .error (.wrongRoot source tag)
      else
        match localeOf source attributes with
        | .error e => .error e
        | .ok locale =>
            addChildren source
              { locale, resources := []
                options :=
                  { exceptionClassName := attribute? attributes "exceptionClassName"
                    nativeNamespace := attribute? attributes "cppNamespace"
                    nativeCommonInclude := attribute? attributes "cppCommonInclude"
                    nativeExceptionClassName := attribute? attributes "cppExceptionClassName"
                    nativeExceptionClassLocation :=
                      attribute? attributes "cppExceptionClassLocation"
                    code := none
                    factories := [] } }
              children

/-- The bundle of the document that the bytes encode. -/
def ofBytes (source : Text) (bytes : Bytes) : Except BundleError Bundle :=
  match Node.ofBytes bytes with
  | .ok root => ofNode source root
  | .error .malformed => .error (.malformed source)
  | .error (.unknownEncoding encoding) => .error (.unknownEncoding encoding)

end Bundle
end MessageCatalog
