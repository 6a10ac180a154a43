import MessageCatalog.Locale.Basic
import MessageCatalog.Text.Uppercase

/-!
# Bundles

A bundle is a list of localizable resources, in order of declaration, with the locale of its texts
and options for generated code. A resource is a plain message or an exception; an exception may
carry details on the classes that throw it. Values that the source may leave out are optional, and
an empty text differs from a missing one.
-/

namespace MessageCatalog

/-- What a resource is. -/
inductive ResourceKind where
  | message
  | exception
deriving DecidableEq, Repr

/-- A name and a value attached to a resource. -/
structure Property where
  name : Text
  value : Text
deriving DecidableEq, Repr

/-- What an exception resource says about its classes. -/
structure ExceptionDetails where
  className : Option Text
  nativeClassName : Option Text
  nativeClassLocation : Option Text
  /-- Whether exceptions take a cause; nothing if the source does not say. -/
  chained : Option Bool
deriving DecidableEq, Repr

/-- One localizable message or exception. -/
structure Resource where
  name : Text
  kind : ResourceKind
  text : Option Text
  properties : List Property
  comment : Option Text
  exception : Option ExceptionDetails
deriving DecidableEq, Repr

/-- A constructor signature declared for an exception class. -/
structure FactoryHint where
  className : Text
  signature : Text
deriving DecidableEq, Repr

/-- The options of a bundle for generated code. -/
structure BundleOptions where
  exceptionClassName : Option Text
  nativeNamespace : Option Text
  nativeCommonInclude : Option Text
  nativeExceptionClassName : Option Text
  nativeExceptionClassLocation : Option Text
  code : Option Text
  factories : List FactoryHint
deriving DecidableEq, Repr

/-- A bundle: its locale, its resources in order of declaration, its options. -/
structure Bundle where
  locale : Option Locale
  resources : List Resource
  options : BundleOptions
deriving DecidableEq

/-- An optional text that is present and not empty. -/
def Text.present? : Option Text → Option Text
  | some [] => none
  | t => t

namespace Resource

/-- The resource is an exception. -/
def isException (r : Resource) : Bool :=
  r.kind == .exception

/-- The stem of the names of generated members: a name in capitals is set off by an underscore, any
other name starts with a capital. -/
def stem (r : Resource) : Text :=
  if r.name = Text.uppercase r.name then '_' :: r.name else Text.capitalized r.name

end Resource

namespace Bundle

/-- The signatures that hints declare for a class, in order. -/
def hintsFor (b : Bundle) (className : Text) : List Text :=
  (b.options.factories.filter (·.className = className)).map (·.signature)

end Bundle

end MessageCatalog
