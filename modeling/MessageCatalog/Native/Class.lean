import MessageCatalog.ClassName
import MessageCatalog.Generated.Description
import MessageCatalog.Generated.Header
import MessageCatalog.Generated.Rendering

/-!
# Native resource classes

A native class declares one function per resource and, for exceptions, the functions that create
them. A bundle has a native class only if every exception has a native exception class whose header
is known. Classes are built as data here; the text of header and implementation is made elsewhere.
-/

namespace MessageCatalog
namespace Native

/-- The type names of native code. -/
def types : TypeTable where
  string := "const std::string &"
  number := "int"
  date := "time_t"
  time := "time_t"

/-- The base class of native classes, unless another one is given. -/
def defaultBaseClass : Text := "ResourceBundle"

/-- The text is present and not empty. -/
def given (t : Option Text) : Bool :=
  (Text.present? t).isSome

/-- The reason why a resource has no native form, if there is one. -/
def resourceFault (b : Bundle) (r : Resource) : Option GenerationCause :=
  if r.text.isNone then some .noText
  else if !r.isException then none
  else
    let ownClass := given (r.exception.bind (·.nativeClassName))
    let ownLocation := given (r.exception.bind (·.nativeClassLocation))
    if ownClass && !ownLocation && !given b.options.nativeExceptionClassLocation then
      some .nativeClassWithoutHeader
    else if !given b.options.nativeExceptionClassName && !ownClass then some .noNativeClass
    else none

/-- The first fault among the resources, with the name of the resource. -/
def firstFault (b : Bundle) : List Resource → Option (GenerationCause × Text)
  | [] => none
  | r :: rest =>
      match resourceFault b r with
      | some cause => some (cause, r.name)
      | none => firstFault b rest

/-- Refuses a bundle whose exceptions have no native classes or no headers for them. -/
def validate (b : Bundle) (source : Path) : Except GenerationError Unit :=
  if given b.options.nativeExceptionClassName && !given b.options.nativeExceptionClassLocation then
    .error ⟨.nativeDefaultWithoutHeader, some source, none⟩
  else
    match firstFault b b.resources with
    | some (cause, name) => .error ⟨cause, some source, some name⟩
    | none => .ok ()

/-- The native exception class of a resource: its own, or that of the bundle. -/
def exceptionClass (r : Resource) (b : Bundle) : Option Text :=
  if r.isException then
    (Text.present? (r.exception.bind (·.nativeClassName))).or b.options.nativeExceptionClassName
  else none

/-- The headers of the native exception classes, each once, in order of first mention. -/
def exceptionIncludes (b : Bundle) : List Text :=
  let ofResource (r : Resource) : Option Text :=
    if r.isException then Text.present? (r.exception.bind (·.nativeClassLocation)) else none
  ((Text.present? b.options.nativeExceptionClassLocation).toList
    ++ b.resources.filterMap ofResource).eraseDups

/-- The name that guards a header against repeated inclusion. -/
def headerGuard (fileName : Text) (space : Option Text) : Text :=
  let guard : Text := (Path.ofText fileName).stem ++ "_Included"
  match Text.present? space with
  | none => guard
  | some space => Text.capitalized space ++ '_' :: guard

/-- What a function of a native class returns. -/
inductive Result where
  /-- A text. -/
  | text
  /-- A new object of an exception class. -/
  | exception (className : Text)
deriving DecidableEq, Repr

/-- A declared function of a native class. -/
structure Function where
  result : Result
  name : Text
  parameters : List Parameter
deriving DecidableEq, Repr

/-- The part of a native class that belongs to one resource. -/
structure Member where
  described : Description
  exceptionClass : Option Text
  /-- Exceptions can be created from another exception. -/
  chained : Bool
deriving DecidableEq, Repr

namespace Member

/-- The name of the accessor function. -/
def name (m : Member) : Text :=
  m.described.resource.name

/-- The parameters of the accessor function. -/
def parameters (m : Member) : List Parameter :=
  m.described.signature.parameters types

/-- The accessor function. -/
def accessor (m : Member) : Function :=
  ⟨.text, m.name, m.parameters⟩

/-- The function that creates the exception. -/
def factory (m : Member) (exceptionClass : Text) : Function :=
  ⟨.exception exceptionClass, "new" ++ m.described.stem, m.parameters⟩

/-- The function that creates the exception from another one. -/
def chainedFactory (m : Member) (exceptionClass : Text) : Function :=
  ⟨.exception exceptionClass, "new" ++ m.described.stem,
    m.parameters ++ [⟨"const " ++ exceptionClass ++ " * const", "prev"⟩]⟩

end Member

/-- A native class. -/
structure Class where
  header : Header
  className : Text
  baseClass : Text
  space : Option Text
  members : List Member
deriving DecidableEq, Repr

/-- The member of a resource. -/
def memberOf (b : Bundle) (source : Path) (r : Resource) : Except RenderError Member := do
  let described ← r.describe source
  let className := exceptionClass r b
  return ⟨described, className,
    given className && (r.exception.bind (·.chained)).getD false⟩

/-- The native class of a bundle; its name must not have a package. A class that is built is
logged. -/
def classOf (b : Bundle) (className : Text) (header : Header) (baseClass : Text) :
    Rendering Class :=
  if className.contains '.' then
    throw (.generation ⟨.qualifiedNativeClass className, some header.source, none⟩)
  else
    match validate b header.source with
    | .error e => throw (.generation e)
    | .ok () => do
        Rendering.log (.of .debug "emitters.cpp" ("Rendering native class " ++ className))
        let members ← Rendering.ofExcept (b.resources.mapM (memberOf b header.source))
        return ⟨header, className, ClassName.simple baseClass, b.options.nativeNamespace, members⟩

end Native
end MessageCatalog
