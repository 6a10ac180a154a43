import MessageCatalog.Locale.Basic
import MessageCatalog.Path
import MessageCatalog.Template.Signature

/-!
# Generation errors

Why a bundle cannot be turned into generated files. An error names its cause and, where they are
known, the resource and the source file it concerns; the wording folds them into one message.
-/

namespace MessageCatalog

/-- Why generation is refused. -/
inductive GenerationCause where
  /-- A resource has no text. -/
  | noText
  /-- A template has a placeholder beyond the parameter limit. -/
  | tooManyParameters (highest : Nat)
  /-- The bundle names a native exception class but not its header. -/
  | nativeDefaultWithoutHeader
  /-- A resource names a native exception class and nothing names a header. -/
  | nativeClassWithoutHeader
  /-- Nothing names the native exception class of a resource. -/
  | noNativeClass
  /-- The name of a native class has a package. -/
  | qualifiedNativeClass (className : Text)
  /-- The include is neither a bundle nor a properties file. -/
  | unsupportedFile
  /-- The bundle does not say which locale its texts have. -/
  | noBundleLocale
  /-- The name of a properties file has no locale. -/
  | noLocaleInName
  /-- The locale of the bundle is not among the requested ones. -/
  | localeNotListed (locale : Locale) (list : Text)
deriving DecidableEq

/-- The wording of a cause. -/
def GenerationCause.message : GenerationCause → Text
  | .noText => "Resource has no message"
  | .tooManyParameters highest => (SignatureError.tooManyParameters highest).message
  | .nativeDefaultWithoutHeader =>
      "C++ exception class is defined without a header file location"
  | .nativeClassWithoutHeader => "C++ exception class specified without a header location"
  | .noNativeClass => "No exception class specified"
  | .qualifiedNativeClass className => "C++ class name must not contain '.': " ++ className
  | .unsupportedFile => "Only .xml and .properties files are supported"
  | .noBundleLocale => "Resource bundle must declare a locale"
  | .noLocaleInName => "Cannot derive a locale from the file name"
  | .localeNotListed locale list =>
      "Bundle locale '" ++ locale.text ++ "' is not in the locale list '" ++ list ++ "'"

/-- A refusal with the places it concerns. -/
structure GenerationError where
  cause : GenerationCause
  path : Option Path
  resource : Option Text
deriving DecidableEq

/-- A wording together with the resource and the path it concerns, in parentheses. -/
def GenerationError.located (detail : Text) (path : Option Path) (resource : Option Text) : Text :=
  let ofResource (name : Text) : Text := "resource '" ++ name ++ "'"
  let ofPath (p : Path) : Text := "in " ++ p.text
  let places := resource.toList.map ofResource ++ path.toList.map ofPath
  if places.isEmpty then detail else detail ++ " (" ++ Text.join ", " places ++ ")"

/-- The wording of a refusal. -/
def GenerationError.message (e : GenerationError) : Text :=
  located e.cause.message e.path e.resource

/-- Why rendering stops. -/
inductive RenderError where
  | generation (e : GenerationError)
  /-- A number in a template is too long to be converted. -/
  | numberTooLong
deriving DecidableEq

end MessageCatalog
