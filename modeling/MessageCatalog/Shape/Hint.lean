import MessageCatalog.Shape.Basic

/-!
# Constructor hints

A bundle can name the constructors of its exception classes by their signatures. A signature is
recognised when it equals one of four known ones up to white space; all others are ignored.
-/

namespace MessageCatalog
namespace ConstructorForm

/-- The signature by which a hint names the form. -/
def signature : ConstructorForm → Text
  | .message => "(String message)"
  | .messageCause => "(String message, Throwable cause)"
  | .object => "(ResourceInstance r)"
  | .objectCause => "(ResourceInstance r, Throwable cause)"

/-- The signature with one blank where words meet or behind a comma, and none elsewhere. -/
def normalizedSignature (signature : Text) : Text :=
  let spaced := Text.join [' '] (Text.words (signature.replace [','] [',', ' ']))
  ((spaced.replace ['(', ' '] ['(']).replace [' ', ')'] [')']).replace [' ', ','] [',']

/-- The form that a hint names. -/
def ofSignature? (signature : Text) : Option ConstructorForm :=
  all.find? fun form => form.signature == normalizedSignature signature

end ConstructorForm

/-- The shape with the forms that the hints name. -/
def ConstructorShape.ofHints (signatures : List Text) : ConstructorShape :=
  .ofForms (signatures.filterMap ConstructorForm.ofSignature?)

end MessageCatalog
