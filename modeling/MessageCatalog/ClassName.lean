import MessageCatalog.Locale.FileName
import MessageCatalog.Path

/-!
# Class names

The class that a source file generates: its package is the directory of the file, its simple name
the file name without suffix and locale. A locale extends a class name by an underscore and its
identifier, and a package is a path of directories.
-/

namespace MessageCatalog
namespace ClassName

/-- The class name of a source file: the slashes of the stripped path become dots. -/
def ofFile (file suffix : Text) : Text :=
  ((Locale.stripFromFileName file suffix).replaceChar '\\' '.').replaceChar '/' '.'

/-- The class name without its package. -/
def simple (className : Text) : Text :=
  match className.cutLast '.' with
  | some (_, name) => name
  | none => className

/-- The package of a class name, if it has one. -/
def package? (className : Text) : Option Text :=
  (className.cutLast '.').map (·.1)

/-- The class name of a source file without its package. -/
def simpleOfFile (file suffix : Text) : Text :=
  simple (ofFile file suffix)

/-- The name extended by a locale, if one is given. -/
def localized (className : Text) : Option Locale → Text
  | none => className
  | some l => className ++ '_' :: l.text

/-- The class name without its package, extended by a locale. -/
def simpleLocalized (className : Text) (locale : Option Locale) : Text :=
  localized (simple className) locale

/-- The directory of the class's package below `root`. -/
def directory (root : Path) (className : Text) : Path :=
  match package? className with
  | none => root
  | some package => (package.splitOn '.').foldl (fun p segment => p / Path.ofText segment) root

/-- The name of the file that declares the class of the managed runtime. -/
def javaFile (className : Text) (locale : Option Locale) : Text :=
  simpleLocalized className locale ++ ".java"

/-- The name of the properties file of the class. -/
def propertiesFile (className : Text) (locale : Option Locale) : Text :=
  simpleLocalized className locale ++ ".properties"

/-- The name of the header of a native class. -/
def headerFile (className : Text) : Text :=
  className ++ ".h"

/-- The name of the implementation file of a native class. -/
def implementationFile (className : Text) : Text :=
  className ++ ".cpp"

end ClassName
end MessageCatalog
