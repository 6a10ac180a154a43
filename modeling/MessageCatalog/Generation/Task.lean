import MessageCatalog.ClassName
import MessageCatalog.Generated.Header
import MessageCatalog.Settings.Basic
import MessageCatalog.Timestamp

/-!
# Tasks

A task is what belongs to one include of a configuration: its source, the class that it gives, and
the header of everything that is generated for it. The places of the outputs follow from these.
-/

namespace MessageCatalog
namespace Generation

/-- What belongs to one include. -/
structure Task where
  configuration : Configuration
  item : Include
  source : Path
  className : Text
  header : Header

namespace Task

/-- The suffix of bundles. -/
def bundleSuffix : Text := ".xml"

/-- The suffix of properties files. -/
def propertiesSuffix : Text := ".properties"

/-- The class name of an include: the given one, or that of its file. -/
def classNameOf (item : Include) : Text :=
  let suffix := if item.name.endsWith propertiesSuffix then propertiesSuffix else bundleSuffix
  (Text.present? item.className).getD (ClassName.ofFile item.name suffix)

/-- The name of the native class of an include: the given one, or that of its file. -/
def nativeClassOf (item : Include) : Text :=
  (Text.present? item.nativeClass).getD (ClassName.simpleOfFile item.name bundleSuffix)

/-- The header of what is generated of a source at a time. -/
def headerOf (source : Path) (stable : Bool) (now : Time) : Header :=
  { source, stable, timestamp := (Timestamp.ofTime now).headerText }

/-- The task of an include at a time. -/
def of (c : Configuration) (item : Include) (now : Time) : Task :=
  let source := c.source / Path.ofText item.name
  { configuration := c, item, source
    className := classNameOf item
    header := headerOf source (c.commentStyle = .stable) now }

/-- The place of a file in the package directory below a root. -/
def inPackage (k : Task) (root : Path) (fileName : Text) : Path :=
  ClassName.directory root k.className / Path.ofText fileName

/-- The file of the accessor class, or of its subclass for a locale. -/
def classFile (k : Task) (locale : Option Locale) : Path :=
  k.inPackage k.configuration.destination (ClassName.javaFile k.className locale)

/-- The base properties file, or that of a locale. -/
def propertiesFile (k : Task) (locale : Option Locale) : Path :=
  k.inPackage k.configuration.resources (ClassName.propertiesFile k.className locale)

/-- The properties file of a locale that is maintained by hand, if there is one. -/
def byHandFile (k : Task) (locale : Locale) : Path :=
  k.inPackage k.configuration.source (ClassName.propertiesFile k.className (some locale))

/-- The name of the native class. -/
def nativeClass (k : Task) : Text :=
  nativeClassOf k.item

/-- The header of the native class. -/
def nativeHeader (k : Task) : Path :=
  k.configuration.destination / Path.ofText (ClassName.headerFile k.nativeClass)

/-- The implementation of the native class. -/
def nativeImplementation (k : Task) : Path :=
  k.configuration.destination / Path.ofText (ClassName.implementationFile k.nativeClass)

end Task

end Generation
end MessageCatalog
