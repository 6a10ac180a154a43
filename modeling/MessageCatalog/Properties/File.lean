import MessageCatalog.ClassName
import MessageCatalog.Generated.Description
import MessageCatalog.Generated.Header
import MessageCatalog.Generated.Rendering

/-!
# Properties files

The base properties file of a bundle has one entry per resource, in order of declaration. The file of
a locale starts out without entries, for a translator to fill. A text with an odd number of single
quotes is reported, since a message format reads a quote as the start of a literal part.
-/

namespace MessageCatalog
namespace Properties

/-- The lines that tell where a file comes from. -/
def originLines (header : Header) : List Text :=
  let origin : List Text :=
    ["# It was generated by " ++ toolName, "# from " ++ header.sourceText]
  origin ++ header.timeLines "# " ++ [[]]

/-- The line of an entry. -/
def entryLine (entry : Property) : Text :=
  entry.name ++ '=' :: entry.value.entryValue

/-- The text of a base properties file. -/
def baseText (className : Text) (locale : Option Locale) (header : Header)
    (entries : List Property) : Text :=
  let opening : List Text :=
    ["# This file contains the resources for",
      "# class '" ++ className ++ "'; the base locale is '"
        ++ (locale.map Locale.text).getD [] ++ "'."]
  Text.unlines
    (opening ++ originLines header ++ entries.map entryLine
      ++ ["# End " ++ className ++ ".properties"])

/-- The text of the properties file of a locale without entries. -/
def stubText (className : Text) (locale : Locale) (header : Header) : Text :=
  let localizedName := ClassName.localized className (some locale)
  let opening : List Text :=
    ["# This file contains the resources for",
      "# class '" ++ localizedName ++ "' and locale '" ++ locale.text ++ "'."]
  let advice : List Text :=
    ["# This file is intentionally blank. Add property values",
      "# to this file to override the translations in the base",
      "# properties file, " ++ ClassName.propertiesFile className none, [],
      "# End " ++ localizedName ++ ".properties"]
  Text.unlines (opening ++ originLines header ++ advice)

/-- The warning about a text with an odd number of single quotes. -/
def unbalancedQuotes (name : Text) : Text :=
  "The message for resource '" ++ name ++ "' has an odd number of single-quotes. "
    ++ "These should probably be doubled (to include a single-quote in a message) "
    ++ "or closed (to include a literal string in a message)."

/-- The entry of a resource, after a warning if its quotes are not balanced. -/
def entryOf (source : Path) (r : Resource) : Rendering Property := do
  let text ← Rendering.ofExcept ((r.requireText source).mapError .generation)
  if text.count '\'' % 2 = 1 then Rendering.warn (unbalancedQuotes r.name)
  return ⟨r.name, text⟩

/-- The base properties file of a bundle. -/
def render (b : Bundle) (className : Text) (header : Header) : Rendering Text := do
  let entries ← b.resources.mapM (entryOf header.source)
  return baseText className b.locale header entries

end Properties
end MessageCatalog
