import MessageCatalog.Locale.Basic

/-!
# Locales in file names

A file such as `happy/Birthday_en_US.xml` carries its locale between an underscore of its name and
its suffix. The boundary is the first underscore of the name whose remainder is a locale identifier;
underscores before it belong to the name itself. Both kinds of slash separate directories.
-/

namespace MessageCatalog
namespace Text

/-- A character that separates the directories of a file name. -/
def isSlash (c : Char) : Bool :=
  c = '/' || c = '\\'

/-- The directory part of a path, with the slash at its end. -/
def directoryPart (path : Text) : Text :=
  dropTrailing (fun c => !isSlash c) path

/-- The name part of a path: what follows the last slash. -/
def namePart (path : Text) : Text :=
  (path.reverse.takeWhile fun c => !isSlash c).reverse

theorem directoryPart_append_namePart (path : Text) :
    path.directoryPart ++ path.namePart = path := by
  rw [directoryPart, namePart, dropTrailing, ← List.reverse_append, List.takeWhile_append_dropWhile,
    List.reverse_reverse]

end Text

namespace Locale

/-- The part of a name before the first underscore whose remainder is a locale, and that locale. -/
def boundary : Text → Option (Text × Locale)
  | [] => none
  | c :: rest =>
      match if c = '_' then parse? rest else none with
      | some l => some ([], l)
      | none => (boundary rest).map fun (before, l) => (c :: before, l)

/-- The locale that a file name encodes: everything after the first underscore of the name, which
must not be its first character. -/
def ofFileName (path suffix : Text) : Option Locale :=
  match (path.withoutEnding suffix).namePart.cut '_' with
  | none => none
  | some (before, rest) => if before = [] then none else parse? rest

/-- The path without its suffix and without the locale at the end of its name. -/
def stripFromFileName (path suffix : Text) : Text :=
  let stem := path.withoutEnding suffix
  match boundary stem.namePart with
  | some (before, _) => stem.directoryPart ++ before
  | none => stem

end Locale
end MessageCatalog
