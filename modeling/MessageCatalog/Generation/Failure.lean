import MessageCatalog.Bundle.Reading
import MessageCatalog.FileTree.Basic
import MessageCatalog.Generated.Error

/-!
# Failures

Why an include cannot be generated. Most failures concern the include alone, and the run goes on with
the next one. A number with too many digits, an encoding that is not known and a path with a null
character are no faults of a bundle that the run expects, and they end it.
-/

namespace MessageCatalog

/-- Why an include cannot be generated. -/
inductive Failure where
  | generation (e : GenerationError)
  | locale (e : LocaleError)
  /-- The bundle file cannot be read. -/
  | unreadable (path : Path) (e : FileError)
  | bundle (e : BundleError)
  | file (e : FileError)
  | numberTooLong
deriving DecidableEq

namespace Failure

/-- The failure of reading the file of a bundle. -/
def ofReading (path : Path) (e : FileError) : Failure :=
  if e.isSystem then .unreadable path e else .file e

/-- The failure of a rendering. -/
def ofRendering : RenderError → Failure
  | .generation e => .generation e
  | .numberTooLong => .numberTooLong

/-- The wording of a failure. -/
def message : Failure → Text
  | .generation e => e.message
  | .locale e => e.message
  | .unreadable path e => "Cannot read resource bundle " ++ path.text ++ ": " ++ e.message
  | .bundle e => e.message
  | .file e => e.message
  | .numberTooLong => SignatureError.numberTooLong.message

/-- The failure concerns one include only. -/
def isLocal : Failure → Bool
  | .generation _ => true
  | .locale _ => true
  | .unreadable .. => true
  | .bundle (.unknownEncoding _) => false
  | .bundle _ => true
  | .file e => e.isSystem
  | .numberTooLong => false

end Failure

/-- The bundle in the file at the end of a path. -/
def Bundle.ofFile (t : FileTree) (path : Path) : Except Failure Bundle :=
  match t.read path with
  | .error e => .error (.ofReading path e)
  | .ok bytes => (Bundle.ofBytes path.text bytes).mapError .bundle

/-- The locales to generate for a bundle: those of the list, which must contain the bundle's own
locale, or that locale alone if there is no list. -/
def Bundle.resolveLocales (own : Locale) (list : Option Text) (source : Path) :
    Except Failure (List Locale) :=
  match Text.present? list with
  | none => .ok [own]
  | some list =>
      let identifiers := Locale.identifiers list
      if identifiers.contains own.text then
        (identifiers.mapM Locale.parse).mapError .locale
      else .error (.generation ⟨.localeNotListed own list, some source, none⟩)

end MessageCatalog
