import MessageCatalog.Generation.Staleness
import MessageCatalog.Generation.State
import MessageCatalog.Generation.Task
import MessageCatalog.Managed.Source
import MessageCatalog.Native.Source
import MessageCatalog.Properties.File

/-!
# The conduct of a run

A run processes its includes one after the other. A bundle gives the accessor class and the base
properties file, then for each locale a subclass and a properties file, then the native class; a
properties file gives the subclass of its locale. An output is written if it is stale and may be
written. An include that fails is reported, and the run goes on with the next one.

This order does not depend on what a step of the run is. Actions are taken as steps of some monad,
and the directories are asked for as steps, where they are used: a run that has its directories and
one that has to look for them are the same run in different conduct.
-/

namespace MessageCatalog
namespace Generation

open Settings (PathKey)

/-- An include that could not be generated, and why. -/
structure IncludeFailure where
  name : Text
  message : Text
deriving DecidableEq, Repr

/-- What a run did. -/
structure Report where
  written : List Path
  skipped : List (Path × Text)
  warnings : List Text
  failures : List IncludeFailure
deriving DecidableEq, Repr

/-- The run had no failures. -/
def Report.isOk (r : Report) : Bool :=
  r.failures.isEmpty

/-- What a run is asked for, and how it is carried out in a monad. -/
structure Conduct (m : Type → Type) where
  /-- An action as a step. -/
  act : {α : Type} → Action α → m α
  /-- A step, followed by a report of its message if it fails in a way that concerns an include
  alone. -/
  attempt : {α : Type} → m α → (Text → Action α) → m α
  /-- The directory for a key. -/
  directory : PathKey → m Path
  isManaged : Bool
  isNative : Bool
  isStable : Bool
  locales : Option Text
  style : AccessorStyle
  force : Bool
  includes : List Include

/-- What belongs to one include of a run. -/
structure Job (m : Type → Type) extends Conduct m where
  item : Include
  source : Path
  className : Text
  header : Header

/-- Writes an output if it is stale and may be written; its content is made only then. -/
def writeIfStale (output : Path) (decision : Decision) (content : Action Bytes) : Action Unit := do
  if decision.isCurrent then Action.skip output decision.reason
  else if ← Action.ask (·.isReadOnly output) then
    Action.skip output (output.text ++ " is read-only")
  else Action.write output (← content)

/-- Writes what is rendered if the output is older than the source. -/
def writeRendered (output : Path) (sourceTime : Time) (force : Bool) (rendering : Rendering Text) :
    Action Unit := do
  let decision ← Action.ask fun t => Decision.ofOutput t sourceTime output force
  writeIfStale output decision (return (← Action.render rendering).utf8)

/-- Writes the properties file of a locale: a copy of the one maintained by hand, or one without
entries. -/
def writeLocaleFile (output byHand : Path) (force : Bool) (stub : Text) : Action Unit := do
  let sourceTime ← Action.ask fun t => do if ← t.has byHand then t.timeOf byHand else return 0
  let decision ← Action.ask fun t => Decision.ofLocaleFile t sourceTime output byHand force
  writeIfStale output decision do
    if ← Action.ask (·.has byHand) then Action.ask (·.read byHand) else return stub.utf8

/-- Writes two outputs that are rendered together, both or neither. -/
def writePair (output output' : Path) (sourceTime : Time) (force : Bool)
    (rendering rendering' : Rendering Text) : Action Unit := do
  let outputs := [output, output']
  let decision ← Action.ask fun t => Decision.ofOutputs t sourceTime force outputs
  if decision.isCurrent then
    for output in outputs do
      Action.skip output (Decision.current output).reason
  else
    let text ← Action.render rendering
    let text' ← Action.render rendering'
    Action.write output text.utf8
    Action.write output' text'.utf8

namespace Job

variable {m : Type → Type} [Monad m] (k : Job m)

/-- The package directory below the directory for a key. -/
def package (key : PathKey) : m Path :=
  return ClassName.directory (← k.directory key) k.className

/-- Writes an output if it is older than the source. -/
def emit (output : Path) (sourceTime : Time) (rendering : Rendering Text) : m Unit :=
  k.act (writeRendered output sourceTime k.force rendering)

/-- Generates the accessor class and the base properties file of a bundle in their directories. -/
def emitBase (b : Bundle) (sourceTime : Time) (destination resources : Path) : m Unit := do
  if k.isManaged then
    k.emit (destination / Path.ofText (ClassName.javaFile k.className none)) sourceTime
      (Managed.render k.style b k.className k.header (some k.item.baseClass))
  k.emit (resources / Path.ofText (ClassName.propertiesFile k.className none)) sourceTime
    (Properties.render b k.className k.header)

/-- Generates the subclass of a locale. -/
def emitLocaleClass (locale : Locale) (sourceTime : Time) : m Unit := do
  let output :=
    (← k.package .destination) / Path.ofText (ClassName.javaFile k.className (some locale))
  k.emit output sourceTime (return Managed.localeClassText k.className locale k.header)

/-- Generates the properties file of a locale. -/
def emitLocaleProperties (locale : Locale) : m Unit := do
  let fileName := Path.ofText (ClassName.propertiesFile k.className (some locale))
  let output := (← k.package .resources) / fileName
  let byHand := (← k.package .source) / fileName
  k.act (writeLocaleFile output byHand k.force (Properties.stubText k.className locale k.header))

/-- Generates header and implementation of the native class, both or neither. -/
def emitNative (b : Bundle) (sourceTime : Time) : m Unit := do
  k.act (Action.ofExcept ((Native.validate b k.source).mapError .generation))
  let className := Task.nativeClassOf k.item
  let destination ← k.directory .destination
  k.act (writePair (destination / Path.ofText (ClassName.headerFile className))
    (destination / Path.ofText (ClassName.implementationFile className)) sourceTime k.force
    (Native.renderHeader b className k.header k.item.nativeBaseClass)
    (Native.renderImplementation b className k.header k.item.nativeBaseClass))

/-- Generates what a locale of a bundle gives. -/
def emitLocale (sourceTime : Time) (locale : Locale) : m Unit := do
  if k.isManaged then k.emitLocaleClass locale sourceTime
  k.emitLocaleProperties locale

/-- Generates everything that a bundle gives, with the accessor class and the base properties file in
their directories. -/
def emitBundle (b : Bundle) (locales : List Locale) (sourceTime : Time)
    (destination resources : Path) : m Unit := do
  k.emitBase b sourceTime destination resources
  for locale in locales do
    k.emitLocale sourceTime locale
  if k.isNative then k.emitNative b sourceTime

/-- Processes a bundle. -/
def processBundle : m Unit := do
  let b ← k.act do Action.ofExcept (Bundle.ofFile (← get).tree k.source)
  let some own := b.locale
    | k.act (Action.ofExcept (.error (.generation ⟨.noBundleLocale, some k.source, none⟩)))
  let locales ← k.act (Action.ofExcept (Bundle.resolveLocales own k.locales k.source))
  let sourceTime ← k.act (Action.ask (·.timeOf k.source))
  let destination ← k.package .destination
  let resources ← k.package .resources
  k.emitBundle b locales sourceTime destination resources

/-- Processes the properties file of a locale, whose bundle must be readable. -/
def processProperties : m Unit := do
  let some locale := Locale.ofFileName k.item.name Task.propertiesSuffix
    | k.act (Action.ofExcept (.error (.generation ⟨.noLocaleInName, some k.source, none⟩)))
  let directory ← k.directory .source
  let bundleName :=
    Locale.stripFromFileName k.item.name Task.propertiesSuffix ++ Task.bundleSuffix
  let _ ← k.act do
    Action.ofExcept (Bundle.ofFile (← get).tree (directory / Path.ofText bundleName))
  if k.isManaged then
    k.emitLocaleClass locale (← k.act (Action.ask (·.timeOf k.source)))

/-- Processes an include by the suffix of its name. -/
def process : m Unit :=
  if k.item.name.endsWith Task.bundleSuffix then k.processBundle
  else if k.item.name.endsWith Task.propertiesSuffix then k.processProperties
  else k.act (Action.ofExcept (.error (.generation ⟨.unsupportedFile, some k.source, none⟩)))

end Job

/-- Logs and reports why an include could not be generated. -/
def reportFailure (item : Include) (message : Text) : Action (List IncludeFailure) := do
  Action.log .error ("Failed to generate " ++ item.name ++ ": " ++ message)
  return [⟨item.name, message⟩]

/-- Logs and reports what was done. -/
def conclude (failures : List IncludeFailure) : Action Report := do
  let state ← get
  Action.log .info
    ("Generated " ++ Text.ofNat state.written.length ++ " file(s), "
      ++ Text.ofNat state.skipped.length ++ " up to date, "
      ++ Text.ofNat failures.length ++ " failure(s)")
  return ⟨state.written, state.skipped, LogRecord.warnings state.context.log, failures⟩

namespace Conduct

variable {m : Type → Type} [Monad m] (d : Conduct m)

/-- The job of an include at a time, with the directory that holds its source. -/
def job (item : Include) (directory : Path) (now : Time) : Job m :=
  let source := directory / Path.ofText item.name
  { d with
    item, source
    className := Task.classNameOf item
    header := Task.headerOf source d.isStable now }

/-- Processes one include; a failure that concerns it alone is logged and reported. -/
def processInclude (item : Include) : m (List IncludeFailure) := do
  let directory ← d.directory .source
  let reading ← d.act Action.readClock
  d.attempt (do (d.job item directory reading.wall).process; return []) (reportFailure item)

/-- Processes the includes and reports what was done. -/
def run : m Report := do
  let failures ← d.includes.flatMapM d.processInclude
  d.act (conclude failures)

end Conduct

end Generation
end MessageCatalog
