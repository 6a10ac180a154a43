import MessageCatalog.Generation.Conduct

/-!
# Runs

The run of a configuration has its directories, and its steps are actions. What it does for an
include, and for each part of it, is said here for the task of the include.
-/

namespace MessageCatalog
namespace Generation

/-- The conduct of the run of a configuration. -/
def conduct (c : Configuration) : Conduct Action where
  act x := x
  attempt x report := tryCatch x fun failure =>
    if failure.isLocal then report failure.message else throw failure
  directory key := pure (c.pathOf key)
  isManaged := c.mode.isManaged
  isNative := c.mode.isNative
  isStable := c.commentStyle = .stable
  locales := c.locales
  style := c.style
  force := c.force
  includes := c.includes

/-- The job of a task. -/
def Task.job (k : Task) : Job Action :=
  { conduct k.configuration with
    item := k.item
    source := k.source
    className := k.className
    header := k.header }

section Tasks

variable (k : Task)

/-- Writes an output if it is older than the source. -/
def emit (output : Path) (sourceTime : Time) (rendering : Rendering Text) : Action Unit :=
  k.job.emit output sourceTime rendering

theorem emit_eq (output : Path) (sourceTime : Time) (rendering : Rendering Text) :
    emit k output sourceTime rendering =
      writeRendered output sourceTime k.configuration.force rendering :=
  rfl

/-- Generates the accessor class and the base properties file of a bundle. -/
def emitBase (b : Bundle) (sourceTime : Time) : Action Unit :=
  k.job.emitBase b sourceTime (ClassName.directory k.configuration.destination k.className)
    (ClassName.directory k.configuration.resources k.className)

theorem emitBase_eq (b : Bundle) (sourceTime : Time) :
    emitBase k b sourceTime = (do
      if k.configuration.mode.isManaged then
        emit k (k.classFile none) sourceTime
          (Managed.render k.configuration.style b k.className k.header (some k.item.baseClass))
      emit k (k.propertiesFile none) sourceTime (Properties.render b k.className k.header)) :=
  rfl

/-- Generates the subclass of a locale. -/
def emitLocaleClass (locale : Locale) (sourceTime : Time) : Action Unit :=
  k.job.emitLocaleClass locale sourceTime

theorem emitLocaleClass_eq (locale : Locale) (sourceTime : Time) :
    emitLocaleClass k locale sourceTime =
      emit k (k.classFile (some locale)) sourceTime
        (return Managed.localeClassText k.className locale k.header) :=
  rfl

/-- Generates the properties file of a locale. -/
def emitLocaleProperties (locale : Locale) : Action Unit :=
  k.job.emitLocaleProperties locale

theorem emitLocaleProperties_eq (locale : Locale) :
    emitLocaleProperties k locale =
      writeLocaleFile (k.propertiesFile (some locale)) (k.byHandFile locale) k.configuration.force
        (Properties.stubText k.className locale k.header) :=
  rfl

/-- Generates header and implementation of the native class, both or neither. -/
def emitNative (b : Bundle) (sourceTime : Time) : Action Unit :=
  k.job.emitNative b sourceTime

theorem emitNative_eq (b : Bundle) (sourceTime : Time) :
    emitNative k b sourceTime = (do
      Action.ofExcept ((Native.validate b k.source).mapError .generation)
      writePair k.nativeHeader k.nativeImplementation sourceTime k.configuration.force
        (Native.renderHeader b k.nativeClass k.header k.item.nativeBaseClass)
        (Native.renderImplementation b k.nativeClass k.header k.item.nativeBaseClass)) :=
  rfl

/-- Generates what a locale of a bundle gives. -/
def emitLocale (sourceTime : Time) (locale : Locale) : Action Unit :=
  k.job.emitLocale sourceTime locale

theorem emitLocale_eq (sourceTime : Time) (locale : Locale) :
    emitLocale k sourceTime locale = (do
      if k.configuration.mode.isManaged then emitLocaleClass k locale sourceTime
      emitLocaleProperties k locale) :=
  rfl

/-- Generates everything that a bundle gives. -/
def emitBundle (b : Bundle) (locales : List Locale) (sourceTime : Time) : Action Unit :=
  k.job.emitBundle b locales sourceTime
    (ClassName.directory k.configuration.destination k.className)
    (ClassName.directory k.configuration.resources k.className)

theorem emitBundle_eq (b : Bundle) (locales : List Locale) (sourceTime : Time) :
    emitBundle k b locales sourceTime = (do
      emitBase k b sourceTime
      for locale in locales do
        emitLocale k sourceTime locale
      if k.configuration.mode.isNative then emitNative k b sourceTime) :=
  rfl

/-- Processes a bundle. -/
def processBundle : Action Unit :=
  k.job.processBundle

theorem processBundle_eq :
    processBundle k = (do
      let b ← Action.ofExcept (Bundle.ofFile (← get).tree k.source)
      let some own := b.locale
        | Action.ofExcept (.error (.generation ⟨.noBundleLocale, some k.source, none⟩))
      let locales ← Action.ofExcept (Bundle.resolveLocales own k.configuration.locales k.source)
      emitBundle k b locales (← Action.ask (·.timeOf k.source))) := by
  rw [processBundle, Job.processBundle, ← bind_assoc]
  refine bind_congr fun b => ?_
  cases b.locale with
  | none => rfl
  | some own => rfl

/-- Processes the properties file of a locale, whose bundle must be readable. -/
def processProperties : Action Unit :=
  k.job.processProperties

theorem processProperties_eq :
    processProperties k = (do
      let some locale := Locale.ofFileName k.item.name Task.propertiesSuffix
        | Action.ofExcept (.error (.generation ⟨.noLocaleInName, some k.source, none⟩))
      let bundleName :=
        Locale.stripFromFileName k.item.name Task.propertiesSuffix ++ Task.bundleSuffix
      let _ ←
        Action.ofExcept
          (Bundle.ofFile (← get).tree (k.configuration.source / Path.ofText bundleName))
      if k.configuration.mode.isManaged then
        emitLocaleClass k locale (← Action.ask (·.timeOf k.source))) := by
  have hitem : k.job.item = k.item := rfl
  rw [processProperties, Job.processProperties, hitem]
  cases Locale.ofFileName k.item.name Task.propertiesSuffix with
  | none => rfl
  | some locale => exact (pure_bind _ _).trans (bind_assoc _ _ _)

/-- Processes an include by the suffix of its name. -/
def process : Action Unit :=
  k.job.process

theorem process_eq :
    process k =
      if k.item.name.endsWith Task.bundleSuffix then processBundle k
      else if k.item.name.endsWith Task.propertiesSuffix then processProperties k
      else Action.ofExcept (.error (.generation ⟨.unsupportedFile, some k.source, none⟩)) :=
  rfl

end Tasks

/-- Processes one include; a failure that concerns it alone is logged and reported. -/
def processInclude (c : Configuration) (item : Include) : Action (List IncludeFailure) :=
  (conduct c).processInclude item

theorem processInclude_eq (c : Configuration) (item : Include) :
    processInclude c item = (do
      let reading ← Action.readClock
      tryCatch (do process (.of c item reading.wall); return []) fun failure =>
        if failure.isLocal then reportFailure item failure.message else throw failure) :=
  rfl

/-- Processes the includes of a configuration and reports what was done. -/
def run (c : Configuration) : Action Report :=
  (conduct c).run

theorem run_eq (c : Configuration) :
    run c = c.includes.flatMapM (processInclude c) >>= conclude :=
  rfl

/-- The state at the start of a run. -/
def start (tree : FileTree) (table : ShapeTable) (clock : Clock) : RunState :=
  ⟨tree, .start table, clock, 0, []⟩

end Generation
end MessageCatalog
