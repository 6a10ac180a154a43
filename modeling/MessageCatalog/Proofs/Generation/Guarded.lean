import MessageCatalog.Proofs.Generation.Action
import MessageCatalog.Proofs.Settings.Validation
import MessageCatalog.Proofs.Shape.Signature
import Mathlib.Tactic.Simps.Basic

/-!
# Runs with guards

A run relies on its settings: three directories must be given, the style must be known, and shapes
must make a table. This module carries out settings as they are written, with a guard wherever one of
these is relied upon, and a guard that finds a fault ends the run. No run that begins with validation
does, since validated settings pass every guard: with them the guarded run is the run of the
configuration.

**Results.**
* `Guarded.carryOut`, `Guarded.run`: settings carried out as they are, and behind their validation.
* `Guarded.process_lifted`: with its directories given, an include is processed as without guards.
* `Guarded.carryOut_settings`: validated settings are carried out like their configuration.
* `Guarded.run_stops`, `Guarded.run_without_fault`: what a run of any settings can end with.
-/

namespace MessageCatalog
namespace Guarded

open Generation (Conduct IncludeFailure Job Report)

/-- A setting is not what a run relies on. -/
inductive Fault where
  | missing (key : Settings.PathKey)
  | unknownStyle (style : Text)
  | unknownShape (e : ShapeError)
deriving DecidableEq, Repr

/-- Why a run ends without a report. -/
inductive Stop where
  | refused (e : SettingsError)
  | fault (fault : Fault)
  | failed (failure : Failure)
deriving DecidableEq

/-- A step of a run with guards. -/
abbrev Step (α : Type) : Type :=
  ExceptT Stop (StateM RunState) α

/-- An action of a run without guards. -/
def unguarded {α : Type} (x : Action α) : Step α :=
  ExceptT.adapt .failed x

/-- The directory that settings must have for a key. -/
def require (s : Settings) (key : Settings.PathKey) : Step Path :=
  match s.pathOf key with
  | some path => return path
  | none => throw (.fault (.missing key))

/-- The table that the shapes must make. -/
def requireTable (s : Settings) : Step ShapeTable :=
  match ShapeTable.ofTokens s.shapes with
  | .ok table => return table
  | .error e => throw (.fault (.unknownShape e))

/-- The style that the settings must name, by its own name. -/
def requireStyle (s : Settings) : Step AccessorStyle :=
  match AccessorStyle.ofName? s.style with
  | some style => return style
  | none => throw (.fault (.unknownStyle s.style))

/-- A step, followed by a report of its message if it fails in a way that concerns an include alone.
A fault does not, and neither does every failure; these end the run. -/
def attempt {α : Type} (x : Step α) (report : Text → Action α) : Step α :=
  tryCatch x fun
    | .refused e => unguarded (report e.message)
    | .fault fault => throw (.fault fault)
    | .failed failure =>
        unguarded (if failure.isLocal then report failure.message else throw failure)

/-- The conduct of settings: a directory is required wherever it is used. -/
def conduct (s : Settings) (style : AccessorStyle) : Conduct Step where
  act := unguarded
  attempt := attempt
  directory := require s
  isManaged := s.isManaged
  isNative := s.isNative
  isStable := s.isStable
  locales := s.locales
  style := style
  force := s.force
  includes := s.includes

/-- The state in which the includes of a run find the file tree: with a context and an account of
their own. -/
def opened (table : ShapeTable) (state : RunState) : RunState :=
  { state with context := .start table, events := [] }

/-- Carries out settings as they are. -/
def carryOut (s : Settings) : Step Report := do
  let table ← requireTable s
  modify (opened table)
  let style ← requireStyle s
  (conduct s style).run

/-- Validates settings and carries out what is written back of them. -/
def run (s : Settings) : Step Report :=
  match s.validate with
  | .ok c => carryOut c.settings
  | .error e => throw (.refused e)

section Unguarded

variable {α β : Type}

theorem outcome_unguarded (x : Action α) (state : RunState) :
    outcome (unguarded x) state = ((outcome x state).1.mapError .failed, (outcome x state).2) :=
  rfl

/-- An action without guards stops with nothing but failures. -/
theorem unguarded_stops (x : Action α) {state : RunState} {stop : Stop}
    (h : (outcome (unguarded x) state).1 = .error stop) : ∃ failure, stop = .failed failure := by
  rw [outcome_unguarded] at h
  rcases hresult : (outcome x state).1 with failure | a
  · rw [hresult] at h
    cases h
    exact ⟨failure, rfl⟩
  · rw [hresult] at h
    cases h

@[simp] theorem unguarded_pure (a : α) : unguarded (pure a) = pure a :=
  rfl

@[simp] theorem unguarded_bind (x : Action α) (f : α → Action β) :
    unguarded (x >>= f) = unguarded x >>= fun a => unguarded (f a) := by
  funext state
  change outcome (unguarded (x >>= f)) state =
    outcome (unguarded x >>= fun a => unguarded (f a)) state
  rw [outcome_bind, outcome_unguarded, outcome_unguarded, outcome_bind]
  rcases outcome x state with ⟨failure | a, t⟩
  · rfl
  · rfl

@[simp] theorem unguarded_map (f : α → β) (x : Action α) :
    unguarded (f <$> x) = f <$> unguarded x := by
  rw [map_eq_pure_bind, map_eq_pure_bind, unguarded_bind]
  rfl

@[simp] theorem unguarded_ite (p : Prop) [Decidable p] (x y : Action α) :
    unguarded (if p then x else y) = if p then unguarded x else unguarded y :=
  apply_ite unguarded p x y

@[simp] theorem unguarded_forM (f : α → Action PUnit) (as : List α) :
    unguarded (forM as f) = forM as fun a => unguarded (f a) := by
  induction as with
  | nil => rfl
  | cons a as ih => rw [List.forM_cons, List.forM_cons, unguarded_bind, ih]

@[simp] theorem unguarded_flatMapM (f : α → Action (List β)) (as : List α) :
    unguarded (as.flatMapM f) = as.flatMapM fun a => unguarded (f a) := by
  induction as with
  | nil => rfl
  | cons a as ih =>
      rw [List.flatMapM_cons, List.flatMapM_cons, unguarded_bind]
      simp only [unguarded_bind, ih, unguarded_pure]

/-- A failure is answered alike, whether it is that of an action or of a step. -/
theorem attempt_unguarded (x : Action α) (report : Text → Action α) :
    attempt (unguarded x) report =
      unguarded (tryCatch x fun failure =>
        if failure.isLocal then report failure.message else throw failure) := by
  funext state
  change outcome (attempt (unguarded x) report) state = outcome (unguarded (tryCatch x _)) state
  rw [attempt, outcome_tryCatch, outcome_unguarded, outcome_unguarded, outcome_tryCatch]
  rcases outcome x state with ⟨failure | a, t⟩
  · rfl
  · rfl

end Unguarded

section Lifted

/-- The same conduct, with its actions as steps. -/
@[simps]
def lifted (d : Conduct Action) : Conduct Step :=
  { d with
    act := fun x => unguarded (d.act x)
    attempt := attempt
    directory := fun key => unguarded (d.directory key) }

/-- The same job, with its actions as steps. -/
@[simps toConduct item source className header]
def liftedJob (k : Job Action) : Job Step :=
  { k with toConduct := lifted k.toConduct }

variable (k : Job Action)

@[simp] theorem package_lifted (key : Settings.PathKey) :
    (liftedJob k).package key = unguarded (k.package key) := by
  simp [Job.package]

@[simp] theorem emit_lifted (output : Path) (sourceTime : Time) (rendering : Rendering Text) :
    (liftedJob k).emit output sourceTime rendering = unguarded (k.emit output sourceTime rendering) :=
  rfl

@[simp] theorem emitBase_lifted (b : Bundle) (sourceTime : Time) (destination resources : Path) :
    (liftedJob k).emitBase b sourceTime destination resources =
      unguarded (k.emitBase b sourceTime destination resources) := by
  simp [Job.emitBase]

@[simp] theorem emitLocaleClass_lifted (locale : Locale) (sourceTime : Time) :
    (liftedJob k).emitLocaleClass locale sourceTime =
      unguarded (k.emitLocaleClass locale sourceTime) := by
  simp [Job.emitLocaleClass]

@[simp] theorem emitLocaleProperties_lifted (locale : Locale) :
    (liftedJob k).emitLocaleProperties locale = unguarded (k.emitLocaleProperties locale) := by
  simp [Job.emitLocaleProperties]

@[simp] theorem emitNative_lifted (b : Bundle) (sourceTime : Time) :
    (liftedJob k).emitNative b sourceTime = unguarded (k.emitNative b sourceTime) := by
  simp [Job.emitNative]

@[simp] theorem emitLocale_lifted (sourceTime : Time) :
    (liftedJob k).emitLocale sourceTime = fun locale =>
      unguarded (k.emitLocale sourceTime locale) := by
  funext locale
  simp [Job.emitLocale]

@[simp] theorem emitBundle_lifted (b : Bundle) (locales : List Locale) (sourceTime : Time)
    (destination resources : Path) :
    (liftedJob k).emitBundle b locales sourceTime destination resources =
      unguarded (k.emitBundle b locales sourceTime destination resources) := by
  rw [Job.emitBundle, Job.emitBundle, forIn_eq_forM, forIn_eq_forM]
  simp

@[simp] theorem processBundle_lifted :
    (liftedJob k).processBundle = unguarded k.processBundle := by
  simp only [Job.processBundle, unguarded_bind]
  refine bind_congr fun b => ?_
  cases b.locale with
  | none => rfl
  | some own => simp

@[simp] theorem processProperties_lifted :
    (liftedJob k).processProperties = unguarded k.processProperties := by
  rw [Job.processProperties, Job.processProperties, liftedJob_item]
  cases Locale.ofFileName k.item.name Generation.Task.propertiesSuffix with
  | none => rfl
  | some locale => simp

theorem process_lifted : (liftedJob k).process = unguarded k.process := by
  simp [Job.process]

/-- An include is processed alike, if a failure of it is answered alike. -/
theorem processInclude_lifted {d : Conduct Action}
    (hattempt : ∀ (x : Action (List IncludeFailure)) report,
      attempt (unguarded x) report = unguarded (d.attempt x report)) (item : Include) :
    (lifted d).processInclude item = unguarded (d.processInclude item) := by
  have hjob (directory : Path) (now : Time) :
      (lifted d).job item directory now = liftedJob (d.job item directory now) := rfl
  simp [Conduct.processInclude, hjob, process_lifted, ← hattempt]

theorem run_lifted {d : Conduct Action}
    (hattempt : ∀ (x : Action (List IncludeFailure)) report,
      attempt (unguarded x) report = unguarded (d.attempt x report)) :
    (lifted d).run = unguarded d.run := by
  have hinclude : (lifted d).processInclude = fun item => unguarded (d.processInclude item) :=
    funext (processInclude_lifted hattempt)
  simp [Conduct.run, hinclude]

end Lifted

variable {s : Settings} {c : Configuration}

/-- Validated settings have the directories of their configuration. -/
theorem require_settings (c : Configuration) (key : Settings.PathKey) :
    require c.settings key = pure (c.pathOf key) := by
  cases key <;> rfl

theorem requireStyle_settings (c : Configuration) : requireStyle c.settings = pure c.style := by
  have hname : AccessorStyle.ofName? c.settings.style = some c.style := c.style.ofName?_name
  rw [requireStyle, hname]

theorem requireTable_settings (h : Settings.tableOf c.shapes = .ok c.table) :
    requireTable c.settings = pure c.table := by
  have htable : ShapeTable.ofTokens c.settings.shapes = .ok c.table := Settings.ofTokens_of_tableOf h
  rw [requireTable, htable]

/-- What is written back of a configuration is carried out in the conduct of the configuration. -/
theorem conduct_settings (c : Configuration) :
    conduct c.settings c.style = lifted (Generation.conduct c) := by
  simp only [conduct, lifted, Generation.conduct, c.settings_isManaged, c.settings_isNative,
    c.settings_isStable, funext (require_settings c), unguarded_pure]
  rfl

/-- Validated settings are carried out like their configuration, with a context of its own. -/
theorem carryOut_settings (h : s.StandsFor c) :
    carryOut c.settings = (modify (opened c.table) >>= fun _ => unguarded (Generation.run c)) := by
  have hrun : (conduct c.settings c.style).run = unguarded (Generation.run c) := by
    rw [conduct_settings]
    exact run_lifted fun x report => attempt_unguarded x report
  rw [carryOut, requireTable_settings h.table, requireStyle_settings, pure_bind, pure_bind, hrun]

theorem run_of_ok (h : s.validate = .ok c) : run s = carryOut c.settings := by
  rw [run, h]

/-- Settings that are refused leave everything as it was. -/
theorem outcome_run_of_error {e : SettingsError} (h : s.validate = .error e) (before : RunState) :
    outcome (run s) before = (.error (.refused e), before) := by
  rw [run, h]
  rfl

/-- Settings that are accepted are run like the configuration that they stand for. -/
theorem outcome_run_of_ok (h : s.validate = .ok c) (before : RunState) :
    outcome (run s) before = outcome (unguarded (Generation.run c)) (opened c.table before) := by
  rw [run_of_ok h, carryOut_settings (Settings.standsFor_of_validate h),
    outcome_bind_of_ok (outcome_modify _ _)]

/-- A run ends without a report because its settings are refused or because something failed. -/
theorem run_stops {before : RunState} {stop : Stop} (h : (outcome (run s) before).1 = .error stop) :
    (∃ e, stop = .refused e ∧ s.validate = .error e) ∨ ∃ failure, stop = .failed failure := by
  cases hvalidate : s.validate with
  | error e =>
      rw [outcome_run_of_error hvalidate] at h
      cases h
      exact .inl ⟨e, rfl, rfl⟩
  | ok c =>
      rw [outcome_run_of_ok hvalidate] at h
      exact .inr (unguarded_stops _ h)

/-- Run behind their validation, settings have no fault that a guard could find. If they are refused,
nothing has been done, and otherwise the configuration that they stand for is run; what is written
back of it is validated to the same configuration and run alike. The forms that hints name make a
shape whatever the hints are. -/
theorem run_without_fault (s : Settings) (before : RunState) :
    (∀ fault, (outcome (run s) before).1 ≠ .error (.fault fault)) ∧
      (∀ e, (outcome (run s) before).1 = .error (.refused e) → s.validate = .error e) ∧
      (∀ e, s.validate = .error e → outcome (run s) before = (.error (.refused e), before)) ∧
      (∀ c, s.validate = .ok c → c.settings.validate = .ok c ∧ run c.settings = run s ∧
        outcome (run s) before = outcome (unguarded (Generation.run c)) (opened c.table before)) ∧
      ∀ signatures : List Text,
        ConstructorShape.ofTokens
            ((signatures.filterMap ConstructorForm.ofSignature?).map ConstructorForm.token) =
          .ok (.ofHints signatures) := by
  refine ⟨fun fault hfault => ?_, fun e he => ?_, fun e he => outcome_run_of_error he before,
    fun c hc => ?_, fun signatures => ConstructorShape.ofTokens_map_token _⟩
  · obtain ⟨e, hstop, -⟩ | ⟨failure, hstop⟩ := run_stops hfault
    · cases hstop
    · cases hstop
  · obtain ⟨e', hstop, hvalidate⟩ | ⟨failure, hstop⟩ := run_stops he
    · cases hstop
      exact hvalidate
    · cases hstop
  · have hself : c.settings.validate = .ok c :=
      (Configuration.settings_standsFor (Settings.standsFor_of_validate hc)).validate_eq
    exact ⟨hself, (run_of_ok hself).trans (run_of_ok hc).symm, outcome_run_of_ok hc before⟩

/-- Settings that use other names and leave directories out. -/
def aliasSettings : Settings :=
  { Settings.initial with
    source := some (Path.ofText "s")
    mode := " C++ "
    style := "Dynamic"
    commentStyle := "SCM-Safe"
    includes := [.ofName "m.txt"]
    shapes := [("a.B", [" Message+Cause "])] }

/-- The configuration that they stand for. -/
def aliasConfiguration : Configuration where
  source := Path.ofText "s"
  destination := Path.ofText "s"
  resources := Path.ofText "s"
  mode := .native
  locales := none
  style := .direct
  force := false
  commentStyle := .stable
  includes := [.ofName "m.txt"]
  shapes := [("a.B", [" Message+Cause "])]
  table := ⟨("a.B", .ofForms [.messageCause]) :: ShapeTable.known⟩

/-- A state before any run. -/
def idle : RunState :=
  Generation.start (Generation.sampleTree []) ⟨[]⟩ fun _ => ⟨0, 0⟩

/-- Settings with other names are run and need to be validated once only, and settings without a
directory are refused before anything is done. -/
theorem aliasSettings_run :
    aliasSettings.validate = .ok aliasConfiguration ∧
      aliasConfiguration.settings.validate = .ok aliasConfiguration ∧
      run aliasConfiguration.settings = run aliasSettings ∧
      (∀ fault, (outcome (run aliasSettings) idle).1 ≠ .error (.fault fault)) ∧
      (outcome (run aliasSettings) idle).1.toOption.map (·.failures.map (·.name)) =
        some ["m.txt".toList] ∧
      outcome (run .initial) idle = (.error (.refused .noSource), idle) ∧
      Settings.validate .initial = .error .noSource := by
  have halias : aliasSettings.validate = .ok aliasConfiguration := by decide
  have hinitial : Settings.validate .initial = .error .noSource := by decide
  obtain ⟨hfault, -, -, haccepted, -⟩ := run_without_fault aliasSettings idle
  obtain ⟨-, hstops, hrefused, -, -⟩ := run_without_fault .initial idle
  obtain ⟨hself, hsame, -⟩ := haccepted _ halias
  have hnothing := hrefused _ hinitial
  exact ⟨halias, hself, hsame, hfault, rfl, hnothing, hstops _ (congrArg Prod.fst hnothing)⟩

/-- Carried out without their validation, settings without a directory have a fault. -/
example :
    (outcome (carryOut { Settings.initial with includes := [.ofName "m.txt"] }) idle).1 =
      .error (.fault (.missing .source)) := rfl

end Guarded
end MessageCatalog
