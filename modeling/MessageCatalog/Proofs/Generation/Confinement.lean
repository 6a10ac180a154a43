import MessageCatalog.Proofs.FileTree.Refusal
import MessageCatalog.Proofs.FileTree.Sibling
import MessageCatalog.Proofs.Generation.Plan

/-!
# What a run can write

Whatever becomes of an include, the tree grows by writes to its own outputs only, the account names
no other path as written, and the clock has been read for every write that was completed. The
outputs of an include are last names in a few directories: the files of a package stand next to each
other below each of the three roots, and so do header and implementation of a native class.

**Results.**
* `RunState.OnlyWrites`: what holds between the states before and after such actions.
* `Action.outcome_write_cases`: what becomes of a single write.
* `processInclude_onlyWrites`: an include, failing or not, writes its own outputs only.
* `Task.classFile_eq`, `Task.propertiesFile_eq`, `Task.nativeHeader_eq`: the outputs by directory
  and last name.
-/

namespace MessageCatalog

open FileTree

namespace RunState

theorem length_written {s s' : RunState} {new : List RunEvent} (h : s'.events = s.events ++ new) :
    s'.written.length = s.written.length + (new.filterMap RunEvent.written?).length := by
  unfold written
  rw [h, List.filterMap_append, List.length_append]

/-- The state `s'` comes from `s` by writes to paths of the given kind. -/
structure OnlyWrites (Q : Path → Prop) (s s' : RunState) : Prop where
  grows : Grows (fun p _ => Q p) s.tree s'.tree
  events : ∃ new, s'.events = s.events ++ new ∧ ∀ p time, .written p time ∈ new → Q p
  /-- At least as many writes have been begun as have been completed. -/
  ticks : s.ticks + s'.written.length ≤ s'.ticks + s.written.length

namespace OnlyWrites

variable {Q : Path → Prop} {s t u : RunState}

theorem of_eq (htree : t.tree = s.tree) (hevents : t.events = s.events)
    (hticks : t.ticks = s.ticks) : OnlyWrites Q s t where
  grows := by
    rw [htree]
    exact .refl _ _
  events := ⟨[], by rw [hevents, List.append_nil], fun _ _ h => by cases h⟩
  ticks := by
    refine Nat.le_of_eq ?_
    unfold written
    rw [hevents, hticks]

theorem refl (s : RunState) : OnlyWrites Q s s :=
  of_eq rfl rfl rfl

theorem trans (h : OnlyWrites Q s t) (h' : OnlyWrites Q t u) : OnlyWrites Q s u where
  grows := h.grows.trans h'.grows
  events := by
    obtain ⟨new, hnew, hwritten⟩ := h.events
    obtain ⟨new', hnew', hwritten'⟩ := h'.events
    refine ⟨new ++ new', by rw [hnew', hnew, List.append_assoc], fun p time hp => ?_⟩
    rcases List.mem_append.mp hp with hp | hp
    · exact hwritten p time hp
    · exact hwritten' p time hp
  ticks := by
    have hst := h.ticks
    have htu := h'.ticks
    omega

theorem mono {Q' : Path → Prop} (h : OnlyWrites Q s t) (hQ : ∀ p, Q p → Q' p) :
    OnlyWrites Q' s t where
  grows := h.grows.mono fun p _ => hQ p
  events := by
    obtain ⟨new, hnew, hwritten⟩ := h.events
    exact ⟨new, hnew, fun p time hp => hQ p (hwritten p time hp)⟩
  ticks := h.ticks

end OnlyWrites

/-- An output has been written with the given contents. -/
structure Completes (output : Path) (content : Bytes) (time : Time) (s t : RunState) : Prop where
  events : t.events = s.events ++ [.written output time]
  grows : Grows (only output time) s.tree t.tree
  file : t.tree.lookup output = .ok (.file content time true)
  ticks : t.ticks = s.ticks + 1

/-- A write of an output has been begun, but all files are as they were. -/
structure BreaksOff (output : Path) (s t : RunState) : Prop where
  events : t.events = s.events
  grows : ∃ time, Grows (only output time) s.tree t.tree
  files : KeepsFiles s.tree t.tree
  ticks : t.ticks = s.ticks + 1

theorem Completes.length_written {output : Path} {content : Bytes} {time : Time} {s t : RunState}
    (h : Completes output content time s t) : t.written.length = s.written.length + 1 := by
  rw [RunState.length_written h.events]
  rfl

theorem BreaksOff.written {output : Path} {s t : RunState} (h : BreaksOff output s t) :
    t.written = s.written := by
  unfold RunState.written
  rw [h.events]

end RunState

open RunState

namespace Action

variable {Q : Path → Prop} {α β : Type}

theorem bind_onlyWrites {x : Action α} {f : α → Action β} (hx : Leads (OnlyWrites Q) x)
    (hf : ∀ a, Leads (OnlyWrites Q) (f a)) : Leads (OnlyWrites Q) (x >>= f) :=
  Leads.bind (OnlyWrites Q) OnlyWrites.trans hx hf

theorem pure_onlyWrites (a : α) : Leads (OnlyWrites Q) (pure a : Action α) :=
  .pure .refl a

theorem forM_onlyWrites {f : α → Action Unit} {as : List α}
    (hf : ∀ a ∈ as, Leads (OnlyWrites Q) (f a)) : Leads (OnlyWrites Q) (ForM.forM as f) :=
  Leads.forM (R := OnlyWrites Q) .refl OnlyWrites.trans hf

theorem ofExcept_onlyWrites (e : Except Failure α) : Leads (OnlyWrites Q) (ofExcept e) :=
  fun s => .refl s

theorem ask_onlyWrites (question : FileTree → Except FileError α) :
    Leads (OnlyWrites Q) (ask question) :=
  fun s => .refl s

theorem render_onlyWrites (rendering : Rendering Text) : Leads (OnlyWrites Q) (render rendering) :=
  fun _ => .of_eq rfl rfl rfl

theorem skip_onlyWrites (output : Path) (reason : Text) :
    Leads (OnlyWrites Q) (skip output reason) := by
  intro s
  rw [outcome_skip]
  refine ⟨.refl _ _, ⟨_, rfl, fun p time hp => ?_⟩, ?_⟩
  · cases List.mem_singleton.mp hp
  · rw [length_written (s := s) rfl]
    exact Nat.le_refl _

/-- A write is completed, or it fails and is broken off; without a null character in the path the
failure is a report of the system. -/
theorem outcome_write_cases (output : Path) (content : Bytes) (s : RunState) :
    (∃ time t, outcome (write output content) s = (.ok ⟨⟩, t) ∧
      Completes output content time s t) ∨
    ∃ e t, outcome (write output content) s = (.error (.file e), t) ∧
      (¬ output.HasNull → e.isSystem = true) ∧ BreaksOff output s t := by
  have hgrows := FileAction.writeFile_grows output content (s.clock s.ticks).disk s.tree
  rw [outcome_write]
  rcases hfile : outcome (FileAction.writeFile output content (s.clock s.ticks).disk) s.tree with
    ⟨e | ⟨⟩, tree⟩
  · rw [hfile] at hgrows
    exact .inr ⟨e, _, rfl, fun hnull => FileAction.writeFile_isSystem hnull content _ _ _ hfile,
      rfl, ⟨_, hgrows⟩, FileAction.writeFile_eq_error hfile, rfl⟩
  · rw [hfile] at hgrows
    exact .inl ⟨_, _, rfl, rfl, hgrows, (FileAction.writeFile_eq_ok hfile).2, rfl⟩

theorem write_onlyWrites {output : Path} (hQ : Q output) (content : Bytes) :
    Leads (OnlyWrites Q) (write output content) := by
  intro s
  rcases outcome_write_cases output content s with
    ⟨time, t, hwrite, hcompletes⟩ | ⟨e, t, hwrite, -, hbreaks⟩
  · rw [hwrite]
    refine ⟨hcompletes.grows.mono ?_, ⟨_, hcompletes.events, fun p time hp => ?_⟩, ?_⟩
    · rintro p time ⟨rfl, -⟩
      exact hQ
    · cases List.mem_singleton.mp hp
      exact hQ
    · rw [hcompletes.length_written, hcompletes.ticks]
      omega
  · obtain ⟨time, hgrows⟩ := hbreaks.grows
    rw [hwrite]
    refine ⟨hgrows.mono ?_, ⟨[], ?_, fun _ _ hp => by cases hp⟩, ?_⟩
    · rintro p time ⟨rfl, -⟩
      exact hQ
    · rw [hbreaks.events, List.append_nil]
    · rw [hbreaks.written, hbreaks.ticks]
      omega

end Action

namespace Generation

open MessageCatalog.Action

variable {Q : Path → Prop} {k : Task} {b : Bundle} {sourceTime : Time}

theorem writeIfStale_onlyWrites {output : Path} (hQ : Q output) (decision : Decision)
    {content : Action Bytes} (hcontent : Leads (OnlyWrites Q) content) :
    Leads (OnlyWrites Q) (writeIfStale output decision content) := by
  unfold writeIfStale
  by_cases hcurrent : decision.isCurrent = true
  · rw [if_pos hcurrent]
    exact skip_onlyWrites _ _
  · rw [if_neg hcurrent]
    refine bind_onlyWrites (ask_onlyWrites _) fun readOnly => ?_
    cases readOnly with
    | true => exact skip_onlyWrites _ _
    | false => exact bind_onlyWrites hcontent fun bytes => write_onlyWrites hQ bytes

theorem emit_onlyWrites {output : Path} (hQ : Q output) (rendering : Rendering Text) :
    Leads (OnlyWrites Q) (emit k output sourceTime rendering) := by
  rw [emit_eq, writeRendered]
  exact bind_onlyWrites (ask_onlyWrites _) fun decision => writeIfStale_onlyWrites hQ decision
    (bind_onlyWrites (render_onlyWrites _) fun _ => pure_onlyWrites _)

theorem emitBase_onlyWrites (hclass : Q (k.classFile none))
    (hproperties : Q (k.propertiesFile none)) :
    Leads (OnlyWrites Q) (emitBase k b sourceTime) := by
  rw [emitBase_eq]
  by_cases hmanaged : k.configuration.mode.isManaged = true
  · rw [if_pos hmanaged]
    exact bind_onlyWrites (emit_onlyWrites hclass _) fun _ => emit_onlyWrites hproperties _
  · rw [if_neg hmanaged]
    exact emit_onlyWrites hproperties _

theorem emitLocaleClass_onlyWrites {locale : Locale} (hclass : Q (k.classFile (some locale))) :
    Leads (OnlyWrites Q) (emitLocaleClass k locale sourceTime) := by
  rw [emitLocaleClass_eq]
  exact emit_onlyWrites hclass _

theorem emitLocaleProperties_onlyWrites {locale : Locale}
    (hproperties : Q (k.propertiesFile (some locale))) :
    Leads (OnlyWrites Q) (emitLocaleProperties k locale) := by
  rw [emitLocaleProperties_eq, writeLocaleFile]
  refine bind_onlyWrites (ask_onlyWrites _) fun time => bind_onlyWrites (ask_onlyWrites _)
    fun decision => writeIfStale_onlyWrites hproperties decision
      (bind_onlyWrites (ask_onlyWrites _) fun there => ?_)
  by_cases hthere : there = true
  · rw [if_pos hthere]
    exact ask_onlyWrites _
  · rw [if_neg hthere]
    exact pure_onlyWrites _

theorem emitLocale_onlyWrites {locale : Locale} (hclass : Q (k.classFile (some locale)))
    (hproperties : Q (k.propertiesFile (some locale))) :
    Leads (OnlyWrites Q) (emitLocale k sourceTime locale) := by
  rw [emitLocale_eq]
  by_cases hmanaged : k.configuration.mode.isManaged = true
  · rw [if_pos hmanaged]
    exact bind_onlyWrites (emitLocaleClass_onlyWrites hclass)
      fun _ => emitLocaleProperties_onlyWrites hproperties
  · rw [if_neg hmanaged]
    exact emitLocaleProperties_onlyWrites hproperties

theorem emitNative_onlyWrites (hheader : Q k.nativeHeader)
    (himplementation : Q k.nativeImplementation) :
    Leads (OnlyWrites Q) (emitNative k b sourceTime) := by
  rw [emitNative_eq, writePair]
  refine bind_onlyWrites (ofExcept_onlyWrites _) fun _ =>
    bind_onlyWrites (ask_onlyWrites _) fun decision => ?_
  by_cases hcurrent : decision.isCurrent = true
  · rw [if_pos hcurrent, forIn_eq_forM]
    exact bind_onlyWrites (forM_onlyWrites fun output _ => skip_onlyWrites output _)
      fun _ => pure_onlyWrites _
  · rw [if_neg hcurrent]
    exact bind_onlyWrites (render_onlyWrites _) fun header =>
      bind_onlyWrites (render_onlyWrites _) fun implementation =>
        bind_onlyWrites (write_onlyWrites hheader _) fun _ => write_onlyWrites himplementation _

/-- The paths that processing an include can write. -/
structure Task.Confines (k : Task) (Q : Path → Prop) : Prop where
  classFile : ∀ locale, Q (k.classFile locale)
  propertiesFile : ∀ locale, Q (k.propertiesFile locale)
  nativeHeader : Q k.nativeHeader
  nativeImplementation : Q k.nativeImplementation

/-- A bundle writes the files of the class, those of its locales and those of the native class. -/
theorem emitBundle_onlyWrites_of {locales : List Locale}
    (hbase : Q (k.classFile none) ∧ Q (k.propertiesFile none))
    (hlocales : ∀ locale ∈ locales,
      Q (k.classFile (some locale)) ∧ Q (k.propertiesFile (some locale)))
    (hnative : Q k.nativeHeader ∧ Q k.nativeImplementation) :
    Leads (OnlyWrites Q) (emitBundle k b locales sourceTime) := by
  rw [emitBundle_eq]
  rw [forIn_eq_forM]
  refine bind_onlyWrites (emitBase_onlyWrites hbase.1 hbase.2) fun _ =>
    bind_onlyWrites (forM_onlyWrites fun locale hlocale =>
      emitLocale_onlyWrites (hlocales locale hlocale).1 (hlocales locale hlocale).2) fun _ => ?_
  by_cases hmode : k.configuration.mode.isNative = true
  · rw [if_pos hmode]
    exact emitNative_onlyWrites hnative.1 hnative.2
  · rw [if_neg hmode]
    exact pure_onlyWrites _

theorem emitBundle_onlyWrites (h : k.Confines Q) (locales : List Locale) :
    Leads (OnlyWrites Q) (emitBundle k b locales sourceTime) :=
  emitBundle_onlyWrites_of ⟨h.classFile _, h.propertiesFile _⟩
    (fun _ _ => ⟨h.classFile _, h.propertiesFile _⟩) ⟨h.nativeHeader, h.nativeImplementation⟩

section Includes

/-- What processing an include comes to: it stops before anything is generated, or it goes on to
what its bundle or its properties file gives. -/
inductive Task.Proceeds (k : Task) (s : RunState) : Except Failure Unit × RunState → Prop
  | refused (failure : Failure) : Proceeds k s (.error failure, s)
  | idle : Proceeds k s (.ok ⟨⟩, s)
  | bundle {b : Bundle} {locales : List Locale} (suffix : k.item.name.endsWith bundleSuffix = true)
      (reads : k.Reads s.tree b locales) (time : Time) :
      Proceeds k s (outcome (emitBundle k b locales time) s)
  | properties (locale : Locale) (time : Time)
      (named : Locale.ofFileName k.item.name propertiesSuffix = some locale) :
      Proceeds k s (outcome (emitLocaleClass k locale time) s)

/-- Bundle, locales and time of the source are found out first, and then all outputs are gone
through. -/
theorem processBundle_cases (k : Task) (s : RunState) :
    (∃ failure, outcome (processBundle k) s = (.error failure, s) ∧
      ¬ ∃ b locales time, k.Reads s.tree b locales ∧ s.tree.timeOf k.source = .ok time) ∨
    ∃ b locales time, k.Reads s.tree b locales ∧ s.tree.timeOf k.source = .ok time ∧
      outcome (processBundle k) s = outcome (emitBundle k b locales time) s := by
  rw [processBundle_eq]
  rw [outcome_bind_of_ok (outcome_get s), outcome_bind, outcome_ofExcept]
  cases hbundle : Bundle.ofFile s.tree k.source with
  | error failure =>
      refine .inl ⟨failure, rfl, ?_⟩
      rintro ⟨b, locales, time, ⟨hread, -⟩, -⟩
      cases hbundle.symm.trans hread
  | ok b =>
      dsimp only
      cases hown : b.locale with
      | none =>
          refine .inl ⟨_, rfl, ?_⟩
          rintro ⟨b', locales, time, ⟨hread, own, hlocale, -⟩, -⟩
          cases hbundle.symm.trans hread
          cases hown.symm.trans hlocale
      | some own =>
          dsimp only
          rw [outcome_bind, outcome_ofExcept]
          cases hlocales : Bundle.resolveLocales own k.configuration.locales k.source with
          | error failure =>
              refine .inl ⟨failure, rfl, ?_⟩
              rintro ⟨b', locales, time, ⟨hread, own', hlocale, hresolved⟩, -⟩
              cases hbundle.symm.trans hread
              cases hown.symm.trans hlocale
              cases hlocales.symm.trans hresolved
          | ok locales =>
              dsimp only
              rw [outcome_bind, outcome_ask]
              cases hdated : s.tree.timeOf k.source with
              | error e =>
                  refine .inl ⟨_, rfl, ?_⟩
                  rintro ⟨b', locales', time, -, htime⟩
                  cases htime
              | ok time => exact .inr ⟨b, locales, time, ⟨hbundle, own, hown, hlocales⟩, rfl, rfl⟩

theorem processBundle_proceeds (hsuffix : k.item.name.endsWith Task.bundleSuffix = true)
    (s : RunState) : k.Proceeds s (outcome (processBundle k) s) := by
  rcases processBundle_cases k s with
    ⟨failure, hrefused, -⟩ | ⟨b, locales, time, hreads, -, hgoes⟩
  · rw [hrefused]
    exact .refused failure
  · rw [hgoes]
    exact .bundle hsuffix hreads time

theorem processProperties_proceeds (s : RunState) :
    k.Proceeds s (outcome (processProperties k) s) := by
  rw [processProperties_eq]
  cases hname : Locale.ofFileName k.item.name Task.propertiesSuffix with
  | none => exact .refused _
  | some locale =>
      dsimp only
      rw [outcome_bind_of_ok (outcome_get s), outcome_bind, outcome_ofExcept]
      cases Bundle.ofFile s.tree (k.configuration.source / Path.ofText
          (Locale.stripFromFileName k.item.name Task.propertiesSuffix ++ Task.bundleSuffix)) with
      | error failure => exact .refused failure
      | ok b =>
          dsimp only
          by_cases hmanaged : k.configuration.mode.isManaged = true
          · rw [if_pos hmanaged, outcome_bind, outcome_ask]
            cases s.tree.timeOf k.source with
            | error e => exact .refused _
            | ok time => exact .properties locale time hname
          · rw [if_neg hmanaged]
            exact .idle

theorem process_proceeds (k : Task) (s : RunState) : k.Proceeds s (outcome (process k) s) := by
  rw [process_eq]
  by_cases hbundle : k.item.name.endsWith Task.bundleSuffix = true
  · rw [if_pos hbundle]
    exact processBundle_proceeds hbundle s
  · rw [if_neg hbundle]
    by_cases hproperties : k.item.name.endsWith Task.propertiesSuffix = true
    · rw [if_pos hproperties]
      exact processProperties_proceeds s
    · rw [if_neg hproperties]
      exact .refused _

/-- An include, failing or not, writes its own outputs only. -/
theorem process_onlyWrites (h : k.Confines Q) : Leads (OnlyWrites Q) (process k) := by
  intro s
  have hproceeds := process_proceeds k s
  generalize outcome (process k) s = result at hproceeds
  cases hproceeds with
  | refused failure => exact .refl s
  | idle => exact .refl s
  | bundle _ _ time => exact emitBundle_onlyWrites h _ s
  | properties locale time => exact emitLocaleClass_onlyWrites (h.classFile _) s

/-- The state behind an include has the files and the account of the state that its processing
leaves. -/
theorem processInclude_of_process (c : Configuration) (item : Include) (s : RunState) :
    let left := (outcome (process (.of c item (s.clock s.ticks).wall)) (ticked s)).2
    (outcome (processInclude c item) s).2.tree = left.tree ∧
      (outcome (processInclude c item) s).2.events = left.events ∧
      (outcome (processInclude c item) s).2.ticks = left.ticks := by
  dsimp only
  rw [outcome_processInclude]
  rcases outcome (process (.of c item (s.clock s.ticks).wall)) (ticked s) with ⟨failure | ⟨⟩, t⟩
  · dsimp only
    by_cases hlocal : failure.isLocal = true
    · rw [if_pos hlocal]
      exact ⟨rfl, rfl, rfl⟩
    · rw [if_neg hlocal]
      exact ⟨rfl, rfl, rfl⟩
  · exact ⟨rfl, rfl, rfl⟩

/-- Reading the clock changes neither the tree nor the account. -/
theorem ticked_onlyWrites (s : RunState) : OnlyWrites Q s (ticked s) :=
  ⟨.refl _ _, ⟨[], (List.append_nil _).symm, fun _ _ hp => by cases hp⟩,
    Nat.add_le_add_right (Nat.le_succ s.ticks) _⟩

theorem processInclude_onlyWrites (c : Configuration) (item : Include) {s : RunState}
    (h : (Task.of c item (s.clock s.ticks).wall).Confines Q) :
    OnlyWrites Q s (outcome (processInclude c item) s).2 := by
  obtain ⟨htree, hevents, hticks⟩ := processInclude_of_process c item s
  have hprocess := process_onlyWrites h (ticked s)
  exact ((ticked_onlyWrites s).trans hprocess).trans (.of_eq htree hevents hticks)

end Includes

namespace Task

theorem confines_any (k : Task) : k.Confines fun _ => True :=
  ⟨fun _ => trivial, fun _ => trivial, trivial, trivial⟩

/-- The directory of the files of the package below a root. -/
def home (k : Task) (root : Path) : Path :=
  ClassName.directory root k.className / Path.folder (ClassName.simple k.className)

/-- The name of the class as the names of its files begin with it. -/
def stem (k : Task) : Text :=
  Path.lastName (ClassName.simple k.className)

theorem inPackage_append (k : Task) (root : Path) {suffix : Text} (hslash : '/' ∉ suffix)
    (hlength : 2 ≤ suffix.length) :
    k.inPackage root (ClassName.simple k.className ++ suffix) =
      (k.home root).child (k.stem ++ suffix) := by
  unfold inPackage home stem
  rw [Path.ofText_append _ hslash hlength, Path.div_child]

/-- The suffix of the properties file of a locale. -/
def localeSuffix (l : Locale) : Text :=
  '_' :: l.text ++ ".properties"

theorem propertiesFile_none (k : Task) :
    k.propertiesFile none = (k.home k.configuration.resources).child (k.stem ++ ".properties") :=
  k.inPackage_append _ (by decide) (by decide)

section Locale

variable {l : Locale}

theorem slash_not_mem_localeSuffix (h : '/' ∉ l.text) : '/' ∉ localeSuffix l := by
  unfold localeSuffix
  rw [List.cons_append, List.mem_cons, List.mem_append]
  rintro (hslash | hslash | hslash)
  · cases hslash
  · exact h hslash
  · exact absurd hslash (by decide)

/-- The last name of the properties file of a locale, wherever it stands. -/
def localeName (k : Task) (l : Locale) : Text :=
  k.stem ++ localeSuffix l

theorem inPackage_locale (k : Task) (root : Path) (h : '/' ∉ l.text) :
    k.inPackage root (ClassName.propertiesFile k.className (some l)) =
      (k.home root).child (k.localeName l) := by
  have hlength : 2 ≤ (localeSuffix l).length := by
    unfold localeSuffix
    simp
  unfold localeName
  rw [← k.inPackage_append root (slash_not_mem_localeSuffix h) hlength]
  unfold ClassName.propertiesFile ClassName.simpleLocalized ClassName.localized localeSuffix
  rw [List.append_assoc]

theorem propertiesFile_some (k : Task) (h : '/' ∉ l.text) :
    k.propertiesFile (some l) = (k.home k.configuration.resources).child (k.localeName l) :=
  k.inPackage_locale _ h

theorem byHandFile_eq (k : Task) (h : '/' ∉ l.text) :
    k.byHandFile l = (k.home k.configuration.source).child (k.localeName l) :=
  k.inPackage_locale _ h

end Locale

/-- Every output of an include has a last name with the suffix of its kind. -/
theorem classFile_eq (k : Task) (locale : Option Locale) :
    ∃ (q : Path) (name : Text), k.classFile locale = q.child (name ++ ".java") := by
  unfold classFile inPackage ClassName.javaFile
  rw [Path.ofText_append _ (by decide) (by decide), Path.div_child]
  exact ⟨_, _, rfl⟩

theorem propertiesFile_eq (k : Task) (locale : Option Locale) :
    ∃ (q : Path) (name : Text), k.propertiesFile locale = q.child (name ++ ".properties") := by
  unfold propertiesFile inPackage ClassName.propertiesFile
  rw [Path.ofText_append _ (by decide) (by decide), Path.div_child]
  exact ⟨_, _, rfl⟩

/-- The directory of header and implementation. -/
def nativeHome (k : Task) : Path :=
  k.configuration.destination / Path.folder k.nativeClass

/-- The name of the native class as the names of its two files begin with it. -/
def nativeStem (k : Task) : Text :=
  Path.lastName k.nativeClass

theorem nativeHeader_eq (k : Task) : k.nativeHeader = k.nativeHome.child (k.nativeStem ++ ".h") := by
  unfold nativeHeader nativeHome nativeStem ClassName.headerFile
  rw [Path.ofText_append _ (by decide) (by decide), Path.div_child]

theorem nativeImplementation_eq (k : Task) :
    k.nativeImplementation = k.nativeHome.child (k.nativeStem ++ ".cpp") := by
  unfold nativeImplementation nativeHome nativeStem ClassName.implementationFile
  rw [Path.ofText_append _ (by decide) (by decide), Path.div_child]

end Task

end Generation
end MessageCatalog
