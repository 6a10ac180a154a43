import MessageCatalog.Proofs.Generation.Confinement
import MessageCatalog.Proofs.Generation.Isolation

/-!
# Header and implementation on the disk

Header and implementation of a native class are rendered before either is written, and when one of
them is due both are. So wherever both are found they belong together: after any number of runs,
whatever their configurations and however they ended, with any changes to other files in between, and
with header or implementation removed at any time. Since texts have a form in UTF-8, no write is broken
off for its content: only the system can separate the two, by an error in the middle of a write, or a
link that leads another output to one of them.

**Results.**
* `IsPair`: contents that are rendered from one bundle for the same class, base class and header.
* `process_pairs`: an include leaves the two files alone, or it writes both, or it is interrupted.
* `includes_paired`: so a run that is not interrupted leaves them paired.
* `Reached`: the trees that runs and other changes lead to.
* `native_pair_stays_paired`: in all of them the two files belong together.
* `header_replaced_through_link`: the exception, a link that leads another output to the header.
-/

namespace MessageCatalog

open FileTree RunState

theorem Bytes.toList_loop (bytes : ByteArray) (i : Nat) (before : List UInt8) :
    ByteArray.toList.loop bytes i before = before.reverse ++ bytes.data.toList.drop i := by
  fun_induction ByteArray.toList.loop bytes i before with
  | case1 i before hi ih =>
      have hlength : i < bytes.data.toList.length := by simpa using hi
      rw [ih, List.drop_eq_getElem_cons hlength]
      simp [ByteArray.get!, getElem!_pos, hi]
  | case2 i before hi =>
      rw [List.drop_eq_nil_of_le (by simpa using hi)]
      simp

/-- A text is stored character by character. -/
theorem Text.utf8_eq_flatMap (t : Text) : t.utf8 = t.flatMap String.utf8EncodeChar := by
  unfold utf8 ByteArray.toList
  rw [Bytes.toList_loop]
  simp [List.utf8Encode]

namespace Generation

/-- The contents of header and implementation, rendered one after the other from one bundle and for
the same class, base class and header. -/
def IsPair (header implementation : Bytes) : Prop :=
  ∃ (b : Bundle) (className : Text) (h : Header) (baseClass : Text) (x y : Context)
    (headerText implementationText : Text),
    outcome (Native.renderHeader b className h baseClass) x = (.ok headerText, y) ∧
      (outcome (Native.renderImplementation b className h baseClass) y).1 =
        .ok implementationText ∧
      header = headerText.utf8 ∧ implementation = implementationText.utf8

/-- The place of the header in a directory, whatever path leads to the directory. -/
def headerPlace (dir : Place) (name : Text) : Place :=
  dir ++ [ClassName.headerFile name]

/-- The place of the implementation in a directory. -/
def implementationPlace (dir : Place) (name : Text) : Place :=
  dir ++ [ClassName.implementationFile name]

/-- If both places have a file, the two belong together. -/
def Paired (dir : Place) (name : Text) (t : FileTree) : Prop :=
  ∀ header time writable implementation time' writable',
    t.get? (headerPlace dir name) = some (.file header time writable) →
    t.get? (implementationPlace dir name) = some (.file implementation time' writable') →
    IsPair header implementation

/-- No link leads to either place. -/
structure PairUnlinked (dir : Place) (name : Text) (t : FileTree) : Prop where
  header : Unlinked t (headerPlace dir name)
  implementation : Unlinked t (implementationPlace dir name)

/-- Both files stay as they are. -/
structure KeepsPair (dir : Place) (name : Text) (t u : FileTree) : Prop where
  header : KeepsFile (headerPlace dir name) t u
  implementation : KeepsFile (implementationPlace dir name) t u

/-- More writes have been begun between the two states than have been completed. -/
def HasOpenWrite (s t : RunState) : Prop :=
  s.ticks + t.written.length < t.ticks + s.written.length

/-- What becomes of the two files: they stay as they are, or what is done succeeds and they belong
together, or it ends with a report of the system in the middle of a write. -/
inductive Pairs (dir : Place) (name : Text) (s : RunState) :
    Except Failure Unit × RunState → Prop
  | kept {result : Except Failure Unit} {t : RunState} (keeps : KeepsPair dir name s.tree t.tree) :
      Pairs dir name s (result, t)
  | written {t : RunState} (paired : Paired dir name t.tree) : Pairs dir name s (.ok ⟨⟩, t)
  | interrupted {e : FileError} {t : RunState} (system : e.isSystem = true)
      (opened : HasOpenWrite s t) : Pairs dir name s (.error (.file e), t)

variable {dir : Place} {name : Text} {k : Task} {b : Bundle} {c : Configuration} {s t : RunState}

theorem PairUnlinked.of_keeps {t u : FileTree} (h : PairUnlinked dir name u) (hkeeps : Keeps t u) :
    PairUnlinked dir name t :=
  ⟨.of_keeps hkeeps h.header, .of_keeps hkeeps h.implementation⟩

namespace KeepsPair

variable {t u v : FileTree}

theorem refl (dir : Place) (name : Text) (t : FileTree) : KeepsPair dir name t t :=
  ⟨.refl _ t, .refl _ t⟩

theorem trans (h : KeepsPair dir name t u) (h' : KeepsPair dir name u v) :
    KeepsPair dir name t v :=
  ⟨h.header.trans h'.header, h.implementation.trans h'.implementation⟩

theorem paired (h : KeepsPair dir name t u) (ht : Paired dir name t) : Paired dir name u :=
  fun _ _ _ _ _ _ hheader himplementation =>
    ht _ _ _ _ _ _ ((h.header _ _ _).mp hheader) ((h.implementation _ _ _).mp himplementation)

end KeepsPair

section Names

theorem getLast?_headerFile (name : Text) : (ClassName.headerFile name).getLast? = some 'h' :=
  Text.getLast?_append_of_eq rfl name

theorem getLast?_implementationFile (name : Text) :
    (ClassName.implementationFile name).getLast? = some 'p' :=
  Text.getLast?_append_of_eq rfl name

/-- The path has another last name than header and implementation. -/
def SparesPair (name : Text) (p : Path) : Prop :=
  Avoids (ClassName.headerFile name) p ∧ Avoids (ClassName.implementationFile name) p

theorem sparesPair_of_suffix {suffix : Text} {p : Path} {d : Char}
    (hp : ∃ (q : Path) (t : Text), p = q.child (t ++ suffix)) (hsuffix : suffix.getLast? = some d)
    (hdot : d ≠ '.') (hh : d ≠ 'h') (hp' : d ≠ 'p') : SparesPair name p :=
  ⟨avoids_of_suffix (getLast?_headerFile name) hp hsuffix hdot hh,
    avoids_of_suffix (getLast?_implementationFile name) hp hsuffix hdot hp'⟩

theorem classFile_sparesPair (locale : Option Locale) : SparesPair name (k.classFile locale) :=
  sparesPair_of_suffix (k.classFile_eq locale) rfl (by decide) (by decide) (by decide)

theorem propertiesFile_sparesPair (locale : Option Locale) :
    SparesPair name (k.propertiesFile locale) :=
  sparesPair_of_suffix (k.propertiesFile_eq locale) rfl (by decide) (by decide) (by decide)

theorem header_avoids_implementation (k : Task) (name : Text) :
    Avoids (ClassName.implementationFile name) k.nativeHeader :=
  avoids_of_suffix (getLast?_implementationFile name) ⟨_, _, k.nativeHeader_eq⟩ rfl (by decide)
    (by decide)

theorem implementation_avoids_header (k : Task) (name : Text) :
    Avoids (ClassName.headerFile name) k.nativeImplementation :=
  avoids_of_suffix (getLast?_headerFile name) ⟨_, _, k.nativeImplementation_eq⟩ rfl (by decide)
    (by decide)

/-- Outputs with other names leave both files alone. -/
theorem keepsPair_of_onlyWrites {Q : Path → Prop} (h : OnlyWrites Q s t)
    (hQ : ∀ p, Q p → SparesPair name p) (hunlinked : PairUnlinked dir name t.tree) :
    KeepsPair dir name s.tree t.tree :=
  ⟨h.grows.keepsFile_of_avoids hunlinked.header fun p _ hp => (hQ p hp).1,
    h.grows.keepsFile_of_avoids hunlinked.implementation fun p _ hp => (hQ p hp).2⟩

/-- What comes behind outputs with other names decides about the two files. -/
theorem Pairs.of_onlyWrites {Q : Path → Prop} {result : Except Failure Unit × RunState}
    (h : Pairs dir name t result) (hwrites : OnlyWrites Q s t) (hQ : ∀ p, Q p → SparesPair name p)
    (hunlinked : PairUnlinked dir name t.tree) : Pairs dir name s result := by
  cases h with
  | kept hkeeps => exact .kept ((keepsPair_of_onlyWrites hwrites hQ hunlinked).trans hkeeps)
  | written hpaired => exact .written hpaired
  | interrupted hsystem hopen =>
      refine .interrupted hsystem ?_
      have hticks := hwrites.ticks
      unfold HasOpenWrite at hopen ⊢
      omega

end Names

section Writes

/-- The paths of header and implementation have the same directory. -/
theorem hasNull_nativeImplementation :
    k.nativeImplementation.HasNull ↔ k.nativeHeader.HasNull := by
  rw [k.nativeImplementation_eq, k.nativeHeader_eq]
  unfold Path.HasNull Path.child
  simp

/-- If either of the two paths leads to its place, both do. -/
theorem located_both {u : FileTree} {place place' : Place} (hunlinked : PairUnlinked dir name u)
    (hheader : u.locate true k.nativeHeader = .ok place)
    (himplementation : u.locate true k.nativeImplementation = .ok place')
    (hfile : ∀ target, u.get? (headerPlace dir name) ≠ some (.link target))
    (hfile' : ∀ target, u.get? (implementationPlace dir name) ≠ some (.link target))
    (h : place = headerPlace dir name ∨ place' = implementationPlace dir name) :
    place = headerPlace dir name ∧ place' = implementationPlace dir name := by
  have hdown (stem : Text) : LeadsDown (ClassName.headerFile stem) :=
    leadsDown_of_getLast? (getLast?_headerFile stem) (by decide)
  have hdown' (stem : Text) : LeadsDown (ClassName.implementationFile stem) :=
    leadsDown_of_getLast? (getLast?_implementationFile stem) (by decide)
  rw [k.nativeHeader_eq] at hheader
  rw [k.nativeImplementation_eq] at himplementation
  rcases h with rfl | rfl
  · have hstem : name = k.nativeStem := by
      obtain ⟨dir', heq⟩ := hunlinked.header.exists_eq (hdown _) hheader
      exact List.append_cancel_right (List.append_singleton_inj.mp heq).2
    subst hstem
    exact ⟨rfl, (hunlinked.header.locate_sibling (hdown _) hheader (hdown' _) hfile'
      himplementation).2⟩
  · have hstem : name = k.nativeStem := by
      obtain ⟨dir', heq⟩ := hunlinked.implementation.exists_eq (hdown' _) himplementation
      exact List.append_cancel_right (List.append_singleton_inj.mp heq).2
    subst hstem
    exact ⟨(hunlinked.implementation.locate_sibling (hdown' _) himplementation (hdown _) hfile
      hheader).2, rfl⟩

/-- Contents that belong together are written one after the other. -/
theorem writes_pairs {header implementation : Bytes} (hpair : IsPair header implementation)
    (s : RunState)
    (hunlinked : PairUnlinked dir name (outcome (do
      Action.write k.nativeHeader header
      Action.write k.nativeImplementation implementation) s).2.tree) :
    Pairs dir name s (outcome (do
      Action.write k.nativeHeader header
      Action.write k.nativeImplementation implementation) s) := by
  rcases Action.outcome_write_cases k.nativeHeader header s with
    ⟨time, t, hwrite, hheader⟩ | ⟨e, t, hwrite, -, hbreaks⟩
  · rw [outcome_bind_of_ok hwrite] at hunlinked ⊢
    obtain ⟨place, hloc, hget⟩ := lookup_eq_ok.mp hheader.file
    rcases Action.outcome_write_cases k.nativeImplementation implementation t with
      ⟨time', u, hwrite', himplementation⟩ | ⟨e, u, hwrite', hsystem, hbreaks⟩
    · rw [hwrite'] at hunlinked ⊢
      obtain ⟨place', hloc', hget'⟩ := lookup_eq_ok.mp himplementation.file
      have hkeepsHeader : KeepsFile (headerPlace dir name) t.tree u.tree := by
        refine himplementation.grows.keepsFile_of_avoids hunlinked.header ?_
        rintro p time'' ⟨rfl, -⟩
        exact implementation_avoids_header k name
      -- The two paths have one directory: both lead to the two places, or neither does.
      by_cases hhere : place = headerPlace dir name ∨ place' = implementationPlace dir name
      · refine .written fun h τ w i τ' w' hh hi => ?_
        obtain ⟨rfl, rfl⟩ := located_both hunlinked (himplementation.grows.locate_of_ok hloc) hloc'
          (by simp [hh]) (by simp [hi]) hhere
        rw [(hkeepsHeader _ _ _).mpr hget] at hh
        rw [hget'] at hi
        cases hh
        cases hi
        exact hpair
      · obtain ⟨hnot, hnot'⟩ := not_or.mp hhere
        have hunlinked' := hunlinked.of_keeps himplementation.grows.keeps
        refine .kept ⟨.trans (hheader.grows.keepsFile ?_) hkeepsHeader,
          .trans (hheader.grows.keepsFile_of_avoids hunlinked'.implementation ?_)
            (himplementation.grows.keepsFile ?_)⟩
        · rintro ⟨p, content, time'', ⟨rfl, -⟩, hplace, -⟩
          exact hnot (Except.ok.inj (hloc.symm.trans hplace))
        · rintro p time'' ⟨rfl, -⟩
          exact header_avoids_implementation k name
        · rintro ⟨p, content, time'', ⟨rfl, -⟩, hplace, -⟩
          exact hnot' (Except.ok.inj (hloc'.symm.trans hplace))
    · rw [hwrite']
      refine .interrupted (hsystem fun hnull => ?_) ?_
      · exact not_hasNull_of_locate hloc (hasNull_nativeImplementation.mp hnull)
      · unfold HasOpenWrite
        rw [hbreaks.written, hheader.length_written, hbreaks.ticks, hheader.ticks]
        omega
  · rw [outcome_bind_of_error hwrite]
    exact .kept ⟨hbreaks.files _, hbreaks.files _⟩

end Writes

section Includes

/-- Nothing is written for the native class, or both files are rendered before either is written. -/
theorem outcome_emitNative (k : Task) (b : Bundle) (sourceTime : Time) (s : RunState) :
    OnlyWrites (fun _ => False) s (outcome (emitNative k b sourceTime) s).2 ∨
    ∃ header implementation t, IsPair header implementation ∧
      OnlyWrites (fun _ => False) s t ∧
      outcome (emitNative k b sourceTime) s = outcome (do
        Action.write k.nativeHeader header
        Action.write k.nativeImplementation implementation) t := by
  rw [emitNative_eq, writePair]
  rw [outcome_bind, Action.outcome_ofExcept]
  rcases (Native.validate b k.source).mapError Failure.generation with failure | ⟨⟩
  · exact .inl (.refl s)
  dsimp only
  rcases Action.outcome_ask_bind _ _ s with ⟨e, hrefused⟩ | ⟨decision, -, hgoes⟩
  · rw [hrefused]
    exact .inl (.refl s)
  rw [hgoes]
  by_cases hcurrent : decision.isCurrent = true
  · rw [if_pos hcurrent, forIn_eq_forM]
    exact .inl (Action.bind_onlyWrites (Action.forM_onlyWrites fun output _ =>
      Action.skip_onlyWrites output _) (fun _ => Action.pure_onlyWrites _) s)
  · rw [if_neg hcurrent, outcome_bind, Action.outcome_render]
    rcases hheader : outcome (Native.renderHeader b k.nativeClass k.header k.item.nativeBaseClass)
      s.context with ⟨e | headerText, y⟩
    · exact .inl (.of_eq rfl rfl rfl)
    dsimp only [Except.mapError]
    rw [outcome_bind, Action.outcome_render]
    rcases himplementation : outcome (Native.renderImplementation b k.nativeClass k.header
      k.item.nativeBaseClass) y with ⟨e | implementationText, z⟩
    · exact .inl (.of_eq rfl rfl rfl)
    · exact .inr ⟨headerText.utf8, implementationText.utf8, { s with context := z },
        ⟨b, k.nativeClass, k.header, k.item.nativeBaseClass, s.context, y, headerText,
          implementationText, hheader, congrArg Prod.fst himplementation, rfl, rfl⟩,
        .of_eq rfl rfl rfl, rfl⟩

theorem emitNative_pairs {sourceTime : Time}
    (hunlinked : PairUnlinked dir name (outcome (emitNative k b sourceTime) s).2.tree) :
    Pairs dir name s (outcome (emitNative k b sourceTime) s) := by
  rcases outcome_emitNative k b sourceTime s with hnothing | ⟨header, implementation, t, hpair,
    hnothing, hwrites⟩
  · exact .kept (keepsPair_of_onlyWrites hnothing (fun _ hp => hp.elim) hunlinked)
  · have hgrows : OnlyWrites (fun _ => True) t (outcome (do
        Action.write k.nativeHeader header
        Action.write k.nativeImplementation implementation) t).2 :=
      Action.bind_onlyWrites (Action.write_onlyWrites trivial header)
        (fun _ => Action.write_onlyWrites trivial implementation) t
    rw [hwrites] at hunlinked ⊢
    exact (writes_pairs hpair t hunlinked).of_onlyWrites hnothing (fun _ hp => hp.elim)
      (hunlinked.of_keeps hgrows.grows.keeps)

theorem emitBundle_pairs {locales : List Locale} {sourceTime : Time}
    (hunlinked : PairUnlinked dir name (outcome (emitBundle k b locales sourceTime) s).2.tree) :
    Pairs dir name s (outcome (emitBundle k b locales sourceTime) s) := by
  -- Everything before the native class has another name.
  have hothers : Leads (OnlyWrites (SparesPair name)) (do
      emitBase k b sourceTime
      forM locales (emitLocale k sourceTime)) :=
    Action.bind_onlyWrites (emitBase_onlyWrites (classFile_sparesPair _)
      (propertiesFile_sparesPair _)) fun _ => Action.forM_onlyWrites fun locale _ =>
        emitLocale_onlyWrites (classFile_sparesPair _) (propertiesFile_sparesPair _)
  have hspares := hothers s
  have hsplit : emitBundle k b locales sourceTime = (do
      (do emitBase k b sourceTime; forM locales (emitLocale k sourceTime))
      if k.configuration.mode.isNative then emitNative k b sourceTime) := by
    rw [emitBundle_eq]
    rw [forIn_eq_forM, bind_assoc]
  rw [hsplit] at hunlinked ⊢
  rw [outcome_bind] at hunlinked ⊢
  rcases houtcome : outcome (do
      emitBase k b sourceTime
      forM locales (emitLocale k sourceTime)) s with ⟨failure | ⟨⟩, t⟩
  · rw [houtcome] at hunlinked hspares
    exact .kept (keepsPair_of_onlyWrites hspares (fun _ hp => hp) hunlinked)
  · rw [houtcome] at hunlinked hspares
    dsimp only at hunlinked ⊢
    by_cases hnative : k.configuration.mode.isNative = true
    · rw [if_pos hnative] at hunlinked ⊢
      have hgrows : OnlyWrites (fun _ => True) t (outcome (emitNative k b sourceTime) t).2 :=
        emitNative_onlyWrites trivial trivial t
      exact (emitNative_pairs hunlinked).of_onlyWrites hspares (fun _ hp => hp)
        (hunlinked.of_keeps hgrows.grows.keeps)
    · rw [if_neg hnative] at hunlinked ⊢
      exact .kept (keepsPair_of_onlyWrites hspares (fun _ hp => hp) hunlinked)

/-- An include leaves both files alone, or it writes both, or it is interrupted. -/
theorem process_pairs (hunlinked : PairUnlinked dir name (outcome (process k) s).2.tree) :
    Pairs dir name s (outcome (process k) s) := by
  have hproceeds := process_proceeds k s
  generalize outcome (process k) s = result at hproceeds hunlinked
  cases hproceeds with
  | refused failure => exact .kept (.refl dir name s.tree)
  | idle => exact .kept (.refl dir name s.tree)
  | bundle _ _ time => exact emitBundle_pairs hunlinked
  | properties locale time =>
      have hwrites : OnlyWrites (SparesPair name) s (outcome (emitLocaleClass k locale time) s).2 :=
        emitLocaleClass_onlyWrites (classFile_sparesPair _) s
      exact .kept (keepsPair_of_onlyWrites hwrites (fun _ hp => hp) hunlinked)

end Includes

section Runs

/-- The includes that a run comes to before it ends, with the states in which it does. -/
def visited (c : Configuration) : List Include → RunState → List (Include × RunState)
  | [], _ => []
  | item :: items, s =>
      (item, s) ::
        if (failure? c (item, s)).all Failure.isLocal then
          visited c items (stateBehind c (item, s))
        else []

/-- The system reports an error in the middle of a write of the include. -/
def Interrupted (c : Configuration) (v : Include × RunState) : Prop :=
  ∃ e, failure? c v = some (.file e) ∧ e.isSystem = true ∧
    HasOpenWrite (ticked v.2) (visit c v).2

theorem stateBehind_tree (c : Configuration) (v : Include × RunState) :
    (stateBehind c v).tree = (visit c v).2.tree := by
  unfold stateBehind
  cases failure? c v with
  | none => rfl
  | some failure => rfl

theorem visit_paired {v : Include × RunState} (hpaired : Paired dir name v.2.tree)
    (hunlinked : PairUnlinked dir name (visit c v).2.tree) (h : ¬ Interrupted c v) :
    Paired dir name (visit c v).2.tree := by
  have hpairs : Pairs dir name (ticked v.2) (visit c v) := process_pairs hunlinked
  rcases hvisit : visit c v with ⟨result, t⟩
  rw [hvisit] at hpairs
  cases hpairs with
  | kept hkeeps => exact hkeeps.paired hpaired
  | written hwritten => exact hwritten
  | interrupted hsystem hopen =>
      have hfailure := failure?_eq_some.mpr (congrArg Prod.fst hvisit)
      refine absurd ⟨_, hfailure, hsystem, ?_⟩ h
      rw [hvisit]
      exact hopen

/-- The run goes on behind an include exactly if the include has no failure that ends it. -/
theorem outcome_processInclude_cases (c : Configuration) (v : Include × RunState) :
    ((failure? c v).all Failure.isLocal = true ∧
        ∃ reported, outcome (processInclude c v.1) v.2 = (.ok reported, stateBehind c v)) ∨
      ¬ (failure? c v).all Failure.isLocal = true ∧
        ∃ failure, outcome (processInclude c v.1) v.2 = (.error failure, (visit c v).2) := by
  rw [outcome_processInclude_of_failure?]
  cases failure? c v with
  | none => exact .inl ⟨rfl, _, rfl⟩
  | some failure =>
      by_cases hlocal : failure.isLocal = true
      · exact .inl ⟨hlocal, _, if_pos hlocal⟩
      · exact .inr ⟨hlocal, _, if_neg hlocal⟩

theorem includes_onlyWrites (c : Configuration) (items : List Include) :
    Leads (OnlyWrites fun _ => True) (items.flatMapM (processInclude c)) :=
  Leads.flatMapM (R := OnlyWrites fun _ => True) .refl OnlyWrites.trans
    (fun item _ => processInclude_onlyWrites c item (Task.confines_any _)) items

/-- A run through includes, none of which is interrupted, leaves the two files paired. -/
theorem includes_paired {items : List Include} (hpaired : Paired dir name s.tree)
    (hunlinked : PairUnlinked dir name (outcome (items.flatMapM (processInclude c)) s).2.tree)
    (h : ∀ v ∈ visited c items s, ¬ Interrupted c v) :
    Paired dir name (outcome (items.flatMapM (processInclude c)) s).2.tree := by
  induction items generalizing s with
  | nil => exact hpaired
  | cons item items ih =>
      have hfirst : ¬ Interrupted c (item, s) := h _ List.mem_cons_self
      rw [outcome_flatMapM_cons_snd] at hunlinked ⊢
      rcases outcome_processInclude_cases c (item, s) with
        ⟨hlocal, reported, hgoes⟩ | ⟨-, failure, hends⟩
      · rw [hgoes] at hunlinked ⊢
        dsimp only at hunlinked ⊢
        -- The rest of the run makes no links and removes none.
        have hbehind : PairUnlinked dir name (visit c (item, s)).2.tree := by
          rw [← stateBehind_tree]
          exact hunlinked.of_keeps (includes_onlyWrites c items _).grows.keeps
        refine ih ?_ hunlinked fun v hv => h v ?_
        · rw [stateBehind_tree]
          exact visit_paired hpaired hbehind hfirst
        · unfold visited
          rw [if_pos hlocal]
          exact List.mem_cons_of_mem _ hv
      · rw [hends] at hunlinked ⊢
        exact visit_paired hpaired hunlinked hfirst

/-- So does the run itself, whether it returns a report or not. -/
theorem run_paired (hpaired : Paired dir name s.tree)
    (hunlinked : PairUnlinked dir name (outcome (run c) s).2.tree)
    (h : ∀ v ∈ visited c c.includes s, ¬ Interrupted c v) :
    Paired dir name (outcome (run c) s).2.tree := by
  have hincludes (hunlinked : PairUnlinked dir name
      (outcome (c.includes.flatMapM (processInclude c)) s).2.tree) :=
    includes_paired hpaired hunlinked h
  rw [outcome_run] at hunlinked ⊢
  rcases houtcome : outcome (c.includes.flatMapM (processInclude c)) s with ⟨failure | failures, t⟩
  · rw [houtcome] at hunlinked hincludes
    exact hincludes hunlinked
  · rw [houtcome] at hunlinked hincludes
    exact hincludes hunlinked

theorem run_onlyWrites (c : Configuration) : Leads (OnlyWrites fun _ => True) (run c) := by
  intro s
  have hincludes := includes_onlyWrites c c.includes s
  rw [outcome_run]
  rcases houtcome : outcome (c.includes.flatMapM (processInclude c)) s with ⟨failure | failures, t⟩
  · rw [houtcome] at hincludes
    exact hincludes
  · rw [houtcome] at hincludes
    exact hincludes.trans (.of_eq rfl rfl rfl)

end Runs

section Histories

/-- The trees that a tree without the two files can become by runs that are not interrupted and by
changes to anything but the contents of the two, which may be removed at any time. -/
inductive Reached (dir : Place) (name : Text) : FileTree → Prop
  | initial {t : FileTree} (header : t.get? (headerPlace dir name) = none)
      (implementation : t.get? (implementationPlace dir name) = none) : Reached dir name t
  | ran {t : FileTree} (before : Reached dir name t) (c : Configuration) (table : ShapeTable)
      (clock : Clock)
      (uninterrupted : ∀ v ∈ visited c c.includes (start t table clock), ¬ Interrupted c v)
      (unlinked : PairUnlinked dir name (outcome (run c) (start t table clock)).2.tree) :
      Reached dir name (outcome (run c) (start t table clock)).2.tree
  | changed {t u : FileTree} (before : Reached dir name t)
      (unwritten : ∀ place ∈ [headerPlace dir name, implementationPlace dir name],
        ∀ content time writable, u.get? place = some (.file content time writable) →
          ∃ time writable, t.get? place = some (.file content time writable)) :
      Reached dir name u

theorem Reached.paired {t : FileTree} (h : Reached dir name t) : Paired dir name t := by
  induction h with
  | initial hnone =>
      intro header time writable implementation time' writable' hheader
      rw [hnone] at hheader
      cases hheader
  | ran _ c table clock huninterrupted hunlinked ih =>
      exact run_paired (s := start _ table clock) ih hunlinked huninterrupted
  | changed _ hunwritten ih =>
      intro header time writable implementation time' writable' hheader himplementation
      obtain ⟨_, _, hheader'⟩ := hunwritten _ List.mem_cons_self _ _ _ hheader
      obtain ⟨_, _, himplementation'⟩ :=
        hunwritten _ (List.mem_cons_of_mem _ List.mem_cons_self) _ _ _ himplementation
      exact ih _ _ _ _ _ _ hheader' himplementation'

/-- In all trees that are reached, header and implementation belong together if both are there. An
include that fails for anything but an error with a file leaves both as they are. -/
theorem native_pair_stays_paired (dir : Place) (name : Text) :
    (∀ t, Reached dir name t → Paired dir name t) ∧
      ∀ c item s failure, failure? c (item, s) = some failure → (∀ e, failure ≠ .file e) →
        PairUnlinked dir name (outcome (processInclude c item) s).2.tree →
        KeepsPair dir name s.tree (outcome (processInclude c item) s).2.tree := by
  refine ⟨fun t => Reached.paired, fun c item s failure hfailure hfile hunlinked => ?_⟩
  have htree : (outcome (processInclude c item) s).2.tree = (visit c (item, s)).2.tree :=
    (processInclude_of_process c item s).1
  rw [htree] at hunlinked ⊢
  have hpairs : Pairs dir name (ticked s) (visit c (item, s)) := process_pairs hunlinked
  have hresult : (visit c (item, s)).1 = .error failure := failure?_eq_some.mp hfailure
  generalize visit c (item, s) = result at hpairs hresult
  cases hpairs with
  | kept hkeeps => exact hkeeps
  | written hwritten => cases hresult
  | interrupted hsystem hopen =>
      cases hresult
      exact absurd rfl (hfile _)

end Histories

section EditedTree

/-- The entry is a file with such contents. -/
def Entry.holds (P : Bytes → Bool) : Entry → Bool
  | .file content _ _ => P content
  | _ => false

theorem exists_file_of_holds {t : FileTree} {place : Place} {P : Bytes → Bool}
    (h : (t.get? place).any (Entry.holds P) = true) :
    ∃ content time writable,
      t.get? place = some (.file content time writable) ∧ P content = true := by
  cases hget : t.get? place with
  | none =>
      rw [hget] at h
      cases h
  | some e =>
      rw [hget] at h
      cases e with
      | file content time writable => exact ⟨content, time, writable, rfl, h⟩
      | directory time => cases h
      | link target => cases h

/-- The configuration that generates native classes from bundles. -/
def nativeConfiguration (force : Bool) (names : List Text) : Configuration :=
  { sampleConfiguration none (names.map Include.ofName) with mode := .native, force }

/-- A run that begins in a tree at a time. -/
def runAt (c : Configuration) (t : FileTree) (now : Time) : Except Failure Report × RunState :=
  outcome (run c) (start t ⟨[]⟩ fun _ => ⟨now, now⟩)

theorem runAt_linkFree {t : FileTree} {now : Time} (h : IsLinkFree t) :
    IsLinkFree (runAt c t now).2.tree :=
  h.of_keeps (run_onlyWrites c (start t _ _)).grows.keeps

/-- A run with a single include is not interrupted if the include has no failure. -/
theorem uninterrupted_single {item : Include} (h : failure? c (item, s) = none) :
    ∀ v ∈ visited c [item] s, ¬ Interrupted c v := by
  rintro v hv ⟨e, he, -⟩
  obtain rfl : v = (item, s) := by simpa [visited, h] using hv
  rw [h] at he
  cases he

/-- A tree with a bundle for a native class. -/
def nativeTree : FileTree :=
  sampleTree [(["s".toList, "N.xml".toList], .file sampleDocument 100 true)]

/-- The state in which it is generated. -/
def nativeState : RunState :=
  start nativeTree ⟨[]⟩ fun _ => ⟨3000, 3000⟩

/-- The configuration for its class. -/
def singleConfiguration : Configuration :=
  nativeConfiguration false ["N.xml".toList]

/-- The tree in which the class has been generated. -/
def generatedTree : FileTree :=
  (runAt singleConfiguration nativeTree 3000).2.tree

/-- The tree in which then a message without a text has been added to the bundle. -/
def editedTree : FileTree :=
  generatedTree.set ["s".toList, "N.xml".toList]
    (.file (Text.utf8 "<resourceBundle locale=\"en\"><message name=\"a\"/></resourceBundle>") 4000
      true)

/-- The state in which the edited bundle is to be generated. -/
def editedState : RunState :=
  start editedTree ⟨[]⟩ fun _ => ⟨5000, 5000⟩

/-- Header and implementation are there after the run and the edit, and they belong together. The
edited bundle is refused, and they stay as they are. -/
theorem editedTree_paired :
    (∃ header time writable implementation time' writable',
      editedTree.get? (headerPlace ["d".toList] "N".toList) =
          some (.file header time writable) ∧
        editedTree.get? (implementationPlace ["d".toList] "N".toList) =
          some (.file implementation time' writable') ∧
        IsPair header implementation) ∧
      KeepsPair ["d".toList] "N".toList editedTree
        (outcome (processInclude singleConfiguration (.ofName "N.xml")) editedState).2.tree := by
  have hfree : IsLinkFree generatedTree :=
    runAt_linkFree (isLinkFree_of_entries (t := nativeTree) (by decide))
  have hok : failure? singleConfiguration (.ofName "N.xml", nativeState) = none := by
    decide +kernel
  have hgenerated : Reached ["d".toList] "N".toList generatedTree :=
    .ran (.initial (by decide) (by decide)) singleConfiguration ⟨[]⟩ _ (uninterrupted_single hok)
      ⟨hfree.unlinked _, hfree.unlinked _⟩
  have hkept (place : Place) (hplace : place ≠ ["s".toList, "N.xml".toList]) :
      editedTree.get? place = generatedTree.get? place := by
    unfold editedTree
    rw [get?_set, if_neg hplace]
  have hedited : Reached ["d".toList] "N".toList editedTree := by
    refine .changed hgenerated fun place hplace content time writable hfile => ⟨time, writable, ?_⟩
    rw [← hfile, hkept]
    rintro rfl
    exact absurd hplace (by decide)
  have hfailure : failure? singleConfiguration (.ofName "N.xml", editedState) =
      some (.generation ⟨.noText, some (Path.ofText "s/N.xml"), some "a".toList⟩) := by
    decide +kernel
  have hends : IsLinkFree (outcome (processInclude singleConfiguration (.ofName "N.xml"))
      editedState).2.tree := by
    have hbefore : IsLinkFree editedTree := fun place target hlink => by
      by_cases hplace : place = ["s".toList, "N.xml".toList]
      · unfold editedTree at hlink
        rw [get?_set, if_pos hplace] at hlink
        cases hlink
      · rw [hkept place hplace] at hlink
        exact hfree place target hlink
    exact hbefore.of_keeps (processInclude_onlyWrites _ _ (Task.confines_any _)).grows.keeps
  have hstays := native_pair_stays_paired ["d".toList] "N".toList
  have hfiles : (editedTree.get? (headerPlace ["d".toList] "N".toList)).any
        (Entry.holds fun _ => true) = true ∧
      (editedTree.get? (implementationPlace ["d".toList] "N".toList)).any
        (Entry.holds fun _ => true) = true := by
    decide +kernel
  obtain ⟨header, time, writable, hheader, -⟩ := exists_file_of_holds hfiles.1
  obtain ⟨implementation, time', writable', himplementation, -⟩ := exists_file_of_holds hfiles.2
  exact ⟨⟨header, time, writable, implementation, time', writable', hheader, himplementation,
    hstays.1 _ hedited _ _ _ _ _ _ hheader himplementation⟩,
    hstays.2 singleConfiguration (.ofName "N.xml") editedState _ hfailure (by simp)
      ⟨hends.unlinked _, hends.unlinked _⟩⟩

end EditedTree

section LinkedHeader

/-- A tree with two bundles, and a link that leads the properties file of one to the header of the
other. -/
def crossedTree : FileTree :=
  sampleTree
    [(["s".toList, "N.xml".toList], .file sampleDocument 100 true),
      (["s".toList, "M.xml".toList], .file sampleDocument 100 true),
      (["r".toList, "M.properties".toList], .link (Path.ofText "../d/N.h"))]

/-- The configuration for the classes of both. -/
def crossedConfiguration : Configuration :=
  nativeConfiguration true ["N.xml".toList, "M.xml".toList]

theorem head?_headerText (c : Native.Class) (includes : List Text) :
    (c.headerText includes).head? = some '/' := by
  unfold Native.Class.headerText Header.bannerLines Header.banner
  cases c.header.stable with
  | true => rfl
  | false => rfl

/-- A header begins with a comment. -/
theorem IsPair.head?_header {header implementation : Bytes} (h : IsPair header implementation) :
    header.head? = some 47 := by
  obtain ⟨b, className, h, baseClass, x, y, headerText, _, hheader, -, rfl, -⟩ := h
  unfold Native.renderHeader at hheader
  obtain ⟨c, z, -, htext⟩ := outcome_bind_eq_ok.mp hheader
  rw [outcome_pure, Prod.mk.injEq, Except.ok.injEq] at htext
  obtain ⟨rfl, -⟩ := htext
  obtain ⟨rest, hrest⟩ := List.head?_eq_some_iff.mp (head?_headerText c (Native.exceptionIncludes b))
  rw [hrest, Text.utf8_eq_flatMap]
  rfl

/-- Through the link the properties file of one class replaces the header of the other, in a run that
reports no failure. -/
theorem header_replaced_through_link :
    crossedTree.get? (headerPlace ["d".toList] "N".toList) = none ∧
      crossedTree.get? (implementationPlace ["d".toList] "N".toList) = none ∧
      (runAt crossedConfiguration crossedTree 3000).1.toOption.map Report.failures = some [] ∧
      ¬ Paired ["d".toList] "N".toList (runAt crossedConfiguration crossedTree 3000).2.tree := by
  -- The header begins like a properties file.
  have hrun : (runAt crossedConfiguration crossedTree 3000).1.toOption.map Report.failures =
        some [] ∧
      ((runAt crossedConfiguration crossedTree 3000).2.tree.get?
        (headerPlace ["d".toList] "N".toList)).any
          (Entry.holds fun content => decide (content.head? = some 35)) = true ∧
      ((runAt crossedConfiguration crossedTree 3000).2.tree.get?
        (implementationPlace ["d".toList] "N".toList)).any (Entry.holds fun _ => true) = true := by
    decide +kernel
  obtain ⟨hfailures, hheader, himplementation⟩ := hrun
  refine ⟨by decide, by decide, hfailures, fun hpaired => ?_⟩
  obtain ⟨header, _, _, hheader, hbegins⟩ := exists_file_of_holds hheader
  obtain ⟨implementation, _, _, himplementation, -⟩ := exists_file_of_holds himplementation
  have hpair := hpaired _ _ _ _ _ _ hheader himplementation
  rw [decide_eq_true_iff, hpair.head?_header] at hbegins
  exact absurd hbegins (by decide)

end LinkedHeader

end Generation
end MessageCatalog
