import MessageCatalog.Proofs.Bundle.Refusal
import MessageCatalog.Proofs.Generated.Refusal
import MessageCatalog.Proofs.Generation.Plan
import MessageCatalog.Proofs.Generation.Traversal

/-!
# Failures that end a run

Most failures of an include concern it alone. Three do not: a number with too many digits in a text
of the bundle, a document in an encoding that is not known, and a path with a null character. This
module says where each of them comes from; for the number, it says exactly when it comes.

**Results.**
* `emitBundle_fair`: what can go wrong while the outputs of a bundle are generated.
* `Task.StopsAtNumber`, `process_eq_numberTooLong`: an include is given up for a number exactly if
  one of its classes is rendered and the resources of its bundle are refused for a number.
* `endsRun_of_process`: a failure that ends the run is one of the three.
-/

namespace MessageCatalog

/-- What is known of a failure: if it is about a number, a given condition holds, and if it is a
file error, it is a fair one. -/
def Failure.IsFair (number : Prop) : Failure → Prop
  | .numberTooLong => number
  | .file e => e.IsFair
  | .bundle (.unknownEncoding _) => False
  | _ => True

namespace Action

variable {number : Prop}

theorem ofExcept_fair {α : Type} {x : Except Failure α} (h : ∀ e, x = .error e → e.IsFair number) :
    StopsWith (Failure.IsFair number) (ofExcept x) := by
  intro s e t he
  have hx : x = .error e := congrArg Prod.fst he
  exact h e hx

theorem ask_fair {α : Type} {question : FileTree → Except FileError α}
    (h : ∀ t, Fair (question t)) : StopsWith (Failure.IsFair number) (ask question) := by
  intro s e t he
  rw [outcome_ask] at he
  cases hanswer : question s.tree with
  | ok a =>
      rw [hanswer] at he
      cases he
  | error e' =>
      rw [hanswer] at he
      cases he
      exact h s.tree e' hanswer

theorem render_fair {rendering : Rendering Text}
    (h : StopsWith (fun e => e = .numberTooLong → number) rendering) :
    StopsWith (Failure.IsFair number) (render rendering) := by
  intro s e t he
  rw [outcome_render] at he
  rcases hrender : outcome rendering s.context with ⟨e' | text, context⟩
  · rw [hrender] at he
    cases he
    have hfair := h s.context e' context hrender
    cases e' with
    | generation e => trivial
    | numberTooLong => exact hfair rfl
  · rw [hrender] at he
    cases he

theorem skip_fair (output : Path) (reason : Text) :
    StopsWith (Failure.IsFair number) (skip output reason) := by
  intro s e t he
  cases he

theorem write_fair (output : Path) (content : Bytes) :
    StopsWith (Failure.IsFair number) (write output content) := by
  intro s e t he
  rw [outcome_write] at he
  rcases hfile : outcome (FileAction.writeFile output content (s.clock s.ticks).disk) s.tree with
    ⟨e' | ⟨⟩, tree⟩
  · rw [hfile] at he
    cases he
    exact FileAction.writeFile_fair output content s.tree e' tree hfile
  · rw [hfile] at he
    cases he

theorem isClosed_fair (number : Prop) :
    IsClosed fun {_} x => StopsWith (Failure.IsFair number) x where
  pure := .pure
  bind := .bind
  ask := ask_fair
  skip := skip_fair
  write := write_fair

end Action

namespace Generation

open FileTree

variable {number : Prop} {b : Bundle} {k : Task} {sourceTime : Time}

theorem validate_fair :
    StopsWith (Failure.IsFair number)
      (Action.ofExcept ((Native.validate b k.source).mapError .generation)) := by
  refine Action.ofExcept_fair fun e h => ?_
  cases hvalid : Native.validate b k.source with
  | ok u =>
      rw [hvalid] at h
      cases h
  | error e' =>
      rw [hvalid] at h
      cases h
      trivial

/-- What can go wrong while the outputs of a bundle are generated; nothing is known of the numbers
in the bundle. -/
theorem emitBundle_fair (locales : List Locale) :
    StopsWith (Failure.IsFair True) (emitBundle k b locales sourceTime) := by
  have hrender : ∀ rendering, StopsWith (Failure.IsFair True) (Action.render rendering) :=
    fun _ => Action.render_fair fun _ _ _ _ _ => trivial
  have hclosed := Action.isClosed_fair True
  exact hclosed.emitBundle locales (hclosed.emitBase (hrender _) (hrender _))
    (hclosed.emitNative validate_fair fun _ => hrender _)

section Numbers

/-- An action of which a number is known not to be too long is not given up for one. -/
theorem ne_numberTooLong_of_fair {α : Type} {x : Action α}
    (h : StopsWith (Failure.IsFair False) x) (s : RunState) :
    (outcome x s).1 ≠ .error .numberTooLong :=
  fun hx => h s .numberTooLong _ (outcome_of_fst hx)

/-- A sequence that is given up for a number, if its first part never is. -/
theorem bind_eq_numberTooLong {α β : Type} {x : Action α} {f : α → Action β}
    (hx : StopsWith (Failure.IsFair False) x) {s : RunState} :
    (outcome (x >>= f) s).1 = .error .numberTooLong ↔
      ∃ a t, outcome x s = (.ok a, t) ∧ (outcome (f a) t).1 = .error .numberTooLong := by
  rw [fst_bind_eq_error]
  exact or_iff_right (ne_numberTooLong_of_fair hx s)

theorem ask_bind_eq_numberTooLong {α β : Type} {question : FileTree → Except FileError α}
    {f : α → Action β} (hquestion : ∀ t, Fair (question t)) {s : RunState} :
    (outcome (Action.ask question >>= f) s).1 = .error .numberTooLong ↔
      ∃ a, question s.tree = .ok a ∧ (outcome (f a) s).1 = .error .numberTooLong := by
  rw [bind_eq_numberTooLong (Action.ask_fair hquestion), Action.outcome_ask]
  cases question s.tree with
  | ok a => simp [Except.mapError, and_assoc]
  | error e => simp [Except.mapError]

theorem render_eq_numberTooLong {rendering : Rendering Text} {s : RunState} :
    (outcome (Action.render rendering) s).1 = .error .numberTooLong ↔
      (outcome rendering s.context).1 = .error .numberTooLong := by
  rw [Action.outcome_render]
  rcases outcome rendering s.context with ⟨e | text, context⟩
  · cases e with
    | generation e => simp [Except.mapError, Failure.ofRendering]
    | numberTooLong => simp [Except.mapError, Failure.ofRendering]
  · simp [Except.mapError]

theorem writeIfStale_eq_numberTooLong {output : Path} {decision : Decision}
    {content : Action Bytes} {s : RunState} :
    (outcome (writeIfStale output decision content) s).1 = .error .numberTooLong ↔
      decision.isCurrent = false ∧ s.tree.isReadOnly output = .ok false ∧
        (outcome content s).1 = .error .numberTooLong := by
  have hskip : ∀ reason, (outcome (Action.skip output reason) s).1 ≠ .error .numberTooLong :=
    fun reason => ne_numberTooLong_of_fair (Action.skip_fair output reason) s
  unfold writeIfStale
  cases hcurrent : decision.isCurrent with
  | true =>
      rw [if_pos rfl]
      simp
  | false =>
      rw [if_neg Bool.false_ne_true,
        ask_bind_eq_numberTooLong fun _ => isReadOnly_fair output]
      constructor
      · rintro ⟨readOnly, hreadOnly, h⟩
        cases readOnly with
        | true => exact absurd h (hskip _)
        | false =>
            rcases fst_bind_eq_error.mp h with hcontent | ⟨bytes, t, -, hwrite⟩
            · exact ⟨rfl, hreadOnly, hcontent⟩
            · exact absurd hwrite (ne_numberTooLong_of_fair (Action.write_fair output bytes) t)
      · rintro ⟨-, hreadOnly, hcontent⟩
        exact ⟨false, hreadOnly, fst_bind_eq_error.mpr (Or.inl hcontent)⟩

theorem emit_eq_numberTooLong {output : Path} {rendering : Rendering Text} {s : RunState} :
    (outcome (emit k output sourceTime rendering) s).1 = .error .numberTooLong ↔
      (∃ d, Decision.ofOutput s.tree sourceTime output k.configuration.force = .ok d ∧
        d.isCurrent = false) ∧
      s.tree.isReadOnly output = .ok false ∧
      (outcome rendering s.context).1 = .error .numberTooLong := by
  rw [emit_eq, writeRendered]
  rw [ask_bind_eq_numberTooLong fun _ => Decision.ofOutput_fair output]
  simp only [writeIfStale_eq_numberTooLong, fst_bind_pure_eq_error, render_eq_numberTooLong]
  constructor
  · rintro ⟨d, hd, hstale, hwritable, hrendering⟩
    exact ⟨⟨d, hd, hstale⟩, hwritable, hrendering⟩
  · rintro ⟨⟨d, hd, hstale⟩, hwritable, hrendering⟩
    exact ⟨d, hd, hstale, hwritable, hrendering⟩

/-- The accessor class of a bundle is rendered: it is stale and may be written. -/
structure Task.RendersClass (k : Task) (t : FileTree) (sourceTime : Time) : Prop where
  mode : k.configuration.mode.isManaged = true
  stale : ∃ d, Decision.ofOutput t sourceTime (k.classFile none) k.configuration.force = .ok d ∧
    d.isCurrent = false
  writable : t.isReadOnly (k.classFile none) = .ok false

theorem emitBase_eq_numberTooLong {s : RunState} :
    (outcome (emitBase k b sourceTime) s).1 = .error .numberTooLong ↔
      k.RendersClass s.tree sourceTime ∧ b.StopsAtNumber k.header.source := by
  have hproperties : ∀ s, (outcome (emit k (k.propertiesFile none) sourceTime
      (Properties.render b k.className k.header)) s).1 ≠ .error .numberTooLong :=
    ne_numberTooLong_of_fair ((Action.isClosed_fair False).emit _
      (Action.render_fair ((Properties.render_not_number _ _).mono fun _ hne heq => hne heq)))
  rw [emitBase_eq]
  by_cases hmanaged : k.configuration.mode.isManaged = true
  · rw [if_pos hmanaged, fst_bind_eq_error]
    rw [emit_eq_numberTooLong, Managed.render_failsAs _ _ _ _ s.context,
      Bundle.describe_eq_numberTooLong]
    constructor
    · rintro (⟨hstale, hwritable, hnumber⟩ | ⟨u, t, -, h⟩)
      · exact ⟨⟨hmanaged, hstale, hwritable⟩, hnumber⟩
      · exact absurd h (hproperties t)
    · rintro ⟨hrenders, hnumber⟩
      exact Or.inl ⟨hrenders.stale, hrenders.writable, hnumber⟩
  · rw [if_neg hmanaged]
    constructor
    · exact fun h => absurd h (hproperties s)
    · exact fun h => absurd h.1.mode hmanaged

/-- Generates what a bundle gives before the native class. -/
def emitTexts (k : Task) (b : Bundle) (locales : List Locale) (sourceTime : Time) :
    Action Unit := do
  emitBase k b sourceTime
  forM locales (emitLocale k sourceTime)

theorem emitTexts_eq_numberTooLong {locales : List Locale} {s : RunState} :
    (outcome (emitTexts k b locales sourceTime) s).1 = .error .numberTooLong ↔
      k.RendersClass s.tree sourceTime ∧ b.StopsAtNumber k.header.source := by
  unfold emitTexts
  rw [fst_bind_eq_error, emitBase_eq_numberTooLong]
  refine or_iff_left ?_
  rintro ⟨u, t, -, h⟩
  exact ne_numberTooLong_of_fair
    (.forM fun locale _ => (Action.isClosed_fair False).emitLocale locale) t h

/-- The native class of a bundle is rendered: it is reached, one of its files is stale, and nothing
but the descriptions of the resources is left to refuse it for. -/
structure Task.RendersNative (k : Task) (b : Bundle) (locales : List Locale) (sourceTime : Time)
    (s : RunState) : Prop where
  mode : k.configuration.mode.isNative = true
  reached : ∃ u, outcome (emitTexts k b locales sourceTime) s = (.ok ⟨⟩, u) ∧
    ∃ d, Decision.ofOutputs u.tree sourceTime k.configuration.force
        [k.nativeHeader, k.nativeImplementation] = .ok d ∧ d.isCurrent = false
  valid : Native.validate b k.source = .ok ⟨⟩
  simple : k.nativeClass.contains '.' = false

theorem renderNative_eq_numberTooLong {write : Native.Class → Text} {s : RunState}
    (hvalid : Native.validate b k.header.source = .ok ⟨⟩) :
    (outcome (Action.render do
      return write (← Native.classOf b k.nativeClass k.header k.item.nativeBaseClass)) s).1 =
        .error .numberTooLong ↔
      k.nativeClass.contains '.' = false ∧ b.StopsAtNumber k.header.source := by
  rw [render_eq_numberTooLong, fst_bind_pure_eq_error]
  exact Native.classOf_eq_numberTooLong hvalid

theorem emitNative_eq_numberTooLong {s : RunState} (hheader : k.header.source = k.source) :
    (outcome (emitNative k b sourceTime) s).1 = .error .numberTooLong ↔
      Native.validate b k.source = .ok ⟨⟩ ∧
      (∃ d, Decision.ofOutputs s.tree sourceTime k.configuration.force
        [k.nativeHeader, k.nativeImplementation] = .ok d ∧ d.isCurrent = false) ∧
      k.nativeClass.contains '.' = false ∧ b.StopsAtNumber k.header.source := by
  rw [emitNative_eq, writePair]
  rw [bind_eq_numberTooLong validate_fair]
  cases hvalid : Native.validate b k.source with
  | error e => simp [Except.mapError]
  | ok u =>
      have hvalid' : Native.validate b k.header.source = .ok ⟨⟩ := by
        rw [hheader]
        exact hvalid
      constructor
      · rintro ⟨u, t, hstart, h⟩
        cases hstart
        obtain ⟨d, hd, h⟩ :=
          (ask_bind_eq_numberTooLong fun _ => Decision.ofOutputs_fair _).mp h
        cases hcurrent : d.isCurrent with
        | true =>
            rw [if_pos hcurrent, forIn_eq_forM] at h
            exact absurd h (ne_numberTooLong_of_fair
              (.bind (.forM fun output _ => Action.skip_fair output _) fun _ => .pure _) s)
        | false =>
            rw [if_neg (Bool.eq_false_iff.mp hcurrent)] at h
            refine ⟨rfl, ⟨d, hd, hcurrent⟩, ?_⟩
            rcases fst_bind_eq_error.mp h with h | ⟨header, t, -, h⟩
            · exact (renderNative_eq_numberTooLong hvalid').mp h
            rcases fst_bind_eq_error.mp h with h | ⟨implementation, t', -, h⟩
            · exact (renderNative_eq_numberTooLong hvalid').mp h
            · exact absurd h (ne_numberTooLong_of_fair
                (.bind (Action.write_fair _ _) fun _ => Action.write_fair _ _) t')
      · rintro ⟨-, ⟨d, hd, hstale⟩, hrefused⟩
        refine ⟨⟨⟩, s, rfl, (ask_bind_eq_numberTooLong fun _ => Decision.ofOutputs_fair _).mpr
          ⟨d, hd, ?_⟩⟩
        rw [if_neg (Bool.eq_false_iff.mp hstale)]
        exact fst_bind_eq_error.mpr (Or.inl ((renderNative_eq_numberTooLong hvalid').mpr hrefused))

/-- The outputs of a bundle are given up for a number exactly if one of its classes is rendered and
the resources are refused for a number. -/
theorem emitBundle_eq_numberTooLong {locales : List Locale} {s : RunState}
    (hheader : k.header.source = k.source) :
    (outcome (emitBundle k b locales sourceTime) s).1 = .error .numberTooLong ↔
      (k.RendersClass s.tree sourceTime ∨ k.RendersNative b locales sourceTime s) ∧
        b.StopsAtNumber k.header.source := by
  have hsplit : emitBundle k b locales sourceTime = (do
      emitTexts k b locales sourceTime
      if k.configuration.mode.isNative then emitNative k b sourceTime) := by
    rw [emitBundle_eq, emitTexts]
    rw [forIn_eq_forM, bind_assoc]
  rw [hsplit, fst_bind_eq_error, emitTexts_eq_numberTooLong]
  constructor
  · rintro (⟨hclass, hnumber⟩ | ⟨⟨⟩, u, hreached, h⟩)
    · exact ⟨Or.inl hclass, hnumber⟩
    · by_cases hnative : k.configuration.mode.isNative = true
      · rw [if_pos hnative, emitNative_eq_numberTooLong hheader] at h
        obtain ⟨hvalid, hstale, hsimple, hnumber⟩ := h
        exact ⟨Or.inr ⟨hnative, ⟨u, hreached, hstale⟩, hvalid, hsimple⟩, hnumber⟩
      · rw [if_neg hnative] at h
        cases h
  · rintro ⟨hclass | hrenders, hnumber⟩
    · exact Or.inl ⟨hclass, hnumber⟩
    · obtain ⟨u, hreached, hstale⟩ := hrenders.reached
      refine Or.inr ⟨⟨⟩, u, hreached, ?_⟩
      rw [if_pos hrenders.mode, emitNative_eq_numberTooLong hheader]
      exact ⟨hrenders.valid, hstale, hrenders.simple, hnumber⟩

/-- The include is a bundle with a class that is rendered, and the resources of the bundle are
refused for a number. -/
def Task.StopsAtNumber (k : Task) (s : RunState) : Prop :=
  k.item.name.endsWith Task.bundleSuffix = true ∧
    ∃ b locales sourceTime, k.Reads s.tree b locales ∧ s.tree.timeOf k.source = .ok sourceTime ∧
      (k.RendersClass s.tree sourceTime ∨ k.RendersNative b locales sourceTime s) ∧
      b.StopsAtNumber k.source

theorem ofFile_ne_numberTooLong {t : FileTree} {p : Path} :
    Bundle.ofFile t p ≠ .error .numberTooLong := by
  intro h
  rcases Bundle.ofFile_eq_error h with ⟨e, -, hf⟩ | ⟨bytes, encoding, -, -, hf⟩ | hlocal
  · unfold Failure.ofReading at hf
    split at hf
    · cases hf
    · cases hf
  · cases hf
  · cases hlocal

theorem resolveLocales_isLocal {own : Locale} {list : Option Text} {source : Path} {f : Failure}
    (h : Bundle.resolveLocales own list source = .error f) : f.isLocal = true := by
  unfold Bundle.resolveLocales at h
  cases hlist : Text.present? list with
  | none =>
      rw [hlist] at h
      cases h
  | some list =>
      simp only [hlist] at h
      by_cases hlisted : (Locale.identifiers list).contains own.text = true
      · rw [if_pos hlisted] at h
        cases hlocales : (Locale.identifiers list).mapM Locale.parse with
        | ok locales =>
            rw [hlocales] at h
            cases h
        | error e =>
            rw [hlocales] at h
            cases h
            rfl
      · rw [if_neg hlisted] at h
        cases h
        rfl

theorem processBundle_eq_numberTooLong {s : RunState} (hheader : k.header.source = k.source) :
    (outcome (processBundle k) s).1 = .error .numberTooLong ↔
      ∃ b locales sourceTime, k.Reads s.tree b locales ∧
        s.tree.timeOf k.source = .ok sourceTime ∧
        (k.RendersClass s.tree sourceTime ∨ k.RendersNative b locales sourceTime s) ∧
        b.StopsAtNumber k.source := by
  rw [processBundle_eq]
  rw [outcome_bind_of_ok (outcome_get s)]
  constructor
  · intro h
    cases hread : Bundle.ofFile s.tree k.source with
    | error f =>
        rw [hread] at h
        cases h
        exact absurd hread ofFile_ne_numberTooLong
    | ok b =>
        rw [hread, outcome_bind_of_ok (Action.outcome_ofExcept _ s)] at h
        cases hlocale : b.locale with
        | none =>
            rw [hlocale] at h
            cases h
        | some own =>
            rw [hlocale] at h
            cases hlocales : Bundle.resolveLocales own k.configuration.locales k.source with
            | error f =>
                simp only [hlocales] at h
                cases h
                cases resolveLocales_isLocal hlocales
            | ok locales =>
                simp only [hlocales] at h
                rw [outcome_bind_of_ok (Action.outcome_ofExcept _ s)] at h
                obtain ⟨sourceTime, htime, h⟩ :=
                  (ask_bind_eq_numberTooLong fun _ => timeOf_fair _).mp h
                obtain ⟨hrenders, hnumber⟩ := (emitBundle_eq_numberTooLong hheader).mp h
                rw [hheader] at hnumber
                exact ⟨b, locales, sourceTime, ⟨hread, own, hlocale, hlocales⟩, htime, hrenders,
                  hnumber⟩
  · rintro ⟨b, locales, sourceTime, ⟨hread, own, hlocale, hlocales⟩, htime, hrenders, hnumber⟩
    rw [hread, outcome_bind_of_ok (Action.outcome_ofExcept _ s)]
    simp only [hlocale, hlocales]
    rw [outcome_bind_of_ok (Action.outcome_ofExcept _ s)]
    refine (ask_bind_eq_numberTooLong fun _ => timeOf_fair _).mpr ⟨sourceTime, htime, ?_⟩
    rw [emitBundle_eq_numberTooLong hheader, hheader]
    exact ⟨hrenders, hnumber⟩

theorem processProperties_ne_numberTooLong (s : RunState) :
    (outcome (processProperties k) s).1 ≠ .error .numberTooLong := by
  intro h
  rw [processProperties_eq] at h
  cases hlocale : Locale.ofFileName k.item.name Task.propertiesSuffix with
  | none =>
      rw [hlocale] at h
      cases h
  | some locale =>
      simp only [hlocale, outcome_bind_of_ok (outcome_get s)] at h
      rcases fst_bind_eq_error.mp h with hread | ⟨b, t, -, h⟩
      · exact ofFile_ne_numberTooLong hread
      · by_cases hmanaged : k.configuration.mode.isManaged = true
        · rw [if_pos hmanaged] at h
          obtain ⟨sourceTime, -, h⟩ := (ask_bind_eq_numberTooLong fun _ => timeOf_fair _).mp h
          exact ne_numberTooLong_of_fair ((Action.isClosed_fair False).emitLocaleClass locale) t h
        · rw [if_neg hmanaged] at h
          cases h

/-- An include is given up for a number exactly if it is a bundle with a class that is rendered, and
the resources of the bundle are refused for a number. -/
theorem process_eq_numberTooLong {s : RunState} (hheader : k.header.source = k.source) :
    (outcome (process k) s).1 = .error .numberTooLong ↔ k.StopsAtNumber s := by
  rw [process_eq, Task.StopsAtNumber]
  by_cases hbundle : k.item.name.endsWith Task.bundleSuffix = true
  · rw [if_pos hbundle, processBundle_eq_numberTooLong hheader, and_iff_right hbundle]
  · rw [if_neg hbundle]
    refine iff_of_false ?_ fun h => hbundle h.1
    by_cases hproperties : k.item.name.endsWith Task.propertiesSuffix = true
    · rw [if_pos hproperties]
      exact processProperties_ne_numberTooLong s
    · rw [if_neg hproperties]
      rintro ⟨⟩

end Numbers

section EndOfRun

/-- A failure that does not concern an include alone, and where it comes from: a number, a document
in an encoding that is not known, or a path with a null character. -/
inductive EndsRun (k : Task) (s : RunState) : Failure → Prop
  | number (stops : k.StopsAtNumber s) : EndsRun k s .numberTooLong
  | encoding {p : Path} {bytes : Bytes} {encoding : Text} (read : s.tree.read p = .ok bytes)
      (unknown : Markup.Node.ofBytes bytes = .error (.unknownEncoding encoding)) :
      EndsRun k s (.bundle (.unknownEncoding encoding))
  | path {e : FileError} (null : e.path.HasNull) : EndsRun k s (.file e)

theorem endsRun_of_isFair {s : RunState} {f : Failure} (hne : f ≠ .numberTooLong)
    (h : f.IsFair True) : f.isLocal = true ∨ EndsRun k s f := by
  cases f with
  | numberTooLong => exact absurd rfl hne
  | file e => exact h.imp id .path
  | bundle e =>
      cases e with
      | unknownEncoding encoding => exact h.elim
      | _ => exact Or.inl rfl
  | _ => exact Or.inl rfl

theorem endsRun_of_ofFile {s : RunState} {p : Path} {f : Failure}
    (h : Bundle.ofFile s.tree p = .error f) : f.isLocal = true ∨ EndsRun k s f := by
  rcases Bundle.ofFile_eq_error h with
    ⟨e, hread, rfl⟩ | ⟨bytes, encoding, hread, hunknown, rfl⟩ | hlocal
  · unfold Failure.ofReading
    by_cases hsystem : e.isSystem = true
    · rw [if_pos hsystem]
      exact Or.inl rfl
    · rw [if_neg hsystem]
      exact Or.inr (.path ((read_fair p e hread).resolve_left hsystem))
  · exact Or.inr (.encoding hread hunknown)
  · exact Or.inl hlocal

theorem endsRun_of_processBundle {s s' : RunState} {f : Failure} (hne : f ≠ .numberTooLong)
    (h : outcome (processBundle k) s = (.error f, s')) : f.isLocal = true ∨ EndsRun k s f := by
  rw [processBundle_eq] at h
  rw [outcome_bind_of_ok (outcome_get s)] at h
  cases hread : Bundle.ofFile s.tree k.source with
  | error f' =>
      rw [hread] at h
      cases h
      exact endsRun_of_ofFile hread
  | ok b =>
      rw [hread, outcome_bind_of_ok (Action.outcome_ofExcept _ s)] at h
      cases hlocale : b.locale with
      | none =>
          rw [hlocale] at h
          cases h
          exact Or.inl rfl
      | some own =>
          rw [hlocale] at h
          cases hlocales : Bundle.resolveLocales own k.configuration.locales k.source with
          | error f' =>
              simp only [hlocales] at h
              cases h
              exact Or.inl (resolveLocales_isLocal hlocales)
          | ok locales =>
              simp only [hlocales] at h
              rw [outcome_bind_of_ok (Action.outcome_ofExcept _ s)] at h
              have hfair : StopsWith (Failure.IsFair True) (do
                  emitBundle k b locales (← Action.ask (·.timeOf k.source))) :=
                .bind (Action.ask_fair fun _ => timeOf_fair _) fun _ => emitBundle_fair locales
              exact endsRun_of_isFair hne (hfair s f s' h)

theorem endsRun_of_processProperties {s s' : RunState} {f : Failure} (hne : f ≠ .numberTooLong)
    (h : outcome (processProperties k) s = (.error f, s')) : f.isLocal = true ∨ EndsRun k s f := by
  rw [processProperties_eq] at h
  cases hlocale : Locale.ofFileName k.item.name Task.propertiesSuffix with
  | none =>
      rw [hlocale] at h
      cases h
      exact Or.inl rfl
  | some locale =>
      simp only [hlocale, outcome_bind_of_ok (outcome_get s)] at h
      rcases outcome_bind_eq_error.mp h with hfile | ⟨b, t, -, h⟩
      · rw [Action.outcome_ofExcept, Prod.mk.injEq] at hfile
        exact endsRun_of_ofFile hfile.1
      · by_cases hmanaged : k.configuration.mode.isManaged = true
        · rw [if_pos hmanaged] at h
          have hfair : StopsWith (Failure.IsFair True) (do
              emitLocaleClass k locale (← Action.ask (·.timeOf k.source))) :=
            .bind (Action.ask_fair fun _ => timeOf_fair _) fun _ =>
              (Action.isClosed_fair True).emitLocaleClass locale
          exact endsRun_of_isFair hne (hfair t f s' h)
        · rw [if_neg hmanaged] at h
          cases h

/-- A failure of an include concerns the include alone, or it is one of the three that end a run. -/
theorem endsRun_of_process {s s' : RunState} {f : Failure} (hheader : k.header.source = k.source)
    (h : outcome (process k) s = (.error f, s')) : f.isLocal = true ∨ EndsRun k s f := by
  by_cases hnumber : f = .numberTooLong
  · subst hnumber
    exact Or.inr (.number ((process_eq_numberTooLong hheader).mp (congrArg Prod.fst h)))
  rw [process_eq] at h
  by_cases hbundle : k.item.name.endsWith Task.bundleSuffix = true
  · rw [if_pos hbundle] at h
    exact endsRun_of_processBundle hnumber h
  · rw [if_neg hbundle] at h
    by_cases hproperties : k.item.name.endsWith Task.propertiesSuffix = true
    · rw [if_pos hproperties] at h
      exact endsRun_of_processProperties hnumber h
    · rw [if_neg hproperties] at h
      cases h
      exact Or.inl rfl

end EndOfRun

end Generation
end MessageCatalog
