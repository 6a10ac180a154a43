import MessageCatalog.Proofs.FileTree.Refusal
import MessageCatalog.Proofs.Generation.Action

/-!
# What holds of everything that is generated

Whatever is generated of a bundle is made of a few steps: questions to the file tree, renderings,
and outputs that are left alone or written. A property of actions that these steps have and that
sequences pass on is one of everything that is generated.

**Results.**
* `Action.IsClosed`: such a property.
* `Action.IsClosed.emitLocale`: it holds of what a locale gives, which is made without a rendering.
* `Action.IsClosed.emitBundle`: it holds of what a bundle gives, if it holds of the renderings.
-/

namespace MessageCatalog

open FileTree Generation

/-- A property of actions that sequences pass on, and that results, questions and outputs that are
left alone or written have. -/
structure Action.IsClosed (P : ∀ {α : Type}, Action α → Prop) : Prop where
  pure : ∀ {α : Type} (a : α), P (Pure.pure a : Action α)
  bind : ∀ {α β : Type} {x : Action α} {f : α → Action β}, P x → (∀ a, P (f a)) → P (x >>= f)
  ask : ∀ {α : Type} {question : FileTree → Except FileError α},
    (∀ t, Fair (question t)) → P (Action.ask question)
  skip : ∀ output reason, P (Action.skip output reason)
  write : ∀ output content, P (Action.write output content)

namespace Action.IsClosed

variable {P : ∀ {α : Type}, Action α → Prop} {k : Task} {b : Bundle} {sourceTime : Time}

theorem forM (h : IsClosed P) {α : Type} {f : α → Action Unit} (hf : ∀ a, P (f a)) (as : List α) :
    P (ForM.forM as f) := by
  induction as with
  | nil => exact h.pure _
  | cons a as ih =>
      rw [List.forM_cons]
      exact h.bind (hf a) fun _ => ih

theorem writeIfStale (h : IsClosed P) (output : Path) (decision : Decision)
    {content : Action Bytes} (hcontent : P content) :
    P (Generation.writeIfStale output decision content) := by
  unfold Generation.writeIfStale
  by_cases hcurrent : decision.isCurrent = true
  · rw [if_pos hcurrent]
    exact h.skip _ _
  · rw [if_neg hcurrent]
    refine h.bind (h.ask fun _ => isReadOnly_fair output) fun readOnly => ?_
    cases readOnly with
    | true => exact h.skip _ _
    | false => exact h.bind hcontent fun bytes => h.write output bytes

theorem emit (h : IsClosed P) (output : Path) {rendering : Rendering Text}
    (hrendering : P (Action.render rendering)) :
    P (Generation.emit k output sourceTime rendering) := by
  rw [Generation.emit_eq, Generation.writeRendered]
  exact h.bind (h.ask fun _ => Decision.ofOutput_fair output) fun decision =>
    h.writeIfStale output decision (h.bind hrendering fun _ => h.pure _)

theorem emitLocaleClass (h : IsClosed P) (locale : Locale) :
    P (Generation.emitLocaleClass k locale sourceTime) := by
  rw [Generation.emitLocaleClass_eq]
  exact h.emit _ (h.pure (Managed.localeClassText k.className locale k.header))

theorem emitLocaleProperties (h : IsClosed P) (locale : Locale) :
    P (Generation.emitLocaleProperties k locale) := by
  rw [Generation.emitLocaleProperties_eq, Generation.writeLocaleFile]
  refine h.bind (h.ask fun _ => ?_) fun time =>
    h.bind (h.ask fun _ => Decision.ofLocaleFile_fair _ _) fun decision =>
      h.writeIfStale _ decision (h.bind (h.ask fun _ => has_fair _) fun there => ?_)
  · refine .bind (has_fair _) fun there => ?_
    cases there with
    | true => exact timeOf_fair _
    | false => exact .ok 0
  · by_cases hthere : there = true
    · rw [if_pos hthere]
      exact h.ask fun _ => read_fair (k.byHandFile locale)
    · rw [if_neg hthere]
      exact h.pure _

/-- What a locale gives is made of no text of the bundle. -/
theorem emitLocale (h : IsClosed P) (locale : Locale) :
    P (Generation.emitLocale k sourceTime locale) := by
  rw [Generation.emitLocale_eq]
  by_cases hmanaged : k.configuration.mode.isManaged = true
  · rw [if_pos hmanaged]
    exact h.bind (h.emitLocaleClass locale) fun _ => h.emitLocaleProperties locale
  · rw [if_neg hmanaged]
    exact h.emitLocaleProperties locale

theorem emitBase (h : IsClosed P)
    (hclass : P (Action.render (Managed.render k.configuration.style b k.className k.header
      (some k.item.baseClass))))
    (hproperties : P (Action.render (Properties.render b k.className k.header))) :
    P (Generation.emitBase k b sourceTime) := by
  rw [Generation.emitBase_eq]
  by_cases hmanaged : k.configuration.mode.isManaged = true
  · rw [if_pos hmanaged]
    exact h.bind (h.emit _ hclass) fun _ => h.emit _ hproperties
  · rw [if_neg hmanaged]
    exact h.emit _ hproperties

theorem emitNative (h : IsClosed P)
    (hvalid : P (Action.ofExcept ((Native.validate b k.source).mapError .generation)))
    (hclass : ∀ text : Native.Class → Text, P (Action.render do
      return text (← Native.classOf b k.nativeClass k.header k.item.nativeBaseClass))) :
    P (Generation.emitNative k b sourceTime) := by
  rw [Generation.emitNative_eq, Generation.writePair]
  refine h.bind hvalid fun _ => h.bind (h.ask fun _ => Decision.ofOutputs_fair _) fun decision => ?_
  by_cases hcurrent : decision.isCurrent = true
  · rw [if_pos hcurrent, forIn_eq_forM]
    exact h.bind (h.forM (fun output => h.skip output _) _) fun _ => h.pure _
  · rw [if_neg hcurrent]
    exact h.bind (hclass _) fun _ => h.bind (hclass _) fun _ =>
      h.bind (h.write _ _) fun _ => h.write _ _

/-- What a bundle gives is made of what its classes and its base properties file are, and of what
its locales give. -/
theorem emitBundle (h : IsClosed P) (locales : List Locale)
    (hbase : P (Generation.emitBase k b sourceTime))
    (hnative : P (Generation.emitNative k b sourceTime)) :
    P (Generation.emitBundle k b locales sourceTime) := by
  rw [Generation.emitBundle_eq]
  rw [forIn_eq_forM]
  refine h.bind hbase fun _ => h.bind (h.forM (fun locale => h.emitLocale locale) _) fun _ => ?_
  by_cases hmode : k.configuration.mode.isNative = true
  · rw [if_pos hmode]
    exact hnative
  · rw [if_neg hmode]
    exact h.pure _

end Action.IsClosed

end MessageCatalog
