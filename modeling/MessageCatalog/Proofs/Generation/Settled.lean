import MessageCatalog.Proofs.Generation.Plan

/-!
# Settled outputs

An output is settled when its files exist and it is not due. An output that has been reached is
settled, and it stays so while a run goes on, provided that the run does not write to what the
output is compared with and that none of its writes is older than that.

**Results.**
* `Task.Produces.isSettled`: an output that has been reached stays settled while the tree grows.
* `Task.Follows.isSettled`: so do all outputs of a plan.
* `KeepsSources`: what a run must leave as it was for the outputs of an include to stay settled.
* `KeepsSources.hasOldSource`: then the sources of the outputs are old enough.
-/

namespace MessageCatalog

open FileTree RunState

namespace Generation

namespace Task

/-- The files of the output exist, and it is not due. -/
def IsSettled (k : Task) (includeTime : Time) (t : FileTree) (o : Output) : Prop :=
  (∀ p ∈ k.files o, t.has p = .ok true) ∧
    ∃ sourceTime, k.SourceTime includeTime t o sourceTime ∧ ¬ k.IsDue t o sourceTime

variable {k : Task} {includeTime : Time} {o : Output} {new : List RunEvent} {s s' : RunState}
  {t u : FileTree} {writes : Path → Time → Prop}

section Now

variable {c : Configuration} {item : Include} {now now' : Time}

/-- The files of an output do not depend on when its include is processed. -/
theorem files_of_now (o : Output) :
    (Task.of c item now').files o = (Task.of c item now).files o := by
  cases o with
  | classFile locale => rfl
  | propertiesFile locale => rfl
  | nativeClass => rfl

theorem bundlePlan_of_now (locales : List Locale) :
    (Task.of c item now').bundlePlan locales = (Task.of c item now).bundlePlan locales := by
  unfold bundlePlan localePlan
  rfl

/-- When an output is settled does not depend on when its include is processed. -/
theorem IsSettled.of_now (h : (Task.of c item now).IsSettled includeTime t o) :
    (Task.of c item now').IsSettled includeTime t o := by
  cases o with
  | classFile locale => exact h
  | propertiesFile locale =>
      cases locale with
      | none => exact h
      | some locale => exact h
  | nativeClass => exact h

end Now

/-- The properties file of a locale that is maintained by hand is settled. -/
theorem isSettled_of_sameEntry {locale : Locale}
    (h : t.sameEntry (k.propertiesFile (some locale)) (k.byHandFile locale) = .ok true) :
    k.IsSettled includeTime t (.propertiesFile (some locale)) := by
  obtain ⟨hthere, hbyHand⟩ := has_of_sameEntry h
  obtain ⟨e, he⟩ := has_eq_true.mp hbyHand
  refine ⟨?_, e.time, Or.inr (timeOf_of_lookup he), fun due => due.2 (Or.inr h)⟩
  intro p hp
  rwa [List.mem_singleton.mp hp]

/-- What protects an output goes on to do so. -/
theorem IsProtected.of_grows (h : k.IsProtected t o) (hgrows : Grows writes t u) :
    k.IsProtected u o := by
  cases o with
  | classFile locale => exact hgrows.isReadOnly_of_true h
  | propertiesFile locale =>
      cases locale with
      | none => exact hgrows.isReadOnly_of_true h
      | some locale =>
          rcases h with hreadOnly | hsame
          · exact Or.inl (hgrows.isReadOnly_of_true hreadOnly)
          · exact Or.inr (hgrows.sameEntry_of_true hsame)
  | nativeClass => exact h

/-- An output that has been reached is settled in each later tree in which its source counts with no
later time than before, and with none later than that of a write. -/
theorem Produces.isSettled (h : k.Produces includeTime o new s s')
    (hforce : k.configuration.force = false) (hgrows : Grows writes s'.tree t)
    (hnew : ∀ p time, RunEvent.writesIn new p time → writes p time) {sourceTime : Time}
    (hsource : k.SourceTime includeTime t o sourceTime)
    (hwrites : ∀ p time, writes p time → sourceTime ≤ time)
    (hbefore : ∀ time, k.SourceTime includeTime s.tree o time → sourceTime ≤ time) :
    k.IsSettled includeTime t o := by
  have hcurrent : ∀ p time, s'.tree.timeOf p = .ok time → sourceTime ≤ time →
      t.IsCurrent p sourceTime := by
    intro p time htime hle
    obtain ⟨time', htime', hwhen⟩ := hgrows.timeOf_of_ok htime
    rcases hwhen with rfl | ⟨q, hq⟩
    · exact ⟨time', htime', hle⟩
    · exact ⟨time', htime', hwrites q time' hq⟩
  cases h with
  | written time source due outputs written events grows dated =>
      have hall : ∀ p ∈ k.files o, t.IsCurrent p sourceTime := by
        intro p hp
        obtain ⟨q, τ, hq, hτ⟩ := dated p hp
        exact hcurrent p τ hτ (hwrites q τ (hnew q τ hq))
      refine ⟨fun p hp => (hall p hp).has, sourceTime, hsource, fun due => ?_⟩
      rcases due.1 with hforced | ⟨p, hp, hold⟩
      · rw [hforce] at hforced
        cases hforced
      · exact (hall p hp).not_isOutdated hold
  | skipped time source idle outputs skipped events tree there =>
      rw [tree] at hgrows hcurrent
      have hthere : ∀ p ∈ k.files o, t.has p = .ok true := by
        intro p hp
        obtain ⟨e, he⟩ := has_eq_true.mp (there p hp)
        obtain ⟨time', htime', -⟩ := hgrows.timeOf_of_ok (timeOf_of_lookup he)
        exact has_of_timeOf htime'
      refine ⟨hthere, sourceTime, hsource, fun due => ?_⟩
      by_cases hprotected : k.IsProtected s.tree o
      · exact due.2 (hprotected.of_grows hgrows)
      · rcases due.1 with hforced | ⟨p, hp, hold⟩
        · rw [hforce] at hforced
          cases hforced
        · have hfresh : s.tree.IsCurrent p time := by
            refine isCurrent_of_not_isOutdated (there p hp) fun hold => ?_
            exact idle ⟨Or.inr ⟨p, hp, hold⟩, hprotected⟩
          obtain ⟨τ, hτ, hle⟩ := hfresh
          exact (hcurrent p τ hτ (Int.le_trans (hbefore time source) hle)).not_isOutdated hold

/-- The source of an output counts in the tree with no later time than in any tree on the way to it,
and with none later than that of a write. -/
def HasOldSource (k : Task) (includeTime : Time) (writes : Path → Time → Prop) (s t : FileTree)
    (o : Output) : Prop :=
  ∃ sourceTime, k.SourceTime includeTime t o sourceTime ∧
    (∀ p time, writes p time → sourceTime ≤ time) ∧
    ∀ u, Grows writes s u → Grows writes u t →
      ∀ time, k.SourceTime includeTime u o time → sourceTime ≤ time

/-- The outputs of a plan that has been gone through are settled in each later tree in which their
sources are old enough. -/
theorem Follows.isSettled {plan : List Output} (h : k.Follows includeTime plan new s s')
    (hforce : k.configuration.force = false) (hafter : Grows writes s'.tree t)
    (hnew : ∀ p time, RunEvent.writesIn new p time → writes p time)
    (hsource : ∀ o ∈ plan, k.IsSettled includeTime t o ∨
      k.HasOldSource includeTime writes s.tree t o) :
    ∀ o ∈ plan, k.IsSettled includeTime t o := by
  induction h with
  | nil same => simp
  | @cons o plan new rest s₁ s₂ s₃ first others ih =>
      have hhere : ∀ p time, RunEvent.writesIn new p time → writes p time :=
        fun p time hp => hnew p time (List.mem_append_left rest hp)
      have hthen : ∀ p time, RunEvent.writesIn rest p time → writes p time :=
        fun p time hp => hnew p time (List.mem_append_right new hp)
      have hstep := first.grows.mono hhere
      have hrest := (others.grows.mono hthen).trans hafter
      intro o' ho'
      rcases List.mem_cons.mp ho' with rfl | ho'
      · rcases hsource o' List.mem_cons_self with hsettled | ⟨time, htime, hwrites, hway⟩
        · exact hsettled
        · exact first.isSettled hforce hrest hhere htime hwrites
            (hway s₁.tree (.refl writes s₁.tree) (hstep.trans hrest))
      · refine ih hafter hthen (fun o'' ho'' => ?_) o' ho'
        rcases hsource o'' (List.mem_cons_of_mem o ho'') with
          hsettled | ⟨time, htime, hwrites, hway⟩
        · exact Or.inl hsettled
        · exact Or.inr ⟨time, htime, hwrites, fun u hu => hway u (hstep.trans hu)⟩

end Task

section Sources

/-- The path leads to nothing in either tree, or to the same entry in both. -/
def SameAt (t u : FileTree) (p : Path) : Prop :=
  t.has p = .ok false ∧ u.has p = .ok false ∨ ∃ e, t.lookup p = .ok e ∧ u.lookup p = .ok e

/-- What leads to the same in the first and in the last tree counts with no later time on the way.
-/
theorem SameAt.countsAs {s t : FileTree} {p : Path} (h : SameAt s t p)
    (writes : Path → Time → Prop) :
    ∃ sourceTime, t.CountsAs p sourceTime ∧
      ∀ u, Grows writes s u → Grows writes u t → (∀ q τ, writes q τ → sourceTime ≤ τ) →
        ∀ time, u.CountsAs p time → sourceTime ≤ time := by
  rcases h with ⟨-, habsent⟩ | ⟨e, hs, ht⟩
  · refine ⟨0, Or.inl ⟨habsent, rfl⟩, ?_⟩
    rintro u - hut - time (⟨-, rfl⟩ | htime)
    · exact Int.le_refl 0
    · obtain ⟨time', htime', -⟩ := hut.timeOf_of_ok htime
      rw [has_of_timeOf htime'] at habsent
      cases habsent
  · refine ⟨e.time, Or.inr (timeOf_of_lookup ht), ?_⟩
    intro u hsu _ hwrites time hcounts
    obtain ⟨time', htime', hwhen⟩ := hsu.timeOf_of_ok (timeOf_of_lookup hs)
    have hu : u.timeOf p = .ok time := by
      rcases hcounts with ⟨habsent, -⟩ | hu
      · rw [has_of_timeOf htime'] at habsent
        cases habsent
      · exact hu
    rw [htime', Except.ok.injEq] at hu
    subst hu
    rcases hwhen with rfl | ⟨q, hq⟩
    · exact Int.le_refl _
    · exact hwrites q time' hq

/-- A run that makes the tree `t` of the tree `s` by the given writes keeps the sources of an
include: it does not write to the bundle, it does not change what stands where a file maintained by
hand is looked for, unless that is where the properties file of the locale is written, and no write
is older than these sources. A file that is missing counts with the time zero. -/
structure KeepsSources (k : Task) (writes : Path → Time → Prop) (s t : FileTree) : Prop where
  bundle : ∀ p time, writes p time → t.locate true p ≠ t.locate true k.source
  bundleTime : ∀ sourceTime, t.timeOf k.source = .ok sourceTime →
    ∀ p time, writes p time → sourceTime ≤ time
  byHand : ∀ b locales, k.Reads t b locales → ∀ locale ∈ locales,
    t.sameEntry (k.propertiesFile (some locale)) (k.byHandFile locale) = .ok true ∨
      SameAt s t (k.byHandFile locale) ∧
        ∀ sourceTime, t.CountsAs (k.byHandFile locale) sourceTime →
          ∀ p time, writes p time → sourceTime ≤ time

/-- A bundle that is read is the content of a file. -/
theorem lookup_of_ofFile {t : FileTree} {p : Path} {b : Bundle} (h : Bundle.ofFile t p = .ok b) :
    ∃ content time writable, t.lookup p = .ok (.file content time writable) := by
  unfold Bundle.ofFile at h
  cases hread : t.read p with
  | error e =>
      rw [hread] at h
      cases h
  | ok content => exact ⟨content, read_eq_ok.mp hread⟩

theorem ofFile_of_lookup {t u : FileTree} {p : Path} (h : u.lookup p = t.lookup p) :
    Bundle.ofFile u p = Bundle.ofFile t p := by
  unfold Bundle.ofFile FileTree.read
  rw [h]

/-- The properties files in the plan of a bundle are those of its locales. -/
theorem Task.mem_locales_of_mem_bundlePlan {k : Task} {locales : List Locale} {locale : Locale}
    (h : .propertiesFile (some locale) ∈ k.bundlePlan locales) : locale ∈ locales := by
  unfold bundlePlan localePlan at h
  by_cases hmanaged : k.configuration.mode.isManaged = true
  · by_cases hnative : k.configuration.mode.isNative = true
    · simpa [hmanaged, hnative] using h
    · simpa [hmanaged, hnative] using h
  · by_cases hnative : k.configuration.mode.isNative = true
    · simpa [hmanaged, hnative] using h
    · simpa [hmanaged, hnative] using h

namespace KeepsSources

variable {k : Task} {writes : Path → Time → Prop} {s t u : FileTree} {b : Bundle}
  {locales : List Locale} {time : Time}

/-- The bundle is read again as it was. -/
theorem reads (h : KeepsSources k writes s t) (hgrows : Grows writes u t)
    (hreads : k.Reads u b locales) (htime : u.timeOf k.source = .ok time) :
    k.Reads t b locales ∧ t.timeOf k.source = .ok time := by
  obtain ⟨content, time', writable, hu⟩ := lookup_of_ofFile hreads.read
  have ht := hgrows.lookup_of_unwritten hu h.bundle
  have hsame := ht.trans hu.symm
  refine ⟨⟨(ofFile_of_lookup hsame).trans hreads.read, hreads.resolved⟩, ?_⟩
  rw [← htime]
  unfold FileTree.timeOf
  rw [hsame]

/-- The sources of all outputs of the bundle are old enough, except those of properties files that
are maintained by hand. -/
theorem hasOldSource (h : KeepsSources k writes s t) (hgrows : Grows writes s u)
    (hreads : k.Reads t b locales) (htime : t.timeOf k.source = .ok time) :
    ∀ o ∈ k.bundlePlan locales, k.IsSettled time t o ∨ k.HasOldSource time writes u t o := by
  have hwrites := h.bundleTime time htime
  intro o ho
  cases o with
  | classFile locale =>
      exact Or.inr ⟨time, rfl, hwrites, fun _ _ _ time' htime' => Int.le_of_eq htime'.symm⟩
  | propertiesFile locale =>
      cases locale with
      | none =>
          exact Or.inr ⟨time, rfl, hwrites, fun _ _ _ time' htime' => Int.le_of_eq htime'.symm⟩
      | some locale =>
          have hlocale := Task.mem_locales_of_mem_bundlePlan ho
          rcases h.byHand b locales hreads locale hlocale with hinPlace | ⟨hsame, hold⟩
          · exact Or.inl (Task.isSettled_of_sameEntry hinPlace)
          · obtain ⟨sourceTime, hcounts, hway⟩ := hsame.countsAs writes
            have hlate := hold sourceTime hcounts
            refine Or.inr ⟨sourceTime, hcounts, hlate, fun v huv hvt time' htime' => ?_⟩
            exact hway v (hgrows.trans huv) hvt hlate time' htime'
  | nativeClass =>
      exact Or.inr ⟨time, rfl, hwrites, fun _ _ _ time' htime' => Int.le_of_eq htime'.symm⟩

end KeepsSources

end Sources

end Generation
end MessageCatalog
