import MessageCatalog.Proofs.Generation.Confinement

/-!
# Files maintained by hand

The properties file of a locale is copied from the file that is maintained by hand, if there is one,
and the source directory may be the directory of the generated resources, under whatever spelling. In
a tree without links an include never touches such a file: its other outputs have other names, and
the copy is compared with the file before it is written. The comparison can be relied on because the
base properties file, which stands next to the copy, has been generated before.

**Results.**
* `KeepsByHand`: the file is as it was, and its copy, if it has been written, has the same contents.
* `emitLocaleProperties_keepsByHand`: the one output that might be the file itself.
* `processInclude_keepsByHand`: an include, failing or not, keeps the files maintained by hand.
-/

namespace MessageCatalog

open FileTree RunState

namespace RunState

/-- A file at the end of a path whose last name is avoided stays as it is. -/
theorem OnlyWrites.lookup_child {s t : RunState} {name : Text} {q : Path} {content : Bytes}
    {time : Time} {writable : Bool} (h : OnlyWrites (Avoids name) s t) (hfree : IsLinkFree s.tree)
    (hname : LeadsDown name)
    (hs : s.tree.lookup (q.child name) = .ok (.file content time writable)) :
    t.tree.lookup (q.child name) = .ok (.file content time writable) := by
  obtain ⟨place, hloc, hget⟩ := lookup_eq_ok.mp hs
  obtain ⟨dir, rfl⟩ := (hfree.unlinked place).exists_eq hname hloc
  have hunlinked : Unlinked t.tree (dir ++ [name]) :=
    (hfree.of_keeps h.grows.keeps).unlinked _
  have hsame := h.grows.keepsFile_of_avoids hunlinked fun p _ hp => hp
  exact lookup_of_get? (h.grows.locate_of_ok hloc) ((hsame content time writable).mpr hget)

end RunState

namespace Generation

variable {k : Task} {b : Bundle} {l l' : Locale} {content : Bytes} {time sourceTime : Time}
  {writable : Bool} {past : List RunEvent} {s t : RunState}

namespace Task

theorem getLast?_localeName (k : Task) (l : Locale) : (k.localeName l).getLast? = some 's' :=
  Text.getLast?_append_of_eq (Text.getLast?_append_of_eq rfl ('_' :: l.text)) k.stem

theorem leadsDown_localeName (k : Task) (l : Locale) : LeadsDown (k.localeName l) :=
  leadsDown_of_getLast? (k.getLast?_localeName l) (by decide)

theorem classFile_avoids (k : Task) (l : Locale) (locale : Option Locale) :
    Avoids (k.localeName l) (k.classFile locale) :=
  avoids_of_suffix (k.getLast?_localeName l) (k.classFile_eq locale) rfl (by decide) (by decide)

theorem nativeHeader_avoids (k : Task) (l : Locale) : Avoids (k.localeName l) k.nativeHeader :=
  avoids_of_suffix (k.getLast?_localeName l) ⟨_, _, k.nativeHeader_eq⟩ rfl (by decide) (by decide)

theorem nativeImplementation_avoids (k : Task) (l : Locale) :
    Avoids (k.localeName l) k.nativeImplementation :=
  avoids_of_suffix (k.getLast?_localeName l) ⟨_, _, k.nativeImplementation_eq⟩ rfl (by decide)
    (by decide)

theorem propertiesFile_none_avoids (k : Task) (l : Locale) :
    Avoids (k.localeName l) (k.propertiesFile none) := by
  refine ⟨_, _, k.propertiesFile_none, ?_, fun heq => ?_⟩
  · exact leadsDown_of_getLast? (Text.getLast?_append_of_eq rfl k.stem) (by decide)
  · exact absurd (List.head_eq_of_cons_eq (List.append_cancel_left heq)) (by decide)

/-- The properties file of a locale with another text. -/
theorem propertiesFile_some_avoids (k : Task) (hslash : '/' ∉ l'.text) (hne : l'.text ≠ l.text) :
    Avoids (k.localeName l) (k.propertiesFile (some l')) := by
  refine ⟨_, _, k.propertiesFile_some hslash, k.leadsDown_localeName l', fun heq => hne ?_⟩
  have hsuffix := List.append_cancel_left heq
  exact List.append_cancel_right (List.tail_eq_of_cons_eq hsuffix)

/-- The files of a locale depend on its text only. -/
theorem propertiesName_congr (className : Text) (h : l'.text = l.text) :
    ClassName.propertiesFile className (some l') = ClassName.propertiesFile className (some l) :=
  congrArg (fun text => ClassName.simple className ++ '_' :: text ++ ".properties") h

theorem propertiesFile_congr (k : Task) (h : l'.text = l.text) :
    k.propertiesFile (some l') = k.propertiesFile (some l) :=
  congrArg (k.inPackage _) (propertiesName_congr k.className h)

theorem byHandFile_congr (k : Task) (h : l'.text = l.text) : k.byHandFile l' = k.byHandFile l :=
  congrArg (k.inPackage _) (propertiesName_congr k.className h)

end Task

section Invariant

/-- The file maintained by hand is as it was when the account was `past`, and if the properties file
of the locale has been written since then, it has the same contents. -/
structure KeepsByHand (k : Task) (l : Locale) (content : Bytes) (time : Time) (writable : Bool)
    (past : List RunEvent) (s : RunState) : Prop where
  linkFree : IsLinkFree s.tree
  kept : s.tree.lookup (k.byHandFile l) = .ok (.file content time writable)
  copied : ∃ new, s.events = past ++ new ∧ ∀ τ, .written (k.propertiesFile (some l)) τ ∈ new →
    ∃ time writable, s.tree.lookup (k.propertiesFile (some l)) = .ok (.file content time writable)

/-- The path of the base properties file leads somewhere. -/
def HasBase (k : Task) (s : RunState) : Prop :=
  ∃ place, s.tree.locate true (k.propertiesFile none) = .ok place

/-- Outputs with other names keep the invariant. -/
theorem KeepsByHand.of_onlyWrites (hslash : '/' ∉ l.text)
    (h : KeepsByHand k l content time writable past s)
    (hwrites : OnlyWrites (Avoids (k.localeName l)) s t) :
    KeepsByHand k l content time writable past t where
  linkFree := h.linkFree.of_keeps hwrites.grows.keeps
  kept := by
    have hkept := h.kept
    rw [k.byHandFile_eq hslash] at hkept ⊢
    exact hwrites.lookup_child h.linkFree (k.leadsDown_localeName l) hkept
  copied := by
    obtain ⟨new, hnew, hcopied⟩ := h.copied
    obtain ⟨new', hnew', hwritten⟩ := hwrites.events
    refine ⟨new ++ new', by rw [hnew', hnew, List.append_assoc], fun τ hτ => ?_⟩
    rcases List.mem_append.mp hτ with hτ | hτ
    · obtain ⟨time', writable', hlookup⟩ := hcopied τ hτ
      refine ⟨time', writable', ?_⟩
      rw [k.propertiesFile_some hslash] at hlookup ⊢
      exact hwrites.lookup_child h.linkFree (k.leadsDown_localeName l) hlookup
    · obtain ⟨q, other, heq, -, hne⟩ := hwritten _ τ hτ
      rw [k.propertiesFile_some hslash] at heq
      exact absurd (Path.child_injective heq).symm hne

/-- What leaves the tree and the clock alone and writes nothing keeps the invariant. -/
theorem KeepsByHand.of_skips {output : Path} (h : KeepsByHand k l content time writable past s)
    (hskips : Skips output s t) : KeepsByHand k l content time writable past t where
  linkFree := by
    rw [hskips.tree]
    exact h.linkFree
  kept := by
    rw [hskips.tree]
    exact h.kept
  copied := by
    obtain ⟨new, hnew, hcopied⟩ := h.copied
    obtain ⟨reason, hevents⟩ := hskips.events
    refine ⟨new ++ [.skipped output reason], by rw [hevents, hnew, List.append_assoc], ?_⟩
    intro τ hτ
    rw [hskips.tree]
    rcases List.mem_append.mp hτ with hτ | hτ
    · exact hcopied τ hτ
    · cases List.mem_singleton.mp hτ

end Invariant

section LocaleFile

/-- Next to the base properties file, a properties file that is compared with the file maintained by
hand and is not the same will not turn out to be the same. -/
theorem locate_ne_of_sameEntry {u : FileTree} (hslash : '/' ∉ l.text)
    (hfree : IsLinkFree s.tree) (hbase : HasBase k s)
    (hkept : s.tree.lookup (k.byHandFile l) = .ok (.file content time writable))
    (hsame : s.tree.sameEntry (k.propertiesFile (some l)) (k.byHandFile l) = .ok false)
    (hkeeps : Keeps s.tree u) :
    u.locate true (k.propertiesFile (some l)) ≠ u.locate true (k.byHandFile l) := by
  intro heq
  obtain ⟨place, hloc, hget⟩ := lookup_eq_ok.mp hkept
  rw [hkeeps.locate_of_ok hloc] at heq
  obtain ⟨basePlace, hbase⟩ := hbase
  rw [k.propertiesFile_none] at hbase
  obtain ⟨dir, -, hsiblings⟩ := locate_child
    (leadsDown_of_getLast? (Text.getLast?_append_of_eq rfl k.stem) (by decide))
    (hfree.unlinked _ _ hbase)
  -- The path was not stopped by a missing name, so that it led to the file before already.
  have hne : s.tree.locate true (k.propertiesFile (some l)) ≠
      .error ⟨.notFound, k.propertiesFile (some l)⟩ := by
    rw [k.propertiesFile_some hslash]
    rcases hsiblings true _ (k.leadsDown_localeName l) (.inr fun target => hfree _ target) with
      hplace | ⟨cause, hcause, herror⟩
    · rw [show s.tree.locate true _ = _ from hplace]
      simp
    · rw [show s.tree.locate true _ = _ from herror]
      simpa using hcause
  have hsame' : s.tree.sameEntry (k.propertiesFile (some l)) (k.byHandFile l) = .ok true :=
    sameEntry_eq_true.mpr ⟨place, _, (hkeeps.locate_eq true _ hne).symm.trans heq, hloc, hget⟩
  rw [hsame] at hsame'
  cases hsame'

/-- A write of the contents of the file maintained by hand keeps the invariant. -/
theorem write_keepsByHand (h : KeepsByHand k l content time writable past s)
    (hother : ∀ u, Keeps s.tree u →
      u.locate true (k.propertiesFile (some l)) ≠ u.locate true (k.byHandFile l)) :
    KeepsByHand k l content time writable past
      (outcome (Action.write (k.propertiesFile (some l)) content) s).2 := by
  obtain ⟨new, hnew, hcopied⟩ := h.copied
  rcases Action.outcome_write_cases (k.propertiesFile (some l)) content s with
    ⟨τ, t, hwrite, hcompletes⟩ | ⟨e, t, hwrite, -, hbreaks⟩
  · rw [hwrite]
    have hevents : t.events = past ++ (new ++ [.written (k.propertiesFile (some l)) τ]) := by
      rw [hcompletes.events, hnew, List.append_assoc]
    refine ⟨h.linkFree.of_keeps hcompletes.grows.keeps, ?_, _, hevents,
      fun _ _ => ⟨_, true, hcompletes.file⟩⟩
    refine hcompletes.grows.lookup_of_unwritten h.kept ?_
    rintro q time' ⟨rfl, -⟩
    exact hother t.tree hcompletes.grows.keeps
  · rw [hwrite]
    obtain ⟨τ, hgrows⟩ := hbreaks.grows
    have hsame {p : Path} {time' : Time} {writable' : Bool}
        (hp : s.tree.lookup p = .ok (.file content time' writable')) :
        t.tree.lookup p = .ok (.file content time' writable') := by
      obtain ⟨place, hloc, hget⟩ := lookup_eq_ok.mp hp
      exact lookup_of_get? (hgrows.locate_of_ok hloc) ((hbreaks.files place _ _ _).mpr hget)
    refine ⟨h.linkFree.of_keeps hgrows.keeps, hsame h.kept, new, ?_, fun τ hτ => ?_⟩
    · rw [hbreaks.events, hnew]
    · obtain ⟨time', writable', hlookup⟩ := hcopied τ hτ
      exact ⟨time', writable', hsame hlookup⟩

/-- What becomes of an output by the decision on it, whether this succeeds or fails. -/
theorem outcome_writeIfStale (output : Path) (decision : Decision) (bytes : Action Bytes)
    (s : RunState) :
    (∃ e, outcome (writeIfStale output decision bytes) s = (.error (.file e), s)) ∨
      (∃ t, Skips output s t ∧ outcome (writeIfStale output decision bytes) s = (.ok ⟨⟩, t)) ∨
      decision.isCurrent = false ∧ outcome (writeIfStale output decision bytes) s =
        outcome (bytes >>= Action.write output) s := by
  unfold writeIfStale
  by_cases hcurrent : decision.isCurrent = true
  · rw [if_pos hcurrent]
    exact .inr (.inl ⟨_, Action.skip_eq_ok rfl, rfl⟩)
  · rw [if_neg hcurrent]
    rcases Action.outcome_ask_bind _ _ s with ⟨e, hrefused⟩ | ⟨readOnly, -, hgoes⟩
    · exact .inl ⟨e, hrefused⟩
    · rw [hgoes]
      by_cases hreadOnly : readOnly = true
      · rw [if_pos hreadOnly]
        exact .inr (.inl ⟨_, Action.skip_eq_ok rfl, rfl⟩)
      · rw [if_neg hreadOnly]
        exact .inr (.inr ⟨Bool.eq_false_iff.mpr hcurrent, rfl⟩)

/-- The contents of a file maintained by hand that is there. -/
theorem outcome_byHandContent {α : Type} {p : Path} {f : Bytes → Action α} (otherwise : Action Bytes)
    (h : s.tree.lookup p = .ok (.file content time writable)) :
    outcome ((do if ← Action.ask (·.has p) then Action.ask (·.read p) else otherwise) >>= f) s =
      outcome (f content) s := by
  have hhas : outcome (Action.ask (·.has p)) s = (.ok true, s) := by
    rw [Action.outcome_ask, has_of_lookup h]
    rfl
  have hread : outcome (Action.ask (·.read p)) s = (.ok content, s) := by
    rw [Action.outcome_ask, read_eq_ok.mpr ⟨time, writable, h⟩]
    rfl
  rw [bind_assoc, outcome_bind_of_ok hhas, if_pos rfl, outcome_bind_of_ok hread]

/-- The one output that might be the file maintained by hand keeps the invariant all the same. -/
theorem emitLocaleProperties_keepsByHand (hslash : '/' ∉ l.text) (hbase : HasBase k s)
    (htext : l'.text = l.text) (h : KeepsByHand k l content time writable past s) :
    KeepsByHand k l content time writable past (outcome (emitLocaleProperties k l') s).2 := by
  rw [emitLocaleProperties_eq, writeLocaleFile]
  simp only [k.propertiesFile_congr htext, k.byHandFile_congr htext]
  rcases Action.outcome_ask_bind _ _ s with ⟨e, hrefused⟩ | ⟨sourceTime, -, hgoes⟩
  · rw [hrefused]
    exact h
  rw [hgoes]
  rcases Action.outcome_ask_bind _ _ s with ⟨e, hrefused⟩ | ⟨decision, hdecision, hgoes⟩
  · rw [hrefused]
    exact h
  rw [hgoes]
  rcases outcome_writeIfStale _ _ _ s with ⟨e, hrefused⟩ | ⟨t, hskips, hskipped⟩ | ⟨hstale, hwrites⟩
  · rw [hrefused]
    exact h
  · rw [hskipped]
    exact h.of_skips hskips
  · rw [hwrites, outcome_byHandContent _ h.kept]
    rcases Decision.ofLocaleFile_eq_ok hdecision with ⟨hcurrent, -⟩ | ⟨hsame, -⟩
    · rw [hstale] at hcurrent
      cases hcurrent
    · exact write_keepsByHand h fun u =>
        locate_ne_of_sameEntry hslash h.linkFree hbase h.kept hsame

end LocaleFile

section Includes

/-- What a bundle gives itself includes the base properties file. -/
theorem hasBase_of_emitBase (h : outcome (emitBase k b sourceTime) s = (.ok ⟨⟩, t)) :
    HasBase k t := by
  obtain ⟨new, hfollows⟩ := gives_emitBase b s t h
  have hplan : Output.propertiesFile none ∈ k.localePlan none := by
    unfold Task.localePlan
    by_cases hmanaged : k.configuration.mode.isManaged = true
    · rw [if_pos hmanaged]
      exact List.mem_cons_of_mem _ List.mem_cons_self
    · rw [if_neg hmanaged]
      exact List.mem_cons_self
  obtain ⟨e, he⟩ := has_eq_true.mp (hfollows.has hplan List.mem_cons_self)
  obtain ⟨place, hplace, -⟩ := lookup_eq_ok.mp he
  exact ⟨place, hplace⟩

theorem HasBase.of_keeps (h : HasBase k s) (hkeeps : Keeps s.tree t.tree) : HasBase k t := by
  obtain ⟨place, hplace⟩ := h
  exact ⟨place, hkeeps.locate_of_ok hplace⟩

/-- What a locale gives keeps the invariant, and the base properties file with it. -/
theorem emitLocale_keepsByHand (sourceTime : Time) (hslash : '/' ∉ l.text) (hslash' : '/' ∉ l'.text) :
    Leads (fun s t => KeepsByHand k l content time writable past s ∧ HasBase k s →
      KeepsByHand k l content time writable past t ∧ HasBase k t)
      (emitLocale k sourceTime l') := by
  rintro s ⟨h, hbase⟩
  have hgrows : OnlyWrites (fun _ => True) s (outcome (emitLocale k sourceTime l') s).2 :=
    emitLocale_onlyWrites trivial trivial s
  refine ⟨?_, hbase.of_keeps hgrows.grows.keeps⟩
  by_cases htext : l'.text = l.text
  · rw [emitLocale_eq]
    by_cases hmanaged : k.configuration.mode.isManaged = true
    · rw [if_pos hmanaged, outcome_bind]
      have hclass : OnlyWrites (Avoids (k.localeName l)) s
          (outcome (emitLocaleClass k l' sourceTime) s).2 :=
        emitLocaleClass_onlyWrites (k.classFile_avoids l _) s
      rcases houtcome : outcome (emitLocaleClass k l' sourceTime) s with ⟨e | ⟨⟩, t⟩
      · rw [houtcome] at hclass
        exact h.of_onlyWrites hslash hclass
      · rw [houtcome] at hclass
        exact emitLocaleProperties_keepsByHand hslash (hbase.of_keeps hclass.grows.keeps) htext
          (h.of_onlyWrites hslash hclass)
    · rw [if_neg hmanaged]
      exact emitLocaleProperties_keepsByHand hslash hbase htext h
  · exact h.of_onlyWrites hslash (emitLocale_onlyWrites (k.classFile_avoids l _)
      (k.propertiesFile_some_avoids hslash' htext) s)

theorem emitBundle_keepsByHand {locales : List Locale} (hslash : '/' ∉ l.text)
    (hslashes : ∀ l' ∈ locales, '/' ∉ l'.text) (h : KeepsByHand k l content time writable past s) :
    KeepsByHand k l content time writable past (outcome (emitBundle k b locales sourceTime) s).2 := by
  have hwrites : OnlyWrites (Avoids (k.localeName l)) s (outcome (emitBase k b sourceTime) s).2 :=
    emitBase_onlyWrites (k.classFile_avoids l none) (k.propertiesFile_none_avoids l) s
  rw [emitBundle_eq]
  rw [forIn_eq_forM, outcome_bind]
  rcases hbase : outcome (emitBase k b sourceTime) s with ⟨e | ⟨⟩, t⟩
  · rw [hbase] at hwrites
    exact h.of_onlyWrites hslash hwrites
  rw [hbase] at hwrites
  have hlocales := Leads.forM (R := fun s t =>
      KeepsByHand k l content time writable past s ∧ HasBase k s →
        KeepsByHand k l content time writable past t ∧ HasBase k t)
    (fun _ => id) (fun h h' => h' ∘ h)
    (fun l' hl' => emitLocale_keepsByHand sourceTime hslash (hslashes l' hl'))
    t ⟨h.of_onlyWrites hslash hwrites, hasBase_of_emitBase hbase⟩
  dsimp only
  rw [outcome_bind]
  rcases hrest : outcome (forM locales (emitLocale k sourceTime)) t with ⟨e | ⟨⟩, u⟩
  · rw [hrest] at hlocales
    exact hlocales.1
  · rw [hrest] at hlocales
    dsimp only
    by_cases hnative : k.configuration.mode.isNative = true
    · rw [if_pos hnative]
      exact hlocales.1.of_onlyWrites hslash
        (emitNative_onlyWrites (k.nativeHeader_avoids l) (k.nativeImplementation_avoids l) u)
    · rw [if_neg hnative]
      exact hlocales.1

theorem Task.Reads.locales_eq {tree : FileTree} {b' : Bundle} {locales locales' : List Locale}
    (h : k.Reads tree b locales) (h' : k.Reads tree b' locales') : locales = locales' := by
  have hb : b = b' := Except.ok.inj (h.read.symm.trans h'.read)
  subst hb
  obtain ⟨own, hown, hlocales⟩ := h.resolved
  obtain ⟨own', hown', hlocales'⟩ := h'.resolved
  rw [hown, Option.some.injEq] at hown'
  subst hown'
  exact Except.ok.inj (hlocales.symm.trans hlocales')

theorem process_keepsByHand {locales : List Locale} (hreads : k.Reads s.tree b locales)
    (hslashes : ∀ l' ∈ locales, '/' ∉ l'.text) (hslash : '/' ∉ l.text)
    (h : KeepsByHand k l content time writable past s) :
    KeepsByHand k l content time writable past (outcome (process k) s).2 := by
  have hproceeds := process_proceeds k s
  generalize outcome (process k) s = result at hproceeds
  cases hproceeds with
  | refused failure => exact h
  | idle => exact h
  | bundle _ hreads' time =>
      rw [hreads.locales_eq hreads'] at hslashes
      exact emitBundle_keepsByHand hslash hslashes h
  | properties locale time =>
      exact h.of_onlyWrites hslash (emitLocaleClass_onlyWrites (k.classFile_avoids l _) s)

/-- An include, whether it fails or not, keeps the files that are maintained by hand for its
locales, and a properties file that it writes where there is such a file has the same contents. -/
theorem processInclude_keepsByHand {c : Configuration} {item : Include} {s : RunState}
    {k : Task} (hk : k = .of c item (s.clock s.ticks).wall) {b : Bundle} {locales : List Locale}
    (hreads : k.Reads s.tree b locales) (hfree : IsLinkFree s.tree)
    (hslashes : ∀ l ∈ locales, '/' ∉ l.text) {l : Locale} (hl : l ∈ locales)
    {content : Bytes} {time : Time} {writable : Bool}
    (hfile : s.tree.lookup (k.byHandFile l) = .ok (.file content time writable)) :
    (outcome (processInclude c item) s).2.tree.lookup (k.byHandFile l) =
        .ok (.file content time writable) ∧
      ∃ new, (outcome (processInclude c item) s).2.events = s.events ++ new ∧
        ∀ τ, .written (k.propertiesFile (some l)) τ ∈ new →
          (outcome (processInclude c item) s).2.tree.read (k.propertiesFile (some l)) =
            .ok content := by
  subst hk
  have hstart : KeepsByHand (.of c item (s.clock s.ticks).wall) l content time writable s.events
      (ticked s) :=
    ⟨hfree, hfile, [], (List.append_nil _).symm, fun _ hτ => by cases hτ⟩
  have hend := process_keepsByHand (s := ticked s) hreads hslashes (hslashes l hl) hstart
  obtain ⟨htree, hevents, -⟩ := processInclude_of_process c item s
  obtain ⟨new, hnew, hcopied⟩ := hend.copied
  rw [htree, hevents]
  refine ⟨hend.kept, new, hnew, fun τ hτ => ?_⟩
  exact read_eq_ok.mpr (hcopied τ hτ)

end Includes

section Sample

/-- A tree with a file that is maintained by hand for the locale of the bundle. -/
def maintainedTree : FileTree :=
  sampleTree
    [(["s".toList, "N.xml".toList], .file sampleDocument 100 true),
      (["s".toList, "N_en.properties".toList], .file (Text.utf8 "a=b") 2000 true)]

/-- The state in which its include is processed. -/
def maintainedState : RunState :=
  start maintainedTree ⟨[]⟩ fun _ => ⟨3000, 3000⟩

/-- The task of the include. -/
def maintainedTask : Task :=
  .of (sampleConfiguration none [.ofName "N.xml"]) (.ofName "N.xml") 3000

/-- The file for the locale is kept, and it is copied. -/
theorem maintainedTree_keepsByHand :
    maintainedTree.lookup (maintainedTask.byHandFile english) =
        .ok (.file (Text.utf8 "a=b") 2000 true) ∧
      (outcome (processInclude maintainedTask.configuration maintainedTask.item)
        maintainedState).2.tree.lookup (maintainedTask.byHandFile english) =
          .ok (.file (Text.utf8 "a=b") 2000 true) ∧
      (outcome (processInclude maintainedTask.configuration maintainedTask.item)
        maintainedState).2.tree.read (maintainedTask.propertiesFile (some english)) =
          .ok (Text.utf8 "a=b") := by
  have htask : maintainedTask = .of maintainedTask.configuration maintainedTask.item
      (maintainedState.clock maintainedState.ticks).wall := rfl
  have hkept : maintainedTree.lookup (maintainedTask.byHandFile english) =
      .ok (.file (Text.utf8 "a=b") 2000 true) := by decide +kernel
  have hreads : maintainedTask.Reads maintainedState.tree sampleBundle [english] :=
    ⟨by decide +kernel, english, rfl, by decide +kernel⟩
  have hwritten : ∃ τ, .written (maintainedTask.propertiesFile (some english)) τ ∈
      (outcome (processInclude maintainedTask.configuration maintainedTask.item)
        maintainedState).2.events := ⟨3000, by decide +kernel⟩
  have hfree : IsLinkFree maintainedTree := isLinkFree_of_entries (by decide)
  obtain ⟨hfile, new, hnew, hcopied⟩ :=
    processInclude_keepsByHand htask hreads hfree (by decide) List.mem_cons_self hkept
  obtain ⟨τ, hτ⟩ := hwritten
  rw [hnew] at hτ
  exact ⟨hkept, hfile, hcopied τ hτ⟩

end Sample

end Generation
end MessageCatalog
