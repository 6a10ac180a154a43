import MessageCatalog.Proofs.ClassName.Directory
import MessageCatalog.Proofs.Generation.Confinement
import MessageCatalog.Proofs.Generation.Isolation

/-!
# Where outputs stand

The outputs of an include stand below the two output directories: the name of its file becomes a
class name without slashes, whose package is a path of plain names, and the files of the class are
single names. Only a locale may bring slashes with it. Its language and its variant are free text,
and the parts between two slashes of an identifier are directories, of which one may lead up.

**Results.**
* `Path.resolved`, `Path.LiesUnder`: paths by what is left of them once every `..` is resolved.
* `Path.liesUnder_spelled`: a file in a directory below a root lies under the root, unless a part of
  its spelling leads up.
* `Task.liesUnder_classFile`, `Task.liesUnder_propertiesFile`: the outputs for locales that do not
  lead up.
* `run_stays_under`: a run writes below the two directories only, apart from outputs for locales
  that lead up.
-/

namespace MessageCatalog

namespace Path

/-- The name by which a path leads up. -/
def up : Text :=
  ['.', '.']

/-- Goes on by one name from names in which every `..` is resolved. Above the root there is nothing,
and above a relative path there are further directories. -/
def resolveName (start : Start) (names : List Text) (name : Text) : List Text :=
  if name ≠ up then names ++ [name]
  else
    match names.getLast? with
    | none => if start = .here then [up] else []
    | some last => if last = up then names ++ [up] else names.dropLast

/-- The path with every `..` resolved, as far as it can be without looking at a file tree. -/
def resolved (p : Path) : Path :=
  { p with names := p.names.foldl (resolveName p.start) [] }

/-- The path is that of the root and further names, none of which leads up, once both are
resolved. -/
def LiesUnder (p root : Path) : Prop :=
  p.start = root.start ∧ root.resolved.names <+: p.resolved.names ∧
    p.resolved.names.drop root.resolved.names.length ≠ [] ∧
    up ∉ p.resolved.names.drop root.resolved.names.length

instance (p root : Path) : Decidable (p.LiesUnder root) :=
  inferInstanceAs (Decidable (_ ∧ _))

/-- The path goes on from the root by names that do not lead up. -/
def Below (root p : Path) : Prop :=
  ∃ names, up ∉ names ∧ p = { root with names := root.names ++ names }

variable {root p q : Path}

theorem foldl_resolveName {start : Start} {names : List Text} (h : up ∉ names)
    (before : List Text) : names.foldl (resolveName start) before = before ++ names := by
  induction names generalizing before with
  | nil => exact (List.append_nil _).symm
  | cons name names ih =>
      rw [List.mem_cons, not_or] at h
      rw [List.foldl_cons, resolveName, if_pos (Ne.symm h.1), ih h.2, List.append_assoc]
      rfl

theorem liesUnder_of_names {names : List Text} (hne : names ≠ []) (h : up ∉ names) :
    LiesUnder { root with names := root.names ++ names } root := by
  have hresolved : (resolved { root with names := root.names ++ names }).names =
      root.resolved.names ++ names := by
    unfold resolved
    rw [List.foldl_append, foldl_resolveName h]
  refine ⟨rfl, ?_⟩
  rw [hresolved, List.drop_left]
  exact ⟨List.prefix_append _ _, hne, h⟩

theorem Below.refl (root : Path) : Below root root :=
  ⟨[], List.not_mem_nil, by rw [List.append_nil]⟩

theorem Below.div (h : Below root p) (hstart : q.start = .here) (hnames : up ∉ q.names) :
    Below root (p / q) := by
  obtain ⟨names, hup, rfl⟩ := h
  refine ⟨names ++ q.names, fun hmem => (List.mem_append.mp hmem).elim hup hnames, ?_⟩
  show append _ q = _
  unfold append
  rw [hstart]
  exact congrArg _ (List.append_assoc _ _ _)

theorem Below.liesUnder_child (h : Below root p) {name : Text} (hname : name ≠ up) :
    (p.child name).LiesUnder root := by
  obtain ⟨names, hup, rfl⟩ := h
  have hchild : up ∉ names ++ [name] := fun hmem =>
    (List.mem_append.mp hmem).elim hup fun hlast => hname (List.mem_singleton.mp hlast).symm
  rw [child]
  dsimp only
  rw [List.append_assoc]
  exact liesUnder_of_names (by simp) hchild

/-- A file in a directory below a root lies under the root, unless a part of its spelling in front
of the last slash leads up. -/
theorem liesUnder_spelled (h : Below root p) {t suffix : Text} {c : Char}
    (hstart : t.head? ≠ some '/') (hparts : up ∉ (t.splitOn '/').dropLast) (hslash : '/' ∉ suffix)
    (hlength : 2 ≤ suffix.length) (hlast : suffix.getLast? = some c) (hdot : c ≠ '.') :
    (p / ofText (t ++ suffix)).LiesUnder root := by
  rw [ofText_append t hslash hlength, div_child]
  refine (h.div (start_ofText hstart) ?_).liesUnder_child ?_
  · exact fun hmem => hparts (List.mem_filter.mp hmem).1
  · exact FileTree.leadsDown_of_getLast? (Text.getLast?_append_of_eq hlast _) hdot

end Path

namespace ClassName

open MessageCatalog.Path

variable {className : Text}

theorem slash_not_mem_simple (h : '/' ∉ className) : '/' ∉ simple className := by
  unfold simple
  split
  next before name hcut => exact fun hmem => h ((Text.subset_of_cutLast hcut).2 hmem)
  next => exact h

theorem up_not_mem_directoryNames (className : Text) : up ∉ directoryNames className := by
  intro hmem
  have hpart := (List.dropLast_sublist _).subset (List.mem_filter.mp hmem).1
  exact (Text.mem_of_mem_splitOn hpart (d := '.') List.mem_cons_self).2 rfl

theorem below_directory (root : Path) (h : '/' ∉ className) :
    Below root (directory root className) := by
  rw [directory_eq root h, foldl_child]
  exact ⟨_, up_not_mem_directoryNames className, rfl⟩

end ClassName

namespace Locale

open MessageCatalog.Path

/-- A part of the identifier between two slashes leads up. -/
def LeadsUp (l : Locale) : Prop :=
  up ∈ (l.text.splitOn '/').tail.dropLast

instance : DecidablePred LeadsUp :=
  fun l => inferInstanceAs (Decidable (up ∈ (l.text.splitOn '/').tail.dropLast))

variable {l : Locale}

theorem not_leadsUp_of_slash (h : '/' ∉ l.text) : ¬ l.LeadsUp := by
  unfold LeadsUp
  rw [Text.splitOn_of_not_mem h]
  exact List.not_mem_nil

/-- A locale has no slash that its identifier does not have. -/
theorem slash_not_mem_of_parse {identifier : Text} (h : parse identifier = .ok l)
    (hslash : '/' ∉ identifier) : '/' ∉ l.text := by
  rcases (spells_of_parse h).text_eq with htext | ⟨hvariant, -, hcountry, rfl⟩
  · rwa [htext]
  · rw [text_of_variant_nil hcountry.ne_nil hvariant]
    rw [openIdentifier, List.mem_append, List.mem_cons, List.mem_append] at hslash
    rw [List.mem_append, List.mem_cons]
    exact fun hmem => hslash (hmem.imp_right (Or.imp_right Or.inl))

theorem slash_not_mem_of_ofFileName {path suffix : Text} (h : ofFileName path suffix = some l) :
    '/' ∉ l.text := by
  obtain ⟨before, identifier, hname, -, -, hparse⟩ := ofFileName_eq_some_iff.mp h
  refine slash_not_mem_of_parse hparse fun hmem => ?_
  have hslash : '/' ∈ (path.withoutEnding suffix).namePart := by
    rw [hname]
    exact List.mem_append_right _ (List.mem_cons_of_mem _ hmem)
  exact absurd (Text.isSlash_of_mem_namePart hslash) (by decide)

end Locale

namespace Generation

open FileTree MessageCatalog.Path RunState MessageCatalog.Action

namespace Task

variable {k : Task} {root : Path}

/-- The name of the class without its package does not begin with a slash, with a locale or
without. -/
theorem head?_simpleLocalized (h : '/' ∉ k.className) (locale : Option Locale) :
    (ClassName.simpleLocalized k.className locale).head? ≠ some '/' := by
  have hsimple := ClassName.slash_not_mem_simple h
  unfold ClassName.simpleLocalized
  generalize ClassName.simple k.className = name at hsimple
  have hname : name.head? ≠ some '/' := fun hhead => hsimple (List.mem_of_mem_head? hhead)
  cases locale with
  | none => exact hname
  | some l =>
      cases name with
      | nil => simp [ClassName.localized]
      | cons c name => exact hname

theorem up_not_mem_simpleLocalized (h : '/' ∉ k.className) {locale : Option Locale}
    (hlocale : ∀ l ∈ locale, ¬ l.LeadsUp) :
    up ∉ ((ClassName.simpleLocalized k.className locale).splitOn '/').dropLast := by
  have hsimple := ClassName.slash_not_mem_simple h
  unfold ClassName.simpleLocalized
  generalize ClassName.simple k.className = name at hsimple
  cases locale with
  | none =>
      rw [ClassName.localized, Text.splitOn_of_not_mem hsimple]
      exact List.not_mem_nil
  | some l =>
      -- the first part of the identifier goes on from the class name, and the last one is the file
      have hleads := hlocale l rfl
      obtain ⟨part, parts, hparts⟩ := Text.exists_splitOn_eq_cons '/' l.text
      unfold Locale.LeadsUp at hleads
      rw [hparts, List.tail_cons] at hleads
      have hlow : '/' ∉ name ++ ['_'] := by simp [hsimple]
      have hsplit := Text.splitOn_append_left hlow hparts
      rw [List.append_assoc] at hsplit
      rw [ClassName.localized]
      change up ∉ ((name ++ (['_'] ++ l.text)).splitOn '/').dropLast
      rw [hsplit]
      cases parts with
      | nil => exact List.not_mem_nil
      | cons next parts =>
          rw [List.dropLast_cons_cons]
          intro hmem
          rcases List.mem_cons.mp hmem with hfirst | hmem
          · have hlow : '_' ∈ up := by
              rw [hfirst]
              simp
            revert hlow
            decide
          · exact hleads hmem

/-- A file of the package lies under the root, unless its locale leads up. -/
theorem liesUnder_inPackage (h : '/' ∉ k.className) {locale : Option Locale}
    (hlocale : ∀ l ∈ locale, ¬ l.LeadsUp) (suffix : Text) {c : Char} (hslash : '/' ∉ suffix)
    (hlength : 2 ≤ suffix.length) (hlast : suffix.getLast? = some c) (hdot : c ≠ '.') :
    (k.inPackage root (ClassName.simpleLocalized k.className locale ++ suffix)).LiesUnder root :=
  liesUnder_spelled (ClassName.below_directory root h) (head?_simpleLocalized h locale)
    (up_not_mem_simpleLocalized h hlocale) hslash hlength hlast hdot

theorem liesUnder_classFile (h : '/' ∉ k.className) {locale : Option Locale}
    (hlocale : ∀ l ∈ locale, ¬ l.LeadsUp) :
    (k.classFile locale).LiesUnder k.configuration.destination :=
  liesUnder_inPackage h hlocale ".java" (c := 'a') (by decide) (by decide) rfl (by decide)

theorem liesUnder_propertiesFile (h : '/' ∉ k.className) {locale : Option Locale}
    (hlocale : ∀ l ∈ locale, ¬ l.LeadsUp) :
    (k.propertiesFile locale).LiesUnder k.configuration.resources :=
  liesUnder_inPackage h hlocale ".properties" (c := 's') (by decide) (by decide) rfl (by decide)

theorem liesUnder_native (h : '/' ∉ k.nativeClass) :
    k.nativeHeader.LiesUnder k.configuration.destination ∧
      k.nativeImplementation.LiesUnder k.configuration.destination := by
  have hstart : k.nativeClass.head? ≠ some '/' := fun hhead => h (List.mem_of_mem_head? hhead)
  have hparts : up ∉ (k.nativeClass.splitOn '/').dropLast := by
    rw [Text.splitOn_of_not_mem h]
    exact List.not_mem_nil
  have hbelow := Below.refl k.configuration.destination
  exact ⟨liesUnder_spelled hbelow hstart hparts (c := 'h') (by decide) (by decide) rfl (by decide),
    liesUnder_spelled hbelow hstart hparts (c := 'p') (by decide) (by decide) rfl (by decide)⟩

/-- The path is an output of the include for one of the locales of its bundle, which leads up. -/
def IsForLocaleUp (k : Task) (t : FileTree) (p : Path) : Prop :=
  ∃ b locales, k.Reads t b locales ∧ ∃ locale ∈ locales, locale.LeadsUp ∧
    (p = k.classFile (some locale) ∨ p = k.propertiesFile (some locale))

/-- The path lies under one of the output directories, or it is for a locale that leads up. -/
def Stays (k : Task) (t : FileTree) (p : Path) : Prop :=
  p.LiesUnder k.configuration.destination ∨ p.LiesUnder k.configuration.resources ∨
    k.IsForLocaleUp t p

/-- What an include writes stays under the output directories, unless it is for a locale that leads
up. -/
theorem process_stays (hclass : '/' ∉ k.className) (hnative : '/' ∉ k.nativeClass) (s : RunState) :
    OnlyWrites (k.Stays s.tree) s (outcome (process k) s).2 := by
  have hnone : ∀ l ∈ (none : Option Locale), ¬ l.LeadsUp := fun _ hl => by cases hl
  have hproceeds := process_proceeds k s
  generalize outcome (process k) s = result at hproceeds
  cases hproceeds with
  | refused failure => exact .refl s
  | idle => exact .refl s
  | @bundle b locales _ hreads time =>
      obtain ⟨hheader, himplementation⟩ := liesUnder_native hnative
      refine emitBundle_onlyWrites_of (Q := k.Stays s.tree)
        ⟨.inl (liesUnder_classFile hclass hnone),
          .inr (.inl (liesUnder_propertiesFile hclass hnone))⟩
        (fun locale hlocale => ?_) ⟨.inl hheader, .inl himplementation⟩ s
      by_cases hup : locale.LeadsUp
      · exact ⟨.inr (.inr ⟨b, locales, hreads, locale, hlocale, hup, .inl rfl⟩),
          .inr (.inr ⟨b, locales, hreads, locale, hlocale, hup, .inr rfl⟩)⟩
      · have hsome : ∀ l ∈ some locale, ¬ l.LeadsUp := fun l hl => Option.some.inj hl ▸ hup
        exact ⟨.inl (liesUnder_classFile hclass hsome),
          .inr (.inl (liesUnder_propertiesFile hclass hsome))⟩
  | properties locale time hnamed =>
      have hup := Locale.not_leadsUp_of_slash (Locale.slash_not_mem_of_ofFileName hnamed)
      exact emitLocaleClass_onlyWrites (Q := k.Stays s.tree)
        (.inl (liesUnder_classFile hclass fun l hl => Option.some.inj hl ▸ hup)) s

end Task

/-- The include leaves the names of its classes to the name of its file. -/
def LeavesNames (item : Include) : Prop :=
  Text.present? item.className = none ∧ Text.present? item.nativeClass = none

instance : DecidablePred LeavesNames :=
  fun _ => inferInstanceAs (Decidable (_ ∧ _))

variable {c : Configuration}

theorem slash_not_mem_names {item : Include} (h : LeavesNames item) (now : Time) :
    '/' ∉ (Task.of c item now).className ∧ '/' ∉ (Task.of c item now).nativeClass := by
  constructor
  · have hclass : (Task.of c item now).className = ClassName.ofFile item.name
        (if item.name.endsWith Task.propertiesSuffix then Task.propertiesSuffix
          else Task.bundleSuffix) := by
      show Task.classNameOf item = _
      unfold Task.classNameOf
      rw [h.1]
      rfl
    rw [hclass]
    exact ClassName.slash_not_mem_ofFile _ _
  · have hnative : (Task.of c item now).nativeClass =
        ClassName.simpleOfFile item.name Task.bundleSuffix := by
      show (Text.present? item.nativeClass).getD _ = _
      rw [h.2]
      rfl
    rw [hnative]
    exact ClassName.slash_not_mem_simple (ClassName.slash_not_mem_ofFile _ _)

theorem stateBehind_stays {v : Include × RunState} (h : LeavesNames v.1) :
    OnlyWrites ((taskAt c v).Stays v.2.tree) v.2 (stateBehind c v) := by
  obtain ⟨hclass, hnative⟩ := slash_not_mem_names (c := c) h (v.2.clock v.2.ticks).wall
  have hvisit : OnlyWrites ((taskAt c v).Stays v.2.tree) v.2 (visit c v).2 :=
    (ticked_onlyWrites v.2).trans (Task.process_stays hclass hnative (ticked v.2))
  unfold stateBehind
  cases failure? c v with
  | none => exact hvisit
  | some failure => exact hvisit.trans (.of_eq rfl rfl rfl)

theorem eq_stateBehind {v : Include × RunState} {t : RunState} {failures : List IncludeFailure}
    (h : outcome (processInclude c v.1) v.2 = (.ok failures, t)) : t = stateBehind c v := by
  rw [outcome_processInclude_of_failure?] at h
  cases hfailure : failure? c v with
  | none =>
      rw [hfailure] at h
      exact (congrArg Prod.snd h).symm
  | some failure =>
      rw [hfailure] at h
      dsimp only at h
      split at h
      · exact (congrArg Prod.snd h).symm
      · cases h

theorem includes_stay {items : List Include} (h : ∀ item ∈ items, LeavesNames item)
    {s u : RunState} {failures : List IncludeFailure}
    (hincludes : outcome (items.flatMapM (processInclude c)) s = (.ok failures, u)) :
    OnlyWrites (fun p => ∃ v ∈ reached c items s, (taskAt c v).Stays v.2.tree p) s u := by
  induction items generalizing s failures with
  | nil =>
      cases hincludes
      exact .refl _
  | cons item items ih =>
      rw [List.flatMapM_cons] at hincludes
      obtain ⟨first, t, hfirst, hrest⟩ := outcome_bind_eq_ok.mp hincludes
      obtain ⟨others, u', hothers, hpure⟩ := outcome_bind_eq_ok.mp hrest
      cases hpure
      obtain rfl := eq_stateBehind (v := (item, s)) hfirst
      have hitem := stateBehind_stays (c := c) (v := (item, s)) (h item List.mem_cons_self)
      have hitems := ih (fun other hother => h other (List.mem_cons_of_mem _ hother)) hothers
      refine (hitem.mono fun p hp => ⟨(item, s), List.mem_cons_self, hp⟩).trans
        (hitems.mono ?_)
      rintro p ⟨v, hv, hp⟩
      exact ⟨v, List.mem_cons_of_mem _ hv, hp⟩

/-- Everything that a run has written lies under one of the two output directories, apart from the
files for locales whose identifiers lead up. -/
theorem run_stays_under {c : Configuration} (h : ∀ item ∈ c.includes, LeavesNames item)
    {tree : FileTree} {table : ShapeTable} {clock : Clock} {r : Report} {s : RunState}
    (hrun : outcome (run c) (start tree table clock) = (.ok r, s)) :
    ∀ p ∈ r.written, p.LiesUnder c.destination ∨ p.LiesUnder c.resources ∨
      ∃ v ∈ reached c c.includes (start tree table clock),
        (taskAt c v).IsForLocaleUp v.2.tree p := by
  obtain ⟨failures, t, hincludes, rfl, -⟩ := run_eq_ok hrun
  obtain ⟨new, hnew, hwritten⟩ := (includes_stay h hincludes).events
  intro p hp
  have hevents : t.events = new := hnew
  obtain ⟨e, he, hpath⟩ := List.mem_filterMap.mp hp
  rw [hevents] at he
  cases e with
  | skipped output reason => cases hpath
  | written output time =>
      cases hpath
      obtain ⟨v, hv, hstays⟩ := hwritten p time he
      rcases hstays with hdestination | hresources | hup
      · exact .inl hdestination
      · exact .inr (.inl hresources)
      · exact .inr (.inr ⟨v, hv, hup⟩)

section Instances

/-- The state at the start of a run on a tree with one bundle beside the source directory. -/
def besideStart : RunState :=
  start (sampleTree [(["p".toList], .directory 0),
    (["p".toList, "N.xml".toList], .file sampleDocument 100 true)]) ⟨[]⟩ fun _ => ⟨3000, 3000⟩

/-- The report of a run that wrote these paths. -/
def reportWritten (written : List Text) : Report :=
  ⟨written.map Path.ofText, [], [], []⟩

/-- The name of an include may lead up: its class is generated below the two directories. -/
theorem beside_stays_under :
    ∃ r s, outcome (run (sampleConfiguration none [.ofName "../p/N.xml"])) besideStart =
        (.ok r, s) ∧
      r.written.length = 4 ∧
      ∀ p ∈ r.written, p.LiesUnder (Path.ofText "d") ∨ p.LiesUnder (Path.ofText "r") ∨
        ∃ v ∈ reached (sampleConfiguration none [.ofName "../p/N.xml"]) [.ofName "../p/N.xml"]
            besideStart,
          (taskAt (sampleConfiguration none [.ofName "../p/N.xml"]) v).IsForLocaleUp v.2.tree
            p := by
  have hrun : (outcome (run (sampleConfiguration none [.ofName "../p/N.xml"])) besideStart).1 =
      .ok (reportWritten
        ["d/p/N.java", "r/p/N.properties", "d/p/N_en.java", "r/p/N_en.properties"]) := by
    decide +kernel
  exact ⟨_, _, outcome_of_fst hrun, rfl, run_stays_under (by decide) (outcome_of_fst hrun)⟩

/-- The state at the start of a run on a tree with one bundle. -/
def withinStart : RunState :=
  start (sampleTree [(["s".toList, "N.xml".toList], .file sampleDocument 100 true)]) ⟨[]⟩
    fun _ => ⟨3000, 3000⟩

/-- A locale that leads up takes a file out of both directories. -/
theorem locale_leaves_directories :
    (∀ item ∈ [Include.ofName "N.xml"], LeavesNames item) ∧
      ∃ r s, outcome (run (sampleConfiguration (some "en,fr/../../x") [.ofName "N.xml"]))
          withinStart = (.ok r, s) ∧
        ∃ p ∈ r.written, ¬ p.LiesUnder (Path.ofText "d") ∧ ¬ p.LiesUnder (Path.ofText "r") := by
  have hrun : (outcome (run (sampleConfiguration (some "en,fr/../../x") [.ofName "N.xml"]))
      withinStart).1 = .ok (reportWritten
        ["d/N.java", "r/N.properties", "d/N_en.java", "r/N_en.properties", "d/N_fr/../../x.java",
          "r/N_fr/../../x.properties"]) := by
    decide +kernel
  refine ⟨by decide, _, _, outcome_of_fst hrun, Path.ofText "d/N_fr/../../x.java", ?_, ?_⟩
  · decide +kernel
  · decide +kernel

end Instances

end Generation

end MessageCatalog
