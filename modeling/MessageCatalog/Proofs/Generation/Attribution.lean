import MessageCatalog.Proofs.Generation.Plan
import MessageCatalog.Proofs.Locale.Boundary

/-!
# What a properties file is attributed to

The properties file of a locale belongs to a class and to a bundle. Neither is named in it: both are
found by what stands in front of the locale in the name of the file, so that the class, the bundle
and the locale stand at one boundary. The bundle has to be readable, although nothing of it is used.

**Results.**
* `process_of_properties`, `outcome_processProperties_of_error`: how a properties file is processed.
* `Task.IsAttributed`: locale, class and bundle of a properties file.
* `locale_begins_at_boundary`: the three stand at the boundary at which the path is read.
-/

namespace MessageCatalog

open FileTree RunState

namespace Generation

variable {c : Configuration} {item : Include} {k : Task} {l : Locale}

theorem not_endsWith_bundleSuffix {name : Text} (h : name.endsWith Task.propertiesSuffix = true) :
    name.endsWith Task.bundleSuffix = false := by
  rw [Bool.eq_false_iff]
  intro hbundle
  have hsuffix : Task.bundleSuffix <:+ Task.propertiesSuffix :=
    List.suffix_of_suffix_length_le (List.isSuffixOf_iff_suffix.mp hbundle)
      (List.isSuffixOf_iff_suffix.mp h) (by decide)
  revert hsuffix
  decide

theorem process_of_properties (h : k.item.name.endsWith Task.propertiesSuffix = true) :
    process k = processProperties k := by
  rw [process_eq]
  rw [if_neg (Bool.eq_false_iff.mp (not_endsWith_bundleSuffix h)), if_pos h]

/-- The bundle that the properties file of a locale belongs to. -/
def Task.siblingBundle (k : Task) : Path :=
  k.configuration.source /
    Path.ofText (Locale.stripFromFileName k.item.name propertiesSuffix ++ bundleSuffix)

/-- A properties file whose bundle cannot be read is refused as the bundle is. -/
theorem outcome_processProperties_of_error {s : RunState} {f : Failure}
    (hlocale : Locale.ofFileName k.item.name Task.propertiesSuffix = some l)
    (hread : Bundle.ofFile s.tree k.siblingBundle = .error f) :
    outcome (processProperties k) s = (.error f, s) := by
  rw [processProperties_eq]
  rw [hlocale]
  simp only [outcome_bind_of_ok (outcome_get s)]
  unfold Task.siblingBundle at hread
  rw [hread]
  rfl

theorem siblingBundle_of_processProperties {s s' : RunState}
    (h : outcome (processProperties k) s = (.ok ⟨⟩, s')) :
    ∃ b, Bundle.ofFile s.tree k.siblingBundle = .ok b := by
  obtain ⟨l, -, -, hlocale, -⟩ := processProperties_eq_ok h
  cases hread : Bundle.ofFile s.tree k.siblingBundle with
  | ok b => exact ⟨b, rfl⟩
  | error f =>
      rw [outcome_processProperties_of_error hlocale hread] at h
      cases h

/-- The properties file is that of the locale which is spelled by the identifier, and the stem names
its bundle and, unless the include names one itself, its class. The bundle is read before anything
else, and what comes of the file is the subclass of that locale. -/
structure Task.IsAttributed (c : Configuration) (item : Include) (l : Locale)
    (stem identifier : Text) : Prop where
  name_eq : item.name = stem ++ '_' :: identifier ++ propertiesSuffix
  parse_eq : Locale.parse identifier = .ok l
  className : ∀ now, (Task.of c item now).className =
    (Text.present? item.className).getD ((stem.replaceChar '\\' '.').replaceChar '/' '.')
  refused : ∀ now (s : RunState) f,
    Bundle.ofFile s.tree (c.source / Path.ofText (stem ++ bundleSuffix)) = .error f →
      outcome (process (.of c item now)) s = (.error f, s)
  processed : ∀ now s s', outcome (process (.of c item now)) s = (.ok ⟨⟩, s') →
    (∃ b, Bundle.ofFile s.tree (c.source / Path.ofText (stem ++ bundleSuffix)) = .ok b) ∧
      ∃ time new, (Task.of c item now).Follows time ((Task.of c item now).propertiesPlan l) new s s'

theorem className_of_properties (hsuffix : item.name.endsWith Task.propertiesSuffix = true)
    (now : Time) :
    (Task.of c item now).className = (Text.present? item.className).getD
      (ClassName.ofFile item.name Task.propertiesSuffix) := by
  unfold Task.of Task.classNameOf
  dsimp only
  rw [if_pos hsuffix]

theorem isAttributed_of_ofFileName {stem identifier : Text}
    (hsuffix : item.name.endsWith Task.propertiesSuffix = true)
    (hlocale : Locale.ofFileName item.name Task.propertiesSuffix = some l)
    (hname : item.name = stem ++ '_' :: identifier ++ Task.propertiesSuffix)
    (hparse : Locale.parse identifier = .ok l)
    (hstem : Locale.stripFromFileName item.name Task.propertiesSuffix = stem) :
    Task.IsAttributed c item l stem identifier := by
  have hbundle : ∀ now, (Task.of c item now).siblingBundle =
      c.source / Path.ofText (stem ++ Task.bundleSuffix) := by
    intro now
    rw [← hstem]
    rfl
  refine ⟨hname, hparse, fun now => ?_, fun now s f hread => ?_, fun now s s' h => ?_⟩
  · rw [className_of_properties hsuffix, ClassName.ofFile, hstem]
  · rw [process_of_properties hsuffix]
    rw [← hbundle now] at hread
    exact outcome_processProperties_of_error hlocale hread
  · rw [process_of_properties hsuffix] at h
    rw [← hbundle now]
    refine ⟨siblingBundle_of_processProperties h, ?_⟩
    obtain ⟨l', time, new, hlocale', -, hfollows⟩ := processProperties_eq_ok h
    obtain rfl : l = l' := Option.some.inj (hlocale.symm.trans hlocale')
    exact ⟨time, new, hfollows⟩

/-- Every path is read at one boundary: the directories and what is left of the name in front of the
first underscore with an identifier behind it are what is stripped to, and a locale is derived
exactly if that underscore is the first of the name and not its first character. A properties file
with a locale has its class and its bundle from that boundary. -/
theorem locale_begins_at_boundary :
    (∀ path suffix, ∃ directory name before,
      Locale.IsRead path suffix directory name before) ∧
    ∀ c item l, item.name.endsWith Task.propertiesSuffix = true →
      Locale.ofFileName item.name Task.propertiesSuffix = some l →
      ∃ directory name before identifier,
        Locale.IsRead item.name Task.propertiesSuffix directory name before ∧
        Locale.IsBoundary name before identifier l ∧
        Task.IsAttributed c item l (directory ++ before) identifier := by
  refine ⟨Locale.exists_isRead, fun c item l hsuffix hlocale => ?_⟩
  obtain ⟨directory, name, before, hread⟩ :=
    Locale.exists_isRead item.name Task.propertiesSuffix
  obtain ⟨identifier, hboundary⟩ := hread.derived l hlocale
  have hpath : item.name = directory ++ name ++ Task.propertiesSuffix :=
    hread.parts.path_eq.resolve_right fun h => h.1 (List.isSuffixOf_iff_suffix.mp hsuffix)
  refine ⟨directory, name, before, identifier, hread, hboundary,
    isAttributed_of_ofFileName hsuffix hlocale ?_ hboundary.parse_eq hread.stripped⟩
  rw [hpath, hboundary.name_eq, ← List.append_assoc directory before]

theorem birthday_attributed :
    ∃ identifier, Task.IsAttributed (sampleConfiguration none [])
      (.ofName "happy/Birthday_en.properties") english "happy/Birthday" identifier := by
  obtain ⟨directory, name, before, identifier, hread, -, hattributed⟩ :=
    locale_begins_at_boundary.2 (sampleConfiguration none [])
      (.ofName "happy/Birthday_en.properties") english (by decide) (by decide)
  have hstem : directory ++ before = "happy/Birthday".toList :=
    hread.stripped.symm.trans (by decide)
  rw [hstem] at hattributed
  exact ⟨identifier, hattributed⟩

end Generation
end MessageCatalog
