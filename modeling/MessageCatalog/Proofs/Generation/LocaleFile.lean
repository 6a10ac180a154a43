import MessageCatalog.Proofs.ClassName.Directory
import MessageCatalog.Proofs.Generation.Attribution

/-!
# Names of generated files

The name of a file that is generated for a class and a locale says both. The directories of the
package stand in front of it, the locale stands behind the first underscore of the name, and the
suffix is taken off before anything is looked for, so that neither underscores in the package nor
dots and underscores in the variant of the locale lead astray. A properties file that has been
generated for a bundle therefore belongs to the class of the bundle when it is itself an include, and
what comes of it is the subclass that the bundle has for its locale.

**Results.**
* `Text.HasNoSlash`, `ClassName.IsSegment`, `ClassName.ofSegments`: class names by their parts.
* `ClassName.localeFile`: the name of the file of a class for a locale.
* `Locale.ofFileName_localized`, `Locale.stripFromFileName_localized`: a name with a locale.
* `Generation.Task.SharesClass`: includes whose files stand at the same places.
* `Generation.localeFile_reads_back`: what is read off the name of a generated file.
-/

namespace MessageCatalog

open Text

section Names

/-- A text without slashes of either kind. -/
structure Text.HasNoSlash (t : Text) : Prop where
  slash : '/' ∉ t
  backslash : '\\' ∉ t

instance (t : Text) : Decidable (HasNoSlash t) :=
  decidable_of_iff ('/' ∉ t ∧ '\\' ∉ t) ⟨fun h => ⟨h.1, h.2⟩, fun h => ⟨h.slash, h.backslash⟩⟩

theorem Text.HasNoSlash.isSlash {t : Text} (h : HasNoSlash t) : ∀ c ∈ t, Text.isSlash c = false := by
  intro c hc
  have hslash : c ≠ '/' := fun heq => h.slash (heq ▸ hc)
  have hbackslash : c ≠ '\\' := fun heq => h.backslash (heq ▸ hc)
  simp [Text.isSlash, hslash, hbackslash]

namespace Locale

variable {name identifier : Text} {l : Locale}

theorem hasNoSlash_localized (hname : HasNoSlash name) (hidentifier : HasNoSlash identifier) :
    HasNoSlash (name ++ '_' :: identifier) where
  slash := by simp [hname.slash, hidentifier.slash]
  backslash := by simp [hname.backslash, hidentifier.backslash]

theorem ofFileName_localized (hname : HasNoSlash name) (hne : name ≠ []) (hlow : '_' ∉ name)
    (hidentifier : HasNoSlash identifier) (h : parse identifier = .ok l) (suffix : Text) :
    ofFileName (name ++ '_' :: identifier ++ suffix) suffix = some l := by
  refine ofFileName_eq_some_iff.mpr ⟨name, identifier, ?_, hne, hlow, h⟩
  -- only the ending is taken off, also where the identifier ends with the suffix once more
  rw [withoutEnding_append]
  exact (parts_of_not_slash (hasNoSlash_localized hname hidentifier).isSlash).1

theorem stripFromFileName_localized (hname : HasNoSlash name) (hlow : '_' ∉ name)
    (hidentifier : HasNoSlash identifier) (h : parse identifier = .ok l) (suffix : Text) :
    stripFromFileName (name ++ '_' :: identifier ++ suffix) suffix = name := by
  obtain ⟨hnamePart, hdirectoryPart⟩ :=
    parts_of_not_slash (hasNoSlash_localized hname hidentifier).isSlash
  have hboundary : boundary ((name ++ '_' :: identifier ++ suffix).withoutEnding suffix).namePart =
      some (name, l) := by
    rw [withoutEnding_append, hnamePart]
    exact boundary_of_parse hlow h
  rw [stripFromFileName_of_some hboundary, withoutEnding_append, hdirectoryPart, List.nil_append]

end Locale

end Names

namespace ClassName

variable {segments : List Text} {segment name : Text}

/-- A part of a class name that is also the name of a directory. -/
structure IsSegment (t : Text) : Prop where
  ne_nil : t ≠ []
  dot : '.' ∉ t
  hasNoSlash : HasNoSlash t

instance (t : Text) : Decidable (IsSegment t) :=
  decidable_of_iff (t ≠ [] ∧ '.' ∉ t ∧ HasNoSlash t)
    ⟨fun h => ⟨h.1, h.2.1, h.2.2⟩, fun h => ⟨h.ne_nil, h.dot, h.hasNoSlash⟩⟩

theorem IsSegment.isName (h : IsSegment segment) : Path.isName segment = true := by
  have hne : segment ≠ ['.'] := by
    rintro rfl
    exact h.dot List.mem_cons_self
  simp [Path.isName, h.ne_nil, hne]

/-- The class name of a package and a simple name. -/
def ofSegments (segments : List Text) (name : Text) : Text :=
  join ['.'] (segments ++ [name])

/-- The path of the class below a root, without a suffix. -/
def stemOfSegments (segments : List Text) (name : Text) : Text :=
  join ['/'] (segments ++ [name])

theorem stemOfSegments_eq (segments : List Text) (name : Text) :
    stemOfSegments segments name = folders segments ++ name :=
  join_append_singleton '/' segments name

theorem ofSegments_eq (h : ∀ segment ∈ segments, IsSegment segment) (name : Text) :
    ofSegments segments name = dotted (folders segments) ++ name := by
  rw [ofSegments, join_append_singleton, dotted_folders fun segment hsegment =>
    (h segment hsegment).hasNoSlash.isSlash]

theorem simple_ofSegments (h : ∀ segment ∈ segments, IsSegment segment) (hname : IsSegment name) :
    simple (ofSegments segments name) = name := by
  rw [ofSegments_eq h, simple_folders, simple, cutLast_eq_none_iff.mpr hname.dot]

theorem directory_ofSegments (h : ∀ segment ∈ segments, IsSegment segment) (hname : IsSegment name)
    (root : Path) : directory root (ofSegments segments name) = segments.foldl Path.child root := by
  have hslash : '/' ∉ ofSegments segments name := by
    rw [ofSegments_eq h, List.mem_append, not_or]
    exact ⟨slash_not_mem_dotted _, hname.hasNoSlash.slash⟩
  have hsplit : (ofSegments segments name).splitOn '.' = segments ++ [name] := by
    rw [ofSegments, join_append_singleton]
    exact splitOn_join (fun segment hsegment => (h segment hsegment).dot) hname.dot
  have hnames : directoryNames (ofSegments segments name) = segments := by
    rw [directoryNames, hsplit, List.dropLast_concat, List.filter_eq_self]
    exact fun segment hsegment => by simpa using (h segment hsegment).ne_nil
  rw [directory_eq root hslash, hnames]

/-- The name of the file of the class for a locale, with the directories of its package. -/
def localeFile (segments : List Text) (name : Text) (l : Locale) (suffix : Text) : Text :=
  folders segments ++ (simpleLocalized (ofSegments segments name) (some l) ++ suffix)

variable {l : Locale}

theorem localeFile_eq (h : ∀ segment ∈ segments, IsSegment segment) (hname : IsSegment name)
    (l : Locale) (suffix : Text) :
    localeFile segments name l suffix = folders segments ++ (name ++ '_' :: l.text ++ suffix) := by
  unfold localeFile simpleLocalized localized
  rw [simple_ofSegments h hname]

section Read

variable (h : ∀ segment ∈ segments, IsSegment segment) (hname : IsSegment name)
  (hlow : '_' ∉ name) (hl : Locale.parse l.text = .ok l) (hslash : HasNoSlash l.text)

include h hname hlow hl hslash

theorem ofFileName_localeFile (suffix : Text) :
    Locale.ofFileName (localeFile segments name l suffix) suffix = some l := by
  rw [localeFile_eq h hname, Locale.ofFileName_folders]
  exact Locale.ofFileName_localized hname.hasNoSlash hname.ne_nil hlow hslash hl suffix

theorem stripFromFileName_localeFile (suffix : Text) :
    Locale.stripFromFileName (localeFile segments name l suffix) suffix =
      stemOfSegments segments name := by
  rw [localeFile_eq h hname, Locale.stripFromFileName_folders,
    Locale.stripFromFileName_localized hname.hasNoSlash hlow hslash hl, stemOfSegments_eq]

theorem ofFile_localeFile (suffix : Text) :
    ofFile (localeFile segments name l suffix) suffix = ofSegments segments name := by
  rw [ofFile_eq_dotted, stripFromFileName_localeFile h hname hlow hl hslash, stemOfSegments_eq,
    dotted_append, dotted_of_not_slash hname.hasNoSlash.isSlash, ofSegments_eq h]

end Read

theorem ofText_folders (h : ∀ segment ∈ segments, IsSegment segment) {last : Text}
    (hlast : Path.isName last = true) (hslash : '/' ∉ last) :
    Path.ofText (folders segments ++ last) = ⟨.here, segments ++ [last]⟩ := by
  have hsplit : splitOn '/' (folders segments ++ last) = segments ++ [last] :=
    splitOn_join (fun segment hsegment => (h segment hsegment).hasNoSlash.slash) hslash
  have hhead : (folders segments ++ last).head? ≠ some '/' := by
    cases segments with
    | nil => exact fun hhead => hslash (List.mem_of_mem_head? hhead)
    | cons segment segments =>
        obtain ⟨c, rest, rfl⟩ := List.exists_cons_of_ne_nil (h segment List.mem_cons_self).ne_nil
        rw [folders_cons]
        rintro ⟨⟩
        exact (h _ List.mem_cons_self).hasNoSlash.slash List.mem_cons_self
  have hsegments : segments.filter Path.isName = segments :=
    List.filter_eq_self.mpr fun segment hsegment => (h segment hsegment).isName
  unfold Path.ofText
  rw [Path.start_ofText hhead, hsplit, List.filter_append, hsegments, List.filter_cons_of_pos hlast]
  rfl

/-- A file that is named by its directories stands where it stands in the last one of them. -/
theorem foldl_child_div (h : ∀ segment ∈ segments, IsSegment segment) {last : Text}
    (hlast : Path.isName last = true) (hslash : '/' ∉ last) (root : Path) :
    segments.foldl Path.child root / Path.ofText last =
      root / Path.ofText (folders segments ++ last) := by
  have hfile : Path.ofText last = ⟨.here, [last]⟩ :=
    ofText_folders (fun _ hmem => absurd hmem List.not_mem_nil) hlast hslash
  rw [hfile, ofText_folders h hlast hslash, Path.foldl_child]
  show Path.append _ _ = Path.append _ _
  simp [Path.append]

end ClassName

namespace Generation

open ClassName

variable {segments : List Text} {name : Text} {l : Locale} {c : Configuration}

/-- The includes have one class, and its files stand at the same places. -/
structure Task.SharesClass (k k' : Task) : Prop where
  className : k.className = k'.className
  inPackage : ∀ root file, k.inPackage root file = k'.inPackage root file
  classFile : ∀ locale, k.classFile locale = k'.classFile locale

theorem sharesClass_of_classNameOf {item item' : Include}
    (h : Task.classNameOf item = Task.classNameOf item') (now now' : Time) :
    (Task.of c item now).SharesClass (.of c item' now') := by
  have hclass : (Task.of c item now).className = (Task.of c item' now').className := h
  have hpackage : ∀ root file, (Task.of c item now).inPackage root file =
      (Task.of c item' now').inPackage root file := by
    intro root file
    unfold Task.inPackage
    rw [hclass]
  refine ⟨hclass, hpackage, fun locale => ?_⟩
  unfold Task.classFile
  rw [hpackage, hclass]
  rfl

theorem propertiesFile_eq_localeFile (h : ∀ segment ∈ segments, IsSegment segment)
    (hname : IsSegment name) (hslash : Text.HasNoSlash l.text) {item : Include}
    (hclass : Task.classNameOf item = ofSegments segments name) (now : Time) :
    (Task.of c item now).propertiesFile (some l) =
      c.resources / Path.ofText (localeFile segments name l Task.propertiesSuffix) := by
  have hfile : '/' ∉ simpleLocalized (ofSegments segments name) (some l) ++ Task.propertiesSuffix := by
    unfold simpleLocalized localized
    rw [simple_ofSegments h hname, List.mem_append, not_or]
    exact ⟨(Locale.hasNoSlash_localized hname.hasNoSlash hslash).slash, by decide⟩
  show directory c.resources (Task.classNameOf item) /
    Path.ofText (propertiesFile (Task.classNameOf item) (some l)) = _
  rw [hclass, directory_ofSegments h hname]
  exact foldl_child_div h (Path.isName_append _ (by decide)) hfile c.resources

/-- The name of a file that is generated for a class and a locale is read back: the locale, the path
in front of it and the class name are those it was made of, and the package directory of the class is
made of the segments of the package. As an include, the properties file of a locale of a bundle has
the class of the bundle, its files stand at the same places, and what comes of it is the subclass of
that locale. -/
theorem localeFile_reads_back (h : ∀ segment ∈ segments, IsSegment segment)
    (hname : IsSegment name) (hlow : '_' ∉ name)
    (hl : ∃ identifier, Locale.parse identifier = .ok l)
    (hslash : Text.HasNoSlash l.text) :
    (∀ suffix,
      Locale.ofFileName (localeFile segments name l suffix) suffix = some l ∧
      Locale.stripFromFileName (localeFile segments name l suffix) suffix =
        stemOfSegments segments name ∧
      ofFile (localeFile segments name l suffix) suffix = ofSegments segments name) ∧
    (∀ root, directory root (ofSegments segments name) = segments.foldl Path.child root) ∧
    ∀ c bundle item now now',
      Task.classNameOf bundle = ofSegments segments name →
      item.name = localeFile segments name l Task.propertiesSuffix →
      Text.present? item.className = none →
      (Task.of c bundle now).propertiesFile (some l) = c.resources / Path.ofText item.name ∧
      (Task.of c item now').SharesClass (.of c bundle now) ∧
      Task.IsAttributed c item l (stemOfSegments segments name) l.text := by
  obtain ⟨identifier, hidentifier⟩ := hl
  have hparse : Locale.parse l.text = .ok l :=
    Locale.parse_text_iff.mpr (Locale.spells_of_parse hidentifier).isReadable
  have hread : ∀ suffix, Locale.ofFileName (localeFile segments name l suffix) suffix = some l :=
    ofFileName_localeFile h hname hlow hparse hslash
  have hstem : ∀ suffix, Locale.stripFromFileName (localeFile segments name l suffix) suffix =
      stemOfSegments segments name := stripFromFileName_localeFile h hname hlow hparse hslash
  have hclassOf : ∀ suffix, ofFile (localeFile segments name l suffix) suffix =
      ofSegments segments name := ofFile_localeFile h hname hlow hparse hslash
  refine ⟨fun suffix => ⟨hread suffix, hstem suffix, hclassOf suffix⟩,
    directory_ofSegments h hname, ?_⟩
  intro c bundle item now now' hbundle hitem hgiven
  have hname' : item.name =
      stemOfSegments segments name ++ '_' :: l.text ++ Task.propertiesSuffix := by
    rw [hitem, localeFile_eq h hname, stemOfSegments_eq]
    simp only [List.append_assoc]
  have hsuffix : item.name.endsWith Task.propertiesSuffix = true := by
    rw [hname']
    exact List.isSuffixOf_iff_suffix.mpr (List.suffix_append _ _)
  have hclass : Task.classNameOf item = ofSegments segments name := by
    have hderived := className_of_properties (c := c) hsuffix now
    rw [hgiven, hitem, hclassOf] at hderived
    exact hderived
  refine ⟨?_, sharesClass_of_classNameOf (hclass.trans hbundle.symm) now' now, ?_⟩
  · rw [hitem]
    exact propertiesFile_eq_localeFile h hname hslash hbundle now
  · refine isAttributed_of_ofFileName hsuffix ?_ hname' hparse ?_
    · rw [hitem]
      exact hread _
    · rw [hitem]
      exact hstem _

/-- A locale whose variant ends like a properties file. -/
def variantWithSuffix : Locale :=
  ⟨"nl", "BE", "a_.properties", by decide, by decide, by decide⟩

/-- The variant of the locale may end with an underscore and the suffix itself, and the package may
have underscores. -/
theorem suffixed_variant_reads_back :
    (localeFile ["org", "my_pkg"] "N" variantWithSuffix ".properties" : Text) =
        "org/my_pkg/N_nl_BE_a_.properties.properties" ∧
      Locale.ofFileName "org/my_pkg/N_nl_BE_a_.properties.properties" ".properties" =
        some variantWithSuffix ∧
      (Task.of (sampleConfiguration none [])
          (.ofName "org/my_pkg/N_nl_BE_a_.properties.properties") 0).SharesClass
        (.of (sampleConfiguration none []) (.ofName "org/my_pkg/N.xml") 0) := by
  have hsegments : ∀ segment ∈ (["org", "my_pkg"] : List Text), IsSegment segment := by
    decide
  have hname : IsSegment "N" := by decide
  have hslash : Text.HasNoSlash variantWithSuffix.text := by decide
  have hparse : ∃ identifier, Locale.parse identifier = .ok variantWithSuffix :=
    ⟨"nl_BE_a_.properties", rfl⟩
  obtain ⟨hread, -, hinclude⟩ :=
    localeFile_reads_back hsegments hname (by decide) hparse hslash
  have hfile : (localeFile ["org", "my_pkg"] "N" variantWithSuffix ".properties" : Text) =
      "org/my_pkg/N_nl_BE_a_.properties.properties" := by decide
  obtain ⟨hlocale, -⟩ := hread ".properties"
  rw [hfile] at hlocale
  obtain ⟨-, hshares, -⟩ := hinclude (sampleConfiguration none []) (.ofName "org/my_pkg/N.xml")
    (.ofName "org/my_pkg/N_nl_BE_a_.properties.properties") 0 0 (by decide) hfile.symm (by decide)
  exact ⟨hfile, hlocale, hshares⟩

end Generation

end MessageCatalog
