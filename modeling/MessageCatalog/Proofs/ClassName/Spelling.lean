import MessageCatalog.Proofs.ClassName.Directory
import Mathlib.Data.List.Flatten

/-!
# Spellings of a path

A path may be spelled with empty segments and with dots that lead nowhere. The class name of a file is
made of the spelling as it is, so that each of these segments leaves a dot of its own in the class name,
and with it in the package. Nothing else of what a file name says depends on the spelling: neither its
locale, nor the name of the class without its package, nor the directory of the class.

**Results.**
* `Path.exists_segments`: a spelling and the plain spelling of the same path, by their segments.
* `Text.filter_eq_of_length_folders`: leaving segments out makes a spelling shorter.
* `ClassName.directoryNames_folders`: the directories of a class name below those of a file.
* `ClassName.ofFile_eq_iff_spelled`: the class name is that of the plain spelling for that spelling
  only.
-/

namespace MessageCatalog

open Text

namespace Text

theorem filter_eq_of_length_folders {q : Text → Bool} {names : List Text}
    (h : (folders (names.filter q)).length = (folders names).length) : names.filter q = names := by
  induction names with
  | nil => rfl
  | cons name names ih =>
      by_cases hq : q name = true
      · rw [List.filter_cons_of_pos hq] at h ⊢
        rw [folders_cons, folders_cons, List.length_append, List.length_append, List.length_cons,
          List.length_cons] at h
        rw [ih (by omega)]
      · have hshorter : (folders (names.filter q)).length ≤ (folders names).length :=
          (List.filter_sublist.flatMap _).length_le
        rw [List.filter_cons_of_neg hq, folders_cons, List.length_append, List.length_cons] at h
        omega

end Text

namespace Path

theorem text_of_names_ne_nil {p : Path} (h : p.names ≠ []) :
    p.text = p.start.text ++ join ['/'] p.names := by
  obtain ⟨start, names⟩ := p
  unfold text
  cases names with
  | nil => exact absurd rfl h
  | cons name names => cases start <;> rfl

/-- A relative path with a suffix: the directories in front of its last name, and its plain spelling,
in which only directories with a name are left. -/
theorem exists_segments {file suffix : Text} (hstart : Start.ofText file = .here)
    (hslash : '/' ∉ suffix) (hlength : 2 ≤ suffix.length) (hends : file.endsWith suffix = true) :
    ∃ names stem, file = folders names ++ (stem ++ suffix) ∧
      (ofText file).text = folders (names.filter isName) ++ (stem ++ suffix) := by
  obtain ⟨t, rfl⟩ := List.isSuffixOf_iff_suffix.mp hends
  obtain ⟨names, stem, -, happend⟩ := splitOn_append '/' t
  have hsplit := happend suffix hslash
  have hfile := join_splitOn '/' (t ++ suffix)
  rw [hsplit, join_append_singleton] at hfile
  have hnames : (ofText (t ++ suffix)).names = names.filter isName ++ [stem ++ suffix] := by
    unfold ofText
    dsimp only
    rw [hsplit, List.filter_append, List.filter_cons_of_pos (isName_append stem hlength)]
    rfl
  refine ⟨names, stem, hfile.symm, ?_⟩
  rw [text_of_names_ne_nil (by rw [hnames]; simp), hnames, join_append_singleton]
  show (Start.ofText (t ++ suffix)).text ++ _ = _
  rw [hstart]
  rfl

end Path

namespace ClassName

theorem eq_of_package?_eq {c d : Text} (hpackage : package? c = package? d)
    (hsimple : simple c = simple d) : c = d := by
  unfold package? at hpackage
  unfold simple at hsimple
  cases hc : c.cutLast '.' with
  | none =>
      cases hd : d.cutLast '.' with
      | none => simpa [hc, hd] using hsimple
      | some parts => simp [hc, hd] at hpackage
  | some parts =>
      cases hd : d.cutLast '.' with
      | none => simp [hc, hd] at hpackage
      | some parts' =>
          obtain ⟨-, hc'⟩ := cutLast_eq_some_iff.mp hc
          obtain ⟨-, hd'⟩ := cutLast_eq_some_iff.mp hd
          simp only [hc, hd, Option.map_some, Option.some.injEq] at hpackage hsimple
          rw [hc', hd', hpackage, hsimple]

theorem directoryNames_append_dot (before after : Text) :
    directoryNames (before ++ '.' :: after) =
      (before.splitOn '.').filter (· ≠ []) ++ directoryNames after := by
  obtain ⟨part, parts, hafter⟩ := exists_splitOn_eq_cons '.' after
  have hne : after.splitOn '.' ≠ [] := by
    rw [hafter]
    exact List.cons_ne_nil _ _
  unfold directoryNames
  rw [splitOn_append_cons, List.dropLast_append_of_ne_nil hne, List.filter_append]

/-- The directories of a segment of a path; a segment that is no name has none. -/
def segmentNames (segment : Text) : List Text :=
  ((dotted segment).splitOn '.').filter (· ≠ [])

theorem directoryNames_folders (names : List Text) (t : Text) :
    directoryNames (dotted (folders names) ++ t) = names.flatMap segmentNames ++ directoryNames t := by
  induction names with
  | nil => rfl
  | cons name names ih =>
      rw [dotted_folders_cons, List.append_assoc, List.cons_append, directoryNames_append_dot, ih,
        List.flatMap_cons, List.append_assoc]
      rfl

theorem segmentNames_of_not_isName {segment : Text} (h : ¬ Path.isName segment = true) :
    segmentNames segment = [] := by
  have hcases : segment = [] ∨ segment = ['.'] := by
    simpa [Path.isName, or_iff_not_imp_left] using h
  rcases hcases with rfl | rfl <;> decide

theorem flatMap_segmentNames_filter (names : List Text) :
    (names.filter Path.isName).flatMap segmentNames = names.flatMap segmentNames := by
  induction names with
  | nil => rfl
  | cons name names ih =>
      by_cases hname : Path.isName name = true
      · rw [List.filter_cons_of_pos hname, List.flatMap_cons, List.flatMap_cons, ih]
      · rw [List.filter_cons_of_neg hname, List.flatMap_cons, segmentNames_of_not_isName hname, ih]
        rfl

/-- A relative file with a suffix and the plain spelling of its path: they have the same class name
and the same package only if they are spelled alike. The name of the class without its package, the
directory of the class and the locale of the file are the same in any case. -/
theorem ofFile_eq_iff_spelled {file suffix : Text} (hstart : Path.Start.ofText file = .here)
    (hslash : '/' ∉ suffix) (hlength : 2 ≤ suffix.length) (hends : file.endsWith suffix = true) :
    (ofFile file suffix = ofFile (Path.ofText file).text suffix ↔
        file = (Path.ofText file).text) ∧
      (package? (ofFile file suffix) = package? (ofFile (Path.ofText file).text suffix) ↔
        file = (Path.ofText file).text) ∧
      simple (ofFile file suffix) = simple (ofFile (Path.ofText file).text suffix) ∧
      (∀ root, directory root (ofFile file suffix) =
        directory root (ofFile (Path.ofText file).text suffix)) ∧
      Locale.ofFileName file suffix = Locale.ofFileName (Path.ofText file).text suffix := by
  obtain ⟨names, stem, hfile, hspelled⟩ := Path.exists_segments hstart hslash hlength hends
  have hclass := ofFile_folders names stem suffix
  have hclass' := ofFile_folders (names.filter Path.isName) stem suffix
  rw [← hfile] at hclass
  rw [← hspelled] at hclass'
  have heq : ofFile file suffix = ofFile (Path.ofText file).text suffix ↔
      file = (Path.ofText file).text := by
    refine ⟨fun h => ?_, fun h => congrArg (ofFile · suffix) h⟩
    rw [hclass, hclass'] at h
    -- the class names end alike, so that the directories in front have one length
    have hdirectories := congrArg List.length (List.append_cancel_right h)
    rw [length_dotted, length_dotted] at hdirectories
    have hfilter := filter_eq_of_length_folders hdirectories.symm
    rw [hfilter] at hspelled
    exact hfile.trans hspelled.symm
  have hsimple : simple (ofFile file suffix) = simple (ofFile (Path.ofText file).text suffix) := by
    rw [hclass, hclass', simple_folders, simple_folders]
  refine ⟨heq, ⟨fun h => heq.mp (eq_of_package?_eq h hsimple), fun h => ?_⟩, hsimple, fun root => ?_,
    ?_⟩
  · rw [heq.mpr h]
  · rw [directory_eq root (slash_not_mem_ofFile _ _), directory_eq root (slash_not_mem_ofFile _ _),
      hclass, hclass', directoryNames_folders, directoryNames_folders, flatMap_segmentNames_filter]
  · rw [hspelled, Locale.ofFileName_folders]
    conv_lhs => rw [hfile, Locale.ofFileName_folders]

/-- A file that is named by way of the directory it stands in has another class name than the file
that it is. -/
theorem className_of_dot_spelling :
    Path.Start.ofText "./N.xml" = .here ∧ Text.endsWith "./N.xml" ".xml" = true ∧
      (Path.ofText "./N.xml").text = "N.xml".toList ∧
      ofFile "./N.xml" ".xml" = "..N".toList ∧ ofFile "N.xml" ".xml" = "N".toList ∧
      ofFile "./N.xml" ".xml" ≠ ofFile (Path.ofText "./N.xml").text ".xml" := by
  decide

/-- Two directories of a longer path lead nowhere: the directory of the class is the same, and its
package is not. -/
theorem package_of_long_spelling :
    package? (ofFile "a.b//./My_N_en.xml" ".xml") ≠
        package? (ofFile (Path.ofText "a.b//./My_N_en.xml").text ".xml") ∧
      directory (.ofText "d") (ofFile "a.b//./My_N_en.xml" ".xml") =
        directory (.ofText "d") (ofFile (Path.ofText "a.b//./My_N_en.xml").text ".xml") := by
  have hstart : Path.Start.ofText "a.b//./My_N_en.xml" = .here := by decide
  have hslash : '/' ∉ ".xml".toList := by decide
  have hends : Text.endsWith "a.b//./My_N_en.xml" ".xml" = true := by decide
  obtain ⟨-, hpackage, -, hdirectory, -⟩ :=
    ofFile_eq_iff_spelled hstart hslash (by decide) hends
  exact ⟨fun h => absurd (hpackage.mp h) (by decide), hdirectory _⟩

end ClassName
end MessageCatalog
