import MessageCatalog.ClassName
import MessageCatalog.Proofs.FileTree.Sibling
import MessageCatalog.Proofs.Locale.Boundary

/-!
# Class names and directories

The directories in front of the name of a file take no part in finding its locale, and each of them
goes into the class name with a dot behind it. The directory of a class name in turn is made of its
parts in front of the last dot, of which the empty ones lead nowhere.

**Results.**
* `Locale.stripFromFileName_folders`, `Locale.ofFileName_folders`: directories in front of a name.
* `ClassName.ofFile_folders`, `ClassName.simple_folders`: what they become in a class name.
* `ClassName.directory_eq`: the directory of a class name.
-/

namespace MessageCatalog

namespace Text

variable {directory name path suffix t : Text}

/-- Directories, each with a slash behind it. -/
def folders (names : List Text) : Text :=
  names.flatMap (· ++ ['/'])

theorem folders_cons (name : Text) (names : List Text) :
    folders (name :: names) = name ++ '/' :: folders names := by
  simp [folders]

theorem folders_cases (names : List Text) :
    folders names = [] ∨ ∃ before, folders names = before ++ ['/'] := by
  rcases List.eq_nil_or_concat names with rfl | ⟨names, name, rfl⟩
  · exact .inl rfl
  · exact .inr ⟨folders names ++ name, by simp [folders]⟩

theorem withoutEnding_append (t suffix : Text) : (t ++ suffix).withoutEnding suffix = t := by
  rcases withoutEnding_cases (t ++ suffix) suffix with h | ⟨h, -⟩
  · exact (List.append_cancel_right h).symm
  · exact absurd (List.suffix_append t suffix) h

/-- A path is cut behind its last slash. -/
theorem namePart_append (hname : ∀ c ∈ name, isSlash c = false)
    (hdirectory : directory = [] ∨
      ∃ before slash, directory = before ++ [slash] ∧ isSlash slash = true) :
    (directory ++ name).namePart = name := by
  have hreversed : ∀ c ∈ name.reverse, (!isSlash c) = true := fun c hc => by
    rw [hname c (List.mem_reverse.mp hc)]
    rfl
  have hnone : directory.reverse.takeWhile (fun c => !isSlash c) = [] := by
    rcases hdirectory with rfl | ⟨before, slash, rfl, hslash⟩
    · rfl
    · simp [hslash]
  rw [namePart, List.reverse_append, List.takeWhile_append_of_pos hreversed, hnone,
    List.append_nil, List.reverse_reverse]

theorem parts_of_not_slash (h : ∀ c ∈ t, isSlash c = false) :
    t.namePart = t ∧ t.directoryPart = [] := by
  have hname : t.namePart = t := @namePart_append [] t h (.inl rfl)
  have hparts := directoryPart_append_namePart t
  rw [hname] at hparts
  exact ⟨hname, List.append_left_eq_self.mp hparts⟩

/-- Directories in front of a path belong to its directory part. -/
theorem parts_folders (names : List Text) (t : Text) :
    (folders names ++ t).namePart = t.namePart ∧
      (folders names ++ t).directoryPart = folders names ++ t.directoryPart := by
  have hsplit : folders names ++ t = folders names ++ t.directoryPart ++ t.namePart := by
    rw [List.append_assoc, directoryPart_append_namePart]
  have hname : (folders names ++ t).namePart = t.namePart := by
    rw [hsplit]
    refine namePart_append (fun c => isSlash_of_mem_namePart) ?_
    rcases directoryPart_cases t with hnil | ⟨before, slash, hbefore, hslash⟩
    · rw [hnil, List.append_nil]
      exact (folders_cases names).imp_right fun ⟨before, h⟩ => ⟨before, '/', h, by decide⟩
    · rw [hbefore, ← List.append_assoc]
      exact .inr ⟨_, slash, rfl, hslash⟩
  refine ⟨hname, ?_⟩
  have hparts := directoryPart_append_namePart (folders names ++ t)
  rw [hname] at hparts
  exact List.append_cancel_right (hparts.trans hsplit)

end Text

namespace Path

theorem start_ofText {t : Text} (h : t.head? ≠ some '/') : Start.ofText t = .here := by
  cases t with
  | nil => rfl
  | cons c t =>
      have hc : c ≠ '/' := fun hc => h (congrArg some hc)
      simp [Start.ofText, hc]

theorem foldl_child (p : Path) (names : List Text) :
    names.foldl child p = { p with names := p.names ++ names } := by
  induction names generalizing p with
  | nil => simp
  | cons name names ih =>
      rw [List.foldl_cons, ih, child]
      simp

end Path

open Text

namespace Locale

theorem stripFromFileName_folders (names : List Text) (t suffix : Text) :
    stripFromFileName (folders names ++ (t ++ suffix)) suffix =
      folders names ++ stripFromFileName (t ++ suffix) suffix := by
  obtain ⟨hname, hdirectory⟩ := parts_folders names t
  unfold stripFromFileName
  rw [← List.append_assoc, withoutEnding_append, withoutEnding_append]
  dsimp only
  rw [hname, hdirectory]
  cases boundary t.namePart with
  | none => rfl
  | some found => exact List.append_assoc _ _ _

theorem ofFileName_folders (names : List Text) (t suffix : Text) :
    ofFileName (folders names ++ (t ++ suffix)) suffix = ofFileName (t ++ suffix) suffix := by
  unfold ofFileName
  rw [← List.append_assoc, withoutEnding_append, withoutEnding_append, (parts_folders names t).1]

end Locale

namespace ClassName

variable {className t : Text}

/-- A path with dots for slashes of either kind. -/
def dotted (t : Text) : Text :=
  (t.replaceChar '\\' '.').replaceChar '/' '.'

theorem ofFile_eq_dotted (file suffix : Text) :
    ofFile file suffix = dotted (Locale.stripFromFileName file suffix) := rfl

theorem dotted_append (t u : Text) : dotted (t ++ u) = dotted t ++ dotted u := by
  simp [dotted, replaceChar]

theorem length_dotted (t : Text) : (dotted t).length = t.length := by
  simp [dotted, replaceChar]

theorem dotted_of_not_slash (h : ∀ c ∈ t, isSlash c = false) : dotted t = t := by
  have hself : ∀ c ∈ t, (if (if c = '\\' then '.' else c) = '/' then '.' else
      if c = '\\' then '.' else c) = c := by
    intro c hc
    have hslash := h c hc
    simp only [isSlash, Bool.or_eq_false_iff, decide_eq_false_iff_not] at hslash
    rw [if_neg hslash.2, if_neg hslash.1]
  unfold dotted replaceChar
  rw [List.map_map]
  exact (List.map_congr_left hself).trans (List.map_id t)

theorem dotted_folders {names : List Text} (h : ∀ name ∈ names, ∀ c ∈ name, isSlash c = false) :
    dotted (folders names) = names.flatMap (· ++ ['.']) := by
  induction names with
  | nil => rfl
  | cons name names ih =>
      rw [folders_cons, dotted_append, dotted_of_not_slash (h name List.mem_cons_self),
        List.flatMap_cons, ← ih fun other hother => h other (List.mem_cons_of_mem _ hother),
        List.append_assoc]
      rfl

theorem slash_not_mem_dotted (t : Text) : '/' ∉ dotted t := by
  unfold dotted
  intro hmem
  obtain ⟨c, -, heq⟩ := List.mem_map.mp hmem
  split at heq
  · cases heq
  · contradiction

theorem slash_not_mem_ofFile (file suffix : Text) : '/' ∉ ofFile file suffix :=
  slash_not_mem_dotted _

theorem dotted_folders_cons (name : Text) (names : List Text) :
    dotted (folders (name :: names)) = dotted name ++ '.' :: dotted (folders names) := by
  rw [folders_cons, dotted_append]
  rfl

theorem ofFile_folders (names : List Text) (t suffix : Text) :
    ofFile (folders names ++ (t ++ suffix)) suffix =
      dotted (folders names) ++ ofFile (t ++ suffix) suffix := by
  rw [ofFile_eq_dotted, Locale.stripFromFileName_folders, dotted_append, ← ofFile_eq_dotted]

theorem simple_append_dot (before after : Text) : simple (before ++ '.' :: after) = simple after := by
  unfold simple
  rw [cutLast_append_cons]
  cases after.cutLast '.' <;> rfl

theorem simple_folders (names : List Text) (t : Text) :
    simple (dotted (folders names) ++ t) = simple t := by
  induction names with
  | nil => rfl
  | cons name names ih =>
      rw [dotted_folders_cons, List.append_assoc, List.cons_append, simple_append_dot, ih]

/-- A segment without slashes and dots leads to one directory, or nowhere if it is empty. -/
theorem div_segment (p : Path) {segment : Text} (hslash : '/' ∉ segment) (hdot : '.' ∉ segment) :
    p / Path.ofText segment = if segment = [] then p else p.child segment := by
  have hstart : (Path.ofText segment).start = .here :=
    Path.start_ofText fun hhead => hslash (List.mem_of_mem_head? hhead)
  have hne : segment ≠ ['.'] := by
    rintro rfl
    exact hdot List.mem_cons_self
  have hnames : (Path.ofText segment).names = if segment = [] then [] else [segment] := by
    show (segment.splitOn '/').filter Path.isName = _
    rw [splitOn_of_not_mem hslash]
    by_cases hnil : segment = [] <;> simp [Path.isName, hnil, hne]
  show Path.append p (Path.ofText segment) = _
  unfold Path.append Path.child
  rw [hstart, hnames]
  by_cases hnil : segment = []
  · simp [hnil]
  · simp [hnil]

theorem foldl_div_segments (p : Path) {segments : List Text}
    (h : ∀ segment ∈ segments, '/' ∉ segment ∧ '.' ∉ segment) :
    segments.foldl (fun p segment => p / Path.ofText segment) p =
      (segments.filter (· ≠ [])).foldl Path.child p := by
  induction segments generalizing p with
  | nil => rfl
  | cons segment segments ih =>
      obtain ⟨hslash, hdot⟩ := h segment List.mem_cons_self
      rw [List.foldl_cons, div_segment p hslash hdot,
        ih _ fun other hother => h other (List.mem_cons_of_mem _ hother)]
      by_cases hnil : segment = []
      · rw [if_pos hnil, List.filter_cons_of_neg (by simpa using hnil)]
      · rw [if_neg hnil, List.filter_cons_of_pos (by simpa using hnil), List.foldl_cons]

/-- The names of the directories that a class name goes through. -/
def directoryNames (className : Text) : List Text :=
  (className.splitOn '.').dropLast.filter (· ≠ [])

theorem directory_eq (root : Path) (h : '/' ∉ className) :
    directory root className = (directoryNames className).foldl Path.child root := by
  unfold directory package? directoryNames
  cases hcut : className.cutLast '.' with
  | none =>
      rw [splitOn_of_not_mem (cutLast_eq_none_iff.mp hcut)]
      rfl
  | some parts =>
      obtain ⟨package, name⟩ := parts
      obtain ⟨hname, rfl⟩ := cutLast_eq_some_iff.mp hcut
      rw [splitOn_append_cons, splitOn_of_not_mem hname, List.dropLast_concat]
      refine foldl_div_segments root fun segment hsegment => ?_
      exact ⟨fun hmem => h (List.mem_append_left _ (mem_of_mem_splitOn hsegment hmem).1),
        fun hmem => (mem_of_mem_splitOn hsegment hmem).2 rfl⟩

end ClassName
end MessageCatalog
