import MessageCatalog.Proofs.Generated.DocComment
import MessageCatalog.Proofs.Text.LineBreak

/-!
# The lines of the comment of a generated member

Every line in the comment of a member is meant to begin with the indent and a star, so that a reader
sees where the comment goes on. The lines are put together from filled texts. The summary is filled
without a width and is broken at its own line breaks only; the comment of the resource is filled to
a width, and a word that reaches it takes the line break behind it along into its line.

**Results.**
* `IsCommentLine`: a line that begins as those of a comment do.
* `commentBlock_lines_iff`: filled texts have no line breaks, and the comment of a member has no
  other lines than those of a comment, exactly if no word runs over a line break.
-/

namespace MessageCatalog

open Text

variable {name text line indent : Text} {comment : Option Text} {lines : List Text}

/-- The line is the first one of a comment, or it begins with a star. -/
def IsCommentLine (indent line : Text) : Prop :=
  (indent ++ "/**" : Text) <+: line ∨ (indent ++ " *" : Text) <+: line

theorem isCommentLine_starLine (indent line : Text) :
    IsCommentLine indent (starLine indent line) := by
  refine .inr ⟨' ' :: line, ?_⟩
  simp [starLine]

theorem endsOnce_starLine (hindent : indent.IsLine) (h : line.EndsOnce) :
    ∃ front, IsLine front ∧
      (starLine indent line = front ∨ starLine indent line = front ++ ['\r']) ∧
      IsCommentLine indent front := by
  obtain ⟨front, hfront, hline⟩ := h
  have hstar : IsLine (indent ++ " * ") := isLine_append indent hindent (by decide)
  refine ⟨starLine indent front, isLine_append _ hstar hfront, ?_, isCommentLine_starLine _ _⟩
  rcases hline with rfl | rfl
  · exact .inl rfl
  · exact .inr (List.append_assoc _ _ _).symm

theorem forall_naturalLines {P : Text → Prop} {last : Text}
    (hlines : ∀ line ∈ lines, ∃ front, IsLine front ∧ (line = front ∨ line = front ++ ['\r']) ∧
      P front) (hlast : IsLine last) (hP : P last) :
    ∀ line ∈ naturalLines (unlines lines ++ last), P line := by
  induction lines with
  | nil =>
      have hsingle : naturalLines (unlines [] ++ last) = [last] := naturalLines_of_isLine hlast
      rw [hsingle]
      exact List.forall_mem_singleton.mpr hP
  | cons first lines ih =>
      obtain ⟨⟨front, hfront, hfirst, hPfront⟩, hrest⟩ := List.forall_mem_cons.mp hlines
      have hunlines : unlines (first :: lines) ++ last =
          first ++ '\n' :: (unlines lines ++ last) := by
        simp [unlines]
      rw [hunlines, naturalLines_endsOnce hfront hfirst]
      exact List.forall_mem_cons.mpr ⟨hPfront, ih hrest⟩

theorem isCommentLine_of_endsOnce (hindent : indent.IsLine)
    (h : ∀ remark ∈ comment, ∀ line ∈ remark.filled commentWidth, line.EndsOnce) :
    ∀ line ∈ naturalLines (commentBlock name text comment indent), IsCommentLine indent line := by
  rw [commentBlock_eq]
  have hsummary : ∀ line ∈ (summaryOf name text).filled (-1), line.IsLine :=
    (filled_isLine_iff _ _).mpr fun rest hrest => absurd hrest.positive (by decide)
  have hopening : IsLine (indent ++ "/**") := isLine_append indent hindent (by decide)
  have hblank : IsLine (indent ++ " *") := isLine_append indent hindent (by decide)
  refine forall_naturalLines (List.forall_mem_cons.mpr ⟨?_, List.forall_mem_append.mpr ⟨?_, ?_⟩⟩)
    (isLine_append indent hindent (by decide)) (.inr ⟨['/'], by simp⟩)
  · exact ⟨_, hopening, .inl rfl, .inl (List.prefix_refl _)⟩
  · rcases comment with _ | _ | ⟨c, comment⟩
    · exact List.forall_mem_nil _
    · exact List.forall_mem_nil _
    · refine List.forall_mem_append.mpr ⟨List.forall_mem_map.mpr fun line hline => ?_, ?_⟩
      · exact endsOnce_starLine hindent (h _ rfl line hline)
      · exact List.forall_mem_singleton.mpr ⟨_, hblank, .inl rfl, .inr (List.prefix_refl _)⟩
  · refine List.forall_mem_map.mpr fun line hline => ?_
    exact endsOnce_starLine hindent ⟨line, hsummary line hline, .inl rfl⟩

/-- Behind a line break in a filled line stands a line that goes no further than the filled one. -/
theorem exists_naturalLines_behind_break {front excess : Text} {c : Char} (hfront : front.IsLine)
    (hbreak : isBreak c = true) (hlone : c = '\r' → excess ≠ []) (t : Text) :
    ∃ line ∈ naturalLines (front ++ c :: excess ++ '\n' :: t), line ⊆ excess := by
  obtain ⟨behind, hsubset, hlines⟩ : ∃ behind : Text, behind ⊆ excess ∧
      naturalLines (front ++ c :: excess ++ '\n' :: t) =
        front :: naturalLines (behind ++ '\n' :: t) := by
    by_cases hpair : c = '\r' ∧ excess.head? = some '\n'
    · obtain ⟨rfl, hfeed⟩ := hpair
      obtain ⟨behind, rfl⟩ := List.head?_eq_some_iff.mp hfeed
      refine ⟨behind, List.subset_cons_self _ _, ?_⟩
      rw [← naturalLines_endsOnce hfront (.inr rfl)]
      simp
    · refine ⟨excess, List.Subset.refl _, ?_⟩
      rw [List.append_assoc, List.cons_append]
      refine naturalLines_break hfront (isBreak_iff.mp hbreak) fun hc hfeed => hpair ⟨hc, ?_⟩
      obtain ⟨d, rest, rfl⟩ := List.exists_cons_of_ne_nil (hlone hc)
      exact hfeed
  obtain ⟨line, rest, hfirst, hline⟩ := exists_naturalLines_subset behind t
  refine ⟨line, ?_, List.Subset.trans hline hsubset⟩
  rw [hlines, hfirst]
  exact .tail front (.head rest)

theorem not_isCommentLine (hspace : ' ' ∈ indent) (hline : ' ' ∉ line) :
    ¬ IsCommentLine indent line := by
  rintro (hstar | hstar)
  · exact hline (hstar.subset (List.mem_append_left _ hspace))
  · exact hline (hstar.subset (List.mem_append_left _ hspace))

theorem starLine_mem_leadingLines (name text indent : Text) {remark : Text}
    (hremark : comment = some remark) (hline : line ∈ remark.filled commentWidth) :
    starLine indent line ∈ leadingLines name text comment indent := by
  subst hremark
  cases remark with
  | nil =>
      rw [filled] at hline
      cases hline
  | cons c remark =>
      exact .tail _ (List.mem_append_left _ (List.mem_append_left _ (List.mem_map_of_mem hline)))

/-- If the indent has a space, a filled line of the comment that is more than one line gives a line
that is not one of a comment. -/
theorem endsOnce_of_isCommentLine (hindent : indent.IsLine) (hspace : ' ' ∈ indent)
    (h : ∀ line ∈ naturalLines (commentBlock name text comment indent), IsCommentLine indent line) :
    ∀ remark ∈ comment, ∀ line ∈ remark.filled commentWidth, line.EndsOnce := by
  intro remark hremark line hline
  rcases isLine_or_exists_break commentWidth remark line hline with
    hisLine | ⟨front, c, excess, rfl, hfront, hbreak, hexcess⟩
  · exact ⟨line, hisLine, .inl rfl⟩
  by_contra hends
  have hlone : c = '\r' → excess ≠ [] := by
    rintro rfl rfl
    exact hends ⟨front, hfront, .inr rfl⟩
  have hstar : IsLine (indent ++ " * " ++ front) :=
    isLine_append _ (isLine_append indent hindent (by decide)) hfront
  -- the lines behind the break are lines of the whole comment
  obtain ⟨before, after, hsplit⟩ := List.append_of_mem
    (starLine_mem_leadingLines name text indent hremark hline)
  have hblock : commentBlock name text comment indent = unlines before ++
      (indent ++ " * " ++ front ++ c :: excess ++
        '\n' :: (unlines after ++ (indent ++ [' ', '*', '/']))) := by
    rw [commentBlock_eq, hsplit]
    simp [unlines, starLine]
  obtain ⟨other, hother, hsubset⟩ := exists_naturalLines_behind_break hstar hbreak hlone
    (unlines after ++ (indent ++ [' ', '*', '/']))
  rw [hblock] at h
  exact not_isCommentLine hspace (fun hmem => hexcess (hsubset hmem))
    (h other (mem_naturalLines_unlines_append before hother))

/-- No filled line has a line break exactly if no word that reaches the width stands in front of
one. If in the comment of a resource such a word stands in front of a lone carriage return at most,
all lines in the comment of its member are those of a comment; and only then, if the indent has a
space. -/
theorem commentBlock_lines_iff (width : Int) (t name text : Text) (comment : Option Text)
    (indent : Text) :
    ((∀ line ∈ t.filled width, line.IsLine) ↔ ∀ rest, ¬ RunsOver width t rest) ∧
    (indent.IsLine →
      ((∀ remark ∈ comment, ∀ rest, RunsOver commentWidth remark rest → IsLoneReturn rest) →
        ∀ line ∈ naturalLines (commentBlock name text comment indent),
          IsCommentLine indent line) ∧
      (' ' ∈ indent →
        (∀ line ∈ naturalLines (commentBlock name text comment indent),
          IsCommentLine indent line) →
        ∀ remark ∈ comment, ∀ rest, RunsOver commentWidth remark rest → IsLoneReturn rest)) := by
  refine ⟨filled_isLine_iff width t,
    fun hindent => ⟨fun h => ?_, fun hspace h remark hremark => ?_⟩⟩
  · exact isCommentLine_of_endsOnce hindent fun remark hremark =>
      (filled_endsOnce_iff commentWidth remark).mpr (h remark hremark)
  · exact (filled_endsOnce_iff commentWidth remark).mp
      (endsOnce_of_isCommentLine hindent hspace h remark hremark)

/-- A comment with a word of seventy characters at the end of a line. -/
def wideComment : Text :=
  List.replicate 70 'w' ++ "\nb"

/-- Filling takes the break behind a word that reaches the width into its line, and a line of the
comment of a member then has no star. -/
theorem wideComment_loses_star :
    (¬ ∀ line ∈ filled 5 "aaaaa\nb c", line.IsLine) ∧
      filled 5 "aaaaa\nb c" = ["aaaaa\nb".toList, "c".toList] ∧
      IsLine (List.replicate 4 ' ') ∧
      ¬ ∀ line ∈ naturalLines (commentBlock "a" "x" (some wideComment) (List.replicate 4 ' ')),
        IsCommentLine (List.replicate 4 ' ') line := by
  obtain ⟨hfilled, hblock⟩ := commentBlock_lines_iff 5 "aaaaa\nb c" "a" "x" (some wideComment)
    (List.replicate 4 ' ')
  have hword (n : Nat) {d : Char} (hd : isGap d = false) :
      ∀ c ∈ List.replicate n d, isGap c = false :=
    fun c hc => List.eq_of_mem_replicate hc ▸ hd
  have hshort : RunsOver 5 "aaaaa\nb c" "\nb c" :=
    ⟨by decide, ⟨'\n', rfl, rfl⟩, [], List.replicate 5 'a', rfl, hword 5 rfl, by decide⟩
  have hwide : RunsOver commentWidth wideComment "\nb" :=
    ⟨by decide, ⟨'\n', rfl, rfl⟩, [], List.replicate 70 'w', rfl, hword 70 rfl, by decide⟩
  have hindent : IsLine (List.replicate 4 ' ') := by decide
  refine ⟨fun h => hfilled.mp h _ hshort, by decide +kernel, hindent, fun h => ?_⟩
  have hlone := (hblock hindent).2 (by decide) h _ rfl _ hwide
  rcases hlone with hreturn | hreturn
  · exact absurd hreturn (by decide)
  · exact absurd hreturn (by decide)

end MessageCatalog
