import MessageCatalog.Proofs.Text.Part
import MessageCatalog.Proofs.Text.Replacement
import MessageCatalog.Text.Blank

/-!
# Words and the spaces between them

The words of a text have characters, none of which is blank. When words are put together, a space
stands in front of each one, unless it is left out; whether it is depends on the characters on both
sides of it. A replacement that takes the space behind or in front of a character away leaves the
words as they are and leaves out the spaces at this character.

**Results.**
* `IsSolid`, `isSolid_of_mem_words`: what words are like.
* `spaced`, `join_eq_spaced`: words with spaces between them, all of them or some.
* `replace_space_behind`, `replace_space_before`: the spaces that a replacement leaves out.
-/

namespace MessageCatalog
namespace Text

variable {w word t : Text} {ws : List Text} {c : Char}

/-- The text has characters, and none of them is blank. -/
structure IsSolid (w : Text) : Prop where
  ne_nil : w ≠ []
  isBlank : ∀ c ∈ w, isBlank c = false

theorem IsSolid.space_not_mem (h : IsSolid w) : ' ' ∉ w :=
  fun hmem => absurd (h.isBlank ' ' hmem) (by decide)

/-- A word that has been begun ends as a word. -/
theorem isSolid_of_mem_wordsFrom (hword : ∀ c ∈ word, isBlank c = false)
    (hw : w ∈ wordsFrom word t) : IsSolid w := by
  induction t generalizing word with
  | nil =>
      cases word with
      | nil => cases hw
      | cons c word =>
          rw [wordsFrom, List.mem_singleton] at hw
          · exact ⟨by simp [hw], fun d hd => hword d (List.mem_reverse.mp (hw ▸ hd))⟩
          · exact List.cons_ne_nil c word
  | cons c t ih =>
      rw [wordsFrom] at hw
      by_cases hc : isBlank c = true
      · rw [if_pos hc] at hw
        by_cases hnil : word.isEmpty = true
        · rw [if_pos hnil] at hw
          exact ih (fun _ h => absurd h List.not_mem_nil) hw
        · rw [if_neg hnil] at hw
          rcases List.mem_cons.mp hw with rfl | hw
          · exact ⟨by simpa using hnil, fun d hd => hword d (List.mem_reverse.mp hd)⟩
          · exact ih (fun _ h => absurd h List.not_mem_nil) hw
      · rw [if_neg hc] at hw
        refine ih (fun d hd => ?_) hw
        rcases List.mem_cons.mp hd with rfl | hd
        · exact Bool.eq_false_iff.mpr hc
        · exact hword d hd

theorem isSolid_of_mem_words (hw : w ∈ t.words) : IsSolid w :=
  isSolid_of_mem_wordsFrom (fun _ h => absurd h List.not_mem_nil) hw

/-- The words with a space in front of each one, unless it is left out between what stands on its two
sides. -/
def spaced (leavesOut : Option Char → Option Char → Bool) : Option Char → List Text → Text
  | _, [] => []
  | last, w :: ws =>
      (if leavesOut last w.head? then [] else [' ']) ++ (w ++ spaced leavesOut w.getLast? ws)

variable {leavesOut : Option Char → Option Char → Bool} {last : Option Char}

theorem spaced_cons_of_leavesOut (h : leavesOut last w.head? = true) (ws : List Text) :
    spaced leavesOut last (w :: ws) = w ++ spaced leavesOut w.getLast? ws := by
  rw [spaced, if_pos h, List.nil_append]

theorem spaced_cons_of_not (h : leavesOut last w.head? = false) (ws : List Text) :
    spaced leavesOut last (w :: ws) = ' ' :: (w ++ spaced leavesOut w.getLast? ws) := by
  rw [spaced, if_neg (Bool.eq_false_iff.mp h), List.singleton_append]

/-- Joined words have a space in front of each one but the first. -/
theorem join_eq_spaced (hws : ∀ w ∈ ws, IsSolid w) :
    join [' '] ws = spaced (fun last _ => last.isNone) none ws := by
  cases ws with
  | nil => rfl
  | cons w ws =>
      rw [spaced_cons_of_leavesOut rfl]
      induction ws generalizing w with
      | nil => rw [join_singleton, spaced, List.append_nil]
      | cons next ws ih =>
          have hrest := ih next fun other hother => hws other (List.mem_cons_of_mem _ hother)
          have hlast : w.getLast?.isNone = false := by
            simpa using (hws w List.mem_cons_self).ne_nil
          rw [join_cons_cons, hrest, spaced_cons_of_not hlast, List.append_assoc,
            List.singleton_append]

/-- A text without spaces stays as it is, unless it ends with the character and a space follows. -/
theorem replace_append_of_space {new behind : Text} (hw : ' ' ∉ w)
    (hbehind : behind.head? = some ' ' → w.getLast? ≠ some c) :
    replace (w ++ behind) [c, ' '] new = w ++ replace behind [c, ' '] new := by
  induction w with
  | nil => rfl
  | cons d w ih =>
      rw [List.mem_cons, not_or] at hw
      cases w with
      | nil =>
          refine replace_pair_cons fun rest hd hrest => ?_
          exact hbehind (congrArg List.head? hrest) (congrArg some hd)
      | cons e w =>
          have hrest := ih hw.2 fun hhead => by simpa using hbehind hhead
          refine (replace_pair_cons fun rest _ hfirst => ?_).trans (congrArg (d :: ·) hrest)
          exact hw.2 ((List.cons.inj hfirst).1 ▸ List.mem_cons_self)

/-- Without the spaces behind a character the words are spaced as they were but for these. -/
theorem replace_space_behind (hc : c ≠ ' ') (hw : ' ' ∉ w) (hws : ∀ w ∈ ws, IsSolid w) :
    replace (w ++ spaced leavesOut w.getLast? ws) [c, ' '] [c] =
      w ++ spaced (fun last first => leavesOut last first || last = some c) w.getLast? ws := by
  induction ws generalizing w with
  | nil =>
      rw [spaced, spaced]
      exact replace_append_of_space hw (by simp)
  | cons next ws ih =>
      have hnext := hws next List.mem_cons_self
      have hrest := ih hnext.space_not_mem fun other hother => hws other (List.mem_cons_of_mem _ hother)
      cases hout : leavesOut w.getLast? next.head? with
      | true =>
          rw [spaced_cons_of_leavesOut hout, spaced_cons_of_leavesOut (by simp [hout]), ← hrest]
          refine replace_append_of_space hw fun hhead => ?_
          obtain ⟨d, next, rfl⟩ := List.exists_cons_of_ne_nil hnext.ne_nil
          exact absurd (Option.some.inj hhead ▸ List.mem_cons_self) hnext.space_not_mem
      | false =>
          rw [spaced_cons_of_not hout]
          by_cases hlast : w.getLast? = some c
          · obtain ⟨front, rfl⟩ := List.getLast?_eq_some_iff.mp hlast
            have hfront : ' ' ∉ front := fun hmem => hw (List.mem_append_left _ hmem)
            rw [spaced_cons_of_leavesOut (by simp), ← hrest, List.append_assoc, List.append_assoc,
              replace_append_of_space hfront fun hhead => absurd (by simpa using hhead) hc]
            exact congrArg _ (replace_append_left (List.cons_ne_nil _ _) [c] _)
          · rw [spaced_cons_of_not (by simp [hout, hlast]), replace_append_of_space hw fun _ => hlast,
              ← hrest]
            exact congrArg _ (replace_pair_cons fun _ h => absurd h.symm hc)

/-- Without the spaces in front of a character the words are spaced as they were but for these. -/
theorem replace_space_before (hws : ∀ w ∈ ws, IsSolid w) (last : Option Char) :
    replace (spaced leavesOut last ws) [' ', c] [c] =
      spaced (fun last first => leavesOut last first || first = some c) last ws := by
  induction ws generalizing last with
  | nil => rfl
  | cons w ws ih =>
      have hw := hws w List.mem_cons_self
      have hrest := ih (fun other hother => hws other (List.mem_cons_of_mem _ hother)) w.getLast?
      cases hout : leavesOut last w.head? with
      | true =>
          rw [spaced_cons_of_leavesOut hout, spaced_cons_of_leavesOut (by simp [hout]),
            replace_append_of_not_mem hw.space_not_mem, hrest]
      | false =>
          rw [spaced_cons_of_not hout]
          by_cases hfirst : w.head? = some c
          · obtain ⟨behind, rfl⟩ := List.head?_eq_some_iff.mp hfirst
            have hbehind : ' ' ∉ behind := fun hmem => hw.space_not_mem (List.mem_cons_of_mem _ hmem)
            rw [spaced_cons_of_leavesOut (by simp), List.cons_append, List.cons_append, ← hrest,
              ← replace_append_of_not_mem hbehind]
            exact replace_append_left (List.cons_ne_nil _ _) [c] _
          · rw [spaced_cons_of_not (by simp [hout, hfirst]), ← hrest,
              ← replace_append_of_not_mem hw.space_not_mem]
            refine replace_pair_cons fun rest _ hrest => ?_
            obtain ⟨d, behind, rfl⟩ := List.exists_cons_of_ne_nil hw.ne_nil
            exact hfirst (by rw [(List.cons.inj hrest).1]; rfl)

end Text
end MessageCatalog
