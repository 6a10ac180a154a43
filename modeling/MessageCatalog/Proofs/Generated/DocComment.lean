import MessageCatalog.Generated.Description
import MessageCatalog.Proofs.Text.Filled
import Mathlib.Tactic.Common

/-!
# The comment of a generated member

The name, the text and the comment of a resource are free text in a block comment of the generated
file. Escaping as character data does not touch what ends such a comment, and filling does not cut it
in two, so that it is in the block exactly if it was in one of the three. Nothing else in the block
ends the comment: the lines begin with a star and a space, and the escapes have neither star nor
slash.

**Results.**
* `Text.infix_markup_iff`: escaping keeps the occurrences of a word that no escape has a part of.
* `IsBlockComment`: a text is one block comment behind its indent.
* `commentBlock_isBlockComment_iff`: when the comment of a member is one block comment.
-/

namespace MessageCatalog

namespace Text

variable {p t : Text} {c : Char}

section Escaping

/-- The character is written as itself, and for no other one. -/
structure IsVerbatim (c : Char) : Prop where
  own : markupEscape c = [c]
  only : ∀ d, c ∈ markupEscape d → d = c

theorem markupEscape_ne_nil (c : Char) : markupEscape c ≠ [] := by
  unfold markupEscape
  split <;> simp

theorem prefix_markup_iff (hp : ∀ c ∈ p, IsVerbatim c) : p <+: t.markup ↔ p <+: t := by
  induction p generalizing t with
  | nil => simp
  | cons c p ih =>
      cases t with
      | nil => rfl
      | cons d t =>
          have hc := hp c List.mem_cons_self
          rw [markup, List.flatMap_cons]
          by_cases hd : d = c
          · subst hd
            rw [hc.own, List.singleton_append, List.cons_prefix_cons, List.cons_prefix_cons]
            exact and_congr_right fun _ => ih fun e he => hp e (List.mem_cons_of_mem _ he)
          · refine iff_of_false (fun h => hd ?_) fun h => hd (List.cons_prefix_cons.mp h).1.symm
            obtain ⟨e, escape, hescape⟩ := List.exists_cons_of_ne_nil (markupEscape_ne_nil d)
            rw [hescape, List.cons_append, List.cons_prefix_cons] at h
            exact hc.only d (by rw [hescape, h.1]; exact List.mem_cons_self)

theorem infix_markup_iff (hne : p ≠ []) (hp : ∀ c ∈ p, IsVerbatim c) :
    p <:+: t.markup ↔ p <:+: t := by
  induction t with
  | nil => rfl
  | cons d t ih =>
      by_cases hd : d ∈ p
      · have hmarkup : markup (d :: t) = d :: markup t := by
          rw [markup, List.flatMap_cons, (hp d hd).own]
          rfl
        rw [hmarkup, List.infix_cons_iff, List.infix_cons_iff, ih, ← hmarkup, prefix_markup_iff hp]
      · have hescape : ∀ e ∈ markupEscape d, e ∉ p :=
          fun e he hmem => hd ((hp e hmem).only d he ▸ hmem)
        rw [markup, List.flatMap_cons, infix_append_iff_of_disjoint hne hescape,
          ← List.singleton_append (x := d), infix_append_iff_of_disjoint hne (by simpa using hd)]
        exact ih

end Escaping

theorem infix_unlines_append_iff (hbreak : '\n' ∉ p) (lines : List Text) (last : Text) :
    p <:+: unlines lines ++ last ↔ (∃ line ∈ lines, p <:+: line) ∨ p <:+: last := by
  induction lines with
  | nil => simp [unlines]
  | cons line lines ih =>
      have hcons : unlines (line :: lines) ++ last =
          line ++ '\n' :: (unlines lines ++ last) := by
        simp [unlines]
      rw [hcons, infix_append_cons_iff hbreak, ih, ← or_assoc]
      simp only [List.mem_cons, exists_eq_or_imp]

end Text

open Text

/-- What ends a block comment. -/
def commentEnd : Text := ['*', '/']

/-- Behind the indent the text is one block comment: it is opened there, and ends where it is closed
for the first time. -/
structure IsBlockComment (indent t : Text) : Prop where
  opening : (indent ++ "/**" : Text) <+: t
  closing : commentEnd <:+ t
  once : ∀ before after, t = before ++ (commentEnd ++ after) → after = []

theorem mem_commentEnd_iff {c : Char} : c ∈ commentEnd ↔ c = '*' ∨ c = '/' := by
  simp [commentEnd]

theorem isWord_commentEnd : IsWord commentEnd where
  ne_nil := List.cons_ne_nil _ _
  isGap := by
    intro c hc
    rcases mem_commentEnd_iff.mp hc with rfl | rfl <;> rfl

theorem commentEnd_not_within {t : Text} (h : '*' ∉ t) : ¬ commentEnd <:+: t :=
  fun hwithin => h (hwithin.subset List.mem_cons_self)

theorem isVerbatim_of_mem_commentEnd : ∀ c ∈ commentEnd, IsVerbatim c := by
  intro c hc
  have hcases := mem_commentEnd_iff.mp hc
  refine ⟨by rcases hcases with rfl | rfl <;> rfl, fun d hd => ?_⟩
  unfold markupEscape at hd
  split at hd
  case h_6 => exact (List.mem_singleton.mp hd).symm
  all_goals
    rcases hcases with rfl | rfl <;> revert hd <;> decide

section Block

variable {name text line indent : Text} {comment : Option Text}

/-- The line that says the name of a member and its text. -/
def summaryOf (name text : Text) : Text :=
  "<code>" ++ name ++ "</code> is '<code>" ++ text.markup ++ "</code>'"

/-- A line of free text in the comment of a member. -/
def starLine (indent line : Text) : Text :=
  indent ++ " * " ++ line

/-- The lines of the comment of a resource and the empty one behind them, if there is a comment. -/
def remarkLines (indent : Text) : Option Text → List Text
  | none => []
  | some [] => []
  | some comment => (comment.filled commentWidth).map (starLine indent) ++ [indent ++ " *"]

/-- The lines of the comment of a member, without the last one. -/
def leadingLines (name text : Text) (comment : Option Text) (indent : Text) : List Text :=
  (indent ++ "/**") ::
    (remarkLines indent comment ++ ((summaryOf name text).filled (-1)).map (starLine indent))

theorem commentBlock_eq (name text : Text) (comment : Option Text) (indent : Text) :
    commentBlock name text comment indent =
      unlines (leadingLines name text comment indent) ++ (indent ++ [' ', '*', '/']) := by
  have hlines : commentLines name text comment indent =
      leadingLines name text comment indent ++ [indent ++ " */"] := by
    unfold commentLines leadingLines remarkLines
    rcases comment with _ | _ | ⟨c, comment⟩ <;> rfl
  unfold commentBlock
  rw [hlines]
  exact join_append_singleton '\n' _ _

theorem infix_summaryOf_iff :
    commentEnd <:+: summaryOf name text ↔ commentEnd <:+: name ∨ commentEnd <:+: text := by
  -- what stands between the free texts, as texts that are not looked into any more
  obtain ⟨first, hfirst, hopening⟩ : ∃ first : Text, '*' ∉ first ∧
      "<code>".toList = first ++ ['>'] := ⟨"<code".toList, by decide, rfl⟩
  obtain ⟨second, hsecond, hmiddle⟩ : ∃ second : Text, '*' ∉ second ∧
      "</code> is '<code>".toList = '<' :: (second ++ ['>']) :=
    ⟨"/code> is '<code".toList, by decide, rfl⟩
  obtain ⟨third, hthird, hclosing⟩ : ∃ third : Text, '*' ∉ third ∧
      "</code>'".toList = '<' :: third := ⟨"/code>'".toList, by decide, rfl⟩
  have hgreater : '>' ∉ commentEnd := by decide
  have hless : '<' ∉ commentEnd := by decide
  unfold summaryOf
  rw [hopening, hmiddle, hclosing]
  simp only [List.append_assoc, List.cons_append, List.nil_append]
  rw [infix_append_cons_iff hgreater, infix_append_cons_iff hless, infix_append_cons_iff hgreater,
    infix_append_cons_iff hless, or_iff_right (commentEnd_not_within hfirst),
    or_iff_right (commentEnd_not_within hsecond), or_iff_left (commentEnd_not_within hthird),
    infix_markup_iff isWord_commentEnd.ne_nil isVerbatim_of_mem_commentEnd]

section Indent

variable (hindent : ∀ c ∈ indent, c ∉ commentEnd)

include hindent

theorem infix_indent_iff : commentEnd <:+: indent ++ line ↔ commentEnd <:+: line :=
  infix_append_iff_of_disjoint isWord_commentEnd.ne_nil hindent

theorem infix_starLine_iff : commentEnd <:+: starLine indent line ↔ commentEnd <:+: line := by
  have hspace : ' ' ∉ commentEnd := by decide
  have hstar : ¬ commentEnd <:+: [' ', '*'] := by decide
  unfold starLine
  rw [List.append_assoc, infix_indent_iff hindent]
  exact (infix_append_cons_iff hspace (a := [' ', '*'])).trans (or_iff_right hstar)

/-- A filled text in the comment of a member ends the comment exactly if it does so itself. -/
theorem infix_starLines_iff (width : Int) :
    (∃ line ∈ (text.filled width).map (starLine indent), commentEnd <:+: line) ↔
      commentEnd <:+: text := by
  rw [← infix_filled_iff width text isWord_commentEnd]
  simp only [List.mem_map, exists_exists_and_eq_and, infix_starLine_iff hindent]

theorem infix_remarkLines_iff :
    (∃ line ∈ remarkLines indent comment, commentEnd <:+: line) ↔
      ∃ remark ∈ comment, commentEnd <:+: remark := by
  rcases comment with _ | _ | ⟨c, comment⟩
  · simp [remarkLines]
  · simp [remarkLines, isWord_commentEnd.ne_nil]
  · have hblank : ¬ commentEnd <:+: indent ++ [' ', '*'] := by
      rw [infix_indent_iff hindent]
      decide
    have hremark : (∃ line ∈ (filled commentWidth (c :: comment)).map (starLine indent),
        commentEnd <:+: line) ↔ commentEnd <:+: c :: comment :=
      infix_starLines_iff hindent commentWidth
    simp only [remarkLines, List.mem_append, or_and_right, exists_or, hremark, List.mem_singleton,
      exists_eq_left, Option.mem_def, Option.some.injEq, exists_eq_left']
    exact or_iff_left hblank

theorem infix_leadingLines_iff :
    (∃ line ∈ leadingLines name text comment indent, commentEnd <:+: line) ↔
      (∃ remark ∈ comment, commentEnd <:+: remark) ∨
        commentEnd <:+: name ∨ commentEnd <:+: text := by
  have hopening : ¬ commentEnd <:+: indent ++ ['/', '*', '*'] := by
    rw [infix_indent_iff hindent]
    decide
  rw [← infix_remarkLines_iff hindent, ← infix_summaryOf_iff, ← infix_starLines_iff hindent (-1)]
  simp only [leadingLines, List.mem_cons, List.mem_append, or_and_right, exists_or, exists_eq_left]
  exact or_iff_right hopening

/-- The comment of a member ends before its last two characters exactly where the free text in it
ends it. -/
theorem infix_dropLast_commentBlock_iff :
    commentEnd <:+: (commentBlock name text comment indent).dropLast ↔
      (∃ remark ∈ comment, commentEnd <:+: remark) ∨
        commentEnd <:+: name ∨ commentEnd <:+: text := by
  have hbreak : '\n' ∉ commentEnd := by decide
  have hlast : ¬ commentEnd <:+: indent ++ [' ', '*'] := by
    rw [infix_indent_iff hindent]
    decide
  have hdrop : (commentBlock name text comment indent).dropLast =
      unlines (leadingLines name text comment indent) ++ (indent ++ [' ', '*']) := by
    rw [commentBlock_eq]
    simp [List.dropLast_append_of_ne_nil]
  rw [hdrop, infix_unlines_append_iff hbreak, or_iff_left hlast, infix_leadingLines_iff hindent]

end Indent

end Block

/-- The comment of a member begins and ends as a block comment does. It is one exactly if neither the
name nor the text nor the comment of the resource has the two characters that end one. -/
theorem commentBlock_isBlockComment_iff (name text : Text) (comment : Option Text) (n : Nat) :
    (List.replicate n ' ' ++ "/**" : Text) <+:
        commentBlock name text comment (List.replicate n ' ') ∧
      commentEnd <:+ commentBlock name text comment (List.replicate n ' ') ∧
      (IsBlockComment (List.replicate n ' ') (commentBlock name text comment (List.replicate n ' ')) ↔
        ¬ commentEnd <:+: name ∧ ¬ commentEnd <:+: text ∧
          ∀ remark ∈ comment, ¬ commentEnd <:+: remark) := by
  have hindent : ∀ c ∈ List.replicate n ' ', c ∉ commentEnd := by
    intro c hc
    rw [List.eq_of_mem_replicate hc]
    decide
  generalize List.replicate n ' ' = indent at hindent
  have hblock := commentBlock_eq name text comment indent
  have hopening : (indent ++ "/**" : Text) <+: commentBlock name text comment indent := by
    rw [hblock, leadingLines, unlines, List.flatMap_cons, List.append_assoc, List.append_assoc]
    exact List.prefix_append _ _
  have hclosing : commentEnd <:+ commentBlock name text comment indent := by
    rw [hblock]
    exact (List.suffix_append [' '] commentEnd).trans
      ((List.suffix_append indent _).trans (List.suffix_append _ _))
  have honce : (∀ before after,
      commentBlock name text comment indent = before ++ (commentEnd ++ after) → after = []) ↔
      ¬ ((∃ remark ∈ comment, commentEnd <:+: remark) ∨
        commentEnd <:+: name ∨ commentEnd <:+: text) :=
    (occurs_at_end_iff isWord_commentEnd.ne_nil).trans
      (not_congr (infix_dropLast_commentBlock_iff hindent))
  have hcriterion : IsBlockComment indent (commentBlock name text comment indent) ↔
      ¬ ((∃ remark ∈ comment, commentEnd <:+: remark) ∨
        commentEnd <:+: name ∨ commentEnd <:+: text) :=
    ⟨fun h => honce.mp h.once, fun h => ⟨hopening, hclosing, honce.mpr h⟩⟩
  refine ⟨hopening, hclosing, ?_⟩
  rw [hcriterion, not_or, not_or, not_exists]
  simp only [not_and]
  tauto

/-- A text that ends the comment ends it. -/
theorem closing_text_leaves_comment :
    ¬ IsBlockComment (List.replicate 4 ' ')
      (commentBlock "a" "*/" none (List.replicate 4 ' ')) := by
  intro h
  obtain ⟨-, -, hcriterion⟩ := commentBlock_isBlockComment_iff "a" "*/" none 4
  exact (hcriterion.mp h).2.1 (List.infix_refl _)

end MessageCatalog
