import MessageCatalog.Proofs.Text.Line
import MessageCatalog.Proofs.Text.Replacement
import MessageCatalog.Text.Quoted
import Mathlib.Data.Set.Function

/-!
# String literals

Of the characters of a string literal a compiler reads those up to the first quote that no backslash
escapes, and it takes a backslash together with the character behind it. A literal may not go on in
another line, and only some characters may stand behind a backslash. This module states these rules
as a reader and shows that it gets back the text that a literal was made of, wherever the literal
stands.

The escapes can be put in one after the other, each in the whole text. This gives the same literal:
the backslash is the first one, so that no later step escapes what an earlier one has put in, and
none of them puts anything between a line feed and a carriage return.

**Results.**
* `escapeWith_cons`, `isLine_escapeWith`: texts are escaped character by character, and without
  line breaks if no character is written as one.
* `escapeWith_literalEscape`: a literal is made in one pass or in five.
* `readClosing_literal`: the escapes of a literal are undone, up to the line breaks that they merge.
* `literal_readBack`: which text a literal is read as.
-/

namespace MessageCatalog
namespace Text

variable {escape : Char → Text} {c : Char} {t : Text}

/-- A text is escaped character by character, apart from the pairs of a line feed and a carriage
return. -/
theorem escapeWith_cons (hpair : ∀ rest, c = '\n' → t = '\r' :: rest → False) :
    escapeWith escape (c :: t) = escape c ++ escapeWith escape t := by
  rw [escapeWith]
  exact hpair

theorem isLine_escapeWith (h : ∀ c, IsLine (escape c)) (t : Text) :
    IsLine (escapeWith escape t) := by
  induction t using escapeWith.induct with
  | case1 => exact isLine_nil
  | case2 t ih => exact isLine_append ['\\', 'n'] (by decide) ih
  | case3 c t hpair ih =>
      rw [escapeWith_cons hpair]
      exact isLine_append (escape c) (h c) ih

/-- Four characters are escaped, and every other one is written as it is. -/
theorem literalEscape_cases (c : Char) :
    c = '\\' ∨ c = '"' ∨ c = '\n' ∨ c = '\r' ∨
      c ≠ '\\' ∧ c ≠ '"' ∧ c ≠ '\n' ∧ c ≠ '\r' ∧ literalEscape c = [c] := by
  unfold literalEscape
  split
  case h_5 hslash hquote hfeed hreturn =>
    exact .inr (.inr (.inr (.inr ⟨hslash, hquote, hfeed, hreturn, rfl⟩)))
  all_goals simp

theorem isLine_literalEscape (c : Char) : IsLine (literalEscape c) := by
  obtain rfl | rfl | rfl | rfl | ⟨-, -, hfeed, hreturn, hself⟩ := literalEscape_cases c
  case inr.inr.inr.inr =>
    rw [hself]
    exact ⟨by simp [Ne.symm hfeed], by simp [Ne.symm hreturn]⟩
  all_goals decide

/-- How a character is written when only backslashes and quotes are escaped. -/
def quoteEscape (c : Char) : Text :=
  if c = '\\' then ['\\', '\\'] else if c = '"' then ['\\', '"'] else [c]

/-- How a character is written when only line breaks are escaped. -/
def breakEscape (c : Char) : Text :=
  if c = '\n' then ['\\', 'n'] else if c = '\r' then ['\\', 'r'] else [c]

/-- The escapes of a literal put in one after the other: backslashes, quotes, pairs of a line feed
and a carriage return, line feeds, carriage returns. -/
def escapeInTurn (t : Text) : Text :=
  let slashes := replace t ['\\'] ['\\', '\\']
  let quotes := replace slashes ['"'] ['\\', '"']
  let pairs := replace quotes ['\n', '\r'] ['\\', 'n']
  let feeds := replace pairs ['\n'] ['\\', 'n']
  replace feeds ['\r'] ['\\', 'r']

/-- The first two steps and the last two go character by character. -/
theorem escapeInTurn_eq (t : Text) :
    escapeInTurn t =
      (replace (t.flatMap quoteEscape) ['\n', '\r'] ['\\', 'n']).flatMap breakEscape := by
  have hquotes : (fun c : Char => (if c = '\\' then ['\\', '\\'] else [c]).flatMap
      fun c => if c = '"' then ['\\', '"'] else [c]) = quoteEscape := by
    funext c
    unfold quoteEscape
    split <;> simp
  have hbreaks : (fun c : Char => (if c = '\n' then ['\\', 'n'] else [c]).flatMap
      fun c => if c = '\r' then ['\\', 'r'] else [c]) = breakEscape := by
    funext c
    unfold breakEscape
    split <;> simp
  simp only [escapeInTurn, replace_singleton, List.flatMap_assoc, hquotes, hbreaks]

theorem breakEscape_quoteEscape (c : Char) :
    (quoteEscape c).flatMap breakEscape = literalEscape c := by
  obtain rfl | rfl | rfl | rfl | ⟨hslash, hquote, hfeed, hreturn, hself⟩ := literalEscape_cases c
  case inr.inr.inr.inr =>
    rw [hself]
    simp [quoteEscape, breakEscape, hslash, hquote, hfeed, hreturn]
  all_goals decide

/-- Escaped backslashes and quotes make no new pairs of a line feed and a carriage return. -/
theorem replace_flatMap_quoteEscape (hpair : ∀ rest, c = '\n' → t = '\r' :: rest → False)
    (new : Text) :
    replace ((c :: t).flatMap quoteEscape) ['\n', '\r'] new =
      quoteEscape c ++ replace (t.flatMap quoteEscape) ['\n', '\r'] new := by
  rw [List.flatMap_cons]
  by_cases hc : c = '\n'
  · subst hc
    refine replace_pair_cons fun rest _ ht => ?_
    -- what is written for a character begins with a carriage return only if it is one
    cases t with
    | nil => cases ht
    | cons d t =>
        rw [List.flatMap_cons, quoteEscape] at ht
        split at ht
        · cases ht
        · split at ht
          · cases ht
          · exact hpair t rfl (by cases ht; rfl)
  · refine replace_append_of_not_mem ?_
    unfold quoteEscape
    split
    · decide
    · split
      · decide
      · simpa using Ne.symm hc

/-- A literal is made in one pass or in five. -/
theorem escapeWith_literalEscape (t : Text) : escapeWith literalEscape t = escapeInTurn t := by
  rw [escapeInTurn_eq]
  induction t using escapeWith.induct with
  | case1 => rfl
  | case2 t ih =>
      have hbreak : ('\n' :: '\r' :: t).flatMap quoteEscape =
          ['\n', '\r'] ++ t.flatMap quoteEscape := rfl
      rw [escapeWith, ih, hbreak, replace_append_left (List.cons_ne_nil _ _), List.flatMap_append]
      rfl
  | case3 c t hpair ih =>
      rw [escapeWith_cons hpair, ih, replace_flatMap_quoteEscape hpair, List.flatMap_append,
        breakEscape_quoteEscape]

/-- The character that a backslash and the character behind it stand for. -/
def escapedChar? : Char → Option Char
  | '\\' => some '\\'
  | '"' => some '"'
  | 'n' => some '\n'
  | 'r' => some '\r'
  | _ => none

/-- Reads up to the first quote that no backslash escapes: the text that the characters in front of
it stand for, and what stands behind it. Nothing is read if there is no such quote, or if an escape
without a meaning or a line break stands in front of it. -/
def readClosing : Text → Option (Text × Text)
  | [] => none
  | '"' :: rest => some ([], rest)
  | ['\\'] => none
  | '\\' :: c :: t => do
      let d ← escapedChar? c
      let (u, rest) ← readClosing t
      return (d :: u, rest)
  | c :: t =>
      if c = '\n' ∨ c = '\r' then none
      else (readClosing t).map fun (u, rest) => (c :: u, rest)

/-- Reads the string literal that a text begins with: the text that it stands for, and what stands
behind it. -/
def readLiteral : Text → Option (Text × Text)
  | '"' :: t => readClosing t
  | _ => none

theorem readClosing_literalEscape (c : Char) (t : Text) :
    readClosing (literalEscape c ++ t) =
      (readClosing t).map fun (u, rest) => (c :: u, rest) := by
  obtain rfl | rfl | rfl | rfl | ⟨hslash, hquote, hfeed, hreturn, hself⟩ := literalEscape_cases c
  case inr.inr.inr.inr =>
    rw [hself, List.singleton_append, readClosing, if_neg (by simp [hfeed, hreturn])]
    · exact hquote
    · exact fun h _ => hslash h
    · exact fun _ _ h _ => hslash h
  all_goals
    cases hread : readClosing t <;> simp [literalEscape, readClosing, escapedChar?, hread]

/-- The escapes are undone, up to the line breaks that they merge, and the quote behind them is the
first one that closes the literal. -/
theorem readClosing_literal (t rest : Text) :
    readClosing (escapeWith literalEscape t ++ '"' :: rest) =
      some (replace t ['\n', '\r'] ['\n'], rest) := by
  induction t using escapeWith.induct with
  | case1 => rfl
  | case2 t ih =>
      have hpair : escapeWith literalEscape ('\n' :: '\r' :: t) =
          literalEscape '\n' ++ escapeWith literalEscape t := rfl
      have hmerged : replace ('\n' :: '\r' :: t) ['\n', '\r'] ['\n'] =
          '\n' :: replace t ['\n', '\r'] ['\n'] :=
        replace_append_left (List.cons_ne_nil _ _) ['\n'] t
      rw [hpair, List.append_assoc, readClosing_literalEscape, ih, hmerged]
      rfl
  | case3 c t hpair ih =>
      rw [escapeWith_cons hpair, List.append_assoc, readClosing_literalEscape, ih,
        replace_pair_cons hpair]
      rfl

/-- The string literal of any text begins and ends with a quote and has no line break. Whatever
stands behind it, a reader takes it as one literal up to its last character, and reads the text with
a line feed for every line feed and the carriage return behind it. So the literals of exactly the
texts without such a pair are read as they were written, and no two of these texts have the same
literal. -/
theorem literal_readBack (t : Text) :
    literal t = ['"'] ++ escapeInTurn t ++ ['"'] ∧ IsLine (literal t) ∧
      (∀ rest, readLiteral (literal t ++ rest) =
        some (replace t ['\n', '\r'] ['\n'], rest)) ∧
      (readLiteral (literal t) = some (t, []) ↔ ¬ ['\n', '\r'] <:+: t) ∧
      Set.InjOn literal {u | ¬ ['\n', '\r'] <:+: u} := by
  have hread (u rest : Text) :
      readLiteral (literal u ++ rest) = some (replace u ['\n', '\r'] ['\n'], rest) := by
    have hclosing := readClosing_literal u rest
    rw [literal, List.append_assoc]
    exact hclosing
  have hwhole (u : Text) :
      readLiteral (literal u) = some (replace u ['\n', '\r'] ['\n'], []) := by
    rw [← hread u [], List.append_nil]
  refine ⟨?_, ?_, hread t, ?_, ?_⟩
  · rw [← escapeWith_literalEscape]
    rfl
  · refine isLine_append ['"'] (by decide) ?_
    exact isLine_append _ (isLine_escapeWith isLine_literalEscape t) (by decide)
  · rw [hwhole, Option.some_inj, Prod.mk.injEq, eq_self, and_true]
    exact replace_eq_self_iff (List.cons_ne_nil _ _) (by decide)
  · intro u hu v hv hliteral
    have hboth := hwhole u
    rw [hliteral, hwhole v, Option.some_inj, Prod.mk.injEq, replace_of_not_infix hu,
      replace_of_not_infix hv] at hboth
    exact hboth.1.symm

end Text
end MessageCatalog
