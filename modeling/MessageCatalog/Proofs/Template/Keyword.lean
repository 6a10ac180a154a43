import Mathlib.Tactic.Common
import MessageCatalog.Proofs.Text.Occurrence
import MessageCatalog.Template.Signature

/-!
# Format words

The kind of an argument is declared behind the last mention of its index: a comma, the format word,
and another comma or the closing brace, with spaces around each of them. The template is read with
less care. A text that merely begins with a format word is taken for it, whatever comes behind, so
that a word such as `numbers` and a word that nothing ends declare a kind as well. Everything else is
read as it is declared.

**Results.**
* `IsDeclared`: the kind that a text behind an index declares, by the format word as a whole.
* `kindBehind_eq_iff`, `kindBehind_eq_string_iff`: the kind that is read, by the beginning of it.
* `kindAt_reads_beginning`: the kind of an argument, and when it is the one that is declared.
-/

namespace MessageCatalog
namespace Template

variable {template rest declaration declaration' word : Text} {kind : ParameterKind} {index : Nat}

/-- Behind an index stand a comma and the declaration, with spaces around the comma. -/
def Declares (rest declaration : Text) : Prop :=
  ∃ m n, rest = List.replicate m ' ' ++ ',' :: (List.replicate n ' ' ++ declaration)

/-- Behind a format word stands, up to spaces, a comma or a closing brace. -/
def EndsWord (tail : Text) : Prop :=
  ∃ n after, tail = List.replicate n ' ' ++ ',' :: after ∨
    tail = List.replicate n ' ' ++ '\x7d' :: after

/-- The kind that the text behind an index declares: that of a format word, or a string if there is
no format word that ends where a word may end. -/
inductive IsDeclared (rest : Text) : ParameterKind → Prop
  | keyword {word tail : Text} {kind : ParameterKind} (known : (word, kind) ∈ keywords)
      (declares : Declares rest (word ++ tail)) (ends : EndsWord tail) : IsDeclared rest kind
  | other (unknown : ∀ word kind tail, (word, kind) ∈ keywords → Declares rest (word ++ tail) →
      ¬ EndsWord tail) : IsDeclared rest .string

theorem dropSpaces_replicate_append (n : Nat) (hspace : declaration.head? ≠ some ' ') :
    dropSpaces (List.replicate n ' ' ++ declaration) = declaration := by
  unfold dropSpaces
  rw [List.dropWhile_append_of_pos (by simp)]
  cases declaration with
  | nil => rfl
  | cons c declaration => exact List.dropWhile_cons_of_neg (by simpa using hspace)

theorem exists_replicate_append_dropSpaces (t : Text) :
    ∃ n, t = List.replicate n ' ' ++ dropSpaces t := by
  induction t with
  | nil => exact ⟨0, rfl⟩
  | cons c t ih =>
      by_cases hc : c = ' '
      · obtain ⟨n, hn⟩ := ih
        have hdrop : dropSpaces (c :: t) = dropSpaces t :=
          List.dropWhile_cons_of_pos (decide_eq_true hc)
        refine ⟨n + 1, ?_⟩
        rw [hdrop, List.replicate_succ, List.cons_append, ← hn, hc]
      · have hdrop : dropSpaces (c :: t) = c :: t := List.dropWhile_cons_of_neg (by simpa using hc)
        exact ⟨0, hdrop.symm⟩

/-- A declaration that does not begin with a space is what is left when the spaces are dropped. -/
theorem declares_iff (hspace : declaration.head? ≠ some ' ') :
    Declares rest declaration ↔
      ∃ after, dropSpaces rest = ',' :: after ∧ dropSpaces after = declaration := by
  constructor
  · rintro ⟨m, n, rfl⟩
    exact ⟨_, dropSpaces_replicate_append m (by simp), dropSpaces_replicate_append n hspace⟩
  · rintro ⟨after, hrest, rfl⟩
    obtain ⟨m, hm⟩ := exists_replicate_append_dropSpaces rest
    obtain ⟨n, hn⟩ := exists_replicate_append_dropSpaces after
    exact ⟨m, n, by rw [← hn, ← hrest, ← hm]⟩

/-- The format words begin with a letter, none of them begins with another one, and each has a kind
of its own, which is not that of a string. -/
theorem keywords_distinct :
    ∀ entry ∈ keywords, entry.1.head? ≠ none ∧ entry.1.head? ≠ some ' ' ∧
      entry.2 ≠ .string ∧ ∀ entry' ∈ keywords, entry.1 <+: entry'.1 ∨ entry.2 = entry'.2 →
        entry = entry' := by
  decide

theorem head?_keyword_append (hword : (word, kind) ∈ keywords) (tail : Text) :
    (word ++ tail).head? ≠ some ' ' := by
  obtain ⟨hnone, hspace, -⟩ := keywords_distinct _ hword
  cases word with
  | nil => exact absurd rfl hnone
  | cons c word => exact hspace

theorem prefix_of_find? {t : Text}
    (h : (keywords.find? fun (word, _) => t.startsWith word) = some (word, kind)) : word <+: t := by
  have hstarts := List.find?_some h
  exact List.isPrefixOf_iff_prefix.mp hstarts

/-- A text begins with at most one format word. -/
theorem find?_keyword (hword : (word, kind) ∈ keywords) (tail : Text) :
    (keywords.find? fun (word', _) => Text.startsWith (word ++ tail) word') =
      some (word, kind) := by
  have hprefix : word <+: word ++ tail := List.prefix_append _ _
  cases hfind : keywords.find? fun (word', _) => Text.startsWith (word ++ tail) word' with
  | none =>
      exact absurd (List.isPrefixOf_iff_prefix.mpr hprefix) (List.find?_eq_none.mp hfind _ hword)
  | some entry =>
      have hmem := List.mem_of_find?_eq_some hfind
      rcases List.prefix_or_prefix_of_prefix (prefix_of_find? hfind) hprefix with h | h
      · rw [(keywords_distinct _ hmem).2.2.2 _ hword (.inl h)]
      · rw [(keywords_distinct _ hword).2.2.2 _ hmem (.inl h)]

/-- The kind of a format word is read wherever the declaration begins with the word. -/
theorem kindBehind_eq_iff (hword : (word, kind) ∈ keywords) :
    kindBehind rest = kind ↔ ∃ tail, Declares rest (word ++ tail) := by
  obtain ⟨-, -, hstring, hdistinct⟩ := keywords_distinct _ hword
  constructor
  · intro h
    unfold kindBehind at h
    split at h
    next after hrest =>
      split at h
      next word' kind' hfind =>
        have hentry := hdistinct _ (List.mem_of_find?_eq_some hfind) (.inr h.symm)
        obtain ⟨tail, htail⟩ := prefix_of_find? hfind
        cases hentry
        exact ⟨tail, (declares_iff (head?_keyword_append hword tail)).mpr ⟨after, hrest, htail.symm⟩⟩
      next => exact absurd h.symm hstring
    next => exact absurd h.symm hstring
  · rintro ⟨tail, hdeclares⟩
    obtain ⟨after, hrest, hafter⟩ := (declares_iff (head?_keyword_append hword tail)).mp hdeclares
    unfold kindBehind
    simp only [hrest, hafter, find?_keyword hword tail]

theorem exists_keyword (h : kind ≠ .string) : ∃ word, (word, kind) ∈ keywords := by
  cases kind with
  | string => exact absurd rfl h
  | number => exact ⟨"number", by decide⟩
  | date => exact ⟨"date", by decide⟩
  | time => exact ⟨"time", by decide⟩
  | unknown => exact ⟨"choice", by decide⟩

/-- A string is read where no declaration begins with a format word. -/
theorem kindBehind_eq_string_iff :
    kindBehind rest = .string ↔
      ∀ word kind tail, (word, kind) ∈ keywords → ¬ Declares rest (word ++ tail) := by
  constructor
  · intro h word kind tail hword hdeclares
    have hkind := (kindBehind_eq_iff hword).mpr ⟨tail, hdeclares⟩
    exact (keywords_distinct _ hword).2.2.1 (hkind.symm.trans h)
  · intro h
    refine Decidable.byContradiction fun hstring => ?_
    obtain ⟨word, hword⟩ := exists_keyword hstring
    obtain ⟨tail, hdeclares⟩ := (kindBehind_eq_iff hword).mp rfl
    exact h word _ tail hword hdeclares

theorem Declares.unique (h : Declares rest declaration) (h' : Declares rest declaration')
    (hspace : declaration.head? ≠ some ' ') (hspace' : declaration'.head? ≠ some ' ') :
    declaration = declaration' := by
  obtain ⟨after, hrest, rfl⟩ := (declares_iff hspace).mp h
  obtain ⟨after', hrest', rfl⟩ := (declares_iff hspace').mp h'
  obtain ⟨-, rfl⟩ := List.cons_eq_cons.mp (hrest.symm.trans hrest')
  rfl

/-- What is read is what is declared exactly if no word merely begins with a format word. -/
theorem isDeclared_kindBehind_iff :
    IsDeclared rest (kindBehind rest) ↔
      ∀ word kind tail, (word, kind) ∈ keywords → Declares rest (word ++ tail) → EndsWord tail := by
  constructor
  · intro h word kind tail hword hdeclares
    have hkind := (kindBehind_eq_iff hword).mpr ⟨tail, hdeclares⟩
    rw [hkind] at h
    cases h with
    | keyword hword' hdeclares' hends =>
        have hentry := (keywords_distinct _ hword').2.2.2 _ hword (.inr rfl)
        cases hentry
        have htail := hdeclares'.unique hdeclares (head?_keyword_append hword' _)
          (head?_keyword_append hword tail)
        rwa [← List.append_cancel_left htail]
    | other hunknown => exact absurd rfl (keywords_distinct _ hword).2.2.1
  · intro h
    by_cases hstring : kindBehind rest = .string
    · rw [hstring]
      exact .other fun word kind tail hword hdeclares =>
        absurd hdeclares (kindBehind_eq_string_iff.mp hstring word kind tail hword)
    · obtain ⟨word, hword⟩ := exists_keyword hstring
      obtain ⟨tail, hdeclares⟩ := (kindBehind_eq_iff hword).mp rfl
      exact .keyword hword hdeclares (h word _ tail hword hdeclares)

theorem kindAt_of_isBehindLast (h : Text.IsBehindLast template (token index) rest) :
    kindAt template index = kindBehind rest := by
  rw [kindAt, Text.afterLast_eq_some_iff.mpr h]

theorem kindAt_of_not_isInfix (h : ¬ token index <:+: template) :
    kindAt template index = .unknown := by
  rw [kindAt, Text.afterLast_eq_none_iff.mpr h]

/-- Behind the last mention of an index the kind of a format word is read exactly if a comma and a
text that begins with the word follow, with spaces around the comma, and a string otherwise. That is
the kind that is declared there exactly if every such text goes on, up to spaces, with a comma or a
closing brace. -/
theorem kindAt_reads_beginning (h : Text.IsBehindLast template (token index) rest) :
    (∀ word kind, (word, kind) ∈ keywords →
      (kindAt template index = kind ↔ ∃ tail, Declares rest (word ++ tail))) ∧
    (kindAt template index = .string ↔
      ∀ word kind tail, (word, kind) ∈ keywords → ¬ Declares rest (word ++ tail)) ∧
    (IsDeclared rest (kindAt template index) ↔
      ∀ word kind tail, (word, kind) ∈ keywords → Declares rest (word ++ tail) →
        EndsWord tail) := by
  rw [kindAt_of_isBehindLast h]
  exact ⟨fun word kind hword => kindBehind_eq_iff hword, kindBehind_eq_string_iff,
    isDeclared_kindBehind_iff⟩

/-- A word that goes on behind a format word is read as that, although it declares no number. -/
theorem numbers_read_as_number :
    Text.IsBehindLast "\x7b0,numbers\x7d" (token (0 : Nat)) ",numbers\x7d" ∧
      kindAt "\x7b0,numbers\x7d" (0 : Nat) = .number ∧ ¬ IsDeclared ",numbers\x7d" .number := by
  have hlast : Text.IsBehindLast "\x7b0,numbers\x7d" (token (0 : Nat)) ",numbers\x7d" :=
    Text.afterLast_eq_some_iff.mp (by decide)
  have hword : ("number".toList, ParameterKind.number) ∈ keywords := by decide
  have hdeclares : Declares ",numbers\x7d" ("number".toList ++ "s\x7d".toList) := ⟨0, 0, rfl⟩
  obtain ⟨hkind, -, hdeclared⟩ := kindAt_reads_beginning hlast
  have hnumber := (hkind _ _ hword).mpr ⟨_, hdeclares⟩
  refine ⟨hlast, hnumber, fun h => ?_⟩
  rw [← hnumber] at h
  obtain ⟨n, after, hends⟩ := hdeclared.mp h _ _ _ hword hdeclares
  cases n <;> simp [List.replicate_succ] at hends

end Template
end MessageCatalog
