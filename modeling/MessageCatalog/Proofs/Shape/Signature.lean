import MessageCatalog.Proofs.Text.Word
import MessageCatalog.Shape.Hint
import Mathlib.Data.List.Chain
import Mathlib.Data.List.Flatten

/-!
# Signatures up to white space

A signature is read as a list of tokens: parentheses and commas, and the words that these and blanks
separate. Hints are compared after their spaces have been brought into order. That changes no token,
and what comes of it is told by the tokens alone if a parenthesis opens at the beginning only and
closes at the end only, as in the signatures that are known. A hint therefore names a form of
constructor exactly if it has the tokens of its signature.

**Results.**
* `signatureTokens`: the tokens of a signature.
* `signatureTokens_normalizedSignature`: bringing the spaces into order changes no token.
* `normalizedSignature_eq_of_isChain`: the tokens tell what comes of a signature.
* `ofSignature?_eq_some_iff`: which signatures name a form.
* `ConstructorShape.ofHints_reads_tokens`: the shape that hints give, whatever their order.
-/

namespace MessageCatalog
namespace ConstructorForm

open Text

variable {c : Char} {t u w word signature : Text} {ws : List Text}

section Tokens

/-- A parenthesis or a comma is a token of its own. -/
def isMark (c : Char) : Bool :=
  c = '(' || c = ')' || c = ','

/-- The word that ends, if one has been begun. -/
def ended (word : Text) : List Text :=
  if word.isEmpty then [] else [word]

/-- The tokens of a text behind the beginning of a word. -/
def tokensFrom : (word : Text) → Text → List Text
  | word, [] => ended word
  | word, c :: t =>
      if isMark c then ended word ++ [c] :: tokensFrom [] t
      else if isBlank c then ended word ++ tokensFrom [] t
      else tokensFrom (word ++ [c]) t

/-- The tokens of a signature: its marks, and the words that marks and blanks separate. -/
def signatureTokens (signature : Text) : List Text :=
  tokensFrom [] signature

example : signatureTokens " (String message ,Throwable\tcause)" =
    ["(", "String", "message", ",", "Throwable", "cause", ")"] := by decide

theorem tokensFrom_of_isMark (h : isMark c = true) (word t : Text) :
    tokensFrom word (c :: t) = ended word ++ [c] :: signatureTokens t :=
  if_pos h

theorem tokensFrom_of_isBlank (h : isBlank c = true) (word t : Text) :
    tokensFrom word (c :: t) = ended word ++ signatureTokens t := by
  rw [tokensFrom, if_pos h, if_neg]
  · rfl
  · intro hmark
    simp only [isMark, Bool.or_eq_true, decide_eq_true_eq] at hmark
    rcases hmark with (rfl | rfl) | rfl <;> cases h

theorem tokensFrom_of_not (hmark : isMark c = false) (hblank : isBlank c = false) (word t : Text) :
    tokensFrom word (c :: t) = tokensFrom (word ++ [c]) t := by
  rw [tokensFrom, if_neg (by simp [hmark]), if_neg (by simp [hblank])]

theorem signatureTokens_cons_mark (h : isMark c = true) (t : Text) :
    signatureTokens (c :: t) = [c] :: signatureTokens t :=
  tokensFrom_of_isMark h [] t

theorem signatureTokens_cons_blank (h : isBlank c = true) (t : Text) :
    signatureTokens (c :: t) = signatureTokens t :=
  tokensFrom_of_isBlank h [] t

/-- A character that ends a word: a mark or a blank. -/
def Separates (c : Char) : Prop :=
  isMark c = true ∨ isBlank c = true

/-- A word ends in front of a separator. -/
theorem tokensFrom_append (hc : Separates c) (word t u : Text) :
    tokensFrom word (t ++ c :: u) = tokensFrom word t ++ signatureTokens (c :: u) := by
  induction t generalizing word with
  | nil =>
      rcases hc with hmark | hblank
      · rw [List.nil_append, tokensFrom_of_isMark hmark, signatureTokens_cons_mark hmark, tokensFrom]
      · rw [List.nil_append, tokensFrom_of_isBlank hblank, signatureTokens_cons_blank hblank,
          tokensFrom]
  | cons d t ih =>
      rw [List.cons_append]
      cases hmark : isMark d with
      | true =>
          rw [tokensFrom_of_isMark hmark, tokensFrom_of_isMark hmark, signatureTokens, ih,
            List.append_assoc]
          rfl
      | false =>
          cases hblank : isBlank d with
          | true =>
              rw [tokensFrom_of_isBlank hblank, tokensFrom_of_isBlank hblank, signatureTokens, ih,
                List.append_assoc]
              rfl
          | false => rw [tokensFrom_of_not hmark hblank, tokensFrom_of_not hmark hblank, ih]

theorem signatureTokens_append_left (hc : Separates c) (t u : Text) :
    signatureTokens (t ++ c :: u) = signatureTokens t ++ signatureTokens (c :: u) :=
  tokensFrom_append hc [] t u

/-- The tokens behind a mark do not depend on what stands in front of it. -/
theorem signatureTokens_append_right (h : isMark c = true) (t u : Text) :
    signatureTokens ((t ++ [c]) ++ u) = signatureTokens (t ++ [c]) ++ signatureTokens u := by
  rw [List.append_assoc, List.singleton_append, signatureTokens_append_left (.inl h),
    signatureTokens_append_left (.inl h), signatureTokens_cons_mark h, signatureTokens_cons_mark h,
    List.append_assoc]
  rfl

end Tokens

section Words

theorem flatMap_wordsFrom (word t : Text) :
    (wordsFrom word t).flatMap signatureTokens = signatureTokens (word.reverse ++ t) := by
  induction t generalizing word with
  | nil =>
      cases word with
      | nil => rfl
      | cons c word =>
          rw [wordsFrom, List.flatMap_singleton, List.append_nil]
          exact List.cons_ne_nil c word
  | cons c t ih =>
      rw [wordsFrom]
      by_cases hc : isBlank c = true
      · rw [if_pos hc, signatureTokens_append_left (.inr hc), signatureTokens_cons_blank hc]
        cases word with
        | nil => exact ih []
        | cons d word => exact congrArg _ (ih [])
      · rw [if_neg hc, ih, List.reverse_cons, List.append_assoc, List.singleton_append]

/-- The tokens of a text are those of its words. -/
theorem flatMap_words (t : Text) : t.words.flatMap signatureTokens = signatureTokens t :=
  flatMap_wordsFrom [] t

/-- The signature with a space behind each comma. -/
def spacedCommas (signature : Text) : Text :=
  signature.replace [','] [',', ' ']

theorem spacedCommas_cons (c : Char) (t : Text) :
    spacedCommas (c :: t) = (if c = ',' then [',', ' '] else [c]) ++ spacedCommas t := by
  rw [spacedCommas, spacedCommas, replace_singleton, replace_singleton, List.flatMap_cons]

theorem tokensFrom_spacedCommas (word t : Text) :
    tokensFrom word (spacedCommas t) = tokensFrom word t := by
  induction t generalizing word with
  | nil => rfl
  | cons c t ih =>
      rw [spacedCommas_cons]
      by_cases hc : c = ','
      · subst hc
        have hcomma : isMark ',' = true := rfl
        rw [if_pos rfl, List.cons_append, List.singleton_append, tokensFrom_of_isMark hcomma,
          tokensFrom_of_isMark hcomma, signatureTokens_cons_blank rfl, signatureTokens, ih]
        rfl
      · rw [if_neg hc, List.singleton_append]
        cases hmark : isMark c with
        | true => rw [tokensFrom_of_isMark hmark, tokensFrom_of_isMark hmark, signatureTokens, ih]; rfl
        | false =>
            cases hblank : isBlank c with
            | true =>
                rw [tokensFrom_of_isBlank hblank, tokensFrom_of_isBlank hblank, signatureTokens, ih]
                rfl
            | false => rw [tokensFrom_of_not hmark hblank, tokensFrom_of_not hmark hblank, ih]

theorem flatMap_words_spacedCommas (signature : Text) :
    (spacedCommas signature).words.flatMap signatureTokens = signatureTokens signature :=
  (flatMap_words _).trans (tokensFrom_spacedCommas [] signature)

/-- Behind a comma no word goes on. -/
theorem comma_of_mem_wordsFrom (hword : ',' ∉ word) (hw : w ∈ wordsFrom word (spacedCommas t)) :
    ',' ∉ w.dropLast := by
  have hended {word : Text} (hword : ',' ∉ word) : ',' ∉ word.reverse.dropLast :=
    fun h => hword (List.mem_reverse.mp (List.dropLast_subset _ h))
  induction t generalizing word with
  | nil =>
      cases word with
      | nil => cases hw
      | cons c word =>
          rw [spacedCommas, replace, replaceFrom, wordsFrom, List.mem_singleton] at hw
          · exact hw ▸ hended hword
          · exact List.cons_ne_nil c word
  | cons c t ih =>
      rw [spacedCommas_cons] at hw
      by_cases hc : c = ','
      · subst hc
        have hwords : wordsFrom word (',' :: ' ' :: spacedCommas t) =
            (word.reverse ++ [',']) :: wordsFrom [] (spacedCommas t) := by
          rw [wordsFrom, if_neg (by decide), wordsFrom, if_pos (by decide), if_neg (by simp),
            List.reverse_cons]
        rw [if_pos rfl, List.cons_append, List.singleton_append, hwords] at hw
        rcases List.mem_cons.mp hw with rfl | hw
        · rw [List.dropLast_concat]
          exact fun h => hword (List.mem_reverse.mp h)
        · exact ih List.not_mem_nil hw
      · rw [if_neg hc, List.singleton_append, wordsFrom] at hw
        by_cases hblank : isBlank c = true
        · rw [if_pos hblank] at hw
          by_cases hnil : word.isEmpty = true
          · rw [if_pos hnil] at hw
            exact ih List.not_mem_nil hw
          · rw [if_neg hnil] at hw
            rcases List.mem_cons.mp hw with rfl | hw
            · exact hended hword
            · exact ih List.not_mem_nil hw
        · rw [if_neg hblank] at hw
          exact ih (by simp [Ne.symm hc, hword]) hw

end Words

section WithinWord

/-- The token is a mark. -/
def isMarkToken : Text → Bool
  | [c] => isMark c
  | _ => false

/-- The tokens can stand side by side in one word: one of them is a mark, and no comma is in front. -/
def Adjoins (a b : Text) : Prop :=
  (isMarkToken a = true ∨ isMarkToken b = true) ∧ a ≠ [',']

instance (a b : Text) : Decidable (Adjoins a b) :=
  inferInstanceAs (Decidable (_ ∧ _))

theorem flatten_ended (word : Text) : (ended word).flatten = word := by
  cases word <;> simp [ended]

theorem ne_nil_of_mem_ended {a : Text} (h : a ∈ ended word) : a ≠ [] := by
  cases word with
  | nil => cases h
  | cons c word => exact List.mem_singleton.mp h ▸ List.cons_ne_nil c word

/-- A text without blanks is its tokens in turn. -/
theorem flatten_tokensFrom (ht : ∀ c ∈ t, isBlank c = false) (word : Text) :
    (tokensFrom word t).flatten = word ++ t := by
  induction t generalizing word with
  | nil => rw [tokensFrom, flatten_ended, List.append_nil]
  | cons c t ih =>
      have hrest := ih fun d hd => ht d (List.mem_cons_of_mem _ hd)
      cases hmark : isMark c with
      | true =>
          rw [tokensFrom_of_isMark hmark, List.flatten_append, List.flatten_cons, flatten_ended,
            signatureTokens, hrest]
          rfl
      | false =>
          rw [tokensFrom_of_not hmark (ht c List.mem_cons_self), hrest, List.append_assoc]
          rfl

theorem ne_nil_of_mem_tokensFrom {a : Text} (h : a ∈ tokensFrom word t) : a ≠ [] := by
  induction t generalizing word with
  | nil => exact ne_nil_of_mem_ended h
  | cons c t ih =>
      cases hmark : isMark c with
      | true =>
          rw [tokensFrom_of_isMark hmark] at h
          rcases List.mem_append.mp h with h | h
          · exact ne_nil_of_mem_ended h
          · rcases List.mem_cons.mp h with rfl | h
            · exact List.cons_ne_nil c []
            · exact ih h
      | false =>
          cases hblank : isBlank c with
          | true =>
              rw [tokensFrom_of_isBlank hblank] at h
              rcases List.mem_append.mp h with h | h
              · exact ne_nil_of_mem_ended h
              · exact ih h
          | false =>
              rw [tokensFrom_of_not hmark hblank] at h
              exact ih h

/-- Tokens of a text without blanks adjoin, if a comma stands at its end only. -/
theorem isChain_tokensFrom (ht : ∀ c ∈ t, isBlank c = false) (hcomma : ',' ∉ t.dropLast)
    (hword : word ≠ [',']) : (tokensFrom word t).IsChain Adjoins := by
  have hended (word : Text) : (ended word).IsChain Adjoins := by
    cases word with
    | nil => exact .nil
    | cons c word => exact .singleton _
  induction t generalizing word with
  | nil => exact hended word
  | cons c t ih =>
      have hblanks : ∀ d ∈ t, isBlank d = false := fun d hd => ht d (List.mem_cons_of_mem _ hd)
      have hcommas : ',' ∉ t.dropLast := by
        cases t with
        | nil => exact List.not_mem_nil
        | cons d t => exact fun h => hcomma (List.mem_cons_of_mem _ h)
      cases hmark : isMark c with
      | true =>
          rw [tokensFrom_of_isMark hmark, List.isChain_append, List.isChain_cons]
          refine ⟨hended word, ⟨fun b hb => ⟨.inl hmark, fun hc => ?_⟩,
            ih hblanks hcommas (by simp)⟩, fun a ha b hb => ?_⟩
          · -- behind a comma the text has no characters, and so it has no tokens
            obtain rfl : c = ',' := (List.cons.inj hc).1
            cases t with
            | nil => cases hb
            | cons d t => exact hcomma List.mem_cons_self
          · obtain rfl : [c] = b := Option.some.inj hb
            refine ⟨.inr hmark, fun ha' => hword ?_⟩
            cases word with
            | nil => cases ha
            | cons d word => exact (Option.some.inj ha).trans ha'
      | false =>
          rw [tokensFrom_of_not hmark (ht c List.mem_cons_self)]
          refine ih hblanks hcommas fun h => ?_
          have hc : c = ',' := by
            have hlast := congrArg List.getLast? h
            simpa using hlast
          rw [hc] at hmark
          cases hmark

end WithinWord

section Spaces

/-- A space is left out in front of everything, behind an opening parenthesis, and in front of a closing
one and of a comma. -/
def leavesSpaceOut (last first : Option Char) : Bool :=
  ((last.isNone || last = some '(') || first = some ')') || first = some ','

theorem normalizedSignature_eq_spaced (signature : Text) :
    normalizedSignature signature = spaced leavesSpaceOut none (spacedCommas signature).words := by
  have hws : ∀ w ∈ (spacedCommas signature).words, IsSolid w := fun w => isSolid_of_mem_words
  have hopen : replace (spaced (fun last _ => last.isNone) none (spacedCommas signature).words)
      ['(', ' '] ['('] = spaced (fun last _ => last.isNone || last = some '(') none
        (spacedCommas signature).words :=
    replace_space_behind (w := []) (by decide) List.not_mem_nil hws
  calc normalizedSignature signature
      = (((join [' '] (spacedCommas signature).words).replace ['(', ' '] ['(']).replace [' ', ')']
          [')']).replace [' ', ','] [','] := rfl
    _ = spaced leavesSpaceOut none (spacedCommas signature).words := by
        rw [join_eq_spaced hws, hopen, replace_space_before hws, replace_space_before hws]
        rfl

/-- A space is left out next to a mark only, so that no word ends or goes on elsewhere. -/
theorem signatureTokens_spaced (hws : ∀ w ∈ ws, IsSolid w) (hw : IsSolid w) :
    signatureTokens (w ++ spaced leavesSpaceOut w.getLast? ws) =
      signatureTokens w ++ ws.flatMap signatureTokens := by
  induction ws generalizing w with
  | nil => rw [spaced, List.append_nil, List.flatMap_nil, List.append_nil]
  | cons next ws ih =>
      have hnext := hws next List.mem_cons_self
      have hrest := ih (fun other hother => hws other (List.mem_cons_of_mem _ hother)) hnext
      rw [List.flatMap_cons, ← hrest]
      cases hout : leavesSpaceOut w.getLast? next.head? with
      | false =>
          rw [spaced_cons_of_not hout, signatureTokens_append_left (.inr rfl),
            signatureTokens_cons_blank rfl]
      | true =>
          rw [spaced_cons_of_leavesOut hout]
          have hlast : w.getLast?.isNone = false := by simpa using hw.ne_nil
          simp only [leavesSpaceOut, hlast, Bool.false_or, Bool.or_eq_true, decide_eq_true_eq] at hout
          rcases hout with (hopen | hclose) | hcomma
          · obtain ⟨front, rfl⟩ := List.getLast?_eq_some_iff.mp hopen
            exact signatureTokens_append_right rfl _ _
          · obtain ⟨behind, rfl⟩ := List.head?_eq_some_iff.mp hclose
            exact signatureTokens_append_left (.inl rfl) _ _
          · obtain ⟨behind, rfl⟩ := List.head?_eq_some_iff.mp hcomma
            exact signatureTokens_append_left (.inl rfl) _ _

/-- Bringing the spaces of a signature into order changes no token. -/
theorem signatureTokens_normalizedSignature (signature : Text) :
    signatureTokens (normalizedSignature signature) = signatureTokens signature := by
  rw [normalizedSignature_eq_spaced, ← flatMap_words_spacedCommas signature]
  have hws : ∀ w ∈ (spacedCommas signature).words, IsSolid w := fun w => isSolid_of_mem_words
  generalize (spacedCommas signature).words = ws at hws
  cases ws with
  | nil => rfl
  | cons w ws =>
      rw [spaced_cons_of_leavesOut rfl, List.flatMap_cons]
      exact signatureTokens_spaced (fun other hother => hws other (List.mem_cons_of_mem _ hother))
        (hws w List.mem_cons_self)

end Spaces

section SameTokens

/-- No space stands between the tokens. -/
def LeavesNoSpace (a b : Text) : Prop :=
  leavesSpaceOut a.getLast? b.head? = true

instance (a b : Text) : Decidable (LeavesNoSpace a b) :=
  inferInstanceAs (Decidable (_ = _))

/-- Tokens without spaces between them are spaced like the word that they make up. -/
theorem spaced_append (hws : ws ≠ []) (hne : ∀ w ∈ ws, w ≠ []) (hchain : ws.IsChain LeavesNoSpace)
    (last : Option Char) (others : List Text) :
    spaced leavesSpaceOut last (ws ++ others) =
      spaced leavesSpaceOut last (ws.flatten :: others) := by
  induction ws generalizing last with
  | nil => exact absurd rfl hws
  | cons w ws ih =>
      cases ws with
      | nil => rw [List.flatten_singleton]; rfl
      | cons next ws =>
          have hw := hne w List.mem_cons_self
          have hnext := hne next (List.mem_cons_of_mem _ List.mem_cons_self)
          obtain ⟨hspace, hchain⟩ := List.isChain_cons_cons.mp hchain
          have hhead : (next :: ws).flatten.head? = next.head? := by
            rw [List.flatten_cons, List.head?_append_of_ne_nil _ hnext]
          have hhead' : (w :: next :: ws).flatten.head? = w.head? := by
            rw [List.flatten_cons, List.head?_append_of_ne_nil _ hw]
          have hlast : (w :: next :: ws).flatten.getLast? = (next :: ws).flatten.getLast? := by
            rw [List.flatten_cons, List.getLast?_append_of_ne_nil]
            simp [hnext]
          have hrest := ih (List.cons_ne_nil next ws)
            (fun other hother => hne other (List.mem_cons_of_mem _ hother)) hchain w.getLast?
          rw [spaced_cons_of_leavesOut (hhead ▸ hspace)] at hrest
          rw [List.cons_append, spaced, hrest, spaced, hhead', hlast, List.flatten_cons (L := next :: ws),
            List.append_assoc w]

/-- A signature with its spaces in order is its tokens, spaced, if a space is left out between tokens
wherever they can adjoin. -/
theorem normalizedSignature_eq_of_isChain
    (h : (signatureTokens signature).IsChain fun a b => Adjoins a b → LeavesNoSpace a b) :
    normalizedSignature signature = spaced leavesSpaceOut none (signatureTokens signature) := by
  rw [← flatMap_words_spacedCommas signature] at h
  rw [normalizedSignature_eq_spaced, ← flatMap_words_spacedCommas signature]
  have hws : ∀ w ∈ (spacedCommas signature).words, IsSolid w ∧ ',' ∉ w.dropLast := fun w hw =>
    ⟨isSolid_of_mem_words hw, comma_of_mem_wordsFrom List.not_mem_nil hw⟩
  generalize (spacedCommas signature).words = ws at h hws
  generalize (none : Option Char) = last
  induction ws generalizing last with
  | nil => rfl
  | cons w ws ih =>
      obtain ⟨hw, hcomma⟩ := hws w List.mem_cons_self
      rw [List.flatMap_cons] at h ⊢
      have hflatten : (signatureTokens w).flatten = w := flatten_tokensFrom hw.isBlank []
      have hchain : (signatureTokens w).IsChain LeavesNoSpace := by
        have hadjoins : (signatureTokens w).IsChain Adjoins :=
          isChain_tokensFrom hw.isBlank hcomma (by simp)
        rw [List.isChain_iff_getElem] at hadjoins ⊢
        have hspace := List.isChain_iff_getElem.mp (List.isChain_append.mp h).1
        exact fun i hi => hspace i hi (hadjoins i hi)
      have hne : signatureTokens w ≠ [] := by
        intro hnil
        rw [hnil] at hflatten
        exact hw.ne_nil hflatten.symm
      rw [spaced_append hne (fun a => ne_nil_of_mem_tokensFrom) hchain, hflatten, spaced, spaced,
        ih (List.isChain_append.mp h).2.1 fun other hother => hws other (List.mem_cons_of_mem _ hother)]

end SameTokens

variable {form : ConstructorForm}

/-- A signature names a form exactly if it has the same tokens as the signature of the form. -/
theorem ofSignature?_eq_some_iff :
    ofSignature? signature = some form ↔
      signatureTokens signature = signatureTokens form.signature := by
  constructor
  · intro h
    have hfound : all.find? (fun form => form.signature == normalizedSignature signature) = some form :=
      h
    have hsame := List.find?_some hfound
    rw [beq_iff_eq.mp hsame, signatureTokens_normalizedSignature]
  · intro h
    have hchain : (signatureTokens form.signature).IsChain
        fun a b => Adjoins a b → LeavesNoSpace a b := by
      cases form <;> decide
    have hown : normalizedSignature form.signature = form.signature := by
      cases form <;> decide
    have hsame : normalizedSignature signature = form.signature := by
      rw [← hown, normalizedSignature_eq_of_isChain (h ▸ hchain), h,
        normalizedSignature_eq_of_isChain hchain]
    rw [ofSignature?, hsame]
    cases form <;> rfl

theorem ofToken?_token (form : ConstructorForm) : ofToken? form.token = some form := by
  cases form <;> decide

end ConstructorForm

namespace ConstructorShape

open ConstructorForm

variable {signatures : List Text}

theorem has_foldl_add (forms : List ConstructorForm) (s : ConstructorShape) (form : ConstructorForm) :
    (forms.foldl add s).has form = true ↔ s.has form = true ∨ form ∈ forms := by
  induction forms generalizing s with
  | nil => simp
  | cons first forms ih =>
      rw [List.foldl_cons, ih, has_add, List.mem_cons]
      simp only [Bool.or_eq_true, decide_eq_true_eq, eq_comm (a := first), or_assoc, or_left_comm]

theorem has_ofForms (forms : List ConstructorForm) (form : ConstructorForm) :
    (ofForms forms).has form = true ↔ form ∈ forms := by
  rw [ofForms, has_foldl_add]
  refine or_iff_right ?_
  cases form <;> decide

theorem ext_has {s s' : ConstructorShape} (h : ∀ form, s.has form = true ↔ s'.has form = true) :
    s = s' := by
  have hsame form : s.has form = s'.has form := Bool.eq_iff_iff.mpr (h form)
  obtain ⟨message, messageCause, object, objectCause⟩ := s
  exact mk.injEq .. ▸ ⟨hsame .message, hsame .messageCause, hsame .object, hsame .objectCause⟩

/-- The tokens of forms are never refused. -/
theorem ofTokens_map_token (forms : List ConstructorForm) :
    ofTokens (forms.map token) = .ok (ofForms forms) := by
  rw [ofTokens, ofForms]
  generalize empty = s
  induction forms generalizing s with
  | nil => rfl
  | cons form forms ih =>
      rw [List.map_cons, List.foldlM_cons, List.foldl_cons, ofToken?_token, ← ih]
      rfl

theorem has_ofHints_iff {form : ConstructorForm} :
    (ofHints signatures).has form = true ↔
      ∃ signature ∈ signatures, signatureTokens signature = signatureTokens form.signature := by
  rw [ofHints, has_ofForms, List.mem_filterMap]
  simp only [ofSignature?_eq_some_iff]

/-- The shape that hints give has a form exactly if one of them has the tokens of its signature. The
tokens of the forms that are found are always accepted, a hint with other tokens makes no difference
wherever it stands, and neither do order and repetition. -/
theorem ofHints_reads_tokens (signatures : List Text) :
    (∀ form : ConstructorForm, (ofHints signatures).has form = true ↔
        ∃ signature ∈ signatures, signatureTokens signature = signatureTokens form.signature) ∧
      ofTokens ((signatures.filterMap ofSignature?).map token) = .ok (ofHints signatures) ∧
      (∀ before signature behind, signatures = before ++ signature :: behind →
        (∀ form : ConstructorForm, signatureTokens signature ≠ signatureTokens form.signature) →
          ofHints signatures = ofHints (before ++ behind)) ∧
      ∀ others : List Text, (∀ signature, signature ∈ others ↔ signature ∈ signatures) →
        ofHints others = ofHints signatures := by
  refine ⟨fun form => has_ofHints_iff, ofTokens_map_token _, ?_, fun others hsame => ?_⟩
  · rintro before signature behind rfl hother
    refine ext_has fun form => ?_
    rw [has_ofHints_iff, has_ofHints_iff]
    simp only [List.mem_append, List.mem_cons, or_and_right, exists_or, exists_eq_left, hother form,
      false_or]
  · refine ext_has fun form => ?_
    rw [has_ofHints_iff, has_ofHints_iff]
    simp only [hsame]

/-- Hints with blanks of their own; the second one lacks a blank that separates words. -/
def blankHints : List Text :=
  [" ( String\tmessage )", "(Stringmessage)", "(ResourceInstance r ,Throwable cause)"]

/-- Two of the hints name a form, one makes no difference, and neither do order and repetition. -/
theorem ofHints_blankHints :
    ofHints blankHints = ⟨true, false, false, true⟩ ∧
      ofHints blankHints =
        ofHints [" ( String\tmessage )", "(ResourceInstance r ,Throwable cause)"] ∧
      ofHints (blankHints.reverse ++ blankHints) = ofHints blankHints := by
  obtain ⟨hhas, -, hignored, hsame⟩ := ofHints_reads_tokens blankHints
  refine ⟨ext_has fun form => (hhas form).trans ?_,
    hignored [_] _ [_] rfl fun form => by cases form <;> decide,
    hsame _ fun signature => by rw [List.mem_append, List.mem_reverse, or_self]⟩
  cases form <;> decide

end ConstructorShape
end MessageCatalog
