import MessageCatalog.Generation.Failure
import MessageCatalog.Proofs.Bundle.Document
import MessageCatalog.Proofs.Generated.Description
import MessageCatalog.Proofs.Generated.Refusal
import MessageCatalog.Proofs.Locale.Identifier

/-!
# The locales of a bundle

A list of locales for a bundle has to name the locale of the bundle itself. The list is searched for
the identifier that is written for that locale, although what is generated are the locales that its
identifiers are read as. The two differ for one spelling only: an identifier with an underscore at its
end is read as a locale without a variant and is not what is written for it. A list that names the
locale of the bundle in no other way is refused; no list that is accepted lacks it.

**Results.**
* `Locale.IsReadable.parse_eq_ok_iff`: the one or two spellings of a locale.
* `Bundle.resolveLocales_of_mem`, `Bundle.resolveLocales_of_not_mem`: what becomes of a list.
* `Bundle.resolveLocales_of_identifiers`: when a list of identifiers is accepted, and what is
  returned then.
-/

namespace MessageCatalog

namespace Locale

variable {l : Locale} {s : Text}

/-- The locale has a country and no variant, so that an underscore may follow its identifier. -/
def IsOpen (l : Locale) : Prop :=
  l.country ≠ [] ∧ l.variant = []

instance : DecidablePred IsOpen :=
  fun _ => inferInstanceAs (Decidable (_ ∧ _))

theorem IsOpen.text_append (h : l.IsOpen) :
    l.text ++ ['_'] = l.language ++ '_' :: (l.country ++ '_' :: l.variant) := by
  rw [text_of_variant_nil h.1 h.2, h.2, List.append_assoc, List.cons_append]

theorem IsReadable.spells_open (h : l.IsReadable) (hopen : l.IsOpen) :
    Spells l (l.text ++ ['_']) := by
  rw [hopen.text_append]
  exact .variant ⟨h.length hopen.1, h.language⟩
    ⟨l.country_length.resolve_left hopen.1, h.country⟩

/-- A locale that is read at all is read from what is written for it, and from nothing else but that
with an underscore at its end. -/
theorem IsReadable.parse_eq_ok_iff (h : l.IsReadable) :
    parse s = .ok l ↔ s = l.text ∨ l.IsOpen ∧ s = l.text ++ ['_'] := by
  constructor
  · intro hparse
    rcases (spells_of_parse hparse).text_eq with htext | ⟨hvariant, -, hcountry, hs⟩
    · exact .inl htext.symm
    · have hopen : l.IsOpen := ⟨hcountry.ne_nil, hvariant⟩
      exact .inr ⟨hopen, by rw [hs, openIdentifier, hopen.text_append, hvariant]⟩
  · rintro (rfl | ⟨hopen, rfl⟩)
    · exact parse_text_iff.mpr h
    · exact (h.spells_open hopen).parse

end Locale

namespace Bundle

variable {own : Locale} {list : Text} {locales : List Locale}

/-- The refusal of a list that does not name the locale of the bundle. -/
def notListed (own : Locale) (list : Text) (source : Path) : Failure :=
  .generation ⟨.localeNotListed own list, some source, none⟩

theorem resolveLocales_of_not_mem (hlist : list ≠ []) (h : own.text ∉ Locale.identifiers list)
    (source : Path) :
    resolveLocales own (some list) source = .error (notListed own list source) := by
  have hpresent : Text.present? (some list) = some list := present?_eq_some_iff.mpr ⟨rfl, hlist⟩
  unfold resolveLocales
  rw [hpresent]
  exact if_neg fun hmem => h (List.contains_iff_mem.mp hmem)

theorem resolveLocales_of_mem (hlist : list ≠ []) (h : own.text ∈ Locale.identifiers list)
    (source : Path) :
    resolveLocales own (some list) source =
      ((Locale.identifiers list).mapM Locale.parse).mapError .locale := by
  have hpresent : Text.present? (some list) = some list := present?_eq_some_iff.mpr ⟨rfl, hlist⟩
  unfold resolveLocales
  rw [hpresent]
  exact if_pos (List.contains_iff_mem.mpr h)

theorem exists_mapM_parse {ids : List Text} (h : ∀ s ∈ ids, ∃ l, Locale.parse s = .ok l) :
    ∃ locales, ids.mapM Locale.parse = .ok locales ∧
      List.Forall₂ (fun s l => Locale.parse s = .ok l) ids locales := by
  cases hlocales : ids.mapM Locale.parse with
  | ok locales => exact ⟨locales, rfl, mapM_eq_ok hlocales⟩
  | error e =>
      obtain ⟨before, s, after, hsplit, -, hs⟩ := mapM_eq_error.mp hlocales
      obtain ⟨l, hl⟩ := h s (hsplit ▸ List.mem_append_right _ List.mem_cons_self)
      rw [hs] at hl
      cases hl

/-- A list of identifiers for a bundle is accepted exactly if what is written for the locale of the
bundle is in it, and refused as one without that locale otherwise. The locales that are returned are
those of the identifiers in order, and the locale of the bundle is among them. An identifier of the
list is read as the locale of the bundle exactly if it is what is written for it, or that with an
underscore at the end behind a country: this is the one way in which a list may name the locale and
be refused. -/
theorem resolveLocales_of_identifiers (hown : ∃ s, Locale.parse s = .ok own) (hlist : list ≠ [])
    (hidentifiers : ∀ s ∈ Locale.identifiers list, ∃ l, Locale.parse s = .ok l) (source : Path) :
    ((∃ locales, resolveLocales own (some list) source = .ok locales) ↔
        own.text ∈ Locale.identifiers list) ∧
      (resolveLocales own (some list) source = .error (notListed own list source) ↔
        own.text ∉ Locale.identifiers list) ∧
      (∀ locales, resolveLocales own (some list) source = .ok locales →
        List.Forall₂ (fun s l => Locale.parse s = .ok l) (Locale.identifiers list) locales ∧
          own ∈ locales) ∧
      ((∃ s ∈ Locale.identifiers list, Locale.parse s = .ok own) ↔
        own.text ∈ Locale.identifiers list ∨
          own.IsOpen ∧ own.text ++ ['_'] ∈ Locale.identifiers list) := by
  obtain ⟨s, hs⟩ := hown
  have hreadable := (Locale.spells_of_parse hs).isReadable
  obtain ⟨parsed, hmapM, hparsed⟩ := exists_mapM_parse hidentifiers
  have hnamed : (∃ s ∈ Locale.identifiers list, Locale.parse s = .ok own) ↔
      own.text ∈ Locale.identifiers list ∨
        own.IsOpen ∧ own.text ++ ['_'] ∈ Locale.identifiers list := by
    simp only [hreadable.parse_eq_ok_iff, and_or_left, exists_or, exists_eq_right,
      and_left_comm (b := own.IsOpen), exists_and_left]
  by_cases hmem : own.text ∈ Locale.identifiers list
  · have hresolved : resolveLocales own (some list) source = .ok parsed := by
      rw [resolveLocales_of_mem hlist hmem, hmapM]
      rfl
    rw [hresolved]
    refine ⟨iff_of_true ⟨_, rfl⟩ hmem, iff_of_false (fun h => by cases h) (not_not.mpr hmem), ?_,
      hnamed⟩
    rintro locales ⟨⟩
    obtain ⟨l, hl, hparse⟩ := exists_of_mem_left hparsed hmem
    obtain rfl : own = l :=
      Except.ok.inj ((Locale.parse_text_iff.mpr hreadable).symm.trans hparse)
    exact ⟨hparsed, hl⟩
  · rw [resolveLocales_of_not_mem hlist hmem]
    exact ⟨iff_of_false (fun ⟨_, h⟩ => by cases h) hmem, iff_of_true rfl hmem,
      (fun _ h => by cases h), hnamed⟩

/-- A locale of a language and a country. -/
def brazilian : Locale := ⟨"pt", "BR", [], by decide, by decide, by decide⟩

/-- A list of one identifier, which is read as the locale of the bundle, is refused as one without
it. -/
theorem brazilian_named_and_refused :
    (∃ s ∈ Locale.identifiers "pt_BR_", Locale.parse s = .ok brazilian) ∧
      resolveLocales brazilian (some "pt_BR_".toList) (.ofText "s/N.xml") =
        .error (notListed brazilian "pt_BR_" (.ofText "s/N.xml")) := by
  have hown : ∃ s, Locale.parse s = .ok brazilian := ⟨"pt_BR", rfl⟩
  have hlist : "pt_BR_".toList ≠ [] := by decide
  have hidentifiers : ∀ s ∈ Locale.identifiers "pt_BR_", ∃ l, Locale.parse s = .ok l := by
    intro s hs
    have hsingle : Locale.identifiers "pt_BR_" = ["pt_BR_".toList] := by decide
    rw [hsingle, List.mem_singleton] at hs
    exact ⟨brazilian, by rw [hs]; rfl⟩
  obtain ⟨-, hrefused, -, hnamed⟩ :=
    resolveLocales_of_identifiers hown hlist hidentifiers (.ofText "s/N.xml")
  exact ⟨hnamed.mpr (.inr (by decide)), hrefused.mpr (by decide)⟩

end Bundle
end MessageCatalog
