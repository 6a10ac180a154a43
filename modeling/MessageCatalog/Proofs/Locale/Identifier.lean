import MessageCatalog.Locale.Basic
import MessageCatalog.Proofs.Text.Part
import Mathlib.Tactic.Common

/-!
# Locale identifiers

An identifier is a language of any length without underscores, or a language and a country of two
characters each with an underscore between them, behind which a second underscore and any variant may
follow. Reading and writing identifiers are inverse to each other but for two things: an empty variant
is not written, and a locale can have parts that no identifier gives, since a locale bounds neither
the length of its language nor the characters of its parts.

**Results.**
* `Locale.Spells`, `Locale.parse_eq_ok_iff`: which texts spell which locale.
* `Locale.Spells.text_eq`: what is written for a locale that has been read.
* `Locale.parse_text_iff`: the locales that are read back from what is written for them.
* `Locale.identifier_codec`: all three in terms of texts and parts.
-/

namespace MessageCatalog
namespace Locale

variable {l : Locale} {s language country variant : Text}

section Parts

/-- The constructor takes the parts over as they are, or refuses them. -/
theorem ofParts_eq_ok_iff :
    ofParts language country variant = .ok l ↔
      l.language = language ∧ l.country = country ∧ l.variant = variant := by
  constructor
  · intro h
    unfold ofParts at h
    split at h
    · cases h
    · split at h
      · cases h
      · split at h
        · cases h
        · cases h
          exact ⟨rfl, rfl, rfl⟩
  · rintro ⟨rfl, rfl, rfl⟩
    have hcountry : ¬ (l.country ≠ [] ∧ l.country.length ≠ 2) :=
      fun h => l.country_length.elim h.1 h.2
    have hvariant : ¬ (l.variant ≠ [] ∧ l.country = []) :=
      fun h => l.country_of_variant h.1 h.2
    rw [ofParts, dif_neg l.language_ne_nil, dif_neg hcountry, dif_neg hvariant]

theorem ofParts_parts (l : Locale) : ofParts l.language l.country l.variant = .ok l :=
  ofParts_eq_ok_iff.mpr ⟨rfl, rfl, rfl⟩

theorem variant_eq_nil (h : l.country = []) : l.variant = [] :=
  Decidable.byContradiction fun hvariant => l.country_of_variant hvariant h

end Parts

section Reading

/-- Two characters other than underscores. -/
structure IsCode (t : Text) : Prop where
  length : t.length = 2
  noLow : '_' ∉ t

instance (t : Text) : Decidable (IsCode t) :=
  decidable_of_iff (t.length = 2 ∧ '_' ∉ t) ⟨fun h => ⟨h.1, h.2⟩, fun h => ⟨h.length, h.noLow⟩⟩

theorem IsCode.ne_nil (h : IsCode s) : s ≠ [] := by
  rintro rfl
  exact absurd h.length (by decide)

/-- The text is an identifier of the locale. -/
inductive Spells (l : Locale) : Text → Prop
  | language (hcountry : l.country = []) (hlanguage : '_' ∉ l.language) : Spells l l.language
  | country (hlanguage : IsCode l.language) (hcountry : IsCode l.country)
      (hvariant : l.variant = []) : Spells l (l.language ++ '_' :: l.country)
  | variant (hlanguage : IsCode l.language) (hcountry : IsCode l.country) :
      Spells l (l.language ++ '_' :: (l.country ++ '_' :: l.variant))

theorem parse_of_not_mem (hs : s ≠ []) (h : '_' ∉ s) : parse s = ofParts s [] [] := by
  rw [parse, Text.cut_eq_none_iff.mpr h]
  exact if_neg hs

/-- Behind a language of two characters the rest has to begin with a country of two. -/
theorem parse_append (hlanguage : IsCode language) {rest : Text}
    (hrest : (rest.cut '_').getD (rest, []) = (country, variant)) (hcountry : IsCode country) :
    parse (language ++ '_' :: rest) = ofParts language country variant := by
  rw [parse, Text.cut_eq_some_iff.mpr ⟨hlanguage.noLow, rfl⟩]
  dsimp only
  rw [if_neg (not_not.mpr hlanguage.length), hrest]
  exact if_neg (not_not.mpr hcountry.length)

theorem Spells.parse (h : Spells l s) : parse s = .ok l := by
  cases h with
  | language hcountry hlanguage =>
      rw [parse_of_not_mem l.language_ne_nil hlanguage, ofParts_eq_ok_iff]
      exact ⟨rfl, hcountry, variant_eq_nil hcountry⟩
  | country hlanguage hcountry hvariant =>
      have hrest : (l.country.cut '_').getD (l.country, []) = (l.country, []) := by
        rw [Text.cut_eq_none_iff.mpr hcountry.noLow, Option.getD_none]
      rw [parse_append hlanguage hrest hcountry, ofParts_eq_ok_iff]
      exact ⟨rfl, rfl, hvariant⟩
  | variant hlanguage hcountry =>
      have hrest : ((l.country ++ '_' :: l.variant).cut '_').getD
          (l.country ++ '_' :: l.variant, []) = (l.country, l.variant) := by
        rw [Text.cut_eq_some_iff.mpr ⟨hcountry.noLow, rfl⟩, Option.getD_some]
      rw [parse_append hlanguage hrest hcountry]
      exact ofParts_parts l

theorem spells_of_parse (h : Locale.parse s = .ok l) : Spells l s := by
  unfold Locale.parse at h
  split at h
  next hcut =>
    have hlow := Text.cut_eq_none_iff.mp hcut
    split at h
    · cases h
    · obtain ⟨rfl, hcountry, -⟩ := ofParts_eq_ok_iff.mp h
      exact .language hcountry hlow
  next language rest hcut =>
    obtain ⟨hlow, rfl⟩ := Text.cut_eq_some_iff.mp hcut
    split at h
    · cases h
    next hlength =>
      have hlanguage : IsCode language := ⟨not_not.mp hlength, hlow⟩
      cases hsecond : rest.cut '_' with
      | none =>
          rw [hsecond] at h
          dsimp only [Option.getD_none] at h
          split at h
          · cases h
          next hcountry =>
            obtain ⟨rfl, rfl, hvariant⟩ := ofParts_eq_ok_iff.mp h
            exact .country hlanguage ⟨not_not.mp hcountry, Text.cut_eq_none_iff.mp hsecond⟩ hvariant
      | some parts =>
          obtain ⟨country, variant⟩ := parts
          obtain ⟨hlow', rfl⟩ := Text.cut_eq_some_iff.mp hsecond
          rw [hsecond] at h
          dsimp only [Option.getD_some] at h
          split at h
          · cases h
          next hcountry =>
            obtain ⟨rfl, rfl, rfl⟩ := ofParts_eq_ok_iff.mp h
            exact .variant hlanguage ⟨not_not.mp hcountry, hlow'⟩

theorem parse_eq_ok_iff : Locale.parse s = .ok l ↔ Spells l s :=
  ⟨spells_of_parse, Spells.parse⟩

/-- The texts that are read: a language alone, or language and country of two characters each, with
a variant or without. -/
inductive IsIdentifier : Text → Prop
  | language {language : Text} (hlanguage : language ≠ []) (hlow : '_' ∉ language) :
      IsIdentifier language
  | country {language country : Text} (hlanguage : IsCode language) (hcountry : IsCode country) :
      IsIdentifier (language ++ '_' :: country)
  | variant {language country : Text} (hlanguage : IsCode language) (hcountry : IsCode country)
      (variant : Text) : IsIdentifier (language ++ '_' :: (country ++ '_' :: variant))

theorem Spells.isIdentifier (h : Spells l s) : IsIdentifier s := by
  cases h with
  | language _ hlanguage => exact .language l.language_ne_nil hlanguage
  | country hlanguage hcountry _ => exact .country hlanguage hcountry
  | variant hlanguage hcountry => exact .variant hlanguage hcountry _

theorem IsIdentifier.exists_spells (h : IsIdentifier s) : ∃ l, Spells l s := by
  cases h with
  | language hlanguage hlow =>
      exact ⟨⟨s, [], [], hlanguage, .inl rfl, fun h => absurd rfl h⟩, .language rfl hlow⟩
  | @country language country hlanguage hcountry =>
      exact ⟨⟨language, country, [], hlanguage.ne_nil, .inr hcountry.length,
        fun _ => hcountry.ne_nil⟩, .country hlanguage hcountry rfl⟩
  | @variant language country hlanguage hcountry variant =>
      exact ⟨⟨language, country, variant, hlanguage.ne_nil, .inr hcountry.length,
        fun _ => hcountry.ne_nil⟩, .variant hlanguage hcountry⟩

end Reading

section Writing

theorem text_of_country_nil (h : l.country = []) : l.text = l.language := by
  simp [text, h, variant_eq_nil h]

theorem text_of_variant_nil (hcountry : l.country ≠ []) (hvariant : l.variant = []) :
    l.text = l.language ++ '_' :: l.country := by
  simp [text, hcountry, hvariant]

theorem text_of_variant (h : l.variant ≠ []) :
    l.text = l.language ++ '_' :: (l.country ++ '_' :: l.variant) := by
  simp [text, h]

/-- The parts of a locale can be told apart in what is written for it. -/
structure IsReadable (l : Locale) : Prop where
  language : '_' ∉ l.language
  country : '_' ∉ l.country
  length : l.country ≠ [] → l.language.length = 2

theorem Spells.isReadable (h : Spells l s) : l.IsReadable := by
  cases h with
  | language hcountry hlanguage =>
      exact ⟨hlanguage, hcountry ▸ List.not_mem_nil, fun h => absurd hcountry h⟩
  | country hlanguage hcountry _ =>
      exact ⟨hlanguage.noLow, hcountry.noLow, fun _ => hlanguage.length⟩
  | variant hlanguage hcountry =>
      exact ⟨hlanguage.noLow, hcountry.noLow, fun _ => hlanguage.length⟩

theorem IsReadable.spells_text (h : l.IsReadable) : Spells l l.text := by
  by_cases hcountry : l.country = []
  · rw [text_of_country_nil hcountry]
    exact .language hcountry h.language
  · have hcode : IsCode l.language := ⟨h.length hcountry, h.language⟩
    have hcode' : IsCode l.country := ⟨l.country_length.resolve_left hcountry, h.country⟩
    by_cases hvariant : l.variant = []
    · rw [text_of_variant_nil hcountry hvariant]
      exact .country hcode hcode' hvariant
    · rw [text_of_variant hvariant]
      exact .variant hcode hcode'

/-- A locale is read back exactly if its parts can be told apart. -/
theorem parse_text_iff : Locale.parse l.text = .ok l ↔ l.IsReadable := by
  rw [parse_eq_ok_iff]
  exact ⟨Spells.isReadable, IsReadable.spells_text⟩

/-- An identifier with an underscore at its end: the variant behind it is empty. -/
def openIdentifier (language country : Text) : Text :=
  language ++ '_' :: (country ++ ['_'])

/-- What is written is what has been read, but for an underscore at the end. -/
theorem Spells.text_eq (h : Spells l s) :
    l.text = s ∨ l.variant = [] ∧ IsCode l.language ∧ IsCode l.country ∧
      s = openIdentifier l.language l.country := by
  cases h with
  | language hcountry _ => exact .inl (text_of_country_nil hcountry)
  | country _ hcountry hvariant => exact .inl (text_of_variant_nil hcountry.ne_nil hvariant)
  | variant hlanguage hcountry =>
      by_cases hvariant : l.variant = []
      · exact .inr ⟨hvariant, hlanguage, hcountry, by rw [hvariant, openIdentifier]⟩
      · exact .inl (text_of_variant hvariant)

theorem spells_openIdentifier (hlanguage : IsCode language) (hcountry : IsCode country)
    (h : Spells l (openIdentifier language country)) : l.text = language ++ '_' :: country := by
  let known : Locale := ⟨language, country, [], hlanguage.ne_nil, .inr hcountry.length,
    fun _ => hcountry.ne_nil⟩
  have hknown : Spells known (openIdentifier language country) := .variant hlanguage hcountry
  obtain rfl : known = l := Except.ok.inj (hknown.parse.symm.trans h.parse)
  exact text_of_variant_nil hcountry.ne_nil rfl

/-- The identifiers are a language alone and language and country of two characters each, with any
variant or none. What is written for an identifier is that identifier, without the underscore of an
empty variant, and it is read as the same locale. A locale is read back from what is written for it
exactly if neither language nor country has an underscore and the language has two characters
whenever there is a country. -/
theorem identifier_codec :
    (∀ s, (∃ l, parse s = .ok l) ↔ IsIdentifier s) ∧
    (∀ s l, parse s = .ok l →
      (∀ language country, IsCode language → IsCode country →
        s = openIdentifier language country → l.text = language ++ '_' :: country) ∧
      ((¬ ∃ language country, IsCode language ∧ IsCode country ∧
        s = openIdentifier language country) → l.text = s) ∧
      parse l.text = .ok l) ∧
    ∀ language country variant l, ofParts language country variant = .ok l →
      (parse l.text = .ok l ↔
        '_' ∉ language ∧ '_' ∉ country ∧ (country ≠ [] → language.length = 2)) := by
  refine ⟨fun s => ⟨?_, ?_⟩, fun s l h => ⟨?_, ?_, ?_⟩, ?_⟩
  · rintro ⟨l, h⟩
    exact (spells_of_parse h).isIdentifier
  · intro h
    obtain ⟨l, hl⟩ := h.exists_spells
    exact ⟨l, hl.parse⟩
  · rintro language country hlanguage hcountry rfl
    exact spells_openIdentifier hlanguage hcountry (spells_of_parse h)
  · intro hopen
    refine (spells_of_parse h).text_eq.resolve_right fun ⟨_, hlanguage, hcountry, hs⟩ => ?_
    exact hopen ⟨_, _, hlanguage, hcountry, hs⟩
  · exact parse_text_iff.mpr (spells_of_parse h).isReadable
  · intro language country variant l h
    obtain ⟨rfl, rfl, rfl⟩ := ofParts_eq_ok_iff.mp h
    rw [parse_text_iff]
    exact ⟨fun h => ⟨h.language, h.country, h.length⟩, fun ⟨h, h', h''⟩ => ⟨h, h', h''⟩⟩

/-- An underscore at the end is not written, and one inside the language is not read back. -/
theorem underscore_codec :
    (∃ l, parse "en_US_" = .ok l ∧ l.text = "en_US" ∧ parse l.text = .ok l) ∧
    ∃ l, ofParts "e_" "US" [] = .ok l ∧ parse l.text ≠ .ok l := by
  obtain ⟨hread, hwritten, hback⟩ := identifier_codec
  have hen : IsCode "en" := by decide
  have hus : IsCode "US" := by decide
  constructor
  · obtain ⟨l, hl⟩ := (hread "en_US_").mpr (.variant hen hus [])
    obtain ⟨hopen, -, hagain⟩ := hwritten _ l hl
    exact ⟨l, hl, hopen _ _ hen hus rfl, hagain⟩
  · refine ⟨_, rfl, fun h => ?_⟩
    obtain ⟨hlow, -⟩ := (hback "e_" "US" [] _ rfl).mp h
    exact hlow (by decide)

end Writing

end Locale
end MessageCatalog
