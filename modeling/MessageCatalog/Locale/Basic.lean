import MessageCatalog.Text.Blank

/-!
# Locales

A locale is a language, a country of two characters and a variant, of which the last two may be
missing. Its identifier is `language[_COUNTRY[_VARIANT]]`. The shape of a locale is part of its
type: there is no variant without a country and no country of another length.
-/

namespace MessageCatalog

/-- A locale; the empty text stands for a missing country or variant. -/
structure Locale where
  language : Text
  country : Text
  variant : Text
  language_ne_nil : language ≠ []
  country_length : country = [] ∨ country.length = 2
  country_of_variant : variant ≠ [] → country ≠ []
deriving DecidableEq

/-- Why a locale or its identifier is refused. -/
inductive LocaleError where
  /-- The language is empty. -/
  | noLanguage
  /-- The country has a length other than two. -/
  | wrongCountry (country : Text)
  /-- There is a variant but no country. -/
  | variantAlone
  /-- The identifier is empty. -/
  | noIdentifier
  /-- The language before an underscore has a length other than two. -/
  | languageLength (identifier : Text)
  /-- The country after an underscore has a length other than two. -/
  | countryLength (identifier : Text)
deriving DecidableEq, Repr

/-- The wording of a refusal. -/
def LocaleError.message : LocaleError → Text
  | .noLanguage => "Locale must have a language"
  | .wrongCountry country => "Invalid country '" ++ country ++ "': expected 2 characters"
  | .variantAlone => "Locale variant requires a country"
  | .noIdentifier => "Empty locale identifier"
  | .languageLength identifier =>
      "Invalid locale '" ++ identifier ++ "': language must have 2 characters"
  | .countryLength identifier =>
      "Invalid locale '" ++ identifier ++ "': country must have 2 characters"

namespace Locale

/-- The locale of the three parts; the first part that does not fit is reported. -/
def ofParts (language country variant : Text) : Except LocaleError Locale :=
  if hl : language = [] then .error .noLanguage
  else if hc : country ≠ [] ∧ country.length ≠ 2 then .error (.wrongCountry country)
  else if hv : variant ≠ [] ∧ country = [] then .error .variantAlone
  else .ok
    { language, country, variant
      language_ne_nil := hl
      country_length := by
        by_cases h : country = []
        · exact Or.inl h
        · exact Or.inr (Classical.byContradiction fun h' => hc ⟨h, h'⟩)
      country_of_variant := fun h h' => hv ⟨h, h'⟩ }

/-- The locale of an identifier. Without an underscore the whole identifier is the language, of any
length; otherwise language and country have two characters each, and everything after the second
underscore is the variant. -/
def parse (identifier : Text) : Except LocaleError Locale :=
  match identifier.cut '_' with
  | none => if identifier = [] then .error .noIdentifier else ofParts identifier [] []
  | some (language, rest) =>
      if language.length ≠ 2 then .error (.languageLength identifier)
      else
        let (country, variant) := (rest.cut '_').getD (rest, [])
        if country.length ≠ 2 then .error (.countryLength identifier)
        else ofParts language country variant

/-- The locale of an identifier, if it is one. -/
def parse? (identifier : Text) : Option Locale :=
  (parse identifier).toOption

/-- The identifier of a locale. -/
def text (l : Locale) : Text :=
  l.language
    ++ (if l.country = [] ∧ l.variant = [] then [] else '_' :: l.country)
    ++ (if l.variant = [] then [] else '_' :: l.variant)

/-- The identifiers of a comma-separated list, stripped, without the empty ones. -/
def identifiers (list : Text) : List Text :=
  ((list.splitOn ',').map Text.strip).filter (· ≠ [])

end Locale

end MessageCatalog
