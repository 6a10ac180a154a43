import MessageCatalog.Proofs.Computation
import MessageCatalog.Proofs.Text.Part
import MessageCatalog.Proofs.Text.Quoted
import MessageCatalog.Properties.File
import MessageCatalog.Text.Digit

/-!
# Reading properties files

A properties file is read by lines. A line feed, a carriage return, or a carriage return and a line
feed end a line; blank lines and those that begin with `#` or `!` stand for nothing, and a line that
ends with an unescaped backslash goes on with the next one. The key of an entry ends at the first
unescaped blank, equal sign or colon, and the blanks around the separator belong neither to the key
nor to the value. This module states these rules as a reader and shows that it gets back from a base
properties file what the bundle says.

The blanks behind the separator are why the value must not begin with one that is written as it is,
and a comment line ends at a line break in whatever is put into it.

**Results.**
* `read`: the entries of a properties file.
* `units_entryValue`: reading undoes the escapes of a value, up to the line breaks that they merge.
* `read_baseText`: the entries of a base properties file are those that it was made of.
* `readBack_eq`: a bundle is rendered, and its file is read as its names and texts.
-/

namespace MessageCatalog

namespace Text

/-- The text begins with an ASCII letter or an underscore, and digits may follow. -/
def IsIdentifier : Text → Prop
  | [] => False
  | c :: t => (c.isAlpha ∨ c = '_') ∧ ∀ d ∈ t, d.isAlphanum ∨ d = '_'

instance : DecidablePred IsIdentifier
  | [] => inferInstanceAs (Decidable False)
  | _ :: t =>
      let : Decidable (∀ d ∈ t, d.isAlphanum ∨ d = '_') := List.decidableBAll _ t
      inferInstanceAs (Decidable (_ ∧ _))

end Text

namespace Properties

/-- A blank of the grammar of properties files. -/
def isSpace (c : Char) : Bool :=
  c = ' ' || c = '\t' || c = '\x0c'

/-- A line that stands for nothing, unless it continues another one. -/
def isIdle : Text → Bool
  | [] => true
  | c :: _ => c = '#' || c = '!'

/-- Whether a character escapes the next one, when it may be escaped itself. -/
def escapesNext (escaped : Bool) (c : Char) : Bool :=
  c = '\\' && !escaped

/-- The line ends with a backslash that no other one escapes. -/
def continues (line : Text) : Bool :=
  line.foldl escapesNext false

/-- The lines of the entries, each put together from its natural lines. The first argument is what
stands before the natural lines if they continue an entry. -/
def entryLines : Option Text → List Text → List Text
  | begun, [] => begun.toList
  | begun, natural :: rest =>
      let line := natural.dropWhile isSpace
      if begun.isNone && isIdle line then entryLines none rest
      else
        let before := begun.getD []
        if continues line then entryLines (some (before ++ line.dropLast)) rest
        else (before ++ line) :: entryLines none rest

/-- The key of an entry as it is written, and the rest of the line from its end. -/
def cutKey : Text → Text × Text
  | [] => ([], [])
  | '\\' :: c :: t =>
      let (key, rest) := cutKey t
      ('\\' :: c :: key, rest)
  | c :: t =>
      if isSpace c || c = '=' || c = ':' then ([], c :: t)
      else
        let (key, rest) := cutKey t
        (c :: key, rest)

/-- What stands behind the separator, which may be nothing but blanks. -/
def dropSeparator (t : Text) : Text :=
  match t.dropWhile isSpace with
  | [] => []
  | c :: rest => if c = '=' || c = ':' then rest.dropWhile isSpace else c :: rest

/-- The character that an escaped character stands for. -/
def escaped : Char → Char
  | 't' => '\t'
  | 'n' => '\n'
  | 'r' => '\r'
  | 'f' => '\x0c'
  | c => c

/-- The number of hexadecimal digits. -/
def codeUnit? (digits : Text) : Option Nat :=
  digits.foldlM (fun n c => (Text.digitOf? 16 c).map (16 * n + ·)) 0

/-- The code units of a key or a value. An escape may be half of a surrogate pair; one with too few
digits is refused. -/
def units : Text → Option (List Nat)
  | [] => some []
  | ['\\'] => some []
  | '\\' :: 'u' :: a :: b :: c :: d :: t => do
      return (← codeUnit? [a, b, c, d]) :: (← units t)
  | '\\' :: 'u' :: _ => none
  | '\\' :: c :: t => (units t).map ((escaped c).toNat :: ·)
  | c :: t => (units t).map (c.toNat :: ·)

/-- The text of the code units, if they have no half of a surrogate pair alone. -/
def ofUnits : List Nat → Option Text
  | [] => some []
  | [n] => if n.isValidChar then some [Char.ofNat n] else none
  | n :: m :: rest =>
      if 0xD800 ≤ n ∧ n < 0xDC00 ∧ 0xDC00 ≤ m ∧ m < 0xE000 then
        (ofUnits rest).map (Char.ofNat (0x10000 + (n - 0xD800) * 0x400 + (m - 0xDC00)) :: ·)
      else if n.isValidChar then (ofUnits (m :: rest)).map (Char.ofNat n :: ·)
      else none

/-- The text that a key or a value denotes. -/
def unescape (t : Text) : Option Text :=
  units t >>= ofUnits

/-- The entry of a line. -/
def entryOfLine (line : Text) : Option Property := do
  let (key, rest) := cutKey line
  return ⟨← unescape key, ← unescape (dropSeparator rest)⟩

/-- The entries of a properties file, in order; nothing if an escape is malformed. -/
def read (t : Text) : Option (List Property) :=
  ((entryLines none t.naturalLines).filter (· ≠ [])).mapM entryOfLine

end Properties

namespace Text

variable {c d : Char} {t : Text}

/-- What an identifier is made of is none of the characters with a meaning of their own. -/
theorem IsIdentifier.ne_of_mem (h : IsIdentifier t) (hc : c ∈ t)
    (hd : (d.isAlphanum || d = '_') = false) : c ≠ d := by
  rintro rfl
  rw [Bool.or_eq_false_iff, decide_eq_false_iff_not] at hd
  cases t with
  | nil => cases hc
  | cons first rest =>
      rcases List.mem_cons.mp hc with rfl | hc
      · rcases h.1 with halpha | hlow
        · rw [Char.isAlphanum, halpha] at hd
          cases hd.1
        · exact hd.2 hlow
      · rcases h.2 c hc with halphanum | hlow
        · rw [halphanum] at hd
          cases hd.1
        · exact hd.2 hlow

theorem IsIdentifier.not_mem (h : IsIdentifier t) (hd : (d.isAlphanum || d = '_') = false) :
    d ∉ t :=
  fun hmem => h.ne_of_mem hmem hd rfl

theorem IsIdentifier.isLine (h : IsIdentifier t) : IsLine t :=
  ⟨h.not_mem (by decide), h.not_mem (by decide)⟩

end Text

namespace Properties

open Text

variable {t name : Text}

theorem entryLines_idle {idle rest : List Text}
    (h : ∀ line ∈ idle, isIdle (line.dropWhile isSpace) = true) :
    entryLines none (idle ++ rest) = entryLines none rest := by
  induction idle with
  | nil => rfl
  | cons line idle ih =>
      have hline := h line List.mem_cons_self
      rw [List.cons_append, entryLines, Option.isNone_none, Bool.true_and, if_pos hline,
        ih fun other hother => h other (List.mem_cons_of_mem _ hother)]

/-- A line that begins with a character of a key and is not continued is that of an entry. -/
theorem entryLines_entry {c : Char} {line : Text} {rest : List Text}
    (hspace : isSpace c = false) (hidle : isIdle (c :: line) = false)
    (hends : continues (c :: line) = false) :
    entryLines none ((c :: line) :: rest) = (c :: line) :: entryLines none rest := by
  have hdrop : (c :: line).dropWhile isSpace = c :: line := by simp [hspace]
  rw [entryLines, hdrop]
  simp [hidle, hends]

section Escapes

theorem ofUnits_map_toNat (t : Text) : ofUnits (t.map Char.toNat) = some t := by
  have hvalid (c : Char) : c.toNat.isValidChar := c.valid
  induction t with
  | nil => rfl
  | cons c t ih =>
      cases t with
      | nil => simp [ofUnits, hvalid]
      | cons d t =>
          -- no character is half of a surrogate pair
          have hpair : ¬ (0xD800 ≤ c.toNat ∧ c.toNat < 0xDC00 ∧ 0xDC00 ≤ d.toNat ∧
              d.toNat < 0xE000) := by
            have hc := hvalid c
            unfold Nat.isValidChar at hc
            omega
          rw [List.map_cons] at ih
          rw [List.map_cons, List.map_cons, ofUnits, if_neg hpair, if_pos (hvalid c), ih,
            Option.map_some, Char.ofNat_toNat]

theorem units_cons {c : Char} (hc : c ≠ '\\') (t : Text) :
    units (c :: t) = (units t).map (c.toNat :: ·) := by
  rw [units]
  · intro hnil
    exact absurd hnil hc
  all_goals
    intros
    simp_all

theorem units_of_not_mem (h : '\\' ∉ t) : units t = some (t.map Char.toNat) := by
  induction t with
  | nil => rfl
  | cons c t ih =>
      rw [List.mem_cons, not_or] at h
      rw [units_cons (Ne.symm h.1), ih h.2]
      rfl

/-- The text that is read back: a line feed and the carriage return behind it are one line feed. -/
def merged (t : Text) : Text :=
  t.replace ['\n', '\r'] ['\n']

theorem merged_cons {c : Char} (hpair : ∀ rest, c = '\n' → t = '\r' :: rest → False) :
    merged (c :: t) = c :: merged t :=
  replace_pair_cons hpair

/-- A value is written character by character, apart from the pairs of a line feed and a carriage
return. -/
theorem entryValue_cons {c : Char} (hpair : ∀ rest, c = '\n' → t = '\r' :: rest → False) :
    entryValue (c :: t) = entryEscape c ++ entryValue t :=
  escapeWith_cons hpair

/-- Four characters are escaped, and every other one is written as it is. -/
theorem entryEscape_cases (c : Char) :
    c = '\\' ∨ c = '\n' ∨ c = '\r' ∨ c = '\t' ∨
      c ≠ '\\' ∧ c ≠ '\n' ∧ c ≠ '\r' ∧ c ≠ '\t' ∧ entryEscape c = [c] := by
  unfold entryEscape
  split
  case h_5 hslash hfeed hreturn htab =>
    exact .inr (.inr (.inr (.inr ⟨hslash, hfeed, hreturn, htab, rfl⟩)))
  all_goals simp

theorem units_entryEscape (c : Char) (t : Text) :
    units (entryEscape c ++ t) = (units t).map (c.toNat :: ·) := by
  obtain rfl | rfl | rfl | rfl | ⟨hslash, -, -, -, hself⟩ := entryEscape_cases c
  case inr.inr.inr.inr =>
    rw [hself]
    exact units_cons hslash t
  all_goals rfl

theorem units_entryValue (t : Text) : units (entryValue t) = some ((merged t).map Char.toNat) := by
  induction t using escapeWith.induct with
  | case1 => rfl
  | case2 t ih =>
      have hpair : entryValue ('\n' :: '\r' :: t) = entryEscape '\n' ++ entryValue t := rfl
      rw [hpair, units_entryEscape, ih]
      rfl
  | case3 c t hpair ih =>
      rw [entryValue_cons hpair, units_entryEscape, ih, merged_cons hpair]
      rfl

/-- A blank that the value of an entry has as it is. -/
def isBare (c : Char) : Bool :=
  c = ' ' || c = '\x0c'

/-- What is written for a character begins with a blank only if the character is a bare one. -/
theorem dropWhile_entryEscape {c : Char} (hc : ¬ isBare c) (t : Text) :
    (entryEscape c ++ t).dropWhile isSpace = entryEscape c ++ t := by
  obtain rfl | rfl | rfl | rfl | ⟨-, -, -, htab, hself⟩ := entryEscape_cases c
  case inr.inr.inr.inr =>
    have hspace : ¬ isSpace c := by simpa [isSpace, isBare, htab] using hc
    rw [hself]
    exact List.dropWhile_cons_of_neg hspace
  all_goals rfl

theorem dropWhile_entryValue (t : Text) :
    (entryValue t).dropWhile isSpace = entryValue (t.dropWhile isBare) := by
  induction t using escapeWith.induct with
  | case1 => rfl
  | case2 t ih => rfl
  | case3 c t hpair ih =>
      by_cases hbare : isBare c
      · rw [List.dropWhile_cons_of_pos hbare, ← ih]
        rcases Bool.or_eq_true_iff.mp hbare with hc | hc
        · cases of_decide_eq_true hc
          rfl
        · cases of_decide_eq_true hc
          rfl
      · rw [List.dropWhile_cons_of_neg hbare, entryValue_cons hpair, dropWhile_entryEscape hbare]

end Escapes

section Entries

theorem isLine_entryEscape (c : Char) : IsLine (entryEscape c) := by
  obtain rfl | rfl | rfl | rfl | ⟨-, hfeed, hreturn, -, hself⟩ := entryEscape_cases c
  case inr.inr.inr.inr =>
    rw [hself]
    exact ⟨by simp [Ne.symm hfeed], by simp [Ne.symm hreturn]⟩
  all_goals decide

theorem isLine_entryValue (t : Text) : IsLine (entryValue t) :=
  isLine_escapeWith isLine_entryEscape t

theorem foldl_escapesNext_of_not_mem (h : '\\' ∉ t) : t.foldl escapesNext false = false := by
  induction t with
  | nil => rfl
  | cons c t ih =>
      rw [List.mem_cons, not_or] at h
      rw [List.foldl_cons, escapesNext, decide_eq_false (Ne.symm h.1), Bool.false_and]
      exact ih h.2

theorem foldl_escapesNext_entryEscape (c : Char) :
    (entryEscape c).foldl escapesNext false = false := by
  obtain rfl | rfl | rfl | rfl | ⟨hslash, -, -, -, hself⟩ := entryEscape_cases c
  case inr.inr.inr.inr =>
    rw [hself]
    exact foldl_escapesNext_of_not_mem (by simpa using fun hc => hslash hc.symm)
  all_goals rfl

/-- Behind a value no escape is open. -/
theorem continues_entryValue (t : Text) : continues (entryValue t) = false := by
  unfold continues
  induction t using escapeWith.induct with
  | case1 => rfl
  | case2 t ih => exact ih
  | case3 c t hpair ih =>
      rw [entryValue_cons hpair, List.foldl_append, foldl_escapesNext_entryEscape, ih]

theorem cutKey_append (hname : IsIdentifier name) (t : Text) :
    cutKey (name ++ '=' :: t) = (name, '=' :: t) := by
  have hchars : ∀ c ∈ name, c ≠ '\\' ∧ (isSpace c || c = '=' || c = ':') = false := by
    intro c hc
    have hne {d : Char} (hd : (d.isAlphanum || d = '_') = false) : c ≠ d := hname.ne_of_mem hc hd
    refine ⟨hne (by decide), ?_⟩
    simp [isSpace, hne (d := ' ') (by decide), hne (d := '\t') (by decide),
      hne (d := '\x0c') (by decide), hne (d := '=') (by decide), hne (d := ':') (by decide)]
  clear hname
  induction name with
  | nil => rfl
  | cons c name ih =>
      obtain ⟨hslash, hends⟩ := hchars c List.mem_cons_self
      rw [List.cons_append, cutKey, if_neg (by simp [hends]),
        ih fun d hd => hchars d (List.mem_cons_of_mem _ hd)]
      intro d rest hc
      exact absurd hc hslash

theorem entryOfLine_entryLine {entry : Property} (hname : IsIdentifier entry.name) :
    entryOfLine (entryLine entry) =
      some ⟨entry.name, merged (entry.value.dropWhile isBare)⟩ := by
  have hkey : unescape entry.name = some entry.name := by
    rw [unescape, units_of_not_mem (hname.not_mem (by decide)), Option.bind_eq_bind,
      Option.bind_some, ofUnits_map_toNat]
  have hvalue : unescape (dropSeparator ('=' :: entry.value.entryValue)) =
      some (merged (entry.value.dropWhile isBare)) := by
    have hdrop : dropSeparator ('=' :: entry.value.entryValue) =
        entry.value.entryValue.dropWhile isSpace := rfl
    rw [hdrop, dropWhile_entryValue, unescape, units_entryValue, Option.bind_eq_bind,
      Option.bind_some, ofUnits_map_toNat]
  rw [entryOfLine, entryLine, cutKey_append hname]
  dsimp only
  rw [hkey, hvalue]
  rfl

/-- The lines of entries are read one by one. -/
theorem entryLines_map_entryLine {entries : List Property}
    (hnames : ∀ entry ∈ entries, IsIdentifier entry.name) (rest : List Text) :
    entryLines none (entries.map entryLine ++ rest) =
      entries.map entryLine ++ entryLines none rest := by
  induction entries with
  | nil => rfl
  | cons entry entries ih =>
      have hname := hnames entry List.mem_cons_self
      have hends : continues (entryLine entry) = false := by
        rw [entryLine, continues, List.foldl_append,
          foldl_escapesNext_of_not_mem (hname.not_mem (by decide))]
        exact continues_entryValue entry.value
      obtain ⟨c, key, hkey⟩ : ∃ c key, entry.name = c :: key := by
        cases h : entry.name with
        | nil => rw [h] at hname; exact hname.elim
        | cons c key => exact ⟨c, key, rfl⟩
      have hline : entryLine entry = c :: (key ++ '=' :: entry.value.entryValue) := by
        rw [entryLine, hkey, List.cons_append]
      have hne {d : Char} (hd : (d.isAlphanum || d = '_') = false) : c ≠ d :=
        hname.ne_of_mem (hkey ▸ List.mem_cons_self) hd
      have hspace : isSpace c = false := by
        simp [isSpace, hne (d := ' ') (by decide), hne (d := '\t') (by decide),
          hne (d := '\x0c') (by decide)]
      have hidle : isIdle (entryLine entry) = false := by
        rw [hline]
        simp [isIdle, hne (d := '#') (by decide), hne (d := '!') (by decide)]
      rw [List.map_cons, List.cons_append, List.cons_append,
        ← ih fun other hother => hnames other (List.mem_cons_of_mem _ hother)]
      rw [hline] at hidle hends ⊢
      exact entryLines_entry hspace hidle hends

end Entries

section Comments

/-- A line that is blank or a comment. -/
def IsRemark (line : Text) : Prop :=
  IsLine line ∧ isIdle (line.dropWhile isSpace)

theorem isRemark_nil : IsRemark [] :=
  ⟨by decide, rfl⟩

theorem isRemark_cons (h : IsLine t) : IsRemark ('#' :: t) :=
  ⟨isLine_append ['#'] (by decide) h, rfl⟩

theorem isLine_sourceText {header : Header} (h : header.source.text.IsLine) :
    header.sourceText.IsLine := by
  have hpath : IsLine (header.source.text.replaceChar '\\' '/') := by
    refine ⟨fun hfeed => ?_, fun hreturn => ?_⟩
    · obtain ⟨c, hc, heq⟩ := List.mem_map.mp hfeed
      split at heq
      · cases heq
      · exact h.1 (heq ▸ hc)
    · obtain ⟨c, hc, heq⟩ := List.mem_map.mp hreturn
      split at heq
      · cases heq
      · exact h.2 (heq ▸ hc)
  unfold Header.sourceText
  dsimp only
  split
  · split
    next before name hcut =>
      split
      · exact hpath
      · have hname : IsLine name := hpath.mono (subset_of_cutLast hcut).2
        exact isLine_append ("...".toList ++ ['/']) (by decide) hname
    next => exact hpath
  · exact hpath

theorem isRemark_originLines {header : Header} (hsource : header.source.text.IsLine)
    (htime : header.timestamp.IsLine) : ∀ line ∈ originLines header, IsRemark line := by
  have hdate : ∀ line ∈ header.timeLines "# ", IsRemark line := by
    unfold Header.timeLines Header.generatedOn
    intro line hline
    split at hline
    · cases hline
    · cases hline
    next time _ htimestamp =>
      split at htimestamp
      · cases htimestamp
      · cases htimestamp
        cases List.mem_singleton.mp hline
        exact isRemark_cons (isLine_append (" on " ++ header.timestamp)
          (isLine_append " on " (by decide) htime) (by decide))
  refine List.forall_mem_append.mpr ⟨List.forall_mem_append.mpr ⟨?_, hdate⟩, ?_⟩
  · refine List.forall_mem_cons.mpr ⟨isRemark_cons (by decide), List.forall_mem_singleton.mpr ?_⟩
    exact isRemark_cons (isLine_append " from " (by decide) (isLine_sourceText hsource))
  · exact List.forall_mem_singleton.mpr isRemark_nil

end Comments

section Rendered

theorem entryLines_unlines {remarks ending : List Text} {entries : List Property}
    (hremarks : ∀ line ∈ remarks, IsRemark line) (hending : ∀ line ∈ ending, IsRemark line)
    (hnames : ∀ entry ∈ entries, IsIdentifier entry.name) :
    entryLines none (unlines (remarks ++ entries.map entryLine ++ ending)).naturalLines =
      entries.map entryLine := by
  have hlines : ∀ line ∈ remarks ++ entries.map entryLine ++ ending, IsLine line := by
    refine List.forall_mem_append.mpr ⟨List.forall_mem_append.mpr ⟨?_, ?_⟩, ?_⟩
    · exact fun line hline => (hremarks line hline).1
    · refine List.forall_mem_map.mpr fun entry hentry =>
        isLine_append _ (hnames entry hentry).isLine ?_
      exact isLine_append ['='] (by decide) (isLine_entryValue entry.value)
    · exact fun line hline => (hending line hline).1
  have hlast : ∀ line ∈ ending ++ [[]], isIdle (line.dropWhile isSpace) = true :=
    List.forall_mem_append.mpr
      ⟨fun line hline => (hending line hline).2, List.forall_mem_singleton.mpr rfl⟩
  have hend : entryLines none (ending ++ [[]]) = [] := by
    rw [← List.append_nil (ending ++ [[]]), entryLines_idle hlast]
    rfl
  rw [naturalLines_unlines hlines, List.append_assoc, List.append_assoc,
    entryLines_idle fun line hline => (hremarks line hline).2, entryLines_map_entryLine hnames,
    hend, List.append_nil]

theorem mapM_entryOfLine {entries : List Property}
    (hnames : ∀ entry ∈ entries, IsIdentifier entry.name) :
    (entries.map entryLine).mapM entryOfLine =
      some (entries.map fun entry => ⟨entry.name, merged (entry.value.dropWhile isBare)⟩) := by
  induction entries with
  | nil => rfl
  | cons entry entries ih =>
      rw [List.map_cons, List.mapM_cons, entryOfLine_entryLine (hnames entry List.mem_cons_self),
        ih fun other hother => hnames other (List.mem_cons_of_mem _ hother)]
      rfl

theorem read_baseText {className : Text} {locale : Option Locale} {header : Header}
    {entries : List Property} (hclass : className.IsLine)
    (hlocale : ∀ l ∈ locale, l.text.IsLine) (hsource : header.source.text.IsLine)
    (htime : header.timestamp.IsLine) (hnames : ∀ entry ∈ entries, IsIdentifier entry.name) :
    read (baseText className locale header entries) =
      some (entries.map fun entry => ⟨entry.name, merged (entry.value.dropWhile isBare)⟩) := by
  have hlocale : IsLine ((locale.map Locale.text).getD []) := by
    cases locale with
    | none => decide
    | some l => exact hlocale l rfl
  have hremarks : ∀ line ∈ [("# This file contains the resources for" : Text),
      "# class '" ++ className ++ "'; the base locale is '"
        ++ (locale.map Locale.text).getD [] ++ "'."] ++ originLines header, IsRemark line := by
    refine List.forall_mem_append.mpr ⟨?_, isRemark_originLines hsource htime⟩
    refine List.forall_mem_cons.mpr ⟨isRemark_cons (by decide), List.forall_mem_singleton.mpr ?_⟩
    have hopening := isLine_append " class '" (by decide) hclass
    have hbase := isLine_append "'; the base locale is '" (by decide) hlocale
    have hbefore := isLine_append _ hopening hbase
    rw [← List.append_assoc] at hbefore
    exact isRemark_cons (isLine_append _ hbefore (by decide))
  have hending : ∀ line ∈ [("# End " : Text) ++ className ++ ".properties"], IsRemark line := by
    have hname := isLine_append " End " (by decide) hclass
    exact List.forall_mem_singleton.mpr (isRemark_cons (isLine_append _ hname (by decide)))
  have hne : ∀ line ∈ entries.map entryLine, decide (line ≠ []) = true := by
    refine List.forall_mem_map.mpr fun entry _ => decide_eq_true ?_
    simp [entryLine]
  rw [read, baseText, entryLines_unlines hremarks hending hnames, List.filter_eq_self.mpr hne,
    mapM_entryOfLine hnames]

/-- What the resources of a bundle say, in order. -/
def namesAndTexts (resources : List Resource) : List Property :=
  resources.map fun r => ⟨r.name, r.text.getD []⟩

/-- The entries of a bundle whose resources all have texts. -/
theorem outcome_mapM_entryOf (source : Path) {resources : List Resource}
    (htexts : ∀ r ∈ resources, r.text ≠ none) (c : Context) :
    (outcome (resources.mapM (entryOf source)) c).1 =
      .ok (namesAndTexts resources) := by
  induction resources generalizing c with
  | nil => rfl
  | cons r resources ih =>
      obtain ⟨text, htext⟩ := Option.ne_none_iff_exists'.mp (htexts r List.mem_cons_self)
      have hentry : (outcome (entryOf source r) c).1 = .ok ⟨r.name, text⟩ := by
        have hlookup : outcome (Rendering.ofExcept
            ((r.requireText source).mapError RenderError.generation)) c = (.ok text, c) := by
          rw [Resource.requireText, htext]
          rfl
        rw [entryOf, outcome_bind_of_ok hlookup]
        split
        · rfl
        · rfl
      have hrest := ih (fun other hother => htexts other (List.mem_cons_of_mem _ hother))
        (outcome (entryOf source r) c).2
      have hcons : namesAndTexts (r :: resources) = ⟨r.name, text⟩ :: namesAndTexts resources := by
        rw [namesAndTexts, List.map_cons, htext]
        rfl
      rw [List.mapM_cons, outcome_bind_of_ok (outcome_of_fst hentry),
        outcome_bind_of_ok (outcome_of_fst hrest), hcons]
      rfl

/-- The entries of the file that a bundle is rendered as; nothing if rendering or reading is
refused. -/
def readBack (b : Bundle) (className : Text) (header : Header) (c : Context) :
    Option (List Property) :=
  (outcome (render b className header) c).1.toOption >>= read

/-- A bundle is rendered, and its file is read as its names and texts. -/
theorem readBack_eq (b : Bundle) (className : Text) (header : Header) (c : Context)
    (hnames : ∀ r ∈ b.resources, IsIdentifier r.name)
    (htexts : ∀ r ∈ b.resources, ∃ text, r.text = some text ∧ ∀ first ∈ text.head?, ¬ isBare first)
    (hclass : className.IsLine) (hsource : header.source.text.IsLine)
    (htime : header.timestamp.IsLine) (hlocale : ∀ l ∈ b.locale, l.text.IsLine) :
    readBack b className header c =
      some ((namesAndTexts b.resources).map fun entry => ⟨entry.name, merged entry.value⟩) := by
  have hpresent : ∀ r ∈ b.resources, r.text ≠ none := by
    intro r hr
    obtain ⟨text, htext, -⟩ := htexts r hr
    simp [htext]
  have hentries := outcome_mapM_entryOf header.source hpresent c
  have hidentifiers : ∀ entry ∈ namesAndTexts b.resources, IsIdentifier entry.name :=
    List.forall_mem_map.mpr hnames
  have hread := read_baseText hclass hlocale hsource htime hidentifiers
  rw [readBack, render, outcome_bind_of_ok (outcome_of_fst hentries)]
  refine hread.trans (congrArg some (List.map_congr_left ?_))
  refine List.forall_mem_map.mpr fun r hr => ?_
  obtain ⟨text, htext, hfirst⟩ := htexts r hr
  have hdrop : text.dropWhile isBare = text := by
    cases text with
    | nil => rfl
    | cons first rest => exact List.dropWhile_cons_of_neg (hfirst first rfl)
  simp only [htext, Option.getD_some, hdrop]

end Rendered

section Instances

/-- The header of a file that is generated from `s/N.xml`. -/
def nearHeader : Header :=
  ⟨.ofText "s/N.xml", false, "2020-01-02T03:04:05+00:00"⟩

/-- A bundle of one message with a locale and a text. -/
def oneMessage (locale : Option Locale) (text : Text) : Bundle :=
  ⟨locale, [⟨"a", .message, some text, [], none, none⟩],
    ⟨none, none, none, none, none, none, []⟩⟩

/-- A locale whose variant breaks the line. -/
def brokenLocale : Locale :=
  ⟨"de", "AT", "x\ny=z", by decide, by decide, by decide⟩

/-- The breaks and separators in a text are read back, apart from a carriage return behind a line
feed. -/
theorem readBack_oneMessage :
    readBack (oneMessage none "x\\ = #\r\n\n\r\ty: \\u0041") "N" nearHeader (.start .standard) =
      some [⟨"a", "x\\ = #\r\n\n\ty: \\u0041"⟩] := by
  have hbundle := readBack_eq (oneMessage none "x\\ = #\r\n\n\r\ty: \\u0041") "N" nearHeader
    (.start .standard) (List.forall_mem_singleton.mpr (by decide))
    (List.forall_mem_singleton.mpr ⟨_, rfl, by simp [isBare]⟩) (by decide) (by decide +kernel)
    (by decide) (by simp [oneMessage])
  rw [hbundle]
  decide +kernel

/-- A bundle need not be read back as it is: a line feed and the carriage return behind it are read
as one break, a locale that breaks the line of its comment adds an entry, and a blank at the
beginning of a text is lost. -/
theorem readBack_ne_namesAndTexts :
    readBack (oneMessage none "x\n\ry") "N" nearHeader (.start .standard) =
        some [⟨"a", "x\ny"⟩] ∧
      namesAndTexts (oneMessage none "x\n\ry").resources = [⟨"a", "x\n\ry"⟩] ∧
      readBack (oneMessage (some brokenLocale) "x") "N" nearHeader (.start .standard) =
        some [⟨"y", "z'."⟩, ⟨"a", "x"⟩] ∧
      namesAndTexts (oneMessage (some brokenLocale) "x").resources = [⟨"a", "x"⟩] ∧
      readBack (oneMessage none " x") "N" nearHeader (.start .standard) = some [⟨"a", "x"⟩] ∧
      namesAndTexts (oneMessage none " x").resources = [⟨"a", " x"⟩] := by
  decide +kernel

end Instances

end Properties
end MessageCatalog
