import MessageCatalog.Proofs.Settings.Reading

/-!
# What settings keep of a file

A setting can hold values of some kinds only. A value of such a kind is kept as a whole. Includes
without a form and shapes that are no mapping are refused, but any other value that a setting cannot
hold is passed over, as is a part of an include or an item of a list of shapes.

**Results.**
* `Settings.Fits`, `Settings.Encodes`: the values that a key can hold, and settings that hold them.
* `Settings.FallsBack`: what the settings have instead of a value that they cannot hold.
* `Settings.Reading.keeps_of_given`: a value is kept exactly if its key can hold it; there is a lemma
  for each family of keys.
* `Settings.load_encodes_iff`: the same for the settings of a file.
-/

namespace MessageCatalog

open Yaml (Value Document)

namespace Settings

/-- The names of false. -/
def falseWords : List Text := ["false", "no", "0"]

/-- The parts of an include have a property, and there are no parts besides them. -/
def EachPart (parts : List (Value × Value)) (P : Include.Key → Value → Prop) : Prop :=
  (∀ key : Include.Key, (Yaml.field parts key.spelling).IsGiven →
      P key (Yaml.field parts key.spelling)) ∧
    ∀ e ∈ parts, e.2.IsGiven → ∃ key : Include.Key, e.1 = .text key.spelling

/-- The value is an include: a name or a mapping with one. -/
def IsInclude (d : Document) (v : Value) : Prop :=
  (∃ name, v = .text name) ∨
    ∃ parts name, d.entries? v = some parts ∧ d.Writes (Yaml.field parts "name") name ∧ name ≠ []

/-- The value is an include all of whose parts can be held. -/
def FitsInclude (d : Document) (v : Value) : Prop :=
  (∃ name, v = .text name) ∨
    ∃ parts, d.entries? v = some parts ∧ EachPart parts fun _ w => w.isTextual

/-- The include has all that the value says. -/
def EncodesInclude (d : Document) (v : Value) (i : Include) : Prop :=
  v = .text i.name ∨
    ∃ parts, d.entries? v = some parts ∧
      EachPart parts fun key w => ∃ t, d.Writes w t ∧ i.part key = some t

/-- The include has the default for every part that it cannot hold. -/
def HasDefaults (d : Document) (v : Value) (i : Include) : Prop :=
  ∀ parts, d.entries? v = some parts → ∀ key : Include.Key,
    (Yaml.field parts key.spelling).isTextual = false →
      i.part key = (Include.ofName i.name).part key

/-- The shapes of a class that a value lists: none, one, a number for each byte, or one for each
item of a sequence. -/
inductive Lists (d : Document) : Value → List Text → Prop where
  | nothing : Lists d .null []
  | one (t : Text) : Lists d (.text t) [t]
  | numbers (b : Bytes) : Lists d (.bytes b) (b.map fun x => Text.ofNat x.toNat)
  | items {v : Value} {items : List Value} {ts : List Text} (hitems : d.items? v = some items)
      (htokens : ∀ i ∈ items, Reading.isToken i)
      (hts : List.Forall₂ (fun i t => d.plainText i = .ok t) items ts) : Lists d v ts

/-- The shapes that a value lists, and those items of any sequence that have a text. -/
def ListsPart (d : Document) (v : Value) (ts : List Text) : Prop :=
  Lists d v ts ∨
    List.Forall₂ (fun i t => d.plainText i = .ok t)
      (((d.items? v).getD []).filter Reading.isToken) ts

/-- A value that a key must have if the settings are to be read at all. -/
def Admits (d : Document) (v : Value) : Key → Prop
  | .includes => ∀ item ∈ (d.items? v).getD [v], IsInclude d item
  | .shapes => ∃ entries, d.entries? v = some entries
  | _ => True

/-- A value that a key can hold. Classes with the same name must have the same shapes. -/
def Fits (d : Document) (v : Value) : Key → Prop
  | .text _ => v.isTextual
  | .path _ => v.isTextual
  | .locales => v.isTextual ∨ ∃ items, d.items? v = some items
  | .force => (∃ b, v = .boolean b) ∨
      ∃ t, v = .text t ∧ (word t ∈ Reading.trueWords ∨ word t ∈ falseWords)
  | .includes => ∀ item ∈ (d.items? v).getD [v], FitsInclude d item
  | .shapes => ∃ entries, d.entries? v = some entries ∧
      ∀ e ∈ entries, ∀ e' ∈ entries, d.plainText e.1 = d.plainText e'.1 →
        ∃ ts, Lists d e.2 ts ∧ Lists d e'.2 ts

/-- The settings have all that the value of a key says, for a file in the given directory. -/
def Encodes (homes : Homes) (directory : Path) (d : Document) (v : Value) (s : Settings) :
    Key → Prop
  | .text key => d.Writes v (s.textOf key)
  | .path key => ∃ t p, d.Writes v t ∧ (Path.ofText t).expanded homes = some p ∧
      s.pathOf key = some (directory / p)
  | .locales => (∃ t, d.Writes v t ∧ s.locales = some t) ∨
      ∃ items ts, d.items? v = some items ∧
        List.Forall₂ (fun i t => d.plainText i = .ok t) items ts ∧
        s.locales = some (Text.join "," ts)
  | .force => v = .boolean s.force ∨
      ∃ t, v = .text t ∧ word t ∈ if s.force then Reading.trueWords else falseWords
  | .includes => List.Forall₂ (EncodesInclude d) ((d.items? v).getD [v]) s.includes
  | .shapes => ∃ entries, d.entries? v = some entries ∧
      ∀ e ∈ entries, ∃ name ts, d.plainText e.1 = .ok name ∧ Lists d e.2 ts ∧
        s.shapes.lookup name = some ts

/-- What the settings have for a key if they cannot hold all of its value: the default, for includes
the default for every part that they cannot hold, and for shapes the items that have a text, of the
last entry for a class. -/
def FallsBack (d : Document) (v : Value) (s : Settings) : Key → Prop
  | .text key => s.textOf key = initial.textOf key
  | .path key => s.pathOf key = none
  | .locales => s.locales = none
  | .force => s.force = false
  | .includes => List.Forall₂ (HasDefaults d) ((d.items? v).getD [v]) s.includes
  | .shapes => ∀ entries, d.entries? v = some entries → ∀ e ∈ entries, ∃ e' ∈ entries, ∃ name ts,
      d.plainText e.1 = .ok name ∧ d.plainText e'.1 = .ok name ∧ ListsPart d e'.2 ts ∧
        s.shapes.lookup name = some ts

namespace Reading

variable {homes : Homes} {directory : Path} {d : Document} {v : Value} {s : Settings}

section Includes

/-- An include that is read has all that a value says exactly if all of that can be held. -/
theorem encodesInclude_iff {i : Include} (h : include? d v = .ok i) :
    EncodesInclude d v i ↔ FitsInclude d v := by
  obtain hname | ⟨parts, hparts, hgives, -⟩ := include?_eq_ok h
  · exact iff_of_true (.inl hname) (.inl ⟨i.name, hname⟩)
  · have hmapping (name : Text) : v ≠ .text name := by
      rintro rfl
      cases hparts
    simp only [EncodesInclude, FitsInclude, hmapping, exists_false, false_or, hparts,
      Option.some.injEq, exists_eq_left', EachPart]
    refine and_congr_left fun _ => forall_congr' fun key => forall_congr' fun hgiven => ?_
    constructor
    · rintro ⟨t, ht, -⟩
      exact ht.1
    · intro htextual
      obtain ⟨o, ho, hpart, -⟩ := hgives key
      obtain ⟨t, ht, hpresent, -⟩ | ⟨hnot, -⟩ := present?_of_text? ho hgiven
      · exact ⟨t, ht, hpart t hpresent⟩
      · exact absurd htextual (Bool.eq_false_iff.mp hnot)

theorem hasDefaults_of_include? {i : Include} (h : include? d v = .ok i) : HasDefaults d v i := by
  intro parts hparts key hnot
  obtain hname | ⟨parts', hparts', hgives, -⟩ := include?_eq_ok h
  · rw [hname] at hparts
    cases hparts
  · obtain rfl := Option.some.inj (hparts'.symm.trans hparts)
    obtain ⟨o, ho, -, hdefault⟩ := hgives key
    obtain ⟨t, ht, -⟩ | ⟨-, hnone⟩ := text?_eq_ok_iff.mp ho
    · exact absurd ht.1 (Bool.eq_false_iff.mp hnot)
    · exact hdefault hnone

theorem isInclude_of_include? {i : Include} (h : include? d v = .ok i) : IsInclude d v := by
  obtain hname | ⟨parts, hparts, -, hne, hwrites⟩ := include?_eq_ok h
  · exact .inl ⟨i.name, hname⟩
  · exact .inr ⟨parts, i.name, hparts, hwrites, hne⟩

end Includes

section Shapes

theorem listsPart_of_tokens {ts : List Text} (h : tokens d v = .ok ts) : ListsPart d v ts := by
  cases v with
  | text t =>
      cases h
      exact .inl (.one t)
  | bytes b =>
      cases h
      exact .inl (.numbers b)
  | _ => exact .inr (forall₂_of_mapM h)

/-- What is read of a value that lists shapes is what it lists. -/
theorem eq_of_lists {ts ts' : List Text} (h : tokens d v = .ok ts) (hlists : Lists d v ts') :
    ts = ts' := by
  cases hlists with
  | nothing =>
      cases h
      rfl
  | one t =>
      cases h
      rfl
  | numbers b =>
      cases h
      rfl
  | items hitems htokens hts' =>
      rw [tokens_of_items hitems, List.filter_eq_self.mpr htokens] at h
      have hright : Relator.RightUnique fun (i : Value) t => d.plainText i = .ok t :=
        fun _ _ _ ht ht' => Except.ok.inj (ht.symm.trans ht')
      exact hright.forall₂ (forall₂_of_mapM h) hts'

end Shapes

/-- The settings have all of a value if the key can hold it, and fall back if it cannot. -/
def KeepsOrFallsBack (homes : Homes) (directory : Path) (d : Document) (v : Value) (s : Settings)
    (key : Key) : Prop :=
  (Encodes homes directory d v s key ↔ Fits d v key) ∧ (¬ Fits d v key → FallsBack d v s key)

theorem KeepsOrFallsBack.of_fits {key : Key} (hfits : Fits d v key)
    (hkept : Encodes homes directory d v s key) : KeepsOrFallsBack homes directory d v s key :=
  ⟨iff_of_true hkept hfits, fun hnot => absurd hfits hnot⟩

theorem KeepsOrFallsBack.of_fallsBack {key : Key}
    (hiff : Encodes homes directory d v s key ↔ Fits d v key) (hback : FallsBack d v s key) :
    KeepsOrFallsBack homes directory d v s key :=
  ⟨hiff, fun _ => hback⟩

/-- A text or a number is kept, and no other value. -/
theorem keeps_text {key : TextKey} (hv : v.IsGiven)
    (h : Given homes directory d v s (.text key)) :
    KeepsOrFallsBack homes directory d v s (.text key) := by
  obtain ⟨o, ho, htext⟩ := h
  obtain ⟨t, ht, hpresent, -⟩ | ⟨hnot, rfl⟩ := present?_of_text? ho hv
  · rw [hpresent] at htext
    refine .of_fits ht.1 ?_
    rw [Encodes, htext]
    exact ht
  · have hfits : ¬ Fits d v (.text key) := Bool.eq_false_iff.mp hnot
    exact .of_fallsBack (iff_of_false (fun hkept => hfits hkept.1) hfits) htext

theorem keeps_path {key : PathKey} (hv : v.IsGiven)
    (h : Given homes directory d v s (.path key)) :
    KeepsOrFallsBack homes directory d v s (.path key) := by
  obtain ⟨t, p, ht, hkept⟩ | ⟨hnot, hdefault⟩ := path?_eq_ok h hv
  · exact .of_fits ht.1 ⟨t, p, ht, hkept⟩
  · have hfits : ¬ Fits d v (.path key) := Bool.eq_false_iff.mp hnot
    refine .of_fallsBack (iff_of_false ?_ hfits) hdefault
    rintro ⟨t, p, ht, -⟩
    exact hfits ht.1

/-- A sequence is kept as well, with the text of each of its items. -/
theorem keeps_locales (hv : v.IsGiven) (h : Given homes directory d v s .locales) :
    KeepsOrFallsBack homes directory d v s .locales := by
  obtain ⟨items, ts, hitems, hts, hkept⟩ | ⟨hitems, htext⟩ := locales?_eq_ok h
  · exact .of_fits (.inr ⟨items, hitems⟩) (.inr ⟨items, ts, hitems, hts, hkept⟩)
  · obtain ⟨t, ht, -, hkept⟩ | ⟨hnot, hdefault⟩ := present?_of_text? htext hv
    · exact .of_fits (.inl ht.1) (.inl ⟨t, ht, hkept⟩)
    · have hfits : ¬ Fits d v .locales := by
        rintro (htextual | ⟨items, hsome⟩)
        · exact Bool.eq_false_iff.mp hnot htextual
        · exact Option.some_ne_none items (hsome.symm.trans hitems)
      refine .of_fallsBack (iff_of_false ?_ hfits) hdefault
      rintro (⟨t, ht, -⟩ | ⟨items, -, hsome, -⟩)
      · exact hfits (.inl ht.1)
      · exact hfits (.inr ⟨items, hsome⟩)

/-- A truth value or one of its names is kept. -/
theorem keeps_force (h : Given homes directory d v s .force) :
    KeepsOrFallsBack homes directory d v s .force := by
  cases v with
  | boolean b => exact .of_fits (.inl ⟨b, rfl⟩) (.inl (congrArg Value.boolean h))
  | text t =>
      have hflag : trueWords.contains (word t) = s.force := h
      by_cases hword : word t ∈ trueWords
      · have hforce : s.force = true := hflag.symm.trans (List.contains_iff_mem.mpr hword)
        refine .of_fits (.inr ⟨t, rfl, .inl hword⟩) (.inr ⟨t, rfl, ?_⟩)
        rw [hforce, if_pos rfl]
        exact hword
      · have hforce : s.force = false :=
          hflag.symm.trans (Bool.eq_false_iff.mpr (mt List.contains_iff_mem.mp hword))
        refine .of_fallsBack ?_ hforce
        simp [Encodes, Fits, hforce, hword]
  | _ =>
      refine .of_fallsBack ?_ h.symm
      simp [Encodes, Fits]

theorem forall₂_iff_forall {α β : Type} {R P : α → β → Prop} {Q : α → Prop} {as : List α}
    {bs : List β} (h : List.Forall₂ R as bs) (hPQ : ∀ {a b}, R a b → (P a b ↔ Q a)) :
    List.Forall₂ P as bs ↔ ∀ a ∈ as, Q a := by
  induction h with
  | nil => simp
  | cons hfirst _ ih => rw [List.forall₂_cons, List.forall_mem_cons, hPQ hfirst, ih]

theorem forall₂_include? (hv : v.IsGiven) (h : Given homes directory d v s .includes) :
    List.Forall₂ (fun item i => include? d item = .ok i) ((d.items? v).getD [v]) s.includes := by
  have hread := mapM_eq_ok h
  rw [itemsOf, if_neg hv.1] at hread
  exact hread

theorem keeps_includes (hv : v.IsGiven) (h : Given homes directory d v s .includes) :
    KeepsOrFallsBack homes directory d v s .includes :=
  have hread := forall₂_include? hv h
  .of_fallsBack (forall₂_iff_forall hread encodesInclude_iff)
    (hread.imp fun _ _ => hasDefaults_of_include?)

/-- A mapping is kept if every class has shapes, and no two entries give a class different ones. -/
theorem keeps_shapes (hv : v.IsGiven) (h : Given homes directory d v s .shapes) :
    KeepsOrFallsBack homes directory d v s .shapes := by
  obtain ⟨entries, hentries, hrun⟩ := shapes_eq_ok h hv
  refine .of_fallsBack ?_ ?_
  · simp only [Encodes, Fits, hentries, Option.some.injEq, exists_eq_left']
    constructor
    · intro hkept e he e' he' hsame
      obtain ⟨name, ts, hname, hts, hlookup⟩ := hkept e he
      obtain ⟨name', ts', hname', hts', hlookup'⟩ := hkept e' he'
      obtain rfl : name = name' := Except.ok.inj (hname.symm.trans (hsame.trans hname'))
      obtain rfl : ts = ts' := Option.some.inj (hlookup.symm.trans hlookup')
      exact ⟨ts, hts, hts'⟩
    · intro hfits e he
      obtain ⟨e', he', name, ts, hname, hname', hts, hlookup⟩ := lookup_of_foldlM hrun he
      obtain ⟨ts', hlists, hlists'⟩ := hfits e he e' he' (hname.trans hname'.symm)
      obtain rfl := eq_of_lists hts hlists'
      exact ⟨name, ts, hname, hlists, hlookup⟩
  · intro entries' hentries' e he
    obtain rfl := Option.some.inj (hentries.symm.trans hentries')
    obtain ⟨e', he', name, ts, hname, hname', hts, hlookup⟩ := lookup_of_foldlM hrun he
    exact ⟨e', he', name, ts, hname, hname', listsPart_of_tokens hts, hlookup⟩

theorem keeps_of_given {key : Key} (hv : v.IsGiven) (h : Given homes directory d v s key) :
    KeepsOrFallsBack homes directory d v s key := by
  cases key with
  | text key => exact keeps_text hv h
  | path key => exact keeps_path hv h
  | locales => exact keeps_locales hv h
  | force => exact keeps_force h
  | includes => exact keeps_includes hv h
  | shapes => exact keeps_shapes hv h

/-- Includes without a form, and shapes that are no mapping, are not read at all. -/
theorem admits_of_given {key : Key} (hv : v.IsGiven) (h : Given homes directory d v s key) :
    Admits d v key := by
  cases key with
  | includes =>
      have hread := forall₂_include? hv h
      exact (forall₂_iff_forall hread fun hi => iff_of_true hi (isInclude_of_include? hi)).mp hread
  | shapes =>
      obtain ⟨entries, hentries, -⟩ := shapes_eq_ok h hv
      exact ⟨entries, hentries⟩
  | _ => exact trivial

end Reading

section Files

section
variable {homes : Homes} {tree : FileTree} {p file : Path} {d : Document}
  {entries : List (Value × Value)} {s : Settings}

/-- Settings of a file that holds a mapping keep a value exactly if its key can hold it. Only values
without a form prevent them from being read; any other value that a key cannot hold is passed over,
and the key falls back to what it has without the value. -/
theorem load_encodes_iff (hfile : HoldsMapping homes tree p file d entries)
    (hs : load homes tree p = .ok s) (key : Key)
    (hgiven : (Yaml.field entries key.spelling).IsGiven) :
    Admits d (Yaml.field entries key.spelling) key ∧
      (Encodes homes file.parent d (Yaml.field entries key.spelling) s key ↔
        Fits d (Yaml.field entries key.spelling) key) ∧
      (¬ Fits d (Yaml.field entries key.spelling) key →
        FallsBack d (Yaml.field entries key.spelling) s key) := by
  have hread := Reading.given_of_ofEntries (hfile.load_eq.symm.trans hs) key
  exact ⟨Reading.admits_of_given hgiven hread, Reading.keeps_of_given hgiven hread⟩

end

/-- A settings file whose mode is a sequence. -/
def listedModeText : Text :=
  "srcdir: s\nmode: [native]\nincludes: [N.xml]\n"

/-- The tree that holds it in its root directory. -/
def listedModeTree : FileTree where
  entries := [([fileName], .file listedModeText.utf8 0 true)]
  workingDirectory := []

/-- What the file says. -/
def listedModeEntries : List (Value × Value) :=
  [(.text "srcdir", .text "s"), (.text "mode", .sequence 4), (.text "includes", .sequence 7)]

/-- The document in the file. -/
def listedModeDocument : Document where
  root := .mapping 0
  collections := [(0, .mapping listedModeEntries), (4, .sequence [.text "native"]),
    (7, .sequence [.text "N.xml"])]

/-- The settings that are read of the file. -/
def listedModeSettings : Settings :=
  { initial with
    source := some ⟨.root, ["s".toList]⟩
    includes := [.ofName "N.xml"] }

theorem holdsMapping_listedMode :
    HoldsMapping (fun _ => none) listedModeTree ⟨.here, [fileName]⟩ ⟨.root, [fileName]⟩
      listedModeDocument listedModeEntries where
  located := by decide +kernel
  read := ⟨listedModeText.utf8, listedModeText, by decide +kernel, by decide +kernel,
    by decide +kernel⟩
  mapping := rfl

/-- The mode is passed over and the include is kept. -/
theorem listedMode_passed_over :
    load (fun _ => none) listedModeTree ⟨.here, [fileName]⟩ = .ok listedModeSettings ∧
      ¬ Encodes (fun _ => none) ⟨.root, []⟩ listedModeDocument (.sequence 4) listedModeSettings
        (.text .mode) ∧
      listedModeSettings.mode = initial.mode ∧
      Encodes (fun _ => none) ⟨.root, []⟩ listedModeDocument (.sequence 7) listedModeSettings
        .includes := by
  have hload : load (fun _ => none) listedModeTree ⟨.here, [fileName]⟩ =
      .ok listedModeSettings := by
    decide +kernel
  obtain ⟨-, hmode, hback⟩ := load_encodes_iff holdsMapping_listedMode hload (.text .mode)
    ⟨Value.noConfusion, Value.noConfusion⟩
  obtain ⟨-, hincludes, -⟩ := load_encodes_iff holdsMapping_listedMode hload .includes
    ⟨Value.noConfusion, Value.noConfusion⟩
  have hfits : ¬ Fits listedModeDocument (.sequence 4) (.text .mode) := Bool.false_ne_true
  refine ⟨hload, fun hkept => hfits (hmode.mp hkept), hback hfits, hincludes.mpr ?_⟩
  intro item hitem
  obtain rfl : item = .text "N.xml" := List.mem_singleton.mp hitem
  exact .inl ⟨"N.xml", rfl⟩

end Files

end Settings
end MessageCatalog
