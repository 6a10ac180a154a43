import MessageCatalog.Proofs.Bundle.Document
import MessageCatalog.Proofs.FileTree.Lookup
import MessageCatalog.Proofs.Generated.Description
import MessageCatalog.Settings.Reading
import Mathlib.Data.List.Induction

/-!
# What is read of a settings file

The settings are read of the mapping in a file key by key, and what is read for a key depends on the
value under it alone. An include is read part by part in the same manner. The shapes are read entry
by entry; entries may have keys with the same text, and then the last of them counts.

**Results.**
* `Document.Writes`: how a text or a number is written, which is all that a text is read of.
* `Settings.Reading.include?_eq_ok`: what an include has for each part of a mapping.
* `Settings.Reading.lookup_of_foldlM`: the entry that gives a class its shapes.
* `Settings.Reading.Given`, `Settings.Reading.given_of_ofEntries`: what is read for each key.
* `Settings.HoldsMapping.load_eq`: the settings of a file are those of the entries in it.
-/

namespace MessageCatalog

open Yaml (Value Document)

namespace Yaml

/-- A value that says something: it is neither nothing nor the empty text. -/
def Value.IsGiven (v : Value) : Prop :=
  v ≠ .null ∧ v ≠ .text []

/-- A text or a number. -/
def Value.isTextual : Value → Bool
  | .text _ => true
  | .integer _ => true
  | .float _ => true
  | _ => false

/-- The value is a text or a number and is written as `t`. -/
def Document.Writes (d : Document) (v : Value) (t : Text) : Prop :=
  v.isTextual ∧ d.plainText v = .ok t

end Yaml

theorem Text.ofInt_ne_nil (i : Int) : Text.ofInt i ≠ [] := by
  cases i with
  | ofNat n => exact Nat.toDigits_ne_nil
  | negSucc n => exact List.cons_ne_nil _ _

namespace Binary64

theorem plainText_ne_nil (digits : Text) (place : Int) : plainText digits place ≠ [] := by
  unfold plainText
  split_ifs <;> simp

theorem scientificText_ne_nil (digits : Text) (place : Int) : scientificText digits place ≠ [] := by
  simp [scientificText]

theorem decimalText_ne_nil (d : Decimal) : decimalText d ≠ [] := by
  simp only [decimalText]
  split_ifs
  · exact plainText_ne_nil _ _
  · exact scientificText_ne_nil _ _

theorem text_ne_nil (x : Binary64) : x.text ≠ [] := by
  cases x with
  | notANumber => exact List.cons_ne_nil _ _
  | infinite negative => cases negative <;> exact List.cons_ne_nil _ _
  | finite negative m e =>
      simp only [text]
      split_ifs
      · exact List.cons_ne_nil _ _
      · exact List.cons_ne_nil _ _
      · exact List.cons_ne_nil _ _
      · exact decimalText_ne_nil _

end Binary64

/-- The keys of an include. -/
inductive Include.Key where
  | name
  | className
  | baseClass
  | nativeClass
  | nativeBaseClass
deriving DecidableEq, Repr

namespace Include

/-- How a key is written. -/
def Key.spelling : Key → Text
  | .name => "name"
  | .className => "class_name"
  | .baseClass => "base_class_name"
  | .nativeClass => "cpp_class_name"
  | .nativeBaseClass => "cpp_base_class_name"

/-- What an include has for a key. -/
def part (i : Include) : Key → Option Text
  | .name => some i.name
  | .className => i.className
  | .baseClass => some i.baseClass
  | .nativeClass => i.nativeClass
  | .nativeBaseClass => some i.nativeBaseClass

end Include

namespace Settings

/-- The keys whose value is a text. -/
inductive TextKey where
  | mode
  | style
  | commentStyle
deriving DecidableEq, Repr

/-- The keys of a settings file. -/
inductive Key where
  | text (key : TextKey)
  | path (key : PathKey)
  | locales
  | force
  | includes
  | shapes
deriving DecidableEq, Repr

/-- How a key is written. -/
def TextKey.spelling : TextKey → Text
  | .mode => "mode"
  | .style => "style"
  | .commentStyle => "comment_style"

/-- How a key is written. -/
def PathKey.spelling : PathKey → Text
  | .source => "srcdir"
  | .destination => "destdir"
  | .resources => "resdir"

/-- How a key is written. -/
def Key.spelling : Key → Text
  | .text key => key.spelling
  | .path key => key.spelling
  | .locales => "locales"
  | .force => "force"
  | .includes => "includes"
  | .shapes => "exception_shapes"

/-- The text that settings have for a key. -/
def textOf (s : Settings) : TextKey → Text
  | .mode => s.mode
  | .style => s.style
  | .commentStyle => s.commentStyle

namespace Reading

variable {homes : Homes} {directory : Path} {d : Document} {v : Value} {s : Settings}

section Texts

theorem bind_eq_ok {α β : Type} {x : Reading α} {f : α → Reading β} {b : β} :
    x >>= f = .ok b ↔ ∃ a, x = .ok a ∧ f a = .ok b := by
  cases x with
  | error e => simp [bind, Except.bind]
  | ok a => simp [bind, Except.bind]

theorem ofScalar_eq_ok {α : Type} {x : Except Yaml.Failure α} {a : α} :
    ofScalar x = .ok a ↔ x = .ok a := by
  cases x with
  | error e => simp [ofScalar, Except.mapError]
  | ok a => simp [ofScalar, Except.mapError]

/-- Exactly texts and numbers have a text. -/
theorem text?_eq_ok_iff {o : Option Text} :
    text? d v = .ok o ↔ (∃ t, d.Writes v t ∧ o = some t) ∨ v.isTextual = false ∧ o = none := by
  have hnumber (h : v.isTextual = true) :
      (do return some (← ofScalar (d.plainText v)) : Reading (Option Text)) = .ok o ↔
        (∃ t, d.Writes v t ∧ o = some t) ∨ v.isTextual = false ∧ o = none := by
    simp only [bind_eq_ok, ofScalar_eq_ok, Document.Writes, h, true_and, Bool.true_eq_false,
      false_and, or_false]
    refine exists_congr fun t => and_congr_right fun _ => ?_
    simp [pure, Except.pure, eq_comm]
  cases v with
  | text t => exact hnumber rfl
  | integer i => exact hnumber rfl
  | float x => exact hnumber rfl
  | _ => simp [text?, Document.Writes, Value.isTextual, pure, Except.pure, eq_comm]

theorem text_ne_nil_of_writes {t : Text} (h : d.Writes v t) (hv : v.IsGiven) : t ≠ [] := by
  obtain ⟨htextual, hwritten⟩ := h
  cases v with
  | text u =>
      cases hwritten
      exact fun ht => hv.2 (congrArg Value.text ht)
  | integer i =>
      simp only [Document.plainText, Document.displayed, Document.displayedWithin,
        Yaml.integerText] at hwritten
      split at hwritten
      · cases hwritten
      · cases hwritten
        exact Text.ofInt_ne_nil i
  | float x =>
      simp only [Document.plainText, Document.displayed, Document.displayedWithin] at hwritten
      cases hwritten
      exact x.text_ne_nil
  | _ => cases htextual

/-- What is read of a value: all of it or nothing. -/
theorem present?_of_text? {o : Option Text} (h : text? d v = .ok o) (hv : v.IsGiven) :
    (∃ t, d.Writes v t ∧ Text.present? o = some t ∧ o = some t) ∨
      v.isTextual = false ∧ o = none := by
  obtain ⟨t, ht, rfl⟩ | hnone := text?_eq_ok_iff.mp h
  · exact .inl ⟨t, ht, Bundle.present?_eq_some_iff.mpr ⟨rfl, text_ne_nil_of_writes ht hv⟩, rfl⟩
  · exact .inr hnone

theorem path?_eq_ok {o : Option Path} (h : path? homes directory d v = .ok o) (hv : v.IsGiven) :
    (∃ t p, d.Writes v t ∧ (Path.ofText t).expanded homes = some p ∧ o = some (directory / p)) ∨
      v.isTextual = false ∧ o = none := by
  obtain ⟨read, hread, hpath⟩ := bind_eq_ok.mp h
  obtain ⟨t, ht, hpresent, -⟩ | ⟨hv, rfl⟩ := present?_of_text? hread hv
  · rw [hpresent] at hpath
    dsimp only at hpath
    cases hexpanded : (Path.ofText t).expanded homes with
    | none =>
        rw [hexpanded] at hpath
        cases hpath
    | some p =>
        rw [hexpanded] at hpath
        cases hpath
        exact .inl ⟨t, p, ht, hexpanded, rfl⟩
  · cases hpath
    exact .inr ⟨hv, rfl⟩

theorem forall₂_of_mapM {α : Type} {f : Value → Except Yaml.Failure α} {items : List Value}
    {as : List α} (h : (items.mapM fun i => ofScalar (f i)) = .ok as) :
    List.Forall₂ (fun i a => f i = .ok a) items as :=
  (mapM_eq_ok h).imp fun _ _ => ofScalar_eq_ok.mp

theorem locales?_eq_ok {o : Option Text} (h : locales? d v = .ok o) :
    (∃ items ts, d.items? v = some items ∧
        List.Forall₂ (fun i t => d.plainText i = .ok t) items ts ∧ o = some (Text.join "," ts)) ∨
      d.items? v = none ∧ text? d v = .ok o := by
  unfold locales? at h
  cases hitems : d.items? v with
  | none =>
      rw [hitems] at h
      exact .inr ⟨rfl, h⟩
  | some items =>
      rw [hitems] at h
      obtain ⟨ts, hts, hjoined⟩ := bind_eq_ok.mp h
      cases hjoined
      exact .inl ⟨items, ts, rfl, forall₂_of_mapM hts, rfl⟩

end Texts

section Includes

/-- What is read of the parts of an include: texts and numbers that are not empty, or defaults. -/
def GivesParts (d : Document) (parts : List (Value × Value)) (i : Include) : Prop :=
  ∀ key : Include.Key, ∃ o, text? d (Yaml.field parts key.spelling) = .ok o ∧
    (∀ t, Text.present? o = some t → i.part key = some t) ∧
    (o = none → i.part key = (Include.ofName i.name).part key)

/-- An include is read of a name, or of the parts in a mapping, one of which is a name. -/
theorem include?_eq_ok {i : Include} (h : include? d v = .ok i) :
    v = .text i.name ∨
      ∃ parts, d.entries? v = some parts ∧ GivesParts d parts i ∧ i.name ≠ [] ∧
        d.Writes (Yaml.field parts "name") i.name := by
  unfold include? at h
  split at h
  · cases h
    exact .inl rfl
  · cases hparts : d.entries? v with
    | none =>
        rw [hparts] at h
        obtain ⟨shown, -, hthrow⟩ := bind_eq_ok.mp h
        cases hthrow
    | some parts =>
        rw [hparts] at h
        obtain ⟨name, hname, h⟩ := bind_eq_ok.mp h
        cases hpresent : Text.present? name with
        | none =>
            rw [hpresent] at h
            obtain ⟨shown, -, hthrow⟩ := bind_eq_ok.mp h
            cases hthrow
        | some t =>
            rw [hpresent] at h
            obtain ⟨className, hclass, h⟩ := bind_eq_ok.mp h
            obtain ⟨nativeClass, hnative, h⟩ := bind_eq_ok.mp h
            obtain ⟨baseClass, hbase, h⟩ := bind_eq_ok.mp h
            obtain ⟨nativeBaseClass, hnativeBase, h⟩ := bind_eq_ok.mp h
            cases h
            refine .inr ⟨parts, rfl, fun key => ?_, ?_⟩
            · cases key with
              | name => exact ⟨name, hname, fun u hu => hpresent.symm.trans hu, fun _ => rfl⟩
              | className =>
                  exact ⟨className, hclass, fun u hu => (Bundle.present?_eq_some_iff_eq.mp hu).1,
                    fun hu => hu⟩
              | nativeClass =>
                  exact ⟨nativeClass, hnative, fun u hu => (Bundle.present?_eq_some_iff_eq.mp hu).1,
                    fun hu => hu⟩
              | baseClass =>
                  exact ⟨baseClass, hbase, fun u hu => by rw [Include.part, hu]; rfl,
                    fun hu => by rw [Include.part, hu]; rfl⟩
              | nativeBaseClass =>
                  exact ⟨nativeBaseClass, hnativeBase, fun u hu => by rw [Include.part, hu]; rfl,
                    fun hu => by rw [Include.part, hu]; rfl⟩
            · obtain ⟨rfl, hne⟩ := Bundle.present?_eq_some_iff.mp hpresent
              obtain ⟨u, hu, rfl⟩ | ⟨-, rfl⟩ := text?_eq_ok_iff.mp hname
              · exact ⟨hne, hu⟩
              · exact absurd rfl hne

end Includes

section Shapes

theorem tokens_of_items {items : List Value} (h : d.items? v = some items) :
    tokens d v = (items.filter isToken).mapM fun i => ofScalar (d.plainText i) := by
  cases v with
  | sequence id => simp [tokens, h]
  | _ => cases h

theorem lookup_put (key name : Text) (value : List Text) (shapes : List (Text × List Text)) :
    (put key value shapes).lookup name = if name = key then some value else shapes.lookup name := by
  induction shapes with
  | nil =>
      by_cases h : name = key
      · simp [put, h]
      · simp [put, List.lookup_cons, h, beq_false_of_ne h]
  | cons first rest ih =>
      obtain ⟨other, old⟩ := first
      unfold put
      by_cases hk : other = key
      · subst hk
        by_cases h : name = other
        · simp [h]
        · simp [List.lookup_cons, h, beq_false_of_ne h]
      · rw [if_neg hk, List.lookup_cons, List.lookup_cons]
        by_cases h : name = other
        · subst h
          simp [hk]
        · simp [beq_false_of_ne h, ih]

theorem addShapes_eq_ok {classes result : List (Text × List Text)} {e : Value × Value}
    (h : addShapes d classes e = .ok result) :
    ∃ name ts, d.plainText e.1 = .ok name ∧ tokens d e.2 = .ok ts ∧
      result = put name ts classes := by
  obtain ⟨name, hname, h⟩ := bind_eq_ok.mp h
  obtain ⟨ts, hts, h⟩ := bind_eq_ok.mp h
  cases h
  exact ⟨name, ts, ofScalar_eq_ok.mp hname, hts, rfl⟩

/-- Every entry gives its class shapes, and of several entries for a class the last one counts. -/
theorem lookup_of_foldlM {entries : List (Value × Value)} {result : List (Text × List Text)}
    (h : entries.foldlM (addShapes d) [] = .ok result) {e : Value × Value} (he : e ∈ entries) :
    ∃ e' ∈ entries, ∃ name ts, d.plainText e.1 = .ok name ∧ d.plainText e'.1 = .ok name ∧
      tokens d e'.2 = .ok ts ∧ result.lookup name = some ts := by
  -- From the last entry backwards: only later entries can take the place of what one has put.
  induction entries using List.reverseRecOn generalizing result with
  | nil => cases he
  | append_singleton entries last ih =>
      rw [List.foldlM_append] at h
      obtain ⟨before, hbefore, hlast⟩ := bind_eq_ok.mp h
      rw [List.foldlM_cons] at hlast
      obtain ⟨_, hadded, hrest⟩ := bind_eq_ok.mp hlast
      cases hrest
      obtain ⟨lastName, lastShapes, hname, hts, rfl⟩ := addShapes_eq_ok hadded
      have hlastCounts : (put lastName lastShapes before).lookup lastName = some lastShapes := by
        rw [lookup_put, if_pos rfl]
      rcases List.mem_append.mp he with he | he
      · obtain ⟨e', he', name, ts, hn, hn', hts', hlookup⟩ := ih hbefore he
        by_cases hsame : name = lastName
        · subst hsame
          exact ⟨last, by simp, name, lastShapes, hn, hname, hts, hlastCounts⟩
        · refine ⟨e', List.mem_append_left _ he', name, ts, hn, hn', hts', ?_⟩
          rw [lookup_put, if_neg hsame, hlookup]
      · rw [List.mem_singleton.mp he]
        exact ⟨last, by simp, lastName, lastShapes, hname, hname, hts, hlastCounts⟩

/-- The shapes of a mapping, entry by entry. -/
theorem shapes_eq_ok {result : List (Text × List Text)} (h : shapes d v = .ok result)
    (hv : v.IsGiven) :
    ∃ entries, d.entries? v = some entries ∧ entries.foldlM (addShapes d) [] = .ok result := by
  rw [shapes, if_neg hv.1] at h
  cases hentries : d.entries? v with
  | none =>
      rw [hentries] at h
      cases h
  | some entries =>
      rw [hentries] at h
      exact ⟨entries, rfl, h⟩

end Shapes

/-- What is read for a key. -/
def Given (homes : Homes) (directory : Path) (d : Document) (v : Value) (s : Settings) : Key → Prop
  | .text key => ∃ o, text? d v = .ok o ∧
      s.textOf key = (Text.present? o).getD (initial.textOf key)
  | .path key => path? homes directory d v = .ok (s.pathOf key)
  | .locales => locales? d v = .ok s.locales
  | .force => flag v = s.force
  | .includes => (itemsOf d v).mapM (include? d) = .ok s.includes
  | .shapes => shapes d v = .ok s.shapes

/-- Settings are read key by key. -/
theorem given_of_ofEntries {entries : List (Value × Value)}
    (h : ofEntries homes directory d entries = .ok s) (key : Key) :
    Given homes directory d (Yaml.field entries key.spelling) s key := by
  obtain ⟨source, hsource, h⟩ := bind_eq_ok.mp h
  obtain ⟨destination, hdestination, h⟩ := bind_eq_ok.mp h
  obtain ⟨resources, hresources, h⟩ := bind_eq_ok.mp h
  obtain ⟨locales, hlocales, h⟩ := bind_eq_ok.mp h
  obtain ⟨includes, hincludes, h⟩ := bind_eq_ok.mp h
  obtain ⟨shapes, hshapes, h⟩ := bind_eq_ok.mp h
  obtain ⟨mode, hmode, h⟩ := bind_eq_ok.mp h
  obtain ⟨style, hstyle, h⟩ := bind_eq_ok.mp h
  obtain ⟨commentStyle, hcommentStyle, h⟩ := bind_eq_ok.mp h
  obtain ⟨readMode, hreadMode, hmode⟩ := bind_eq_ok.mp hmode
  obtain ⟨readStyle, hreadStyle, hstyle⟩ := bind_eq_ok.mp hstyle
  obtain ⟨readCommentStyle, hreadCommentStyle, hcommentStyle⟩ := bind_eq_ok.mp hcommentStyle
  cases hmode
  cases hstyle
  cases hcommentStyle
  cases h
  cases key with
  | text key =>
      cases key with
      | mode => exact ⟨readMode, hreadMode, rfl⟩
      | style => exact ⟨readStyle, hreadStyle, rfl⟩
      | commentStyle => exact ⟨readCommentStyle, hreadCommentStyle, rfl⟩
  | path key =>
      cases key with
      | source => exact hsource
      | destination => exact hdestination
      | resources => exact hresources
  | locales => exact hlocales
  | force => rfl
  | includes => exact hincludes
  | shapes => exact hshapes

end Reading

/-- A path leads to a settings file that holds a mapping. -/
structure HoldsMapping (homes : Homes) (tree : FileTree) (p file : Path) (d : Document)
    (entries : List (Value × Value)) : Prop where
  located : locate homes tree p = .ok file
  read : ∃ contents t, tree.read file = .ok contents ∧ contents.utf8? = some t ∧
    Reading.document file.fileName (Reading.withLineFeeds t) = .ok d
  mapping : d.entries? d.root = some entries

/-- Settings are read of the entries of the mapping. -/
theorem HoldsMapping.load_eq {homes : Homes} {tree : FileTree} {p file : Path} {d : Document}
    {entries : List (Value × Value)} (h : HoldsMapping homes tree p file d entries) :
    load homes tree p = Reading.ofEntries homes file.parent d entries := by
  obtain ⟨contents, t, hread, htext, hdocument⟩ := h.read
  obtain ⟨time, writable, hlookup⟩ := FileTree.read_eq_ok.mp hread
  have hroot : d.root ≠ .null := by
    intro hnull
    have hmapping := h.mapping
    rw [hnull] at hmapping
    cases hmapping
  simp only [load, h.located, FileTree.has_of_lookup hlookup, hread, Reading.ofContents, htext,
    hdocument, hroot, h.mapping, Except.mapError, bind, Except.bind, if_true, if_false]

end Settings
end MessageCatalog
