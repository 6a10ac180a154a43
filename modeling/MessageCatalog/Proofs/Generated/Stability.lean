import MessageCatalog.Managed.Source
import MessageCatalog.Native.Source
import MessageCatalog.Proofs.Computation
import MessageCatalog.Proofs.Text.Part
import MessageCatalog.Properties.File

/-!
# Output that is safe for source control

In the stable style a generated file depends on its header by the name of the source alone: neither
the time nor the directories of the source reach the text. The source itself is still carried along
while a file is rendered, but only for the errors, which name it in full.

**Results.**
* `Header.Alike`: headers in the stable style whose sources end in the same name.
* `Header.Alike.sourceText_eq` and its companions: what such headers say of themselves is the same.
* `Managed.classOf_inStep`, `Native.classOf_inStep`, `Properties.entryOf_inStep`: renderings of two
  sources differ in the sources that their errors name, and in nothing else.
* `GeneratedFile.render_alike`: every kind of file is the same under headers that are alike.
-/

namespace MessageCatalog

namespace Header

/-- The source of the file with forward slashes. -/
def slashedSource (h : Header) : Text :=
  h.source.text.replaceChar '\\' '/'

/-- Both headers have the stable style, and their sources have the same ending that begins with a
slash and is not all of either source. -/
structure Alike (h h' : Header) : Prop where
  stable : h.stable = true
  stable' : h'.stable = true
  ending : ∃ before before' name : Text, before ≠ [] ∧ before' ≠ [] ∧
    h.slashedSource = before ++ '/' :: name ∧ h'.slashedSource = before' ++ '/' :: name

/-- Of a source in a directory, the last name is told. -/
theorem sourceText_of_stable {h : Header} {before name : Text} (hstable : h.stable = true)
    (hsource : h.slashedSource = before ++ '/' :: name) (hbefore : before ≠ []) :
    h.sourceText = "...".toList ++ '/' :: ((name.cutLast '/').map (·.2)).getD name := by
  have hcut := Text.cutLast_append_cons '/' before name
  rw [← hsource, slashedSource] at hcut
  rw [sourceText, if_pos hstable, hcut]
  cases name.cutLast '/' with
  | none => exact if_neg hbefore
  | some parts => exact if_neg (List.append_ne_nil_of_right_ne_nil _ (List.cons_ne_nil _ _))

theorem timeLines_of_stable {h : Header} (hstable : h.stable = true) (mark : Text) :
    h.timeLines mark = [] := by
  have htime : h.generatedOn = none := if_pos hstable
  rw [timeLines, htime]

namespace Alike

variable {h h' : Header}

theorem sourceText_eq (hh : Alike h h') : h.sourceText = h'.sourceText := by
  obtain ⟨before, before', name, hbefore, hbefore', hsource, hsource'⟩ := hh.ending
  rw [sourceText_of_stable hh.stable hsource hbefore,
    sourceText_of_stable hh.stable' hsource' hbefore']

theorem bannerLines_eq (hh : Alike h h') : h.bannerLines = h'.bannerLines := by
  rw [bannerLines, bannerLines, banner, banner, if_pos hh.stable, if_pos hh.stable']

theorem introductionLines_eq (hh : Alike h h') : h.introductionLines = h'.introductionLines := by
  rw [introductionLines, introductionLines, hh.sourceText_eq, timeLines_of_stable hh.stable,
    timeLines_of_stable hh.stable']

theorem originLines_eq (hh : Alike h h') : Properties.originLines h = Properties.originLines h' := by
  rw [Properties.originLines, Properties.originLines, hh.sourceText_eq,
    timeLines_of_stable hh.stable, timeLines_of_stable hh.stable']

theorem preambleLines_eq (hh : Alike h h') (className : Text) :
    Managed.preambleLines h className = Managed.preambleLines h' className := by
  rw [Managed.preambleLines, Managed.preambleLines, hh.bannerLines_eq, hh.introductionLines_eq]

theorem includeLines_eq (hh : Alike h h') (includes : List Text) :
    Native.includeLines h includes = Native.includeLines h' includes := by
  rw [Native.includeLines, Native.includeLines, hh.sourceText_eq]

end Alike

end Header

section Errors

/-- The error as it names another source. -/
def GenerationError.inSource (source : Path) (e : GenerationError) : GenerationError :=
  { e with path := some source }

/-- The error as it names another source; a number that is too long names none. -/
def RenderError.inSource (source : Path) : RenderError → RenderError
  | .generation e => .generation (e.inSource source)
  | .numberTooLong => .numberTooLong

/-- The second error is the first one as it names the source. -/
def RenderError.Moved (source : Path) (e e' : RenderError) : Prop :=
  e' = e.inSource source

section Sources

open RenderError

variable {source source' : Path}

theorem Resource.requireText_corresponds (r : Resource) :
    Corresponds (fun e e' => e' = e.inSource source') Eq (r.requireText source)
      (r.requireText source') := by
  unfold requireText
  cases r.text with
  | none => exact .error rfl
  | some text => exact .ok rfl

theorem Resource.describe_corresponds (r : Resource) :
    Corresponds (Moved source') Eq (r.describe source) (r.describe source') := by
  unfold describe requireText
  cases r.text with
  | none => exact .error rfl
  | some text =>
      dsimp only
      cases Template.signature text with
      | ok signature => exact .ok rfl
      | error e => cases e <;> exact .error rfl

namespace Managed

theorem factoriesFor_inStep (b : Bundle) (errorClass : Option Text) (causeAllowed : Bool) :
    InStep (Moved source') Eq (factoriesFor b errorClass causeAllowed)
      (factoriesFor b errorClass causeAllowed) := by
  cases errorClass with
  | none => exact .pure rfl
  | some name =>
      refine InStep.bind (.modifyGet _) ?_
      rintro shape _ rfl
      exact .pure rfl

theorem accessorOf_inStep (b : Bundle) (r : Resource) :
    InStep (Moved source') Eq (accessorOf b source r) (accessorOf b source' r) := by
  refine InStep.bind (.mk r.describe_corresponds) ?_
  rintro described _ rfl
  refine (factoriesFor_inStep b _ _).bind ?_
  rintro factories _ rfl
  exact .pure rfl

theorem definitionOf_inStep (b : Bundle) (described : Description)
    (definitions : List Definition) :
    InStep (Moved source') Eq (definitionOf b described definitions)
      (definitionOf b described definitions) := by
  unfold definitionOf
  dsimp only
  split
  · exact .pure rfl
  · refine (factoriesFor_inStep b _ _).bind ?_
    rintro factories _ rfl
    exact .pure rfl

theorem functorBody_inStep (b : Bundle) (rs : List Resource) (members : List FunctorMember)
    (definitions : List Definition) :
    InStep (Moved source') Eq (functorBody b source rs members definitions)
      (functorBody b source' rs members definitions) := by
  induction rs generalizing members definitions with
  | nil => exact .pure rfl
  | cons r rest ih =>
      refine InStep.bind (.mk r.describe_corresponds) ?_
      rintro described _ rfl
      refine (definitionOf_inStep b described definitions).bind ?_
      rintro ⟨definition, definitions'⟩ _ rfl
      exact ih _ _

theorem bodyOf_inStep (style : AccessorStyle) (b : Bundle) :
    InStep (Moved source') Eq (bodyOf style b source) (bodyOf style b source') := by
  cases style with
  | direct =>
      refine (InStep.mapM (accessorOf_inStep b) b.resources).bind ?_
      rintro accessors _ rfl
      exact .pure rfl
  | functor => exact functorBody_inStep b b.resources [] []

/-- Under another header the class is the same but for the header. -/
theorem classOf_inStep (style : AccessorStyle) (b : Bundle) (className : Text) (h h' : Header)
    (baseClass : Option Text) :
    InStep (Moved h'.source) (fun c c' => c.header = h ∧ c' = { c with header := h' })
      (classOf style b className h baseClass) (classOf style b className h' baseClass) := by
  refine InStep.bind (.modifyGet _) ?_
  rintro ⟨⟩ _ rfl
  refine (bodyOf_inStep style b).bind ?_
  rintro body _ rfl
  exact .pure ⟨rfl, rfl⟩

theorem Class.text_alike {h : Header} (c : Class) (hh : Header.Alike c.header h) :
    Class.text { c with header := h } = c.text := by
  unfold Class.text
  dsimp only
  rw [hh.preambleLines_eq]

end Managed

namespace Native

theorem validate_corresponds (b : Bundle) :
    Corresponds (fun e e' => e' = e.inSource source') Eq (validate b source)
      (validate b source') := by
  unfold validate
  split
  · exact .error rfl
  · split
    · exact .error rfl
    · exact .ok rfl

theorem memberOf_corresponds (b : Bundle) (r : Resource) :
    Corresponds (Moved source') Eq (memberOf b source r) (memberOf b source' r) := by
  refine r.describe_corresponds.bind ?_
  rintro described _ rfl
  exact .ok rfl

/-- Under another header the class is the same but for the header. -/
theorem classOf_inStep (b : Bundle) (className : Text) (h h' : Header) (baseClass : Text) :
    InStep (Moved h'.source) (fun c c' => c.header = h ∧ c' = { c with header := h' })
      (classOf b className h baseClass) (classOf b className h' baseClass) := by
  unfold classOf
  split
  · exact .throw rfl
  · have hvalid : Corresponds _ Eq (validate b h.source) (validate b h'.source) :=
      validate_corresponds b
    generalize validate b h.source = valid at hvalid
    generalize validate b h'.source = valid' at hvalid
    cases hvalid with
    | error h => exact .throw (congrArg RenderError.generation h)
    | ok =>
        refine InStep.bind (.modifyGet _) ?_
        rintro ⟨⟩ _ rfl
        refine InStep.bind (.mk (.mapM (memberOf_corresponds b) b.resources)) ?_
        rintro members _ rfl
        exact .pure ⟨rfl, rfl⟩

theorem Class.headerText_alike {h : Header} (c : Class) (hh : Header.Alike c.header h)
    (includes : List Text) : headerText { c with header := h } includes = c.headerText includes := by
  unfold headerText
  dsimp only
  rw [hh.bannerLines_eq, hh.introductionLines_eq, hh.includeLines_eq]
  rfl

theorem Class.implementationText_alike {h : Header} (c : Class) (hh : Header.Alike c.header h)
    (commonInclude : Option Text) :
    implementationText { c with header := h } commonInclude =
      c.implementationText commonInclude := by
  unfold implementationText
  dsimp only
  rw [hh.bannerLines_eq, hh.introductionLines_eq, hh.sourceText_eq]
  rfl

end Native

namespace Properties

theorem entryOf_inStep (r : Resource) :
    InStep (Moved source') Eq (entryOf source r) (entryOf source' r) := by
  refine InStep.bind (.mk (r.requireText_corresponds.mapError fun _ _ h => ?_)) ?_
  · exact congrArg RenderError.generation h
  rintro text _ rfl
  split
  · refine InStep.bind (.modifyGet _) ?_
    rintro ⟨⟩ _ rfl
    exact .pure rfl
  · exact .pure rfl

end Properties

end Sources

end Errors

section Files

/-- A file to generate, by all that its text is made of but the header. -/
inductive GeneratedFile where
  | accessorClass (style : AccessorStyle) (b : Bundle) (className : Text) (baseClass : Option Text)
  | localeClass (className : Text) (locale : Locale)
  | baseProperties (b : Bundle) (className : Text)
  | localeProperties (className : Text) (locale : Locale)
  | nativeHeader (b : Bundle) (className baseClass : Text)
  | nativeImplementation (b : Bundle) (className baseClass : Text)

namespace GeneratedFile

/-- The text of the file under a header. -/
def render (h : Header) : GeneratedFile → Rendering Text
  | accessorClass style b className baseClass => Managed.render style b className h baseClass
  | localeClass className locale => pure (Managed.localeClassText className locale h)
  | baseProperties b className => Properties.render b className h
  | localeProperties className locale => pure (Properties.stubText className locale h)
  | nativeHeader b className baseClass => Native.renderHeader b className h baseClass
  | nativeImplementation b className baseClass => Native.renderImplementation b className h baseClass

theorem render_inStep (file : GeneratedFile) {h h' : Header} (hh : Header.Alike h h') :
    InStep (RenderError.Moved h'.source) Eq (file.render h) (file.render h') := by
  cases file with
  | accessorClass style b className baseClass =>
      refine (Managed.classOf_inStep style b className h h' baseClass).bind ?_
      rintro c _ ⟨rfl, rfl⟩
      exact .pure (c.text_alike hh).symm
  | localeClass className locale =>
      refine .pure ?_
      unfold Managed.localeClassText
      rw [hh.preambleLines_eq]
  | baseProperties b className =>
      refine (InStep.mapM Properties.entryOf_inStep b.resources).bind ?_
      rintro entries _ rfl
      refine .pure ?_
      unfold Properties.baseText
      rw [hh.originLines_eq]
  | localeProperties className locale =>
      refine .pure ?_
      unfold Properties.stubText
      rw [hh.originLines_eq]
  | nativeHeader b className baseClass =>
      refine (Native.classOf_inStep b className h h' baseClass).bind ?_
      rintro c _ ⟨rfl, rfl⟩
      exact .pure (c.headerText_alike hh _).symm
  | nativeImplementation b className baseClass =>
      refine (Native.classOf_inStep b className h h' baseClass).bind ?_
      rintro c _ ⟨rfl, rfl⟩
      exact .pure (c.implementationText_alike hh _).symm

/-- Under headers that are alike a file is rendered to the same text, or it is refused under both
for the same reason, which names the source of each header; the context is left the same. -/
theorem render_alike (file : GeneratedFile) (c : Context) {h h' : Header} (hh : Header.Alike h h') :
    ((∃ text, (outcome (file.render h) c).1 = .ok text ∧
        (outcome (file.render h') c).1 = .ok text) ∨
      (∃ e, (outcome (file.render h) c).1 = .error e ∧
        (outcome (file.render h') c).1 = .error (e.inSource h'.source))) ∧
      (outcome (file.render h) c).2 = (outcome (file.render h') c).2 := by
  obtain ⟨hresult, hcontext⟩ := file.render_inStep hh c
  refine ⟨?_, hcontext⟩
  generalize (outcome (file.render h) c).1 = r at hresult ⊢
  generalize (outcome (file.render h') c).1 = r' at hresult ⊢
  cases hresult with
  | @ok text text' htext =>
      subst htext
      exact .inl ⟨text, rfl, rfl⟩
  | @error e e' hmoved =>
      subst hmoved
      exact .inr ⟨e, rfl, rfl⟩

/-- A header of files that are generated from a source on the desk. -/
def deskHeader : Header :=
  ⟨.ofText "desk/N.xml", true, "morning"⟩

/-- A header of files that are generated later from a source with the same name, in a directory that
is spelled with backslashes. -/
def shelfHeader : Header :=
  ⟨.ofText "shelf\\old\\N.xml", true, "evening"⟩

/-- A class with an exception in functor style. -/
def faultFile : GeneratedFile :=
  .accessorClass .functor
    ⟨none, [⟨"lost", .exception, some "no \x7b0,number\x7d", [], none, none⟩],
      ⟨none, none, none, none, none, none, []⟩⟩ "acme.N" none

/-- The class is the same from both sources. -/
theorem faultFile_alike :
    Header.Alike deskHeader shelfHeader ∧
      ∃ text, (outcome (faultFile.render deskHeader) (.start ⟨[]⟩)).1 = .ok text ∧
        (outcome (faultFile.render shelfHeader) (.start ⟨[]⟩)).1 = .ok text := by
  have hh : Header.Alike deskHeader shelfHeader :=
    ⟨rfl, rfl, "desk", "shelf/old", "N.xml", by decide, by decide, by decide, by decide⟩
  have hok : (outcome (faultFile.render deskHeader) (.start ⟨[]⟩)).1.isOk = true := by
    decide +kernel
  refine ⟨hh, ?_⟩
  rcases (faultFile.render_alike (.start ⟨[]⟩) hh).1 with hsame | ⟨e, he, -⟩
  · exact hsame
  · rw [he] at hok
    cases hok

end GeneratedFile

end Files

end MessageCatalog
