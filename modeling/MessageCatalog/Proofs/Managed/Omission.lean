import MessageCatalog.Proofs.Context.History
import MessageCatalog.Proofs.Managed.Methods
import MessageCatalog.Proofs.Settings.Validation
import MessageCatalog.Proofs.Shape.Table

/-!
# Exceptions without factories

An exception gets no factory if there is no shape for its class, and then the class is reported. It
gets none either if the shape has no constructor, and then the class is known and nothing is said of
it; settings can list such a shape.

**Results.**
* `FactoryPlan.forShape_eq_nil_iff`: when there are no factories for a shape.
* `Body.factoriesOf`, `factoriesOf_eq_nil_iff`: the factories of a resource in a class, in either
  style, and when there are none.
* `render_asks`: what a rendering does to the context, up to what no question can tell.
* `render_factory_or_warning`: behind every history, an exception has a factory, or its class has
  been reported exactly once, unless the settings leave the class out; then neither is the case.
-/

namespace MessageCatalog

/-- There is no factory exactly if there is no constructor to call. -/
theorem FactoryPlan.forShape_eq_nil_iff {shape : Option ConstructorShape} {causeAllowed : Bool} :
    forShape shape causeAllowed = [] ↔ shape = none ∨ shape = some .empty := by
  cases shape with
  | none => simp [forShape]
  | some shape =>
      obtain ⟨message, messageCause, object, objectCause⟩ := shape
      cases message <;> cases messageCause <;> cases object <;> cases objectCause <;>
        cases causeAllowed <;> decide

namespace Managed

open Context LogRecord

variable {b : Bundle} {c d : Context} {name : Text}

section Factories

/-- The factories that a class has for a resource; in functor style, those of the definitions that
its members refer to. -/
def Body.factoriesOf (outer : Text) (r : Resource) : Body → List Method
  | .direct accessors =>
      (accessors.filter (·.described.resource = r)).flatMap Accessor.factoryMethods
  | .functor members definitions =>
      (members.filter (·.described.resource = r)).flatMap fun m =>
        (definitions.filter (·.name = m.definition)).flatMap (·.factoryMethods outer)

theorem flatMap_eq_nil_iff_of_forall {α β : Type} {p : Prop} {xs : List α} {f : α → List β}
    (hne : ∃ x, x ∈ xs) (h : ∀ x ∈ xs, f x = [] ↔ p) : xs.flatMap f = [] ↔ p := by
  obtain ⟨x, hx⟩ := hne
  rw [List.flatMap_eq_nil_iff]
  exact ⟨fun hnil => (h x hx).mp (hnil x hx), fun hp y hy => (h y hy).mpr hp⟩

theorem accessorIn_factoryMethods_eq_nil_iff {described : Description}
    (h : errorClass described.resource b = some name) :
    (accessorIn c b described).factoryMethods = [] ↔
      plansIn c b (errorClass described.resource b) (allowsCause described.resource) = [] := by
  simp [Accessor.factoryMethods, accessorIn, h]

theorem Definition.Suits.factoryMethods_eq_nil_iff {definition : Definition} {a : Accessor}
    (h : definition.Suits a) (outer : Text) :
    definition.factoryMethods outer = [] ↔ a.factoryMethods = [] := by
  have hlength := congrArg List.length (h.declarations outer)
  rw [List.length_map, List.length_map] at hlength
  rw [← List.length_eq_zero_iff, ← List.length_eq_zero_iff, hlength]

/-- A class has no factory for an exception exactly if the context has none for its class. -/
theorem factoriesOf_eq_nil_iff {ds : List Description} {style : AccessorStyle} {body : Body}
    (h : Body.IsOf c b ds style body) {r : Resource} (hr : r ∈ ds.map (·.resource))
    (hclass : errorClass r b = some name) (outer : Text) :
    body.factoriesOf outer r = [] ↔ plansIn c b (errorClass r b) (allowsCause r) = [] := by
  obtain ⟨described, hdescribed, rfl⟩ := List.mem_map.mp hr
  cases h with
  | direct =>
      refine flatMap_eq_nil_iff_of_forall ⟨accessorIn c b described, ?_⟩ fun a ha => ?_
      · refine List.mem_filter.mpr ⟨List.mem_map_of_mem hdescribed, decide_eq_true rfl⟩
      · obtain ⟨ha, hresource⟩ := List.mem_filter.mp ha
        obtain ⟨d, -, rfl⟩ := List.mem_map.mp ha
        have hsame : d.resource = described.resource := of_decide_eq_true hresource
        rw [← hsame] at hclass ⊢
        exact accessorIn_factoryMethods_eq_nil_iff hclass
  | @functor members definitions hlays =>
      -- names of definitions differ, so a member refers to exactly one of them
      have hfinds := hlays.finds (areOf_nil c b)
      have hnames := (hlays.areOf (areOf_nil c b)).names_nodup
      refine flatMap_eq_nil_iff_of_forall ?_ fun m hm => ?_
      · obtain ⟨m, hm, hfound⟩ := exists_of_mem_right hfinds (List.mem_map_of_mem hdescribed)
        refine ⟨m, List.mem_filter.mpr ⟨hm, decide_eq_true ?_⟩⟩
        rw [hfound.described]
        rfl
      · obtain ⟨hm, hresource⟩ := List.mem_filter.mp hm
        obtain ⟨a, ha, hfound⟩ := exists_of_mem_left hfinds hm
        obtain ⟨d, -, rfl⟩ := List.mem_map.mp ha
        have hsame : d.resource = described.resource := by
          have hdescribed : m.described.resource = d.resource := by rw [hfound.described]; rfl
          exact hdescribed.symm.trans (of_decide_eq_true hresource)
        obtain ⟨definition, hmem, hname, hsuits⟩ := hfound.refers
        rw [← hname, filter_name_eq_singleton hnames hmem, List.flatMap_singleton,
          hsuits.factoryMethods_eq_nil_iff]
        rw [← hsame] at hclass ⊢
        exact accessorIn_factoryMethods_eq_nil_iff hclass

end Factories

section Asking

/-- The question for the shape of the class of a resource, if it is an exception. -/
def question? (b : Bundle) (r : Resource) : Option Call :=
  (errorClass r b).map fun name => .resolve name (b.hintsFor name)

theorem behind_question (c : Context) (r : Resource) (rest : List Call) :
    c.behind ((question? b r).toList ++ rest) = (askedFor c b (errorClass r b)).behind rest := by
  rw [question?]
  cases errorClass r b <;> rfl

/-- Direct style asks for the class of each exception, in order. -/
theorem accessors_asks {source : Path} {rs : List Resource} {accessors : List Accessor}
    (h : outcome (rs.mapM (accessorOf b source)) c = (.ok accessors, d)) :
    d = c.behind (rs.filterMap (question? b)) := by
  induction rs generalizing c accessors with
  | nil =>
      cases h
      rfl
  | cons r rest ih =>
      rw [List.mapM_cons] at h
      obtain ⟨a, x, haccessor, h⟩ := outcome_bind_eq_ok.mp h
      obtain ⟨others, y, hrest, h⟩ := outcome_bind_eq_ok.mp h
      cases h
      rw [outcome_accessorOf] at haccessor
      cases hdescribe : r.describe source with
      | error e =>
          rw [hdescribe] at haccessor
          cases haccessor
      | ok described =>
          rw [hdescribe] at haccessor
          cases haccessor
          rw [ih hrest, ← behind_question]
          cases hquestion : question? b r <;> simp [hquestion]

/-- In either style the context goes on as if the class of each exception had been asked for. -/
theorem bodyOf_asks {style : AccessorStyle} {source : Path} {body : Body}
    (h : outcome (bodyOf style b source) c = (.ok body, d)) :
    Agrees d (c.behind (b.resources.filterMap (question? b))) := by
  cases style with
  | direct =>
      obtain ⟨accessors, x, haccessors, hpure⟩ := outcome_bind_eq_ok.mp h
      cases hpure
      rw [accessors_asks haccessors]
      exact .refl _
  | functor =>
      have hbody : outcome (functorBody b source b.resources [] []) c = (.ok body, d) := h
      have hfollows := functorBody_follows (c := c) (b := b) source b.resources (.refl c)
        (fun _ _ => rfl) [] (fun _ h => by cases h) []
      rw [hbody] at hfollows
      generalize haccessors : outcome (b.resources.mapM _) c = accessors at hfollows
      cases hfollows with
      | laid hagrees _ _ =>
          rw [← accessors_asks haccessors]
          exact hagrees.symm

/-- A rendering logs that it has begun, and asks for the classes of the exceptions. -/
theorem render_asks {style : AccessorStyle} {className text : Text} {header : Header}
    {baseClass : Option Text}
    (h : outcome (render style b className header baseClass) c = (.ok text, d)) :
    ∃ message, Agrees d (c.behind
      (.log (.of .debug "emitters.java" message) :: b.resources.filterMap (question? b))) := by
  obtain ⟨message, hrender⟩ := outcome_render style b className header baseClass c
  rw [hrender] at h
  obtain ⟨body, x, hbody, hpure⟩ := outcome_bind_eq_ok.mp h
  cases hpure
  exact ⟨message, bodyOf_asks hbody⟩

theorem ownWarnings_questions (rs : List Resource) :
    (rs.filterMap (question? b)).flatMap Call.ownWarnings = [] := by
  rw [List.flatMap_eq_nil_iff]
  intro call hcall
  obtain ⟨r, -, hr⟩ := List.mem_filterMap.mp hcall
  obtain ⟨name, -, rfl⟩ := Option.map_eq_some_iff.mp hr
  rfl

end Asking

section Warnings

/-- How often the log says that a class has not been found. -/
def reportsOf (log : List LogRecord) (name : Text) : Nat :=
  (warnings log).count (missingClass name)

/-- How often a history says so on its own account. -/
def ownReportsOf (calls : List Call) (name : Text) : Nat :=
  (calls.flatMap Call.ownWarnings).count (missingClass name)

/-- A class that has been asked for behind a history has been reported once exactly if neither the
table nor the hints have a shape for it. -/
theorem reports_of_knows {table : ShapeTable} {calls : List Call} {hints : List Text}
    (h : Accounts table calls d) (hknows : d.Knows name hints) :
    (table.lookup name = none ∧ hinted hints = none →
      reportsOf d.log name = ownReportsOf calls name + 1) ∧
    ∀ shape, table.lookup name = some shape → reportsOf d.log name = ownReportsOf calls name := by
  constructor
  · rintro ⟨htable, hhinted⟩
    have hreported : name ∈ d.reported := by
      refine hknows ?_
      rw [shapeIn, h.answers, htable, hhinted]
      rfl
    rw [reportsOf, h.warnings, if_pos hreported]
    rfl
  · intro shape htable
    have hreported : name ∉ d.reported :=
      fun hmem => Option.some_ne_none shape (htable.symm.trans (h.unknown name hmem))
    rw [reportsOf, h.warnings, if_neg hreported]
    rfl

/-- There is no factory if neither the table nor the hints have a shape, or if that of the table has
no constructor; the shape that hints give has one. -/
theorem plansIn_eq_nil_iff {table : ShapeTable} {calls : List Call} (h : Accounts table calls c)
    {causeAllowed : Bool} :
    plansIn c b (some name) causeAllowed = [] ↔
      table.lookup name = none ∧ hinted (b.hintsFor name) = none ∨
        table.lookup name = some .empty := by
  have hhinted : hinted (b.hintsFor name) ≠ some .empty := by
    rw [hinted]
    split
    · simp
    next hempty =>
      rw [ConstructorShape.isEmpty_iff] at hempty
      simpa using hempty
  rw [plansIn, FactoryPlan.forShape_eq_nil_iff, shapeIn, h.answers]
  cases table.lookup name with
  | none => simp [hhinted]
  | some shape => simp

/-- Behind a rendering the accounts are those of the history in front of it, and the class of every
exception is known. -/
theorem render_accounts {table : ShapeTable} {calls : List Call} (hc : Accounts table calls c)
    {style : AccessorStyle} {className text : Text} {header : Header} {baseClass : Option Text}
    (h : outcome (render style b className header baseClass) c = (.ok text, d)) :
    Accounts table calls d ∧
      ∀ r ∈ b.resources, ∀ name, errorClass r b = some name → d.Knows name (b.hintsFor name) := by
  obtain ⟨message, hagrees⟩ := render_asks h
  constructor
  · have haccounts := (hc.behind _).of_agrees hagrees
    refine ⟨haccounts.answers, haccounts.unknown, fun name => ?_⟩
    have hdebug : Call.ownWarnings (.log (.of .debug "emitters.java" message)) = [] := rfl
    rw [haccounts.warnings, List.flatMap_append, List.flatMap_cons, hdebug, ownWarnings_questions,
      List.append_nil, List.append_nil]
  · intro r hr name hname hnone
    rw [hagrees.reported]
    rw [hagrees.shapeIn] at hnone
    have hasked : .resolve name (b.hintsFor name) ∈ b.resources.filterMap (question? b) :=
      List.mem_filterMap.mpr ⟨r, hr, by rw [question?, hname, Option.map_some]⟩
    exact knows_behind (List.mem_cons_of_mem _ hasked) hnone

variable (b) in
/-- Behind every history of a context whose table the settings have given, an exception of a class
that is rendered has a factory, or the log says exactly once that its class has not been found,
besides what others have logged in these words. Only a class that the settings list without
constructors has neither. -/
theorem render_factory_or_warning {s : Settings} {configuration : Configuration}
    (hvalid : s.validate = .ok configuration) (calls : List Call) (style : AccessorStyle)
    (className : Text) (header : Header) (baseClass : Option Text) {text : Text}
    (h : outcome (render style b className header baseClass)
      ((start configuration.table).behind calls) = (.ok text, d)) :
    ∃ cls, (outcome (classOf style b className header baseClass)
        ((start configuration.table).behind calls)).1 = .ok cls ∧ text = cls.text ∧
      ∀ r ∈ b.resources, r.isException = true → ∃ name, errorClass r b = some name ∧
        (¬ Settings.LeavesOut s.shapes name ∧
            (cls.body.factoriesOf (ClassName.simple className) r ≠ [] ∨
              reportsOf d.log name = ownReportsOf calls name + 1) ∨
          Settings.LeavesOut s.shapes name ∧
            cls.body.factoriesOf (ClassName.simple className) r = [] ∧
            reportsOf d.log name = ownReportsOf calls name) := by
  have hleaves := Settings.lookup_eq_empty_iff (Settings.tableOf_of_validate hvalid)
  have hstart := accounts_behind configuration.table calls
  -- of the history only its accounts matter
  generalize (start configuration.table).behind calls = c at h hstart
  obtain ⟨haccounts, hknows⟩ := render_accounts hstart h
  obtain ⟨cls, x, hclass, htext⟩ := outcome_bind_eq_ok.mp h
  cases htext
  refine ⟨cls, congrArg Prod.fst hclass, rfl, fun r hr hexception => ?_⟩
  obtain ⟨ds, hdescribed, hbody⟩ := classOf_eq_ok (congrArg Prod.fst hclass)
  obtain ⟨name, hname⟩ : ∃ name, errorClass r b = some name := ⟨_, if_pos hexception⟩
  refine ⟨name, hname, ?_⟩
  have hfactories := factoriesOf_eq_nil_iff hbody (map_resource_of_describe hdescribed ▸ hr) hname
    (ClassName.simple className)
  rw [hname, plansIn_eq_nil_iff hstart] at hfactories
  obtain ⟨hmissing, hfound⟩ := reports_of_knows haccounts (hknows r hr name hname)
  rw [← hleaves]
  by_cases hempty : configuration.table.lookup name = some .empty
  · exact .inr ⟨hempty, hfactories.mpr (.inr hempty), hfound _ hempty⟩
  · refine .inl ⟨hempty, ?_⟩
    by_cases hunknown : configuration.table.lookup name = none ∧ hinted (b.hintsFor name) = none
    · exact .inr (hmissing hunknown)
    · exact .inl fun hnil => (hfactories.mp hnil).elim hunknown hempty

end Warnings

section Instances

/-- Settings that list one class without constructors. -/
def bareSettings : Settings :=
  { Settings.initial with
    source := some (.ofText "s")
    includes := [.ofName "N.xml"]
    shapes := [("acme.Bare", [])] }

/-- The header of files that are generated from `s/N.xml`. -/
def catalogHeader : Header :=
  ⟨.ofText "s/N.xml", true, []⟩

/-- An exception of the class. -/
def failureOf (className : Text) : Resource :=
  ⟨"a", .exception, some "x", [], none, some ⟨some className, none, none, none⟩⟩

/-- A bundle of one exception of the class. -/
def failureBundle (className : Text) : Bundle :=
  ⟨none, [failureOf className], ⟨none, none, none, none, none, none, []⟩⟩

/-- A class that is not known anywhere is reported once, also if it has been asked for before. -/
theorem lost_reported_once :
    ∃ configuration text d, bareSettings.validate = .ok configuration ∧
      outcome (render .functor (failureBundle "acme.Lost") "N" catalogHeader none)
        ((start configuration.table).behind [.resolve "acme.Lost" []]) = (.ok text, d) ∧
      reportsOf d.log "acme.Lost" = 1 := by
  refine ⟨_, _, _, rfl, rfl, ?_⟩
  obtain ⟨cls, hclass, -, hresources⟩ := render_factory_or_warning (failureBundle "acme.Lost")
    (s := bareSettings) rfl [.resolve "acme.Lost" []] .functor "N" catalogHeader none rfl
  obtain ⟨name, hname, hcases⟩ := hresources (failureOf "acme.Lost") (.head _) rfl
  cases hname
  cases hclass
  rcases hcases with ⟨-, hfactories | hreports⟩ | ⟨hleft, -, -⟩
  · exact absurd rfl hfactories
  · exact hreports
  · exact absurd hleft (by unfold Settings.LeavesOut; decide)

/-- A class that the settings list without constructors has no factory, and nothing is said of
it. -/
theorem bare_not_reported :
    ∃ configuration text d cls, bareSettings.validate = .ok configuration ∧
      outcome (render .direct (failureBundle "acme.Bare") "N" catalogHeader none)
        (start configuration.table) = (.ok text, d) ∧
      (outcome (classOf .direct (failureBundle "acme.Bare") "N" catalogHeader none)
        (start configuration.table)).1 = .ok cls ∧
      text = cls.text ∧ (failureOf "acme.Bare").isException = true ∧
      cls.body.factoriesOf "N" (failureOf "acme.Bare") = [] ∧ reportsOf d.log "acme.Bare" = 0 :=
  ⟨_, _, _, _, rfl, rfl, rfl, rfl, rfl, rfl, rfl⟩

end Instances

end Managed
end MessageCatalog
