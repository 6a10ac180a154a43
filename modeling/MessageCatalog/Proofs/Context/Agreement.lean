import MessageCatalog.Proofs.Context.Continuation

/-!
# Contexts that agree

What a context makes of a class depends on its answers alone: a class that it has no shape for is
reported, unless it has been reported before, and nothing else that a later question can tell has
changed. Two contexts agree when no question can tell them apart and when they have logged the same
warnings.

**Results.**
* `resolve_eq`: the shape of a class, by the answer of the context and the hints, and the report if
  there is none.
* `Agrees.resolve`: contexts that agree go on to agree.
* `Agrees.resolve_of_knows`: asking again for a class that has been asked for changes nothing.
-/

namespace MessageCatalog
namespace Context

open LogRecord

variable {c c' d : Context} {name : Text} {hints : List Text}

/-- What the context answers for a class, be it from memory or from the table. -/
def answer (c : Context) (name : Text) : Option ConstructorShape :=
  (c.consult name).1

/-- The shape that hints give, if they name a constructor at all. -/
def hinted (hints : List Text) : Option ConstructorShape :=
  let shape := ConstructorShape.ofHints hints
  if shape.isEmpty then none else some shape

/-- The shape of a class: what the context answers, else what the hints give. -/
def shapeIn (c : Context) (name : Text) (hints : List Text) : Option ConstructorShape :=
  (c.answer name).or (hinted hints)

/-- The context has a shape for the class, or it has reported the class. -/
def Knows (c : Context) (name : Text) (hints : List Text) : Prop :=
  c.shapeIn name hints = none → name ∈ c.reported

/-- The contexts give the same answers, and they have reported the same classes and logged the same
warnings. -/
structure Agrees (c c' : Context) : Prop where
  answers : ∀ name, c.answer name = c'.answer name
  reported : c.reported = c'.reported
  warnings : warnings c.log = LogRecord.warnings c'.log

theorem answer_eq (c : Context) (name : Text) :
    c.answer name = (c.consulted.lookup name).getD (c.table.lookup name) := by
  unfold answer consult
  cases c.consulted.lookup name with
  | some answer => rfl
  | none => rfl

/-- An answer is kept as it was given. -/
theorem answer_consult (c : Context) (name other : Text) :
    (c.consult name).2.answer other = c.answer other := by
  rw [answer_eq, answer_eq]
  unfold consult
  cases hlookup : c.consulted.lookup name with
  | some answer => rfl
  | none =>
      simp only [lookup_append_singleton _ hlookup]
      by_cases hother : other = name
      · subst hother
        simp [hlookup]
      · rw [if_neg hother]

theorem agrees_consult (c : Context) (name : Text) : Agrees (c.consult name).2 c where
  answers := answer_consult c name
  reported := by rw [consult_snd]
  warnings := by rw [consult_snd]

theorem answer_reportMissing (c : Context) (name other : Text) :
    (c.reportMissing name).answer other = c.answer other := by
  by_cases hname : name ∈ c.reported
  · rw [show c.reportMissing name = c from if_pos hname]
  · rw [reported_reportMissing hname, answer_eq, answer_eq]

theorem mem_reported_reportMissing (c : Context) (name : Text) :
    name ∈ (c.reportMissing name).reported := by
  by_cases hname : name ∈ c.reported
  · rwa [show c.reportMissing name = c from if_pos hname]
  · rw [reported_reportMissing hname]
    exact List.mem_append_right _ List.mem_cons_self

/-- A class that has been reported stays reported. -/
theorem mem_reported_of_mem (c : Context) (name : Text) {other : Text} (h : other ∈ c.reported) :
    other ∈ (c.reportMissing name).reported := by
  by_cases hname : name ∈ c.reported
  · rwa [show c.reportMissing name = c from if_pos hname]
  · rw [reported_reportMissing hname]
    exact List.mem_append_left _ h

/-- A question in full: the shape of the class, and a report on the class if there is none. -/
theorem resolve_eq (c : Context) (name : Text) (hints : List Text) :
    c.resolve name hints =
      (c.shapeIn name hints,
        if c.shapeIn name hints = none then (c.consult name).2.reportMissing name
        else (c.consult name).2) := by
  unfold resolve shapeIn answer hinted
  rcases c.consult name with ⟨_ | shape, c'⟩
  · by_cases hempty : (ConstructorShape.ofHints hints).isEmpty = true
    · simp [hempty]
    · simp [hempty]
  · rfl

/-- The shape of a class does not depend on what is logged or reported. -/
theorem resolve_fst (c : Context) (name : Text) (hints : List Text) :
    (c.resolve name hints).1 = c.shapeIn name hints := by
  rw [resolve_eq]

namespace Agrees

theorem refl (c : Context) : Agrees c c :=
  ⟨fun _ => rfl, rfl, rfl⟩

theorem symm (h : Agrees c c') : Agrees c' c :=
  ⟨fun name => (h.answers name).symm, h.reported.symm, h.warnings.symm⟩

theorem trans (h : Agrees c c') (h' : Agrees c' d) : Agrees c d :=
  ⟨fun name => (h.answers name).trans (h'.answers name), h.reported.trans h'.reported,
    h.warnings.trans h'.warnings⟩

theorem shapeIn (h : Agrees c c') (name : Text) (hints : List Text) :
    c.shapeIn name hints = c'.shapeIn name hints := by
  unfold Context.shapeIn
  rw [h.answers name]

/-- Records below a warning make no difference. -/
theorem record (h : Agrees c c') {r r' : LogRecord} (hr : r.level ≠ .warning)
    (hr' : r'.level ≠ .warning) : Agrees (c.record r) (c'.record r') where
  answers name := by
    have hname := h.answers name
    rwa [answer_eq, answer_eq] at hname ⊢
  reported := h.reported
  warnings := by
    have hlog : (c.record r).log = c.log ++ [r] := rfl
    have hlog' : (c'.record r').log = c'.log ++ [r'] := rfl
    rw [hlog, hlog', warnings_append, warnings_append, warnings_singleton, warnings_singleton,
      if_neg hr, if_neg hr', h.warnings]

theorem reportMissing (h : Agrees c c') (name : Text) :
    Agrees (c.reportMissing name) (c'.reportMissing name) where
  answers other := by rw [answer_reportMissing, answer_reportMissing, h.answers]
  reported := by
    by_cases hname : name ∈ c.reported
    · have hname' : name ∈ c'.reported := h.reported ▸ hname
      rw [show c.reportMissing name = c from if_pos hname,
        show c'.reportMissing name = c' from if_pos hname', h.reported]
    · have hname' : name ∉ c'.reported := h.reported ▸ hname
      rw [reported_reportMissing hname, reported_reportMissing hname', h.reported]
  warnings := by
    by_cases hname : name ∈ c.reported
    · have hname' : name ∈ c'.reported := h.reported ▸ hname
      rw [show c.reportMissing name = c from if_pos hname,
        show c'.reportMissing name = c' from if_pos hname', h.warnings]
    · have hname' : name ∉ c'.reported := h.reported ▸ hname
      rw [reported_reportMissing hname, reported_reportMissing hname', warnings_append,
        warnings_append, h.warnings]

end Agrees

/-- Asking for a class reports it if there is no shape for it, and changes nothing else that a
question could tell. -/
theorem agrees_resolve (c : Context) (name : Text) (hints : List Text) :
    Agrees (c.resolve name hints).2
      (if c.shapeIn name hints = none then c.reportMissing name else c) := by
  have hconsult := agrees_consult c name
  rw [resolve_eq]
  by_cases hshape : c.shapeIn name hints = none
  · simp only [if_pos hshape]
    exact hconsult.reportMissing name
  · simp only [if_neg hshape]
    exact hconsult

/-- Contexts that agree go on to agree. -/
theorem Agrees.resolve (h : Agrees c c') (name : Text) (hints : List Text) :
    Agrees (c.resolve name hints).2 (c'.resolve name hints).2 := by
  refine (agrees_resolve c name hints).trans (.trans ?_ (agrees_resolve c' name hints).symm)
  rw [h.shapeIn name hints]
  by_cases hshape : c'.shapeIn name hints = none
  · rw [if_pos hshape, if_pos hshape]
    exact h.reportMissing name
  · rw [if_neg hshape, if_neg hshape]
    exact h

/-- Asking for a class does not change the shape of any. -/
theorem shapeIn_resolve (c : Context) (name : Text) (hints : List Text) (other : Text)
    (hints' : List Text) : (c.resolve name hints).2.shapeIn other hints' = c.shapeIn other hints' := by
  rw [(agrees_resolve c name hints).shapeIn]
  by_cases hshape : c.shapeIn name hints = none
  · rw [if_pos hshape]
    unfold shapeIn
    rw [answer_reportMissing]
  · rw [if_neg hshape]

/-- A class that has been asked for is known. -/
theorem knows_resolve (c : Context) (name : Text) (hints : List Text) :
    (c.resolve name hints).2.Knows name hints := by
  intro hnone
  rw [shapeIn_resolve] at hnone
  rw [(agrees_resolve c name hints).reported, if_pos hnone]
  exact mem_reported_reportMissing c name

/-- A class that is known stays known. -/
theorem Knows.resolve (h : c.Knows name hints) (other : Text) (hints' : List Text) :
    (c.resolve other hints').2.Knows name hints := by
  intro hnone
  rw [shapeIn_resolve] at hnone
  rw [(agrees_resolve c other hints').reported]
  by_cases hshape : c.shapeIn other hints' = none
  · rw [if_pos hshape]
    exact mem_reported_of_mem c other (h hnone)
  · rw [if_neg hshape]
    exact h hnone

/-- Asking again for a class that is known changes nothing. -/
theorem Agrees.resolve_of_knows (h : Agrees c c') (hknows : c'.Knows name hints) :
    Agrees (c.resolve name hints).2 c' := by
  refine (agrees_resolve c name hints).trans ?_
  by_cases hshape : c.shapeIn name hints = none
  · have hmem : name ∈ c.reported := by
      rw [h.reported]
      exact hknows (h.shapeIn name hints ▸ hshape)
    rw [if_pos hshape, show c.reportMissing name = c from if_pos hmem]
    exact h
  · rw [if_neg hshape]
    exact h

end Context
end MessageCatalog
