import Mathlib.Control.Monad.Basic

/-!
# Computations that keep their state when they fail

Rendering, changing a file tree and running a generation are computations of one kind: they change a
state and may stop with an error, and what was done to the state before the error stays done. This
module describes such a computation by its outcome, the result together with the state it leaves.

**Results.**
* `outcome_bind_eq_ok`: a sequence succeeds exactly when its parts do, one after the other.
* `Respects`: computations that cannot tell two related states apart; sequences, loops and handlers
  of such computations are of that kind again.
* `Leads`: what holds between the states before and after a computation, whether it fails or not.
* `StopsWith`: the errors that a computation can stop with, again for sequences and loops.
* `FailsAs`: computations that fail whatever the state, and always with the same error.
* `InStep`: two computations that do the same to every state, with related results or errors.
-/

namespace MessageCatalog

section Outcome

variable {ε σ α β : Type}

/-- The result of a computation and the state that it leaves. -/
def outcome (x : ExceptT ε (StateM σ) α) (s : σ) : Except ε α × σ :=
  x.run.run s

@[simp] theorem outcome_pure (a : α) (s : σ) :
    outcome (pure a : ExceptT ε (StateM σ) α) s = (.ok a, s) := rfl

@[simp] theorem outcome_throw (e : ε) (s : σ) :
    outcome (throw e : ExceptT ε (StateM σ) α) s = (.error e, s) := rfl

@[simp] theorem outcome_get (s : σ) :
    outcome (get : ExceptT ε (StateM σ) σ) s = (.ok s, s) := rfl

@[simp] theorem outcome_modify (f : σ → σ) (s : σ) :
    outcome (modify f : ExceptT ε (StateM σ) PUnit) s = (.ok ⟨⟩, f s) := rfl

@[simp] theorem outcome_modifyGet (f : σ → α × σ) (s : σ) :
    outcome (modifyGet f : ExceptT ε (StateM σ) α) s = (.ok (f s).1, (f s).2) := rfl

@[simp] theorem outcome_mk_pure (r : Except ε α) (s : σ) :
    outcome (ExceptT.mk (pure r) : ExceptT ε (StateM σ) α) s = (r, s) := rfl

theorem outcome_of_fst {x : ExceptT ε (StateM σ) α} {s : σ} {r : Except ε α}
    (h : (outcome x s).1 = r) : outcome x s = (r, (outcome x s).2) := by
  rw [← h]

theorem outcome_bind (x : ExceptT ε (StateM σ) α) (f : α → ExceptT ε (StateM σ) β) (s : σ) :
    outcome (x >>= f) s =
      match outcome x s with
      | (.ok a, t) => outcome (f a) t
      | (.error e, t) => (.error e, t) := by
  have h : outcome (x >>= f) s =
      outcome (ExceptT.mk (ExceptT.bindCont f (outcome x s).1)) (outcome x s).2 := rfl
  rw [h]
  rcases outcome x s with ⟨e | a, t⟩
  · rfl
  · rfl

theorem outcome_tryCatch (x : ExceptT ε (StateM σ) α) (f : ε → ExceptT ε (StateM σ) α) (s : σ) :
    outcome (tryCatch x f) s =
      match outcome x s with
      | (.ok a, t) => (.ok a, t)
      | (.error e, t) => outcome (f e) t := by
  have h : outcome (tryCatch x f) s = outcome
      (ExceptT.mk (match (outcome x s).1 with
        | .ok a => pure (.ok a)
        | .error e => f e : StateM σ (Except ε α))) (outcome x s).2 :=
    rfl
  rw [h]
  rcases outcome x s with ⟨e | a, t⟩
  · rfl
  · rfl

theorem outcome_bind_of_ok {x : ExceptT ε (StateM σ) α} {f : α → ExceptT ε (StateM σ) β} {s t : σ}
    {a : α} (h : outcome x s = (.ok a, t)) : outcome (x >>= f) s = outcome (f a) t := by
  rw [outcome_bind, h]

theorem outcome_bind_of_error {x : ExceptT ε (StateM σ) α} {f : α → ExceptT ε (StateM σ) β}
    {s t : σ} {e : ε} (h : outcome x s = (.error e, t)) : outcome (x >>= f) s = (.error e, t) := by
  rw [outcome_bind, h]

/-- A sequence succeeds exactly when its parts do. -/
theorem outcome_bind_eq_ok {x : ExceptT ε (StateM σ) α} {f : α → ExceptT ε (StateM σ) β} {s u : σ}
    {b : β} :
    outcome (x >>= f) s = (.ok b, u) ↔
      ∃ a t, outcome x s = (.ok a, t) ∧ outcome (f a) t = (.ok b, u) := by
  rw [outcome_bind]
  rcases outcome x s with ⟨e | a, t⟩
  · simp
  · simp [and_assoc]

/-- A sequence fails exactly when its first part does, or its second part behind the first. -/
theorem outcome_bind_eq_error {x : ExceptT ε (StateM σ) α} {f : α → ExceptT ε (StateM σ) β}
    {s u : σ} {e : ε} :
    outcome (x >>= f) s = (.error e, u) ↔
      outcome x s = (.error e, u) ∨
        ∃ a t, outcome x s = (.ok a, t) ∧ outcome (f a) t = (.error e, u) := by
  rw [outcome_bind]
  rcases outcome x s with ⟨e | a, t⟩
  · simp
  · simp [and_assoc]

theorem fst_bind_eq_error {x : ExceptT ε (StateM σ) α} {f : α → ExceptT ε (StateM σ) β} {s : σ}
    {e : ε} :
    (outcome (x >>= f) s).1 = .error e ↔
      (outcome x s).1 = .error e ∨
        ∃ a t, outcome x s = (.ok a, t) ∧ (outcome (f a) t).1 = .error e := by
  rw [outcome_bind]
  rcases outcome x s with ⟨e | a, t⟩
  · simp
  · simp [and_assoc]

theorem fst_bind_pure_eq_error {x : ExceptT ε (StateM σ) α} {g : α → β} {s : σ} {e : ε} :
    (outcome (x >>= fun a => pure (g a)) s).1 = .error e ↔ (outcome x s).1 = .error e := by
  rw [fst_bind_eq_error]
  simp

/-- A loop without a result runs its body for each element in turn. -/
theorem forIn_eq_forM (f : α → ExceptT ε (StateM σ) PUnit) (as : List α) :
    (forIn as PUnit.unit fun a _ => do f a; pure (.yield .unit)) = forM as f := by
  induction as with
  | nil => rfl
  | cons a as ih =>
      rw [List.forIn_cons, List.forM_cons]
      simp only [bind_assoc, pure_bind, ih]

/-- The state behind a loop is the one behind its first step, if that fails, and otherwise the one
behind the rest of the loop. -/
theorem outcome_flatMapM_cons_snd (f : α → ExceptT ε (StateM σ) (List β)) (a : α) (as : List α)
    (s : σ) :
    (outcome ((a :: as).flatMapM f) s).2 =
      match outcome (f a) s with
      | (.ok _, t) => (outcome (as.flatMapM f) t).2
      | (.error _, t) => t := by
  rw [List.flatMapM_cons, outcome_bind]
  rcases outcome (f a) s with ⟨e | bs, t⟩
  · rfl
  · dsimp only
    rw [outcome_bind]
    rcases outcome (as.flatMapM f) t with ⟨e | bs', u⟩
    · rfl
    · rfl

/-- A loop over two lists, one behind the other, is a loop over the first and then one over the
second. -/
theorem outcome_flatMapM_append {f : α → ExceptT ε (StateM σ) (List β)} {as as' : List α}
    {s t u : σ} {bs bs' : List β} (h : outcome (as.flatMapM f) s = (.ok bs, t))
    (h' : outcome (as'.flatMapM f) t = (.ok bs', u)) :
    outcome ((as ++ as').flatMapM f) s = (.ok (bs ++ bs'), u) := by
  induction as generalizing s bs with
  | nil =>
      cases h
      exact h'
  | cons a as ih =>
      rw [List.flatMapM_cons] at h
      obtain ⟨first, v, hfirst, h⟩ := outcome_bind_eq_ok.mp h
      obtain ⟨others, w, hothers, h⟩ := outcome_bind_eq_ok.mp h
      cases h
      rw [List.cons_append, List.flatMapM_cons, outcome_bind_of_ok hfirst,
        outcome_bind_of_ok (ih hothers), List.append_assoc]
      rfl

end Outcome

section Respects

variable {ε σ α β : Type} {R : σ → σ → Prop}

/-- From related states the computation gives the same result, and it leaves related states. -/
def Respects (R : σ → σ → Prop) (x : ExceptT ε (StateM σ) α) : Prop :=
  ∀ s t, R s t → (outcome x s).1 = (outcome x t).1 ∧ R (outcome x s).2 (outcome x t).2

namespace Respects

/-- What becomes of the computation in one state tells what becomes of it in the other. -/
theorem outcome_eq {x : ExceptT ε (StateM σ) α} (hx : Respects R x) {s s' t' : σ} {r : Except ε α}
    (hs : R s s') (h : outcome x s' = (r, t')) : ∃ t, outcome x s = (r, t) ∧ R t t' := by
  obtain ⟨hr, ht⟩ := hx s s' hs
  rw [h] at hr ht
  exact ⟨(outcome x s).2, outcome_of_fst hr, ht⟩

theorem pure (a : α) : Respects R (Pure.pure a : ExceptT ε (StateM σ) α) :=
  fun _ _ h => ⟨rfl, h⟩

theorem throw (e : ε) : Respects R (MonadExcept.throw e : ExceptT ε (StateM σ) α) :=
  fun _ _ h => ⟨rfl, h⟩

theorem bind {x : ExceptT ε (StateM σ) α} {f : α → ExceptT ε (StateM σ) β}
    (hx : Respects R x) (hf : ∀ a, Respects R (f a)) : Respects R (x >>= f) := by
  intro s t h
  obtain ⟨hr, hs⟩ := hx s t h
  rw [outcome_bind, outcome_bind]
  rcases houts : outcome x s with ⟨r, s'⟩
  rcases houtt : outcome x t with ⟨r', t'⟩
  rw [houts, houtt] at hr hs
  obtain rfl : r = r' := hr
  cases r with
  | ok a => exact hf a s' t' hs
  | error e => exact ⟨rfl, hs⟩

theorem tryCatch {x : ExceptT ε (StateM σ) α} {f : ε → ExceptT ε (StateM σ) α}
    (hx : Respects R x) (hf : ∀ e, Respects R (f e)) : Respects R (MonadExcept.tryCatch x f) := by
  intro s t h
  obtain ⟨hr, hs⟩ := hx s t h
  rw [outcome_tryCatch, outcome_tryCatch]
  rcases houts : outcome x s with ⟨r, s'⟩
  rcases houtt : outcome x t with ⟨r', t'⟩
  rw [houts, houtt] at hr hs
  obtain rfl : r = r' := hr
  cases r with
  | ok a => exact ⟨rfl, hs⟩
  | error e => exact hf e s' t' hs

theorem mapM {f : α → ExceptT ε (StateM σ) β} (hf : ∀ a, Respects R (f a)) (as : List α) :
    Respects R (as.mapM f) := by
  induction as with
  | nil => exact pure _
  | cons a as ih =>
      rw [List.mapM_cons]
      exact bind (hf a) fun _ => bind ih fun _ => pure _

theorem flatMapM {f : α → ExceptT ε (StateM σ) (List β)} (hf : ∀ a, Respects R (f a))
    (as : List α) : Respects R (as.flatMapM f) := by
  induction as with
  | nil => exact pure _
  | cons a as ih =>
      rw [List.flatMapM_cons]
      exact bind (hf a) fun _ => bind ih fun _ => pure _

end Respects

end Respects

section Leads

variable {ε σ α β : Type} {R : σ → σ → Prop}

/-- Whatever its result, the computation leaves a state that is related to the one it began in. -/
def Leads (R : σ → σ → Prop) (x : ExceptT ε (StateM σ) α) : Prop :=
  ∀ s, R s (outcome x s).2

namespace Leads

theorem pure (hrefl : ∀ s, R s s) (a : α) : Leads R (Pure.pure a : ExceptT ε (StateM σ) α) :=
  fun s => hrefl s

theorem bind (R : σ → σ → Prop) (htrans : ∀ {s t u}, R s t → R t u → R s u)
    {x : ExceptT ε (StateM σ) α} {f : α → ExceptT ε (StateM σ) β} (hx : Leads R x)
    (hf : ∀ a, Leads R (f a)) : Leads R (x >>= f) := by
  intro s
  have hs := hx s
  rw [outcome_bind]
  rcases hout : outcome x s with ⟨e | a, t⟩
  · rw [hout] at hs
    exact hs
  · rw [hout] at hs
    exact htrans hs (hf a t)

theorem forM (hrefl : ∀ s, R s s) (htrans : ∀ {s t u}, R s t → R t u → R s u)
    {f : α → ExceptT ε (StateM σ) PUnit} {as : List α} (hf : ∀ a ∈ as, Leads R (f a)) :
    Leads R (ForM.forM as f) := by
  induction as with
  | nil => exact pure hrefl _
  | cons a as ih =>
      rw [List.forM_cons]
      exact bind R htrans (hf a List.mem_cons_self)
        fun _ => ih fun b hb => hf b (List.mem_cons_of_mem a hb)

theorem flatMapM (hrefl : ∀ s, R s s) (htrans : ∀ {s t u}, R s t → R t u → R s u)
    {f : α → ExceptT ε (StateM σ) (List β)} (hf : ∀ a, Leads R (f a)) (as : List α) :
    Leads R (as.flatMapM f) := by
  induction as with
  | nil => exact pure hrefl _
  | cons a as ih =>
      rw [List.flatMapM_cons]
      exact bind R htrans (hf a) fun _ => bind R htrans ih fun _ => pure hrefl _

/-- A sequence that succeeds goes on from a state that is related to the one it began in. -/
theorem of_bind_eq_ok {x : ExceptT ε (StateM σ) α} {f : α → ExceptT ε (StateM σ) β} {s u : σ}
    {b : β} (hx : Leads R x) (h : outcome (x >>= f) s = (.ok b, u)) :
    ∃ a t, R s t ∧ outcome (f a) t = (.ok b, u) := by
  obtain ⟨a, t, hat, hbu⟩ := outcome_bind_eq_ok.mp h
  have hs := hx s
  rw [hat] at hs
  exact ⟨a, t, hs, hbu⟩

end Leads

end Leads

section StopsWith

variable {ε σ α β : Type} {E F : ε → Prop}

/-- Whenever the computation stops with an error, the error is of the given kind. -/
def StopsWith (E : ε → Prop) (x : ExceptT ε (StateM σ) α) : Prop :=
  ∀ s e t, outcome x s = (.error e, t) → E e

namespace StopsWith

theorem mono {x : ExceptT ε (StateM σ) α} (h : StopsWith E x) (hEF : ∀ e, E e → F e) :
    StopsWith F x :=
  fun s e t hx => hEF e (h s e t hx)

theorem pure (a : α) : StopsWith E (Pure.pure a : ExceptT ε (StateM σ) α) := by
  intro s e t h
  simp at h

theorem bind {x : ExceptT ε (StateM σ) α} {f : α → ExceptT ε (StateM σ) β}
    (hx : StopsWith E x) (hf : ∀ a, StopsWith E (f a)) : StopsWith E (x >>= f) := by
  intro s e u h
  rcases outcome_bind_eq_error.mp h with h | ⟨a, t, -, h⟩
  · exact hx s e u h
  · exact hf a t e u h

theorem forM {f : α → ExceptT ε (StateM σ) PUnit} {as : List α}
    (hf : ∀ a ∈ as, StopsWith E (f a)) : StopsWith E (ForM.forM as f) := by
  induction as with
  | nil => exact pure _
  | cons a as ih =>
      rw [List.forM_cons]
      exact bind (hf a List.mem_cons_self)
        fun _ => ih fun b hb => hf b (List.mem_cons_of_mem a hb)

theorem mapM {f : α → ExceptT ε (StateM σ) β} {as : List α}
    (hf : ∀ a ∈ as, StopsWith E (f a)) : StopsWith E (as.mapM f) := by
  induction as with
  | nil => exact pure _
  | cons a as ih =>
      rw [List.mapM_cons]
      exact bind (hf a List.mem_cons_self)
        fun _ => bind (ih fun b hb => hf b (List.mem_cons_of_mem a hb)) fun _ => pure _

end StopsWith

end StopsWith

section FailsAs

variable {ε σ α β γ δ : Type}

/-- Whatever the state, the computation fails exactly if the result is an error, and with that
error. -/
def FailsAs (x : ExceptT ε (StateM σ) α) (r : Except ε γ) : Prop :=
  ∀ s e, (outcome x s).1 = .error e ↔ r = .error e

namespace FailsAs

theorem pure (a : α) (c : γ) : FailsAs (Pure.pure a : ExceptT ε (StateM σ) α) (.ok c) := by
  intro s e
  simp

theorem mk (r : Except ε α) : FailsAs (ExceptT.mk (Pure.pure r) : ExceptT ε (StateM σ) α) r := by
  intro s e
  rw [outcome_mk_pure]

theorem modifyGet (f : σ → α × σ) (c : γ) :
    FailsAs (MonadStateOf.modifyGet f : ExceptT ε (StateM σ) α) (.ok c) := by
  intro s e
  have hok : (outcome (MonadStateOf.modifyGet f : ExceptT ε (StateM σ) α) s).1 = .ok (f s).1 := rfl
  rw [hok]
  simp

theorem bind {x : ExceptT ε (StateM σ) α} {f : α → ExceptT ε (StateM σ) β} {r : Except ε γ}
    {g : γ → Except ε δ} (hx : FailsAs x r) (hf : ∀ a c, FailsAs (f a) (g c)) :
    FailsAs (x >>= f) (r >>= g) := by
  intro s e
  have hxs := hx s
  rw [outcome_bind]
  rcases hout : outcome x s with ⟨e' | a, t⟩
  · obtain rfl : r = .error e' := (hxs e').mp (congrArg Prod.fst hout)
    have herror : (.error e' : Except ε γ) >>= g = .error e' := rfl
    rw [herror]
    simp
  · cases r with
    | ok c => exact hf a c t e
    | error e' =>
        have herror := (hxs e').mpr rfl
        rw [hout] at herror
        cases herror

/-- What comes behind the computation does not fail. -/
theorem bind_ok {x : ExceptT ε (StateM σ) α} {f : α → ExceptT ε (StateM σ) β} {r : Except ε γ}
    (hx : FailsAs x r) (hf : ∀ a, FailsAs (f a) (.ok ⟨⟩ : Except ε Unit)) :
    FailsAs (x >>= f) r := by
  intro s e
  have hbind := hx.bind (g := fun c => .ok c) (fun a c s e => by simpa using hf a s e) s e
  rw [hbind]
  cases r with
  | ok c => rfl
  | error e' => rfl

theorem mapM {f : α → ExceptT ε (StateM σ) β} {g : α → Except ε γ}
    (hf : ∀ a, FailsAs (f a) (g a)) (as : List α) : FailsAs (as.mapM f) (as.mapM g) := by
  induction as with
  | nil => exact pure [] []
  | cons a as ih =>
      rw [List.mapM_cons, List.mapM_cons]
      exact (hf a).bind fun _ _ => ih.bind fun _ _ => pure _ _

end FailsAs

end FailsAs

section InStep

variable {ε ε' δ δ' σ α α' β β' γ : Type} {E : ε → ε' → Prop} {R : α → α' → Prop} {S : β → β' → Prop}

/-- Both results are successes with related values, or both are related errors. -/
inductive Corresponds (E : ε → ε' → Prop) (R : α → α' → Prop) :
    Except ε α → Except ε' α' → Prop
  | ok {a : α} {a' : α'} (h : R a a') : Corresponds E R (.ok a) (.ok a')
  | error {e : ε} {e' : ε'} (h : E e e') : Corresponds E R (.error e) (.error e')

namespace Corresponds

theorem mapError {F : δ → δ' → Prop} {f : ε → δ} {g : ε' → δ'} {r : Except ε α} {r' : Except ε' α'}
    (h : Corresponds E R r r') (hfg : ∀ e e', E e e' → F (f e) (g e')) :
    Corresponds F R (r.mapError f) (r'.mapError g) := by
  cases h with
  | ok h => exact .ok h
  | error h => exact .error (hfg _ _ h)

theorem bind {r : Except ε α} {r' : Except ε' α'} {f : α → Except ε β} {g : α' → Except ε' β'}
    (h : Corresponds E R r r') (hfg : ∀ a a', R a a' → Corresponds E S (f a) (g a')) :
    Corresponds E S (r >>= f) (r' >>= g) := by
  cases h with
  | ok h => exact hfg _ _ h
  | error h => exact .error h

theorem mapM {f : γ → Except ε α} {g : γ → Except ε' α} (hfg : ∀ c, Corresponds E Eq (f c) (g c))
    (cs : List γ) : Corresponds E Eq (cs.mapM f) (cs.mapM g) := by
  induction cs with
  | nil => exact .ok rfl
  | cons c cs ih =>
      rw [List.mapM_cons, List.mapM_cons]
      refine bind (hfg c) ?_
      rintro a _ rfl
      refine bind ih ?_
      rintro as _ rfl
      exact .ok rfl

end Corresponds

/-- From every state the computations have corresponding results, and they leave the same state. -/
def InStep (E : ε → ε' → Prop) (R : α → α' → Prop) (x : ExceptT ε (StateM σ) α)
    (y : ExceptT ε' (StateM σ) α') : Prop :=
  ∀ s, Corresponds E R (outcome x s).1 (outcome y s).1 ∧ (outcome x s).2 = (outcome y s).2

namespace InStep

theorem pure {a : α} {a' : α'} (h : R a a') :
    InStep (σ := σ) E R (Pure.pure a) (Pure.pure a') :=
  fun _ => ⟨.ok h, rfl⟩

theorem throw {e : ε} {e' : ε'} (h : E e e') :
    InStep (σ := σ) E R (MonadExcept.throw e) (MonadExcept.throw e') :=
  fun _ => ⟨.error h, rfl⟩

theorem mk {r : Except ε α} {r' : Except ε' α'} (h : Corresponds E R r r') :
    InStep (σ := σ) E R (ExceptT.mk (Pure.pure r)) (ExceptT.mk (Pure.pure r')) :=
  fun _ => ⟨h, rfl⟩

theorem modifyGet (f : σ → α × σ) :
    InStep E Eq (MonadStateOf.modifyGet f : ExceptT ε (StateM σ) α)
      (MonadStateOf.modifyGet f : ExceptT ε' (StateM σ) α) :=
  fun _ => ⟨.ok rfl, rfl⟩

theorem bind {x : ExceptT ε (StateM σ) α} {y : ExceptT ε' (StateM σ) α'}
    {f : α → ExceptT ε (StateM σ) β} {g : α' → ExceptT ε' (StateM σ) β'}
    (hxy : InStep E R x y) (hfg : ∀ a a', R a a' → InStep E S (f a) (g a')) :
    InStep E S (x >>= f) (y >>= g) := by
  intro s
  obtain ⟨hresult, hstate⟩ := hxy s
  rw [outcome_bind, outcome_bind]
  rcases houtx : outcome x s with ⟨r, t⟩
  rcases houty : outcome y s with ⟨r', t'⟩
  rw [houtx, houty] at hresult hstate
  obtain rfl : t = t' := hstate
  cases hresult with
  | ok h => exact hfg _ _ h t
  | error h => exact ⟨.error h, rfl⟩

theorem mapM {f : γ → ExceptT ε (StateM σ) α} {g : γ → ExceptT ε' (StateM σ) α}
    (hfg : ∀ c, InStep E Eq (f c) (g c)) (cs : List γ) : InStep E Eq (cs.mapM f) (cs.mapM g) := by
  induction cs with
  | nil => exact pure rfl
  | cons c cs ih =>
      rw [List.mapM_cons, List.mapM_cons]
      refine bind (hfg c) ?_
      rintro a _ rfl
      refine bind ih ?_
      rintro as _ rfl
      exact pure rfl

end InStep

end InStep

end MessageCatalog
