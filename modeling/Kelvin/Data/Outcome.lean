import Mathlib.Data.List.Perm.Basic

/-!
# Fallible steps and their runs

A step either fails or returns the next state. `deliver` is the step inside a
transaction: a failing step leaves the state as it was. `replay` delivers a list of
events in order.

* `bind_eq_ok`, `require_bind_eq_ok`: a successful computation taken apart.
* `Along`: a condition on a state and an event, required at every delivery of a run.
* `replay_invariant`: what one delivery preserves, a whole run preserves.
* `Handled`: a run in which every event is handled without a failure.
-/

namespace Kelvin

variable {ε : Type*} {α β : Type}

theorem bind_eq_ok {x : Except ε α} {f : α → Except ε β} {b : β} :
    x >>= f = .ok b ↔ ∃ a, x = .ok a ∧ f a = .ok b := by
  constructor
  · intro h
    cases x with
    | error e => cases h
    | ok a => exact ⟨a, rfl, h⟩
  · rintro ⟨a, rfl, h⟩
    exact h

theorem map_eq_ok {x : Except ε α} {f : α → β} {b : β} :
    x.map f = .ok b ↔ ∃ a, x = .ok a ∧ b = f a := by
  cases x with
  | error e => simp [Except.map]
  | ok a => simp [Except.map, eq_comm]

/-- Fails with `e` unless `p` holds. -/
def require (p : Prop) [Decidable p] (e : ε) : Except ε Unit :=
  if p then .ok () else .error e

theorem require_eq_ok {p : Prop} [Decidable p] {e : ε} {u : Unit} :
    require p e = .ok u ↔ p := by
  unfold require
  split <;> simp_all

theorem require_of {p : Prop} [Decidable p] {e : ε} (h : p) : require p e = .ok () := if_pos h

theorem require_bind_eq_ok {p : Prop} [Decidable p] {e : ε} {f : Unit → Except ε β} {b : β} :
    require p e >>= f = .ok b ↔ p ∧ f () = .ok b := by
  rw [bind_eq_ok]
  constructor
  · rintro ⟨_, h, hf⟩
    exact ⟨require_eq_ok.mp h, hf⟩
  · rintro ⟨h, hf⟩
    exact ⟨(), require_eq_ok.mpr h, hf⟩

/-- The check `x`, made only where `p` holds. -/
def onlyIf (p : Prop) [Decidable p] (x : Except ε Unit) : Except ε Unit :=
  if p then x else .ok ()

theorem onlyIf_eq_ok {p : Prop} [Decidable p] {x : Except ε Unit} {u : Unit} :
    onlyIf p x = .ok u ↔ (p → x = .ok ()) := by
  unfold onlyIf
  split <;> simp_all

theorem pure_eq_ok {a b : α} : (pure a : Except ε α) = .ok b ↔ a = b :=
  ⟨fun h => by cases h; rfl, fun h => by rw [h]; rfl⟩

/-- A loop whose checks all succeed is the loop without them. -/
theorem foldlM_of_checks {α : Type*} {σ : Type} {check : σ → α → Except ε Unit} {step : σ → α → σ}
    {l : List α} (h : ∀ a ∈ l, ∀ s, check s a = .ok ()) (s : σ) :
    l.foldlM (fun s a => do
      check s a
      pure (step s a)) s = .ok (l.foldl step s) := by
  induction l generalizing s with
  | nil => rfl
  | cons a l ih =>
    rw [List.forall_mem_cons] at h
    rw [List.foldlM_cons, h.1 s, List.foldl_cons]
    exact ih h.2 (step s a)

/-- A loop of checks succeeds when each of them does. -/
theorem forM_eq_ok {γ : Type*} {xs : List γ} {f : γ → Except ε PUnit.{1}} {u : PUnit} :
    forM xs f = .ok u ↔ ∀ x ∈ xs, f x = .ok ⟨⟩ := by
  induction xs with
  | nil => exact ⟨fun _ => by simp, fun _ => rfl⟩
  | cons x xs ih =>
    rw [List.forM_cons, bind_eq_ok, List.forall_mem_cons, ← ih]
    constructor
    · rintro ⟨_, hx, hxs⟩
      exact ⟨hx, hxs⟩
    · rintro ⟨hx, hxs⟩
      exact ⟨⟨⟩, hx, hxs⟩

/-- A list is mapped element by element. -/
theorem mapM_eq_ok {γ : Type*} {δ : Type} {f : γ → Except ε δ} {xs : List γ} {ys : List δ} :
    xs.mapM f = .ok ys ↔ List.Forall₂ (fun x y => f x = .ok y) xs ys := by
  induction xs generalizing ys with
  | nil =>
    rw [List.mapM_nil, pure_eq_ok, List.forall₂_nil_left_iff, eq_comm]
  | cons x xs ih =>
    rw [List.mapM_cons]
    simp only [bind_eq_ok, pure_eq_ok, List.forall₂_cons_left_iff]
    constructor
    · rintro ⟨y, hy, rest, hrest, rfl⟩
      exact ⟨y, rest, hy, ih.mp hrest, rfl⟩
    · rintro ⟨y, rest, hy, hrest, rfl⟩
      exact ⟨y, hy, rest, ih.mpr hrest, rfl⟩

theorem exists_of_mem_right {γ δ : Type*} {R : γ → δ → Prop} {xs : List γ} {ys : List δ}
    (h : List.Forall₂ R xs ys) {y : δ} (hy : y ∈ ys) : ∃ x ∈ xs, R x y := by
  induction h with
  | nil => cases hy
  | @cons x y' xs ys hxy _ ih =>
    rcases List.mem_cons.mp hy with rfl | hy
    · exact ⟨x, List.mem_cons_self, hxy⟩
    · obtain ⟨x', hx', hr⟩ := ih hy
      exact ⟨x', List.mem_cons_of_mem _ hx', hr⟩

section Runs

variable {σ ev : Type*} {handle : σ → ev → Except ε σ} {s : σ} {e : ev} {es : List ev}

/-- One event in a transaction of its own: a failure rolls back to the state before. -/
def deliver (handle : σ → ev → Except ε σ) (s : σ) (e : ev) : σ :=
  match handle s e with
  | .ok s' => s'
  | .error _ => s

def replay (handle : σ → ev → Except ε σ) (s : σ) (es : List ev) : σ :=
  es.foldl (deliver handle) s

/-- The event is handled without a failure. -/
def Handles (handle : σ → ev → Except ε σ) (s : σ) (e : ev) : Prop := ∃ s', handle s e = .ok s'

/-- `P` holds at every delivery of the run. -/
def Along (handle : σ → ev → Except ε σ) (P : σ → ev → Prop) : σ → List ev → Prop
  | _, [] => True
  | s, e :: es => P s e ∧ Along handle P (deliver handle s e) es

/-- Every event of the run is handled, and the run ends in `t`. -/
def Handled (handle : σ → ev → Except ε σ) : σ → List ev → σ → Prop
  | s, [], t => s = t
  | s, e :: es, t => ∃ s', handle s e = .ok s' ∧ Handled handle s' es t

theorem deliver_of_ok {s' : σ} (h : handle s e = .ok s') : deliver handle s e = s' := by
  simp [deliver, h]

theorem deliver_of_error {x : ε} (h : handle s e = .error x) : deliver handle s e = s := by
  simp [deliver, h]

theorem exists_of_isOk {α : Type*} {x : Except ε α} (h : x.isOk = true) : ∃ a, x = .ok a := by
  cases x with
  | ok a => exact ⟨a, rfl⟩
  | error e => simp [Except.isOk, Except.toBool] at h

/-- A step that is seen to succeed ends where its delivery does. -/
theorem eq_deliver_of_isOk (h : (handle s e).isOk = true) :
    handle s e = .ok (deliver handle s e) := by
  obtain ⟨s', hs⟩ := exists_of_isOk h
  rw [deliver_of_ok hs, hs]

/-- What a successful step preserves, a delivery preserves. -/
theorem deliver_invariant {I : σ → Prop} (hs : I s) (h : ∀ s', handle s e = .ok s' → I s') :
    I (deliver handle s e) := by
  cases hh : handle s e with
  | ok s' =>
    rw [deliver_of_ok hh]
    exact h s' hh
  | error x =>
    rw [deliver_of_error hh]
    exact hs

@[simp] theorem replay_nil : replay handle s [] = s := rfl

@[simp] theorem replay_cons :
    replay handle s (e :: es) = replay handle (deliver handle s e) es := rfl

theorem replay_append {es fs : List ev} :
    replay handle s (es ++ fs) = replay handle (replay handle s es) fs := by
  simp [replay]

/-- A step lemma lifted to a run, under a condition that holds at each of its deliveries. -/
theorem replay_invariant {I : σ → Prop} {P : σ → ev → Prop}
    (step : ∀ s e s', I s → P s e → handle s e = .ok s' → I s')
    (hs : I s) (hP : Along handle P s es) : I (replay handle s es) := by
  induction es generalizing s with
  | nil => exact hs
  | cons e es ih =>
    exact ih (deliver_invariant hs (fun s' h => step s e s' hs hP.1 h)) hP.2

theorem along_true : Along handle (fun _ _ => True) s es := by
  induction es generalizing s with
  | nil => trivial
  | cons e es ih => exact ⟨trivial, ih⟩

theorem Along.imp {P Q : σ → ev → Prop} (h : ∀ s e, P s e → Q s e)
    (hP : Along handle P s es) : Along handle Q s es := by
  induction es generalizing s with
  | nil => trivial
  | cons e es ih => exact ⟨h s e hP.1, ih hP.2⟩

/-- A step lemma without a condition, lifted to every run. -/
theorem replay_invariant_all {I : σ → Prop}
    (step : ∀ s e s', I s → handle s e = .ok s' → I s') (hs : I s) :
    I (replay handle s es) :=
  replay_invariant (fun s e s' hI _ => step s e s' hI) hs along_true

theorem Handled.append {t : σ} {es fs : List ev} :
    Handled handle s (es ++ fs) t ↔ ∃ m, Handled handle s es m ∧ Handled handle m fs t := by
  induction es generalizing s with
  | nil => simp [Handled]
  | cons e es ih =>
    simp only [List.cons_append, Handled, ih]
    constructor
    · rintro ⟨s', h, m, hm, ht⟩
      exact ⟨m, ⟨s', h, hm⟩, ht⟩
    · rintro ⟨m, ⟨s', h, hm⟩, ht⟩
      exact ⟨s', h, m, hm, ht⟩

end Runs

end Kelvin
