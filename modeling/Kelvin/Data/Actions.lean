import Mathlib.Data.List.Basic

/-!
# Updates without a transaction

An update of a stored value is a list of parts: checks, which may reject it, and saves. There is
no transaction around them, so a rejected update leaves the saves before the rejecting check.

* `Action.run`: the update, up to the first check that rejects.
* `Action.saved`: what the saves alone leave.
* `run_eq_none`, `run_eq_some`: an accepted and a rejected update taken apart.
* `rejected_mem`: a rejected update leaves one of the values that the first saves leave.
-/

namespace Kelvin

/-- One part of an update of a stored value. -/
inductive Action (σ ε : Type*) where
  | check (reject : σ → Option ε)
  | save (write : σ → σ)

namespace Action

variable {σ ε : Type*} {as bs : List (Action σ ε)} {s s' : σ} {e : ε}

/-- Runs the parts in order. The result has the rejection, if there is one. -/
def run : List (Action σ ε) → σ → Option ε × σ
  | [], s => (none, s)
  | check reject :: as, s =>
    match reject s with
    | some e => (some e, s)
    | none => run as s
  | save write :: as, s => run as (write s)

/-- The saves of an update. -/
def saves (as : List (Action σ ε)) : List (σ → σ) :=
  as.filterMap (fun a =>
    match a with
    | check _ => none
    | save write => some write)

/-- What some saves leave. -/
def apply (writes : List (σ → σ)) (s : σ) : σ := writes.foldl (fun t write => write t) s

/-- What the saves of an update leave. -/
def saved (as : List (Action σ ε)) (s : σ) : σ := apply (saves as) s

@[simp] theorem saved_nil : saved ([] : List (Action σ ε)) s = s := rfl

@[simp] theorem saved_check {reject : σ → Option ε} : saved (check reject :: as) s = saved as s :=
  rfl

@[simp] theorem saved_save {write : σ → σ} :
    saved (save write :: as) s = saved as (write s) := rfl

@[simp] theorem saved_append : saved (as ++ bs) s = saved bs (saved as s) := by
  simp [saved, saves, apply, List.foldl_append]

@[simp] theorem saves_nil : saves ([] : List (Action σ ε)) = [] := rfl

@[simp] theorem saves_append : saves (as ++ bs) = saves as ++ saves bs :=
  List.filterMap_append

/-- Every check passes where the update comes to it. -/
def Passes (as : List (Action σ ε)) (s : σ) : Prop :=
  ∀ before reject after, as = before ++ check reject :: after → reject (saved before s) = none

theorem passes_cons {a : Action σ ε} :
    Passes (a :: as) s ↔
      (∀ reject, a = check reject → reject s = none) ∧ Passes as (saved [a] s) := by
  constructor
  · intro h
    constructor
    · rintro reject rfl
      exact h [] reject as rfl
    · rintro before reject after rfl
      have := h (a :: before) reject after rfl
      cases a <;> exact this
  · rintro ⟨ha, has⟩ before reject after heq
    cases before with
    | nil =>
      cases heq
      exact ha reject rfl
    | cons b before =>
      obtain ⟨rfl, rfl⟩ := List.cons.inj heq
      have := has before reject after rfl
      cases a <;> exact this

theorem passes_check {reject : σ → Option ε} :
    Passes (check reject :: as) s ↔ reject s = none ∧ Passes as s := by
  rw [passes_cons]
  simp

theorem passes_append : Passes (as ++ bs) s ↔ Passes as s ∧ Passes bs (saved as s) := by
  induction as generalizing s with
  | nil =>
    have hpasses : Passes ([] : List (Action σ ε)) s := by
      intro before reject after heq
      simp at heq
    simp [hpasses]
  | cons a as ih =>
    rw [List.cons_append, passes_cons, passes_cons, ih]
    cases a <;> simp [and_assoc]

theorem run_eq_none : run as s = (none, s') ↔ Passes as s ∧ s' = saved as s := by
  induction as generalizing s with
  | nil =>
    have hpasses : Passes ([] : List (Action σ ε)) s := by
      intro before reject after heq
      simp at heq
    simp only [run, saved_nil, Prod.mk.injEq, true_and, hpasses]
    exact eq_comm
  | cons a as ih =>
    rw [passes_cons]
    cases a with
    | check reject =>
      rw [run]
      cases hreject : reject s with
      | none =>
        simp only [saved_check, saved_nil, check.injEq, forall_eq', hreject, true_and]
        exact ih
      | some e =>
        simp [hreject]
    | save write =>
      rw [run, ih]
      simp

theorem run_eq_some (h : run as s = (some e, s')) :
    ∃ before reject after, as = before ++ check reject :: after ∧ s' = saved before s ∧
      reject s' = some e := by
  induction as generalizing s with
  | nil => cases h
  | cons a as ih =>
    cases a with
    | check reject =>
      rw [run] at h
      split at h
      · next e' hreject =>
        cases h
        exact ⟨[], reject, as, rfl, rfl, hreject⟩
      · obtain ⟨before, reject', after, rfl, hs, hreject'⟩ := ih h
        exact ⟨check reject :: before, reject', after, rfl, hs, hreject'⟩
    | save write =>
      obtain ⟨before, reject, after, rfl, hs, hreject⟩ := ih h
      exact ⟨save write :: before, reject, after, rfl, hs, hreject⟩

/-- An update of two parts is rejected in the first, or in the second after the saves of the
first. -/
theorem run_append_some (h : run (as ++ bs) s = (some e, s')) :
    run as s = (some e, s') ∨ run bs (saved as s) = (some e, s') := by
  induction as generalizing s with
  | nil => exact Or.inr h
  | cons a as ih =>
    cases a with
    | check reject =>
      rw [List.cons_append, run] at h
      rw [run]
      split at h
      · exact Or.inl h
      · exact ih h
    | save write => exact ih h

/-- A rejected update leaves what a number of its first saves leave. -/
theorem rejected_mem (h : run as s = (some e, s')) :
    ∃ k ≤ (saves as).length, s' = apply ((saves as).take k) s := by
  obtain ⟨before, reject, after, rfl, hs, -⟩ := run_eq_some h
  refine ⟨(saves before).length, ?_, ?_⟩
  · simp
  · rw [hs, saves_append, List.take_left']
    · rfl
    · rfl

theorem apply_eq_self {writes : List (σ → σ)} (h : ∀ write ∈ writes, write s = s) :
    apply writes s = s := by
  induction writes with
  | nil => rfl
  | cons write writes ih =>
    rw [List.forall_mem_cons] at h
    show apply writes (write s) = s
    rw [h.1]
    exact ih h.2

/-- What every save preserves, the saves together preserve. -/
theorem apply_invariant {P : σ → Prop} {writes : List (σ → σ)}
    (hstep : ∀ write ∈ writes, ∀ t, P t → P (write t)) (hs : P s) : P (apply writes s) := by
  induction writes generalizing s with
  | nil => exact hs
  | cons write writes ih =>
    rw [List.forall_mem_cons] at hstep
    exact ih hstep.2 (hstep.1 s hs)

end Action

end Kelvin
