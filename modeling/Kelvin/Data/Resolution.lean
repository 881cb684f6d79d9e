import Mathlib.Logic.Function.Basic
import Kelvin.Data.Outcome

/-!
# Dependencies that are made on demand

Properties are formatted, and the properties that a format refers to are made before. A guard keeps
for each property the methods that its formatting has already called. It is emptied when the
formatting ends, and a method that is called again is taken for a recursion.

* `System.run`: the formatting of a property.
* `Solved`: a formatting that succeeds.
* `Resolved`: the order in which the properties are made, without the guard.
* `Solved.used`: what a formatting leaves in the guard.
* `run_of_le`: more fuel changes nothing.
-/

namespace Kelvin

namespace Resolution

/-- How a formatting ends without a result. -/
inductive Stop (π ε : Type) where
  | outOfFuel
  | recursion (p : π)
  | raised (e : ε)

/-- What has to be done about a property that a format refers to. -/
inductive Need (ν : Type) where
  | present
  | make (m : ν)
  | missing

structure System (σ π δ ν ε : Type) where
  /-- The properties that a format refers to. -/
  deps : π → List δ
  need : σ → δ → Need ν
  missing : π → δ → ε
  /-- The result of a method that does not format. -/
  ready : σ → ν → Option (Except ε σ)
  /-- The property that a method formats. -/
  target : ν → π
  /-- What a method does after the properties of its format are made. -/
  finish : ν → σ → Except ε σ

variable {σ π δ ν ε : Type}

/-! ## Calls -/

def raising {α : Type} : Except ε α → Except (Stop π ε) α
  | .ok a => .ok a
  | .error e => .error (.raised e)

def System.call (S : System σ π δ ν ε)
    (format : π → σ → (π → List ν) → Except (Stop π ε) (σ × (π → List ν))) (m : ν) (s : σ)
    (u : π → List ν) : Except (Stop π ε) (σ × (π → List ν)) :=
  match S.ready s m with
  | some result => do
    let s' ← raising result
    return (s', u)
  | none => do
    let made ← format (S.target m) s u
    let s' ← raising (S.finish m made.1)
    return (s', made.2)

/-- A format refers to a property that is not made yet, and whose method formats another one. -/
def System.Edge (S : System σ π δ ν ε) (s : σ) (p q : π) : Prop :=
  ∃ d ∈ S.deps p, ∃ m, S.need s d = .make m ∧ S.ready s m = none ∧ S.target m = q

variable {S : System σ π δ ν ε}

theorem raising_eq_ok {α : Type} {x : Except ε α} {a : α} :
    (raising x : Except (Stop π ε) α) = .ok a ↔ x = .ok a := by
  cases x <;> simp [raising]

theorem call_eq_ok {format : π → σ → (π → List ν) → Except (Stop π ε) (σ × (π → List ν))} {m : ν}
    {s s' : σ} {u u' : π → List ν} : S.call format m s u = .ok (s', u') ↔
      (S.ready s m = some (.ok s') ∧ u' = u) ∨
        S.ready s m = none ∧ ∃ s₁, format (S.target m) s u = .ok (s₁, u') ∧
          S.finish m s₁ = .ok s' := by
  unfold System.call
  cases hready : S.ready s m with
  | some result =>
    simp only [bind_eq_ok, raising_eq_ok, pure_eq_ok, Prod.mk.injEq]
    constructor
    · rintro ⟨_, rfl, rfl, rfl⟩
      exact .inl ⟨rfl, rfl⟩
    · rintro (⟨h, rfl⟩ | ⟨h, -⟩)
      · exact ⟨s', Option.some.inj h, rfl, rfl⟩
      · cases h
  | none =>
    simp only [bind_eq_ok, raising_eq_ok, pure_eq_ok, Prod.mk.injEq]
    constructor
    · rintro ⟨⟨s₁, u₁⟩, hformat, _, hfinish, rfl, rfl⟩
      exact .inr ⟨trivial, s₁, hformat, hfinish⟩
    · rintro (⟨h, -⟩ | ⟨-, s₁, hformat, hfinish⟩)
      · cases h
      · exact ⟨(s₁, u'), hformat, s', hfinish, rfl, rfl⟩

/-- A call stops only where the method or its formatting does. -/
theorem call_error {format : π → σ → (π → List ν) → Except (Stop π ε) (σ × (π → List ν))} {m : ν}
    {s : σ} {u : π → List ν} {stop : Stop π ε} (h : S.call format m s u = .error stop) :
    (∃ e, stop = .raised e) ∨
      S.ready s m = none ∧ format (S.target m) s u = .error stop := by
  unfold System.call at h
  cases hready : S.ready s m with
  | some result =>
    cases result with
    | ok s' => simp only [hready] at h; cases h
    | error e => simp only [hready] at h; cases h; exact .inl ⟨e, rfl⟩
  | none =>
    simp only [hready] at h
    cases hformat : format (S.target m) s u with
    | error stop' =>
      rw [hformat] at h
      cases h
      exact .inr ⟨rfl, rfl⟩
    | ok made =>
      rw [hformat] at h
      cases hfinish : S.finish m made.1 with
      | ok s' => change (raising (S.finish m made.1) >>= _) = _ at h; rw [hfinish] at h; cases h
      | error e =>
        change (raising (S.finish m made.1) >>= _) = _ at h
        rw [hfinish] at h
        cases h
        exact .inl ⟨e, rfl⟩

/-! ## Formattings that succeed -/

section Solved

variable [DecidableEq π]

/-- The method is noted for the property. -/
def note (u : π → List ν) (p : π) (m : ν) : π → List ν := Function.update u p (u p ++ [m])

@[simp] theorem note_self (u : π → List ν) (p : π) (m : ν) : note u p m p = u p ++ [m] :=
  Function.update_self _ _ _

theorem note_of_ne {p q : π} (h : q ≠ p) (u : π → List ν) (m : ν) : note u p m q = u q :=
  Function.update_of_ne h _ _

theorem mem_note {u : π → List ν} {q : π} {m : ν} (h : m ∈ u q) (p : π) (m' : ν) :
    m ∈ note u p m' q := by
  by_cases hq : q = p
  · subst hq
    rw [note_self]
    exact List.mem_append_left _ h
  · rwa [note_of_ne hq]

inductive Solved (S : System σ π δ ν ε) :
    π → List δ → σ → (π → List ν) → σ → (π → List ν) → Prop where
  | nil (p s u) : Solved S p [] s u s (Function.update u p [])
  | present {p d ds s u s' u'} : S.need s d = .present → Solved S p ds s u s' u' →
      Solved S p (d :: ds) s u s' u'
  | done {p d ds m s s₁ u s' u'} : S.need s d = .make m → m ∉ u p →
      S.ready s m = some (.ok s₁) → Solved S p ds s₁ (note u p m) s' u' →
      Solved S p (d :: ds) s u s' u'
  | format {p d ds m s s₁ s₂ u u₁ s' u'} : S.need s d = .make m → m ∉ u p →
      S.ready s m = none →
      Solved S (S.target m) (S.deps (S.target m)) s (note u p m) s₁ u₁ →
      S.finish m s₁ = .ok s₂ → Solved S p ds s₂ u₁ s' u' → Solved S p (d :: ds) s u s' u'

mutual

/-- The properties are made one after the other, unless they have a value. -/
inductive Resolved (S : System σ π δ ν ε) : List δ → σ → σ → Prop where
  | nil (s) : Resolved S [] s s
  | present {d ds s s'} : S.need s d = .present → Resolved S ds s s' → Resolved S (d :: ds) s s'
  | made {d ds m s s₁ s'} : S.need s d = .make m → Made S m s s₁ → Resolved S ds s₁ s' →
      Resolved S (d :: ds) s s'

/-- A method runs to its end. What it formats refers only to properties made before. -/
inductive Made (S : System σ π δ ν ε) : ν → σ → σ → Prop where
  | ready {m s s'} : S.ready s m = some (.ok s') → Made S m s s'
  | format {m s s₁ s'} : S.ready s m = none → Resolved S (S.deps (S.target m)) s s₁ →
      S.finish m s₁ = .ok s' → Made S m s s'

end

variable {p : π} {ds : List δ} {s s' : σ} {u u' : π → List ν}

/-- A formatting that succeeds makes the properties in their order. -/
theorem Solved.resolved (h : Solved S p ds s u s' u') : Resolved S ds s s' := by
  induction h with
  | nil p s u => exact .nil s
  | present hneed _ ih => exact .present hneed ih
  | done hneed _ hready _ ih => exact .made hneed (.ready hready) ih
  | format hneed _ hready _ hfinish _ ihformat ih =>
    exact .made hneed (.format hready ihformat hfinish) ih

/-- A formatting leaves nothing noted for its property, and notes nothing for others. -/
theorem Solved.used (h : Solved S p ds s u s' u') :
    u' p = [] ∧ ∀ q ≠ p, u' q = u q ∨ u' q = [] := by
  induction h with
  | nil p s u => exact ⟨Function.update_self _ _ _, fun q hq => .inl (Function.update_of_ne hq _ _)⟩
  | present _ _ ih => exact ih
  | done _ _ _ _ ih =>
    refine ⟨ih.1, fun q hq => ?_⟩
    have hrest := ih.2 q hq
    rwa [note_of_ne hq] at hrest
  | @format p d ds m s s₁ s₂ u u₁ s' u' _ _ _ _ _ _ ihformat ih =>
    refine ⟨ih.1, fun q hq => ?_⟩
    have hformat : u₁ q = u q ∨ u₁ q = [] := by
      by_cases htarget : q = S.target m
      · exact .inr (htarget ▸ ihformat.1)
      · have hinner := ihformat.2 q htarget
        rwa [note_of_ne hq] at hinner
    rcases ih.2 q hq with hrest | hrest
    · exact hformat.imp hrest.trans hrest.trans
    · exact .inr hrest

end Solved

/-! ## Runs -/

section Runs

variable [DecidableEq π] [DecidableEq ν]

namespace System

/-- Makes the properties of a format in their order. -/
def solve (S : System σ π δ ν ε)
    (call : ν → σ → (π → List ν) → Except (Stop π ε) (σ × (π → List ν))) (p : π) :
    List δ → σ → (π → List ν) → Except (Stop π ε) (σ × (π → List ν))
  | [], s, u => .ok (s, Function.update u p [])
  | d :: ds, s, u =>
    match S.need s d with
    | .present => solve S call p ds s u
    | .missing => .error (.raised (S.missing p d))
    | .make m =>
      if m ∈ u p then .error (.recursion p)
      else do
        let made ← call m s (note u p m)
        solve S call p ds made.1 made.2

/-- Makes what the format of a property needs, with at most so many formats inside each other. -/
def run (S : System σ π δ ν ε) :
    ℕ → π → σ → (π → List ν) → Except (Stop π ε) (σ × (π → List ν))
  | 0, _, _, _ => .error .outOfFuel
  | n + 1, p, s, u => S.solve (S.call (run S n)) p (S.deps p) s u

end System

theorem solved_of_solve {n : ℕ} (hrun : ∀ p s u s' u', S.run n p s u = .ok (s', u') →
      Solved S p (S.deps p) s u s' u') {p : π} {ds : List δ} {s s' : σ} {u u' : π → List ν}
    (h : S.solve (S.call (S.run n)) p ds s u = .ok (s', u')) : Solved S p ds s u s' u' := by
  induction ds generalizing s u with
  | nil =>
    cases h
    exact .nil _ _ _
  | cons d ds ih =>
    rw [System.solve] at h
    cases hneed : S.need s d with
    | present =>
      simp only [hneed] at h
      exact .present hneed (ih h)
    | missing =>
      simp only [hneed] at h
      cases h
    | make m =>
      simp only [hneed] at h
      by_cases hused : m ∈ u p
      · rw [if_pos hused] at h
        cases h
      · rw [if_neg hused, bind_eq_ok] at h
        obtain ⟨⟨s₂, u₂⟩, hcall, hrest⟩ := h
        obtain ⟨hready, rfl⟩ | ⟨hready, s₁, hformat, hfinish⟩ := call_eq_ok.mp hcall
        · exact .done hneed hused hready (ih hrest)
        · exact .format hneed hused hready (hrun _ _ _ _ _ hformat) hfinish (ih hrest)

theorem solved_of_run {n : ℕ} {p : π} {s s' : σ} {u u' : π → List ν}
    (h : S.run n p s u = .ok (s', u')) : Solved S p (S.deps p) s u s' u' := by
  induction n generalizing p s u s' u' with
  | zero => cases h
  | succ n ih => exact solved_of_solve (fun _ _ _ _ _ => ih) h

/-- More fuel changes nothing. -/
theorem run_succ {n : ℕ} {p : π} {s : σ} {u : π → List ν}
    (h : S.run n p s u ≠ .error .outOfFuel) : S.run (n + 1) p s u = S.run n p s u := by
  induction n generalizing p s u with
  | zero => exact absurd rfl h
  | succ n ih =>
    have hcall : ∀ m s u, S.call (S.run n) m s u ≠ .error .outOfFuel →
        S.call (S.run (n + 1)) m s u = S.call (S.run n) m s u := by
      intro m s u hne
      unfold System.call at hne ⊢
      cases hready : S.ready s m with
      | some result => rfl
      | none =>
        simp only [hready] at hne
        dsimp only
        have hrun : S.run n (S.target m) s u ≠ .error .outOfFuel := by
          intro heq
          rw [heq] at hne
          exact hne rfl
        rw [ih hrun]
    rw [System.run] at h ⊢
    rw [System.run]
    generalize S.deps p = ds at h ⊢
    induction ds generalizing s u with
    | nil => rfl
    | cons d ds ihds =>
      rw [System.solve] at h ⊢
      rw [System.solve]
      cases hneed : S.need s d with
      | present =>
        simp only [hneed] at h
        exact ihds h
      | missing => rfl
      | make m =>
        simp only [hneed] at h
        dsimp only
        by_cases hmem : m ∈ u p
        · rw [if_pos hmem, if_pos hmem]
        · rw [if_neg hmem] at h
          rw [if_neg hmem, if_neg hmem]
          cases hmade : S.call (S.run n) m s (note u p m) with
          | error stop =>
            rw [hmade] at h
            have hne : S.call (S.run n) m s (note u p m) ≠ .error .outOfFuel := by
              rw [hmade]
              intro heq
              cases heq
              exact h rfl
            rw [hcall _ _ _ hne, hmade]
            rfl
          | ok made =>
            rw [hmade] at h
            have hne : S.call (S.run n) m s (note u p m) ≠ .error .outOfFuel := by
              rw [hmade]
              intro heq
              cases heq
            rw [hcall _ _ _ hne, hmade]
            exact ihds h

theorem run_of_le {n m : ℕ} {p : π} {s : σ} {u : π → List ν}
    (h : S.run n p s u ≠ .error .outOfFuel) (hle : n ≤ m) : S.run m p s u = S.run n p s u := by
  induction hle with
  | refl => rfl
  | step _ ih => rw [run_succ (ih ▸ h), ih]

end Runs

end Resolution

end Kelvin
