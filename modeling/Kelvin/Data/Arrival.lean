import Mathlib.Data.List.Nodup
import Kelvin.Data.Outcome

/-!
# Orders of arrival

Runs whose invariant speaks of the events that were handled so far, and the order of two
events in a list.

* `Handled.history`: a step lemma about the handled events lifts to a run.
* `handledSince`: the events handled while a condition on the state has held.
* `LastValue`: the value that the last event with a value gives.
* `Before`: one element stands before another.
-/

namespace Kelvin

section History

variable {ε σ ev : Type*} {handle : σ → ev → Except ε σ} {I : List ev → σ → Prop}

theorem Handled.history_from {all es pre : List ev} {s t : σ}
    (step : ∀ pre e post s s', pre ++ e :: post = all → I pre s → handle s e = .ok s' →
      I (pre ++ [e]) s')
    (hall : pre ++ es = all) (hs : I pre s) (hh : Handled handle s es t) : I all t := by
  induction es generalizing pre s with
  | nil =>
    rw [List.append_nil] at hall
    obtain rfl : s = t := hh
    exact hall ▸ hs
  | cons e es ih =>
    obtain ⟨s', he, hes⟩ := hh
    have hall' : (pre ++ [e]) ++ es = all := by rw [← hall, List.append_assoc, List.singleton_append]
    exact ih hall' (step pre e es s s' hall hs he) hes

/-- An invariant of the handled events and the state holds at the end of a run in which every
event was handled. -/
theorem Handled.history {es : List ev} {s t : σ}
    (step : ∀ pre e post s s', pre ++ e :: post = es → I pre s → handle s e = .ok s' →
      I (pre ++ [e]) s')
    (h0 : I [] s) (hh : Handled handle s es t) : I es t :=
  hh.history_from step (List.nil_append es) h0

end History

section Since

variable {ε σ ev : Type*} {handle : σ → ev → Except ε σ} {present : σ → Bool}

/-- A step that also lists the events handled since `present` last began to hold. -/
def recordSince (handle : σ → ev → Except ε σ) (present : σ → Bool) (h : σ × List ev) (e : ev) :
    Except ε (σ × List ev) :=
  match handle h.1 e with
  | .ok s' => .ok (s', if present h.1 then h.2 ++ [e] else [])
  | .error x => .error x

/-- The events of a run that were handled since `present` last began to hold. -/
def handledSince (handle : σ → ev → Except ε σ) (present : σ → Bool) (s : σ) (es : List ev) :
    List ev :=
  (replay (recordSince handle present) (s, []) es).2

theorem recordSince_eq_ok {h h' : σ × List ev} {e : ev} :
    recordSince handle present h e = .ok h' ↔
      handle h.1 e = .ok h'.1 ∧ h'.2 = if present h.1 then h.2 ++ [e] else [] := by
  obtain ⟨s', evs'⟩ := h'
  unfold recordSince
  cases handle h.1 e with
  | ok t =>
    simp only [Except.ok.injEq, Prod.mk.injEq]
    exact and_congr_right (fun _ => eq_comm)
  | error x => simp

theorem deliver_recordSince {h : σ × List ev} {e : ev} :
    (deliver (recordSince handle present) h e).1 = deliver handle h.1 e := by
  unfold deliver recordSince
  cases handle h.1 e with
  | ok t => rfl
  | error x => rfl

theorem replay_recordSince {h : σ × List ev} {es : List ev} :
    (replay (recordSince handle present) h es).1 = replay handle h.1 es := by
  induction es generalizing h with
  | nil => rfl
  | cons e es ih => rw [replay_cons, replay_cons, ih, deliver_recordSince]

theorem Along.recordSince {P : σ → ev → Prop} {h : σ × List ev} {es : List ev}
    (hP : Along handle P h.1 es) :
    Along (recordSince handle present) (fun h e => P h.1 e) h es := by
  induction es generalizing h with
  | nil => trivial
  | cons e es ih => exact ⟨hP.1, ih (deliver_recordSince (h := h) ▸ hP.2)⟩

theorem deliver_recordSince_subset {h : σ × List ev} {e : ev} :
    (deliver (recordSince handle present) h e).2 ⊆ h.2 ++ [e] := by
  refine deliver_invariant (I := fun h' : σ × List ev => h'.2 ⊆ h.2 ++ [e]) (List.subset_append_left _ _) ?_
  intro h' hh
  rw [(recordSince_eq_ok.mp hh).2]
  split
  · exact List.Subset.refl _
  · exact List.nil_subset _

theorem replay_recordSince_subset {h : σ × List ev} {es : List ev} :
    (replay (recordSince handle present) h es).2 ⊆ h.2 ++ es := by
  induction es generalizing h with
  | nil => simp
  | cons e es ih =>
    intro x hx
    rcases List.mem_append.mp (ih hx) with hx | hx
    · rcases List.mem_append.mp (deliver_recordSince_subset hx) with hx | hx
      · exact List.mem_append_left _ hx
      · rw [List.mem_singleton.mp hx]
        exact List.mem_append_right _ List.mem_cons_self
    · exact List.mem_append_right _ (List.mem_cons_of_mem e hx)

/-- Only events of the run are listed. -/
theorem mem_of_mem_handledSince {s : σ} {es : List ev} {e : ev}
    (he : e ∈ handledSince handle present s es) : e ∈ es := by
  simpa using replay_recordSince_subset he

/-- An invariant of the events handled since `present` began to hold, and of the state. -/
theorem handledSince_invariant {I : List ev → σ → Prop} {P : σ → ev → Prop} {s : σ}
    {es : List ev} (h0 : I [] s)
    (begin : ∀ s e s', present s = false → P s e → handle s e = .ok s' → I [] s')
    (step : ∀ evs s e s', present s = true → I evs s → P s e → handle s e = .ok s' →
      I (evs ++ [e]) s')
    (hP : Along handle P s es) : I (handledSince handle present s es) (replay handle s es) := by
  have hrun : I (replay (Kelvin.recordSince handle present) (s, []) es).2
      (replay (Kelvin.recordSince handle present) (s, []) es).1 := by
    refine replay_invariant (I := fun h : σ × List ev => I h.2 h.1) (P := fun h e => P h.1 e) ?_ h0
      hP.recordSince
    intro h e h' hI hPe hh
    obtain ⟨hhandle, hevents⟩ := recordSince_eq_ok.mp hh
    rw [hevents]
    cases hpresent : present h.1 with
    | true => exact step h.2 h.1 e h'.1 hpresent hI hPe hhandle
    | false => exact begin h.1 e h'.1 hpresent hPe hhandle
  rwa [replay_recordSince] at hrun

end Since

section LastValue

variable {ev α : Type*} {value : ev → α → Prop} {d a : α} {e : ev} {evs : List ev}

/-- The value that the last event with a value gives, and `d` where no event has one. -/
def LastValue (value : ev → α → Prop) (d : α) (evs : List ev) (a : α) : Prop :=
  (a = d ∧ ∀ e ∈ evs, ∀ b, ¬ value e b) ∨
    ∃ pre e post, evs = pre ++ e :: post ∧ value e a ∧ ∀ e' ∈ post, ∀ b, ¬ value e' b

theorem lastValue_nil : LastValue value d [] d := .inl ⟨rfl, by simp⟩

theorem lastValue_set (h : value e a) : LastValue value d (evs ++ [e]) a :=
  .inr ⟨evs, e, [], rfl, h, by simp⟩

theorem LastValue.keep (h : LastValue value d evs a) (hnone : ∀ b, ¬ value e b) :
    LastValue value d (evs ++ [e]) a := by
  rcases h with ⟨rfl, hevs⟩ | ⟨pre, x, post, rfl, hx, hpost⟩
  · refine .inl ⟨rfl, ?_⟩
    intro e' he'
    rcases List.mem_append.mp he' with he' | he'
    · exact hevs e' he'
    · rw [List.mem_singleton.mp he']
      exact hnone
  · refine .inr ⟨pre, x, post ++ [e], by simp, hx, ?_⟩
    intro e' he'
    rcases List.mem_append.mp he' with he' | he'
    · exact hpost e' he'
    · rw [List.mem_singleton.mp he']
      exact hnone

end LastValue

section Before

variable {α : Type*} {l : List α} {a b x : α}

/-- `a` stands in the list before `b`. -/
def Before (l : List α) (a b : α) : Prop := [a, b].Sublist l

theorem before_concat : Before (l ++ [x]) a b ↔ Before l a b ∨ (a ∈ l ∧ b = x) := by
  unfold Before
  constructor
  · intro h
    obtain ⟨l₁, l₂, heq, h₁, h₂⟩ := List.sublist_append_iff.mp h
    match l₁, heq with
    | [], heq =>
      have hlength := h₂.length_le
      rw [← List.nil_append l₂, ← heq] at hlength
      simp at hlength
    | [c], heq =>
      obtain ⟨rfl, rfl⟩ : a = c ∧ [b] = l₂ := by simpa using heq
      exact .inr ⟨List.singleton_sublist.mp h₁, List.mem_singleton.mp (List.singleton_sublist.mp h₂)⟩
    | c :: d :: l₁, heq =>
      obtain ⟨rfl, rfl, hnil⟩ : a = c ∧ b = d ∧ [] = l₁ ++ l₂ := by simpa using heq
      obtain ⟨rfl, rfl⟩ := List.append_eq_nil_iff.mp hnil.symm
      exact .inl h₁
  · rintro (h | ⟨ha, rfl⟩)
    · exact h.trans (List.sublist_append_left _ _)
    · exact List.Sublist.append (List.singleton_sublist.mpr ha) (List.Sublist.refl [b])

@[simp] theorem not_before_nil : ¬ Before [] a b := by simp [Before]

theorem Before.mem_left (h : Before l a b) : a ∈ l := h.subset (by simp)

theorem Before.mem_right (h : Before l a b) : b ∈ l := h.subset (by simp)

/-- Nothing stands before itself where nothing stands twice. -/
theorem not_before_self (hl : l.Nodup) : ¬ Before l a a := fun h => by
  simpa using hl.sublist h

end Before

end Kelvin
