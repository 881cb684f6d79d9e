import Mathlib.Data.List.Basic

/-!
# Values kept for some time

A value that is read once and shown for a while is one that was true at an earlier event, after the
last event that discarded it.

* `Reading`: a value with the time at which it was read.
* `Reading.current`: the reading that is kept, or a new one where it is too old.
* `ReadSince`: where in the history a reading comes from.
-/

namespace Kelvin

structure Reading (α : Type*) where
  time : Int
  value : α

namespace Reading

variable {α : Type*} {live : Int → Bool} {now : Int} {fresh : α} {kept : Option (Reading α)}

/-- What is kept, as long as it is live. -/
def current (live : Int → Bool) (now : Int) (fresh : α) : Option (Reading α) → Reading α
  | some r => if live r.time then r else ⟨now, fresh⟩
  | none => ⟨now, fresh⟩

theorem current_eq : (∃ r, kept = some r ∧ live r.time = true ∧ current live now fresh kept = r) ∨
    current live now fresh kept = ⟨now, fresh⟩ := by
  cases kept with
  | none => exact .inr rfl
  | some r =>
    by_cases h : live r.time = true
    · exact .inl ⟨r, rfl, h, if_pos h⟩
    · exact .inr (if_neg h)

end Reading

section ReadSince

variable {ε α : Type*} (time : ε → Int) (read : ε → α) (discards : ε → Prop)

/-- The value was read at an event of the history, and no later event discards it. -/
def ReadSince (history : List ε) (r : Reading α) : Prop :=
  ∃ before e after, history = before ++ e :: after ∧ r.time = time e ∧ r.value = read e ∧
    ∀ x ∈ after, ¬ discards x

variable {time read discards} {history : List ε} {e : ε} {r : Reading α}

theorem ReadSince.now : ReadSince time read discards (history ++ [e]) ⟨time e, read e⟩ :=
  ⟨history, e, [], rfl, rfl, rfl, by simp⟩

theorem ReadSince.later (h : ReadSince time read discards history r) (he : ¬ discards e) :
    ReadSince time read discards (history ++ [e]) r := by
  obtain ⟨before, e₀, after, rfl, htime, hvalue, hafter⟩ := h
  refine ⟨before, e₀, after ++ [e], by simp, htime, hvalue, fun x hx => ?_⟩
  rcases List.mem_append.mp hx with hx | hx
  · exact hafter x hx
  · exact List.mem_singleton.mp hx ▸ he

/-- What is shown at an event comes from the history with this event, and is live. -/
theorem ReadSince.current {live : Int → Bool} {kept : Option (Reading α)}
    (h : ∀ r, kept = some r → ReadSince time read discards history r) (he : ¬ discards e) :
    ReadSince time read discards (history ++ [e])
      (Reading.current live (time e) (read e) kept) := by
  rcases Reading.current_eq with ⟨r, hr, -, heq⟩ | heq
  · rw [heq]
    exact (h r hr).later he
  · rw [heq]
    exact ReadSince.now

theorem Reading.current_live {live : Int → Bool} {now : Int} {fresh : α}
    {kept : Option (Reading α)} :
    live (Reading.current live now fresh kept).time = true ∨
      (Reading.current live now fresh kept) = ⟨now, fresh⟩ := by
  rcases Reading.current_eq with ⟨r, -, hlive, heq⟩ | heq
  · rw [heq]
    exact .inl hlive
  · exact .inr heq

end ReadSince

end Kelvin
