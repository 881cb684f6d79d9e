import Mathlib.Data.Finset.Image

/-!
# Association tables

An association table between two kinds of objects is a finite set of pairs. An object
of either side sees the objects it is linked to (`rightOf`, `leftOf`) and replaces them as
a whole (`assign`, `coassign`); deleting an object drops its pairs (`dropLeft`,
`dropRight`). Each write is described by one membership lemma.
-/

namespace Kelvin

/-- The pairs of an association table. -/
abbrev Links (α β : Type*) := Finset (α × β)

namespace Links

variable {α β : Type*} [DecidableEq α] [DecidableEq β]
variable {L : Links α β} {a x : α} {b y : β} {S : Finset β} {T : Finset α}

/-- What `a` is linked to. -/
def rightOf (L : Links α β) (a : α) : Finset β := (L.filter (fun l => l.1 = a)).image Prod.snd

/-- What is linked to `b`. -/
def leftOf (L : Links α β) (b : β) : Finset α := (L.filter (fun l => l.2 = b)).image Prod.fst

/-- The links of `a` replaced by links to `S`. -/
def assign (L : Links α β) (a : α) (S : Finset β) : Links α β :=
  L.filter (fun l => l.1 ≠ a) ∪ S.image (fun b => (a, b))

/-- The links to `b` replaced by links from `T`. -/
def coassign (L : Links α β) (b : β) (T : Finset α) : Links α β :=
  L.filter (fun l => l.2 ≠ b) ∪ T.image (fun a => (a, b))

def dropLeft (L : Links α β) (a : α) : Links α β := L.filter (fun l => l.1 ≠ a)

def dropRight (L : Links α β) (b : β) : Links α β := L.filter (fun l => l.2 ≠ b)

@[simp] theorem mem_rightOf : b ∈ L.rightOf a ↔ (a, b) ∈ L := by
  simp [rightOf]

@[simp] theorem mem_leftOf : a ∈ L.leftOf b ↔ (a, b) ∈ L := by
  simp [leftOf]

theorem mem_assign : (x, y) ∈ L.assign a S ↔ (x = a ∧ y ∈ S) ∨ (x ≠ a ∧ (x, y) ∈ L) := by
  simp only [assign, Finset.mem_union, Finset.mem_filter, Finset.mem_image, Prod.mk.injEq]
  constructor
  · rintro (⟨h, hx⟩ | ⟨c, hc, rfl, rfl⟩)
    · exact .inr ⟨hx, h⟩
    · exact .inl ⟨rfl, hc⟩
  · rintro (⟨rfl, h⟩ | ⟨hx, h⟩)
    · exact .inr ⟨y, h, rfl, rfl⟩
    · exact .inl ⟨h, hx⟩

theorem mem_coassign : (x, y) ∈ L.coassign b T ↔ (y = b ∧ x ∈ T) ∨ (y ≠ b ∧ (x, y) ∈ L) := by
  simp only [coassign, Finset.mem_union, Finset.mem_filter, Finset.mem_image, Prod.mk.injEq]
  constructor
  · rintro (⟨h, hy⟩ | ⟨c, hc, rfl, rfl⟩)
    · exact .inr ⟨hy, h⟩
    · exact .inl ⟨rfl, hc⟩
  · rintro (⟨rfl, h⟩ | ⟨hy, h⟩)
    · exact .inr ⟨x, h, rfl, rfl⟩
    · exact .inl ⟨h, hy⟩

omit [DecidableEq β] in
@[simp] theorem mem_dropLeft : (x, y) ∈ L.dropLeft a ↔ (x, y) ∈ L ∧ x ≠ a := by
  simp [dropLeft]

omit [DecidableEq α] in
@[simp] theorem mem_dropRight : (x, y) ∈ L.dropRight b ↔ (x, y) ∈ L ∧ y ≠ b := by
  simp [dropRight]

@[simp] theorem rightOf_assign_self : (L.assign a S).rightOf a = S := by
  ext y
  simp [mem_assign]

/-- Assigning the links that are already there changes nothing. -/
theorem assign_rightOf : L.assign a (L.rightOf a) = L := by
  ext ⟨x, y⟩
  rw [mem_assign, mem_rightOf]
  by_cases h : x = a <;> simp [h]

theorem coassign_leftOf : L.coassign b (L.leftOf b) = L := by
  ext ⟨x, y⟩
  rw [mem_coassign, mem_leftOf]
  by_cases h : y = b <;> simp [h]

end Links

end Kelvin
