import Mathlib.Data.List.Sort
import Mathlib.Data.String.Basic

/-!
# JSON values

JSON as a decoder hands it to a program: numbers are integers or floats, and a float is
kept as the text that prints it. The fields of an object are listed in the order of
their names, which makes equality of values the equality of the decoded dictionaries.

`DecidableEq Json` is built from a Boolean test by mutual recursion on the values, the
item lists and the field lists. `sortItems` is the stable sort by a textual key that a
program uses to bring item lists into one order; it is idempotent.
-/

namespace Kelvin

inductive Json where
  | null
  | bool (b : Bool)
  | int (n : Int)
  | float (text : String)
  | str (s : String)
  | arr (items : List Json)
  | obj (fields : List (String × Json))

namespace Json

/-! ## Decidable equality -/

mutual

def beq : Json → Json → Bool
  | null, null => true
  | bool a, bool b => a == b
  | int m, int n => m == n
  | float s, float t => s == t
  | str s, str t => s == t
  | arr xs, arr ys => beqItems xs ys
  | obj fs, obj gs => beqFields fs gs
  | _, _ => false

def beqItems : List Json → List Json → Bool
  | [], [] => true
  | x :: xs, y :: ys => beq x y && beqItems xs ys
  | _, _ => false

def beqFields : List (String × Json) → List (String × Json) → Bool
  | [], [] => true
  | (k, x) :: fs, (l, y) :: gs => k == l && beq x y && beqFields fs gs
  | _, _ => false

end

mutual

theorem beq_iff : ∀ a b : Json, beq a b = true ↔ a = b
  | null, b => by cases b <;> simp [beq]
  | bool _, b => by cases b <;> simp [beq]
  | int _, b => by cases b <;> simp [beq]
  | float _, b => by cases b <;> simp [beq]
  | str _, b => by cases b <;> simp [beq]
  | arr xs, b => by cases b <;> simp [beq, beqItems_iff xs]
  | obj fs, b => by cases b <;> simp [beq, beqFields_iff fs]

theorem beqItems_iff : ∀ xs ys : List Json, beqItems xs ys = true ↔ xs = ys
  | [], ys => by cases ys <;> simp [beqItems]
  | x :: xs, ys => by cases ys <;> simp [beqItems, beq_iff x, beqItems_iff xs]

theorem beqFields_iff : ∀ fs gs : List (String × Json), beqFields fs gs = true ↔ fs = gs
  | [], gs => by cases gs <;> simp [beqFields]
  | (k, x) :: fs, [] => by simp [beqFields]
  | (k, x) :: fs, (l, y) :: gs => by
    simp [beqFields, beq_iff x, beqFields_iff fs, and_assoc]

end

instance : DecidableEq Json := fun a b => decidable_of_iff _ (beq_iff a b)

/-! ## Access and order -/

/-- The value of a field of an object. -/
def field? (name : String) (fields : List (String × Json)) : Option Json :=
  (fields.find? (fun f => f.1 == name)).map Prod.snd

/-- The stable sort of items by a textual key. -/
def sortItems (key : Json → String) (items : List Json) : List Json :=
  items.insertionSort (fun a b => key a ≤ key b)

theorem sortItems_sorted (key : Json → String) (items : List Json) :
    (sortItems key items).Pairwise (fun a b => key a ≤ key b) := by
  have : Std.Total (fun a b : Json => key a ≤ key b) := ⟨fun a b => le_total (key a) (key b)⟩
  have : IsTrans Json (fun a b => key a ≤ key b) := ⟨fun _ _ _ => le_trans⟩
  exact List.pairwise_insertionSort _ items

@[simp] theorem mem_sortItems {key : Json → String} {items : List Json} {x : Json} :
    x ∈ sortItems key items ↔ x ∈ items := List.mem_insertionSort _

theorem sortItems_idem (key : Json → String) (items : List Json) :
    sortItems key (sortItems key items) = sortItems key items :=
  List.Pairwise.insertionSort_eq (sortItems_sorted key items)

end Json

end Kelvin
