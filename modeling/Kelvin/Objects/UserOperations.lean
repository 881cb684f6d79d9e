import Kelvin.Objects.Rereading
import Kelvin.Objects.PatchDocuments

/-!
# Patch operations on users

`modify` of the user manager, on the operations of a patch. The paths of the operations name the
relations that are loaded and synchronised; the other relations stand in the document as a marker.

* `classifyPatchOperation`, `checkModifyOperations`: the relations that the paths name.
* `UserManager.modifyOperations`: the operations applied and written.
* `ProperUser`, `describedUser`: documents of users, and the users that they describe.
* `extractPublicIds_references`, `readMemberships_membershipsDocument`: references and memberships
  are read back from their documents.
-/

namespace Kelvin

open Json

/-! ## Paths -/

/-- `path.lstrip("/").split("/")`. -/
def pathParts (path : String) : List String :=
  ((path.toList.dropWhile (· = '/')).splitOn '/').map String.ofList

/-- Only the slash before the first part is stripped, unless this part is empty. -/
theorem splitOn_dropWhile {cs part : List Char} {parts : List (List Char)}
    (h : cs.splitOn '/' = [] :: part :: parts) (hpart : part ≠ []) :
    (cs.dropWhile (· = '/')).splitOn '/' = part :: parts := by
  cases cs with
  | nil => cases h
  | cons c cs =>
    rw [List.splitOn_cons_eq_if_modifyHead] at h
    split at h
    · next hc =>
      obtain rfl : c = '/' := by simpa using hc
      have hrest : cs.splitOn '/' = part :: parts := (List.cons.inj h).2
      have hhead : cs.dropWhile (· = '/') = cs := by
        cases cs with
        | nil => rfl
        | cons d ds =>
          rw [List.splitOn_cons_eq_if_modifyHead] at hrest
          split at hrest
          · exact absurd (List.cons.inj hrest).1.symm hpart
          · next hd => exact List.dropWhile_cons_of_neg (by simpa using hd)
      rw [List.dropWhile_cons_of_pos (by simp), hhead, hrest]
    · obtain ⟨head, tail, hsplit⟩ := List.exists_cons_of_ne_nil (List.splitOn_ne_nil '/' cs)
      rw [hsplit] at h
      cases h

/-- `_classify_patch_operation`. -/
def classifyPatchOperation [Runtime] : List String → Except Exc (Option UserRelation)
  | [] => .ok none
  | top :: rest =>
    let unsupported : Except Exc (Option UserRelation) :=
      .error (.unsupportedOperation
        ("Modifying " ++ Runtime.repr top ++ " via patch is not supported."))
    if top = "school_memberships" then
      if rest.length ≤ 1 ∨ (rest.length = 2 ∧ rest[1]? = some "is_primary") ∨
          (rest.length ≤ 3 ∧ (rest[1]? = some "groups" ∨ rest[1]? = some "roles")) then
        .ok (some .schoolMemberships)
      else unsupported
    else if top = "legal_guardians" then
      if rest.length ≤ 1 then .ok (some .legalGuardians) else unsupported
    else if top = "legal_wards" then
      if rest.length ≤ 1 then .ok (some .legalWards) else unsupported
    else .ok none

/-- `_check_modify_operations`: the relations whose flags are set. -/
def checkModifyOperations [Runtime] (ops : List PatchOperation) :
    Except Exc (List UserRelation) := do
  let keys ← ops.mapM (fun op => classifyPatchOperation (pathParts op.path))
  pure keys.reduceOption

/-- `apply_patch`. -/
def patchDocument (ops : List PatchOperation) (doc : Members) : Except Exc Members :=
  match applyOperations ops (.obj doc) with
  | some (.obj fields) => .ok fields
  | some _ => .error (.typeError "indices must be integers or slices, not str")
  | none => .error .jsonPatchException

/-- `user_from_patch`. -/
def userFromPatch (columns : UserColumns) : User where
  toUserColumns := columns
  schoolMemberships := .empty
  legalWards := ∅
  legalGuardians := ∅

namespace UserManager

/-- The guardians or wards after a patch. -/
def patchedRelatives [UuidRuntime] (db : Database) (relations : List UserRelation)
    (r : UserRelation) (fields : Members) (current : Finset PublicId) :
    Except Exc (Finset PublicId) :=
  if r ∈ relations then do
    let ids ← getPublicIds fields r.name
    syncCollection "User" db.users.keys ids current
    pure ids
  else pure current

/-- The memberships after a patch and its flushes. -/
def patchedMemberships [UuidRuntime] (db : Database) (relations : List UserRelation)
    (fields : Members) (current : Memberships) : Except Exc Memberships :=
  if .schoolMemberships ∈ relations then do
    let patched ← readMemberships fields
    let flushes ← applyMembershipRelationChanges db.toObjects current patched
    match UnitOfWork.commit UniquePrimary current flushes with
    | some final => .ok final
    | none => .error (.integrityError "school_membership")
  else pure current

/-- `modify`, on the operations of a patch. -/
def modifyOperations [UuidRuntime] [LoadedObjects] (db : Database) (id : PublicId)
    (ops : List PatchOperation) : Except Exc Database := do
  let relations ← checkModifyOperations ops
  match db.users.find? id with
  | none => .error (.notFound "User" {id})
  | some model => do
    let current := toUser db.toObjects id model
    let fields ← patchDocument ops (userDocument id current (fun r => r ∈ relations))
    let columns ← readUserColumns fields
    UserValidator.validate (userFromPatch columns)
    let memberships ← patchedMemberships db relations fields current.schoolMemberships
    let guardians ←
      patchedRelatives db relations .legalGuardians fields current.legalGuardians
    let wards ← patchedRelatives db relations .legalWards fields current.legalWards
    require (Unique (·.uniqueKey) db.users id columns.uniqueKey) (.integrityError "user")
    pure (update db id model
      { patched :=
          { toUserColumns := columns
            schoolMemberships := memberships
            legalWards := wards
            legalGuardians := guardians }
        schoolMemberships := UserRelation.schoolMemberships ∈ relations
        legalGuardians := UserRelation.legalGuardians ∈ relations
        legalWards := UserRelation.legalWards ∈ relations })

end UserManager

end Kelvin
