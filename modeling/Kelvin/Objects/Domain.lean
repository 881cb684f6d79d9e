import Kelvin.Objects.Database
import Kelvin.Data.Outcome

/-!
# Domain objects, patches and validators

The domain objects of `core/domain/models.py` as the managers exchange them, with all
fields loaded. References to other objects are kept as sets of public ids: the managers
resolve them by public id alone, and a patch compares them by public id alone.

* `toUser`, `toGroup`: the domain object of a row (`mappers/to_domain.py`).
* `createUserPatch`, `createPatch`: the change from one object to another
  (`core/domain/patch.py`). A patch is kept as the patched document, next to the
  relations its operations touch; there is none when the documents agree.
* `UserValidator`, `GroupValidator`, `SchoolValidator`: `core/domain/validators.py`.
-/

namespace Kelvin

/-- A school has the fields of its row. -/
abbrev School := SchoolModel

structure Group extends GroupColumns where
  school : PublicId
  roles : Finset PublicId
  memberRoles : Finset PublicId
  members : Finset PublicId
  allowedEmailSendersUsers : Finset PublicId
  allowedEmailSendersGroups : Finset PublicId
deriving DecidableEq

structure SchoolMembership where
  isPrimary : Bool
  roles : Finset PublicId
  groups : Finset PublicId
deriving DecidableEq

structure User extends UserColumns where
  schoolMemberships : Table PublicId SchoolMembership
  legalWards : Finset PublicId
  legalGuardians : Finset PublicId
deriving DecidableEq

/-- `User.primary_school`: the school of the first membership marked primary. -/
def User.primarySchool (u : User) : Except Exc PublicId :=
  match u.schoolMemberships.rows.find? (fun m => m.2.isPrimary) with
  | some m => .ok m.1
  | none => .error (.valueError "User has no primary school membership.")

/-! ## Rows as domain objects -/

def toUser (db : Objects) (id : PublicId) (model : UserModel) : User where
  toUserColumns := model.toUserColumns
  schoolMemberships := model.schoolMemberships.mapVals (fun school m =>
    { isPrimary := m.isPrimary
      roles := m.roles
      groups := db.groupMembers.leftOf ⟨id, school⟩ })
  legalWards := db.legalGuardians.rightOf id
  legalGuardians := db.legalGuardians.leftOf id

/-- The domain group of a row. The sender groups are converted in their turn, so a group
among its own sender groups is converted without end. -/
def toGroup (db : Objects) (id : PublicId) (model : GroupModel) : Except Exc Group :=
  if id ∈ db.emailSenderGroups.rightOf id then
    .error .recursionError
  else
    .ok
      { toGroupColumns := model.toGroupColumns
        school := model.school
        roles := model.roles
        memberRoles := model.memberRoles
        members := (db.groupMembers.rightOf id).image MembershipKey.user
        allowedEmailSendersUsers := db.emailSenderUsers.rightOf id
        allowedEmailSendersGroups := db.emailSenderGroups.rightOf id }

/-! ## Patches -/

def School.toJson [Runtime] (s : School) : School :=
  { s with udmProperties := Dict.normalise s.udmProperties }

def Group.toJson [Runtime] (g : Group) : Group :=
  { g with udmProperties := Dict.normalise g.udmProperties }

def User.toJson [Runtime] (u : User) : User :=
  { u with udmProperties := Dict.normalise u.udmProperties }

/-- A patch of a user: the patched document, and which relations its operations touch
(`_check_modify_operations`). -/
structure UserPatch where
  patched : User
  schoolMemberships : Bool
  legalGuardians : Bool
  legalWards : Bool

/-- The patched document of a school or group, if the documents differ. -/
def createPatch {α : Type} [DecidableEq α] (toJson : α → α) (src dst : α) : Option α :=
  if toJson src = toJson dst then none else some (toJson dst)

/-- The operations that lead from one user to another, as a patch. -/
def userPatch [Runtime] (src dst : User) : UserPatch where
  patched := dst.toJson
  schoolMemberships := src.schoolMemberships ≠ dst.schoolMemberships
  legalGuardians := src.legalGuardians ≠ dst.legalGuardians
  legalWards := src.legalWards ≠ dst.legalWards

def createUserPatch [Runtime] (src dst : User) : Option UserPatch :=
  if src.toJson = dst.toJson then none else some (userPatch src dst)

@[simp] theorem School.toJson_toJson [Runtime] (s : School) : s.toJson.toJson = s.toJson := by
  simp [School.toJson]

@[simp] theorem Group.toJson_toJson [Runtime] (g : Group) : g.toJson.toJson = g.toJson := by
  simp [Group.toJson]

@[simp] theorem User.toJson_toJson [Runtime] (u : User) : u.toJson.toJson = u.toJson := by
  simp [User.toJson]

theorem createPatch_eq_none {α : Type} [DecidableEq α] {toJson : α → α} {src dst : α} :
    createPatch toJson src dst = none ↔ toJson src = toJson dst := by
  unfold createPatch
  split <;> simp_all

theorem createPatch_eq_some {α : Type} [DecidableEq α] {toJson : α → α} {src dst d : α} :
    createPatch toJson src dst = some d ↔ toJson src ≠ toJson dst ∧ d = toJson dst := by
  unfold createPatch
  split <;> simp_all [eq_comm]

theorem createUserPatch_eq_none [Runtime] {src dst : User} :
    createUserPatch src dst = none ↔ src.toJson = dst.toJson := by
  unfold createUserPatch
  split <;> simp_all

theorem createUserPatch_eq_some [Runtime] {src dst : User} {p : UserPatch} :
    createUserPatch src dst = some p ↔ src.toJson ≠ dst.toJson ∧ p = userPatch src dst := by
  unfold createUserPatch
  split <;> simp_all [eq_comm]

/-! ## Validators -/

/-- `_WIN_INVALID_CHARS_RE`. -/
def winInvalidChar (c : Char) : Bool :=
  c ∈ ['<', '>', ':', '"', '/', '\\', '|', '?', '*'] || c.toNat ≤ 0x1f

/-- `_WIN_RESERVED_NAMES`. -/
def winReservedNames : List String :=
  ["CON", "PRN", "AUX", "NUL", "COM0", "COM1", "COM2", "COM3", "COM4", "COM5", "COM6", "COM7",
    "COM8", "COM9", "LPT0", "LPT1", "LPT2", "LPT3", "LPT4", "LPT5", "LPT6", "LPT7", "LPT8", "LPT9"]

/-- The text before the first occurrence of a character, `text.split(c)[0]`. -/
def splitHead (c : Char) (text : String) : String :=
  String.ofList (text.toList.takeWhile (· ≠ c))

/-- An ASCII letter or digit. -/
def asciiAlnum (c : Char) : Bool :=
  ('a' ≤ c && c ≤ 'z') || ('A' ≤ c && c ≤ 'Z') || ('0' ≤ c && c ≤ '9')

/-- `_SCHOOL_NAME_RE`. Its `$` also matches before a line feed that ends the text. -/
def schoolNameMatches (name : String) : Bool :=
  let body := if name.toList.getLast? = some '\n' then name.toList.dropLast else name.toList
  match body.head?, body.getLast? with
  | some a, some b =>
    asciiAlnum a && asciiAlnum b && body.all (fun c => asciiAlnum c || c == '-' || c == '_')
  | _, _ => false

/-- A value error with its message unless `p` holds. -/
def check (p : Prop) [Decidable p] (message : String) : Except Exc Unit :=
  require p (.valueError message)

/-- `UserValidator.validate`. -/
def UserValidator.validate [Runtime] (user : User) : Except Exc Unit := do
  check (user.name ≠ "") "User.name must not be empty."
  check (¬ user.name.toList.any winInvalidChar)
    ("User.name " ++ Runtime.repr user.name ++ " contains invalid characters.")
  check (user.name.toList.getLast? ≠ some ' ' ∧ user.name.toList.getLast? ≠ some '.')
    ("User.name " ++ Runtime.repr user.name ++ " must not end with a space or period.")
  check (user.name.toList.length ≤ 255) "User.name must not exceed 255 characters."
  check (Runtime.upper (splitHead '.' user.name) ∉ winReservedNames)
    ("User.name " ++ Runtime.repr user.name ++ " is a reserved Windows name.")
  check (user.firstname ≠ "") "User.firstname must not be empty."
  check (user.lastname ≠ "") "User.lastname must not be empty."
  check (user.recordUid ≠ "") "User.record_uid must not be empty."
  check (user.sourceUid ≠ "") "User.source_uid must not be empty."

/-- `GroupValidator.validate`. -/
def GroupValidator.validate (group : Group) : Except Exc Unit := do
  check (group.name ≠ "") "Group.name must not be empty."
  check (group.recordUid ≠ "") "Group.record_uid must not be empty."
  check (group.sourceUid ≠ "") "Group.source_uid must not be empty."
  check (group.roles ≠ ∅) "Group.roles must not be empty."

/-- `SchoolValidator.validate`. -/
def SchoolValidator.validate [Runtime] (school : School) : Except Exc Unit := do
  check (school.name ≠ "") "School.name must not be empty."
  check (schoolNameMatches school.name)
    ("Invalid school name " ++ Runtime.repr school.name ++ ": must start and end with an " ++
      "alphanumeric character and only contain letters, digits, hyphens, or underscores.")
  check (school.recordUid ≠ "") "School.record_uid must not be empty."
  check (school.sourceUid ≠ "") "School.source_uid must not be empty."

end Kelvin
