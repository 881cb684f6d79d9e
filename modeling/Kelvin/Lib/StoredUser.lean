import Kelvin.Api.GroupNames
import Kelvin.Data.Actions
import Kelvin.Lib.RoleOperations

/-!
# The user in the directory

The directory holds one object for a user. The import user of the lib is read from it, changed
in memory and saved by `move`, by a type conversion or by `modify`, each of which saves the
object more than once.

* `UdmUser`, `ImportUser`: the object of the directory and the object in memory.
* `Directory`: what the lib asks of the rest of the directory.
* `moveActions`, `renameActions`, `convertActions`, `modifyActions`: the checks and saves of the
  operations, in their order.
-/

namespace Kelvin

/-! ## Groups of a user -/

/-- The groups that a school has for its users of a role. -/
inductive RoleGroup where
  | students
  | teachers
  | legalGuardians
  | staff
  | schoolAdmins
deriving DecidableEq

/-- A group that a user is a member of. Classes and workgroups have the full name. -/
inductive UserGroup where
  | domainUsers (school : String)
  | roleGroup (role : RoleGroup) (school : String)
  | schoolClass (school name : String)
  | workgroup (school name : String)
  | other (school : Option String) (dn : String)
deriving DecidableEq

/-- The group is found by the search of `remove_from_groups_of_school`. -/
def UserGroup.ofSchool (cls : UserClass) (school : String) : UserGroup → Bool
  | .domainUsers s => s = school
  | .roleGroup role s => s = school ∧ (role ≠ .schoolAdmins ∨ cls = .schoolAdmin)
  | .schoolClass s _ => s = school
  | .workgroup s _ => s = school
  | .other s _ => s = some school

def UserClass.roleGroups : UserClass → List RoleGroup
  | .student => [.students]
  | .teacher => [.teachers]
  | .legalGuardian => [.legalGuardians]
  | .schoolAdmin => [.schoolAdmins]
  | .staff => [.staff]
  | .teachersAndStaff => [.teachers, .staff]
  | .examStudent => [.students]

/-- `setdefault(school, []).append(name)` for the groups of the user's schools. -/
def namesBySchool (schools : List Ou) (names : List (String × String)) :
    Table String (List String) :=
  (names.filter (fun n => n.1 ∈ schools.map (·.name))).foldl
    (fun table n => appendName table n.1 n.2) .empty

/-- `get_school_classes`. -/
def getSchoolClasses (groups : List UserGroup) (schools : List Ou) : Table String (List String) :=
  namesBySchool schools (groups.filterMap (fun
    | .schoolClass school name => some (school, name)
    | _ => none))

/-- `get_workgroups`. -/
def getWorkgroups (groups : List UserGroup) (schools : List Ou) : Table String (List String) :=
  namesBySchool schools (groups.filterMap (fun
    | .workgroup school name => some (school, name)
    | _ => none))

/-- The pairs of school and full name, as in `get_school_class_objs`. -/
def groupObjs (groups : Table String (List String)) : List (String × String) :=
  groups.rows.flatMap (fun entry => entry.2.map (fun name => (entry.1, fullName entry.1 name)))

/-- `groups_used`, with `get_specific_groups`. Staff has no classes. -/
def groupsUsed (cls : UserClass) (schools : List Ou)
    (schoolClasses workgroups : Table String (List String)) : List UserGroup :=
  schools.map (fun s => .domainUsers s.name) ++
    (if cls = .staff then [] else
      (groupObjs schoolClasses).map (fun g => .schoolClass g.1 g.2)) ++
    (groupObjs workgroups).map (fun g => .workgroup g.1 g.2) ++
    cls.roleGroups.flatMap (fun role => schools.map (fun s => .roleGroup role s.name))

/-! ## The objects -/

/-- The object of the directory. The position is the container of a class in a school. -/
structure UdmUser extends LibUser where
  name : String
  container : UserClass
  primaryGroup : UserGroup
  groups : List UserGroup
  attributes : Table String Json
deriving DecidableEq

/-- The object in memory. The attributes are those that no operation here looks into. -/
structure ImportUser extends LibUser where
  name : String
  schoolClasses : Table String (List String)
  workgroups : Table String (List String)
  attributes : Table String Json
deriving DecidableEq

/-- `get_import_user`. -/
def getImportUser (u : UdmUser) : ImportUser where
  toLibUser := u.toLibUser
  name := u.name
  schoolClasses := getSchoolClasses u.groups u.schools
  workgroups := getWorkgroups u.groups u.schools
  attributes := u.attributes

/-- What the lib asks of the rest of the directory. -/
structure Directory where
  /-- The school is among the known ones, in any letter case. -/
  knowsSchool : Ou → Bool
  /-- The names of the other accounts. -/
  otherNames : List String
  /-- The workgroup exists. -/
  hasWorkgroup : String → String → Bool
  /-- The checks of `ImportUser.validate` that raise, apart from those modelled. -/
  importValid : ImportUser → Bool
  /-- The checks of `validate` that note an error, apart from those modelled. -/
  libValid : ImportUser → Bool
  /-- The attributes that depend on the school and the name, such as `unixhome`. -/
  paths : UserClass → Ou → String → List (String × Json)
  /-- The status with which UDM rejects the change of an object, if it does. -/
  rejects : UdmUser → UdmUser → Option Nat
  /-- The order in which Python runs through a set of schools. -/
  setOrder : List Ou → List Ou
  setOrder_perm : ∀ schools, (setOrder schools).Perm schools

section Operations

variable [Runtime] (dir : Directory)

/-! ## Checks -/

/-- The checks of `ImportUser.validate` that raise. -/
def importChecks (u : ImportUser) : Bool :=
  u.getSchools.all dir.knowsSchool ∧ u.name ∉ dir.otherNames ∧ dir.importValid u

/-- The schools of a dictionary of groups are schools of the user, in any letter case. -/
def groupSchoolsValid (groups : Table String (List String)) (u : LibUser) : Bool :=
  groups.rows.all (fun entry =>
    Runtime.lower entry.1 ∈ u.getSchools.map (fun s => Runtime.lower s.name))

/-- `validate` raises nothing and notes no error. -/
def validateUser (u : ImportUser) : Bool :=
  importChecks dir u ∧ validateRoles u.toLibUser ∧
    groupSchoolsValid u.schoolClasses u.toLibUser ∧ groupSchoolsValid u.workgroups u.toLibUser ∧
    dir.libValid u

/-- A check of the object that is made whatever is stored. -/
def requireThat (ok : Bool) (status : Nat) : Action UdmUser Nat :=
  .check (fun _ => if ok then none else some status)

/-- A save that UDM may reject. -/
def udmSave (write : UdmUser → UdmUser) : List (Action UdmUser Nat) :=
  [.check (fun u => dir.rejects u (write u)), .save write]

/-! ## Moves -/

/-- `do_move`. -/
def movePosition (school : Ou) (u : UdmUser) : UdmUser :=
  { u with container := u.cls, school := school }

/-- `remove_from_groups_of_school`. The primary group stays. -/
def removeFromGroups (school : Ou) (u : UdmUser) : UdmUser :=
  { u with groups := u.groups.filter (fun g =>
      ¬ g.ofSchool u.cls school.name ∨ g = u.primaryGroup) }

def setAttributes (values : List (String × Json)) (attributes : Table String Json) :
    Table String Json :=
  values.foldl (fun table v => table.insert v.1 v.2) attributes

/-- `do_school_change`. The object in memory has `libSchools`. -/
def changeGroups (oldSchool school : Ou) (libSchools : List Ou) (u : UdmUser) : UdmUser :=
  let used := groupsUsed u.cls libSchools
    ((getSchoolClasses u.groups u.schools).erase oldSchool.name)
    ((getWorkgroups u.groups u.schools).erase oldSchool.name)
  let attributes := setAttributes (dir.paths u.cls school u.name) u.attributes
  { u with
    primaryGroup := .domainUsers school.name
    groups := (u.groups.erase u.primaryGroup ++ used).dedup
    schools := (if school ∈ u.schools then u.schools else u.schools ++ [school]).erase oldSchool
    attributes :=
      if attributes.find? "departmentNumber" = some (.arr [.str oldSchool.name]) then
        attributes.insert "departmentNumber" (.arr [.str school.name])
      else attributes }

def moveRoles (oldSchool school : Ou) (u : UdmUser) : UdmUser :=
  { u with roles := doMoveRoles u.cls u.roles oldSchool school }

/-- The saves of `do_move` to another school. -/
def moveActions (oldSchool school : Ou) (libSchools : List Ou) : List (Action UdmUser Nat) :=
  udmSave dir (movePosition school) ++ udmSave dir (removeFromGroups oldSchool) ++
    udmSave dir (changeGroups dir oldSchool school libSchools) ++
    udmSave dir (moveRoles oldSchool school)

def renameTo (name : String) (u : UdmUser) : UdmUser := { u with name := name }

/-! ## Type conversion -/

def UserClass.roles : UserClass → List String
  | .student => ["pupil"]
  | .teacher => ["teacher"]
  | .legalGuardian => ["legal_guardian"]
  | .schoolAdmin => ["school_admin"]
  | .staff => ["staff"]
  | .teachersAndStaff => ["teacher", "staff"]
  | .examStudent => ["pupil"]

/-- `set(a.roles) == set(b.roles)`. -/
def UserClass.sameRoles (a b : UserClass) : Bool := a.roles.toFinset = b.roles.toFinset

/-- `roles_add`. -/
def UserClass.rolesAdd : UserClass → List String
  | .schoolAdmin => ["school_admin"]
  | .staff => ["staff"]
  | .student => ["student"]
  | .legalGuardian => ["legal_guardian"]
  | .teachersAndStaff => ["staff", "teacher"]
  | .teacher => ["teacher"]
  | .examStudent => ["student"]

/-- `roles_rm`. -/
def UserClass.rolesRm : UserClass → List String
  | .schoolAdmin => ["student", "teacher", "staff", "legal_guardian"]
  | .staff => ["student", "teacher", "school_admin", "legal_guardian"]
  | .student => ["staff", "teacher", "school_admin", "legal_guardian"]
  | .legalGuardian => ["student", "teacher", "staff", "school_admin"]
  | .teachersAndStaff => ["student", "school_admin", "legal_guardian"]
  | .teacher => ["staff", "student", "school_admin", "legal_guardian"]
  | .examStudent => ["staff", "teacher", "school_admin", "legal_guardian"]

/-- The groups that `_groups` removes. -/
def UserClass.groupsRm : UserClass → List RoleGroup
  | .schoolAdmin => [.students, .teachers, .staff]
  | .staff => [.students, .teachers, .schoolAdmins]
  | .student => [.staff, .teachers, .schoolAdmins]
  | .legalGuardian => [.students, .teachers, .staff]
  | .teachersAndStaff => [.students, .schoolAdmins]
  | .teacher => [.staff, .students, .schoolAdmins]
  | .examStudent => [.staff, .teachers, .schoolAdmins]

/-- `_roles`. -/
def convertedRoles (target : UserClass) (roles : List String) (schools : List Ou) : List String :=
  let kept := roles.filter (fun text =>
    ¬ target.rolesRm.any (fun role => startsWith text (role ++ ":school:")))
  let added := target.rolesAdd.flatMap (fun role =>
    schools.map (fun s => roleText role "school" s.name))
  sortedTexts (kept ++ added).dedup

/-- `f"cn={school}-{name},{cn}"` for the additional classes and workgroups. -/
def additionalGroups (group : String → String → UserGroup) (names : Table String (List String)) :
    List UserGroup :=
  names.rows.flatMap (fun entry =>
    entry.2.map (fun name => group entry.1 (schoolPrefix entry.1 ++ name)))

/-- `_groups`. -/
def convertedGroups (target : UserClass) (u : UdmUser)
    (schoolClasses workgroups : Table String (List String)) : List UserGroup :=
  let removed := target.groupsRm.flatMap (fun role =>
      u.schools.map (fun s => UserGroup.roleGroup role s.name)) ++
    (if target = .staff then
      (groupObjs (getSchoolClasses u.groups u.schools)).map (fun g => .schoolClass g.1 g.2)
    else [])
  let added := target.roleGroups.flatMap (fun role =>
      u.schools.map (fun s => UserGroup.roleGroup role s.name)) ++
    (if target = .staff then [] else additionalGroups .schoolClass schoolClasses) ++
    additionalGroups .workgroup workgroups
  (u.groups.filter (fun g => g ∉ removed) ++ added).dedup

/-- Every school of a user that becomes a student has a class. -/
def hasClasses (u : UdmUser) (schoolClasses : Table String (List String)) : Bool :=
  u.schools.all (fun s =>
    ((getSchoolClasses u.groups u.schools).find? s.name).getD [] ≠ [] ∨
      (schoolClasses.find? s.name).getD [] ≠ [])

/-- The `TypeError`s of `convert`. -/
def convertAllowed (target : UserClass) (u : UdmUser)
    (schoolClasses : Table String (List String)) : Bool :=
  u.cls ≠ .examStudent ∧
    (target = .student → hasClasses u schoolClasses ∧ u.cls ≠ .schoolAdmin)

def convertTo (target : UserClass) (schoolClasses workgroups : Table String (List String))
    (u : UdmUser) : UdmUser :=
  { u with
    cls := target
    container := target
    groups := convertedGroups target u schoolClasses workgroups
    roles := convertedRoles target u.roles u.schools }

/-- `convert`. -/
def convertActions (target : UserClass) (schoolClasses workgroups : Table String (List String)) :
    List (Action UdmUser Nat) :=
  .check (fun u => if convertAllowed target u schoolClasses then none else some 400) ::
    udmSave dir (convertTo target schoolClasses workgroups)

/-! ## Modifications -/

/-- The removals of `do_modify`. A user without a school is deleted, and the following reload
fails. -/
def removalActions (school : Ou) (schools : List Ou) : List Ou → List (Action UdmUser Nat)
  | [] => []
  | s :: order =>
    match schools.erase s with
    | [] => [.check (fun _ => some 500)]
    | next :: rest =>
      if school = s then
        moveActions dir s next (next :: rest) ++ removalActions next (next :: rest) order
      else udmSave dir (removeFromGroups s) ++ removalActions school (next :: rest) order

/-- The group stays if it is still wanted; other groups than classes and workgroups always do. -/
def staysIn (u : ImportUser) (mandatory : List UserGroup) (g : UserGroup) : Bool :=
  match g with
  | .schoolClass school name => g ∈ mandatory ∨
      name ∈ (u.schoolClasses.find? school).getD [] ∨
      getRelativeName ⟨name, school, []⟩ ∈ (u.schoolClasses.find? school).getD []
  | .workgroup school name => g ∈ mandatory ∨
      name ∈ (u.workgroups.find? school).getD [] ∨
      getRelativeName ⟨name, school, []⟩ ∈ (u.workgroups.find? school).getD []
  | _ => true

/-- The last save of `do_modify`. The position stays. -/
def modifyTo (u : ImportUser) (stored : UdmUser) : UdmUser :=
  let mandatory := groupsUsed u.cls u.schools u.schoolClasses u.workgroups
  let kept := stored.groups.filter (staysIn u mandatory)
  { stored with
    name := u.name
    schools := u.schools
    groups := kept ++ mandatory.filter (fun g => g ∉ kept)
    -- a move that `remove_from_school` made has rewritten the role strings
    roles := if stored.school = u.school then u.roles else stored.roles
    attributes := u.attributes.insert "departmentNumber" (.arr [.str stored.school.name]) }

/-- The workgroups that the user is not yet in exist. -/
def workgroupsExist (u : ImportUser) (stored : UdmUser) : Bool :=
  (groupObjs u.workgroups).all (fun g =>
    g.2 ∈ ((getWorkgroups stored.groups u.schools).find? g.1).getD [] ∨ dir.hasWorkgroup g.1 g.2)

/-- The object in memory with its role strings brought in step with its schools. -/
def withUpdatedRoles (u : ImportUser) : ImportUser :=
  { u with roles := updateUcsschoolRoles u.cls u.roles u.getSchools }

/-- `modify` of an object in memory, with the schools that the directory has for it. -/
def modifyActions (u : ImportUser) (storedSchools : List Ou) : List (Action UdmUser Nat) :=
  let order := dir.setOrder (storedSchools.filter (fun s => s ∉ u.schools))
  .check (fun stored => if workgroupsExist dir u stored then none else some 400) ::
    requireThat (validateUser dir (withUpdatedRoles u)) 400 ::
    removalActions dir u.school storedSchools order ++
    udmSave dir (modifyTo (withUpdatedRoles u))

end Operations

end Kelvin
