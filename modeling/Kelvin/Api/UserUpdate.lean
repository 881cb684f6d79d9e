import Kelvin.Api.CustomRoles
import Kelvin.Lib.StoredUser

/-!
# Updates of a user by the v1 resource

`PATCH` and `PUT` of the v1 user resource work in four steps: the user is moved to another
school, renamed, converted to another class and modified. Each step reads the user again and
saves it.

* `PatchRequest`, `UserCreateModel`: the requests, with the names that their URLs stand for.
* `changeSchoolActions`, `renameActions`, `changeRolesActions`: the first three steps.
* `partialUpdate`, `completeUpdate`: the updates, as lists of checks and saves.
* `rejected_update`: what a rejected update leaves.
-/

namespace Kelvin

/-- A `PATCH`, after `to_modify_kwargs`. The attributes are the other fields, in their order. -/
structure PatchRequest where
  name : Option (Option String)
  school : Option Ou
  schools : Option (List Ou)
  roles : Option (List SchoolUserRole)
  schoolClasses : Option (Table String (List String))
  workgroups : Option (Table String (List String))
  ucsschoolRoles : Option (List String)
  attributes : List (String × Json)
  /-- The names behind the URLs of guardians and wards can be told. -/
  references : Bool
  schools_ne : schools ≠ some []

/-- The body of a `POST` or `PUT`. No workgroups means that the body does not name them. -/
structure UserCreateModel where
  name : Option String
  school : Option Ou
  schools : List Ou
  roles : List SchoolUserRole
  schoolClasses : Table String (List String)
  workgroups : Option (Table String (List String))
  ucsschoolRoles : List String
  attributes : List (String × Json)
  references : Bool
  school_or_schools : school ≠ none ∨ schools ≠ []

/-- `sorted(schools)[0]`. -/
def firstSchool (schools : List Ou) : Option Ou :=
  (schools.insertionSort (fun a b => a.name ≤ b.name)).head?

/-- `role_string`. -/
def UserClass.roleString : UserClass → String
  | .student => "student"
  | .teacher => "teacher"
  | .legalGuardian => "legal_guardian"
  | .schoolAdmin => "school_admin"
  | .staff => "staff"
  | .teachersAndStaff => "teacher_and_staff"
  | .examStudent => "student"

/-- The attribute is given and not empty. -/
def gives (attributes : List (String × Json)) (name : String) : Bool :=
  attributes.any (fun a => a.1 = name ∧ a.2 ≠ .arr [] ∧ a.2 ≠ .null)

/-- The check of the parameters `legal_guardians` and `legal_wards`. No role name contains
another one. -/
def guardianParameters (attributes : List (String × Json)) (cls : UserClass)
    (roles : List SchoolUserRole) : Bool :=
  [("legal_guardians", SchoolUserRole.student), ("legal_wards", .legalGuardian)].all (fun p =>
    !gives attributes p.1 || cls.roleString = p.2.name || p.2 ∈ roles)

/-- `from_lib_model` of the updated user, which raises for a role string that it cannot show. -/
def showUser : Action UdmUser Nat :=
  .check (fun u => if showsRoles u.roles then none else some 500)

section Updates

variable [Runtime] (dir : Directory)

/-- `change_school`: the move of a user to another primary school. -/
def changeSchoolActions (u : UdmUser) (newSchool : Ou) (newSchools : List Ou) :
    List (Action UdmUser Nat) :=
  let current := if newSchools = [] then u.schools else newSchools
  let libSchools := (u.schools ++ [newSchool] ++ newSchools).dedup
  let moved := (libSchools.erase u.school)
  let moved := if newSchool ∈ moved then moved else moved ++ [newSchool]
  requireThat (newSchool ∈ current) 422 ::
    if newSchool = u.school then []
    else
      -- neither `UnknownSchoolName` nor `UserValidationError` is caught
      requireThat (validateUser dir { getImportUser u with schools := libSchools }) 500 ::
        moveActions dir u.school newSchool moved

/-- The move to the school that a request leads to, if there is one. -/
def moveStep (u : UdmUser) (newSchool : Option Ou) (newSchools : List Ou) :
    List (Action UdmUser Nat) :=
  match newSchool with
  | none => []
  | some school => changeSchoolActions dir u school newSchools

/-- `rename_user`. Only what raises makes the validation fail. -/
def renameActions (u : UdmUser) (name : Option String) : List (Action UdmUser Nat) :=
  match name with
  | none => [requireThat false 400]
  | some name =>
    if name = u.name then []
    else
      .check (fun v =>
        if importChecks dir { getImportUser v with name := name } then none else some 400) ::
        udmSave dir (renameTo name)

/-- `change_roles`. -/
def changeRolesActions (u : UdmUser) (roles : List SchoolUserRole)
    (schoolClasses workgroups : Table String (List String)) : List (Action UdmUser Nat) :=
  match getLibClass roles with
  | none => [requireThat false 500]
  | some target =>
    if u.cls.sameRoles target then [] else convertActions dir target schoolClasses workgroups

/-! ## PATCH -/

/-- The primary school and the schools that a `PATCH` leads to. -/
def PatchRequest.newSchools (req : PatchRequest) : Option (List Ou) :=
  match req.school, req.schools with
  | _, some schools => some schools
  | some school, none => some [school]
  | none, none => none

def PatchRequest.newSchool (req : PatchRequest) (u : UdmUser) : Option Ou :=
  match req.school, req.newSchools with
  | some school, _ => some school
  | none, some schools => if u.school ∈ schools then none else firstSchool schools
  | none, none => none

def PatchRequest.renameStep (req : PatchRequest) (u : UdmUser) : List (Action UdmUser Nat) :=
  match req.name with
  | none => []
  | some name => renameActions dir u name

def PatchRequest.rolesStep (req : PatchRequest) (u : UdmUser) : List (Action UdmUser Nat) :=
  match req.roles with
  | none => []
  | some roles => changeRolesActions dir u roles (req.schoolClasses.getD .empty)
      (req.workgroups.getD .empty)

/-- The first three steps of a `PATCH`. -/
def PatchRequest.steps (req : PatchRequest) (u : UdmUser) : List (Action UdmUser Nat) :=
  moveStep dir u (req.newSchool u) (req.newSchools.getD []) ++ req.renameStep dir u ++
    req.rolesStep dir u

/-- The object in memory with the values of a `PATCH`. -/
def PatchRequest.setAll (req : PatchRequest) (u : UdmUser) : ImportUser :=
  let current := getImportUser u
  { current with
    schools := req.newSchools.getD current.schools
    schoolClasses := req.schoolClasses.getD current.schoolClasses
    workgroups := req.workgroups.getD current.workgroups
    roles := match req.ucsschoolRoles with
      | none => current.roles
      | some texts => keptRoles texts current.roles
    attributes := setAttributes req.attributes current.attributes }

/-- Some value of a `PATCH` differs from the present one. The names of the roles are compared
with those of the class. -/
def PatchRequest.changes (req : PatchRequest) (u : UdmUser) : Bool :=
  req.setAll u ≠ getImportUser u ∨
    (req.roles.any (fun roles => roles.map (·.name) ≠ u.cls.roles))

/-- `partial_update`, for a user that is found. -/
def partialUpdate (req : PatchRequest) (u : UdmUser) : List (Action UdmUser Nat) :=
  let steps := req.steps dir u
  let v := Action.saved steps u
  requireThat (guardianParameters req.attributes u.cls (req.roles.getD [])) 400 ::
    steps ++
    [requireThat (req.ucsschoolRoles.all (fun texts =>
        roleStringsValid texts ∧ roleStringsValid v.roles)) 500,
      requireThat req.references 404] ++
    (if req.changes v then modifyActions dir (req.setAll v) v.schools else []) ++ [showUser]

/-! ## PUT -/

/-- The schools of the lib's object, which has its primary school if no schools are given. -/
def UserCreateModel.libSchools (req : UserCreateModel) : List Ou :=
  if req.schools = [] then req.school.toList else req.schools

/-- The primary school that a `PUT` leads to. -/
def UserCreateModel.newSchool (req : UserCreateModel) (u : UdmUser) : Option Ou :=
  match req.school with
  | some school => some school
  | none => if u.school ∈ req.libSchools then none else firstSchool req.libSchools

/-- The role strings that a `POST` or `PUT` passes to the lib. -/
def UserCreateModel.libRoles (req : UserCreateModel) : List String :=
  requestRoles req.roles req.libSchools req.ucsschoolRoles

def UserCreateModel.steps (req : UserCreateModel) (u : UdmUser) : List (Action UdmUser Nat) :=
  moveStep dir u (req.newSchool u) req.libSchools ++ renameActions dir u req.name ++
    changeRolesActions dir u req.roles req.schoolClasses
      (req.workgroups.getD (getImportUser u).workgroups)

/-- `make_schools`. -/
def makeSchools (schools : List Ou) (school : Ou) : List Ou :=
  if schools = [] then [school] else schools.dedup

/-- `make_ucsschool_roles`. -/
def makeUcsschoolRoles (cls : UserClass) (roles : List String) (schools : List Ou) : List String :=
  if roles = [] then
    cls.defaultRoles.flatMap (fun role => schools.map (fun s => roleText role "school" s.name))
  else roles

/-- The object in memory with the values of a `PUT`; `old` is the user before the update. -/
def UserCreateModel.setAll (req : UserCreateModel) (old u : UdmUser) : ImportUser :=
  { getImportUser u with
    schools := req.libSchools
    schoolClasses := req.schoolClasses
    workgroups := req.workgroups.getD (getImportUser old).workgroups
    roles := req.libRoles
    attributes := setAttributes req.attributes u.attributes }

/-- `prepare_attributes`, for schools and role strings. -/
def prepareAttributes (u : ImportUser) : ImportUser :=
  let schools := makeSchools u.schools u.school
  { u with schools := schools, roles := makeUcsschoolRoles u.cls u.roles schools }

/-- `complete_update`, for a user that is found. -/
def completeUpdate (req : UserCreateModel) (u : UdmUser) : List (Action UdmUser Nat) :=
  let steps := req.steps dir u
  let v := Action.saved steps u
  let new := req.setAll u v
  [requireThat (validateUcsschoolRoles req.ucsschoolRoles) 422,
    requireThat (roleStringsValid req.ucsschoolRoles) 500,
    requireThat (guardianParameters req.attributes u.cls []) 400] ++
    steps ++
    [requireThat req.references 404] ++
    (if new ≠ getImportUser v then modifyActions dir (prepareAttributes new) v.schools else []) ++
    [showUser]

/-! ## Rejected updates -/

inductive UpdateRequest where
  | patch (req : PatchRequest)
  | put (req : UserCreateModel)

/-- The checks and saves of an update. -/
def UpdateRequest.actions (u : UdmUser) : UpdateRequest → List (Action UdmUser Nat)
  | .patch req => partialUpdate dir req u
  | .put req => completeUpdate dir req u

/-- The first three steps of an update. -/
def UpdateRequest.steps (u : UdmUser) : UpdateRequest → List (Action UdmUser Nat)
  | .patch req => req.steps dir u
  | .put req => req.steps dir u

/-- The removals from schools, which a modification starts with. -/
def removals (new : ImportUser) (storedSchools : List Ou) : List (Action UdmUser Nat) :=
  removalActions dir new.school storedSchools
    (dir.setOrder (storedSchools.filter (fun s => s ∉ new.schools)))

/-- The removals of an update. -/
def UpdateRequest.removals (u : UdmUser) (req : UpdateRequest) : List (Action UdmUser Nat) :=
  let v := Action.saved (req.steps dir u) u
  match req with
  | .patch req => if req.changes v then Kelvin.removals dir (req.setAll v) v.schools else []
  | .put req =>
    let new := req.setAll u v
    if new ≠ getImportUser v then Kelvin.removals dir (prepareAttributes new) v.schools else []

/-- The saves of an update before the last one. -/
def UpdateRequest.earlySaves (u : UdmUser) (req : UpdateRequest) : List (UdmUser → UdmUser) :=
  Action.saves (req.steps dir u) ++ Action.saves (req.removals dir u)

/-- The primary school, the schools, the name and the roles that an update leads to. -/
def UpdateRequest.newSchool (u : UdmUser) : UpdateRequest → Option Ou
  | .patch req => req.newSchool u
  | .put req => req.newSchool u

def UpdateRequest.newSchools (u : UdmUser) : UpdateRequest → List Ou
  | .patch req => req.newSchools.getD u.schools
  | .put req => makeSchools req.libSchools u.school

def UpdateRequest.newName : UpdateRequest → Option String
  | .patch req => req.name.join
  | .put req => req.name

def UpdateRequest.newClass : UpdateRequest → Option UserClass
  | .patch req => req.roles.bind getLibClass
  | .put req => getLibClass req.roles

/-- The request asks for no move, no other name, no conversion and no removal from a school. -/
structure UpdateRequest.OnlyModifies (req : UpdateRequest) (u : UdmUser) : Prop where
  school : ∀ s ∈ req.newSchool u, s = u.school
  name : ∀ n ∈ req.newName, n = u.name
  cls : ∀ c ∈ req.newClass, u.cls.sameRoles c = true
  schools : ∀ s ∈ u.schools, s ∈ req.newSchools u

end Updates

@[simp] theorem saves_requireThat {ok : Bool} {status : Nat} {as : List (Action UdmUser Nat)} :
    Action.saves (requireThat ok status :: as) = Action.saves as := rfl

@[simp] theorem saves_check {reject : UdmUser → Option Nat} {as : List (Action UdmUser Nat)} :
    Action.saves (.check reject :: as) = Action.saves as := rfl

@[simp] theorem saves_udmSave {dir : Directory} {write : UdmUser → UdmUser} :
    Action.saves (udmSave dir write) = [write] := rfl

theorem run_showUser {u after : UdmUser} {status : Nat}
    (h : Action.run [showUser] u = (some status, after)) : status = 500 := by
  simp only [showUser, Action.run] at h
  split at h
  · next hreject =>
    split at hreject
    · cases hreject
    · cases hreject
      cases h
      rfl
  · cases h

section Updates

variable [Runtime] {dir : Directory}

omit [Runtime] in
/-- The last save and the reply reject with a client error only before the save. -/
theorem run_lastSave {write : UdmUser → UdmUser} {u after : UdmUser} {status : Nat}
    (h : Action.run (udmSave dir write ++ [showUser]) u = (some status, after))
    (hstatus : status < 500) : after = u := by
  simp only [udmSave, List.cons_append, List.nil_append, Action.run] at h
  split at h
  · cases h
    rfl
  · have := run_showUser h
    omega

/-- An update that ends with a modification and the reply, rejected with a client error, leaves
some of its saves before the last one. -/
theorem rejected_early {front : List (Action UdmUser Nat)} {changed : Prop} [Decidable changed]
    {new : ImportUser} {storedSchools : List Ou} {u after : UdmUser} {status : Nat}
    {early : List (UdmUser → UdmUser)}
    (h : Action.run (front ++ (if changed then modifyActions dir new storedSchools else []) ++
      [showUser]) u = (some status, after)) (hstatus : status < 500)
    (hearly : early = Action.saves front ++
      Action.saves (if changed then removals dir new storedSchools else [])) :
    ∃ k ≤ early.length, after = Action.apply (early.take k) u := by
  subst hearly
  by_cases hchanged : changed
  · have hsplit : front ++ modifyActions dir new storedSchools ++ [showUser] =
        (front ++ (.check (fun stored =>
            if workgroupsExist dir new stored then none else some 400) ::
          requireThat (validateUser dir (withUpdatedRoles new)) 400 ::
          removals dir new storedSchools)) ++
        (udmSave dir (modifyTo (withUpdatedRoles new)) ++ [showUser]) := by
      simp [modifyActions, removals]
    rw [if_pos hchanged, hsplit] at h
    rw [if_pos hchanged]
    rcases Action.run_append_some h with hfront | hlast
    · simpa using Action.rejected_mem hfront
    · refine ⟨_, le_rfl, ?_⟩
      rw [run_lastSave hlast hstatus, List.take_length]
      simp [Action.saved]
  · rw [if_neg hchanged, List.append_nil] at h
    rw [if_neg hchanged]
    rcases Action.run_append_some h with hfront | hlast
    · simpa using Action.rejected_mem hfront
    · have := run_showUser hlast
      omega

/-- A rejected update leaves a number of its first saves. -/
theorem rejected_prefix {req : UpdateRequest} {u after : UdmUser} {status : Nat}
    (h : Action.run (req.actions dir u) u = (some status, after)) (hstatus : status < 500) :
    ∃ k ≤ (req.earlySaves dir u).length,
      after = Action.apply ((req.earlySaves dir u).take k) u := by
  cases req with
  | patch req =>
    refine rejected_early h hstatus (congrArg₂ (· ++ ·) ?_ rfl)
    simp [UpdateRequest.steps]
  | put req =>
    refine rejected_early h hstatus (congrArg₂ (· ++ ·) ?_ rfl)
    simp [UpdateRequest.steps]

theorem saves_changeSchoolActions_self {u : UdmUser} {newSchools : List Ou} :
    Action.saves (changeSchoolActions dir u u.school newSchools) = [] := by
  simp [changeSchoolActions]

omit [Runtime] in
theorem saves_renameActions {u : UdmUser} {name : Option String} (h : ∀ n ∈ name, n = u.name) :
    Action.saves (renameActions dir u name) = [] := by
  cases name with
  | none => rfl
  | some n =>
    have hn : n = u.name := h n rfl
    simp [renameActions, hn]

omit [Runtime] in
theorem saves_changeRolesActions {u : UdmUser} {roles : List SchoolUserRole}
    {schoolClasses workgroups : Table String (List String)}
    (h : ∀ c ∈ getLibClass roles, u.cls.sameRoles c = true) :
    Action.saves (changeRolesActions dir u roles schoolClasses workgroups) = [] := by
  unfold changeRolesActions
  split
  · rfl
  · next target htarget =>
    rw [if_pos (h target htarget)]
    rfl

omit [Runtime] in
/-- Without a removed school, nothing is saved before the modification. -/
theorem removals_eq_nil {new : ImportUser} {storedSchools : List Ou}
    (h : ∀ s ∈ storedSchools, s ∈ new.schools) : removals dir new storedSchools = [] := by
  have hnone : storedSchools.filter (fun s => s ∉ new.schools) = [] := by
    rw [List.filter_eq_nil_iff]
    intro s hs
    simpa using h s hs
  have horder : dir.setOrder [] = [] := List.perm_nil.mp (dir.setOrder_perm [])
  rw [removals, hnone, horder]
  rfl

theorem saves_moveStep {u : UdmUser} {newSchool : Option Ou} {newSchools : List Ou}
    (h : ∀ s ∈ newSchool, s = u.school) :
    Action.saves (moveStep dir u newSchool newSchools) = [] := by
  cases newSchool with
  | none => rfl
  | some school =>
    have hschool : school = u.school := h school rfl
    subst hschool
    exact saves_changeSchoolActions_self

theorem saves_steps {req : UpdateRequest} {u : UdmUser} (h : req.OnlyModifies u) :
    Action.saves (req.steps dir u) = [] := by
  cases req with
  | patch req =>
    simp only [UpdateRequest.steps, PatchRequest.steps, Action.saves_append,
      List.append_eq_nil_iff]
    refine ⟨⟨saves_moveStep h.school, ?_⟩, ?_⟩
    · unfold PatchRequest.renameStep
      split
      · rfl
      · next name hname =>
        apply saves_renameActions
        intro n hn
        apply h.name n
        simpa [UpdateRequest.newName, hname] using hn
    · unfold PatchRequest.rolesStep
      split
      · rfl
      · next roles hroles =>
        apply saves_changeRolesActions
        intro c hc
        apply h.cls c
        simpa [UpdateRequest.newClass, hroles] using hc
  | put req =>
    simp only [UpdateRequest.steps, UserCreateModel.steps, Action.saves_append,
      List.append_eq_nil_iff]
    exact ⟨⟨saves_moveStep h.school, saves_renameActions h.name⟩, saves_changeRolesActions h.cls⟩

theorem earlySaves_eq_nil {req : UpdateRequest} {u : UdmUser} (h : req.OnlyModifies u) :
    req.earlySaves dir u = [] := by
  have hsteps : Action.saves (req.steps dir u) = [] := saves_steps h
  have hsame : Action.saved (req.steps dir u) u = u := by
    rw [Action.saved, hsteps]
    rfl
  rw [UpdateRequest.earlySaves, hsteps, List.nil_append]
  cases req with
  | patch req =>
    have hremovals : removals dir (req.setAll u) u.schools = [] := removals_eq_nil h.schools
    simp only [UpdateRequest.removals, hsame, hremovals, ite_self]
    rfl
  | put req =>
    have hremovals : removals dir (prepareAttributes (req.setAll u u)) u.schools = [] :=
      removals_eq_nil h.schools
    simp only [UpdateRequest.removals, hsame, hremovals, ite_self]
    rfl

/-- A `PATCH` or `PUT` that is rejected with a client error leaves a number of the saves that it
makes before the last one, in their order. It leaves nothing if it asks for no move, no other
name, no conversion and no removal from a school. -/
theorem rejected_update {req : UpdateRequest} {u after : UdmUser} {status : Nat}
    (h : Action.run (req.actions dir u) u = (some status, after)) (hstatus : status < 500) :
    (∃ k ≤ (req.earlySaves dir u).length,
        after = Action.apply ((req.earlySaves dir u).take k) u) ∧
      (req.OnlyModifies u → after = u) := by
  obtain ⟨k, hk, hafter⟩ := rejected_prefix h hstatus
  refine ⟨⟨k, hk, hafter⟩, fun hsame => ?_⟩
  rw [hafter, earlySaves_eq_nil hsame, List.take_nil]
  rfl

end Updates

section Concrete

attribute [local instance] asciiRuntime

/-- A directory in which the name `bert` is taken. -/
def bertDirectory : Directory where
  knowsSchool _ := true
  otherNames := ["bert"]
  hasWorkgroup _ _ := true
  importValid _ := true
  libValid _ := true
  paths _ _ _ := []
  rejects _ _ := none
  setOrder schools := schools
  setOrder_perm := List.Perm.refl

/-- A student of the school `A`. -/
def anna : UdmUser where
  cls := .student
  school := ouNamedA
  schools := [ouNamedA]
  roles := ["student:school:A"]
  name := "anna"
  container := .student
  primaryGroup := .domainUsers "A"
  groups := [.domainUsers "A", .roleGroup .students "A", .schoolClass "A" "A-1a"]
  attributes := .empty

theorem noSchools_ne : (none : Option (List Ou)) ≠ some [] := by simp

/-- `{"school": ".../schools/B", "name": "bert"}`. -/
def moveAndRename : UpdateRequest := .patch
  { name := some (some "bert"), school := some ouNamedB, schools := none, roles := none,
    schoolClasses := none, workgroups := none, ucsschoolRoles := none, attributes := [],
    references := true, schools_ne := noSchools_ne }

/-- The user after the move to the school `B`. -/
def annaMoved : UdmUser :=
  { anna with
    school := ouNamedB
    schools := [ouNamedB]
    roles := ["student:school:B"]
    primaryGroup := .domainUsers "B"
    groups := [.domainUsers "B", .roleGroup .students "B"] }

theorem moveAndRename_run : Action.run (moveAndRename.actions bertDirectory anna) anna =
    (some 400, annaMoved) := by decide

theorem rejected_moveAndRename :
    (∃ k ≤ (moveAndRename.earlySaves bertDirectory anna).length,
        annaMoved = Action.apply ((moveAndRename.earlySaves bertDirectory anna).take k) anna) ∧
      (moveAndRename.OnlyModifies anna → annaMoved = anna) :=
  rejected_update moveAndRename_run (by decide)

/-- A `PATCH` with another school and a name that is taken is rejected, and the user is moved. -/
theorem rejected_after_move :
    ∃ dir req u status after, Action.run (UpdateRequest.actions dir u req) u =
        (some status, after) ∧ 400 ≤ status ∧ status < 500 ∧ after.school ≠ u.school ∧
      after.roles ≠ u.roles :=
  ⟨bertDirectory, moveAndRename, anna, 400, annaMoved, by decide, by decide, by decide,
    by decide, by decide⟩

end Concrete

end Kelvin
