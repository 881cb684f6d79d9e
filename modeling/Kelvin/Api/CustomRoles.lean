import Kelvin.Lib.SchoolRoles

/-!
# Role strings of a request

A v1 request can give role strings. Those of the context type `school` are left out, since they
follow from the roles and schools of the user; the others are stored.

* `getRoleInfo`, `isSchoolRoleString`: a role string taken apart, and its classification. A
  string of a known context type with an unknown role counts as a school role string.
* `requestRoles`: the role strings of a `UserCreateModel` for the lib.
* `keptRoles`: the role strings of a `PATCH` for the lib.
* `isSchoolRoleString_iff`: the classification, for well-formed role strings.
-/

namespace Kelvin

inductive SchoolUserRole where
  | schoolAdmin
  | staff
  | student
  | legalGuardian
  | teacher
deriving DecidableEq

def SchoolUserRole.name : SchoolUserRole → String
  | .schoolAdmin => "school_admin"
  | .staff => "staff"
  | .student => "student"
  | .legalGuardian => "legal_guardian"
  | .teacher => "teacher"

/-- `as_lib_role`. -/
def SchoolUserRole.asLibRole (role : SchoolUserRole) (school : Ou) : String :=
  roleText role.name "school" school.name

/-- `get_lib_class`, with `make_import_user`. There is no class for no role. -/
def getLibClass (roles : List SchoolUserRole) : Option UserClass :=
  if roles = [] then none
  else if .student ∈ roles then some .student
  else if .teacher ∈ roles then
    if .staff ∈ roles then some .teachersAndStaff else some .teacher
  else if .staff ∈ roles then some .staff
  else if .legalGuardian ∈ roles then some .legalGuardian
  else some .schoolAdmin

inductive RoleStringError where
  | invalidUcsschoolRoleString
  | unknownRole
deriving DecidableEq

/-- `get_role_info`. -/
def getRoleInfo (text : String) : Except RoleStringError (String × String × String) :=
  match splitThree text with
  | none => .error .invalidUcsschoolRoleString
  | some (role, contextType, context) =>
    if contextType ∈ ["school", "exam"] ∧ role ∉ allRoles then .error .unknownRole
    else .ok (role, contextType, context)

/-- `_is_school_role_string`, unless it raises. -/
def isSchoolRoleString (text : String) : Option Bool :=
  match getRoleInfo text with
  | .ok (_, contextType, _) => some (contextType = "school")
  | .error .unknownRole => some true
  | .error .invalidUcsschoolRoleString => none

/-- `validate_ucsschool_roles`. The first unknown role ends the loop. -/
def validateUcsschoolRoles : List String → Bool
  | [] => true
  | text :: texts =>
    match getRoleInfo text with
    | .ok _ => validateUcsschoolRoles texts
    | .error .unknownRole => true
    | .error .invalidUcsschoolRoleString => false

/-- `from_lib_role`, unless it raises. -/
def fromLibRole (text : String) : Option SchoolUserRole :=
  match getRoleInfo text with
  | .error _ => none
  | .ok (role, _, _) =>
    if role ∈ ["exam_user", "student"] then some .student
    else if role = "teacher" then some .teacher
    else if role = "legal_guardian" then some .legalGuardian
    else if role = "staff" then some .staff
    else if role = "school_admin" then some .schoolAdmin
    else none

/-- The user resource can show the roles of the user. -/
def showsRoles (roles : List String) : Bool :=
  roles.all (fun text => (isSchoolRoleString text).any (fun isSchool =>
    !isSchool || (fromLibRole text).isSome))

/-- No text of the list makes `_is_school_role_string` raise. -/
def roleStringsValid (texts : List String) : Bool :=
  texts.all (fun text => (isSchoolRoleString text).isSome)

/-- The role strings that `UserCreateModel._as_lib_model_kwargs` passes on. -/
def requestRoles (roles : List SchoolUserRole) (schools : List Ou) (ucsschoolRoles : List String) :
    List String :=
  ucsschoolRoles.foldl
    (fun texts text =>
      if isSchoolRoleString text = some false ∧ text ∉ texts then texts ++ [text] else texts)
    (roles.flatMap (fun role => schools.map (fun school => role.asLibRole school)))

/-- The role strings that `partial_update` passes on: those of the request that are no school
role strings, and the present school role strings. -/
def keptRoles (ucsschoolRoles current : List String) : List String :=
  ucsschoolRoles.filter (fun text => isSchoolRoleString text = some false) ++
    current.filter (fun text => isSchoolRoleString text = some true)

/-! ## Well-formed role strings -/

/-- A role string of three parts, none of them empty, on one line. -/
structure WellFormed (text : String) (d : RoleDict) : Prop where
  text_eq : text = d.text
  parts_ne : d.role ≠ "" ∧ d.contextType ≠ "" ∧ d.context ≠ ""
  colon : ':' ∉ d.role.toList ∧ ':' ∉ d.contextType.toList ∧ ':' ∉ d.context.toList
  line : '\n' ∉ text.toList

theorem WellFormed.rolesRegex_eq {text : String} {d : RoleDict} (h : WellFormed text d) :
    rolesRegex text = some d := by
  have hline := h.line
  rw [h.text_eq] at hline ⊢
  exact rolesRegex_roleText h.parts_ne h.colon.2 hline

theorem WellFormed.unique {text : String} {d e : RoleDict} (hd : WellFormed text d)
    (he : WellFormed text e) : d = e :=
  Option.some.inj (hd.rolesRegex_eq.symm.trans he.rolesRegex_eq)

theorem WellFormed.splitThree_eq {text : String} {d : RoleDict} (h : WellFormed text d) :
    splitThree text = some (d.role, d.contextType, d.context) :=
  splitThree_eq_some.mpr ⟨h.text_eq, h.colon⟩

/-- A role string counts as a school role string if its context type is `school`, or if it is
`exam` and the role is not known. -/
def CountsAsSchool (d : RoleDict) : Prop :=
  d.contextType = "school" ∨ d.contextType = "exam" ∧ d.role ∉ allRoles

instance (d : RoleDict) : Decidable (CountsAsSchool d) :=
  inferInstanceAs (Decidable (_ ∨ _))

theorem WellFormed.isSchoolRoleString_eq {text : String} {d : RoleDict} (h : WellFormed text d) :
    isSchoolRoleString text = some (decide (CountsAsSchool d)) := by
  unfold isSchoolRoleString getRoleInfo
  rw [h.splitThree_eq]
  by_cases hrole : d.role ∈ allRoles
  · simp [CountsAsSchool, hrole]
  · by_cases hschool : d.contextType = "school"
    · simp [CountsAsSchool, hrole, hschool]
    · by_cases hexam : d.contextType = "exam"
      · simp [CountsAsSchool, hrole, hexam]
      · simp [CountsAsSchool, hschool, hexam]

end Kelvin
