import Kelvin.Api.CustomRoles
import Kelvin.Lib.Conversion
import Kelvin.Lib.SearchBase

/-!
# The validators of the user classes

`UserValidator` and its subclasses of `validator.py` look at the position, the groups and the role
strings of a user object, as texts.

* `validate`: the errors of a validator.
* `BuiltUser.object`: what the lib computes for a user.
* `Agrees`: the validator of the class has no errors for it, and the expressions of the search base
  recognise its role groups.
* `agrees_iff`: they do, except that the expressions with `?` recognise the groups of schools with
  names of one character only.
-/

namespace Kelvin

/-- A runtime in which no letter looks beyond a comma for its case. -/
class DnRuntime extends CaseRuntime where
  lower_comma : ∀ a b, lower (a ++ "," ++ b) = lower a ++ "," ++ lower b

/-! ## The validator -/

/-- The object of a user, as a validator sees it. -/
structure UserObject where
  position : String
  username : String
  ucsschoolRole : List String
  school : List String
  firstname : String
  lastname : String
  groups : List String

section Validator

variable [Runtime] [DnEscaping] [CaseFolding] (base : LdapBase)

/-- `repr` of a list of texts. -/
def listRepr (texts : List String) : String :=
  "[" ++ ", ".intercalate (texts.map Runtime.repr) ++ "]"

/-- `roles` of the validator of a class. -/
def UserClass.validatorRoles : UserClass → List String
  | .student => ["student"]
  | .teacher => ["teacher"]
  | .legalGuardian => ["legal_guardian"]
  | .schoolAdmin => ["school_admin"]
  | .staff => ["staff"]
  | .teachersAndStaff => ["teacher", "staff"]
  | .examStudent => ["exam_user"]

/-- `roles_at_school`. -/
def rolesAtSchool (cls : UserClass) (schools : List String) : List String :=
  cls.validatorRoles.flatMap (fun role => schools.map (fun school => roleText role "school" school))

def requiredRoles (roles expected : List String) : Option String :=
  let roles := roles.map Runtime.lower
  let missing := expected.filter (fun role => Runtime.lower role ∉ roles)
  if missing = [] then none
  else some ("is missing roles " ++ listRepr missing ++ " (current roles=" ++ listRepr roles ++ ")")

def requiredAttributes (u : UserObject) : Option String :=
  let missing := (if u.username = "" then ["username"] else []) ++
    (if u.ucsschoolRole = [] then ["ucsschoolRole"] else []) ++
    (if u.school = [] then ["school"] else []) ++
    (if u.firstname = "" then ["firstname"] else []) ++
    (if u.lastname = "" then ["lastname"] else [])
  if missing = [] then none
  else some ("is missing required attributes: " ++ listRepr missing ++ ".")

def validatePosition (cls : UserClass) (position : String) : Option String :=
  if (positionRegex base cls).Matches position.toList then none else some "has wrong position in ldap."

/-- `role_groups` of the validator of a class. -/
def validatorRoleGroups (cls : UserClass) (schools : List String) : List String :=
  match cls with
  | .student => schools.map (SearchBase.roleGroup base .students)
  | .teacher => schools.map (SearchBase.roleGroup base .teachers)
  | .legalGuardian => schools.map (SearchBase.roleGroup base .legalGuardians)
  | .schoolAdmin => schools.map (SearchBase.roleGroup base .schoolAdmins)
  | .staff => schools.map (SearchBase.roleGroup base .staff)
  | .teachersAndStaff => schools.flatMap (fun school =>
      [SearchBase.roleGroup base .teachers school, SearchBase.roleGroup base .staff school])
  | .examStudent => schools.map (fun school =>
      "cn=OU" ++ Runtime.lower school ++ "-Klassenarbeit,cn=ucsschool,cn=groups," ++ base.text)

def domainUsersGroup (schools : List String) : List String :=
  schools.map (fun school =>
    "cn=Domain Users " ++ school ++ ",cn=groups,ou=" ++ school ++ "," ++ base.text)

def expectedGroups (cls : UserClass) (schools : List String) : List String :=
  domainUsersGroup base schools ++ validatorRoleGroups base cls schools ++
    (if cls.isStudent then schools.map (SearchBase.classes base) else [])

/-- `text.endswith(end)`. -/
def endsWith (text last : String) : Bool := last.toList.isSuffixOf text.toList

def validateRequiredGroups (groups expected : List String) : Option String :=
  let groups := groups.map Runtime.lower
  let missing := expected.filter (fun g => ¬ groups.any (fun group =>
    endsWith group (Runtime.lower g)))
  if missing = [] then none else some ("is missing groups at positions " ++ listRepr missing)

/-- The group of a DN is not allowed for the class. -/
def disallowedDn (cls : UserClass) (dn : String) : Bool :=
  let isIn (r : GroupRegex) : Bool := (r.regex base).Matches dn.toList
  isIn .isStudentGroup && !cls.isStudent || isIn .isTeachersGroup && !cls.isTeacher ||
    isIn .isStaffGroup && !cls.isStaff || isIn .isAdminsGroup && cls.isStudent ||
    isIn .isLegalGuardiansGroup && cls.isStudent

def disallowedMembers (cls : UserClass) (groups : List String) : List String :=
  (groups.filter (disallowedDn base cls)).map (fun dn => "Disallowed member of group " ++ dn)

/-- `str(exc)` for an error of `get_role_info`. -/
def roleErrorText (text : String) : RoleStringError → String
  | .invalidUcsschoolRoleString => "Invalid UCS@school role string: " ++ Runtime.repr text ++ "."
  | .unknownRole => "The role string " ++ Runtime.repr text ++ " includes the unknown role " ++
      Runtime.repr (((splitThree text).map (·.1)).getD "") ++ "."

/-- The roles that `get_role_info` reads. -/
def roleInfos (texts : List String) : List (String × String × String) :=
  texts.filterMap (fun text => (getRoleInfo text).toOption)

/-- The errors of `get_role_info`. -/
def roleErrors (texts : List String) : List String :=
  texts.filterMap (fun text =>
    match getRoleInfo text with
    | .ok _ => none
    | .error e => some (roleErrorText text e))

def validatePartOfSchool (roles : List (String × String × String)) (schools : List String) :
    Option String :=
  let schools := schools.map Runtime.lower
  let missing := ((roles.filter (fun r =>
    r.2.1 = "school" ∧ Runtime.lower r.2.2 ∉ schools)).map (·.2.2)).dedup
  if missing = [] then none else some ("is not part of schools: " ++ listRepr missing ++ ".")

def validateStudentRoles (cls : UserClass) (roles : List (String × String × String)) :
    Option String :=
  let notAllowed := ["teacher", "legal_guardian", "staff", "school_admin"]
  if roles.any (fun r => cls.isStudent && r.1 ∈ notAllowed ||
      !cls.isStudent && r.1 ∈ ["student", "exam_user"]) then
    some ("must not have these roles: " ++ listRepr notAllowed ++ ".")
  else none

def validateExamContexts (roles : List (String × String × String)) : Option String :=
  if roles.any (fun r => r.2.1 = "exam" ∧ r.1 = "exam_user") then none
  else some "is missing role with context exam."

/-- `validate` of the validator of a class. A check without an error is `none`. -/
def validate (cls : UserClass) (u : UserObject) : List (Option String) :=
  [requiredRoles u.ucsschoolRole (rolesAtSchool cls u.school), requiredAttributes u,
    validatePosition base cls u.position,
    validateRequiredGroups u.groups (expectedGroups base cls u.school)] ++
  (disallowedMembers base cls u.groups).map some ++ (roleErrors u.ucsschoolRole).map some ++
  [validatePartOfSchool (roleInfos u.ucsschoolRole) u.school,
    validateStudentRoles cls (roleInfos u.ucsschoolRole)] ++
  (if cls = .examStudent then
    (roleErrors u.ucsschoolRole).map some ++ [validateExamContexts (roleInfos u.ucsschoolRole)]
  else [])

end Validator

/-! ## What the lib computes -/

/-- A user that the lib is about to create, who is no exam student. A student has a class in each of
its schools. -/
structure BuiltUser where
  cls : UserClass
  notExam : cls ≠ .examStudent
  name : String
  firstname : String
  lastname : String
  named : name ≠ "" ∧ firstname ≠ "" ∧ lastname ≠ ""
  school : Ou
  schools : List Ou
  school_mem : school ∈ schools
  schoolClasses : Table String (List String)
  workgroups : Table String (List String)
  hasClass : cls = .student → ∀ s ∈ schools, ∃ names, schoolClasses.find? s.name = some names ∧
    names ≠ []

section Agreement

variable [Runtime] [DnEscaping] [CaseFolding] (base : LdapBase)

def BuiltUser.object (u : BuiltUser) : UserObject where
  position := u.cls.position base u.school.name
  username := u.name
  ucsschoolRole := createRoles u.cls [] (getSchools u.schools u.school)
  school := u.schools.map (·.name)
  firstname := u.firstname
  lastname := u.lastname
  groups := (groupsUsed u.cls u.schools u.schoolClasses u.workgroups).map (UserGroup.dn base)

/-- The validator has no errors, and of the expressions for groups those of a role, and no others,
match the groups that are computed for it. -/
structure Agrees (u : BuiltUser) : Prop where
  valid : ∀ e ∈ validate base u.cls (u.object base), e = none
  recognised : ∀ role ∈ u.cls.roleGroups, ∀ s ∈ u.schools, ∀ r : GroupRegex,
    (r.regex base).Matches (UserGroup.dn base (.roleGroup role s.name)).toList ↔ r.role = role

/-- The names of the schools have one character if the class has a group of students or staff. -/
def ShortNames (u : BuiltUser) : Prop :=
  .students ∈ u.cls.roleGroups ∨ .staff ∈ u.cls.roleGroups →
    ∀ s ∈ u.schools, s.name.toList.length = 1

end Agreement

/-! ## Roles -/

section Roles

variable [Runtime] {cls : UserClass} {schools : List Ou}

omit [Runtime] in
theorem UserClass.validatorRoles_eq (cls : UserClass) : cls.validatorRoles = cls.defaultRoles := by
  cases cls <;> rfl

omit [Runtime] in
/-- The role strings of a new user are those of its class for its schools. -/
theorem mem_createRoles_nil {text : String} : text ∈ createRoles cls [] schools ↔
    ∃ role ∈ cls.defaultRoles, ∃ s ∈ schools, text = roleText role "school" s.name := by
  have hrun : createRoles cls [] schools = cls.defaultRoles.flatMap (fun role =>
      schools.map (fun school => roleText role "school" school.name)) := by
    rw [createRoles, if_pos, List.nil_append]
    exact ⟨cls.defaultRoles_ne, by simp [rolesAsDicts]⟩
  rw [hrun, List.mem_flatMap]
  constructor
  · rintro ⟨role, hrole, hmem⟩
    obtain ⟨s, hs, rfl⟩ := List.mem_map.mp hmem
    exact ⟨role, hrole, s, hs, rfl⟩
  · rintro ⟨role, hrole, s, hs, rfl⟩
    exact ⟨role, hrole, List.mem_map.mpr ⟨s, hs, rfl⟩⟩

theorem requiredRoles_createRoles (school : Ou) : requiredRoles
    (createRoles cls [] (getSchools schools school)) (rolesAtSchool cls (schools.map (·.name))) =
      none := by
  unfold requiredRoles
  dsimp only
  rw [if_pos]
  apply List.filter_eq_nil_iff.mpr
  intro text htext
  rw [rolesAtSchool, List.mem_flatMap] at htext
  obtain ⟨role, hrole, hmem⟩ := htext
  rw [List.map_map] at hmem
  obtain ⟨s, hs, rfl⟩ := List.mem_map.mp hmem
  rw [cls.validatorRoles_eq] at hrole
  rw [decide_eq_true_eq, not_not]
  apply List.mem_map_of_mem
  exact mem_createRoles_nil.mpr ⟨role, hrole, s, mem_getSchools.mpr (.inl hs), rfl⟩

omit [Runtime] in
/-- The role strings of a new user are read back. -/
theorem getRoleInfo_default {role : String} (hrole : role ∈ cls.defaultRoles) (s : Ou) :
    getRoleInfo (roleText role "school" s.name) = .ok (role, "school", s.name) := by
  have hplain : ∀ role ∈ cls.defaultRoles, ':' ∉ role.toList := by
    cases cls <;> decide
  have hcolon : ':' ∉ s.name.toList := Ou.not_mem (by decide) (by decide) (by decide)
  have hsplit : splitThree (roleText role "school" s.name) = some (role, "school", s.name) :=
    splitThree_eq_some.mpr ⟨rfl, hplain role hrole, by decide, hcolon⟩
  have hknown : ¬ ("school" ∈ ["school", "exam"] ∧ role ∉ allRoles) :=
    fun h => h.2 (cls.defaultRoles_known role hrole)
  rw [getRoleInfo, hsplit]
  exact if_neg hknown

theorem roleErrors_createRoles : roleErrors (createRoles cls [] schools) = [] := by
  apply List.filterMap_eq_nil_iff.mpr
  intro text htext
  obtain ⟨role, hrole, s, -, rfl⟩ := mem_createRoles_nil.mp htext
  rw [getRoleInfo_default hrole]

omit [Runtime] in
theorem mem_roleInfos {info : String × String × String}
    (h : info ∈ roleInfos (createRoles cls [] schools)) :
    ∃ role ∈ cls.defaultRoles, ∃ s ∈ schools, info = (role, "school", s.name) := by
  obtain ⟨text, htext, hinfo⟩ := List.mem_filterMap.mp h
  obtain ⟨role, hrole, s, hs, rfl⟩ := mem_createRoles_nil.mp htext
  rw [getRoleInfo_default hrole] at hinfo
  exact ⟨role, hrole, s, hs, (Option.some.inj hinfo).symm⟩

theorem validatePartOfSchool_createRoles {school : Ou} (hschool : school ∈ schools) :
    validatePartOfSchool (roleInfos (createRoles cls [] (getSchools schools school)))
      (schools.map (·.name)) = none := by
  unfold validatePartOfSchool
  dsimp only
  rw [if_pos]
  rw [List.dedup_eq_nil, List.map_eq_nil_iff, List.filter_eq_nil_iff]
  intro info hinfo
  obtain ⟨role, -, s, hs, rfl⟩ := mem_roleInfos hinfo
  have hmem : s ∈ schools := (mem_getSchools.mp hs).elim id (fun h => h ▸ hschool)
  rw [decide_eq_true_eq]
  rintro ⟨-, hnot⟩
  apply hnot
  rw [List.map_map]
  exact List.mem_map.mpr ⟨s, hmem, rfl⟩

theorem validateStudentRoles_createRoles :
    validateStudentRoles cls (roleInfos (createRoles cls [] schools)) = none := by
  have hroles : ∀ role ∈ cls.defaultRoles,
      (cls.isStudent && role ∈ ["teacher", "legal_guardian", "staff", "school_admin"] ||
        !cls.isStudent && role ∈ ["student", "exam_user"]) = false := by
    cases cls <;> decide
  unfold validateStudentRoles
  dsimp only
  rw [if_neg]
  rw [List.any_eq_true]
  rintro ⟨info, hinfo, hbad⟩
  obtain ⟨role, hrole, s, -, rfl⟩ := mem_roleInfos hinfo
  rw [hroles role hrole] at hbad
  cases hbad

end Roles

/-! ## Groups -/

section Groups

variable [DnRuntime] [DnSyntax] {base : LdapBase} {cls : UserClass} {schools : List Ou}
  {schoolClasses workgroups : Table String (List String)}

/-- The groups that the validator expects for a role are those of the lib, up to letter case. -/
theorem lower_roleGroup (role : RoleGroup) (school : Ou) :
    Runtime.lower (UserGroup.dn base (.roleGroup role school.name)) =
      Runtime.lower (SearchBase.roleGroup base role school.name) := by
  by_cases hrole : role = .schoolAdmins
  · subst hrole
    rfl
  have hdn : UserGroup.dn base (.roleGroup role school.name) =
      ("cn=" ++ role.groupStart ++ school.name) ++ "," ++
        ("cn=groups," ++ SearchBase.schoolDn base school.name) := by
    have hgroup : UserGroup.dn base (.roleGroup role school.name) =
        getGroupDn base (role.groupStart ++ school.name) school.name := by
      cases role with
      | schoolAdmins => exact absurd rfl hrole
      | _ => rfl
    rw [hgroup, getGroupDn, objectDn, role.escape_groupStart]
    simp only [String.append_assoc]
  have hexpected : SearchBase.roleGroup base role school.name =
      ("cn=" ++ role.groupStart ++ school.lowered.name) ++ "," ++
        ("cn=groups," ++ SearchBase.schoolDn base school.name) := by
    have hguardians : DnEscaping.escapeDnChars "sorgeberechtigte-" = "sorgeberechtigte-" := by
      rw [DnEscaping.escape_eq_self, ← List.forall_iff_forall_mem]
      decide
    rw [← String.toList_inj]
    cases role with
    | schoolAdmins => exact absurd rfl hrole
    | legalGuardians =>
      rw [SearchBase.roleGroup, school.lower_name, school.lowered.escape_name,
        RoleGroup.groupStart, hguardians]
      simp
    | _ =>
      rw [SearchBase.roleGroup, school.lower_name]
      · simp
      · exact fun h => by cases h
      · exact fun h => by cases h
  have hstart : ∀ c ∈ ("cn=" ++ role.groupStart).toList, c.toNat < 128 := by
    rw [← List.forall_iff_forall_mem]
    cases role <;> decide
  have hlower : Runtime.lower ("cn=" ++ role.groupStart ++ school.name) =
      Runtime.lower ("cn=" ++ role.groupStart ++ school.lowered.name) := by
    have hlowered : school.lowered.name.toList = school.name.toList.map Char.toLower :=
      String.toList_ofList
    have hname : ∀ ou : Ou, ∀ c ∈ ("cn=" ++ role.groupStart ++ ou.name).toList, c.toNat < 128 := by
      intro ou c hc
      rw [String.toList_append] at hc
      exact (List.mem_append.mp hc).elim (hstart c) (ou.ascii c)
    have htwice : (school.name.toList.map Char.toLower).map Char.toLower =
        school.name.toList.map Char.toLower := by
      rw [List.map_map]
      exact List.map_congr_left (fun c hc => toLower_toLower (school.ascii c hc))
    rw [CaseRuntime.lower_ascii _ (hname school), CaseRuntime.lower_ascii _ (hname school.lowered)]
    simp only [String.toList_append, List.map_append, hlowered, htwice]
  rw [hdn, hexpected, DnRuntime.lower_comma, DnRuntime.lower_comma, hlower]

omit [DnRuntime] [DnSyntax] in
theorem endsWith_self (text : String) : endsWith text text = true :=
  List.isSuffixOf_iff_suffix.mpr (List.suffix_refl _)

/-- The DN of an object ends with that of its container, in any letter case. -/
theorem endsWith_objectDn (name container : String) :
    endsWith (Runtime.lower (objectDn name container)) (Runtime.lower container) = true := by
  rw [objectDn, DnRuntime.lower_comma]
  apply List.isSuffixOf_iff_suffix.mpr
  rw [String.toList_append]
  exact List.suffix_append _ _

omit [DnRuntime] [DnSyntax] in
theorem mem_groupObjs {groups : Table String (List String)} {school : String} {names : List String}
    (h : groups.find? school = some names) (hne : names ≠ []) :
    ∃ name, (school, fullName school name) ∈ groupObjs groups := by
  obtain ⟨name, hname⟩ := List.exists_mem_of_ne_nil _ hne
  refine ⟨name, List.mem_flatMap.mpr ⟨(school, names), Table.mem_rows.mpr h, ?_⟩⟩
  exact List.mem_map.mpr ⟨name, hname, rfl⟩

omit [DnSyntax] in
/-- The validator of a class expects the groups of the roles of the class. -/
theorem mem_validatorRoleGroups [DnEscaping] {g : String} (hcls : cls ≠ .examStudent)
    (h : g ∈ validatorRoleGroups base cls (schools.map (·.name))) :
    ∃ role ∈ cls.roleGroups, ∃ s ∈ schools, g = SearchBase.roleGroup base role s.name := by
  cases cls with
  | examStudent => exact absurd rfl hcls
  | teachersAndStaff =>
    rw [validatorRoleGroups, List.mem_flatMap] at h
    obtain ⟨name, hname, hg⟩ := h
    obtain ⟨s, hs, rfl⟩ := List.mem_map.mp hname
    rcases List.mem_cons.mp hg with rfl | hg
    · exact ⟨.teachers, by decide, s, hs, rfl⟩
    · exact ⟨.staff, by decide, s, hs, List.mem_singleton.mp hg⟩
  | _ =>
    rw [validatorRoleGroups, List.map_map] at h
    obtain ⟨s, hs, rfl⟩ := List.mem_map.mp h
    exact ⟨_, List.mem_singleton.mpr rfl, s, hs, rfl⟩

/-- Every group that the validator expects is the end of one of those of the lib. -/
theorem exists_of_mem_expectedGroups {g : String} (hcls : cls ≠ .examStudent)
    (hclass : cls = .student → ∀ s ∈ schools, ∃ names, schoolClasses.find? s.name = some names ∧
      names ≠ [])
    (h : g ∈ expectedGroups base cls (schools.map (·.name))) :
    ∃ group ∈ groupsUsed cls schools schoolClasses workgroups,
      endsWith (Runtime.lower (UserGroup.dn base group)) (Runtime.lower g) = true := by
  simp only [expectedGroups, List.mem_append] at h
  simp only [groupsUsed, List.mem_append]
  rcases h with (h | h) | h
  · rw [domainUsersGroup, List.map_map] at h
    obtain ⟨s, hs, rfl⟩ := List.mem_map.mp h
    have hescape : DnEscaping.escapeDnChars ("Domain Users " ++ s.name) =
        "Domain Users " ++ s.name := s.escape_append (by decide) (by decide)
    have hdn : UserGroup.dn base (.domainUsers s.name) =
        "cn=Domain Users " ++ s.name ++ ",cn=groups,ou=" ++ s.name ++ "," ++ base.text := by
      rw [UserGroup.dn, getGroupDn, objectDn, SearchBase.schoolDn, hescape, s.escape_name,
        ← String.toList_inj]
      simp
    refine ⟨.domainUsers s.name, .inl (.inl (.inl (List.mem_map.mpr ⟨s, hs, rfl⟩))), ?_⟩
    rw [hdn]
    exact endsWith_self _
  · obtain ⟨role, hrole, s, hs, rfl⟩ := mem_validatorRoleGroups hcls h
    refine ⟨.roleGroup role s.name, .inr ?_, ?_⟩
    · exact mem_roleGroups_of_schools.mpr ⟨hrole, s, hs, rfl⟩
    · rw [lower_roleGroup]
      exact endsWith_self _
  · have hstudent : cls = .student := by
      cases cls <;> first | rfl | exact absurd rfl hcls | cases h
    subst hstudent
    change g ∈ (schools.map (·.name)).map _ at h
    rw [List.map_map] at h
    obtain ⟨s, hs, rfl⟩ := List.mem_map.mp h
    obtain ⟨names, hfind, hne⟩ := hclass rfl s hs
    obtain ⟨name, hname⟩ := mem_groupObjs hfind hne
    refine ⟨.schoolClass s.name (fullName s.name name), .inl (.inl (.inr ?_)), ?_⟩
    · exact List.mem_map.mpr ⟨_, hname, rfl⟩
    · exact endsWith_objectDn _ _

theorem validateRequiredGroups_groupsUsed (hcls : cls ≠ .examStudent)
    (hclass : cls = .student → ∀ s ∈ schools, ∃ names, schoolClasses.find? s.name = some names ∧
      names ≠ []) :
    validateRequiredGroups
      ((groupsUsed cls schools schoolClasses workgroups).map (UserGroup.dn base))
      (expectedGroups base cls (schools.map (·.name))) = none := by
  unfold validateRequiredGroups
  dsimp only
  rw [if_pos]
  apply List.filter_eq_nil_iff.mpr
  intro g hg
  obtain ⟨group, hgroup, hends⟩ :=
    @exists_of_mem_expectedGroups _ _ base cls schools schoolClasses workgroups g hcls hclass hg
  rw [decide_eq_true_eq, not_not, List.any_eq_true, List.map_map]
  exact ⟨_, List.mem_map.mpr ⟨group, hgroup, rfl⟩, hends⟩

/-- The expressions see in the groups of the lib those of roles. -/
theorem matches_of_mem_groupsUsed [CaseFolding] {group : UserGroup} {r : GroupRegex}
    (hgroup : group ∈ groupsUsed cls schools schoolClasses workgroups)
    (h : (r.regex base).Matches (UserGroup.dn base group).toList) : r.role ∈ cls.roleGroups := by
  simp only [groupsUsed, List.mem_append] at hgroup
  rcases hgroup with ((hgroup | hgroup) | hgroup) | hgroup
  · obtain ⟨s, -, rfl⟩ := List.mem_map.mp hgroup
    exact absurd h domainUsers_not_matches
  · split at hgroup
    · cases hgroup
    · obtain ⟨g, -, rfl⟩ := List.mem_map.mp hgroup
      exact absurd h (schoolClass_not_matches _ _)
  · obtain ⟨g, -, rfl⟩ := List.mem_map.mp hgroup
    exact absurd h (workgroup_not_matches _ _)
  · obtain ⟨role, hrole, hmem⟩ := List.mem_flatMap.mp hgroup
    obtain ⟨s, -, rfl⟩ := List.mem_map.mp hmem
    obtain ⟨rfl, -⟩ := roleGroup_matches.mp h
    exact hrole

theorem disallowedMembers_groupsUsed [CaseFolding] : disallowedMembers base cls
    ((groupsUsed cls schools schoolClasses workgroups).map (UserGroup.dn base)) = [] := by
  rw [disallowedMembers, List.map_eq_nil_iff, List.filter_eq_nil_iff]
  intro dn hdn hbad
  obtain ⟨group, hgroup, rfl⟩ := List.mem_map.mp hdn
  have hroles : ∀ role ∈ cls.roleGroups, cls.disallows role = false := by
    cases cls <;> decide
  have hallowed : ∀ r : GroupRegex, (r.regex base).Matches (UserGroup.dn base group).toList →
      cls.disallows r.role = false :=
    fun r h => hroles _ (matches_of_mem_groupsUsed hgroup h)
  simp only [disallowedDn, Bool.or_eq_true, Bool.and_eq_true, decide_eq_true_eq] at hbad
  rcases hbad with (((⟨h, hcls⟩ | ⟨h, hcls⟩) | ⟨h, hcls⟩) | ⟨h, hcls⟩) | ⟨h, hcls⟩
  · exact Bool.false_ne_true ((hallowed _ h).symm.trans hcls)
  · exact Bool.false_ne_true ((hallowed _ h).symm.trans hcls)
  · exact Bool.false_ne_true ((hallowed _ h).symm.trans hcls)
  · exact Bool.false_ne_true ((hallowed _ h).symm.trans hcls)
  · exact Bool.false_ne_true ((hallowed _ h).symm.trans hcls)

end Groups

/-! ## The agreement -/

section Agreement

variable [DnRuntime] [DnSyntax] [CaseFolding] (base : LdapBase)

omit [DnSyntax] [CaseFolding] in
theorem BuiltUser.requiredAttributes [DnEscaping] (u : BuiltUser) :
    requiredAttributes (u.object base) = none := by
  have hroles : createRoles u.cls [] (getSchools u.schools u.school) ≠ [] := by
    obtain ⟨role, hrole⟩ := List.exists_mem_of_ne_nil _ u.cls.defaultRoles_ne
    apply List.ne_nil_of_mem
    exact mem_createRoles_nil.mpr ⟨role, hrole, u.school, mem_getSchools.mpr (.inr rfl), rfl⟩
  have hschools : u.schools.map (·.name) ≠ [] :=
    List.ne_nil_of_mem (List.mem_map.mpr ⟨u.school, u.school_mem, rfl⟩)
  obtain ⟨hname, hfirstname, hlastname⟩ := u.named
  unfold Kelvin.requiredAttributes BuiltUser.object
  dsimp only
  rw [if_neg hname, if_neg hroles, if_neg hschools, if_neg hfirstname, if_neg hlastname]
  rfl

/-- The validator of its class has no errors for a new user. -/
theorem BuiltUser.valid (u : BuiltUser) : ∀ e ∈ validate base u.cls (u.object base), e = none := by
  have hposition : validatePosition base u.cls (u.object base).position = none :=
    if_pos (position_matches u.notExam u.school)
  have hrequired : validateRequiredGroups (u.object base).groups
      (expectedGroups base u.cls (u.object base).school) = none :=
    validateRequiredGroups_groupsUsed u.notExam u.hasClass
  have hmembers : disallowedMembers base u.cls (u.object base).groups = [] :=
    disallowedMembers_groupsUsed
  have hroles : requiredRoles (u.object base).ucsschoolRole
      (rolesAtSchool u.cls (u.object base).school) = none :=
    requiredRoles_createRoles u.school
  have herrors : roleErrors (u.object base).ucsschoolRole = [] := roleErrors_createRoles
  have hpart : validatePartOfSchool (roleInfos (u.object base).ucsschoolRole)
      (u.object base).school = none := validatePartOfSchool_createRoles u.school_mem
  have hstudent : validateStudentRoles u.cls (roleInfos (u.object base).ucsschoolRole) = none :=
    validateStudentRoles_createRoles
  unfold validate
  rw [hposition, hrequired, hmembers, hroles, herrors, hpart, hstudent, u.requiredAttributes,
    if_neg u.notExam]
  decide

/-- The validator has no errors, and the expressions recognise exactly the groups of their role, if
and only if no expression with `?` has to recognise the group of a school with a longer name. -/
theorem agrees_iff (u : BuiltUser) : Agrees base u ↔ ShortNames u := by
  constructor
  · intro h hgroups s hs
    rcases hgroups with hgroup | hgroup
    · have hmatch := (h.recognised .students hgroup s hs .studentsGroup).mpr rfl
      exact (roleGroup_matches.mp hmatch).2 rfl
    · have hmatch := (h.recognised .staff hgroup s hs .staffGroup).mpr rfl
      exact (roleGroup_matches.mp hmatch).2 rfl
  · intro hshort
    refine ⟨u.valid base, fun role hrole s hs r => ?_⟩
    rw [roleGroup_matches]
    constructor
    · exact fun h => h.1
    · rintro rfl
      refine ⟨rfl, fun hsingle => hshort ?_ s hs⟩
      cases r with
      | staffGroup => exact .inr hrole
      | studentsGroup => exact .inl hrole
      | _ => cases hsingle

end Agreement

/-! ## A school with a longer name -/

theorem asciiRuntime_lower_comma (a b : String) :
    asciiRuntime.lower (a ++ "," ++ b) = asciiRuntime.lower a ++ "," ++ asciiRuntime.lower b := by
  have hlower : ∀ s, asciiRuntime.lower s = String.ofList (s.toList.map Char.toLower) := fun _ => rfl
  simp only [hlower, String.toList_append, List.map_append, String.ofList_append]
  rfl

/-- The letter case of ASCII texts. -/
@[reducible] def asciiDnRuntime : DnRuntime where
  toCaseRuntime := asciiCaseRuntime
  lower_comma := asciiRuntime_lower_comma

section Concrete

attribute [local instance] asciiDnRuntime pythonDnSyntax asciiFolding

theorem demoSchoolOu_chars : ∀ c ∈ "DEMOSCHOOL".toList,
    asciiAlnum c = true ∨ c = '-' ∨ c = '_' :=
  List.forall_iff_forall_mem.mp (by decide)

theorem demoSchoolOu_head : ∃ c, "DEMOSCHOOL".toList.head? = some c ∧ asciiAlnum c = true :=
  ⟨'D', by decide, by decide⟩

/-- The school `DEMOSCHOOL`. -/
def demoSchoolOu : Ou where
  name := "DEMOSCHOOL"
  chars := demoSchoolOu_chars
  head := demoSchoolOu_head

theorem student_notExam : UserClass.student ≠ .examStudent := by decide

theorem demoStudent_named : "demo.student" ≠ "" ∧ "Demo" ≠ "" ∧ "Student" ≠ "" := by decide

theorem demoStudent_hasClass : UserClass.student = .student → ∀ s ∈ [demoSchoolOu], ∃ names,
    (Table.empty.insert "DEMOSCHOOL" ["1a"]).find? s.name = some names ∧ names ≠ [] := by
  rintro - s hs
  obtain rfl := List.mem_singleton.mp hs
  exact ⟨["1a"], Table.find?_insert_self _ _ _, by decide⟩

/-- A student of `DEMOSCHOOL` in the class `1a`. -/
def demoStudent : BuiltUser where
  cls := .student
  notExam := student_notExam
  name := "demo.student"
  firstname := "Demo"
  lastname := "Student"
  named := demoStudent_named
  school := demoSchoolOu
  schools := [demoSchoolOu]
  school_mem := List.mem_singleton.mpr rfl
  schoolClasses := Table.empty.insert "DEMOSCHOOL" ["1a"]
  workgroups := .empty
  hasClass := demoStudent_hasClass

/-- The expression for the groups of students does not match `cn=schueler-DEMOSCHOOL`. -/
theorem demoStudent_not_agrees : ¬ Agrees schoolBase demoStudent := by
  intro h
  have hmatch := (h.recognised .students (by decide) demoSchoolOu (List.mem_singleton.mpr rfl)
    .studentsGroup).mpr rfl
  exact absurd hmatch (by decide)

end Concrete

end Kelvin
