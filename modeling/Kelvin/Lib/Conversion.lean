import Kelvin.Lib.StoredUser

/-!
# Conversion between user classes

`UserTypeConverter.convert` removes the groups of some of the other classes from a user and its role
strings of all other classes. It looks at the user's own schools only, and not at the group of the
legal guardians, nor at that of the admins for a legal guardian.

* `convert`: the conversion of a user.
* `validateGroupMembership`: the groups that the validator of a class does not allow.
* `Converted`: the users that have what their class requires, and nothing of another one.
* `converted_iff`: the users of which a conversion makes such a user.
-/

namespace Kelvin

/-! ## The validator -/

def UserClass.isStudent : UserClass → Bool
  | .student | .examStudent => true
  | _ => false

def UserClass.isTeacher : UserClass → Bool
  | .teacher | .teachersAndStaff => true
  | _ => false

def UserClass.isStaff : UserClass → Bool
  | .staff | .teachersAndStaff => true
  | _ => false

/-- The groups with a role in whose pattern a group must not be. -/
def UserClass.disallows (cls : UserClass) : RoleGroup → Bool
  | .students => !cls.isStudent
  | .teachers => !cls.isTeacher
  | .staff => !cls.isStaff
  | .schoolAdmins => cls.isStudent
  | .legalGuardians => cls.isStudent

def disallowedMember (cls : UserClass) : UserGroup → Bool
  | .roleGroup role _ => cls.disallows role
  | _ => false

/-- `validate_group_membership`, by the groups that it complains about. -/
def validateGroupMembership (cls : UserClass) (groups : List UserGroup) : List UserGroup :=
  groups.filter (disallowedMember cls)

/-! ## The conversion -/

/-- `convert`. A `TypeError` is `none`. -/
def convert (target : UserClass) (schoolClasses workgroups : Table String (List String))
    (u : UdmUser) : Option UdmUser :=
  if target ≠ .examStudent ∧ convertAllowed target u schoolClasses then
    some (if u.cls.sameRoles target then u else convertTo target schoolClasses workgroups u)
  else none

/-- A user has in each of its schools the groups and role strings of a class and no other ones, and
the validator does not complain about its groups. -/
structure Converted (target : UserClass) (v : UdmUser) : Prop where
  required : ∀ role ∈ target.roleGroups, ∀ s ∈ v.schools, .roleGroup role s.name ∈ v.groups
  lost : ∀ role ∉ target.roleGroups, ∀ s ∈ v.schools, .roleGroup role s.name ∉ v.groups
  roles : ∀ role context, ':' ∉ role.toList → (roleText role "school" context ∈ v.roles ↔
    role ∈ target.rolesAdd ∧ ∃ s ∈ v.schools, s.name = context)
  accepted : validateGroupMembership target v.groups = []

/-- A user of another class is in no group that is left out, in no disallowed group of another
school, and has no school role string of another role or school that is left. -/
structure Convertible (target : UserClass) (u : UdmUser) : Prop where
  own : ∀ role, role ∉ target.roleGroups → role ∉ target.groupsRm →
    ∀ s ∈ u.schools, .roleGroup role s.name ∉ u.groups
  foreign : ∀ role school, target.disallows role = true → .roleGroup role school ∈ u.groups →
    ∃ s ∈ u.schools, s.name = school
  roles : ∀ role context, ':' ∉ role.toList → roleText role "school" context ∈ u.roles →
    role ∈ target.rolesRm ∨ role ∈ target.rolesAdd ∧ ∃ s ∈ u.schools, s.name = context

/-! ## Groups -/

section Groups

variable {target : UserClass} {u : UdmUser} {schoolClasses workgroups : Table String (List String)}
  {role : RoleGroup} {school : String}

/-- A class is never required to be in a group that its validator does not allow. -/
theorem UserClass.not_required_of_disallows (h : target.disallows role = true) :
    role ∉ target.roleGroups := by
  cases target <;> cases role <;>
    simp_all [UserClass.disallows, UserClass.roleGroups, UserClass.isStudent, UserClass.isTeacher,
      UserClass.isStaff]

theorem not_mem_additionalGroups {group : String → String → UserGroup}
    (hgroup : ∀ s name, group s name ≠ .roleGroup role school)
    (names : Table String (List String)) : .roleGroup role school ∉ additionalGroups group names := by
  intro h
  obtain ⟨entry, -, h⟩ := List.mem_flatMap.mp h
  obtain ⟨name, -, heq⟩ := List.mem_map.mp h
  exact hgroup _ _ heq

theorem mem_roleGroups_of_schools {roles : List RoleGroup} {schools : List Ou} :
    UserGroup.roleGroup role school ∈ roles.flatMap (fun role =>
      schools.map (fun s => UserGroup.roleGroup role s.name)) ↔
        role ∈ roles ∧ ∃ s ∈ schools, s.name = school := by
  rw [List.mem_flatMap]
  constructor
  · rintro ⟨role', hrole, hmem⟩
    obtain ⟨s, hs, heq⟩ := List.mem_map.mp hmem
    cases heq
    exact ⟨hrole, s, hs, rfl⟩
  · rintro ⟨hrole, s, hs, rfl⟩
    exact ⟨role, hrole, List.mem_map.mpr ⟨s, hs, rfl⟩⟩

/-- The role groups that stay, and those that are added. -/
theorem mem_convertedGroups :
    UserGroup.roleGroup role school ∈ convertedGroups target u schoolClasses workgroups ↔
      (.roleGroup role school ∈ u.groups ∧
        ¬ (role ∈ target.groupsRm ∧ ∃ s ∈ u.schools, s.name = school)) ∨
      role ∈ target.roleGroups ∧ ∃ s ∈ u.schools, s.name = school := by
  have hclasses : UserGroup.roleGroup role school ∉
      (if target = .staff then
        (groupObjs (getSchoolClasses u.groups u.schools)).map
          (fun g => UserGroup.schoolClass g.1 g.2)
      else []) := by
    split <;> simp
  have hadditional : UserGroup.roleGroup role school ∉
      (if target = .staff then [] else additionalGroups .schoolClass schoolClasses) := by
    split
    · exact List.not_mem_nil
    · exact not_mem_additionalGroups (by simp) schoolClasses
  have hworkgroups := @not_mem_additionalGroups role school .workgroup (by simp) workgroups
  simp only [convertedGroups, List.mem_dedup, List.mem_append, List.mem_filter,
    decide_eq_true_eq, mem_roleGroups_of_schools, hclasses, hadditional, hworkgroups, or_false]

end Groups

/-! ## Role strings -/

theorem startsWith_roleText {role role' context : String} (hrole : ':' ∉ role.toList)
    (hrole' : ':' ∉ role'.toList) :
    startsWith (roleText role "school" context) (role' ++ ":school:") = true ↔ role = role' := by
  rw [startsWith_iff]
  have htext : (roleText role "school" context).toList =
      role.toList ++ ':' :: ("school:".toList ++ context.toList) := by
    simp [roleText]
  have hstart : (role' ++ ":school:").toList = role'.toList ++ ':' :: "school:".toList := by
    simp
  rw [htext, hstart]
  constructor
  · rintro ⟨rest, hrest⟩
    rw [List.append_assoc, List.cons_append] at hrest
    exact String.toList_inj.mp (Text.append_sep_inj hrole' hrole hrest).1.symm
  · rintro rfl
    exact ⟨context.toList, by simp⟩

theorem roleText_inj {role role' context context' : String} (hrole : ':' ∉ role.toList)
    (hrole' : ':' ∉ role'.toList)
    (h : roleText role "school" context = roleText role' "school" context') :
    role = role' ∧ context = context' := by
  have hlist : role.toList ++ ':' :: ("school:".toList ++ context.toList) =
      role'.toList ++ ':' :: ("school:".toList ++ context'.toList) := by
    simpa [roleText] using congrArg String.toList h
  obtain ⟨hroles, hrest⟩ := Text.append_sep_inj hrole hrole' hlist
  exact ⟨String.toList_inj.mp hroles, String.toList_inj.mp (List.append_cancel_left hrest)⟩

theorem UserClass.rolesRm_plain (target : UserClass) :
    ∀ role ∈ target.rolesRm, ':' ∉ role.toList := by
  cases target <;> decide

theorem UserClass.rolesAdd_plain (target : UserClass) :
    ∀ role ∈ target.rolesAdd, ':' ∉ role.toList := by
  cases target <;> decide

/-- The school role strings that stay, and those that are added. -/
theorem mem_convertedRoles {target : UserClass} {roles : List String} {schools : List Ou}
    {role context : String} (hrole : ':' ∉ role.toList) :
    roleText role "school" context ∈ convertedRoles target roles schools ↔
      (roleText role "school" context ∈ roles ∧ role ∉ target.rolesRm) ∨
        role ∈ target.rolesAdd ∧ ∃ s ∈ schools, s.name = context := by
  have hstarts : target.rolesRm.any (fun role' =>
      startsWith (roleText role "school" context) (role' ++ ":school:")) = true ↔
        role ∈ target.rolesRm := by
    rw [List.any_eq_true]
    constructor
    · rintro ⟨role', hmem, h⟩
      exact (startsWith_roleText hrole (target.rolesRm_plain role' hmem)).mp h ▸ hmem
    · intro hmem
      exact ⟨role, hmem, (startsWith_roleText hrole hrole).mpr rfl⟩
  have hadded : roleText role "school" context ∈ target.rolesAdd.flatMap (fun role =>
      schools.map (fun s => roleText role "school" s.name)) ↔
        role ∈ target.rolesAdd ∧ ∃ s ∈ schools, s.name = context := by
    rw [List.mem_flatMap]
    constructor
    · rintro ⟨role', hmem, h⟩
      obtain ⟨s, hs, heq⟩ := List.mem_map.mp h
      obtain ⟨rfl, rfl⟩ := roleText_inj (target.rolesAdd_plain role' hmem) hrole heq
      exact ⟨hmem, s, hs, rfl⟩
    · rintro ⟨hmem, s, hs, rfl⟩
      exact ⟨role, hmem, List.mem_map.mpr ⟨s, hs, rfl⟩⟩
  unfold convertedRoles
  rw [sortedTexts, List.mem_insertionSort, List.mem_dedup, List.mem_append, List.mem_filter, hadded]
  simp only [decide_not, Bool.not_eq_true', decide_eq_false_iff_not, hstarts]

/-! ## Converted users -/

section Users

variable {target : UserClass} {u : UdmUser} {schoolClasses workgroups : Table String (List String)}

theorem converted_convertTo :
    Converted target (convertTo target schoolClasses workgroups u) ↔ Convertible target u := by
  constructor
  · intro h
    constructor
    · intro role hrole hkept s hs hmem
      apply h.lost role hrole s hs
      exact mem_convertedGroups.mpr (.inl ⟨hmem, fun hrm => hkept hrm.1⟩)
    · intro role school hdis hmem
      by_contra hschool
      have hstays : UserGroup.roleGroup role school ∈
          (convertTo target schoolClasses workgroups u).groups :=
        mem_convertedGroups.mpr (.inl ⟨hmem, fun hrm => hschool hrm.2⟩)
      have hnone := List.filter_eq_nil_iff.mp h.accepted _ hstays
      exact hnone hdis
    · intro role context hplain hmem
      by_cases hrm : role ∈ target.rolesRm
      · exact .inl hrm
      · right
        apply (h.roles role context hplain).mp
        exact (mem_convertedRoles hplain).mpr (.inl ⟨hmem, hrm⟩)
  · intro h
    constructor
    · intro role hrole s hs
      exact mem_convertedGroups.mpr (.inr ⟨hrole, s, hs, rfl⟩)
    · intro role hrole s hs hmem
      obtain ⟨hold, hkept⟩ | ⟨hadded, -⟩ := mem_convertedGroups.mp hmem
      · apply h.own role hrole _ s hs hold
        intro hrm
        exact hkept ⟨hrm, s, hs, rfl⟩
      · exact hrole hadded
    · intro role context hplain
      constructor
      · intro hmem
        obtain ⟨hold, hrm⟩ | hadded := (mem_convertedRoles hplain).mp hmem
        · exact (h.roles role context hplain hold).resolve_left hrm
        · exact hadded
      · intro hadded
        exact (mem_convertedRoles hplain).mpr (.inr hadded)
    · apply List.filter_eq_nil_iff.mpr
      intro group hmem
      cases group with
      | roleGroup role school =>
        intro hdis
        obtain ⟨hold, hkept⟩ | ⟨hadded, -⟩ := mem_convertedGroups.mp hmem
        · obtain ⟨s, hs, rfl⟩ := h.foreign role school hdis hold
          apply h.own role (UserClass.not_required_of_disallows hdis) _ s hs hold
          intro hrm
          exact hkept ⟨hrm, s, hs, rfl⟩
        · exact UserClass.not_required_of_disallows hdis hadded
      | domainUsers _ => exact Bool.false_ne_true
      | schoolClass _ _ => exact Bool.false_ne_true
      | workgroup _ _ => exact Bool.false_ne_true
      | other _ _ => exact Bool.false_ne_true

end Users

/-- Every user that a conversion makes is converted if and only if the old user is convertible. A
user who has the roles of the class is not changed. -/
theorem converted_iff (target : UserClass) (schoolClasses workgroups : Table String (List String))
    (u : UdmUser) :
    (∀ v, convert target schoolClasses workgroups u = some v → Converted target v) ↔
      (target ≠ .examStudent → convertAllowed target u schoolClasses = true →
        if u.cls.sameRoles target then Converted target u else Convertible target u) := by
  unfold convert
  by_cases hallowed : target ≠ .examStudent ∧ convertAllowed target u schoolClasses = true
  · rw [if_pos hallowed]
    by_cases hsame : u.cls.sameRoles target = true
    · rw [if_pos hsame, if_pos hsame]
      constructor
      · intro h _ _
        exact h u rfl
      · rintro h v hv
        cases hv
        exact h hallowed.1 hallowed.2
    · rw [if_neg hsame, if_neg hsame]
      constructor
      · intro h _ _
        exact converted_convertTo.mp (h _ rfl)
      · rintro h v hv
        cases hv
        exact converted_convertTo.mpr (h hallowed.1 hallowed.2)
  · rw [if_neg hallowed]
    constructor
    · intro _ htarget hyes
      exact absurd ⟨htarget, hyes⟩ hallowed
    · intro _ v hv
      cases hv

/-- A legal guardian of the school `A`. -/
def grete : UdmUser where
  cls := .legalGuardian
  school := ouNamedA
  schools := [ouNamedA]
  roles := ["legal_guardian:school:A"]
  name := "grete"
  container := .legalGuardian
  primaryGroup := .domainUsers "A"
  groups := [.domainUsers "A", .roleGroup .legalGuardians "A"]
  attributes := .empty

/-- A legal guardian that becomes a teacher stays in the group of the legal guardians. -/
theorem guardian_keeps_group :
    ∃ u v, u.cls = .legalGuardian ∧ convert .teacher .empty .empty u = some v ∧
      v.cls = .teacher ∧ ¬ Converted .teacher v := by
  have hallowed : UserClass.teacher ≠ .examStudent ∧
      convertAllowed .teacher grete .empty = true := by
    decide
  have hsame : ¬ grete.cls.sameRoles .teacher = true := by decide
  refine ⟨grete, convertTo .teacher .empty .empty grete, rfl, ?_, rfl, ?_⟩
  · rw [convert, if_pos hallowed, if_neg hsame]
  · intro h
    apply h.lost .legalGuardians (by decide) ouNamedA (List.mem_singleton.mpr rfl)
    exact mem_convertedGroups.mpr (.inl ⟨by decide, fun hrm => absurd hrm.1 (by decide)⟩)

end Kelvin
