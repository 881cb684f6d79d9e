import Mathlib.Data.List.Dedup
import Kelvin.Lib.RoleStrings
import Kelvin.Objects.Domain

/-!
# School role strings of the lib

The lib keeps the role strings of a user in step with its schools in three places: when the
user is created, when its schools are modified, and when it is moved to another school.

* `UserClass.defaultRoles`: the user classes with their default roles.
* `createRoles`, `updateUcsschoolRoles`, `doMoveRoles`: the three routines on the list of role
  strings.
* `mem_createRoles`, `mem_updateUcsschoolRoles`, `rolesAsDicts_doMoveRoles`: what they leave.
-/

namespace Kelvin

/-! ## Schools and classes -/

/-- The name of a school (OU). -/
structure Ou where
  name : String
  chars : ∀ c ∈ name.toList, asciiAlnum c = true ∨ c = '-' ∨ c = '_'
  head : ∃ c, name.toList.head? = some c ∧ asciiAlnum c = true
deriving DecidableEq

theorem Ou.not_mem {ou : Ou} {c : Char} (halnum : asciiAlnum c = false) (hdash : c ≠ '-')
    (hscore : c ≠ '_') : c ∉ ou.name.toList := by
  intro hc
  rcases ou.chars c hc with h | h | h
  · rw [halnum] at h
    cases h
  · exact hdash h
  · exact hscore h

theorem Ou.name_ne_empty (ou : Ou) : ou.name ≠ "" := by
  intro h
  obtain ⟨c, hc, -⟩ := ou.head
  rw [h] at hc
  cases hc

theorem Ou.name_ne_dash (ou : Ou) : ou.name ≠ "-" := by
  intro h
  obtain ⟨c, hc, halnum⟩ := ou.head
  rw [h] at hc
  cases hc
  exact absurd halnum (by decide)

theorem Ou.name_inj {a b : Ou} : a.name = b.name ↔ a = b := by
  constructor
  · intro h
    cases a
    cases b
    cases h
    rfl
  · rintro rfl
    rfl

/-- `all_roles`. -/
def allRoles : List String :=
  ["pupil", "teacher", "legal_guardian", "staff", "computer_room", "dc_backup", "dc_master",
    "dc_slave", "dc_slave_admin", "dc_slave_edu", "exam_user", "marketplace_share", "memberserver",
    "memberserver_admin", "memberserver_edu", "school", "school_admin", "school_admin_group",
    "school_class", "school_class_share", "single_master", "student", "workgroup",
    "workgroup_share", "school_domain_group", "school_teacher_group", "school_staff_group",
    "school_student_group", "school_legal_guardian_group", "ip_computer", "linux_computer",
    "mac_computer", "ubuntu_computer", "win_computer", "teacher_computer", "veyon-backend"]

inductive UserClass where
  | student
  | teacher
  | legalGuardian
  | schoolAdmin
  | staff
  | teachersAndStaff
  | examStudent
deriving DecidableEq

/-- `default_roles`. -/
def UserClass.defaultRoles : UserClass → List String
  | .student => ["student"]
  | .teacher => ["teacher"]
  | .legalGuardian => ["legal_guardian"]
  | .schoolAdmin => ["school_admin"]
  | .staff => ["staff"]
  | .teachersAndStaff => ["teacher", "staff"]
  | .examStudent => ["exam_user"]

/-- Default roles are known, so `create_ucsschool_role_string` does not raise for them. -/
theorem UserClass.defaultRoles_known (cls : UserClass) :
    ∀ role ∈ cls.defaultRoles, role ∈ allRoles := by
  cases cls <;> decide

theorem UserClass.defaultRoles_ne (cls : UserClass) : cls.defaultRoles ≠ [] := by
  cases cls <;> decide

theorem UserClass.defaultRoles_plain (cls : UserClass) :
    ∀ role ∈ cls.defaultRoles, role ≠ "" ∧ '\n' ∉ role.toList := by
  cases cls <;> decide

/-! ## Role strings of a school -/

/-- The school role strings of a class in a school. -/
def defaultDicts (cls : UserClass) (school : Ou) : List RoleDict :=
  cls.defaultRoles.map (fun role => ⟨role, "school", school.name⟩)

theorem mem_defaultDicts {cls : UserClass} {school : Ou} {d : RoleDict}
    (h : d ∈ defaultDicts cls school) : d.contextType = "school" ∧ d.context = school.name := by
  obtain ⟨role, -, rfl⟩ := List.mem_map.mp h
  exact ⟨rfl, rfl⟩

theorem exists_mem_defaultDicts (cls : UserClass) (school : Ou) :
    ∃ d, d ∈ defaultDicts cls school := by
  obtain ⟨role, hrole⟩ := List.exists_mem_of_ne_nil _ cls.defaultRoles_ne
  exact ⟨_, List.mem_map.mpr ⟨role, hrole, rfl⟩⟩

/-- The regular expression reads the role strings that the lib writes. -/
theorem rolesRegex_default {cls : UserClass} {school : Ou} {d : RoleDict}
    (h : d ∈ defaultDicts cls school) : rolesRegex d.text = some d := by
  obtain ⟨role, hrole, rfl⟩ := List.mem_map.mp h
  obtain ⟨hne, hline⟩ := cls.defaultRoles_plain role hrole
  have hcolon : ':' ∉ school.name.toList := Ou.not_mem (by decide) (by decide) (by decide)
  have hline' : '\n' ∉ school.name.toList := Ou.not_mem (by decide) (by decide) (by decide)
  have hschool : "school" ≠ "" ∧ ':' ∉ "school".toList := by decide
  apply rolesRegex_roleText
  · exact ⟨hne, hschool.1, school.name_ne_empty⟩
  · exact ⟨hschool.2, hcolon⟩
  · simp [roleText, hline, hline']

/-- `get_schools`. The order of a Python set is taken to be that of the list. -/
def getSchools (schools : List Ou) (school : Ou) : List Ou := (schools ++ [school]).dedup

theorem mem_getSchools {schools : List Ou} {school s : Ou} :
    s ∈ getSchools schools school ↔ s ∈ schools ∨ s = school := by
  simp [getSchools]

/-! ## The routines -/

/-- `create_without_hooks_roles`. -/
def createRoles (cls : UserClass) (roles : List String) (schools : List Ou) : List String :=
  if cls.defaultRoles ≠ [] ∧
      ¬ (rolesAsDicts roles).any (fun d => d.context ≠ "-" ∧ d.context ≠ "") then
    roles ++ cls.defaultRoles.flatMap (fun role =>
      schools.map (fun school => roleText role "school" school.name))
  else roles

/-- The default roles of a school, if no role string names it. -/
def addDefaults (cls : UserClass) (dicts : List RoleDict) (school : Ou) : List RoleDict :=
  if dicts.any (fun d => d.context = school.name) then dicts else dicts ++ defaultDicts cls school

/-- `update_ucsschool_roles`. The contexts of all context types count as old schools. -/
def updateUcsschoolRoles (cls : UserClass) (roles : List String) (curSchools : List Ou) :
    List String :=
  let dicts := rolesAsDicts roles
  let oldSchools := (dicts.map (·.context)).filter (· ≠ "-")
  let newSchools := curSchools.filter (fun s => s.name ∉ oldSchools)
  let removedSchools := oldSchools.filter (fun c => c ∉ curSchools.map (·.name))
  let extended := newSchools.foldl (addDefaults cls) dicts
  let kept := extended.filter (fun d =>
    ¬ (d.contextType = "school" ∧ d.context ∈ removedSchools))
  if newSchools = [] ∧ removedSchools = [] then roles else kept.map (·.text)

/-- The values that `in` compares. -/
inductive PyValue where
  | str (text : String)
  | dict (role : RoleDict)
deriving DecidableEq

/-- `do_move_roles`. The faulty roles are looked for as dictionaries in a tuple of texts. -/
def doMoveRoles (cls : UserClass) (roles : List String) (oldSchool newSchool : Ou) : List String :=
  let dicts := rolesAsDicts roles
  let schoolRoles := dicts.filter (fun d =>
    d.context ≠ oldSchool.name ∧ d.contextType = "school")
  let schoolRoles := schoolRoles.filter (fun d => PyValue.dict d ∈ allRoles.map PyValue.str)
  let nonSchoolRoles := dicts.filter (fun d =>
    d.context ≠ oldSchool.name ∧ d.contextType ≠ "school")
  let schoolRoles := if schoolRoles.all (fun d => d.context ≠ newSchool.name) then
    schoolRoles ++ defaultDicts cls newSchool else schoolRoles
  (schoolRoles ++ nonSchoolRoles).map (·.text)

/-! ## What the routines leave -/

/-- A role string names the school. -/
def NamedIn (school : Ou) (dicts : List RoleDict) : Prop :=
  ∃ d ∈ dicts, d.contextType = "school" ∧ d.context = school.name

theorem forall_mem_addDefaults {cls : UserClass} {dicts : List RoleDict} {s t : Ou} :
    (∀ e ∈ addDefaults cls dicts s, e.context ≠ t.name) ↔
      (∀ e ∈ dicts, e.context ≠ t.name) ∧ s ≠ t := by
  obtain ⟨role, hrole⟩ := exists_mem_defaultDicts cls s
  unfold addDefaults
  split
  · next hany =>
    obtain ⟨e, he, hctx⟩ := List.any_eq_true.mp hany
    simp only [decide_eq_true_eq] at hctx
    constructor
    · intro h
      exact ⟨h, fun hst => h e he (hst ▸ hctx)⟩
    · exact And.left
  · constructor
    · intro h
      refine ⟨fun e he => h e (List.mem_append_left _ he), fun hst => ?_⟩
      exact h role (List.mem_append_right _ hrole) (hst ▸ (mem_defaultDicts hrole).2)
    · rintro ⟨h, hst⟩ e he hctx
      rcases List.mem_append.mp he with he | he
      · exact h e he hctx
      · rw [(mem_defaultDicts he).2, Ou.name_inj] at hctx
        exact hst hctx

theorem mem_addDefaults {cls : UserClass} {dicts : List RoleDict} {s : Ou} {d : RoleDict} :
    d ∈ addDefaults cls dicts s ↔
      d ∈ dicts ∨ (∀ e ∈ dicts, e.context ≠ s.name) ∧ d ∈ defaultDicts cls s := by
  unfold addDefaults
  split
  · next hany =>
    obtain ⟨e, he, hctx⟩ := List.any_eq_true.mp hany
    simp only [decide_eq_true_eq] at hctx
    exact (or_iff_left (fun h => h.1 e he hctx)).symm
  · next hany =>
    have hnone : ∀ e ∈ dicts, e.context ≠ s.name := by simpa using hany
    rw [List.mem_append]
    exact or_congr_right (and_iff_right hnone).symm

/-- Schools that no role string names get their default roles. -/
theorem mem_foldl_addDefaults {cls : UserClass} {schools : List Ou} {dicts : List RoleDict}
    {d : RoleDict} : d ∈ schools.foldl (addDefaults cls) dicts ↔
      d ∈ dicts ∨ ∃ s ∈ schools, (∀ e ∈ dicts, e.context ≠ s.name) ∧ d ∈ defaultDicts cls s := by
  induction schools generalizing dicts with
  | nil => simp
  | cons s schools ih =>
    rw [List.foldl_cons, ih, mem_addDefaults]
    simp only [forall_mem_addDefaults]
    constructor
    · rintro ((hd | ⟨hnone, hd⟩) | ⟨t, ht, ⟨hnone, -⟩, hd⟩)
      · exact Or.inl hd
      · exact Or.inr ⟨s, List.mem_cons_self, hnone, hd⟩
      · exact Or.inr ⟨t, List.mem_cons_of_mem s ht, hnone, hd⟩
    · rintro (hd | ⟨t, ht, hnone, hd⟩)
      · exact Or.inl (Or.inl hd)
      · by_cases hst : s = t
        · subst hst
          exact Or.inl (Or.inr ⟨hnone, hd⟩)
        · have hmem : t ∈ schools := (List.mem_cons.mp ht).resolve_left (fun h => hst h.symm)
          exact Or.inr ⟨t, hmem, ⟨hnone, hst⟩, hd⟩

/-- Some role string has a context other than `-`. -/
def NamesContext (dicts : List RoleDict) : Prop :=
  ∃ d ∈ dicts, d.context ≠ "-" ∧ d.context ≠ ""

theorem mem_createRoles {cls : UserClass} {roles : List String} {schools : List Ou}
    {d : RoleDict} : d ∈ rolesAsDicts (createRoles cls roles schools) ↔
      d ∈ rolesAsDicts roles ∨
        ¬ NamesContext (rolesAsDicts roles) ∧ ∃ s ∈ schools, d ∈ defaultDicts cls s := by
  have hcond : ((rolesAsDicts roles).any fun d => d.context ≠ "-" ∧ d.context ≠ "") = true ↔
      NamesContext (rolesAsDicts roles) := by
    simp [NamesContext]
  unfold createRoles
  by_cases hnames : NamesContext (rolesAsDicts roles)
  · rw [if_neg (fun h => h.2 (hcond.mpr hnames))]
    simp [hnames]
  · rw [if_pos ⟨cls.defaultRoles_ne, fun h => hnames (hcond.mp h)⟩]
    have hdefault : ∀ d, d ∈ rolesAsDicts (cls.defaultRoles.flatMap (fun role =>
        schools.map (fun school => roleText role "school" school.name))) ↔
          ∃ s ∈ schools, d ∈ defaultDicts cls s := by
      intro d
      simp only [rolesAsDicts, List.mem_filterMap, List.mem_flatMap, List.mem_map]
      constructor
      · rintro ⟨text, ⟨role, hrole, s, hs, rfl⟩, htext⟩
        have hmem : (⟨role, "school", s.name⟩ : RoleDict) ∈ defaultDicts cls s :=
          List.mem_map_of_mem hrole
        have hread := rolesRegex_default hmem
        rw [RoleDict.text, htext, Option.some.injEq] at hread
        exact ⟨s, hs, hread ▸ hmem⟩
      · rintro ⟨s, hs, hd⟩
        obtain ⟨role, hrole, rfl⟩ := List.mem_map.mp hd
        have hread := rolesRegex_default hd
        rw [RoleDict.text] at hread
        exact ⟨roleText role "school" s.name, ⟨role, hrole, s, hs, rfl⟩, hread⟩
    rw [rolesAsDicts, List.filterMap_append, List.mem_append]
    exact or_congr_right ((hdefault d).trans (and_iff_right hnames).symm)

/-- A school role string names a school that is not among the given ones. -/
def Foreign (curSchools : List Ou) (d : RoleDict) : Prop :=
  d.contextType = "school" ∧ d.context ≠ "-" ∧ ∀ s ∈ curSchools, d.context ≠ s.name

theorem rolesRegex_foldl_addDefaults {cls : UserClass} {schools : List Ou} {roles : List String}
    {d : RoleDict} (h : d ∈ schools.foldl (addDefaults cls) (rolesAsDicts roles)) :
    rolesRegex d.text = some d := by
  rcases mem_foldl_addDefaults.mp h with hd | ⟨s, -, -, hd⟩
  · exact rolesRegex_of_mem hd
  · exact rolesRegex_default hd

theorem mem_updateUcsschoolRoles {cls : UserClass} {roles : List String} {curSchools : List Ou}
    {d : RoleDict} : d ∈ rolesAsDicts (updateUcsschoolRoles cls roles curSchools) ↔
      (d ∈ rolesAsDicts roles ∧ ¬ Foreign curSchools d) ∨
        ∃ s ∈ curSchools, (∀ e ∈ rolesAsDicts roles, e.context ≠ s.name) ∧
          d ∈ defaultDicts cls s := by
  unfold updateUcsschoolRoles
  extract_lets dicts oldSchools newSchools removedSchools extended kept
  have hold : ∀ c, c ∈ oldSchools ↔ (∃ e ∈ dicts, e.context = c) ∧ c ≠ "-" := by
    simp [oldSchools]
  have hnew : ∀ s, s ∈ newSchools ↔ s ∈ curSchools ∧ ∀ e ∈ dicts, e.context ≠ s.name := by
    intro s
    simp only [newSchools, List.mem_filter, decide_eq_true_eq, hold]
    simp [s.name_ne_dash]
  have hremoved : ∀ d ∈ dicts, d.contextType = "school" ∧ d.context ∈ removedSchools ↔
      Foreign curSchools d := by
    intro d hd
    have hmem : d.context ∈ oldSchools ↔ d.context ≠ "-" := by
      rw [hold]
      exact and_iff_right ⟨d, hd, rfl⟩
    simp only [removedSchools, List.mem_filter, decide_eq_true_eq, hmem, Foreign, List.mem_map,
      not_exists, not_and]
    simp only [ne_eq, eq_comm]
  split
  · next hnone =>
    obtain ⟨hnew', hremoved'⟩ := hnone
    constructor
    · intro hd
      refine Or.inl ⟨hd, fun hforeign => ?_⟩
      have := ((hremoved d hd).mpr hforeign).2
      rw [hremoved'] at this
      cases this
    · rintro (⟨hd, -⟩ | ⟨s, hs, hnamed, -⟩)
      · exact hd
      · have := (hnew s).mpr ⟨hs, hnamed⟩
        rw [hnew'] at this
        cases this
  · rw [rolesAsDicts_texts (fun d hd => rolesRegex_foldl_addDefaults (List.mem_of_mem_filter hd))]
    simp only [List.mem_filter, decide_eq_true_eq, mem_foldl_addDefaults, hnew]
    constructor
    · rintro ⟨hd | ⟨s, ⟨hs, hnamed⟩, -, hd⟩, hkept⟩
      · exact Or.inl ⟨hd, fun hforeign => hkept ((hremoved d hd).mpr hforeign)⟩
      · exact Or.inr ⟨s, hs, hnamed, hd⟩
    · rintro (⟨hd, hforeign⟩ | ⟨s, hs, hnamed, hd⟩)
      · exact ⟨Or.inl hd, fun hkept => hforeign ((hremoved d hd).mp hkept)⟩
      · refine ⟨Or.inr ⟨s, ⟨hs, hnamed⟩, hnamed, hd⟩, fun hkept => ?_⟩
        have hctx := (List.mem_filter.mp hkept.2).2
        rw [(mem_defaultDicts hd).2, decide_eq_true_eq] at hctx
        exact hctx (List.mem_map_of_mem hs)

/-- A move keeps no school role string: no dictionary is among the texts of `all_roles`. -/
theorem doMoveRoles_eq (cls : UserClass) (roles : List String) (oldSchool newSchool : Ou) :
    doMoveRoles cls roles oldSchool newSchool =
      (defaultDicts cls newSchool ++ (rolesAsDicts roles).filter (fun d =>
        d.context ≠ oldSchool.name ∧ d.contextType ≠ "school")).map (·.text) := by
  have hfaulty : ∀ d : RoleDict, PyValue.dict d ∉ allRoles.map PyValue.str := by
    intro d hd
    obtain ⟨text, -, heq⟩ := List.mem_map.mp hd
    cases heq
  unfold doMoveRoles
  simp only [hfaulty, decide_false, List.filter_false, List.all_nil, if_true]
  rfl

theorem rolesAsDicts_doMoveRoles (cls : UserClass) (roles : List String) (oldSchool newSchool : Ou) :
    rolesAsDicts (doMoveRoles cls roles oldSchool newSchool) =
      defaultDicts cls newSchool ++ (rolesAsDicts roles).filter (fun d =>
        d.context ≠ oldSchool.name ∧ d.contextType ≠ "school") := by
  rw [doMoveRoles_eq]
  apply rolesAsDicts_texts
  intro d hd
  rcases List.mem_append.mp hd with hd | hd
  · exact rolesRegex_default hd
  · exact rolesRegex_of_mem (List.mem_of_mem_filter hd)

theorem mem_rolesAsDicts_doMoveRoles {cls : UserClass} {roles : List String}
    {oldSchool newSchool : Ou} {d : RoleDict} :
    d ∈ rolesAsDicts (doMoveRoles cls roles oldSchool newSchool) ↔
      d ∈ defaultDicts cls newSchool ∨
        d ∈ rolesAsDicts roles ∧ d.contextType ≠ "school" ∧ d.context ≠ oldSchool.name := by
  rw [rolesAsDicts_doMoveRoles, List.mem_append, List.mem_filter, decide_eq_true_eq]
  tauto

end Kelvin
