import Kelvin.Data.Renaming
import Kelvin.Lib.RoleParsers

/-!
# The letter case of school names

`fix_case_of_ous` writes the names of the schools of a new user as the directory does: in its school
and schools, in its role strings and in the keys of its classes and workgroups. A key in another
spelling is renamed. Where several keys become one, only one list of groups is left.

* `OuSearch`: the search for a school.
* `fixCaseOfOus`: the correction.
* `fixGroups_eq_ok`, `fixRoles_isOk`: when the groups and the role strings can be corrected.
* `losesNothing_iff`: when nothing is lost.
-/

namespace Kelvin

section Fix

variable [Runtime]

/-- `search_schools_in_ldap`: the first school with a name. The directory does not tell letter case
apart, and it finds a school under its own name. -/
structure OuSearch where
  first : String → Option String
  first_congr {a b} : Runtime.lower a = Runtime.lower b → first a = first b
  first_self {a c} : first a = some c → first c = some c

inductive OuError where
  /-- The `HTTPException` with the status 404. -/
  | noSchool (ou : String)
  | role (e : RoleStringError)
  | valueError
  | keyError
deriving DecidableEq

/-- The names of groups for each school. -/
abbrev GroupDict := OrderedDict String (List String)

/-- What `fix_case_of_ous` reads and writes of the new user. A user without a school has none. -/
structure RequestedUser where
  school : Option String
  schools : List String
  ucsschoolRoles : List String
  schoolClasses : GroupDict
  workgroups : GroupDict

def searchSchoolsInLdap (dir : OuSearch) (ou : String) : Except OuError String :=
  match dir.first ou with
  | some school => .ok school
  | none => .error (.noSchool ou)

/-- "same OU but different upper/lower case" -/
def Respelled (name school : String) : Prop :=
  Runtime.lower name = Runtime.lower school ∧ name ≠ school

instance (name school : String) : Decidable (Respelled name school) :=
  inferInstanceAs (Decidable (_ ∧ _))

/-- The loop over the schools for one role string. -/
def fixRoleText (text role context : String) :
    List String → List String → Except OuError (List String)
  | [], roles => .ok roles
  | school :: schools, roles =>
    if Respelled context school then
      if text ∈ roles then
        match createUcsschoolRoleString role school (some "school") (some "") with
        | .ok new => fixRoleText text role context schools (roles.erase text ++ [new])
        | .error e => .error (.role e)
      else .error .valueError
    else fixRoleText text role context schools roles

/-- The loop over the role strings. -/
def fixRoles (schools : List String) : List String → List String → Except OuError (List String)
  | [], roles => .ok roles
  | text :: texts, roles =>
    match getRoleInfo text with
    | .error e => .error (.role e)
    | .ok (role, contextType, context) =>
      if contextType ≠ "school" then fixRoles schools texts roles
      else fixRoleText text role context schools roles >>= fixRoles schools texts

/-- The loop over the schools for one key. -/
def fixKey (ou : String) :
    List String → GroupDict → Except OuError (GroupDict)
  | [], groups => .ok groups
  | school :: schools, groups =>
    if Respelled ou school then
      match groups.rename ou school with
      | some groups => fixKey ou schools groups
      | none => .error .keyError
    else fixKey ou schools groups

/-- The loop over the keys. -/
def fixKeys (schools : List String) :
    List String → GroupDict → Except OuError (GroupDict)
  | [], groups => .ok groups
  | ou :: ous, groups => fixKey ou schools groups >>= fixKeys schools ous

def fixGroups (schools : List String) (groups : GroupDict) :
    Except OuError (GroupDict) :=
  fixKeys schools groups.keys groups

/-- `fix_case_of_ous`. -/
def fixCaseOfOus (dir : OuSearch) (user : RequestedUser) : Except OuError RequestedUser := do
  let school ← user.school.mapM (searchSchoolsInLdap dir)
  let schools ← user.schools.mapM (searchSchoolsInLdap dir)
  let ucsschoolRoles ← fixRoles schools user.ucsschoolRoles user.ucsschoolRoles
  let schoolClasses ← fixGroups schools user.schoolClasses
  let workgroups ← fixGroups schools user.workgroups
  return { school, schools, ucsschoolRoles, schoolClasses, workgroups }

/-! ## The keys of the groups -/

/-- The school to which a key is corrected. -/
def correction (schools : List String) (ou : String) : Option String :=
  schools.find? (Respelled ou)

/-- In how many entries of the schools a name stands in another spelling. -/
def respellings (schools : List String) (name : String) : ℕ := schools.countP (Respelled name)

theorem correction_eq_some {schools : List String} {ou school : String}
    (h : correction schools ou = some school) : school ∈ schools ∧ Respelled ou school :=
  ⟨List.mem_of_find?_eq_some h, by simpa using List.find?_some h⟩

theorem correction_eq_none {schools : List String} {ou : String} :
    correction schools ou = none ↔ respellings schools ou = 0 := by
  rw [correction, respellings, List.find?_eq_none, List.countP_eq_zero]

theorem fixKey_eq_ok {ou : String} {schools : List String} {groups after : GroupDict} :
    fixKey ou schools groups = .ok after ↔ respellings schools ou ≤ 1 ∧
      (correction schools ou).elim (after = groups) (fun s => groups.rename ou s = some after) := by
  induction schools generalizing groups with
  | nil => simp [fixKey, correction, respellings, eq_comm]
  | cons school schools ih =>
    by_cases h : Respelled ou school
    · rw [fixKey, if_pos h, respellings, List.countP_cons_of_pos (by simpa using h), correction,
        List.find?_cons_of_pos (by simpa using h), Option.elim_some, ← respellings]
      cases hrename : groups.rename ou school with
      | none => simp
      | some groups' =>
        have hgone : ∀ s, groups'.rename ou s ≠ some after := by
          intro s hs
          obtain ⟨value, hvalue, -⟩ := OrderedDict.rename_eq_some.mp hs
          rw [OrderedDict.lookup_rename_old hrename h.2] at hvalue
          cases hvalue
        dsimp only
        rw [ih]
        cases hfind : correction schools ou with
        | none => simp [correction_eq_none.mp hfind, eq_comm]
        | some s =>
          have hpos : respellings schools ou ≠ 0 := by
            rw [ne_eq, ← correction_eq_none, hfind]
            exact Option.some_ne_none s
          simp only [Option.elim_some, hgone, and_false, false_iff, not_and]
          omega
    · rw [fixKey, if_neg h, respellings, List.countP_cons_of_neg (by simpa using h), correction,
        List.find?_cons_of_neg (by simpa using h), ← respellings, ← correction, ih]

theorem fixKeys_eq_ok {schools ous : List String} {groups after : GroupDict} :
    fixKeys schools ous groups = .ok after ↔ (∀ ou ∈ ous, respellings schools ou ≤ 1) ∧
      OrderedDict.renameAll (correction schools) ous groups = some after := by
  induction ous generalizing groups with
  | nil => simp [fixKeys, OrderedDict.renameAll]
  | cons ou ous ih =>
    rw [fixKeys, bind_eq_ok, List.forall_mem_cons, OrderedDict.renameAll]
    simp only [fixKey_eq_ok, ih]
    cases correction schools ou with
    | none =>
      simp only [Option.elim_none]
      constructor
      · rintro ⟨_, ⟨honce, rfl⟩, hrest, hrun⟩
        exact ⟨⟨honce, hrest⟩, hrun⟩
      · rintro ⟨⟨honce, hrest⟩, hrun⟩
        exact ⟨groups, ⟨honce, rfl⟩, hrest, hrun⟩
    | some school =>
      simp only [Option.elim_some, Option.bind_eq_some_iff]
      constructor
      · rintro ⟨groups', ⟨honce, hrename⟩, hrest, hrun⟩
        exact ⟨⟨honce, hrest⟩, groups', hrename, hrun⟩
      · rintro ⟨⟨honce, hrest⟩, groups', hrename, hrun⟩
        exact ⟨groups', ⟨honce, hrename⟩, hrest, hrun⟩

/-! ## What happens to the groups -/

/-- The names are the ones of the directory. -/
def AllFound (dir : OuSearch) (schools : List String) : Prop :=
  ∀ school ∈ schools, dir.first school = some school

variable {dir : OuSearch} {schools : List String}

theorem first_of_correction (hschools : AllFound dir schools) {ou school : String}
    (h : correction schools ou = some school) : dir.first ou = some school := by
  obtain ⟨hmem, hrespelled⟩ := correction_eq_some h
  rw [dir.first_congr hrespelled.1, hschools school hmem]

/-- A name that others are corrected to is not corrected itself. -/
theorem correction_of_first (hschools : AllFound dir schools) {school : String}
    (h : dir.first school = some school) : correction schools school = none := by
  cases hcorrection : correction schools school with
  | none => rfl
  | some other =>
    have hsame := (first_of_correction hschools hcorrection).symm.trans h
    exact absurd (Option.some.inj hsame).symm (correction_eq_some hcorrection).2.2

theorem correction_correction (hschools : AllFound dir schools) (ou school : String)
    (h : correction schools ou = some school) : correction schools school = none :=
  correction_of_first hschools (dir.first_self (first_of_correction hschools h))

theorem lookup_fixGroups (hschools : AllFound dir schools)
    {groups after : GroupDict} (h : fixGroups schools groups = .ok after)
    (ou : String) : after.lookup ou =
      (OrderedDict.lastTo (correction schools) ou groups.keys).elim
        (if ou ∈ groups.keys ∧ correction schools ou ≠ none then none else groups.lookup ou)
        (fun k => groups.lookup k) := by
  obtain ⟨-, hrun⟩ := fixKeys_eq_ok.mp h
  have htarget := correction_correction hschools
  obtain ⟨after', hrun', hlookup⟩ :=
    OrderedDict.lookup_renameAll htarget groups.keys_nodup fun k hk => hk
  obtain rfl := Option.some.inj (hrun.symm.trans hrun')
  exact hlookup ou

theorem fixGroups_isOk (hschools : AllFound dir schools) {groups : GroupDict} :
    (∃ after, fixGroups schools groups = .ok after) ↔
      ∀ ou ∈ groups.keys, respellings schools ou ≤ 1 := by
  constructor
  · rintro ⟨after, h⟩
    exact (fixKeys_eq_ok.mp h).1
  · intro honce
    have htarget := correction_correction hschools
    obtain ⟨after, hrun, -⟩ :=
      OrderedDict.lookup_renameAll htarget groups.keys_nodup fun k hk => hk
    exact ⟨after, fixKeys_eq_ok.mpr ⟨honce, hrun⟩⟩

/-- The groups under a key. -/
def groupsOf (groups : GroupDict) (ou : String) : List String :=
  (groups.lookup ou).getD []

/-- The keys are corrected, and each school has the groups of all its spellings. -/
structure GroupsCorrected (dir : OuSearch) (groups after : GroupDict) :
    Prop where
  keys : ∀ ou ∈ after.keys, ∀ school, dir.first ou = some school → ou = school
  union : ∀ school, dir.first school = some school → ∀ name, name ∈ groupsOf after school ↔
    ∃ ou, dir.first ou = some school ∧ name ∈ groupsOf groups ou
  unknown : ∀ ou, dir.first ou = none → after.lookup ou = groups.lookup ou

/-- Every key in another spelling is corrected once, and of the keys that are corrected to one school
the last one has the groups of all its spellings. -/
structure CaseKept (dir : OuSearch) (schools : List String)
    (groups : GroupDict) : Prop where
  once : ∀ ou ∈ groups.keys, ∀ school, dir.first ou = some school → ou ≠ school →
    respellings schools ou = 1
  last : ∀ before ou after school, groups.keys = before ++ ou :: after →
    dir.first ou = some school → ou ≠ school →
    (∀ k ∈ after, dir.first k = some school → k = school) →
    ∀ k, dir.first k = some school → groupsOf groups k ⊆ groupsOf groups ou

omit [Runtime] in
theorem mem_keys_of_mem_groupsOf {groups : GroupDict} {ou name : String}
    (h : name ∈ groupsOf groups ou) : ou ∈ groups.keys := by
  by_contra hnot
  rw [groupsOf, AList.lookup_eq_none.mpr hnot] at h
  exact List.not_mem_nil h

theorem CaseKept.respellings_le (hschools : AllFound dir schools)
    {groups : GroupDict} (h : CaseKept dir schools groups) :
    ∀ ou ∈ groups.keys, respellings schools ou ≤ 1 := by
  intro ou hou
  cases hcorrection : correction schools ou with
  | none => exact (correction_eq_none.mp hcorrection).trans_le (Nat.zero_le 1)
  | some school =>
    have hfirst := first_of_correction hschools hcorrection
    exact (h.once ou hou school hfirst (correction_eq_some hcorrection).2.2).le

/-- A key in another spelling is corrected to its school. -/
theorem CaseKept.correction_eq (hschools : AllFound dir schools)
    {groups : GroupDict} (h : CaseKept dir schools groups) {ou school : String}
    (hou : ou ∈ groups.keys) (hfirst : dir.first ou = some school) (hne : ou ≠ school) :
    correction schools ou = some school := by
  cases hcorrection : correction schools ou with
  | none =>
    have hzero := correction_eq_none.mp hcorrection
    have hone := h.once ou hou school hfirst hne
    omega
  | some other => exact (first_of_correction hschools hcorrection).symm.trans hfirst

theorem groupsCorrected_of_caseKept (hschools : AllFound dir schools)
    {groups after : GroupDict} (h : CaseKept dir schools groups)
    (hfix : fixGroups schools groups = .ok after) : GroupsCorrected dir groups after where
  keys := by
    intro ou hou school hfirst
    by_contra hne
    have hlookup := lookup_fixGroups hschools hfix ou
    cases hlast : OrderedDict.lastTo (correction schools) ou groups.keys with
    | some k =>
      have hk := first_of_correction hschools (OrderedDict.lastTo_eq_some.mp hlast).1
      exact hne (Option.some.inj ((dir.first_self hk).symm.trans hfirst))
    | none =>
      have hnone : after.lookup ou = none := by
        rw [hlookup, hlast, Option.elim_none]
        by_cases hmem : ou ∈ groups.keys
        · rw [if_pos ⟨hmem, by rw [h.correction_eq hschools hmem hfirst hne]; simp⟩]
        · rw [if_neg (fun hboth => hmem hboth.1)]
          exact AList.lookup_eq_none.mpr hmem
      exact AList.lookup_eq_none.mp hnone hou
  union := by
    intro school hfirst name
    have hself := correction_of_first hschools hfirst
    have hlookup := lookup_fixGroups hschools hfix school
    cases hlast : OrderedDict.lastTo (correction schools) school groups.keys with
    | some k =>
      obtain ⟨hk, before, rest, hkeys, hrest⟩ := OrderedDict.lastTo_eq_some.mp hlast
      have hafter : groupsOf after school = groupsOf groups k := by
        rw [groupsOf, hlookup, hlast, Option.elim_some, groupsOf]
      rw [hafter]
      constructor
      · intro hname
        exact ⟨k, first_of_correction hschools hk, hname⟩
      · rintro ⟨ou, hou, hname⟩
        refine h.last before k rest school hkeys (first_of_correction hschools hk)
          (correction_eq_some hk).2.2 (fun k' hk' hfirst' => ?_) ou hou hname
        by_contra hne
        have hmem : k' ∈ groups.keys := by
          rw [hkeys]
          exact List.mem_append_right _ (List.mem_cons_of_mem _ hk')
        exact hrest k' hk' (h.correction_eq hschools hmem hfirst' hne)
    | none =>
      have hafter : groupsOf after school = groupsOf groups school := by
        rw [groupsOf, hlookup, hlast, Option.elim_none, if_neg (fun hboth => hboth.2 hself),
          groupsOf]
      rw [hafter]
      constructor
      · intro hname
        exact ⟨school, hfirst, hname⟩
      · rintro ⟨ou, hou, hname⟩
        by_cases hne : ou = school
        · exact hne ▸ hname
        · have hmem := mem_keys_of_mem_groupsOf hname
          exact absurd (h.correction_eq hschools hmem hou hne)
            (OrderedDict.lastTo_eq_none.mp hlast ou hmem)
  unknown := by
    intro ou hnone
    rw [lookup_fixGroups hschools hfix ou]
    cases hlast : OrderedDict.lastTo (correction schools) ou groups.keys with
    | some k =>
      have hk := first_of_correction hschools (OrderedDict.lastTo_eq_some.mp hlast).1
      rw [dir.first_self hk] at hnone
      cases hnone
    | none =>
      rw [Option.elim_none, if_neg]
      rintro ⟨-, hcorrection⟩
      obtain ⟨school, hschool⟩ := Option.ne_none_iff_exists'.mp hcorrection
      rw [first_of_correction hschools hschool] at hnone
      cases hnone

theorem caseKept_of_groupsCorrected (hschools : AllFound dir schools)
    {groups after : GroupDict} (h : GroupsCorrected dir groups after)
    (hfix : fixGroups schools groups = .ok after) : CaseKept dir schools groups := by
  have honce : ∀ ou ∈ groups.keys, ∀ school, dir.first ou = some school → ou ≠ school →
      respellings schools ou = 1 := by
    intro ou hou school hfirst hne
    have hle := (fixGroups_isOk hschools).mp ⟨after, hfix⟩ ou hou
    by_contra hnot
    have hnone : correction schools ou = none := correction_eq_none.mpr (by omega)
    have hlast : OrderedDict.lastTo (correction schools) ou groups.keys = none := by
      refine OrderedDict.lastTo_eq_none.mpr fun k hk hcorrection => ?_
      have hself := dir.first_self (first_of_correction hschools hcorrection)
      exact hne (Option.some.inj (hself.symm.trans hfirst))
    have hlookup := lookup_fixGroups hschools hfix ou
    rw [hlast, Option.elim_none, if_neg (fun hboth => hboth.2 hnone)] at hlookup
    refine hne (h.keys ou ?_ school hfirst)
    rw [← AList.mem_keys, ← AList.lookup_isSome, hlookup, AList.lookup_isSome]
    exact hou
  refine ⟨honce, ?_⟩
  intro before ou rest school hkeys hfirst hne hrest k hk name hname
  have hmem : ou ∈ groups.keys := by
    rw [hkeys]
    exact List.mem_append_right _ List.mem_cons_self
  have hcorrection : correction schools ou = some school := by
    cases hcorrection : correction schools ou with
    | none =>
      have hzero := correction_eq_none.mp hcorrection
      have hone := honce ou hmem school hfirst hne
      omega
    | some other => exact (first_of_correction hschools hcorrection).symm.trans hfirst
  have hlast : OrderedDict.lastTo (correction schools) school groups.keys = some ou := by
    refine OrderedDict.lastTo_eq_some.mpr ⟨hcorrection, before, rest, hkeys, ?_⟩
    intro k' hk' hcorrection'
    have heq := hrest k' hk' (first_of_correction hschools hcorrection')
    exact (correction_eq_some hcorrection').2.2 heq
  have hself := dir.first_self hfirst
  have hafter : groupsOf after school = groupsOf groups ou := by
    rw [groupsOf, lookup_fixGroups hschools hfix school, hlast, Option.elim_some, groupsOf]
  rw [← hafter]
  exact (h.union school hself name).mpr ⟨k, hk, hname⟩

/-- The correction loses no groups if and only if every key in another spelling is corrected once and
the last one for a school has all its groups. -/
theorem groupsCorrected_iff (hschools : AllFound dir schools)
    {groups : GroupDict} :
    (∃ after, fixGroups schools groups = .ok after ∧ GroupsCorrected dir groups after) ↔
      CaseKept dir schools groups := by
  constructor
  · rintro ⟨after, hfix, hcorrected⟩
    exact caseKept_of_groupsCorrected hschools hcorrected hfix
  · intro hkept
    obtain ⟨after, hfix⟩ := (fixGroups_isOk hschools).mpr (hkept.respellings_le hschools)
    exact ⟨after, hfix, groupsCorrected_of_caseKept hschools hkept hfix⟩

/-! ## The role strings -/

/-- A role string of the context type `school`. -/
def IsSchoolText (text role context : String) : Prop :=
  getRoleInfo text = .ok (role, "school", context)

omit [Runtime] in
theorem createUcsschoolRoleString_of_isSchoolText {text role context : String}
    (h : IsSchoolText text role context) (school : String) :
    createUcsschoolRoleString role school (some "school") (some "") =
      .ok (roleText role "school" school) := by
  have hknown : role ∈ allRoles := (getRoleInfo_eq_ok.mp h).2 (by decide)
  have htype : "school" ∈ allContextTypes := by decide
  simp [createUcsschoolRoleString, optionalText, htype, hknown]

/-- A role string with the name of a school from the directory is none that is corrected. -/
theorem roleText_ne (hschools : AllFound dir schools)
    {text role context text' role' context' : String}
    (h : IsSchoolText text role context) (h' : IsSchoolText text' role' context')
    (hrespelled : respellings schools context' ≠ 0) {school : String} (hmem : school ∈ schools) :
    roleText role "school" school ≠ text' := by
  intro heq
  obtain ⟨-, hrole, -, -⟩ := splitThree_eq_some.mp (getRoleInfo_eq_ok.mp h).1
  obtain ⟨hsplit', -⟩ := getRoleInfo_eq_ok.mp h'
  have htwo := splitThree_ne_none_iff.mp (hsplit' ▸ Option.some_ne_none _)
  have hschool : ':' ∉ school.toList := by
    rw [← heq] at htwo
    simp only [roleText, String.toList_append, List.count_append] at htwo
    have hcolon : (":" : String).toList.count ':' = 1 := by decide
    rw [← List.count_eq_zero]
    omega
  have hsplit := splitThree_eq_some.mpr ⟨heq.symm, hrole, by decide, hschool⟩
  rw [hsplit'] at hsplit
  obtain ⟨-, -, rfl⟩ : role' = role ∧ "school" = "school" ∧ context' = school := by
    simpa using hsplit
  rw [ne_eq, ← correction_eq_none] at hrespelled
  exact hrespelled (correction_of_first hschools (hschools _ hmem))

/-- A role string is taken away as often as its school stands in the list in another spelling, and
role strings that still have to be corrected stay. -/
theorem count_of_fixRoleText (hschools : AllFound dir schools) {text role context : String}
    (h : IsSchoolText text role context) {ous : List String} (hsub : ∀ s ∈ ous, s ∈ schools)
    {roles after : List String} (hfix : fixRoleText text role context ous roles = .ok after) :
    after.count text + respellings ous context = roles.count text ∧
      ∀ text' role' context', IsSchoolText text' role' context' →
        respellings schools context' ≠ 0 → text' ≠ text → after.count text' = roles.count text' := by
  induction ous generalizing roles with
  | nil =>
    cases hfix
    exact ⟨rfl, fun _ _ _ _ _ _ => rfl⟩
  | cons school ous ih =>
    have hrest : ∀ s ∈ ous, s ∈ schools := fun s hs => hsub s (List.mem_cons_of_mem _ hs)
    by_cases hrespelled : Respelled context school
    · rw [fixRoleText, if_pos hrespelled] at hfix
      by_cases hmem : text ∈ roles
      · simp only [if_pos hmem, createUcsschoolRoleString_of_isSchoolText h] at hfix
        have hschool : school ∈ schools := hsub school List.mem_cons_self
        have hne : respellings schools context ≠ 0 := by
          rw [respellings, Nat.ne_zero_iff_zero_lt, List.countP_pos_iff]
          exact ⟨school, hschool, decide_eq_true hrespelled⟩
        obtain ⟨hcount, hother⟩ := ih hrest hfix
        constructor
        · rw [respellings, List.countP_cons_of_pos (by simpa using hrespelled), ← respellings]
          rw [List.count_append, List.count_erase_self,
            List.count_singleton, if_neg (by simpa using roleText_ne hschools h h hne hschool)]
            at hcount
          have hpos := List.count_pos_iff.mpr hmem
          omega
        · intro text' role' context' h' hne' htext
          rw [hother text' role' context' h' hne' htext, List.count_append,
            List.count_erase_of_ne htext, List.count_singleton,
            if_neg (by simpa using roleText_ne hschools h h' hne' hschool), Nat.add_zero]
      · rw [if_neg hmem] at hfix
        cases hfix
    · rw [fixRoleText, if_neg hrespelled] at hfix
      rw [respellings, List.countP_cons_of_neg (by simpa using hrespelled), ← respellings]
      exact ih hrest hfix

omit dir schools in
theorem fixRoleText_isOk {text role context : String} (h : IsSchoolText text role context)
    {ous roles : List String}
    (hcount : respellings ous context ≤ roles.count text) :
    ∃ after, fixRoleText text role context ous roles = .ok after := by
  induction ous generalizing roles with
  | nil => exact ⟨roles, rfl⟩
  | cons school ous ih =>
    by_cases hrespelled : Respelled context school
    · rw [respellings, List.countP_cons_of_pos (by simpa using hrespelled), ← respellings] at hcount
      have hmem : text ∈ roles := List.count_pos_iff.mp (by omega)
      simp only [fixRoleText, if_pos hrespelled, if_pos hmem,
        createUcsschoolRoleString_of_isSchoolText h]
      apply ih
      rw [List.count_append, List.count_erase_self]
      omega
    · rw [respellings, List.countP_cons_of_neg (by simpa using hrespelled), ← respellings] at hcount
      rw [fixRoleText, if_neg hrespelled]
      exact ih hcount

theorem count_of_fixRoles (hschools : AllFound dir schools) {texts roles after : List String}
    (hfix : fixRoles schools texts roles = .ok after) :
    (∀ text ∈ texts, ∃ info, getRoleInfo text = .ok info) ∧
      ∀ text role context, IsSchoolText text role context → respellings schools context ≠ 0 →
        texts.count text * respellings schools context ≤ roles.count text := by
  induction texts generalizing roles with
  | nil => simp
  | cons first texts ih =>
    cases hinfo : getRoleInfo first with
    | error e =>
      simp only [fixRoles, hinfo] at hfix
      cases hfix
    | ok info =>
      obtain ⟨role, contextType, context⟩ := info
      simp only [fixRoles, hinfo] at hfix
      by_cases htype : contextType = "school"
      · subst htype
        simp only [ne_eq, not_true_eq_false, if_false] at hfix
        obtain ⟨roles', hfirst, hrest⟩ := bind_eq_ok.mp hfix
        obtain ⟨hown, hother⟩ := count_of_fixRoleText hschools hinfo (fun _ hs => hs) hfirst
        obtain ⟨hread, hcounts⟩ := ih hrest
        refine ⟨List.forall_mem_cons.mpr ⟨⟨_, hinfo⟩, hread⟩, fun text role' context' h hne => ?_⟩
        have hcount := hcounts text role' context' h hne
        by_cases htext : text = first
        · subst htext
          obtain ⟨-, -, rfl⟩ : role = role' ∧ "school" = "school" ∧ context = context' := by
            simpa using hinfo.symm.trans h
          rw [List.count_cons_self, Nat.add_mul, Nat.one_mul]
          omega
        · rw [List.count_cons_of_ne (Ne.symm htext)]
          exact hcount.trans_eq (hother text role' context' h hne htext)
      · rw [if_pos htype] at hfix
        obtain ⟨hread, hcounts⟩ := ih hfix
        refine ⟨List.forall_mem_cons.mpr ⟨⟨_, hinfo⟩, hread⟩, fun text role' context' h hne => ?_⟩
        have htext : first ≠ text := by
          rintro rfl
          obtain ⟨-, rfl, -⟩ : role = role' ∧ contextType = "school" ∧ context = context' := by
            simpa using hinfo.symm.trans h
          exact htype rfl
        rw [List.count_cons_of_ne htext]
        exact hcounts text role' context' h hne

/-- Every role string can be read, and none of a school is corrected twice. -/
def RolesOnce (schools roles : List String) : Prop :=
  ∀ text ∈ roles, ∃ role contextType context,
    getRoleInfo text = .ok (role, contextType, context) ∧
      (contextType = "school" → respellings schools context ≤ 1)

theorem fixRoles_isOk_of_once (hschools : AllFound dir schools) {texts roles : List String}
    (honce : RolesOnce schools texts) (hcount : ∀ text role context,
      IsSchoolText text role context → respellings schools context ≠ 0 →
        texts.count text ≤ roles.count text) :
    ∃ after, fixRoles schools texts roles = .ok after := by
  induction texts generalizing roles with
  | nil => exact ⟨roles, rfl⟩
  | cons first texts ih =>
    obtain ⟨role, contextType, context, hinfo, hschool⟩ := honce first List.mem_cons_self
    have honce' : RolesOnce schools texts := fun text h => honce text (List.mem_cons_of_mem _ h)
    simp only [fixRoles, hinfo]
    by_cases htype : contextType = "school"
    · subst htype
      simp only [ne_eq, not_true_eq_false, if_false]
      have hle := hschool rfl
      obtain ⟨roles', hfirst⟩ : ∃ roles', fixRoleText first role context schools roles = .ok roles' := by
        refine fixRoleText_isOk hinfo ?_
        by_cases hzero : respellings schools context = 0
        · omega
        · have hfirst := hcount first role context hinfo hzero
          rw [List.count_cons_self] at hfirst
          omega
      obtain ⟨hown, hother⟩ := count_of_fixRoleText hschools hinfo (fun _ hs => hs) hfirst
      obtain ⟨after, hrest⟩ := @ih roles' honce' fun text role' context' h hne => by
        have hle' := hcount text role' context' h hne
        by_cases htext : text = first
        · subst htext
          rw [List.count_cons_self] at hle'
          omega
        · rw [List.count_cons_of_ne (Ne.symm htext)] at hle'
          exact hle'.trans_eq (hother text role' context' h hne htext).symm
      exact ⟨after, bind_eq_ok.mpr ⟨roles', hfirst, hrest⟩⟩
    · rw [if_pos htype]
      refine ih honce' fun text role' context' h hne => ?_
      exact (List.count_le_count_cons ..).trans (hcount text role' context' h hne)

theorem fixRoles_isOk (hschools : AllFound dir schools) {roles : List String} :
    (∃ after, fixRoles schools roles roles = .ok after) ↔ RolesOnce schools roles := by
  constructor
  · rintro ⟨after, hfix⟩ text htext
    obtain ⟨hread, hcount⟩ := count_of_fixRoles hschools hfix
    obtain ⟨⟨role, contextType, context⟩, hinfo⟩ := hread text htext
    refine ⟨role, contextType, context, hinfo, ?_⟩
    rintro rfl
    by_cases hzero : respellings schools context = 0
    · omega
    · have hle := hcount text role context hinfo hzero
      exact Nat.le_of_mul_le_mul_left (hle.trans_eq (Nat.mul_one _).symm)
        (List.count_pos_iff.mpr htext)
  · intro honce
    exact fixRoles_isOk_of_once hschools honce fun _ _ _ _ _ => le_refl _

/-! ## The whole correction -/

theorem mapM_searchSchoolsInLdap (dir : OuSearch) (ous : List String) :
    (∀ ou ∈ ous, dir.first ou ≠ none) ∧
        ous.mapM (searchSchoolsInLdap dir) = .ok (ous.filterMap dir.first) ∨
      ∃ ou ∈ ous, dir.first ou = none ∧
        ous.mapM (searchSchoolsInLdap dir) = .error (.noSchool ou) := by
  induction ous with
  | nil => exact .inl ⟨fun _ h => absurd h List.not_mem_nil, rfl⟩
  | cons ou ous ih =>
    rw [List.mapM_cons, searchSchoolsInLdap]
    cases hfirst : dir.first ou with
    | none => exact .inr ⟨ou, List.mem_cons_self, hfirst, rfl⟩
    | some school =>
      rw [List.filterMap_cons_some hfirst]
      rcases ih with ⟨hall, hrun⟩ | ⟨other, hmem, hnone, hrun⟩
      · refine .inl ⟨List.forall_mem_cons.mpr ⟨by simp [hfirst], hall⟩, ?_⟩
        rw [hrun]
        rfl
      · refine .inr ⟨other, List.mem_cons_of_mem _ hmem, hnone, ?_⟩
        rw [hrun]
        rfl

/-- After the correction the names are those of the directory, and no groups are lost. -/
structure CaseCorrected (dir : OuSearch) (user after : RequestedUser) : Prop where
  school : after.school = user.school.bind dir.first
  schools : after.schools = user.schools.filterMap dir.first
  schoolClasses : GroupsCorrected dir user.schoolClasses after.schoolClasses
  workgroups : GroupsCorrected dir user.workgroups after.workgroups

/-- A user with a school that does not exist is rejected, and every other one is corrected. -/
def LosesNothing (dir : OuSearch) (user : RequestedUser) : Prop :=
  (∃ ou ∈ user.school.toList ++ user.schools, dir.first ou = none ∧
    fixCaseOfOus dir user = .error (.noSchool ou)) ∨
  ∃ after, fixCaseOfOus dir user = .ok after ∧ CaseCorrected dir user after

/-- The schools exist. -/
def SchoolsExist (dir : OuSearch) (user : RequestedUser) : Prop :=
  ∀ ou ∈ user.school.toList ++ user.schools, dir.first ou ≠ none

/-- A user whose schools exist, and whose role strings and groups name each school as it can be
corrected. -/
structure Correctable (dir : OuSearch) (user : RequestedUser) : Prop where
  roles : RolesOnce (user.schools.filterMap dir.first) user.ucsschoolRoles
  schoolClasses : CaseKept dir (user.schools.filterMap dir.first) user.schoolClasses
  workgroups : CaseKept dir (user.schools.filterMap dir.first) user.workgroups

theorem allFound_filterMap (dir : OuSearch) (ous : List String) :
    AllFound dir (ous.filterMap dir.first) := by
  intro school hschool
  obtain ⟨ou, -, hfirst⟩ := List.mem_filterMap.mp hschool
  exact dir.first_self hfirst

/-- The correction of a user is the search for the schools and the three loops. -/
theorem fixCaseOfOus_eq_ok {user after : RequestedUser} (hexist : SchoolsExist dir user) :
    fixCaseOfOus dir user = .ok after ↔
      after.school = user.school.bind dir.first ∧
      after.schools = user.schools.filterMap dir.first ∧
      fixRoles after.schools user.ucsschoolRoles user.ucsschoolRoles = .ok after.ucsschoolRoles ∧
      fixGroups after.schools user.schoolClasses = .ok after.schoolClasses ∧
      fixGroups after.schools user.workgroups = .ok after.workgroups := by
  have hschool : user.school.mapM (searchSchoolsInLdap dir) = .ok (user.school.bind dir.first) := by
    cases hname : user.school with
    | none => rfl
    | some ou =>
      obtain ⟨school, hfirst⟩ := Option.ne_none_iff_exists'.mp (hexist ou (by simp [hname]))
      simp only [Option.mapM_some, searchSchoolsInLdap, hfirst, Option.bind_some]
      rfl
  have hschools : user.schools.mapM (searchSchoolsInLdap dir) =
      .ok (user.schools.filterMap dir.first) := by
    rcases mapM_searchSchoolsInLdap dir user.schools with ⟨-, hrun⟩ | ⟨ou, hou, hnone, -⟩
    · exact hrun
    · exact absurd hnone (hexist ou (List.mem_append_right _ hou))
  unfold fixCaseOfOus
  rw [hschool, hschools]
  simp only [bind_eq_ok, pure_eq_ok, Except.ok.injEq]
  constructor
  · rintro ⟨_, rfl, _, rfl, roles, hroles, classes, hclasses, workgroups, hworkgroups, rfl⟩
    exact ⟨rfl, rfl, hroles, hclasses, hworkgroups⟩
  · rintro ⟨hname, hnames, hroles, hclasses, hworkgroups⟩
    rw [hnames] at hroles hclasses hworkgroups
    refine ⟨_, rfl, _, rfl, _, hroles, _, hclasses, _, hworkgroups, ?_⟩
    rw [← hname, ← hnames]

theorem fixCaseOfOus_not_exist {user : RequestedUser} (h : ¬ SchoolsExist dir user) :
    ∃ ou ∈ user.school.toList ++ user.schools, dir.first ou = none ∧
      fixCaseOfOus dir user = .error (.noSchool ou) := by
  unfold fixCaseOfOus
  cases hname : user.school.mapM (searchSchoolsInLdap dir) with
  | error e =>
    cases hschool : user.school with
    | none =>
      rw [hschool] at hname
      cases hname
    | some ou =>
      rw [hschool, Option.mapM_some, searchSchoolsInLdap] at hname
      cases hfirst : dir.first ou with
      | some school =>
        rw [hfirst] at hname
        cases hname
      | none =>
        rw [hfirst] at hname
        cases hname
        exact ⟨ou, by simp, hfirst, rfl⟩
  | ok school =>
    rcases mapM_searchSchoolsInLdap dir user.schools with ⟨hall, -⟩ | ⟨ou, hou, hnone, hrun⟩
    · refine absurd (fun ou hou => ?_) h
      rcases List.mem_append.mp hou with hou | hou
      · intro hnone
        rw [Option.mem_toList.mp hou, Option.mapM_some, searchSchoolsInLdap, hnone] at hname
        cases hname
      · exact hall ou hou
    · refine ⟨ou, List.mem_append_right _ hou, hnone, ?_⟩
      rw [hrun]
      rfl

/-- The correction loses nothing if and only if some school does not exist, or the role strings and
groups of the user can all be corrected. -/
theorem losesNothing_iff (dir : OuSearch) (user : RequestedUser) :
    LosesNothing dir user ↔ (SchoolsExist dir user → Correctable dir user) := by
  have hfound := allFound_filterMap dir user.schools
  constructor
  · intro h hexist
    rcases h with ⟨ou, hou, hnone, -⟩ | ⟨after, hfix, hcorrected⟩
    · exact absurd hnone (hexist ou hou)
    · obtain ⟨-, hschools, hroles, hclasses, hworkgroups⟩ := (fixCaseOfOus_eq_ok hexist).mp hfix
      rw [hschools] at hroles hclasses hworkgroups
      constructor
      · exact (fixRoles_isOk hfound).mp ⟨_, hroles⟩
      · exact (groupsCorrected_iff hfound).mp ⟨_, hclasses, hcorrected.schoolClasses⟩
      · exact (groupsCorrected_iff hfound).mp ⟨_, hworkgroups, hcorrected.workgroups⟩
  · intro h
    by_cases hexist : SchoolsExist dir user
    · obtain ⟨hroles, hclasses, hworkgroups⟩ := h hexist
      obtain ⟨roles, hroles⟩ := (fixRoles_isOk hfound).mpr hroles
      obtain ⟨classes, hclasses, hclassesCorrected⟩ := (groupsCorrected_iff hfound).mpr hclasses
      obtain ⟨workgroups, hworkgroups, hworkgroupsCorrected⟩ :=
        (groupsCorrected_iff hfound).mpr hworkgroups
      refine .inr ⟨⟨user.school.bind dir.first, user.schools.filterMap dir.first, roles, classes,
        workgroups⟩, ?_, rfl, rfl, hclassesCorrected, hworkgroupsCorrected⟩
      exact (fixCaseOfOus_eq_ok hexist).mpr ⟨rfl, rfl, hroles, hclasses, hworkgroups⟩
    · exact .inl (fixCaseOfOus_not_exist hexist)

end Fix

section Concrete

attribute [local instance] asciiRuntime

/-- A directory with the school `Demo`. -/
def demoFirst (ou : String) : Option String :=
  if asciiRuntime.lower ou = "demo" then some "Demo" else none

theorem demoFirst_self {ou school : String} (h : demoFirst ou = some school) :
    demoFirst school = some school := by
  have hdemo : demoFirst "Demo" = some "Demo" := by decide
  rw [demoFirst] at h
  split at h
  · cases h
    exact hdemo
  · cases h

theorem demoFirst_congr {a b : String} (h : asciiRuntime.lower a = asciiRuntime.lower b) :
    demoFirst a = demoFirst b := by
  rw [demoFirst, demoFirst, h]

def demoSearch : OuSearch where
  first := demoFirst
  first_congr := demoFirst_congr
  first_self := demoFirst_self

/-- A user with classes under two spellings of the school. -/
def twoSpellings : RequestedUser where
  school := some "Demo"
  schools := ["Demo"]
  ucsschoolRoles := ["student:school:Demo"]
  schoolClasses := (AList.singleton "DEMO" ["1b"]).insert "demo" ["1a"]
  workgroups := ∅

/-- Of the classes that are given under two spellings of a school only those under one are left. -/
theorem classes_lost : ¬ LosesNothing demoSearch twoSpellings := by
  have hexist : SchoolsExist demoSearch twoSpellings := by
    have hfound : ∀ ou ∈ ["Demo", "Demo"], demoFirst ou ≠ none := by decide
    exact hfound
  rintro (⟨ou, hou, hnone, -⟩ | ⟨after, hfix, hcorrected⟩)
  · exact hexist ou hou hnone
  · obtain ⟨-, hschools, -, hclasses, -⟩ := (fixCaseOfOus_eq_ok hexist).mp hfix
    rw [hschools] at hclasses
    have hkept := (groupsCorrected_iff (allFound_filterMap _ _)).mp
      ⟨_, hclasses, hcorrected.schoolClasses⟩
    have hdemo : demoFirst "demo" = some "Demo" := by decide
    have hDEMO : demoFirst "DEMO" = some "Demo" := by decide
    have hlast := hkept.last ["demo"] "DEMO" [] "Demo" rfl hDEMO (by decide)
      (fun k hk => absurd hk List.not_mem_nil) "demo" hdemo
    have hlost : "1a" ∉ groupsOf twoSpellings.schoolClasses "DEMO" := by decide
    exact hlost (hlast (by decide))

end Concrete

end Kelvin
