import Kelvin.Api.GroupNames
import Kelvin.Search.Patterns
import Kelvin.Objects.GroupMembers

/-!
# One class or workgroup

The v2 resources fetch a class or a workgroup by the name of its school and its relative name.
They search for the two names with a hyphen between them, as a pattern and in any letter case,
and take the first class (workgroup) that is found. The school is not compared.

* `matchesCi`: the operator `MATCHES_CI` on a text.
* `getGroup`: the two endpoints.
* `getGroup_iff`: when the object that was asked for is returned.
* `findable_of_plain`: paths without a wildcard, and classes with names of their own.
-/

namespace Kelvin

structure HttpException where
  statusCode : Nat
  detail : String
deriving DecidableEq

/-- The groups with the names of their schools and roles. -/
def Database.loadedGroups (db : Database) : Table PublicId LoadedGroup :=
  db.groups.mapVals (fun _ g =>
    { name := g.name
      school := ((db.schools.find? g.school).map (·.name)).getD ""
      roles := (db.roles.filter (fun id _ => id ∈ g.roles)).rows.map (·.2.name) })

section GroupLookup

variable [Runtime]

/-- `column.ilike(_glob_to_sql_pattern(value), escape="\\")`. The characters that the translation
adds have no letter case. -/
def matchesCi (value text : String) : Bool :=
  like '\\' (Search.globToSqlPattern '\\' (Runtime.lower value)) (Runtime.lower text) = some true

theorem matchesCi_iff {value text : String} : matchesCi value text = true ↔
    Glob (Runtime.lower value).toList (Runtime.lower text).toList := by
  unfold matchesCi
  rw [decide_eq_true_eq]
  exact (Search.globToSqlPattern_exact _ _).2

/-- `get` of the class and the workgroup resource, for the role that they look for. -/
def getGroup (role : String) (db : Database) (school name : String) :
    Except HttpException (PublicId × LoadedGroup) :=
  let results := db.loadedGroups.filter (fun _ g =>
    matchesCi (schoolPrefix school ++ name) g.name && decide (role ∈ g.roles))
  match results.rows.head? with
  | none => .error
      ⟨404, "No object with name=" ++ Runtime.repr name ++ " found or not authorized."⟩
  | some found => .ok found

/-- `get` of the class resource. -/
def getSchoolClass : Database → String → String → Except HttpException (PublicId × LoadedGroup) :=
  getGroup "school_class"

/-- `get` of the workgroup resource. -/
def getWorkgroup : Database → String → String → Except HttpException (PublicId × LoadedGroup) :=
  getGroup "workgroup"

variable {role : String} {db : Database} {school name : String}

/-- A stored group of the kind that the search finds. -/
structure Matched (role : String) (db : Database) (school name : String) (id : PublicId)
    (g : LoadedGroup) : Prop where
  stored : db.loadedGroups.find? id = some g
  role : role ∈ g.roles
  matches' : matchesCi (schoolPrefix school ++ name) g.name = true

/-- The first group that is found is returned. -/
theorem getGroup_eq_ok {id : PublicId} {g : LoadedGroup} :
    getGroup role db school name = .ok (id, g) ↔ Matched role db school name id g ∧
      ∀ id' g', Matched role db school name id' g' → id ≤ id' := by
  have hmatched : ∀ id g, (db.loadedGroups.filter (fun _ g =>
      matchesCi (schoolPrefix school ++ name) g.name && decide (role ∈ g.roles))).find? id =
        some g ↔ Matched role db school name id g := by
    intro id g
    rw [Table.find?_filter, Option.filter_eq_some_iff, Bool.and_eq_true, decide_eq_true_eq]
    exact ⟨fun h => ⟨h.1, h.2.2, h.2.1⟩, fun h => ⟨h.stored, h.matches', h.role⟩⟩
  have hhead := Table.head?_eq_some (t := db.loadedGroups.filter (fun _ g =>
    matchesCi (schoolPrefix school ++ name) g.name && decide (role ∈ g.roles))) (k := id) (r := g)
  simp only [hmatched] at hhead
  rw [← hhead]
  unfold getGroup
  dsimp only
  split
  · next hnone => simp [hnone]
  · next found hfound => simp [hfound]

/-- The group is the one that the path names, in any letter case. -/
structure Requested (role school name : String) (g : LoadedGroup) : Prop where
  role : role ∈ g.roles
  school : Runtime.lower g.school = Runtime.lower school
  name : Runtime.lower (getRelativeName g) = Runtime.lower name

/-- The only stored group that the path names. -/
structure OnlyRequested (role : String) (db : Database) (school name : String) (id : PublicId)
    (g : LoadedGroup) : Prop where
  stored : db.loadedGroups.find? id = some g
  requested : Requested role school name g
  only : ∀ id' g', db.loadedGroups.find? id' = some g' → Requested role school name g' → id' = id

/-- What is returned was asked for, and what alone was asked for is returned. -/
structure ReturnsRequested (role : String) (db : Database) (school name : String) : Prop where
  sound : ∀ id g, getGroup role db school name = .ok (id, g) → Requested role school name g
  complete : ∀ id g, OnlyRequested role db school name id g →
    getGroup role db school name = .ok (id, g)

/-- A group that the search finds without being asked for stands behind one that was asked for;
and the search finds the group if it alone was asked for. -/
structure Findable (role : String) (db : Database) (school name : String) : Prop where
  behind : ∀ id g, Matched role db school name id g → ¬ Requested role school name g →
    ∃ id' < id, ∃ g', Matched role db school name id' g' ∧ Requested role school name g'
  found : ∀ id g, OnlyRequested role db school name id g →
    matchesCi (schoolPrefix school ++ name) g.name = true

/-- A group that the search finds has a first one before it. -/
theorem exists_first {id : PublicId} {g : LoadedGroup} (h : Matched role db school name id g) :
    ∃ id' g', getGroup role db school name = .ok (id', g') := by
  classical
  have hexists : ∃ id g, Matched role db school name id g := ⟨id, g, h⟩
  obtain ⟨g', hg'⟩ := Nat.find_spec hexists
  refine ⟨Nat.find hexists, g', getGroup_eq_ok.mpr ⟨hg', fun id' g'' h' => ?_⟩⟩
  exact Nat.find_min' hexists ⟨g'', h'⟩

/-- The endpoints return the object that was asked for if and only if it is findable. -/
theorem getGroup_iff (role : String) (db : Database) (school name : String) :
    ReturnsRequested role db school name ↔ Findable role db school name := by
  constructor
  · intro h
    refine ⟨fun id g hg hother => ?_, fun id g hg => ?_⟩
    · obtain ⟨id', g', hfirst⟩ := exists_first hg
      obtain ⟨hg', hleast⟩ := getGroup_eq_ok.mp hfirst
      have hrequested := h.sound id' g' hfirst
      have hne : id' ≠ id := by
        rintro rfl
        cases hg.stored.symm.trans hg'.stored
        exact hother hrequested
      exact ⟨id', lt_of_le_of_ne (hleast id g hg) hne, g', hg', hrequested⟩
    · exact (getGroup_eq_ok.mp (h.complete id g hg)).1.matches'
  · intro h
    have hsound : ∀ id g, getGroup role db school name = .ok (id, g) →
        Requested role school name g := by
      intro id g hget
      obtain ⟨hg, hleast⟩ := getGroup_eq_ok.mp hget
      by_contra hother
      obtain ⟨id', hlt, g', hg', -⟩ := h.behind id g hg hother
      exact absurd (hleast id' g' hg') (Nat.not_le.mpr hlt)
    refine ⟨hsound, fun id g hg => ?_⟩
    have hmatched : Matched role db school name id g :=
      ⟨hg.stored, hg.requested.role, h.found id g hg⟩
    obtain ⟨id', g', hfirst⟩ := exists_first hmatched
    obtain rfl := hg.only id' g' (getGroup_eq_ok.mp hfirst).1.stored (hsound id' g' hfirst)
    cases hg.stored.symm.trans (getGroup_eq_ok.mp hfirst).1.stored
    exact hfirst

end GroupLookup

/-! ## Paths without a wildcard -/

section Plain

variable [CaseRuntime] {role : String} {db : Database} {school name : String}

theorem lower_schoolPrefix (school name : String) :
    Runtime.lower (schoolPrefix school ++ name) =
      schoolPrefix (Runtime.lower school) ++ Runtime.lower name :=
  CaseRuntime.lower_hyphen school name

/-- If the path has no wildcard, the groups are named after their schools, and no group of another
school has the name that is looked for, then the object that was asked for is returned. -/
theorem findable_of_plain (hstar : '*' ∉ (Runtime.lower (schoolPrefix school ++ name)).toList)
    (hnames : ∀ id g, db.loadedGroups.find? id = some g → role ∈ g.roles →
      Runtime.lower g.name = Runtime.lower (schoolPrefix g.school ++ getRelativeName g))
    (hother : ∀ id g, db.loadedGroups.find? id = some g → role ∈ g.roles →
      Runtime.lower g.name = Runtime.lower (schoolPrefix school ++ name) →
        Runtime.lower g.school = Runtime.lower school) :
    Findable role db school name := by
  refine ⟨fun id g hg hrequested => ?_, fun id g hg => ?_⟩
  · have hglob := globMatches_iff_glob.mpr (matchesCi_iff.mp hg.matches')
    have hname : Runtime.lower g.name = Runtime.lower (schoolPrefix school ++ name) :=
      String.toList_injective ((globMatches_iff hstar).mp hglob).symm
    have hschool := hother id g hg.stored hg.role hname
    have hparts := (hnames id g hg.stored hg.role).symm.trans hname
    rw [lower_schoolPrefix, lower_schoolPrefix, hschool] at hparts
    have hrelative : Runtime.lower (getRelativeName g) = Runtime.lower name := by
      have hlists := congrArg String.toList hparts
      rw [String.toList_append, String.toList_append] at hlists
      exact String.toList_injective (List.append_cancel_left hlists)
    exact absurd ⟨hg.role, hschool, hrelative⟩ hrequested
  · have hname : Runtime.lower g.name = Runtime.lower (schoolPrefix school ++ name) := by
      rw [hnames id g hg.stored hg.requested.role, lower_schoolPrefix, lower_schoolPrefix,
        hg.requested.school, hg.requested.name]
    rw [matchesCi_iff, hname]
    exact glob_self

end Plain

section Example

attribute [local instance] asciiRuntime

/-- A school, and another one whose name begins with it, with the class `c`. -/
def dashedSchools : Database :=
  let roles : Table PublicId RoleModel := Table.empty.insert 2 ⟨"school_class"⟩
  { Database.initial roles with
    schools := (Table.empty.insert 1 (plainSchool "A")).insert 3 (plainSchool "A-b")
    groups := Table.empty.insert 5 { classOf 3 ∅ with name := "A-b-c" } }

/-- The class `c` of the school `A-b` is returned for the class `b-c` of the school `A`. -/
theorem dashedSchools_not_requested : ¬ ReturnsRequested "school_class" dashedSchools "A" "b-c" := by
  intro h
  have hget : getSchoolClass dashedSchools "A" "b-c" =
      .ok (5, ⟨"A-b-c", "A-b", ["school_class"]⟩) := by
    decide
  have hschool := (h.sound _ _ hget).school
  exact absurd hschool (by decide)

end Example

end Kelvin
