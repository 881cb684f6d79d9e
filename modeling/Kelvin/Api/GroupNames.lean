import Kelvin.Connector.Sync
import Kelvin.Data.Text

/-!
# Relative names of classes and workgroups

In the directory the name of a class or workgroup starts with the name of its school and a
hyphen. The resources show the relative name, and the lib puts the school back in front.
Four routines do this, each in its own way.

* `fullName`: `get_school_class_objs` and `get_workgroup_objs` of the lib.
* `userModelName`: the v1 user resource, which removes the prefix wherever it occurs.
* `relativeName`: the v2 user resource.
* `getRelativeName`: the v2 class and workgroup resources.
* `names_survive_iff`: all of them agree on the relative name, and the full name comes back,
  if and only if the prefix does not occur in the relative name again.
-/

namespace Kelvin

/-- `f"{school}-"`. -/
def schoolPrefix (school : String) : String := school ++ "-"

theorem schoolPrefix_ne (school : String) : (schoolPrefix school).toList ≠ [] := by
  simp [schoolPrefix]

/-- `text.replace(old, "")`, where `old` is not empty. -/
def replaceAll (text old : String) : String :=
  String.ofList (Text.removeAll old.toList text.toList)

/-- `text[n:]`. -/
def dropChars (text : String) (n : Nat) : String := String.ofList (text.toList.drop n)

/-- `str.removeprefix`. -/
def removePrefix (text start : String) : String :=
  if startsWith text start then dropChars text start.toList.length else text

theorem startsWith_iff {text start : String} :
    startsWith text start = true ↔ start.toList <+: text.toList := List.isPrefixOf_iff_prefix

theorem startsWith_append (start text : String) : startsWith (start ++ text) start = true := by
  rw [startsWith_iff, String.toList_append]
  exact List.prefix_append _ _

theorem dropChars_append (start text : String) :
    dropChars (start ++ text) start.toList.length = text := by
  rw [dropChars, String.toList_append, List.drop_left, String.ofList_toList]

theorem replaceAll_append_self {text old : String} (hne : old.toList ≠ []) :
    replaceAll (old ++ text) old = replaceAll text old := by
  rw [replaceAll, String.toList_append, Text.removeAll_append_self hne]
  rfl

theorem replaceAll_eq_self {text old : String} (hne : old.toList ≠ []) :
    replaceAll text old = text ↔ ¬ old.toList <:+: text.toList := by
  rw [← Text.removeAll_eq_self hne, replaceAll, ← String.toList_inj, String.toList_ofList]

/-! ## The lib and the v1 user resource -/

/-- The name of the object that `get_school_class_objs` builds for a name. -/
def fullName (school name : String) : String :=
  if startsWith name (schoolPrefix school) then name else schoolPrefix school ++ name

/-- The groups of `to_dict`: schools without a group have no entry. -/
def toDictGroups (groups : Table String (List String)) : Table String (List String) :=
  (groups.filter (fun _ names => names ≠ [])).mapVals
    (fun school names => names.map (fullName school))

/-- `sorted` of texts. -/
def sortedTexts (texts : List String) : List String := texts.insertionSort (· ≤ ·)

/-- The name that the v1 user resource shows for a name from `to_dict`. -/
def userModelName (school name : String) : String := replaceAll name (schoolPrefix school)

/-- `school_classes` and `workgroups` of the v1 user resource. -/
def userModelGroups (groups : Table String (List String)) : Table String (List String) :=
  (toDictGroups groups).mapVals (fun school names => sortedTexts (names.map (userModelName school)))

/-! ## The v2 resources -/

/-- A group as the v2 resources load it, with the names of its school and roles. -/
structure LoadedGroup where
  name : String
  school : String
  roles : List String
deriving DecidableEq

/-- The name of a group in the v2 user resource. -/
def relativeName (group : LoadedGroup) : String :=
  removePrefix group.name (schoolPrefix group.school)

/-- `_get_relative_name` of the v2 class and workgroup resources. -/
def getRelativeName [Runtime] (group : LoadedGroup) : String :=
  if startsWith (Runtime.lower group.name) (schoolPrefix (Runtime.lower group.school)) then
    dropChars group.name (group.school.toList.length + 1)
  else group.name

/-- `setdefault(school, []).append(name)`. -/
def appendName (names : Table String (List String)) (school name : String) :
    Table String (List String) :=
  names.insert school ((names.find? school).getD [] ++ [name])

/-- One of the two results of `_school_classes_and_workgroups`: the groups with a role. -/
def groupsWithRole (role : String) (groups : List LoadedGroup) : Table String (List String) :=
  ((groups.filter (fun group => role ∈ group.roles)).foldl
      (fun names group => appendName names group.school (relativeName group)) .empty).mapVals
    (fun _ names => sortedTexts names)

/-! ## What the resources show -/

theorem fullName_of_startsWith {school name : String}
    (h : startsWith name (schoolPrefix school) = true) : fullName school name = name := by
  rw [fullName, if_pos h]

/-- The full name of a group of the school is not prefixed again. -/
theorem fullName_append (school n : String) :
    fullName school (schoolPrefix school ++ n) = schoolPrefix school ++ n :=
  fullName_of_startsWith (startsWith_append _ _)

/-- The v1 user resource shows the groups of a school under their names without the prefix. -/
theorem find?_userModelGroups {groups : Table String (List String)} {school : String}
    {ns : List String} (h : groups.find? school = some (ns.map (schoolPrefix school ++ ·)))
    (hne : ns ≠ []) : (userModelGroups groups).find? school =
      some (sortedTexts (ns.map (fun n => userModelName school (schoolPrefix school ++ n)))) := by
  have hnames : (ns.map (schoolPrefix school ++ ·)).map (fullName school) =
      ns.map (schoolPrefix school ++ ·) := by
    rw [List.map_map]
    exact List.map_congr_left (fun n _ => fullName_append school n)
  simp only [userModelGroups, toDictGroups, Table.find?_mapVals, Table.find?_filter, h]
  simp only [Option.filter_some, ne_eq, List.map_eq_nil_iff, hne, not_false_eq_true, decide_true,
    if_true, Option.map_some, hnames, List.map_map]
  rfl

theorem find?_appendName (names : Table String (List String)) (school school' name : String) :
    ((appendName names school name).find? school').getD [] =
      (names.find? school').getD [] ++ if school' = school then [name] else [] := by
  unfold appendName
  by_cases h : school' = school
  · subst h
    simp
  · rw [Table.find?_insert_ne h, if_neg h, List.append_nil]

theorem find?_foldl_appendName (groups : List LoadedGroup) (names : Table String (List String))
    (school : String) :
    ((groups.foldl (fun names group => appendName names group.school (relativeName group))
        names).find? school).getD [] =
      (names.find? school).getD [] ++
        (groups.filter (fun group => group.school = school)).map relativeName := by
  induction groups generalizing names with
  | nil => simp
  | cons group groups ih =>
    rw [List.foldl_cons, ih, find?_appendName, List.append_assoc]
    congr 1
    by_cases h : school = group.school
    · simp [h]
    · simp [h, Ne.symm h]

/-- The v2 user resource shows the relative names of the groups with the role, school by school. -/
theorem find?_groupsWithRole (role : String) (groups : List LoadedGroup) (school : String) :
    ((groupsWithRole role groups).find? school).getD [] =
      sortedTexts (((groups.filter (fun group => role ∈ group.roles)).filter
        (fun group => group.school = school)).map relativeName) := by
  have hfold := find?_foldl_appendName (groups.filter (fun group => role ∈ group.roles)) .empty school
  rw [Table.find?_empty, Option.getD_none, List.nil_append] at hfold
  rw [← hfold, groupsWithRole, Table.find?_mapVals]
  cases ((groups.filter (fun group => role ∈ group.roles)).foldl
    (fun names group => appendName names group.school (relativeName group)) .empty).find? school with
  | none => rfl
  | some names => rfl

theorem relativeName_append (school n : String) (roles : List String) :
    relativeName ⟨schoolPrefix school ++ n, school, roles⟩ = n := by
  rw [relativeName, removePrefix, if_pos (startsWith_append _ _), dropChars_append]

theorem getRelativeName_append [CaseRuntime] (school n : String) (roles : List String) :
    getRelativeName ⟨schoolPrefix school ++ n, school, roles⟩ = n := by
  have hlower : Runtime.lower (schoolPrefix school ++ n) =
      schoolPrefix (Runtime.lower school) ++ Runtime.lower n := CaseRuntime.lower_hyphen school n
  have hlength : school.toList.length + 1 = (schoolPrefix school).toList.length := by
    simp [schoolPrefix]
  rw [getRelativeName, hlower, if_pos (startsWith_append _ _), hlength, dropChars_append]

theorem userModelName_eq_iff (school n : String) :
    userModelName school (fullName school (schoolPrefix school ++ n)) = n ↔
      ¬ (schoolPrefix school).toList <:+: n.toList := by
  rw [fullName_append, userModelName, replaceAll_append_self (schoolPrefix_ne school)]
  exact replaceAll_eq_self (schoolPrefix_ne school)

/-- A relative name gets the school in front, unless it starts with it already. -/
theorem fullName_eq (school n : String) (h : ¬ (schoolPrefix school).toList <:+: n.toList) :
    fullName school n = schoolPrefix school ++ n := by
  have hstart : ¬ startsWith n (schoolPrefix school) = true := by
    rw [startsWith_iff]
    intro hp
    exact h hp.isInfix
  rw [fullName, if_neg hstart]

/-- Every resource shows the relative name of a class or workgroup, and the lib finds the group
under it again, if and only if the school's prefix does not occur in the relative name. -/
theorem names_survive_iff [CaseRuntime] (school n : String) (roles : List String) :
    (userModelName school (fullName school (schoolPrefix school ++ n)) = n ∧
      relativeName ⟨schoolPrefix school ++ n, school, roles⟩ = n ∧
      getRelativeName ⟨schoolPrefix school ++ n, school, roles⟩ = n ∧
      fullName school n = schoolPrefix school ++ n) ↔
    ¬ (schoolPrefix school).toList <:+: n.toList := by
  constructor
  · rintro ⟨hv1, -⟩
    exact (userModelName_eq_iff school n).mp hv1
  · intro h
    exact ⟨(userModelName_eq_iff school n).mpr h, relativeName_append school n roles,
      getRelativeName_append school n roles, fullName_eq school n h⟩

section Concrete

attribute [local instance] asciiCaseRuntime

/-- The class `BA-1` of the school `A` is shown as `B1` by the v1 user resource. -/
theorem repeatedPrefix_lost :
    userModelGroups (Table.empty.insert "A" ["A-BA-1"]) = Table.empty.insert "A" ["B1"] ∧
      ¬ (userModelName "A" (fullName "A" (schoolPrefix "A" ++ "BA-1")) = "BA-1" ∧
        relativeName ⟨schoolPrefix "A" ++ "BA-1", "A", ["school_class"]⟩ = "BA-1" ∧
        getRelativeName ⟨schoolPrefix "A" ++ "BA-1", "A", ["school_class"]⟩ = "BA-1" ∧
        fullName "A" "BA-1" = schoolPrefix "A" ++ "BA-1") := by
  decide

end Concrete

end Kelvin
