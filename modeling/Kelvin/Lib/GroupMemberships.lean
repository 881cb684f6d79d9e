import Kelvin.Lib.SearchBase

/-!
# The groups of a user after a modification

`do_modify` of a user works on the DNs of its groups. It first leaves the groups of the removed
schools, then the classes and workgroups whose names are not wanted any more, and enters the groups
of `groups_used`. Some of its comparisons are exact, and some ignore the letter case.

* `UserModification`: a stored user, and the schools, classes and workgroups that it is to have.
* `doModify`: the groups after the modification.
* `MembershipsExact`: the groups are those that the user should have.
* `memberships_iff`: they are if and only if no wanted name is taken for that of another group, and
  no new group is named twice.
-/

namespace Kelvin

/-- What the lib asks of the directory for the groups of a user. -/
structure GroupDirectory where
  /-- `SchoolClass.from_dn`: the school and the name of a class. Otherwise it raises `noObject`. -/
  schoolClass : String → Option (String × String)
  /-- `WorkGroup.from_dn`. -/
  workgroup : String → Option (String × String)
  /-- The group, by its DN in lower case, is one of those of the user in a school. -/
  ofSchool : String → String → Bool
  /-- The group exists, or `create_group_if_missing` creates it. -/
  usable : String → Bool
  /-- The order in which Python runs through a set of schools. -/
  setOrder : List Ou → List Ou
  setOrder_perm : ∀ schools, (setOrder schools).Perm schools

section Modification

variable [Runtime] [DnEscaping] (base : LdapBase)

/-- A stored user whose primary school stays, and the schools, classes and workgroups that it is to
have. No two groups have the same DN, and the primary group is that of the primary school. -/
structure UserModification where
  cls : UserClass
  isAdministrator : Bool
  school : Ou
  storedSchools : List Ou
  schools : List Ou
  stored_mem : school ∈ storedSchools
  school_mem : school ∈ schools
  primaryGroup : String
  primary : Runtime.lower primaryGroup = Runtime.lower (UserGroup.dn base (.domainUsers school.name))
  groups : List String
  groups_nodup : (groups.map Runtime.lower).Nodup
  schoolClasses : Table String (List String)
  workgroups : Table String (List String)
  classes_in : ∀ entry ∈ schoolClasses.rows, ∃ s ∈ schools, s.name = entry.1
  workgroups_in : ∀ entry ∈ workgroups.rows, ∃ s ∈ schools, s.name = entry.1

/-- The groups of a user with the wanted classes and workgroups, as `do_modify` changes them. -/
structure ModificationState where
  groups : List String
  schoolClasses : Table String (List String)
  workgroups : Table String (List String)

variable {base} (dir : GroupDirectory) (u : UserModification base)

/-- The group is one of those that `remove_from_groups_of_school` looks for. -/
def groupOfSchool (school : Ou) (dn : String) : Bool :=
  dir.ofSchool school.name (Runtime.lower dn) ||
    u.isAdministrator && Runtime.lower dn =
      Runtime.lower (UserGroup.dn base (.roleGroup .schoolAdmins school.name))

/-- `remove_from_groups_of_school`. The primary group stays. -/
def removeFromGroupsOfSchool (school : Ou) (groups : List String) : List String :=
  groups.filter (fun dn => ¬ groupOfSchool dir u school dn ∨
    Runtime.lower dn = Runtime.lower u.primaryGroup)

/-- The loop over the removed schools. `schools` is `self.schools` while it runs. A user without a
school is deleted, and one whose primary school is removed is moved: both are no success here. -/
def removeFromSchools (schools : List Ou) : List Ou → ModificationState → Option ModificationState
  | [], m => some m
  | s :: order, m =>
    if schools.erase s = [] ∨ u.school = s then none
    else removeFromSchools (schools.erase s) order
      { groups := removeFromGroupsOfSchool dir u s m.groups
        schoolClasses := m.schoolClasses.erase s.name
        workgroups := m.workgroups.erase s.name }

/-- `groups_used`. -/
def mandatoryGroups (m : ModificationState) : List String :=
  (groupsUsed u.cls u.schools m.schoolClasses m.workgroups).map (UserGroup.dn base)

/-- The name of a class or workgroup, or its relative name, is wanted. -/
def nameWanted (wanted : Table String (List String)) (school name : String) : Bool :=
  name ∈ (wanted.find? school).getD [] ∨
    getRelativeName ⟨name, school, []⟩ ∈ (wanted.find? school).getD []

/-- The group is a class or workgroup whose name is not wanted. -/
def isStale (m : ModificationState) (dn : String) : Bool :=
  match dir.schoolClass dn, dir.workgroup dn with
  | some (school, name), _ => !nameWanted m.schoolClasses school name
  | none, some (school, name) => !nameWanted m.workgroups school name
  | none, none => false

/-- The removal of the stale classes and workgroups. -/
def removeStale (m : ModificationState) : List String :=
  (m.groups.filter (fun dn => dn ∉ mandatoryGroups u m)).foldl
    (fun groups dn => if isStale dir m dn then groups.erase dn else groups) m.groups

/-- `do_modify`, for the groups. It raises if a group cannot be created. -/
def doModify : Option (List String) := do
  let order := dir.setOrder (u.storedSchools.filter (fun s => s ∉ u.schools))
  let m ← removeFromSchools dir u u.storedSchools order
    ⟨u.groups, u.schoolClasses, u.workgroups⟩
  let mandatory := mandatoryGroups u m
  if ¬ mandatory.all dir.usable then none
  else
    let groups := removeStale dir u m
    let current := groups.map Runtime.lower
    some (groups ++ mandatory.filter (fun dn => Runtime.lower dn ∉ current))

/-! ## What the user should have -/

/-- The values with which the user is modified. -/
def startState : ModificationState := ⟨u.groups, u.schoolClasses, u.workgroups⟩

/-- The group belongs to a school that is removed. -/
def OfRemovedSchool (dn : String) : Prop :=
  ∃ s ∈ u.storedSchools, s ∉ u.schools ∧ groupOfSchool dir u s dn = true

/-- The group is mandatory, or a present one that is no class, no workgroup and not of a removed
school. -/
def ShouldHave (dn : String) : Prop :=
  Runtime.lower dn ∈ (mandatoryGroups u (startState u)).map Runtime.lower ∨
    ∃ g ∈ u.groups, Runtime.lower g = Runtime.lower dn ∧ dir.schoolClass g = none ∧
      dir.workgroup g = none ∧ ¬ OfRemovedSchool dir u g

/-- The groups are, up to letter case, those that the user should have, each of them once. -/
structure MembershipsExact (after : List String) : Prop where
  members : ∀ dn, Runtime.lower dn ∈ after.map Runtime.lower ↔ ShouldHave dir u dn
  nodup : (after.map Runtime.lower).Nodup

/-- Every present class or workgroup of a school that stays, the name of which is wanted, is one of
the groups for which the wanted names stand. -/
def NoneMisread : Prop :=
  ∀ dn ∈ u.groups, ¬ OfRemovedSchool dir u dn →
    dir.schoolClass dn ≠ none ∨ dir.workgroup dn ≠ none →
    isStale dir (startState u) dn = false →
    Runtime.lower dn ∈ (mandatoryGroups u (startState u)).map Runtime.lower

/-- The present group stays: it is of no removed school, and it is mandatory or not stale. -/
def Stays (dn : String) : Prop :=
  (¬ OfRemovedSchool dir u dn ∨ Runtime.lower dn = Runtime.lower u.primaryGroup) ∧
    (dn ∈ mandatoryGroups u (startState u) ∨
      isStale dir (startState u) dn = false)

/-- No mandatory group is named twice, except for those that the user keeps. -/
def NoneRepeated : Prop :=
  ∀ dn, (∀ g ∈ u.groups, Stays dir u g → Runtime.lower g ≠ Runtime.lower dn) →
    ((mandatoryGroups u (startState u)).map Runtime.lower).count (Runtime.lower dn) ≤ 1

end Modification

/-! ## The groups that stay -/

section Kept

variable [Runtime] [DnEscaping] {base : LdapBase} {dir : GroupDirectory} {u : UserModification base}

omit [Runtime] [DnEscaping] in
/-- Erasing elements of a list without repetitions one by one filters it. -/
theorem foldl_erase_eq_filter {l l' : List String} {p : String → Bool} (hnodup : l.Nodup) :
    l'.foldl (fun groups dn => if p dn then groups.erase dn else groups) l =
      l.filter (fun dn => dn ∉ l' ∨ p dn = false) := by
  have hdiff : l'.foldl (fun groups dn => if p dn then groups.erase dn else groups) l =
      l.diff (l'.filter p) := by
    rw [List.diff_eq_foldl, List.foldl_filter]
  rw [hdiff, hnodup.sdiff_eq_filter]
  apply List.filter_congr
  intro dn _
  simp [List.mem_filter, imp_iff_not_or]

/-- The groups of the removed schools are left, except for the primary group. The wanted classes and
workgroups are in other schools, and stay. -/
theorem removeFromSchools_eq {order : List Ou} (horder : ∀ s ∈ order, s ∉ u.schools)
    {schools : List Ou} (hschools : u.school ∈ schools) (groups : List String) :
    removeFromSchools dir u schools order ⟨groups, u.schoolClasses, u.workgroups⟩ =
      some ⟨groups.filter (fun dn => order.all (fun s => ¬ groupOfSchool dir u s dn ∨
        Runtime.lower dn = Runtime.lower u.primaryGroup)), u.schoolClasses, u.workgroups⟩ := by
  induction order generalizing schools groups with
  | nil => simp [removeFromSchools]
  | cons s order ih =>
    obtain ⟨hs, horder⟩ := List.forall_mem_cons.mp horder
    have hne : u.school ≠ s := fun heq => hs (heq ▸ u.school_mem)
    have hmem : u.school ∈ schools.erase s := (List.mem_erase_of_ne hne).mpr hschools
    have habsent : ∀ wanted : Table String (List String),
        (∀ entry ∈ wanted.rows, ∃ s ∈ u.schools, s.name = entry.1) → wanted.erase s.name = wanted := by
      intro wanted hwanted
      apply Table.erase_eq_self
      cases hfind : wanted.find? s.name with
      | none => rfl
      | some names =>
        obtain ⟨s', hs', hname⟩ := hwanted _ (Table.mem_rows.mpr hfind)
        obtain rfl := Ou.name_inj.mp hname
        exact absurd hs' hs
    rw [removeFromSchools, if_neg (not_or.mpr ⟨List.ne_nil_of_mem hmem, hne⟩),
      habsent _ u.classes_in, habsent _ u.workgroups_in, ih horder hmem, removeFromGroupsOfSchool,
      List.filter_filter]
    simp only [List.all_cons, Bool.and_comm]

/-- After a modification the user is in the groups that stay, and then in the other mandatory ones. -/
theorem exists_kept {after : List String} (h : doModify dir u = some after) :
    ∃ kept : List String, kept.Sublist u.groups ∧
      (∀ dn, dn ∈ kept ↔ dn ∈ u.groups ∧ Stays dir u dn) ∧
      after = kept ++ (mandatoryGroups u (startState u)).filter
        (fun dn => Runtime.lower dn ∉ kept.map Runtime.lower) := by
  have horder : ∀ s, s ∈ dir.setOrder (u.storedSchools.filter (fun s => s ∉ u.schools)) ↔
      s ∈ u.storedSchools ∧ s ∉ u.schools := by
    intro s
    rw [(dir.setOrder_perm _).mem_iff, List.mem_filter, decide_eq_true_eq]
  have hremoved := @removeFromSchools_eq _ _ base dir u _ (fun s hs => ((horder s).mp hs).2)
    u.storedSchools u.stored_mem u.groups
  unfold doModify at h
  dsimp only at h
  rw [hremoved] at h
  generalize horder' : dir.setOrder (u.storedSchools.filter (fun s => s ∉ u.schools)) = order at h horder
  dsimp only [Option.bind_eq_bind, Option.bind_some] at h
  split at h
  · cases h
  obtain rfl := Option.some.inj h
  refine ⟨_, ?_, ?_, rfl⟩
  · rw [removeStale, foldl_erase_eq_filter (u.groups_nodup.of_map _ |>.filter _)]
    exact List.filter_sublist.trans List.filter_sublist
  · intro dn
    have hschools : (order.all (fun s => ¬ groupOfSchool dir u s dn ∨
        Runtime.lower dn = Runtime.lower u.primaryGroup)) = true ↔
          ¬ OfRemovedSchool dir u dn ∨ Runtime.lower dn = Runtime.lower u.primaryGroup := by
      simp only [List.all_eq_true, decide_eq_true_eq, OfRemovedSchool, horder]
      constructor
      · intro hall
        by_cases hprimary : Runtime.lower dn = Runtime.lower u.primaryGroup
        · exact .inr hprimary
        · left
          rintro ⟨s, hs, hgone, hof⟩
          exact (hall s ⟨hs, hgone⟩).elim (fun hnot => hnot hof) hprimary
      · rintro hstays s ⟨hs, hgone⟩
        exact hstays.imp (fun hnot hof => hnot ⟨s, hs, hgone, hof⟩) id
    rw [removeStale, foldl_erase_eq_filter (u.groups_nodup.of_map _ |>.filter _)]
    simp only [List.mem_filter, decide_eq_true_eq, hschools]
    constructor
    · rintro ⟨⟨hmem, hschool⟩, hstale⟩
      refine ⟨hmem, hschool, hstale.imp (fun hnot => ?_) id⟩
      by_contra hmandatory
      exact hnot ⟨⟨hmem, hschool⟩, hmandatory⟩
    · rintro ⟨hmem, hschool, hstale⟩
      exact ⟨⟨hmem, hschool⟩, hstale.imp (fun hmandatory h => h.2 hmandatory) id⟩

end Kept

/-! ## Exactness -/

section Exact

variable [Runtime] [DnEscaping] {base : LdapBase} {dir : GroupDirectory} {u : UserModification base}

/-- The primary group is mandatory, as the primary school stays. -/
theorem primary_mandatory : Runtime.lower u.primaryGroup ∈
    (mandatoryGroups u (startState u)).map Runtime.lower := by
  rw [u.primary, mandatoryGroups, List.map_map]
  refine List.mem_map.mpr ⟨.domainUsers u.school.name, ?_, rfl⟩
  simp only [groupsUsed, List.mem_append]
  exact .inl (.inl (.inl (List.mem_map.mpr ⟨u.school, u.school_mem, rfl⟩)))

/-- Up to letter case, the user is in the groups that stay and in the mandatory ones. -/
theorem mem_after {kept : List String} (hkept : ∀ dn, dn ∈ kept ↔ dn ∈ u.groups ∧ Stays dir u dn)
    {mandatory : List String} (d : String) :
    d ∈ (kept ++ mandatory.filter (fun dn => Runtime.lower dn ∉ kept.map Runtime.lower)).map
        Runtime.lower ↔
      (∃ g ∈ u.groups, Stays dir u g ∧ Runtime.lower g = d) ∨ d ∈ mandatory.map Runtime.lower := by
  have hstays : (∃ g ∈ u.groups, Stays dir u g ∧ Runtime.lower g = d) ↔
      d ∈ kept.map Runtime.lower := by
    simp only [List.mem_map, hkept, and_assoc]
  rw [hstays, List.map_append, List.mem_append]
  by_cases hmem : d ∈ kept.map Runtime.lower
  · exact iff_of_true (.inl hmem) (.inl hmem)
  · simp only [hmem, false_or]
    constructor
    · intro h
      obtain ⟨dn, hdn, rfl⟩ := List.mem_map.mp h
      exact List.mem_map_of_mem (List.mem_of_mem_filter hdn)
    · intro h
      obtain ⟨dn, hdn, rfl⟩ := List.mem_map.mp h
      exact List.mem_map_of_mem (List.mem_filter.mpr ⟨hdn, decide_eq_true hmem⟩)

theorem members_iff {kept : List String}
    (hkept : ∀ dn, dn ∈ kept ↔ dn ∈ u.groups ∧ Stays dir u dn) :
    (∀ dn, Runtime.lower dn ∈ (kept ++ (mandatoryGroups u (startState u)).filter
        (fun dn => Runtime.lower dn ∉ kept.map Runtime.lower)).map Runtime.lower ↔
      ShouldHave dir u dn) ↔ NoneMisread dir u := by
  simp only [mem_after hkept]
  constructor
  · intro hexact dn hdn hschool hkind hstale
    have hhas := (hexact dn).mp (.inl ⟨dn, hdn, ⟨.inl hschool, .inr hstale⟩, rfl⟩)
    rcases hhas with hmandatory | ⟨g, hg, hlower, hclass, hworkgroup, -⟩
    · exact hmandatory
    · obtain rfl := List.inj_on_of_nodup_map u.groups_nodup hg hdn hlower
      exact absurd hkind (by simp [hclass, hworkgroup])
  · intro hnone dn
    constructor
    · rintro (⟨g, hg, ⟨hschool, hstale⟩, hlower⟩ | hmandatory)
      · rcases hschool with hschool | hprimary
        · rcases hstale with hmandatory | hstale
          · exact .inl (hlower ▸ List.mem_map_of_mem hmandatory)
          · by_cases hkind : dir.schoolClass g = none ∧ dir.workgroup g = none
            · exact .inr ⟨g, hg, hlower, hkind.1, hkind.2, hschool⟩
            · rw [not_and_or] at hkind
              exact .inl (hlower ▸ hnone g hg hschool hkind hstale)
        · left
          rw [← hlower, hprimary]
          exact primary_mandatory
      · exact .inl hmandatory
    · rintro (hmandatory | ⟨g, hg, hlower, hclass, hworkgroup, hschool⟩)
      · exact .inr hmandatory
      · have hstale : isStale dir (startState u) g = false := by
          rw [isStale, hclass, hworkgroup]
        exact .inl ⟨g, hg, ⟨.inl hschool, .inr hstale⟩, hlower⟩

theorem nodup_iff {kept : List String} (hsub : kept.Sublist u.groups)
    (hkept : ∀ dn, dn ∈ kept ↔ dn ∈ u.groups ∧ Stays dir u dn) :
    ((kept ++ (mandatoryGroups u (startState u)).filter
        (fun dn => Runtime.lower dn ∉ kept.map Runtime.lower)).map Runtime.lower).Nodup ↔
      NoneRepeated dir u := by
  have hnodup : (kept.map Runtime.lower).Nodup := u.groups_nodup.sublist (hsub.map _)
  have hfilter : ((mandatoryGroups u (startState u)).filter
      (fun dn => Runtime.lower dn ∉ kept.map Runtime.lower)).map Runtime.lower =
        ((mandatoryGroups u (startState u)).map Runtime.lower).filter
          (fun d => d ∉ kept.map Runtime.lower) := by
    rw [List.filter_map]
    rfl
  have hdisjoint : (kept.map Runtime.lower).Disjoint
      (((mandatoryGroups u (startState u)).map Runtime.lower).filter
        (fun d => d ∉ kept.map Runtime.lower)) := by
    intro d hd hd'
    exact of_decide_eq_true (List.mem_filter.mp hd').2 hd
  have hnew : ∀ d, d ∉ kept.map Runtime.lower ↔
      ∀ g ∈ u.groups, Stays dir u g → Runtime.lower g ≠ d := by
    intro d
    simp only [List.mem_map, hkept, not_exists, not_and, and_imp]
  have hcount : ∀ d, d ∉ kept.map Runtime.lower →
      (((mandatoryGroups u (startState u)).map Runtime.lower).filter
        (fun d => d ∉ kept.map Runtime.lower)).count d =
          ((mandatoryGroups u (startState u)).map Runtime.lower).count d := by
    intro d hd
    apply List.count_filter
    exact decide_eq_true hd
  rw [List.map_append, hfilter, List.nodup_append', and_iff_right hnodup, and_iff_left hdisjoint,
    List.nodup_iff_count_le_one]
  constructor
  · intro honce dn hdn
    rw [← hcount _ ((hnew _).mpr hdn)]
    exact honce (Runtime.lower dn)
  · intro hnone d
    by_cases hd : d ∈ kept.map Runtime.lower
    · rw [List.count_eq_zero_of_not_mem]
      · exact Nat.zero_le _
      · exact fun hmem => of_decide_eq_true (List.mem_filter.mp hmem).2 hd
    · rw [hcount d hd]
      by_cases hmem : d ∈ (mandatoryGroups u (startState u)).map Runtime.lower
      · obtain ⟨dn, -, rfl⟩ := List.mem_map.mp hmem
        exact hnone dn ((hnew _).mp hd)
      · rw [List.count_eq_zero_of_not_mem hmem]
        exact Nat.zero_le _

end Exact

/-- A wanted name is taken for that of a class `s-x` for which it does not stand if and only if it is
the relative name `x`, and starts with the prefix of the school itself. -/
theorem misread_name_iff [CaseRuntime] {wanted : Table String (List String)} {school x : String} :
    (nameWanted wanted school (schoolPrefix school ++ x) = true ∧
        schoolPrefix school ++ x ∉ ((wanted.find? school).getD []).map (fullName school)) ↔
      x ∈ (wanted.find? school).getD [] ∧ startsWith x (schoolPrefix school) = true ∧
        schoolPrefix school ++ x ∉ (wanted.find? school).getD [] := by
  generalize hnames : (wanted.find? school).getD [] = names
  have hwanted : nameWanted wanted school (schoolPrefix school ++ x) = true ↔
      schoolPrefix school ++ x ∈ names ∨ x ∈ names := by
    rw [nameWanted, getRelativeName_append, hnames, decide_eq_true_eq]
  have hnamed : schoolPrefix school ++ x ∈ names.map (fullName school) ↔
      schoolPrefix school ++ x ∈ names ∨
        x ∈ names ∧ ¬ startsWith x (schoolPrefix school) = true := by
    constructor
    · intro h
      obtain ⟨name, hname, heq⟩ := List.mem_map.mp h
      rw [fullName] at heq
      split at heq
      · exact .inl (heq ▸ hname)
      · next hstart =>
        obtain rfl := String.append_right_inj _ |>.mp heq
        exact .inr ⟨hname, hstart⟩
    · rintro (hname | ⟨hname, hstart⟩)
      · exact List.mem_map.mpr ⟨_, hname, fullName_append school x⟩
      · exact List.mem_map.mpr ⟨_, hname, if_neg hstart⟩
  rw [hwanted, hnamed, not_or, not_and, not_not]
  constructor
  · rintro ⟨hname | hname, habsent, hstart⟩
    · exact absurd hname habsent
    · exact ⟨hname, hstart hname, habsent⟩
  · rintro ⟨hname, hstart, habsent⟩
    exact ⟨.inr hname, habsent, fun _ => hstart⟩

section Main

variable [Runtime] [DnEscaping] {base : LdapBase} {dir : GroupDirectory} {u : UserModification base}

/-- After a modification the groups of the user are exactly those that it should have if and only if
no wanted name is taken for that of another group that the user is in, and no new group is named
twice. -/
theorem memberships_iff {after : List String} (h : doModify dir u = some after) :
    MembershipsExact dir u after ↔ NoneMisread dir u ∧ NoneRepeated dir u := by
  obtain ⟨kept, hsub, hkept, rfl⟩ := exists_kept h
  rw [← members_iff hkept, ← nodup_iff hsub hkept]
  exact ⟨fun h => ⟨h.members, h.nodup⟩, fun h => ⟨h.1, h.2⟩⟩

end Main

section Concrete

attribute [local instance] asciiRuntime pythonEscaping

/-- A directory with the classes `A-1` and `A-A-1` of the school `A`. -/
def twoClasses : GroupDirectory where
  schoolClass dn := [("A", "A-1"), ("A", "A-A-1")].find? (fun c =>
    UserGroup.dn schoolBase (.schoolClass c.1 c.2) = dn)
  workgroup _ := none
  ofSchool _ _ := false
  usable _ := true
  setOrder schools := schools
  setOrder_perm := List.Perm.refl

/-- The groups of a teacher of the school `A` in the class `A-A-1`. -/
def teacherGroups : List String :=
  [UserGroup.domainUsers "A", .roleGroup .teachers "A", .schoolClass "A" "A-A-1"].map
    (UserGroup.dn schoolBase)

theorem teacherGroups_nodup : (teacherGroups.map Runtime.lower).Nodup := by decide

theorem teacher_classes : ∀ entry ∈ (Table.empty.insert "A" ["A-1"]).rows,
    ∃ s ∈ [ouNamedA], s.name = entry.1 := by
  decide

theorem no_workgroups : ∀ entry ∈ (Table.empty : Table String (List String)).rows,
    ∃ s ∈ [ouNamedA], s.name = entry.1 := by
  decide

/-- The teacher is to be in the class `A-1`. -/
def teacherToA1 : UserModification schoolBase where
  cls := .teacher
  isAdministrator := false
  school := ouNamedA
  storedSchools := [ouNamedA]
  schools := [ouNamedA]
  stored_mem := List.mem_singleton.mpr rfl
  school_mem := List.mem_singleton.mpr rfl
  primaryGroup := UserGroup.dn schoolBase (.domainUsers "A")
  primary := rfl
  groups := teacherGroups
  groups_nodup := teacherGroups_nodup
  schoolClasses := Table.empty.insert "A" ["A-1"]
  workgroups := .empty
  classes_in := teacher_classes
  workgroups_in := no_workgroups

theorem teacherToA1_run : doModify twoClasses teacherToA1 =
    some (teacherGroups ++ [UserGroup.dn schoolBase (.schoolClass "A" "A-1")]) := by
  decide

theorem memberships_teacherToA1 : MembershipsExact twoClasses teacherToA1
    (teacherGroups ++ [UserGroup.dn schoolBase (.schoolClass "A" "A-1")]) ↔
      NoneMisread twoClasses teacherToA1 ∧ NoneRepeated twoClasses teacherToA1 :=
  memberships_iff teacherToA1_run

/-- The teacher stays in `A-A-1`, as this has the relative name `A-1`. -/
theorem teacherToA1_not_exact : ∃ after, doModify twoClasses teacherToA1 = some after ∧
    ¬ MembershipsExact twoClasses teacherToA1 after := by
  refine ⟨_, teacherToA1_run, fun h => ?_⟩
  have hstill := (h.members (UserGroup.dn schoolBase (.schoolClass "A" "A-A-1"))).mp
    (by decide)
  rcases hstill with hmandatory | ⟨g, hg, hlower, hclass, -⟩
  · exact absurd hmandatory (by decide)
  · have hfound : ∀ g ∈ teacherGroups, Runtime.lower g =
        Runtime.lower (UserGroup.dn schoolBase (.schoolClass "A" "A-A-1")) →
          twoClasses.schoolClass g ≠ none := by
      decide
    exact hfound g hg hlower hclass

end Concrete

end Kelvin
