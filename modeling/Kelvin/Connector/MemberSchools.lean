import Kelvin.Connector.Resolution

/-!
# Members and the school of their group

A member link is a link to the membership of a user in a school, and that school should be
the school of the group. The managers do not look at it: a user is linked to the groups that
stand under its memberships, and a group that changes its school looks its members up in the
school that its row still has. The connector builds memberships that fit, but it does move
groups.

* `Operation`, `perform`: the operations of the managers and of the connector.
* `Inside`: every member link stays inside the group's school.
* `KeepsInside`: the condition on an operation.
* `inside_step`, `inside_run`: an operation keeps the invariant if and only if it meets the
  condition, and a run of such operations keeps it.
-/

namespace Kelvin

section MemberSchools

/-! ## The invariant -/

/-- Every member link leads to a membership in the school of its group. -/
def Inside (db : Objects) : Prop :=
  ∀ g k row, (g, k) ∈ db.groupMembers → db.groups.find? g = some row → k.school = row.school

/-- Under a membership stand only groups of its school. -/
def MembersFit (db : Objects) (memberships : Table PublicId SchoolMembership) : Prop :=
  ∀ s m, memberships.find? s = some m → ∀ g ∈ m.groups, ∀ row, db.groups.find? g = some row →
    row.school = s

/-- The group keeps its school, or none of the members asked for belongs to the old one. -/
def MovesAlone (db : Objects) (model : GroupModel) (school : PublicId) (members : Finset PublicId) :
    Prop :=
  school = model.school ∨ ∀ u ∈ members, ¬ db.IsMember model.school u

variable {db db' : Database} {id : PublicId}

theorem Inside.of_eq (h : Inside db.toObjects) (hgroups : db'.groups = db.groups)
    (hlinks : db'.groupMembers = db.groupMembers) : Inside db'.toObjects := by
  intro g k row hgk hrow
  rw [hlinks] at hgk
  rw [hgroups] at hrow
  exact h g k row hgk hrow

theorem inside_relink_iff {memberships : Table PublicId SchoolMembership}
    (h : Inside db.toObjects) (hgroups : db'.groups = db.groups)
    (hlinks : db'.groupMembers = UserManager.relink db.groupMembers id memberships) :
    Inside db'.toObjects ↔ MembersFit db.toObjects memberships := by
  constructor
  · intro h' s m hm g hg row hrow
    have hgk : (g, MembershipKey.mk id s) ∈ db'.groupMembers := by
      rw [hlinks, UserManager.mem_relink]
      exact .inr ⟨rfl, m, hm, hg⟩
    exact (h' g ⟨id, s⟩ row hgk (hgroups ▸ hrow)).symm
  · intro hfit g k row hgk hrow
    rw [hlinks, UserManager.mem_relink] at hgk
    rw [hgroups] at hrow
    rcases hgk with ⟨-, hgk⟩ | ⟨-, m, hm, hg⟩
    · exact h g k row hgk hrow
    · exact (hfit k.school m hm g hg row hrow).symm

theorem inside_user_insert {data : User} (h : Inside db.toObjects) :
    Inside (UserManager.insert db id data).toObjects ↔
      MembersFit db.toObjects data.schoolMemberships := inside_relink_iff h rfl rfl

theorem inside_user_update {model : UserModel} {patch : UserPatch} (h : Inside db.toObjects) :
    Inside (UserManager.update db id model patch).toObjects ↔
      (patch.schoolMemberships = true → MembersFit db.toObjects patch.patched.schoolMemberships) := by
  by_cases hp : patch.schoolMemberships = true
  · simp only [hp, true_imp_iff]
    exact inside_relink_iff h rfl (if_pos hp)
  · refine iff_of_true (h.of_eq rfl (if_neg hp)) (fun h => absurd h hp)

theorem Inside.group_insert {data : Group} (h : Inside db.toObjects) :
    Inside (GroupManager.insert db id data).toObjects := by
  intro g k row hgk hrow
  rcases Links.mem_assign.mp hgk with ⟨rfl, hk⟩ | ⟨hg, hgk⟩
  · obtain ⟨u, -, rfl⟩ := Finset.mem_image.mp hk
    rw [GroupManager.find?_insert] at hrow
    cases hrow
    rfl
  · exact h g k row hgk ((Table.find?_insert_ne hg).symm.trans hrow)

/-- An updated group keeps its links inside exactly when it keeps its school, or when no member
asked for is found in the old one. -/
theorem inside_group_update {model : GroupModel} {current patched : Group} (hi : Integrity db)
    (h : Inside db.toObjects) (hstored : db.groups.find? id = some model)
    (hcur : toGroup db.toObjects id model = .ok current) :
    Inside (GroupManager.update db id model patched current).toObjects ↔
      MovesAlone db.toObjects model patched.school patched.members := by
  have hcurrent : current.members = (db.groupMembers.rightOf id).image MembershipKey.user := by
    obtain ⟨-, rfl⟩ := GroupManager.toGroup_eq_ok.mp hcur
    rfl
  -- a member that is asked for and belongs to the old school is linked there
  have hlink : ∀ u ∈ patched.members, db.IsMember model.school u →
      (id, MembershipKey.mk u model.school) ∈
        (GroupManager.update db id model patched current).groupMembers := by
    intro u hu hmember
    change _ ∈ GroupManager.syncGroupMembers db id model patched.members current.members
    unfold GroupManager.syncGroupMembers
    split
    · next heq =>
      rw [← heq, hcurrent] at hu
      obtain ⟨k, hk, rfl⟩ := Finset.mem_image.mp hu
      have hgk := Links.mem_rightOf.mp hk
      rw [← h id k model hgk hstored]
      exact hgk
    · refine Links.mem_assign.mpr (.inl ⟨rfl, Finset.mem_image.mpr ⟨u, ?_, rfl⟩⟩)
      exact Finset.mem_filter.mpr ⟨hu, hmember⟩
  constructor
  · intro h'
    by_cases hschool : patched.school = model.school
    · exact .inl hschool
    · refine .inr (fun u hu hmember => hschool ?_)
      exact (h' id _ _ (hlink u hu hmember) GroupManager.find?_update).symm
  · intro hmoves g k row hgk hrow
    by_cases hg : g = id
    · subst hg
      rw [GroupManager.find?_update] at hrow
      cases hrow
      have hold : k.school = model.school := by
        rcases mem_syncGroupMembers hgk with ⟨-, hs, -, -⟩ | hgk
        · exact hs
        · exact h g k model hgk hstored
      rcases hmoves with hschool | hnone
      · exact hold.trans hschool.symm
      · -- then the group has no members at all
        exfalso
        have hmember : db.IsMember k.school k.user ∧ k.user ∈ patched.members := by
          change _ ∈ GroupManager.syncGroupMembers db g model patched.members current.members at hgk
          unfold GroupManager.syncGroupMembers at hgk
          split at hgk
          · next heq =>
            refine ⟨hi.memberMembership hgk, ?_⟩
            rw [← heq, hcurrent]
            exact Finset.mem_image_of_mem _ (Links.mem_rightOf.mpr hgk)
          · rcases Links.mem_assign.mp hgk with ⟨-, hk⟩ | ⟨hne, -⟩
            · obtain ⟨u, hu, rfl⟩ := Finset.mem_image.mp hk
              obtain ⟨hu, hmember⟩ := Finset.mem_filter.mp hu
              exact ⟨hmember, hu⟩
            · exact absurd rfl hne
        exact hnone k.user hmember.2 (hold ▸ hmember.1)
    · have hrow' : db.groups.find? g = some row := (Table.find?_insert_ne hg).symm.trans hrow
      rcases mem_syncGroupMembers hgk with ⟨hid, -, -, -⟩ | hgk
      · exact absurd hid hg
      · exact h g k row hgk hrow'

theorem Inside.school_erase (h : Inside db.toObjects) :
    Inside (SchoolManager.erase db id).toObjects :=
  fun g k row hgk hrow => h g k row (Finset.mem_filter.mp hgk).1 hrow

theorem Inside.user_erase (h : Inside db.toObjects) : Inside (UserManager.erase db id).toObjects :=
  fun g k row hgk hrow => h g k row (Finset.mem_filter.mp hgk).1 hrow

theorem Inside.group_erase (h : Inside db.toObjects) :
    Inside (GroupManager.erase db id).toObjects := by
  intro g k row hgk hrow
  obtain ⟨hgk, hg⟩ := Links.mem_dropLeft.mp hgk
  simp only [GroupManager.erase, Table.find?_erase, if_neg hg] at hrow
  exact h g k row hgk hrow

/-! ## Operations -/

/-- The create and modify operations of the managers, and the events of the connector, which
use them. A modify operation is given by the document that its patch leads to. -/
inductive Operation where
  | createSchool (id : PublicId) (data : School)
  | createUser (id : PublicId) (data : User)
  | modifyUser (id : PublicId) (patch : UserPatch)
  | createGroup (id : PublicId) (data : Group)
  | modifyGroup (id : PublicId) (patched : Group)
  | event (e : Event)

/-- The condition on an operation. -/
def KeepsInside (db : Database) : Operation → Prop
  | .createUser _ data => MembersFit db.toObjects data.schoolMemberships
  | .modifyUser _ patch =>
    patch.schoolMemberships = true → MembersFit db.toObjects patch.patched.schoolMemberships
  | .modifyGroup id patched => ∀ model, db.groups.find? id = some model →
    MovesAlone db.toObjects model patched.school patched.members
  | .event (.groupCreate new) => ∀ model school, db.groups.find? new.id = some model →
    findSchool db (groupSchoolName new.properties) = some school →
      MovesAlone db.toObjects model school (fetchMembersByDns db new.properties.users school)
  | .event (.groupModify new) => ∀ model, db.groups.find? new.id = some model →
    MovesAlone db.toObjects model
      ((findSchool db (groupSchoolName new.properties)).getD model.school)
      (fetchMembersByDns db new.properties.users
        ((findSchool db (groupSchoolName new.properties)).getD model.school))
  | _ => True

variable [Runtime]

def perform (db : Database) : Operation → Except Exc Database
  | .createSchool id data => SchoolManager.create db id data
  | .createUser id data => UserManager.create db id data
  | .modifyUser id patch => UserManager.modify db id patch
  | .createGroup id data => GroupManager.create db id data
  | .modifyGroup id patched => GroupManager.modify db id patched
  | .event e => handle db e

theorem perform_integrity {op : Operation} (hi : Integrity db) (hh : perform db op = .ok db') :
    Integrity db' := by
  cases op with
  | createSchool id data =>
    obtain ⟨-, rfl⟩ := SchoolManager.create_eq_ok.mp hh
    exact hi.school_insert
  | createUser id data =>
    obtain ⟨hc, rfl⟩ := UserManager.create_ok hh
    exact hi.user_insert hc
  | modifyUser id patch =>
    obtain ⟨model, hm, rfl⟩ := UserManager.modify_ok hh
    exact hi.user_update hm
  | createGroup id data =>
    obtain ⟨hc, rfl⟩ := GroupManager.create_ok hh
    exact hi.group_insert hc
  | modifyGroup id patched =>
    obtain ⟨model, current, hm, rfl⟩ := GroupManager.modify_ok hh
    exact hi.group_update hm
  | event e => exact handle_integrity hi hh

/-! ## Events -/

/-- The memberships that the connector builds fit. -/
theorem membersFit_userMemberships {new : UserPayload} :
    MembersFit db.toObjects (userMemberships db new) := by
  intro s m hm g hg row hrow
  simp only [userMemberships, buildSchoolMemberships, Table.find?_mapVals] at hm
  obtain ⟨_, -, rfl⟩ := Option.map_eq_some_iff.mp hm
  have hschool := (Finset.mem_filter.mp hg).2
  rw [hrow] at hschool
  exact Option.some.inj hschool

theorem Inside.writeUser {model : UserModel} {new : UserPayload} (h : Inside db.toObjects) :
    Inside (writeUser db id model (userTarget db new)).toObjects := by
  unfold Kelvin.writeUser
  split
  · exact h
  · exact (inside_user_update h).mpr (fun _ => membersFit_userMemberships)

theorem Inside.userCreated {new : UserPayload} (h : Inside db.toObjects)
    (hc : UserCreated db new db') : Inside db'.toObjects := by
  cases hc with
  | dropped => exact h
  | created =>
    rw [toObjects_userStored]
    exact (inside_user_insert h).mpr membersFit_userMemberships
  | stored => exact h.writeUser

theorem inside_writeGroup {model : GroupModel} {current target : Group} (hi : Integrity db)
    (h : Inside db.toObjects) (hstored : db.groups.find? id = some model)
    (hcur : toGroup db.toObjects id model = .ok current) :
    Inside (writeGroup db id model current target).toObjects ↔
      MovesAlone db.toObjects model target.school target.members := by
  unfold writeGroup
  split
  · next heq =>
    refine iff_of_true h (.inl ?_)
    have hschool : current.school = target.school := by
      have hschools := congrArg Group.school heq
      exact hschools
    obtain ⟨-, rfl⟩ := GroupManager.toGroup_eq_ok.mp hcur
    exact hschool.symm
  · exact inside_group_update hi h hstored hcur

theorem inside_groupCreated {new : GroupPayload} (hi : Integrity db) (h : Inside db.toObjects)
    (hc : GroupCreated db new db') :
    Inside db'.toObjects ↔ KeepsInside db (.event (.groupCreate new)) := by
  cases hc with
  | dropped hs => exact iff_of_true h (fun model school _ hschool => by simp [hs] at hschool)
  | created school hs habsent hc =>
    refine iff_of_true ?_ (fun model _ hmodel => by simp [habsent] at hmodel)
    rw [toObjects_groupStored]
    exact h.group_insert
  | stored school hs model current hstored hw =>
    rw [inside_writeGroup hi h hstored hw.loaded]
    constructor
    · intro hmoves model' school' hmodel' hschool'
      cases hstored.symm.trans hmodel'
      cases hs.symm.trans hschool'
      exact hmoves
    · exact fun hk => hk model school hstored hs

theorem inside_groupModified {new : GroupPayload} (hi : Integrity db) (h : Inside db.toObjects)
    (hm : GroupModified db new db') :
    Inside db'.toObjects ↔ KeepsInside db (.event (.groupModify new)) := by
  cases hm with
  | absent habsent hc =>
    refine iff_of_true ?_ (fun model hmodel => by simp [habsent] at hmodel)
    refine (inside_groupCreated hi h hc).mpr (fun model _ hmodel => ?_)
    simp [habsent] at hmodel
  | stored model current hstored hw =>
    have hview : (db.displace .group new.dn new.id).toObjects = db.toObjects :=
      Database.toObjects_displace
    have hmodel : current.school = model.school := by
      obtain ⟨-, rfl⟩ := GroupManager.toGroup_eq_ok.mp hw.loaded
      rfl
    have hmembers : ∀ s, fetchMembersByDns (db.displace .group new.dn new.id) new.properties.users s =
        fetchMembersByDns db new.properties.users s :=
      fun _ => fetchMembersByDns_congr (Database.dns_displace_ne (by decide))
        (fun _ => isMember_congr (by rw [hview]))
    rw [Database.toObjects_setMapping, inside_writeGroup hi.displace (by rwa [hview])
      (by rwa [hview]) hw.loaded, hview]
    simp only [groupTarget, applyGroupChanges, hmembers, hmodel]
    constructor
    · intro hmoves model' hmodel'
      cases hstored.symm.trans hmodel'
      exact hmoves
    · exact fun hk => hk model hstored

theorem Inside.writeSchool {current target : School} (h : Inside db.toObjects) :
    Inside (writeSchool db id current target).toObjects := by
  unfold Kelvin.writeSchool
  split
  · exact h
  · exact h.of_eq rfl rfl

theorem Inside.setSchoolServers {groupName : String} {hosts : Finset String} {ok : Bool}
    (h : Inside db.toObjects) (hh : setSchoolServers db groupName hosts ok = .ok db') :
    Inside db'.toObjects := by
  rcases setSchoolServers_ok hh with rfl | ⟨id, school, kind, -, rfl⟩
  · exact h
  · exact h.writeSchool

theorem Inside.schoolCreated {new : SchoolPayload} (h : Inside db.toObjects)
    (hc : SchoolCreated db new db') : Inside db'.toObjects := by
  cases hc with
  | created =>
    rw [Database.toObjects_setMapping]
    exact h.of_eq rfl rfl
  | stored => exact h.writeSchool

/-- A handled event keeps the invariant if and only if it meets the condition. -/
theorem inside_event {e : Event} (hi : Integrity db) (h : Inside db.toObjects)
    (hh : handle db e = .ok db') : Inside db'.toObjects ↔ KeepsInside db (.event e) := by
  cases e with
  | userCreate new => exact iff_of_true (h.userCreated (handleUserCreate_ok hh)) trivial
  | userModify new =>
    refine iff_of_true ?_ trivial
    cases handleUserModify_ok hh with
    | absent _ hc => exact h.userCreated hc
    | stored model _ _ =>
      have hview : (db.displace .user new.dn new.id).toObjects = db.toObjects :=
        Database.toObjects_displace
      rw [Database.toObjects_setMapping]
      exact Inside.writeUser (by rwa [hview])
  | userDelete old =>
    refine iff_of_true ?_ trivial
    rcases ignoreNotFound_ok hh with hd | ⟨rfl, -⟩
    · obtain ⟨-, rfl⟩ := UserManager.delete_eq_ok.mp hd
      exact h.user_erase
    · exact h
  | groupCreate new => exact inside_groupCreated hi h (handleGroupCreate_ok hh)
  | groupModify new => exact inside_groupModified hi h (handleGroupModify_ok hh)
  | groupDelete old =>
    refine iff_of_true ?_ trivial
    rcases ignoreNotFound_ok hh with hd | ⟨rfl, -⟩
    · obtain ⟨-, rfl⟩ := GroupManager.delete_eq_ok.mp hd
      exact h.group_erase
    · exact h
  | schoolCreate new => exact iff_of_true (h.schoolCreated (handleSchoolCreate_ok hh)) trivial
  | schoolModify new =>
    refine iff_of_true ?_ trivial
    cases handleSchoolModify_ok hh with
    | absent _ hc => exact h.schoolCreated hc
    | stored =>
      rw [Database.toObjects_setMapping]
      exact Inside.writeSchool (by rwa [Database.toObjects_displace])
  | schoolDelete old =>
    refine iff_of_true ?_ trivial
    rcases ignoreNotFound_ok hh with hd | ⟨rfl, -⟩
    · obtain ⟨-, -, rfl⟩ := SchoolManager.delete_eq_ok.mp hd
      exact h.school_erase
    · exact h
  | hostGroupCreate new =>
    obtain ⟨_, -, hh⟩ := bind_eq_ok.mp hh
    exact iff_of_true (h.setSchoolServers hh) trivial
  | hostGroupModify new =>
    obtain ⟨_, -, hh⟩ := bind_eq_ok.mp hh
    exact iff_of_true (h.setSchoolServers hh) trivial
  | hostGroupDelete old => exact iff_of_true (h.setSchoolServers hh) trivial

/-! ## Operations and their runs -/

/-- An operation keeps the member links inside the groups' schools if and only if it meets the
condition. -/
theorem inside_step {op : Operation} (hi : Integrity db) (h : Inside db.toObjects)
    (hh : perform db op = .ok db') : Inside db'.toObjects ↔ KeepsInside db op := by
  cases op with
  | createSchool id data =>
    obtain ⟨-, rfl⟩ := SchoolManager.create_eq_ok.mp hh
    exact iff_of_true (h.of_eq rfl rfl) trivial
  | createUser id data =>
    obtain ⟨-, rfl⟩ := UserManager.create_ok hh
    exact inside_user_insert h
  | modifyUser id patch =>
    obtain ⟨model, -, rfl⟩ := UserManager.modify_ok hh
    exact inside_user_update h
  | createGroup id data =>
    obtain ⟨-, rfl⟩ := GroupManager.create_ok hh
    exact iff_of_true h.group_insert trivial
  | modifyGroup id patched =>
    obtain ⟨model, current, hm, rfl⟩ := GroupManager.modify_ok hh
    rw [inside_group_update hi h hm.stored hm.loaded]
    constructor
    · intro hmoves model' hmodel'
      cases hm.stored.symm.trans hmodel'
      exact hmoves
    · exact fun hk => hk model hm.stored
  | event e => exact inside_event hi h hh

/-- In every run whose operations meet the condition, every member link stays inside the school
of its group. -/
theorem inside_run {roles : Table PublicId RoleModel} {ops : List Operation}
    (h : Along perform (fun db op => Handles perform db op → KeepsInside db op)
      (Database.initial roles) ops) :
    ∀ g k row, (g, k) ∈ (replay perform (Database.initial roles) ops).groupMembers →
      (replay perform (Database.initial roles) ops).groups.find? g = some row →
        k.school = row.school := by
  have hinv : Integrity (replay perform (Database.initial roles) ops) ∧
      Inside (replay perform (Database.initial roles) ops).toObjects := by
    refine replay_invariant (I := fun db => Integrity db ∧ Inside db.toObjects)
      (fun db op db' hI hP hh => ?_)
      ⟨integrity_initial roles, fun _ _ _ hgk => by simp [Database.initial] at hgk⟩ h
    exact ⟨perform_integrity hI.1 hh, (inside_step hI.1 hI.2 hh).mpr (hP ⟨db', hh⟩)⟩
  exact hinv.2

end MemberSchools

/-! ## A class that moves -/

section

attribute [local instance] asciiRuntime

/-- The run that creates a school, a student and its class. -/
def classRun : List Operation :=
  [.event (.schoolCreate (schoolEvent 1 "ou=A" "A" ouA_ne)),
    .event (.userCreate (studentEvent 2 "uid=u,ou=A" "u" ["A"] [] [] [] uidA_ne)),
    .event (.groupCreate
      (classEvent 3 "cn=c,ou=A" "c" "A" ["uid=u,ou=A"] [] [] none cnA_ne))]

theorem classRun_keepsInside : Along perform (fun db op => Handles perform db op → KeepsInside db op)
    (Database.initial someRoles) classRun := by
  refine ⟨fun _ => trivial, fun _ => trivial, fun _ model _ hmodel => ?_, trivial⟩
  have habsent : (replay perform (Database.initial someRoles)
      [.event (.schoolCreate (schoolEvent 1 "ou=A" "A" (by decide))),
        .event (.userCreate (studentEvent 2 "uid=u,ou=A" "u" ["A"] [] [] []
          (by decide)))]).groups.find? 3 = none := by
    decide
  exact absurd (habsent.symm.trans hmodel) (by simp)

/-- The student of this run is a member of the class, inside the school of the class. -/
theorem inside_run_class :
    ∃ row, (3, ⟨2, 1⟩) ∈ (replay perform (Database.initial someRoles) classRun).groupMembers ∧
      (replay perform (Database.initial someRoles) classRun).groups.find? 3 = some row ∧
        1 = row.school := by
  have hlink : (3, ⟨2, 1⟩) ∈
      (replay perform (Database.initial someRoles) classRun).groupMembers := by
    decide
  obtain ⟨row, hrow⟩ : ∃ row,
      (replay perform (Database.initial someRoles) classRun).groups.find? 3 = some row :=
    Option.isSome_iff_exists.mp (by decide)
  exact ⟨row, hlink, hrow, inside_run classRun_keepsInside 3 ⟨2, 1⟩ row hlink hrow⟩

/-- A class that moves to another school keeps a member in its old one. -/
theorem inside_class_moved :
    ¬ ∀ (roles : Table PublicId RoleModel) (ops : List Operation) (g : PublicId)
      (k : MembershipKey) (row : GroupModel),
      (g, k) ∈ (replay perform (Database.initial roles) ops).groupMembers →
        (replay perform (Database.initial roles) ops).groups.find? g = some row →
          k.school = row.school := by
  intro h
  have hschool : ((replay perform (Database.initial someRoles)
      [.event (.schoolCreate (schoolEvent 1 "ou=A" "A" (by decide))),
        .event (.schoolCreate (schoolEvent 2 "ou=B" "B" (by decide))),
        .event (.userCreate (studentEvent 3 "uid=u,ou=A" "u" ["A", "B"] [] [] [] (by decide))),
        .event (.groupCreate
          (classEvent 4 "cn=c,ou=A" "c" "A" ["uid=u,ou=A"] [] [] none (by decide))),
        .event (.groupModify
          (classEvent 4 "cn=c,ou=B" "c" "B" ["uid=u,ou=A"] [] [] none (by decide)))]).groups.find?
            4).map (·.school) = some 2 := by
    decide
  obtain ⟨row, hrow, hB⟩ := Option.map_eq_some_iff.mp hschool
  have hA := h someRoles _ 4 ⟨3, 1⟩ row (by decide) hrow
  exact absurd (hA.trans hB) (by decide)

end

end Kelvin
