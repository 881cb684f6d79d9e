import Kelvin.Objects.Managers

/-!
# The members of a group

Create looks up the memberships of the requested users in the school of the new group and
fails if one is missing. Modify looks them up in the school that the row has, and takes those it
finds.

* `Objects.members`: the users that are members of a group.
* `members_insert`: a created group has the requested members.
* `modify_members_iff`: when a modified group has them.
-/

namespace Kelvin

/-- The users behind the memberships that are linked to a group. -/
def Objects.members (db : Objects) (group : PublicId) : Finset PublicId :=
  (db.groupMembers.rightOf group).image MembershipKey.user

variable {db : Database} {id : PublicId}

theorem members_insert {data : Group} :
    (GroupManager.insert db id data).members id = data.members := by
  change (Links.rightOf (Links.assign _ _ _) id).image _ = _
  rw [Links.rightOf_assign_self, Finset.image_image]
  exact Finset.image_id

theorem members_of_toGroup {model : GroupModel} {current : Group}
    (hcur : toGroup db.toObjects id model = .ok current) :
    current.members = db.members id := by
  obtain ⟨-, rfl⟩ := GroupManager.toGroup_eq_ok.mp hcur
  rfl

/-- A created group has the members that were asked for, each with a membership in its school. -/
theorem create_members {db' : Database} {data : Group}
    (h : GroupManager.create db id data = .ok db') :
    db'.members id = data.members ∧ ∀ u ∈ data.members, db.IsMember data.school u := by
  obtain ⟨hc, rfl⟩ := GroupManager.create_ok h
  exact ⟨members_insert, hc.members⟩

/-! ## Modify -/

section Settled

variable {model : GroupModel} {current target : Group}

/-- The members that an update leaves: those that were asked for, as far as they belong to
the school that the row had before, unless they were the members already. -/
def settledMembers (db : Objects) (model : GroupModel) (current target : Group) :
    Finset PublicId :=
  if current.members = target.members then current.members
  else target.members.filter (db.IsMember model.school)

/-- The members asked for are the members already, or all of them belong to the school that
the row has. -/
def MembersSettle (db : Objects) (id : PublicId) (model : GroupModel) (members : Finset PublicId) :
    Prop :=
  (db.groupMembers.rightOf id).image MembershipKey.user = members ∨
    ∀ u ∈ members, db.IsMember model.school u

theorem settledMembers_eq_iff (hcur : toGroup db.toObjects id model = .ok current) :
    settledMembers db.toObjects model current target = target.members ↔
      MembersSettle db.toObjects id model target.members := by
  have hmembers : (db.groupMembers.rightOf id).image MembershipKey.user = current.members :=
    (members_of_toGroup hcur).symm
  unfold settledMembers MembersSettle
  rw [hmembers]
  split
  · next heq => exact iff_of_true heq (.inl heq)
  · next hne =>
    rw [Finset.filter_eq_self]
    exact ⟨.inr, fun h => h.resolve_left hne⟩

theorem members_update {patched : Group} (hcur : toGroup db.toObjects id model = .ok current) :
    (GroupManager.update db id model patched current).members id =
      settledMembers db.toObjects model current patched := by
  change (Links.rightOf (GroupManager.syncGroupMembers db id model patched.members
    current.members) id).image _ = _
  unfold GroupManager.syncGroupMembers settledMembers
  split
  · exact (members_of_toGroup hcur).symm
  · rw [Links.rightOf_assign_self, Finset.image_image]
    exact Finset.image_id

end Settled

/-- A modified group has the members that were asked for, if and only if it had them before or
each of them has a membership in the school that the row had. -/
theorem modify_members_iff [Runtime] {db' : Database} {model : GroupModel} {patched : Group}
    (hstored : db.groups.find? id = some model)
    (h : GroupManager.modify db id patched = .ok db') :
    db'.members id = patched.members ↔
      db.members id = patched.members ∨ ∀ u ∈ patched.members, db.IsMember model.school u := by
  obtain ⟨model', current, hm, rfl⟩ := GroupManager.modify_ok h
  cases hm.stored.symm.trans hstored
  rw [members_update hm.loaded]
  exact settledMembers_eq_iff hm.loaded

/-! ## A class of one school and a student of another -/

section

attribute [local instance] asciiRuntime

def plainSchool (name : String) : School where
  recordUid := name
  sourceUid := "source"
  name := name
  displayName := name
  educationalServers := ∅
  administrativeServers := ∅
  classShareFileServer := none
  homeShareFileServer := none
  udmProperties := .empty

/-- A student of one school. -/
def studentOf (school : PublicId) (name : String) : User where
  recordUid := name
  sourceUid := "source"
  name := name
  firstname := name
  lastname := name
  active := true
  email := none
  birthday := none
  expirationDate := none
  udmProperties := .empty
  schoolMemberships := Table.empty.insert school ⟨true, {1}, ∅⟩
  legalWards := ∅
  legalGuardians := ∅

/-- A class with some members. -/
def classOf (school : PublicId) (members : Finset PublicId) : Group where
  recordUid := "c"
  sourceUid := "source"
  name := "c"
  displayName := "c"
  createShare := true
  email := none
  description := none
  udmProperties := .empty
  school := school
  roles := {2}
  memberRoles := ∅
  members := members
  allowedEmailSendersUsers := ∅
  allowedEmailSendersGroups := ∅

/-- The database after the creates of two schools, a student of each, and a class of the first. -/
def created : Except Exc Database := do
  let roles : Table PublicId RoleModel :=
    (Table.empty.insert 1 ⟨"student"⟩).insert 2 ⟨"school_class"⟩
  let db ← SchoolManager.create (Database.initial roles) 1 (plainSchool "A")
  let db ← SchoolManager.create db 2 (plainSchool "B")
  let db ← UserManager.create db 3 (studentOf 1 "u")
  let db ← UserManager.create db 4 (studentOf 2 "v")
  GroupManager.create db 5 (classOf 1 ∅)

/-- What a modify of the class answers, and the members that it leaves. -/
def membersAfter (members : Finset PublicId) : Except Exc (Finset PublicId) := do
  let db ← created
  let db ← GroupManager.modify db 5 (classOf 1 members)
  pure (db.members 5)

/-- The student of the same school becomes a member. -/
theorem modify_members_class : ∃ db db' model, created = .ok db ∧
    db.groups.find? 5 = some model ∧ GroupManager.modify db 5 (classOf 1 {3}) = .ok db' ∧
      (db'.members 5 = {3} ↔
        db.members 5 = {3} ∨ ∀ u ∈ ({3} : Finset PublicId), db.IsMember model.school u) := by
  obtain ⟨members, h⟩ : ∃ members, membersAfter {3} = .ok members :=
    exists_of_isOk (by decide)
  obtain ⟨db, hdb, h⟩ := bind_eq_ok.mp h
  obtain ⟨db', hmodify, -⟩ := bind_eq_ok.mp h
  obtain ⟨model, _, hm, -⟩ := GroupManager.modify_ok hmodify
  exact ⟨db, db', model, hdb, hm.stored, hmodify, modify_members_iff hm.stored hmodify⟩

/-- A student of another school is left out without an error. -/
theorem members_left_out :
    ¬ ∀ (db db' : Database) (id : PublicId) (model : GroupModel) (patched : Group),
      created = .ok db → db.groups.find? id = some model →
        GroupManager.modify db id patched = .ok db' → db'.members id = patched.members := by
  intro h
  have hempty : membersAfter {4} = .ok ∅ := by decide
  obtain ⟨db, hdb, hafter⟩ := bind_eq_ok.mp hempty
  obtain ⟨db', hmodify, hmembers⟩ := bind_eq_ok.mp hafter
  obtain ⟨model, _, hm, -⟩ := GroupManager.modify_ok hmodify
  have hexact : db'.members 5 = {4} := h db db' 5 model _ hdb hm.stored hmodify
  rw [Except.ok.inj hmembers] at hexact
  exact absurd hexact (by decide)

end

end Kelvin
