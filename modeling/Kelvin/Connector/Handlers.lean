import Kelvin.Objects.Integrity
import Kelvin.Connector.Sync

/-!
# What the handlers do

One inversion lemma per handler: from a successful run of the handler it lists what may
have happened, with the checks that were passed and the database that was written. Every
later result about events starts from these lists.

* `userTarget`, `groupTarget`: the object a user or group event asks for, with its
  references resolved in a database.
* `writeUser`, `writeGroup`, `writeSchool`: the update of a stored object, which is left
  alone when its document does not change.
* `handleUserCreate_ok` and its companions: the lists.
-/

namespace Kelvin

variable [Runtime]

/-! ## Users -/

/-- The user that an event asks for, with its references resolved in `db`. -/
def userTarget (db : Database) (new : UserPayload) : User :=
  newUser new.properties (userMemberships db new)
    (fetchUsersByDns db new.properties.ucsschoolLegalWard)
    (fetchUsersByDns db new.properties.ucsschoolLegalGuardian)

/-- The database after a stored user is brought to `target`. -/
def writeUser (db : Database) (id : PublicId) (model : UserModel) (target : User) : Database :=
  if (toUser db.toObjects id model).toJson = target.toJson then db
  else UserManager.update db id model (userPatch (toUser db.toObjects id model) target)

/-- What bringing a stored user to `target` has checked. -/
def UserWritable (db : Database) (id : PublicId) (model : UserModel) (target : User) : Prop :=
  (toUser db.toObjects id model).toJson ≠ target.toJson →
    UserManager.Modifiable db id model (userPatch (toUser db.toObjects id model) target)

@[simp] theorem dns_writeUser {db : Database} {id : PublicId} {model : UserModel} {target : User}
    {t : ObjectType} : (writeUser db id model target).dns t = db.dns t := by
  unfold writeUser
  split <;> simp

theorem schoolMemberships_eq_of_toJson {u v : User} (h : u.toJson = v.toJson) :
    u.schoolMemberships = v.schoolMemberships := by
  have h' := congrArg User.schoolMemberships h
  exact h'

/-- A user brought to `target` has the memberships of `target`. -/
theorem find?_writeUser_self {db : Database} {id : PublicId} {model : UserModel} (target : User)
    (hstored : db.users.find? id = some model) :
    ∃ row, (writeUser db id model target).users.find? id = some row ∧
      row.schoolMemberships = UserManager.toMembershipModels target.schoolMemberships := by
  unfold writeUser
  split
  · next heq =>
    refine ⟨model, hstored, ?_⟩
    rw [← schoolMemberships_eq_of_toJson heq, UserManager.toMembershipModels_toUser]
  · refine ⟨_, Table.find?_insert_self _ _ _, ?_⟩
    by_cases hm : (toUser db.toObjects id model).schoolMemberships = target.schoolMemberships
    · simp [userPatch, ← hm, UserManager.toMembershipModels_toUser]
    · simp [userPatch, hm, User.toJson]

theorem find?_writeUser_ne {db : Database} {id k : PublicId} {model : UserModel} {target : User}
    (h : k ≠ id) : (writeUser db id model target).users.find? k = db.users.find? k := by
  unfold writeUser
  split
  · rfl
  · exact Table.find?_insert_ne h

/-- The database after the user of an event is created. -/
def userStored (db : Database) (new : UserPayload) : Database :=
  (UserManager.insert db new.id (userTarget db new)).setMapping .user new.dn new.id

section UserStored

variable {db : Database} {new : UserPayload}

theorem toObjects_userStored : (userStored db new).toObjects =
    (UserManager.insert db new.id (userTarget db new)).toObjects := Database.toObjects_setMapping

theorem dns_userStored :
    (userStored db new).dns .user = (db.setMapping .user new.dn new.id).dns .user := by
  simp [userStored, Database.setMapping, Database.addMapping, Database.displace]

theorem dns_userStored_ne {t : ObjectType} (h : t ≠ .user) : (userStored db new).dns t = db.dns t := by
  rw [userStored, Database.dns_setMapping_ne h, UserManager.dns_insert]

theorem groups_userStored : (userStored db new).groups = db.groups := by
  rw [toObjects_userStored]
  rfl

theorem ids_userStored : (userStored db new).ids .user = insert new.id (db.ids .user) := by
  rw [toObjects_userStored]
  exact Table.keys_insert _ _ _

/-- A new user is a member of its schools that are known. -/
theorem isMember_userStored {k s : PublicId} : (userStored db new).IsMember s k ↔
    (k = new.id ∧ s ∈ (searchSchools db new.properties.school).keys) ∨
      (k ≠ new.id ∧ db.IsMember s k) := by
  rw [toObjects_userStored]
  by_cases hk : k = new.id
  · subst hk
    simp [Objects.isMember_iff, UserManager.insert, userTarget, newUser, userMemberships,
      buildSchoolMemberships, Table.mem_keys]
  · simp [Objects.isMember_iff, UserManager.insert, Table.find?_insert_ne hk, hk]

end UserStored

@[simp] theorem schools_writeUser {db : Database} {id : PublicId} {model : UserModel}
    {target : User} : (writeUser db id model target).schools = db.schools := by
  unfold writeUser
  split <;> rfl

/-- The outcomes of a handled user create event. -/
inductive UserCreated (db : Database) (new : UserPayload) : Database → Prop where
  | dropped (hschools : (searchSchools db new.properties.school).rows = []) :
      UserCreated db new db
  | created (hschools : (searchSchools db new.properties.school).rows ≠ [])
      (habsent : db.users.find? new.id = none)
      (hc : UserManager.Creatable db new.id (userTarget db new)) :
      UserCreated db new (userStored db new)
  | stored (hschools : (searchSchools db new.properties.school).rows ≠ []) (model : UserModel)
      (hstored : db.users.find? new.id = some model)
      (hw : UserWritable db new.id model (userTarget db new)) :
      UserCreated db new (writeUser db new.id model (userTarget db new))

/-- The outcomes of a handled user modify event. -/
inductive UserModified (db : Database) (new : UserPayload) : Database → Prop where
  | absent (habsent : db.users.find? new.id = none) {db' : Database}
      (hc : UserCreated db new db') : UserModified db new db'
  | stored (model : UserModel) (hstored : db.users.find? new.id = some model)
      (hw : UserWritable (db.displace .user new.dn new.id) new.id model
        (userTarget (db.displace .user new.dn new.id) new)) :
      UserModified db new
        ((writeUser (db.displace .user new.dn new.id) new.id model
          (userTarget (db.displace .user new.dn new.id) new)).setMapping .user new.dn new.id)

/-- The patch of a stored user, if there is one, was applied. -/
theorem userWritable_of_modify {db db' : Database} {id : PublicId} {model : UserModel}
    {target : User} {patch : UserPatch} (hstored : db.users.find? id = some model)
    (hp : createUserPatch (toUser db.toObjects id model) target = some patch)
    (h : UserManager.modify db id patch = .ok db') :
    UserWritable db id model target ∧ db' = writeUser db id model target := by
  obtain ⟨hne, rfl⟩ := createUserPatch_eq_some.mp hp
  obtain ⟨model', hm, rfl⟩ := UserManager.modify_ok h
  have hmodel : model' = model := Option.some.inj (hm.stored.symm.trans hstored)
  subst hmodel
  exact ⟨fun _ => hm, by rw [writeUser, if_neg hne]⟩

theorem userWritable_of_same {db : Database} {id : PublicId} {model : UserModel} {target : User}
    (hp : createUserPatch (toUser db.toObjects id model) target = none) :
    UserWritable db id model target ∧ writeUser db id model target = db := by
  have heq := createUserPatch_eq_none.mp hp
  exact ⟨fun hne => absurd heq hne, by rw [writeUser, if_pos heq]⟩

theorem handleUserCreate_ok {db db' : Database} {new : UserPayload}
    (h : handleUserCreate db new = .ok db') : UserCreated db new db' := by
  unfold handleUserCreate at h
  dsimp only at h
  split at h
  · next hs =>
    cases h
    exact .dropped (List.isEmpty_iff.mp hs)
  · next hs =>
    rw [List.isEmpty_iff] at hs
    split at h
    · next habsent =>
      obtain ⟨db₁, hc, h⟩ := bind_eq_ok.mp h
      obtain ⟨hcreatable, rfl⟩ := UserManager.create_ok hc
      cases h
      exact .created hs habsent hcreatable
    · next model hstored =>
      split at h
      · next patch hp =>
        obtain ⟨hw, rfl⟩ := userWritable_of_modify hstored hp h
        exact .stored hs model hstored hw
      · next hp =>
        cases h
        obtain ⟨hw, heq⟩ := userWritable_of_same hp
        have hsame : writeUser db new.id model (userTarget db new) = db := heq
        have hout := UserCreated.stored hs model hstored hw
        rwa [hsame] at hout

theorem handleUserModify_ok {db db' : Database} {new : UserPayload}
    (h : handleUserModify db new = .ok db') : UserModified db new db' := by
  unfold handleUserModify at h
  dsimp only at h
  split at h
  · next habsent => exact .absent habsent (handleUserCreate_ok h)
  · next model hstored =>
    have hstored' : (db.displace .user new.dn new.id).users.find? new.id = some model := by
      rw [Database.toObjects_displace]
      exact hstored
    split at h
    · next patch hp =>
      obtain ⟨db₁, hm, h⟩ := bind_eq_ok.mp h
      obtain ⟨hw, rfl⟩ := userWritable_of_modify hstored' hp hm
      cases h
      rw [Database.addMapping_eq_setMapping dns_writeUser]
      exact .stored model hstored hw
    · next hp =>
      cases h
      obtain ⟨hw, heq⟩ := userWritable_of_same hp
      have hsame : writeUser (db.displace .user new.dn new.id) new.id model
          (userTarget (db.displace .user new.dn new.id) new) = db.displace .user new.dn new.id := heq
      have hout := UserModified.stored model hstored hw
      rw [Database.addMapping_eq_setMapping rfl]
      rwa [hsame] at hout

/-! ## Groups -/

/-- The stored group after the changes an event asks for, with its references resolved in
`db`. The school is the one the event names, if it is known. -/
def groupTarget (db : Database) (new : GroupPayload) (current : Group) (school : Option PublicId) :
    Group :=
  applyGroupChanges current new.properties school (groupRoles db new.properties)
    (fetchUsersByDns db new.properties.allowedEmailUsers)
    (fetchGroupsByDns db new.properties.allowedEmailGroups)
    (fetchMembersByDns db new.properties.users (school.getD current.school))
    (groupMemberRoles db new.properties)

/-- The new group that an event asks for. -/
def groupCreateTarget (db : Database) (new : GroupPayload) (school : PublicId) : Group :=
  newGroup new.properties school (groupRoles db new.properties)
    (fetchUsersByDns db new.properties.allowedEmailUsers)
    (fetchGroupsByDns db new.properties.allowedEmailGroups)
    (fetchMembersByDns db new.properties.users school)
    (groupMemberRoles db new.properties)

/-- The database after a stored group is brought to `target`. -/
def writeGroup (db : Database) (id : PublicId) (model : GroupModel) (current target : Group) :
    Database :=
  if current.toJson = target.toJson then db
  else GroupManager.update db id model target.toJson current

/-- What bringing a stored group to `target` has checked. -/
structure GroupWritable (db : Database) (id : PublicId) (model : GroupModel)
    (current target : Group) : Prop where
  loaded : toGroup db.toObjects id model = .ok current
  modifiable : current.toJson ≠ target.toJson →
    GroupManager.Modifiable db id model current target.toJson

@[simp] theorem dns_writeGroup {db : Database} {id : PublicId} {model : GroupModel}
    {current target : Group} {t : ObjectType} :
    (writeGroup db id model current target).dns t = db.dns t := by
  unfold writeGroup
  split <;> simp

@[simp] theorem users_writeGroup {db : Database} {id : PublicId} {model : GroupModel}
    {current target : Group} : (writeGroup db id model current target).users = db.users := by
  unfold writeGroup
  split <;> rfl

@[simp] theorem schools_writeGroup {db : Database} {id : PublicId} {model : GroupModel}
    {current target : Group} : (writeGroup db id model current target).schools = db.schools := by
  unfold writeGroup
  split <;> rfl

/-- The database after the group of an event is created. -/
def groupStored (db : Database) (new : GroupPayload) (school : PublicId) : Database :=
  (GroupManager.insert db new.id (groupCreateTarget db new school)).setMapping .group new.dn new.id

section GroupStored

variable {db : Database} {new : GroupPayload} {school : PublicId}

theorem toObjects_groupStored : (groupStored db new school).toObjects =
    (GroupManager.insert db new.id (groupCreateTarget db new school)).toObjects :=
  Database.toObjects_setMapping

theorem dns_groupStored : (groupStored db new school).dns .group =
    (db.setMapping .group new.dn new.id).dns .group := by
  simp [groupStored, Database.setMapping, Database.addMapping, Database.displace]

theorem dns_groupStored_ne {t : ObjectType} (h : t ≠ .group) :
    (groupStored db new school).dns t = db.dns t := by
  rw [groupStored, Database.dns_setMapping_ne h, GroupManager.dns_insert]

theorem ids_groupStored :
    (groupStored db new school).ids .group = insert new.id (db.ids .group) := by
  rw [toObjects_groupStored]
  exact Table.keys_insert _ _ _

theorem users_groupStored : (groupStored db new school).users = db.users := by
  rw [toObjects_groupStored]
  rfl

theorem find?_groupStored : (groupStored db new school).groups.find? new.id =
    some (GroupManager.toGroupModel (groupCreateTarget db new school)) := by
  rw [toObjects_groupStored]
  exact GroupManager.find?_insert

theorem find?_groupStored_ne {k : PublicId} (h : k ≠ new.id) :
    (groupStored db new school).groups.find? k = db.groups.find? k := by
  rw [toObjects_groupStored]
  exact Table.find?_insert_ne h

end GroupStored

/-- The outcomes of a handled group create event. -/
inductive GroupCreated (db : Database) (new : GroupPayload) : Database → Prop where
  | dropped (hschool : findSchool db (groupSchoolName new.properties) = none) :
      GroupCreated db new db
  | created (school : PublicId)
      (hschool : findSchool db (groupSchoolName new.properties) = some school)
      (habsent : db.groups.find? new.id = none)
      (hc : GroupManager.Creatable db new.id (groupCreateTarget db new school)) :
      GroupCreated db new (groupStored db new school)
  | stored (school : PublicId)
      (hschool : findSchool db (groupSchoolName new.properties) = some school)
      (model : GroupModel) (current : Group) (hstored : db.groups.find? new.id = some model)
      (hw : GroupWritable db new.id model current (groupTarget db new current (some school))) :
      GroupCreated db new
        (writeGroup db new.id model current (groupTarget db new current (some school)))

/-- The outcomes of a handled group modify event. -/
inductive GroupModified (db : Database) (new : GroupPayload) : Database → Prop where
  | absent (habsent : db.groups.find? new.id = none) {db' : Database}
      (hc : GroupCreated db new db') : GroupModified db new db'
  | stored (model : GroupModel) (current : Group) (hstored : db.groups.find? new.id = some model)
      (hw : GroupWritable (db.displace .group new.dn new.id) new.id model current
        (groupTarget (db.displace .group new.dn new.id) new current
          (findSchool db (groupSchoolName new.properties)))) :
      GroupModified db new
        ((writeGroup (db.displace .group new.dn new.id) new.id model current
          (groupTarget (db.displace .group new.dn new.id) new current
            (findSchool db (groupSchoolName new.properties)))).setMapping .group new.dn new.id)

theorem groupWritable_of_modify {db db' : Database} {id : PublicId} {model : GroupModel}
    {current target patched : Group} (hstored : db.groups.find? id = some model)
    (hcur : toGroup db.toObjects id model = .ok current)
    (hp : createPatch Group.toJson current target = some patched)
    (h : GroupManager.modify db id patched = .ok db') :
    GroupWritable db id model current target ∧ db' = writeGroup db id model current target := by
  obtain ⟨hne, rfl⟩ := createPatch_eq_some.mp hp
  obtain ⟨model', current', hm, rfl⟩ := GroupManager.modify_ok h
  have hmodel : model' = model := Option.some.inj (hm.stored.symm.trans hstored)
  subst hmodel
  have hcurrent : current' = current := Except.ok.inj (hm.loaded.symm.trans hcur)
  subst hcurrent
  exact ⟨⟨hcur, fun _ => hm⟩, by rw [writeGroup, if_neg hne]⟩

theorem groupWritable_of_same {db : Database} {id : PublicId} {model : GroupModel}
    {current target : Group} (hcur : toGroup db.toObjects id model = .ok current)
    (hp : createPatch Group.toJson current target = none) :
    GroupWritable db id model current target ∧ writeGroup db id model current target = db := by
  have heq := createPatch_eq_none.mp hp
  exact ⟨⟨hcur, fun hne => absurd heq hne⟩, by rw [writeGroup, if_pos heq]⟩

theorem handleGroupCreate_ok {db db' : Database} {new : GroupPayload}
    (h : handleGroupCreate db new = .ok db') : GroupCreated db new db' := by
  unfold handleGroupCreate at h
  dsimp only at h
  split at h
  · next hs =>
    cases h
    exact .dropped hs
  · next school hs =>
    split at h
    · next habsent =>
      obtain ⟨db₁, hc, h⟩ := bind_eq_ok.mp h
      obtain ⟨hcreatable, rfl⟩ := GroupManager.create_ok hc
      cases h
      exact .created school hs habsent hcreatable
    · next model hstored =>
      obtain ⟨current, hcur, h⟩ := bind_eq_ok.mp h
      split at h
      · next patched hp =>
        obtain ⟨hw, rfl⟩ := groupWritable_of_modify hstored hcur hp h
        exact .stored school hs model current hstored hw
      · next hp =>
        cases h
        obtain ⟨hw, heq⟩ := groupWritable_of_same hcur hp
        have hsame : writeGroup db new.id model current
            (groupTarget db new current (some school)) = db := heq
        have hout := GroupCreated.stored school hs model current hstored hw
        rwa [hsame] at hout

theorem handleGroupModify_ok {db db' : Database} {new : GroupPayload}
    (h : handleGroupModify db new = .ok db') : GroupModified db new db' := by
  unfold handleGroupModify at h
  dsimp only at h
  split at h
  · next habsent => exact .absent habsent (handleGroupCreate_ok h)
  · next model hstored =>
    obtain ⟨current, hcur, h⟩ := bind_eq_ok.mp h
    have hstored' : (db.displace .group new.dn new.id).groups.find? new.id = some model := by
      rw [Database.toObjects_displace]
      exact hstored
    have hcur' : toGroup (db.displace .group new.dn new.id).toObjects new.id model =
        .ok current := by
      rw [Database.toObjects_displace]
      exact hcur
    have hfind : findSchool (db.displace .group new.dn new.id) (groupSchoolName new.properties) =
        findSchool db (groupSchoolName new.properties) := by
      simp [findSchool, searchSchools]
    rw [hfind] at h
    split at h
    · next patched hp =>
      obtain ⟨db₁, hm, h⟩ := bind_eq_ok.mp h
      obtain ⟨hw, rfl⟩ := groupWritable_of_modify hstored' hcur' hp hm
      cases h
      rw [Database.addMapping_eq_setMapping dns_writeGroup]
      exact .stored model current hstored hw
    · next hp =>
      cases h
      obtain ⟨hw, heq⟩ := groupWritable_of_same hcur' hp
      have hsame : writeGroup (db.displace .group new.dn new.id) new.id model current
          (groupTarget (db.displace .group new.dn new.id) new current
            (findSchool db (groupSchoolName new.properties))) =
          db.displace .group new.dn new.id := heq
      have hout := GroupModified.stored model current hstored hw
      rw [Database.addMapping_eq_setMapping rfl]
      rwa [hsame] at hout

/-! ## Schools -/

/-- The database after a stored school is brought to `target`. -/
def writeSchool (db : Database) (id : PublicId) (current target : School) : Database :=
  if current.toJson = target.toJson then db
  else SchoolManager.insert db id target.toJson

@[simp] theorem dns_writeSchool {db : Database} {id : PublicId} {current target : School}
    {t : ObjectType} : (writeSchool db id current target).dns t = db.dns t := by
  unfold writeSchool
  split <;> simp

@[simp] theorem users_writeSchool {db : Database} {id : PublicId} {current target : School} :
    (writeSchool db id current target).users = db.users := by
  unfold writeSchool
  split <;> rfl

theorem find?_writeSchool_ne {db : Database} {id k : PublicId} {current target : School}
    (h : k ≠ id) : (writeSchool db id current target).schools.find? k = db.schools.find? k := by
  unfold writeSchool
  split
  · rfl
  · exact Table.find?_insert_ne h

/-- A school reads as the values that were written. -/
theorem school_written {db : Database} {id : PublicId} {current : School} (target : School)
    (hstored : db.schools.find? id = some current) :
    ∃ row : School, (writeSchool db id current target).schools.find? id = some row ∧
      row.toJson = target.toJson := by
  unfold writeSchool
  split
  · next heq => exact ⟨current, hstored, heq⟩
  · exact ⟨_, SchoolManager.find?_insert, School.toJson_toJson target⟩

/-- The two share servers of a school event as host names. -/
def ShareServers (props : SchoolProperties) (classServer homeServer : Option String) : Prop :=
  serverHostname props.ucsschoolClassShareFileServer = .ok classServer ∧
    serverHostname props.ucsschoolHomeShareFileServer = .ok homeServer

/-- The outcomes of a handled school create event. -/
inductive SchoolCreated (db : Database) (new : SchoolPayload) : Database → Prop where
  | created (classServer homeServer : Option String)
      (hservers : ShareServers new.properties classServer homeServer)
      (habsent : db.schools.find? new.id = none) :
      SchoolCreated db new
        ((SchoolManager.insert db new.id
          (newSchool new.properties classServer homeServer)).setMapping .school new.dn new.id)
  | stored (classServer homeServer : Option String)
      (hservers : ShareServers new.properties classServer homeServer) (current : School)
      (hstored : db.schools.find? new.id = some current) :
      SchoolCreated db new (writeSchool db new.id current
        (applySchoolChanges current new.properties classServer homeServer))

/-- The outcomes of a handled school modify event. -/
inductive SchoolModified (db : Database) (new : SchoolPayload) : Database → Prop where
  | absent (habsent : db.schools.find? new.id = none) {db' : Database}
      (hc : SchoolCreated db new db') : SchoolModified db new db'
  | stored (classServer homeServer : Option String)
      (hservers : ShareServers new.properties classServer homeServer) (current : School)
      (hstored : db.schools.find? new.id = some current) :
      SchoolModified db new
        ((writeSchool (db.displace .school new.dn new.id) new.id current
          (applySchoolChanges current new.properties classServer homeServer)).setMapping
            .school new.dn new.id)

theorem writeSchool_of_modify {db db' : Database} {id : PublicId} {current target patched : School}
    (hp : createPatch School.toJson current target = some patched)
    (h : SchoolManager.modify db id patched = .ok db') : db' = writeSchool db id current target := by
  obtain ⟨hne, rfl⟩ := createPatch_eq_some.mp hp
  obtain ⟨-, -, -, rfl⟩ := SchoolManager.modify_eq_ok.mp h
  rw [writeSchool, if_neg hne]

theorem writeSchool_of_same {db : Database} {id : PublicId} {current target : School}
    (hp : createPatch School.toJson current target = none) :
    writeSchool db id current target = db := by
  rw [writeSchool, if_pos (createPatch_eq_none.mp hp)]

theorem handleSchoolCreate_ok {db db' : Database} {new : SchoolPayload}
    (h : handleSchoolCreate db new = .ok db') : SchoolCreated db new db' := by
  unfold handleSchoolCreate at h
  obtain ⟨classServer, hclass, h⟩ := bind_eq_ok.mp h
  obtain ⟨homeServer, hhome, h⟩ := bind_eq_ok.mp h
  split at h
  · next habsent =>
    obtain ⟨db₁, hc, h⟩ := bind_eq_ok.mp h
    obtain ⟨-, rfl⟩ := SchoolManager.create_eq_ok.mp hc
    cases h
    exact .created classServer homeServer ⟨hclass, hhome⟩ habsent
  · next current hstored =>
    have hout := SchoolCreated.stored classServer homeServer ⟨hclass, hhome⟩ current hstored
    split at h
    · next patched hp => exact writeSchool_of_modify hp h ▸ hout
    · next hp =>
      cases h
      rwa [writeSchool_of_same hp] at hout

theorem handleSchoolModify_ok {db db' : Database} {new : SchoolPayload}
    (h : handleSchoolModify db new = .ok db') : SchoolModified db new db' := by
  unfold handleSchoolModify at h
  dsimp only at h
  split at h
  · next habsent => exact .absent habsent (handleSchoolCreate_ok h)
  · next current hstored =>
    obtain ⟨classServer, hclass, h⟩ := bind_eq_ok.mp h
    obtain ⟨homeServer, hhome, h⟩ := bind_eq_ok.mp h
    have hout := SchoolModified.stored classServer homeServer ⟨hclass, hhome⟩ current hstored
    split at h
    · next patched hp =>
      obtain ⟨db₁, hm, h⟩ := bind_eq_ok.mp h
      cases h
      rwa [writeSchool_of_modify hp hm, Database.addMapping_eq_setMapping dns_writeSchool]
    · next hp =>
      cases h
      rw [writeSchool_of_same hp] at hout
      rwa [Database.addMapping_eq_setMapping rfl]

/-- The school whose servers a host group sets. -/
def hostSchool (db : Database) (schoolName : String) : Option (PublicId × School) :=
  (db.schools.filter (fun _ s =>
    globMatches (Runtime.lower schoolName).toList (Runtime.lower s.name).toList)).rows.head?

theorem hostSchool_eq_some {db : Database} {schoolName : String} {id : PublicId} {school : School}
    (h : hostSchool db schoolName = some (id, school)) :
    db.schools.find? id = some school ∧
      globMatches (Runtime.lower schoolName).toList (Runtime.lower school.name).toList = true := by
  have hfilter := (Table.head?_eq_some.mp h).1
  rwa [Table.find?_filter, Option.filter_eq_some_iff] at hfilter

/-- The outcomes of a handled host group event. -/
inductive HostGroupSet (db : Database) (groupName : String) (hosts : Finset String) :
    Database → Prop where
  | missing (schoolName : String) (kind : HostGroupType)
      (hmatch : hostGroupMatch groupName = some (schoolName, kind))
      (hnone : hostSchool db schoolName = none) : HostGroupSet db groupName hosts db
  | stored (schoolName : String) (kind : HostGroupType)
      (hmatch : hostGroupMatch groupName = some (schoolName, kind)) (id : PublicId)
      (school : School) (hfound : hostSchool db schoolName = some (id, school)) :
      HostGroupSet db groupName hosts (writeSchool db id school (setServers school kind hosts))

theorem setSchoolServers_eq {db : Database} {groupName schoolName : String} {kind : HostGroupType}
    {hosts : Finset String} {ok : Bool} (hmatch : hostGroupMatch groupName = some (schoolName, kind)) :
    setSchoolServers db groupName hosts ok = match hostSchool db schoolName with
      | none =>
        if ok then .ok db
        else .error (.synchronizationException
          ("Unable to find school with name=" ++ schoolName ++ " in database."))
      | some (id, school) =>
        match createPatch School.toJson school (setServers school kind hosts) with
        | some patched => SchoolManager.modify db id patched
        | none => .ok db := by
  unfold setSchoolServers
  rw [hmatch]
  rfl

theorem setSchoolServers_outcome {db db' : Database} {groupName : String} {hosts : Finset String}
    {ok : Bool} (h : setSchoolServers db groupName hosts ok = .ok db') :
    HostGroupSet db groupName hosts db' := by
  cases hmatch : hostGroupMatch groupName with
  | none => simp [setSchoolServers, hmatch] at h
  | some m =>
    obtain ⟨schoolName, kind⟩ := m
    rw [setSchoolServers_eq hmatch] at h
    cases hfound : hostSchool db schoolName with
    | none =>
      rw [hfound] at h
      cases ok with
      | false => cases h
      | true =>
        cases h
        exact .missing schoolName kind hmatch hfound
    | some found =>
      obtain ⟨id, school⟩ := found
      have hout : HostGroupSet db groupName hosts _ :=
        .stored schoolName kind hmatch id school hfound
      rw [hfound] at h
      cases hp : createPatch School.toJson school (setServers school kind hosts) with
      | none =>
        simp only [hp] at h
        cases h
        rwa [writeSchool_of_same hp] at hout
      | some patched =>
        simp only [hp] at h
        exact writeSchool_of_modify hp h ▸ hout

/-- A host group event only sets servers of a stored school. -/
theorem setSchoolServers_ok {db db' : Database} {groupName : String} {hosts : Finset String}
    {ok : Bool} (h : setSchoolServers db groupName hosts ok = .ok db') :
    db' = db ∨ ∃ id school kind, db.schools.find? id = some school ∧
      db' = writeSchool db id school (setServers school kind hosts) := by
  cases setSchoolServers_outcome h with
  | missing _ _ _ _ => exact .inl rfl
  | stored _ kind _ id school hfound =>
    exact .inr ⟨id, school, kind, (hostSchool_eq_some hfound).1, rfl⟩

/-! ## Deletes -/

omit [Runtime] in
theorem ignoreNotFound_ok {db db' : Database} {result : Except Exc Database}
    (h : ignoreNotFound db result = .ok db') :
    result = .ok db' ∨ (db' = db ∧ ∃ t ids, result = .error (.notFound t ids)) := by
  unfold ignoreNotFound at h
  split at h
  · next t ids =>
    cases h
    exact .inr ⟨rfl, t, ids, rfl⟩
  · exact .inl h

end Kelvin
