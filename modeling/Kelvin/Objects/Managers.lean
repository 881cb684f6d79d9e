import Kelvin.Objects.Domain

/-!
# The managers

Create, modify and delete of users, groups and schools
(`adapters/sqlalchemy/managers`). Each operation is a list of checks (bulk fetches, the
validator, the constraints of the flush) followed by a pure write of the tables; the writes
are definitions of their own, and `create_eq_ok`, `modify_ok` and `delete_eq_ok` say what
a successful operation has checked and written. Nothing later unfolds an operation.

All writes of one operation are flushed together, so the unique constraints are checked
on the written row.
-/

namespace Kelvin

/-! ## Unique constraints -/

/-- The unique columns of a row next to its public id. A null email is never equal. -/
structure UniqueKey where
  name : String
  email : Option String
  recordUid : String
  sourceUid : String

def UniqueKey.Clash (a b : UniqueKey) : Prop :=
  a.name = b.name ∨ (a.email ≠ none ∧ a.email = b.email) ∨
    (a.recordUid = b.recordUid ∧ a.sourceUid = b.sourceUid)

instance (a b : UniqueKey) : Decidable (a.Clash b) :=
  inferInstanceAs (Decidable (_ ∨ _ ∨ _))

/-- A row with this unique key can stand under `id`. -/
def Unique {ρ : Type} (key : ρ → UniqueKey) (t : Table PublicId ρ) (id : PublicId)
    (k : UniqueKey) : Prop :=
  ∀ r ∈ t.rows, r.1 ≠ id → ¬ k.Clash (key r.2)

instance {ρ : Type} (key : ρ → UniqueKey) (t : Table PublicId ρ) (id : PublicId)
    (k : UniqueKey) : Decidable (Unique key t id k) :=
  inferInstanceAs (Decidable (∀ r ∈ t.rows, r.1 ≠ id → ¬ k.Clash (key r.2)))

def UserColumns.uniqueKey (c : UserColumns) : UniqueKey := ⟨c.name, c.email, c.recordUid, c.sourceUid⟩

def GroupColumns.uniqueKey (c : GroupColumns) : UniqueKey :=
  ⟨c.name, c.email, c.recordUid, c.sourceUid⟩

def SchoolModel.uniqueKey (c : SchoolModel) : UniqueKey := ⟨c.name, none, c.recordUid, c.sourceUid⟩

/-- The unique `primary_user_constraint`. -/
def AtMostOnePrimary (memberships : Table PublicId SchoolMembershipModel) : Prop :=
  ∀ a ∈ memberships.rows, ∀ b ∈ memberships.rows,
    a.2.isPrimary = true → b.2.isPrimary = true → a.1 = b.1

instance (memberships : Table PublicId SchoolMembershipModel) :
    Decidable (AtMostOnePrimary memberships) :=
  inferInstanceAs (Decidable (∀ a ∈ memberships.rows, ∀ b ∈ memberships.rows,
    a.2.isPrimary = true → b.2.isPrimary = true → a.1 = b.1))

/-! ## Shared helpers (`managers/_shared.py`) -/

/-- `bulk_fetch_by_public_id`: every wanted id has a row. -/
def bulkFetch (objectType : String) (stored wanted : Finset PublicId) : Except Exc Unit :=
  require (wanted ⊆ stored) (.notFound objectType (wanted \ stored))

/-- `sync_collection`: nothing is fetched when the collection stays the same. -/
def syncCollection (objectType : String) (stored patched current : Finset PublicId) :
    Except Exc Unit :=
  if current = patched then pure () else bulkFetch objectType stored patched

theorem bulkFetch_eq_ok {objectType : String} {stored wanted : Finset PublicId} {u : Unit} :
    bulkFetch objectType stored wanted = .ok u ↔ wanted ⊆ stored := require_eq_ok

theorem syncCollection_eq_ok {objectType : String} {stored patched current : Finset PublicId}
    {u : Unit} : syncCollection objectType stored patched current = .ok u ↔
      current = patched ∨ patched ⊆ stored := by
  unfold syncCollection
  split
  · next h => simp [h, pure_eq_ok]
  · next h => simp [h, bulkFetch_eq_ok]

/-! ## Schools -/

namespace SchoolManager

/-- The tables after a school row is written. -/
def insert (db : Database) (id : PublicId) (data : School) : Database :=
  { db with schools := db.schools.insert id data }

def create (db : Database) (id : PublicId) (data : School) : Except Exc Database := do
  require (id ∉ db.schools.keys) (.integrityError "school")
  require (Unique SchoolModel.uniqueKey db.schools id data.uniqueKey) (.integrityError "school")
  pure (insert db id data)

/-- The patch carries every field of the row. -/
def modify [Runtime] (db : Database) (id : PublicId) (patched : School) : Except Exc Database :=
  match db.schools.find? id with
  | none => .error (.notFound "School" {id})
  | some _ => do
    SchoolValidator.validate patched
    require (Unique SchoolModel.uniqueKey db.schools id patched.uniqueKey)
      (.integrityError "school")
    pure (insert db id patched)

/-- What the cascades leave of a database when a school row is deleted. -/
def erase (db : Database) (id : PublicId) : Database :=
  { db with
    schools := db.schools.erase id
    users := db.users.mapVals (fun _ u =>
      { u with schoolMemberships := u.schoolMemberships.erase id })
    groupMembers := db.groupMembers.filter (fun l => l.2.school ≠ id)
    schoolDns := db.schoolDns.erase id }

/-- A school that a group belongs to cannot be deleted (`ondelete="NO ACTION"`). -/
def delete (db : Database) (id : PublicId) : Except Exc Database := do
  require (id ∈ db.schools.keys) (.notFound "School" {id})
  require (∀ g ∈ db.groups.rows, g.2.school ≠ id) (.integrityError "group")
  pure (erase db id)

@[simp] theorem dns_insert {db : Database} {id : PublicId} {data : School} {t : ObjectType} :
    (insert db id data).dns t = db.dns t := by cases t <;> rfl

theorem find?_insert {db : Database} {id : PublicId} {data : School} :
    (insert db id data).schools.find? id = some data := Table.find?_insert_self _ _ _

theorem create_eq_ok {db db' : Database} {id : PublicId} {data : School} :
    create db id data = .ok db' ↔
      (id ∉ db.schools.keys ∧ Unique SchoolModel.uniqueKey db.schools id data.uniqueKey) ∧
        insert db id data = db' := by
  simp only [create, require_bind_eq_ok, pure_eq_ok, and_assoc]

theorem modify_eq_ok [Runtime] {db db' : Database} {id : PublicId} {patched : School} :
    modify db id patched = .ok db' ↔
      id ∈ db.schools.keys ∧ SchoolValidator.validate patched = .ok () ∧
        Unique SchoolModel.uniqueKey db.schools id patched.uniqueKey ∧
          insert db id patched = db' := by
  unfold modify
  cases h : db.schools.find? id with
  | none => simp [Table.not_mem_keys.mpr h]
  | some model =>
    simp only [Table.mem_keys_of_find? h, bind_eq_ok, require_eq_ok, pure_eq_ok, true_and]
    constructor
    · rintro ⟨_, hvalid, _, hunique, hdb⟩
      exact ⟨hvalid, hunique, hdb⟩
    · rintro ⟨hvalid, hunique, hdb⟩
      exact ⟨(), hvalid, (), hunique, hdb⟩

theorem delete_eq_ok {db db' : Database} {id : PublicId} :
    delete db id = .ok db' ↔
      id ∈ db.schools.keys ∧ (∀ g ∈ db.groups.rows, g.2.school ≠ id) ∧ erase db id = db' := by
  simp only [delete, require_bind_eq_ok, pure_eq_ok]

theorem delete_notFound {db : Database} {id : PublicId} {t : String} {ids : Finset PublicId}
    (h : delete db id = .error (.notFound t ids)) : id ∉ db.schools.keys := by
  intro hid
  by_cases hg : ∀ g ∈ db.groups.rows, g.2.school ≠ id
  · exact absurd (delete_eq_ok.mpr ⟨hid, hg, rfl⟩) (by simp [h])
  · simp only [delete, require, hid, hg, if_true, if_false] at h
    cases h

theorem delete_absent {db : Database} {id : PublicId} (h : id ∉ db.schools.keys) :
    delete db id = .error (.notFound "School" {id}) := by
  simp [delete, require, h]
  rfl

theorem delete_refused {db : Database} {id : PublicId} (h : id ∈ db.schools.keys)
    (hgroups : ¬ ∀ g ∈ db.groups.rows, g.2.school ≠ id) :
    delete db id = .error (.integrityError "group") := by
  simp only [delete, require, h, hgroups, if_true, if_false]
  rfl

end SchoolManager

/-! ## Groups -/

namespace GroupManager

def toGroupModel (data : Group) : GroupModel where
  toGroupColumns := data.toGroupColumns
  school := data.school
  roles := data.roles
  memberRoles := data.memberRoles

/-- The tables after the new group row and its links are written. -/
def insert (db : Database) (id : PublicId) (data : Group) : Database :=
  { db with
    groups := db.groups.insert id (toGroupModel data)
    groupMembers := db.groupMembers.assign id (data.members.image (⟨·, data.school⟩))
    emailSenderUsers := db.emailSenderUsers.assign id data.allowedEmailSendersUsers
    emailSenderGroups := db.emailSenderGroups.assign id data.allowedEmailSendersGroups }

def create (db : Database) (id : PublicId) (data : Group) : Except Exc Database := do
  bulkFetch "Role" db.roles.keys data.roles
  bulkFetch "School" db.schools.keys {data.school}
  bulkFetch "User" db.users.keys data.members
  require (∀ u ∈ data.members, db.IsMember data.school u)
    (.notFound "SchoolMembership" (data.members.filter (fun u => ¬ db.IsMember data.school u)))
  bulkFetch "Role" db.roles.keys data.memberRoles
  bulkFetch "User" db.users.keys data.allowedEmailSendersUsers
  bulkFetch "Group" db.groups.keys data.allowedEmailSendersGroups
  require (id ∉ db.groups.keys) (.integrityError "group")
  require (Unique (·.uniqueKey) db.groups id data.uniqueKey) (.integrityError "group")
  pure (insert db id data)

/-- `_sync_group_members`: the memberships are looked up in the school that the row still
has, since the school relation is written last. -/
def syncGroupMembers (db : Database) (id : PublicId) (model : GroupModel)
    (patched current : Finset PublicId) : Links PublicId MembershipKey :=
  if current = patched then db.groupMembers
  else db.groupMembers.assign id
    ((patched.filter (db.IsMember model.school)).image (⟨·, model.school⟩))

/-- The tables after `_apply_group_patch`. -/
def update (db : Database) (id : PublicId) (model : GroupModel) (patched current : Group) :
    Database :=
  { db with
    groups := db.groups.insert id (toGroupModel patched)
    groupMembers := syncGroupMembers db id model patched.members current.members
    emailSenderUsers := db.emailSenderUsers.assign id patched.allowedEmailSendersUsers
    emailSenderGroups := db.emailSenderGroups.assign id patched.allowedEmailSendersGroups }

/-- `_apply_group_patch` and the flush after it. -/
def applyGroupPatch (db : Database) (id : PublicId) (model : GroupModel)
    (patched current : Group) : Except Exc Database := do
  syncCollection "Role" db.roles.keys patched.memberRoles current.memberRoles
  syncCollection "User" db.users.keys patched.allowedEmailSendersUsers
    current.allowedEmailSendersUsers
  syncCollection "Group" db.groups.keys patched.allowedEmailSendersGroups
    current.allowedEmailSendersGroups
  syncCollection "Role" db.roles.keys patched.roles current.roles
  -- `sync_scalar_relation`
  require (patched.school = current.school ∨ patched.school ∈ db.schools.keys) .noResultFound
  require (Unique (·.uniqueKey) db.groups id patched.uniqueKey) (.integrityError "group")
  pure (update db id model patched current)

def modify [Runtime] (db : Database) (id : PublicId) (patched : Group) : Except Exc Database :=
  match db.groups.find? id with
  | none => .error (.notFound "Group" {id})
  | some model => do
    let current ← toGroup db.toObjects id model
    GroupValidator.validate patched
    applyGroupPatch db id model patched current

/-- What the cascades leave of a database when a group row is deleted. -/
def erase (db : Database) (id : PublicId) : Database :=
  { db with
    groups := db.groups.erase id
    groupMembers := db.groupMembers.dropLeft id
    emailSenderUsers := db.emailSenderUsers.dropLeft id
    emailSenderGroups := (db.emailSenderGroups.dropLeft id).dropRight id
    groupDns := db.groupDns.erase id }

def delete (db : Database) (id : PublicId) : Except Exc Database := do
  require (id ∈ db.groups.keys) (.notFound "Group" {id})
  pure (erase db id)

@[simp] theorem dns_insert {db : Database} {id : PublicId} {data : Group} {t : ObjectType} :
    (insert db id data).dns t = db.dns t := by cases t <;> rfl

@[simp] theorem dns_update {db : Database} {id : PublicId} {model : GroupModel}
    {patched current : Group} {t : ObjectType} :
    (update db id model patched current).dns t = db.dns t := by cases t <;> rfl

theorem find?_insert {db : Database} {id : PublicId} {data : Group} :
    (insert db id data).groups.find? id = some (toGroupModel data) := Table.find?_insert_self _ _ _

theorem find?_update {db : Database} {id : PublicId} {model : GroupModel}
    {patched current : Group} : (update db id model patched current).groups.find? id =
      some (toGroupModel patched) := Table.find?_insert_self _ _ _

/-- What the checks of `create` establish. -/
structure Creatable (db : Database) (id : PublicId) (data : Group) : Prop where
  roles : data.roles ⊆ db.roles.keys
  school : data.school ∈ db.schools.keys
  members : ∀ u ∈ data.members, db.IsMember data.school u
  memberRoles : data.memberRoles ⊆ db.roles.keys
  senderUsers : data.allowedEmailSendersUsers ⊆ db.users.keys
  senderGroups : data.allowedEmailSendersGroups ⊆ db.groups.keys
  fresh : id ∉ db.groups.keys
  unique : Unique (·.uniqueKey) db.groups id data.uniqueKey

theorem create_ok {db db' : Database} {id : PublicId} {data : Group}
    (h : create db id data = .ok db') : Creatable db id data ∧ db' = insert db id data := by
  simp only [create, bind_eq_ok, bulkFetch_eq_ok, require_eq_ok, pure_eq_ok,
    Finset.singleton_subset_iff] at h
  obtain ⟨_, hroles, _, hschool, _, -, _, hmembers, _, hmr, _, hsu, _, hsg, _, hfresh, _,
    hunique, rfl⟩ := h
  exact ⟨⟨hroles, hschool, hmembers, hmr, hsu, hsg, hfresh, hunique⟩, rfl⟩

theorem toGroup_eq_ok {db : Objects} {id : PublicId} {model : GroupModel} {g : Group} :
    toGroup db id model = .ok g ↔
      (id, id) ∉ db.emailSenderGroups ∧ g =
        { toGroupColumns := model.toGroupColumns
          school := model.school
          roles := model.roles
          memberRoles := model.memberRoles
          members := (db.groupMembers.rightOf id).image MembershipKey.user
          allowedEmailSendersUsers := db.emailSenderUsers.rightOf id
          allowedEmailSendersGroups := db.emailSenderGroups.rightOf id } := by
  unfold toGroup
  split
  · next h => simp_all
  · next h =>
    rw [Links.mem_rightOf] at h
    simp [h, eq_comm]

/-- What the checks of `modify` establish, for the stored row and its domain group. -/
structure Modifiable [Runtime] (db : Database) (id : PublicId) (model : GroupModel)
    (current patched : Group) : Prop where
  stored : db.groups.find? id = some model
  loaded : toGroup db.toObjects id model = .ok current
  valid : GroupValidator.validate patched = .ok ()
  senderUsers : current.allowedEmailSendersUsers = patched.allowedEmailSendersUsers ∨
    patched.allowedEmailSendersUsers ⊆ db.users.keys
  senderGroups : current.allowedEmailSendersGroups = patched.allowedEmailSendersGroups ∨
    patched.allowedEmailSendersGroups ⊆ db.groups.keys
  school : patched.school = current.school ∨ patched.school ∈ db.schools.keys

theorem modify_ok [Runtime] {db db' : Database} {id : PublicId} {patched : Group}
    (h : modify db id patched = .ok db') :
    ∃ model current, Modifiable db id model current patched ∧
      db' = update db id model patched current := by
  unfold modify at h
  cases hm : db.groups.find? id with
  | none => simp [hm] at h
  | some model =>
    simp only [hm, bind_eq_ok, applyGroupPatch, syncCollection_eq_ok, require_eq_ok,
      pure_eq_ok] at h
    obtain ⟨current, hcur, _, hvalid, _, -, _, hsu, _, hsg, _, -, _, hschool, _, -, rfl⟩ := h
    exact ⟨model, current, ⟨hm, hcur, hvalid, hsu, hsg, hschool⟩, rfl⟩

theorem delete_eq_ok {db db' : Database} {id : PublicId} :
    delete db id = .ok db' ↔ id ∈ db.groups.keys ∧ erase db id = db' := by
  simp only [delete, require_bind_eq_ok, pure_eq_ok]

theorem delete_notFound {db : Database} {id : PublicId} {t : String} {ids : Finset PublicId}
    (h : delete db id = .error (.notFound t ids)) : id ∉ db.groups.keys := by
  intro hid
  exact absurd (delete_eq_ok.mpr ⟨hid, rfl⟩) (by simp [h])

theorem delete_absent {db : Database} {id : PublicId} (h : id ∉ db.groups.keys) :
    delete db id = .error (.notFound "Group" {id}) := by
  simp [delete, require, h]

end GroupManager

/-! ## Users -/

namespace UserManager

/-- The membership rows of a domain user. -/
def toMembershipModels (memberships : Table PublicId SchoolMembership) :
    Table PublicId SchoolMembershipModel :=
  memberships.mapVals (fun _ m => { isPrimary := m.isPrimary, roles := m.roles })

/-- The member links with those of the user's memberships replaced by the given ones. -/
def relink (links : Links PublicId MembershipKey) (id : PublicId)
    (memberships : Table PublicId SchoolMembership) : Links PublicId MembershipKey :=
  links.filter (fun l => l.2.user ≠ id) ∪
    memberships.collect (fun school m => m.groups.image (fun g => (g, ⟨id, school⟩)))

/-- The tables after the new user row, its memberships and its links are written. -/
def insert (db : Database) (id : PublicId) (data : User) : Database :=
  { db with
    users := db.users.insert id
      { toUserColumns := data.toUserColumns
        schoolMemberships := toMembershipModels data.schoolMemberships }
    groupMembers := relink db.groupMembers id data.schoolMemberships
    legalGuardians := (db.legalGuardians.coassign id data.legalGuardians).assign id data.legalWards }

def create (db : Database) (id : PublicId) (data : User) : Except Exc Database := do
  bulkFetch "School" db.schools.keys data.schoolMemberships.keys
  bulkFetch "Role" db.roles.keys (data.schoolMemberships.collect (fun _ m => m.roles))
  bulkFetch "Group" db.groups.keys (data.schoolMemberships.collect (fun _ m => m.groups))
  bulkFetch "User" db.users.keys data.legalWards
  bulkFetch "User" db.users.keys data.legalGuardians
  require (id ∉ db.users.keys) (.integrityError "user")
  require (Unique (·.uniqueKey) db.users id data.uniqueKey) (.integrityError "user")
  require (AtMostOnePrimary (toMembershipModels data.schoolMemberships))
    (.integrityError "school_membership")
  pure (insert db id data)

/-- One membership of `_apply_membership_relation_changes`: a new one fetches its school,
and its group and role links are synchronised. -/
def syncMembership (db : Database) (current : Table PublicId SchoolMembership)
    (patched : PublicId × SchoolMembership) : Except Exc Unit := do
  match current.find? patched.1 with
  | none =>
    bulkFetch "School" db.schools.keys {patched.1}
    syncCollection "Group" db.groups.keys patched.2.groups ∅
    syncCollection "Role" db.roles.keys patched.2.roles ∅
  | some m => do
    syncCollection "Group" db.groups.keys patched.2.groups m.groups
    syncCollection "Role" db.roles.keys patched.2.roles m.roles

/-- The guardians of a user are set where the patch changes them. -/
def setLegalGuardians (links : Links PublicId PublicId) (id : PublicId) (patch : UserPatch)
    (current : User) : Links PublicId PublicId :=
  if patch.legalGuardians ∧ current.legalGuardians ≠ patch.patched.legalGuardians
    then links.coassign id patch.patched.legalGuardians else links

/-- The wards of a user are set where the patch changes them. -/
def setLegalWards (links : Links PublicId PublicId) (id : PublicId) (patch : UserPatch)
    (current : User) : Links PublicId PublicId :=
  if patch.legalWards ∧ current.legalWards ≠ patch.patched.legalWards
    then links.assign id patch.patched.legalWards else links

/-- The guardians and then the wards. Both are views of one association table. -/
def syncGuardians (links : Links PublicId PublicId) (id : PublicId) (patch : UserPatch)
    (current : User) : Links PublicId PublicId :=
  setLegalWards (setLegalGuardians links id patch current) id patch current

/-- The tables after `_apply_user_patch`. -/
def update (db : Database) (id : PublicId) (model : UserModel) (patch : UserPatch) : Database :=
  { db with
    users := db.users.insert id
      { toUserColumns := patch.patched.toUserColumns
        schoolMemberships :=
          if patch.schoolMemberships then toMembershipModels patch.patched.schoolMemberships
          else model.schoolMemberships }
    groupMembers :=
      if patch.schoolMemberships then relink db.groupMembers id patch.patched.schoolMemberships
      else db.groupMembers
    legalGuardians := syncGuardians db.legalGuardians id patch (toUser db.toObjects id model) }

/-- `_apply_user_patch` and the flush after it. -/
def applyUserPatch (db : Database) (id : PublicId) (model : UserModel) (patch : UserPatch) :
    Except Exc Database := do
  let current := toUser db.toObjects id model
  onlyIf patch.schoolMemberships
    (forM patch.patched.schoolMemberships.rows (syncMembership db current.schoolMemberships))
  onlyIf patch.legalGuardians
    (syncCollection "User" db.users.keys patch.patched.legalGuardians current.legalGuardians)
  onlyIf patch.legalWards
    (syncCollection "User" db.users.keys patch.patched.legalWards current.legalWards)
  require (Unique (·.uniqueKey) db.users id patch.patched.uniqueKey) (.integrityError "user")
  require (patch.schoolMemberships →
      AtMostOnePrimary (toMembershipModels patch.patched.schoolMemberships))
    (.integrityError "school_membership")
  pure (update db id model patch)

def modify [Runtime] (db : Database) (id : PublicId) (patch : UserPatch) : Except Exc Database :=
  match db.users.find? id with
  | none => .error (.notFound "User" {id})
  | some model => do
    UserValidator.validate patch.patched
    applyUserPatch db id model patch

/-- What the cascades leave of a database when a user row is deleted. -/
def erase (db : Database) (id : PublicId) : Database :=
  { db with
    users := db.users.erase id
    groupMembers := db.groupMembers.filter (fun l => l.2.user ≠ id)
    emailSenderUsers := db.emailSenderUsers.dropRight id
    legalGuardians := (db.legalGuardians.dropLeft id).dropRight id
    userDns := db.userDns.erase id }

def delete (db : Database) (id : PublicId) : Except Exc Database := do
  require (id ∈ db.users.keys) (.notFound "User" {id})
  pure (erase db id)

theorem mem_relink {links : Links PublicId MembershipKey} {id : PublicId}
    {memberships : Table PublicId SchoolMembership} {g : PublicId} {k : MembershipKey} :
    (g, k) ∈ relink links id memberships ↔
      (k.user ≠ id ∧ (g, k) ∈ links) ∨
        (k.user = id ∧ ∃ m, memberships.find? k.school = some m ∧ g ∈ m.groups) := by
  obtain ⟨user, school⟩ := k
  simp only [relink, Finset.mem_union, Finset.mem_filter, Table.mem_collect, Finset.mem_image,
    Prod.mk.injEq, MembershipKey.mk.injEq]
  constructor
  · rintro (⟨h, hu⟩ | ⟨s, m, hm, g', hg, rfl, rfl, rfl⟩)
    · exact .inl ⟨hu, h⟩
    · exact .inr ⟨rfl, m, hm, hg⟩
  · rintro (⟨hu, h⟩ | ⟨rfl, m, hm, hg⟩)
    · exact .inl ⟨h, hu⟩
    · exact .inr ⟨school, m, hm, g, hg, rfl, rfl, rfl⟩

@[simp] theorem find?_toMembershipModels {memberships : Table PublicId SchoolMembership}
    {s : PublicId} : (toMembershipModels memberships).find? s =
      (memberships.find? s).map (fun m => { isPrimary := m.isPrimary, roles := m.roles }) := by
  simp [toMembershipModels]

/-- The membership rows of a domain user that was read from its row. -/
theorem toMembershipModels_toUser (db : Objects) (id : PublicId) (model : UserModel) :
    toMembershipModels (toUser db id model).schoolMemberships =
      model.schoolMemberships := by
  ext1 s
  simp only [find?_toMembershipModels, toUser, Table.find?_mapVals, Option.map_map]
  exact Option.map_id'

@[simp] theorem dns_insert {db : Database} {id : PublicId} {data : User} {t : ObjectType} :
    (insert db id data).dns t = db.dns t := by cases t <;> rfl

@[simp] theorem dns_update {db : Database} {id : PublicId} {model : UserModel}
    {patch : UserPatch} {t : ObjectType} :
    (update db id model patch).dns t = db.dns t := by cases t <;> rfl

/-- What the checks of `create` establish. -/
structure Creatable (db : Database) (id : PublicId) (data : User) : Prop where
  schools : data.schoolMemberships.keys ⊆ db.schools.keys
  groups : ∀ s m, data.schoolMemberships.find? s = some m → m.groups ⊆ db.groups.keys
  wards : data.legalWards ⊆ db.users.keys
  guardians : data.legalGuardians ⊆ db.users.keys
  fresh : id ∉ db.users.keys
  unique : Unique (·.uniqueKey) db.users id data.uniqueKey
  primary : AtMostOnePrimary (toMembershipModels data.schoolMemberships)

theorem create_ok {db db' : Database} {id : PublicId} {data : User}
    (h : create db id data = .ok db') : Creatable db id data ∧ db' = insert db id data := by
  simp only [create, bind_eq_ok, bulkFetch_eq_ok, require_eq_ok, pure_eq_ok] at h
  obtain ⟨_, hschools, _, -, _, hgroups, _, hwards, _, hguardians, _, hfresh, _, hunique, _,
    hprimary, rfl⟩ := h
  refine ⟨⟨hschools, ?_, hwards, hguardians, hfresh, hunique, hprimary⟩, rfl⟩
  intro s m hm g hg
  exact hgroups (Table.mem_collect.mpr ⟨s, m, hm, hg⟩)

theorem syncMembership_ok {db : Database} {current : Table PublicId SchoolMembership}
    {s : PublicId} {m : SchoolMembership} (h : syncMembership db current (s, m) = .ok ()) :
    (s ∈ db.schools.keys ∨ s ∈ current.keys) ∧
      (m.groups ⊆ db.groups.keys ∨ ∃ m', current.find? s = some m' ∧ m'.groups = m.groups) := by
  unfold syncMembership at h
  cases hc : current.find? s with
  | none =>
    simp only [hc, bind_eq_ok, bulkFetch_eq_ok, syncCollection_eq_ok,
      Finset.singleton_subset_iff] at h
    obtain ⟨_, hs, _, hg, _⟩ := h
    refine ⟨.inl hs, .inl ?_⟩
    rcases hg with hg | hg
    · rw [← hg]
      exact Finset.empty_subset _
    · exact hg
  | some m' =>
    simp only [hc, bind_eq_ok, syncCollection_eq_ok] at h
    obtain ⟨_, hg, _⟩ := h
    refine ⟨.inr (Table.mem_keys_of_find? hc), ?_⟩
    rcases hg with hg | hg
    · exact .inr ⟨m', rfl, hg⟩
    · exact .inl hg

/-- What the checks of `modify` establish, for the stored row. -/
structure Modifiable [Runtime] (db : Database) (id : PublicId) (model : UserModel)
    (patch : UserPatch) : Prop where
  stored : db.users.find? id = some model
  valid : UserValidator.validate patch.patched = .ok ()
  memberships : patch.schoolMemberships = true → ∀ s m,
    patch.patched.schoolMemberships.find? s = some m →
      syncMembership db (toUser db.toObjects id model).schoolMemberships (s, m) = .ok ()
  guardians : patch.legalGuardians = true →
    (toUser db.toObjects id model).legalGuardians = patch.patched.legalGuardians ∨
      patch.patched.legalGuardians ⊆ db.users.keys
  wards : patch.legalWards = true →
    (toUser db.toObjects id model).legalWards = patch.patched.legalWards ∨
      patch.patched.legalWards ⊆ db.users.keys
  primary : patch.schoolMemberships = true →
    AtMostOnePrimary (toMembershipModels patch.patched.schoolMemberships)

theorem modify_ok [Runtime] {db db' : Database} {id : PublicId} {patch : UserPatch}
    (h : modify db id patch = .ok db') :
    ∃ model, Modifiable db id model patch ∧ db' = update db id model patch := by
  unfold modify at h
  cases hm : db.users.find? id with
  | none => simp [hm] at h
  | some model =>
    simp only [hm, bind_eq_ok, applyUserPatch, onlyIf_eq_ok, forM_eq_ok, syncCollection_eq_ok,
      require_eq_ok, pure_eq_ok] at h
    obtain ⟨_, hvalid, _, hmember, _, hguardians, _, hwards, _, -, _, hprimary, rfl⟩ := h
    refine ⟨model, ⟨hm, hvalid, ?_, hguardians, hwards, hprimary⟩, rfl⟩
    intro hp s m hsm
    exact hmember hp (s, m) (Table.mem_rows.mpr hsm)

theorem delete_eq_ok {db db' : Database} {id : PublicId} :
    delete db id = .ok db' ↔ id ∈ db.users.keys ∧ erase db id = db' := by
  simp only [delete, require_bind_eq_ok, pure_eq_ok]

theorem delete_notFound {db : Database} {id : PublicId} {t : String} {ids : Finset PublicId}
    (h : delete db id = .error (.notFound t ids)) : id ∉ db.users.keys := by
  intro hid
  exact absurd (delete_eq_ok.mpr ⟨hid, rfl⟩) (by simp [h])

theorem delete_absent {db : Database} {id : PublicId} (h : id ∉ db.users.keys) :
    delete db id = .error (.notFound "User" {id}) := by
  simp [delete, require, h]

end UserManager

end Kelvin
