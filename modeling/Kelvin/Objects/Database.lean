import Kelvin.Objects.Runtime
import Kelvin.Data.Links

/-!
# The database of the object cache

The tables of `database_models.py`. Objects are referred to by their public ids; a
membership, which has no public id, is the row of its user under its school, and
`MembershipKey` names it. The association tables are sets of pairs, and each of the three
DN mappings is a table from public ids to DNs.

Inside its columns a user or group row keeps only what is its own. A relation that two
objects share (group members, email senders, guardians) stands once, in its association
table, and both ends read it from there.
-/

namespace Kelvin

/-! ## Rows -/

structure RoleModel where
  name : String
deriving DecidableEq

structure SchoolModel where
  recordUid : String
  sourceUid : String
  name : String
  displayName : String
  educationalServers : Finset String
  administrativeServers : Finset String
  classShareFileServer : Option String
  homeShareFileServer : Option String
  udmProperties : Dict
deriving DecidableEq

/-- The columns a `Group` and its row have in common. -/
structure GroupColumns where
  recordUid : String
  sourceUid : String
  name : String
  displayName : String
  createShare : Bool
  email : Option String
  description : Option String
  udmProperties : Dict
deriving DecidableEq

structure GroupModel extends GroupColumns where
  school : PublicId
  roles : Finset PublicId
  memberRoles : Finset PublicId
deriving DecidableEq

structure SchoolMembershipModel where
  isPrimary : Bool
  roles : Finset PublicId
deriving DecidableEq

/-- The columns a `User` and its row have in common. -/
structure UserColumns where
  recordUid : String
  sourceUid : String
  name : String
  firstname : String
  lastname : String
  active : Bool
  email : Option String
  birthday : Option Date
  expirationDate : Option Date
  udmProperties : Dict
deriving DecidableEq

/-- A user row with its membership rows, which lie under the ids of their schools. -/
structure UserModel extends UserColumns where
  schoolMemberships : Table PublicId SchoolMembershipModel
deriving DecidableEq

structure MembershipKey where
  user : PublicId
  school : PublicId
deriving DecidableEq

/-! ## The database -/

inductive ObjectType where
  | school
  | group
  | user
deriving DecidableEq

/-- The object and association tables. -/
structure Objects where
  roles : Table PublicId RoleModel
  schools : Table PublicId SchoolModel
  groups : Table PublicId GroupModel
  users : Table PublicId UserModel
  /-- `group_member_association`. -/
  groupMembers : Links PublicId MembershipKey
  /-- `group_user_email_senders_association`. -/
  emailSenderUsers : Links PublicId PublicId
  /-- `group_group_email_senders_association`: parent and child. -/
  emailSenderGroups : Links PublicId PublicId
  /-- `legal_guardian_association`: guardian and ward. -/
  legalGuardians : Links PublicId PublicId
deriving DecidableEq

/-- The object tables and the three DN mappings. -/
structure Database extends Objects where
  schoolDns : Table PublicId String
  groupDns : Table PublicId String
  userDns : Table PublicId String
deriving DecidableEq

namespace Objects

/-- The public ids of the stored objects of a type. -/
def ids (db : Objects) : ObjectType → Finset PublicId
  | .school => db.schools.keys
  | .group => db.groups.keys
  | .user => db.users.keys

/-- The membership row of a user in a school. -/
def membership? (db : Objects) (k : MembershipKey) : Option SchoolMembershipModel :=
  (db.users.find? k.user).bind (fun u => u.schoolMemberships.find? k.school)

/-- The user is a member of the school. -/
def IsMember (db : Objects) (school user : PublicId) : Prop :=
  (db.membership? ⟨user, school⟩).isSome

instance (db : Objects) (school user : PublicId) : Decidable (db.IsMember school user) :=
  inferInstanceAs (Decidable (_ = true))

theorem isMember_iff {db : Objects} {school user : PublicId} :
    db.IsMember school user ↔
      ∃ u m, db.users.find? user = some u ∧ u.schoolMemberships.find? school = some m := by
  simp only [IsMember, membership?, Option.isSome_iff_exists, Option.bind_eq_some_iff]
  exact ⟨fun ⟨m, u, hu, hm⟩ => ⟨u, m, hu, hm⟩, fun ⟨u, m, hu, hm⟩ => ⟨m, u, hu, hm⟩⟩

end Objects

namespace Database

/-- A database without objects, in which the given roles are known. -/
def initial (roles : Table PublicId RoleModel) : Database where
  roles := roles
  schools := .empty
  groups := .empty
  users := .empty
  groupMembers := ∅
  emailSenderUsers := ∅
  emailSenderGroups := ∅
  legalGuardians := ∅
  schoolDns := .empty
  groupDns := .empty
  userDns := .empty

/-- The DN mapping of a type. -/
def dns (db : Database) : ObjectType → Table PublicId String
  | .school => db.schoolDns
  | .group => db.groupDns
  | .user => db.userDns

def withDns (db : Database) (t : ObjectType) (m : Table PublicId String) : Database :=
  match t with
  | .school => { db with schoolDns := m }
  | .group => { db with groupDns := m }
  | .user => { db with userDns := m }

section WithDns

variable (db : Database) (t : ObjectType) (m : Table PublicId String)

@[simp] theorem dns_withDns_self : (db.withDns t m).dns t = m := by cases t <;> rfl

theorem dns_withDns_ne {t' : ObjectType} (h : t' ≠ t) : (db.withDns t m).dns t' = db.dns t' := by
  cases t <;> cases t' <;> first | rfl | exact absurd rfl h

@[simp] theorem toObjects_withDns : (db.withDns t m).toObjects = db.toObjects := by
  cases t <;> rfl

end WithDns

/-- Databases with the same objects and the same DN mappings are equal. -/
theorem ext_dns {db db' : Database} (hobjects : db.toObjects = db'.toObjects)
    (hdns : ∀ t, db.dns t = db'.dns t) : db = db' := by
  have hs := hdns .school
  have hg := hdns .group
  have hu := hdns .user
  simp only [dns] at hs hg hu
  cases db
  cases db'
  simp_all

end Database

end Kelvin
