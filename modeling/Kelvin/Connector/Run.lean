import Kelvin.Connector.Handlers

/-!
# Runs of the connector

The validated events, the step of the connector on them, and the databases it can reach.
Every event is handled in a transaction of its own, so a run is the `replay` of its events.

* `handle`: the handler of an event.
* `Reachable`: the databases that a run reaches from one without objects.
* `handle_integrity`, `Reachable.integrity`: every reachable database is intact.
-/

namespace Kelvin

/-- The events of `models.py`. -/
inductive Event where
  | userCreate (new : UserPayload)
  | userModify (new : UserPayload)
  | userDelete (old : DeletePayload)
  | groupCreate (new : GroupPayload)
  | groupModify (new : GroupPayload)
  | groupDelete (old : DeletePayload)
  | schoolCreate (new : SchoolPayload)
  | schoolModify (new : SchoolPayload)
  | schoolDelete (old : DeletePayload)
  | hostGroupCreate (new : HostGroupPayload)
  | hostGroupModify (new : HostGroupPayload)
  | hostGroupDelete (old : HostGroupPayload)

section Run

variable [Runtime]

/-- The handler that the synchronization manager runs for an event. -/
def handle (db : Database) : Event → Except Exc Database
  | .userCreate new => handleUserCreate db new
  | .userModify new => handleUserModify db new
  | .userDelete old => handleUserDelete db old
  | .groupCreate new => handleGroupCreate db new
  | .groupModify new => handleGroupModify db new
  | .groupDelete old => handleGroupDelete db old
  | .schoolCreate new => handleSchoolCreate db new
  | .schoolModify new => handleSchoolModify db new
  | .schoolDelete old => handleSchoolDelete db old
  | .hostGroupCreate new => handleHostGroupChange db new
  | .hostGroupModify new => handleHostGroupChange db new
  | .hostGroupDelete old => handleHostGroupDelete db old

/-- The databases that runs reach from a database without objects. -/
def Reachable (db : Database) : Prop :=
  ∃ roles es, db = replay handle (Database.initial roles) es

/-- What holds without objects and is kept by every handled event holds when reachable. -/
theorem Reachable.invariant {I : Database → Prop} (h0 : ∀ roles, I (Database.initial roles))
    (step : ∀ db e db', I db → handle db e = .ok db' → I db') {db : Database}
    (h : Reachable db) : I db := by
  obtain ⟨roles, es, rfl⟩ := h
  exact replay_invariant_all step (h0 roles)

/-! ## Integrity -/

omit [Runtime] in
theorem Integrity.displace {db : Database} {t : ObjectType} {dn : String} {id : PublicId}
    (hi : Integrity db) : Integrity (db.displace t dn id) := by
  refine hi.of_dns ?_ (fun t' k d h => ?_)
  · rw [Database.toObjects_displace]
    exact hi.toConsistent
  · rw [Database.toObjects_displace]
    by_cases ht : t' = t
    · subst ht
      have hd := (Database.find?_displace.mp h).1
      exact ⟨hd, hi.dnStored hd⟩
    · rw [Database.dns_displace_ne ht] at h
      exact ⟨h, hi.dnStored h⟩

theorem Integrity.writeUser {db : Database} {id : PublicId} {model : UserModel} {target : User}
    (hi : Integrity db) (hw : UserWritable db id model target) :
    Integrity (writeUser db id model target) := by
  unfold Kelvin.writeUser
  split
  · exact hi
  · next hne => exact hi.user_update (hw hne)

theorem Integrity.writeGroup {db : Database} {id : PublicId} {model : GroupModel}
    {current target : Group} (hi : Integrity db) (hw : GroupWritable db id model current target) :
    Integrity (writeGroup db id model current target) := by
  unfold Kelvin.writeGroup
  split
  · exact hi
  · next hne => exact hi.group_update (hw.modifiable hne)

theorem Integrity.writeSchool {db : Database} {id : PublicId} {current target : School}
    (hi : Integrity db) : Integrity (writeSchool db id current target) := by
  unfold Kelvin.writeSchool
  split
  · exact hi
  · exact hi.school_insert

/-- The writes keep the stored ids. -/
theorem ids_writeUser {db : Database} {id : PublicId} {model : UserModel} {target : User}
    (hstored : db.users.find? id = some model) (t : ObjectType) :
    (writeUser db id model target).ids t = db.ids t := by
  unfold Kelvin.writeUser
  split
  · rfl
  · cases t with
    | user =>
      simp only [Objects.ids, UserManager.update, Table.keys_insert]
      exact Finset.insert_eq_of_mem (Table.mem_keys_of_find? hstored)
    | school => rfl
    | group => rfl

theorem ids_writeGroup {db : Database} {id : PublicId} {model : GroupModel}
    {current target : Group} (hstored : db.groups.find? id = some model) (t : ObjectType) :
    (writeGroup db id model current target).ids t = db.ids t := by
  unfold Kelvin.writeGroup
  split
  · rfl
  · cases t with
    | group =>
      simp only [Objects.ids, GroupManager.update, Table.keys_insert]
      exact Finset.insert_eq_of_mem (Table.mem_keys_of_find? hstored)
    | school => rfl
    | user => rfl

theorem ids_writeSchool {db : Database} {id : PublicId} {current target : School}
    (hstored : db.schools.find? id = some current) (t : ObjectType) :
    (writeSchool db id current target).ids t = db.ids t := by
  unfold Kelvin.writeSchool
  split
  · rfl
  · cases t with
    | school =>
      simp only [Objects.ids, SchoolManager.insert, Table.keys_insert]
      exact Finset.insert_eq_of_mem (Table.mem_keys_of_find? hstored)
    | group => rfl
    | user => rfl

theorem Integrity.setSchoolServers {db db' : Database} {groupName : String}
    {hosts : Finset String} {ok : Bool} (hi : Integrity db)
    (h : setSchoolServers db groupName hosts ok = .ok db') : Integrity db' := by
  rcases setSchoolServers_ok h with rfl | ⟨id, school, kind, -, rfl⟩
  · exact hi
  · exact hi.writeSchool

theorem Integrity.hostGroupChange {db db' : Database} {new : HostGroupPayload} (hi : Integrity db)
    (h : handleHostGroupChange db new = .ok db') : Integrity db' := by
  obtain ⟨_, -, h⟩ := bind_eq_ok.mp h
  exact hi.setSchoolServers h

theorem UserCreated.integrity {db db' : Database} {new : UserPayload} (hi : Integrity db)
    (h : UserCreated db new db') : Integrity db' := by
  cases h with
  | dropped => exact hi
  | created _ _ hc =>
    refine (hi.user_insert hc).setMapping ?_
    simp [Objects.ids, UserManager.insert]
  | stored _ model _ hw => exact hi.writeUser hw

theorem UserModified.integrity {db db' : Database} {new : UserPayload} (hi : Integrity db)
    (h : UserModified db new db') : Integrity db' := by
  cases h with
  | absent _ hc => exact hc.integrity hi
  | stored model hstored hw =>
    refine (hi.displace.writeUser hw).setMapping ?_
    rw [ids_writeUser (by simpa using hstored)]
    rw [Database.toObjects_displace]
    exact Table.mem_keys_of_find? hstored

theorem GroupCreated.integrity {db db' : Database} {new : GroupPayload} (hi : Integrity db)
    (h : GroupCreated db new db') : Integrity db' := by
  cases h with
  | dropped => exact hi
  | created _ _ _ hc =>
    refine (hi.group_insert hc).setMapping ?_
    simp [Objects.ids, GroupManager.insert]
  | stored _ _ model current _ hw => exact hi.writeGroup hw

theorem GroupModified.integrity {db db' : Database} {new : GroupPayload} (hi : Integrity db)
    (h : GroupModified db new db') : Integrity db' := by
  cases h with
  | absent _ hc => exact hc.integrity hi
  | stored model current hstored hw =>
    refine (hi.displace.writeGroup hw).setMapping ?_
    rw [ids_writeGroup (by simpa using hstored)]
    rw [Database.toObjects_displace]
    exact Table.mem_keys_of_find? hstored

theorem SchoolCreated.integrity {db db' : Database} {new : SchoolPayload} (hi : Integrity db)
    (h : SchoolCreated db new db') : Integrity db' := by
  cases h with
  | created _ _ _ _ =>
    refine hi.school_insert.setMapping ?_
    simp [Objects.ids, SchoolManager.insert]
  | stored _ _ _ current _ => exact hi.writeSchool

theorem SchoolModified.integrity {db db' : Database} {new : SchoolPayload} (hi : Integrity db)
    (h : SchoolModified db new db') : Integrity db' := by
  cases h with
  | absent _ hc => exact hc.integrity hi
  | stored _ _ _ current hstored =>
    refine hi.displace.writeSchool.setMapping ?_
    rw [ids_writeSchool (by simpa using hstored)]
    rw [Database.toObjects_displace]
    exact Table.mem_keys_of_find? hstored

/-- Every handled event keeps the database intact. -/
theorem handle_integrity {db db' : Database} {e : Event} (hi : Integrity db)
    (h : handle db e = .ok db') : Integrity db' := by
  cases e with
  | userCreate new => exact (handleUserCreate_ok h).integrity hi
  | userModify new => exact (handleUserModify_ok h).integrity hi
  | userDelete old =>
    rcases ignoreNotFound_ok h with hd | ⟨rfl, -⟩
    · obtain ⟨-, rfl⟩ := UserManager.delete_eq_ok.mp hd
      exact hi.user_erase
    · exact hi
  | groupCreate new => exact (handleGroupCreate_ok h).integrity hi
  | groupModify new => exact (handleGroupModify_ok h).integrity hi
  | groupDelete old =>
    rcases ignoreNotFound_ok h with hd | ⟨rfl, -⟩
    · obtain ⟨-, rfl⟩ := GroupManager.delete_eq_ok.mp hd
      exact hi.group_erase
    · exact hi
  | schoolCreate new => exact (handleSchoolCreate_ok h).integrity hi
  | schoolModify new => exact (handleSchoolModify_ok h).integrity hi
  | schoolDelete old =>
    rcases ignoreNotFound_ok h with hd | ⟨rfl, -⟩
    · obtain ⟨-, hgroups, rfl⟩ := SchoolManager.delete_eq_ok.mp hd
      exact hi.school_erase hgroups
    · exact hi
  | hostGroupCreate new => exact hi.hostGroupChange h
  | hostGroupModify new => exact hi.hostGroupChange h
  | hostGroupDelete old => exact hi.setSchoolServers h

theorem Reachable.integrity {db : Database} (h : Reachable db) : Integrity db :=
  h.invariant integrity_initial (fun _ _ _ hi hh => handle_integrity hi hh)

end Run

/-! ## Concrete events -/

/-- A school event without share servers. -/
def schoolEvent (id : PublicId) (dn name : String) (hdn : dn ≠ "") :
    SchoolPayload where
  dn := dn
  dn_ne := hdn
  properties :=
    { univentionObjectIdentifier := id
      name := name
      displayName := name
      ucsschoolClassShareFileServer := none
      ucsschoolHomeShareFileServer := none
      extra := .empty }

/-- The event of a student, with the given schools, groups and relatives. -/
def studentEvent (id : PublicId) (dn username : String) (schools groups wards guardians : List String)
    (hdn : dn ≠ "") : UserPayload where
  dn := dn
  dn_ne := hdn
  properties :=
    { univentionObjectIdentifier := id
      ucsschoolRole := [⟨"student", "school", "A"⟩]
      ucsschoolRole_ne := by decide
      username := username
      school := schools
      groups := groups
      ucsschoolLegalWard := wards
      ucsschoolLegalGuardian := guardians
      disabled := false
      firstname := username
      lastname := username
      ucsschoolRecordUID := none
      ucsschoolSourceUID := none
      mailPrimaryAddress := none
      birthday := none
      userexpiry := none
      extra := .empty }

/-- The event of a school class, with the given members and senders. -/
def classEvent (id : PublicId) (dn name school : String)
    (users senderUsers senderGroups : List String) (mailAddress : Option String)
    (hdn : dn ≠ "") : GroupPayload where
  dn := dn
  dn_ne := hdn
  properties :=
    { univentionObjectIdentifier := id
      ucsschoolRole := [⟨"school_class", "school", school⟩]
      ucsschoolRole_ne := by simp
      name := name
      allowedEmailUsers := senderUsers
      allowedEmailGroups := senderGroups
      users := users
      mailAddress := mailAddress
      description := none
      guardianMemberRoles := []
      extra := .empty }

def deleteEvent (id : PublicId) (dn : String) (hdn : dn ≠ "") : DeletePayload where
  dn := dn
  dn_ne := hdn
  properties := { univentionObjectIdentifier := id, username := "", name := "" }

theorem ouA_ne : "ou=A" ≠ "" := by decide

theorem ouB_ne : "ou=B" ≠ "" := by decide

theorem uidA_ne : "uid=u,ou=A" ≠ "" := by decide

theorem uidB_ne : "uid=u,ou=B" ≠ "" := by decide

theorem uidG_ne : "uid=g" ≠ "" := by decide

theorem cnA_ne : "cn=c,ou=A" ≠ "" := by decide

/-- The roles of the concrete events. -/
def someRoles : Table PublicId RoleModel :=
  (Table.empty.insert 1 ⟨"student"⟩).insert 2 ⟨"school_class"⟩

/-- A cache with one school. -/
def oneSchool [Runtime] : Database :=
  replay handle (Database.initial someRoles) [.schoolCreate (schoolEvent 1 "ou=A" "A" ouA_ne)]

end Kelvin
