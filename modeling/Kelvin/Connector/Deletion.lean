import Kelvin.Connector.Acknowledgement
import Kelvin.Connector.Relevance

/-!
# Deletes

A delete event needs the identifier of its object, but the old state passes through more than
that: a payload model that reads the user name and the name, the name pattern of the host groups,
and, for a school, the foreign key of the groups. A delete event that fails at one of them is
acknowledged in the end, and its row stays.

* `IsDelete`: the delete messages with a valid identifier.
* `Removable`: what else the code asks of the old state and the database.
* `deleted_iff`: an acknowledged delete has removed its object if and only if this holds.
-/

namespace Kelvin

open KelvinConnectorEventHandler KelvinConsumerModule

/-- The object type of the provisioning service. -/
def ObjectType.topic : ObjectType → String
  | .school => "container/ou"
  | .group => "groups/group"
  | .user => "users/user"

/-- The delete event of a type. -/
def ObjectType.delete : ObjectType → DeletePayload → Event
  | .school => .schoolDelete
  | .group => .groupDelete
  | .user => .userDelete

section Deletion

variable [Runtime]

/-! ## What a delete event does -/

/-- A delete of an object that is not stored leaves the database. -/
theorem deliver_delete_absent {db : Database} {t : ObjectType} {old : DeletePayload}
    (h : old.properties.univentionObjectIdentifier ∉ db.ids t) :
    deliver handle db (t.delete old) = db := by
  apply deliver_of_ok
  cases t with
  | school =>
    have hdelete := SchoolManager.delete_absent h
    simp only [ObjectType.delete, handle, handleSchoolDelete, hdelete, ignoreNotFound]
  | group =>
    have hdelete := GroupManager.delete_absent h
    simp only [ObjectType.delete, handle, handleGroupDelete, hdelete, ignoreNotFound]
  | user =>
    have hdelete := UserManager.delete_absent h
    simp only [ObjectType.delete, handle, handleUserDelete, hdelete, ignoreNotFound]

/-- A stored user or group is gone after its delete event. A school is, unless a group belongs
to it. -/
theorem not_mem_ids_deliver_delete {db : Database} {t : ObjectType} {old : DeletePayload}
    (h : old.properties.univentionObjectIdentifier ∈ db.ids t) :
    old.properties.univentionObjectIdentifier ∉ (deliver handle db (t.delete old)).ids t ↔
      (t = .school → ∀ g ∈ db.groups.rows,
        g.2.school ≠ old.properties.univentionObjectIdentifier) := by
  cases t with
  | school =>
    simp only [true_imp_iff]
    by_cases hgroups : ∀ g ∈ db.groups.rows,
        g.2.school ≠ old.properties.univentionObjectIdentifier
    · have hdelete := SchoolManager.delete_eq_ok.mpr ⟨h, hgroups, rfl⟩
      have hhandle : handle db (ObjectType.school.delete old) =
          .ok (SchoolManager.erase db old.properties.univentionObjectIdentifier) := by
        simp only [ObjectType.delete, handle, handleSchoolDelete, hdelete, ignoreNotFound]
      rw [deliver_of_ok hhandle]
      refine iff_of_true ?_ hgroups
      simp [Objects.ids, SchoolManager.erase]
    · have hdelete := SchoolManager.delete_refused h hgroups
      have hhandle : handle db (ObjectType.school.delete old) =
          .error (.integrityError "group") := by
        simp only [ObjectType.delete, handle, handleSchoolDelete, hdelete, ignoreNotFound]
      rw [deliver_of_error hhandle]
      exact iff_of_false (fun hnot => hnot h) hgroups
  | group =>
    have hdelete := GroupManager.delete_eq_ok.mpr ⟨h, rfl⟩
    have hhandle : handle db (ObjectType.group.delete old) =
        .ok (GroupManager.erase db old.properties.univentionObjectIdentifier) := by
      simp only [ObjectType.delete, handle, handleGroupDelete, hdelete, ignoreNotFound]
    rw [deliver_of_ok hhandle]
    refine iff_of_true ?_ (by simp)
    simp [Objects.ids, GroupManager.erase]
  | user =>
    have hdelete := UserManager.delete_eq_ok.mpr ⟨h, rfl⟩
    have hhandle : handle db (ObjectType.user.delete old) =
        .ok (UserManager.erase db old.properties.univentionObjectIdentifier) := by
      simp only [ObjectType.delete, handle, handleUserDelete, hdelete, ignoreNotFound]
    rw [deliver_of_ok hhandle]
    refine iff_of_true ?_ (by simp)
    simp [Objects.ids, UserManager.erase]

/-- The delete of a host group keeps every stored object. -/
theorem ids_deliver_hostGroupDelete {db : Database} {old : HostGroupPayload} (t : ObjectType) :
    (deliver handle db (.hostGroupDelete old)).ids t = db.ids t := by
  refine deliver_invariant (I := fun db' : Database => db'.ids t = db.ids t) rfl (fun db' h => ?_)
  rcases setSchoolServers_ok h with rfl | ⟨id, school, kind, hstored, rfl⟩
  · rfl
  · exact ids_writeSchool hstored t

variable [Library]

/-! ## Delete messages -/

/-- The message is a relevant delete event of an object: the library finds the hook for the old
state, and its properties carry a valid identifier. -/
structure IsDelete (t : ObjectType) (id : PublicId) (old props : Fields) (topic : String)
    (body : Dict) : Prop where
  relevant : isRelevant topic body = .ok true
  hook : Library.dispatch body = .ok (some (.remove (.obj old)))
  objectType : Json.field? "objectType" old = some (.str t.topic)
  properties : Json.field? "properties" old = some (.obj props)
  identifier : required uuidValue (Json.field? "univentionObjectIdentifier" props) = some id

/-- The name that decides whether a group is a host group. -/
def groupName (props : Fields) : Json := (Json.field? "name" props).getD (.str "")

omit [Library] in
/-- The event that the remove hook makes of an old state. -/
theorem hookEvent_remove {t : ObjectType} {old props : Fields}
    (htype : Json.field? "objectType" old = some (.str t.topic))
    (hprops : Json.field? "properties" old = some (.obj props)) :
    hookEvent (.remove (.obj old)) =
      if t = .group then
        match groupName props with
        | .str name =>
          if (hostGroupMatch name).isSome then
            some <$> Event.hostGroupDelete <$> HostGroupPayload.validate old
          else some <$> Event.groupDelete <$> DeletePayload.validate old
        | _ => .error (.typeError "expected string or bytes-like object")
      else some <$> t.delete <$> DeletePayload.validate old := by
  cases t with
  | group =>
    simp only [hookEvent, handleRemove, eventOf, requireGet, htype, hprops, ObjectType.topic,
      Option.getD_some, bind, Except.bind, groupName, if_true]
    rfl
  | school | user =>
    simp [hookEvent, handleRemove, eventOf, requireGet, htype, hprops, ObjectType.topic,
      bind, Except.bind, ObjectType.delete]

/-- The old state is read as a deleted object of its type. -/
structure OldReadable (t : ObjectType) (old props : Fields) : Prop where
  envelope : ∃ dn, dn ≠ "" ∧ EnvelopeReadable old dn
  username : ∃ text, withDefault "" strValue (Json.field? "username" props) = some text
  name : ∃ text, withDefault "" strValue (Json.field? "name" props) = some text
  noHostGroup : t = .group → ∃ name, groupName props = .str name ∧ hostGroupMatch name = none

/-- The delete event removes the object: its old state is read, and no group belongs to it. -/
structure Removable (db : Database) (t : ObjectType) (id : PublicId) (old props : Fields) : Prop
    extends OldReadable t old props where
  noGroups : t = .school → ∀ g ∈ db.groups.rows, g.2.school ≠ id

section OldState

variable {t : ObjectType} {id : PublicId} {old props : Fields}

omit [Library] in
theorem deletePayload_id {p : DeletePayload}
    (hprops : Json.field? "properties" old = some (.obj props))
    (hid : required uuidValue (Json.field? "univentionObjectIdentifier" props) = some id)
    (h : DeletePayload.validate old = .ok p) : p.properties.univentionObjectIdentifier = id := by
  obtain ⟨-, props', hprops', hread⟩ := Payload.validate_eq_ok.mp h
  cases hprops.symm.trans hprops'
  have hid' := (DeletedObjectProperties.validate_eq_ok.mp hread).1
  exact Option.some.inj (hid'.symm.trans hid)

omit [Library] in
theorem deletePayload_isOk_iff (hprops : Json.field? "properties" old = some (.obj props))
    (hid : required uuidValue (Json.field? "univentionObjectIdentifier" props) = some id) :
    (∃ p, DeletePayload.validate old = .ok p) ↔ (∃ dn, dn ≠ "" ∧ EnvelopeReadable old dn) ∧
      (∃ text, withDefault "" strValue (Json.field? "username" props) = some text) ∧
      ∃ text, withDefault "" strValue (Json.field? "name" props) = some text := by
  constructor
  · rintro ⟨p, h⟩
    obtain ⟨henvelope, props', hprops', hread⟩ := Payload.validate_eq_ok.mp h
    cases hprops.symm.trans hprops'
    obtain ⟨-, husername, hname⟩ := DeletedObjectProperties.validate_eq_ok.mp hread
    exact ⟨⟨p.dn, p.dn_ne, henvelope⟩, ⟨_, husername⟩, _, hname⟩
  · rintro ⟨⟨dn, hdn, henvelope⟩, ⟨username, husername⟩, name, hname⟩
    refine ⟨⟨dn, hdn, ⟨id, username, name⟩⟩, Payload.validate_eq_ok.mpr
      ⟨henvelope, props, hprops, ?_⟩⟩
    exact DeletedObjectProperties.validate_eq_ok.mpr ⟨hid, husername, hname⟩

variable {topic : String} {body : Dict}

theorem IsDelete.delivered? (hd : IsDelete t id old props topic body) (numDelivered : Nat) :
    (Message.mk topic body numDelivered).delivered? = (Hook.remove (.obj old)).event? := by
  simp only [Message.delivered?, Message.event?, hd.relevant, hd.hook]

/-- A readable old state makes the delete event of its object. -/
theorem IsDelete.delivered?_of_readable (hd : IsDelete t id old props topic body)
    (hr : OldReadable t old props) (numDelivered : Nat) : ∃ p : DeletePayload,
      p.properties.univentionObjectIdentifier = id ∧
        (Message.mk topic body numDelivered).delivered? = some (t.delete p) := by
  obtain ⟨p, hp⟩ := (deletePayload_isOk_iff hd.properties hd.identifier).mpr
    ⟨hr.envelope, hr.username, hr.name⟩
  refine ⟨p, deletePayload_id hd.properties hd.identifier hp, ?_⟩
  rw [hd.delivered?, Hook.event?, hookEvent_remove hd.objectType hd.properties, hp]
  by_cases ht : t = .group
  · obtain ⟨name, hname, hmatch⟩ := hr.noHostGroup ht
    subst ht
    simp only [if_true, hname, hmatch, Option.isSome_none, Bool.false_eq_true, if_false]
    rfl
  · rw [if_neg ht]
    rfl

/-- Another old state makes no event, or that of a host group. -/
theorem IsDelete.delivered?_of_not_readable (hd : IsDelete t id old props topic body)
    (hr : ¬ OldReadable t old props) (numDelivered : Nat) :
    (Message.mk topic body numDelivered).delivered? = none ∨ ∃ p : HostGroupPayload,
      (Message.mk topic body numDelivered).delivered? = some (.hostGroupDelete p) := by
  rw [hd.delivered?, Hook.event?, hookEvent_remove hd.objectType hd.properties]
  have hinvalid : (t = .group → ∃ name, groupName props = .str name ∧ hostGroupMatch name = none) →
      ∃ e, DeletePayload.validate old = .error e := by
    intro hgroup
    cases h : DeletePayload.validate old with
    | error e => exact ⟨e, rfl⟩
    | ok p =>
      obtain ⟨henvelope, husername, hname⟩ :=
        (deletePayload_isOk_iff hd.properties hd.identifier).mp ⟨p, h⟩
      exact absurd ⟨henvelope, husername, hname, hgroup⟩ hr
  by_cases ht : t = .group
  · subst ht
    rw [if_pos rfl]
    cases hname : groupName props with
    | str name =>
      cases hmatch : hostGroupMatch name with
      | none =>
        obtain ⟨e, he⟩ := hinvalid (fun _ => ⟨name, hname, hmatch⟩)
        have hno : ¬ (hostGroupMatch name).isSome = true := by simp [hmatch]
        dsimp only
        rw [if_neg hno, he]
        exact .inl rfl
      | some host =>
        have hyes : (hostGroupMatch name).isSome = true := by simp [hmatch]
        dsimp only
        rw [if_pos hyes]
        cases HostGroupPayload.validate old with
        | error e => exact .inl rfl
        | ok p => exact .inr ⟨p, rfl⟩
    | null | bool _ | int _ | float _ | arr _ | obj _ => exact .inl rfl
  · obtain ⟨e, he⟩ := hinvalid (fun h => absurd h ht)
    rw [if_neg ht, he]
    exact .inl rfl

/-- A delete event that is acknowledged at any of its deliveries has removed its object if and only
if the object was not stored, or its old state is read and no group belongs to it. -/
theorem deleted_iff (maxDeliveries : Nat) (db : Database) (t : ObjectType) (id : PublicId)
    (old props : Fields) (topic : String) (body : Dict) (hd : IsDelete t id old props topic body) :
    (∀ numDelivered,
      (processOneEvent maxDeliveries db ⟨topic, body, numDelivered⟩).acknowledged = true →
        id ∉ (processOneEvent maxDeliveries db ⟨topic, body, numDelivered⟩).db.ids t) ↔
      (id ∈ db.ids t → Removable db t id old props) := by
  have hack : (processOneEvent maxDeliveries db ⟨topic, body, maxDeliveries⟩).acknowledged = true :=
    acknowledged_of_exhausted (isRelevant_isOk_iff.mp ⟨true, hd.relevant⟩)
      (fun _ => by simp [hd.hook]) le_rfl
  by_cases hr : OldReadable t old props
  · -- the delete event is delivered
    have hdb : ∀ numDelivered, ∃ p : DeletePayload, p.properties.univentionObjectIdentifier = id ∧
        (processOneEvent maxDeliveries db ⟨topic, body, numDelivered⟩).db =
          deliver handle db (t.delete p) := by
      intro numDelivered
      obtain ⟨p, hid, hp⟩ := hd.delivered?_of_readable hr numDelivered
      exact ⟨p, hid, by rw [db_processOneEvent, hp]; rfl⟩
    constructor
    · intro h hstored
      obtain ⟨p, rfl, hp⟩ := hdb maxDeliveries
      have hgone := h maxDeliveries hack
      rw [hp] at hgone
      exact ⟨hr, (not_mem_ids_deliver_delete hstored).mp hgone⟩
    · intro h numDelivered _
      obtain ⟨p, rfl, hp⟩ := hdb numDelivered
      rw [hp]
      by_cases hstored : p.properties.univentionObjectIdentifier ∈ db.ids t
      · exact (not_mem_ids_deliver_delete hstored).mpr (h hstored).noGroups
      · rwa [deliver_delete_absent hstored]
  · -- no stored object changes
    have hids : ∀ numDelivered,
        (processOneEvent maxDeliveries db ⟨topic, body, numDelivered⟩).db.ids t = db.ids t := by
      intro numDelivered
      rw [db_processOneEvent]
      rcases hd.delivered?_of_not_readable hr numDelivered with hp | ⟨p, hp⟩
      · rw [hp]
        rfl
      · rw [hp]
        exact ids_deliver_hostGroupDelete t
    simp only [hids]
    constructor
    · exact fun h hstored => absurd hstored (h maxDeliveries hack)
    · exact fun h _ _ hstored => hr (h hstored).toOldReadable

end OldState

end Deletion

/-! ## Concrete deletes -/

section

attribute [local instance] asciiRuntime sidesLibrary

/-- The old state of a student. -/
def oldStudent (username : Json) : Fields :=
  [("dn", .str "uid=u,ou=A"), ("id", .str "u"), ("objectType", .str "users/user"),
    ("position", .str "ou=A"), ("properties", .obj [("ucsschoolRole", .strs ["student:school:A"]),
      ("univentionObjectIdentifier", .str "11"), ("username", username)])]

/-- A student is removed. -/
theorem deleted_iff_student :
    (processOneEvent defaultMaxDeliveries
        (processAll defaultMaxDeliveries (Database.initial someRoles) studentMessages)
        (deleteMessage "users/user" (.obj (oldStudent (.str "u"))) 1)).acknowledged = true ∧
      2 ∉ (processOneEvent defaultMaxDeliveries
        (processAll defaultMaxDeliveries (Database.initial someRoles) studentMessages)
        (deleteMessage "users/user" (.obj (oldStudent (.str "u"))) 1)).db.ids .user := by
  have hack : (processOneEvent defaultMaxDeliveries
      (processAll defaultMaxDeliveries (Database.initial someRoles) studentMessages)
      (deleteMessage "users/user" (.obj (oldStudent (.str "u"))) 1)).acknowledged = true := by
    decide
  have hdelete : IsDelete .user 2 (oldStudent (.str "u"))
      [("ucsschoolRole", .strs ["student:school:A"]), ("univentionObjectIdentifier", .str "11"),
        ("username", .str "u")] "users/user"
      (Table.empty.insert "old" (.obj (oldStudent (.str "u")))) :=
    ⟨by decide, rfl, rfl, rfl, by decide⟩
  refine ⟨hack, ?_⟩
  refine (deleted_iff defaultMaxDeliveries _ _ _ _ _ _ _ hdelete).mpr (fun _ => ?_) 1 hack
  exact ⟨⟨⟨"uid=u,ou=A", by decide, rfl, ⟨_, rfl⟩, ⟨_, rfl⟩, ⟨_, rfl⟩⟩, ⟨"u", rfl⟩, ⟨"", rfl⟩,
    by simp⟩, by simp⟩

/-- The school and a class of it. -/
def classMessages : List Message :=
  [createMessage "container/ou" (payloadOf "container/ou" "ou=A" (schoolFields "1" "A")),
    createMessage "groups/group" (payloadOf "groups/group" "cn=A-1a,ou=A"
      (groupFields "11" "A-1a" "school_class:school:A"))]

/-- A student whose old user name is null stays, and so does a school with a class after the last
delivery of its delete event. -/
theorem deleted_objects_stay :
    ((processOneEvent defaultMaxDeliveries
        (processAll defaultMaxDeliveries (Database.initial someRoles) studentMessages)
        (deleteMessage "users/user" (.obj (oldStudent .null)) 1)).acknowledged = true ∧
      2 ∈ (processOneEvent defaultMaxDeliveries
        (processAll defaultMaxDeliveries (Database.initial someRoles) studentMessages)
        (deleteMessage "users/user" (.obj (oldStudent .null)) 1)).db.ids .user) ∧
    (processOneEvent defaultMaxDeliveries
        (processAll defaultMaxDeliveries (Database.initial someRoles) classMessages)
        (deleteMessage "container/ou" (payloadOf "container/ou" "ou=A" (schoolFields "1" "A"))
          3)).acknowledged = true ∧
      1 ∈ (processOneEvent defaultMaxDeliveries
        (processAll defaultMaxDeliveries (Database.initial someRoles) classMessages)
        (deleteMessage "container/ou" (payloadOf "container/ou" "ou=A" (schoolFields "1" "A"))
          3)).db.ids .school := by
  refine ⟨⟨?_, ?_⟩, ?_, ?_⟩ <;> decide

end

end Kelvin
