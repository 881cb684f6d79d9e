import Kelvin.Connector.Run

/-!
# The DN mapping over runs

Each handled event writes the mapping row of its object, erases the row of a deleted object,
or leaves the mappings alone (`MappingStep`). Writing a row displaces the row of another
object with the same DN, so a stored object can lose its entry; apart from that, the entry is
the one that the object's last event has written.

* `Mapped`: the events that write the row of their object.
* `handle_mapping`: what a handled event does to the mappings and to the stored ids.
* `mapping_run`: what holds of the mappings after every run.
-/

namespace Kelvin

section Mapping

/-- The object that a create or modify event is about, with the DN that the event carries. -/
def Event.object : Event → Option (ObjectType × PublicId × String)
  | .userCreate new | .userModify new => some (.user, new.id, new.dn)
  | .groupCreate new | .groupModify new => some (.group, new.id, new.dn)
  | .schoolCreate new | .schoolModify new => some (.school, new.id, new.dn)
  | _ => none

/-- Handling the event writes the mapping row of its object. -/
def Mapped (db : Database) : Event → Prop
  | .userCreate new =>
    new.id ∉ db.users.keys ∧ (searchSchools db new.properties.school).rows ≠ []
  | .userModify new =>
    new.id ∈ db.users.keys ∨ (searchSchools db new.properties.school).rows ≠ []
  | .groupCreate new =>
    new.id ∉ db.groups.keys ∧ findSchool db (groupSchoolName new.properties) ≠ none
  | .groupModify new =>
    new.id ∈ db.groups.keys ∨ findSchool db (groupSchoolName new.properties) ≠ none
  | .schoolCreate new => new.id ∉ db.schools.keys
  | .schoolModify _ => True
  | _ => False

/-- The event creates an object that is stored already. -/
def CreatesStored (db : Database) : Event → Prop
  | .userCreate new => new.id ∈ db.users.keys
  | .groupCreate new => new.id ∈ db.groups.keys
  | .schoolCreate new => new.id ∈ db.schools.keys
  | _ => False

/-- What an event does to the mappings and to the stored ids. -/
inductive MappingStep (db : Database) (e : Event) (db' : Database) : Prop where
  | written (t : ObjectType) (id : PublicId) (dn : String) (hobject : e.object = some (t, id, dn))
      (hm : Mapped db e) (hdns : ∀ t', db'.dns t' = (db.setMapping t dn id).dns t')
      (hids : ∀ t' k, k ∈ db'.ids t' ↔ k ∈ db.ids t' ∨ (t' = t ∧ k = id))
  | kept (hm : ¬ Mapped db e) (hdns : ∀ t, db'.dns t = db.dns t) (hids : ∀ t, db'.ids t = db.ids t)
  | erased (t : ObjectType) (id : PublicId) (hobject : e.object = none)
      (hdns : ∀ t' k d, (db'.dns t').find? k = some d ↔
        (db.dns t').find? k = some d ∧ ¬ (t' = t ∧ k = id))
      (hids : ∀ t' k, k ∈ db'.ids t' ↔ k ∈ db.ids t' ∧ ¬ (t' = t ∧ k = id))

variable {db db' : Database} {e : Event}

theorem Database.dns_setMapping_congr {t : ObjectType} {dn : String} {id : PublicId}
    (h : ∀ t', db'.dns t' = db.dns t') (t' : ObjectType) :
    (db'.setMapping t dn id).dns t' = (db.setMapping t dn id).dns t' := by
  by_cases ht : t' = t
  · subst ht
    simp [Database.setMapping, Database.addMapping, Database.displace, h]
  · rw [Database.dns_setMapping_ne ht, Database.dns_setMapping_ne ht, h]

/-- A mapping set where its rows have been displaced. -/
theorem Database.setMapping_displace {t : ObjectType} {dn : String} {id : PublicId} :
    (db.displace t dn id).setMapping t dn id = db.setMapping t dn id := by
  rw [Database.setMapping, Database.displace_eq_self, Database.setMapping]
  exact fun k d hd => (Database.find?_displace.mp hd).2

/-- A new row of one type, with its mapping. -/
theorem MappingStep.of_insert {t : ObjectType} {id : PublicId} {dn : String} {db₁ : Database}
    (hobject : e.object = some (t, id, dn)) (hm : Mapped db e) (hdns : ∀ t', db₁.dns t' = db.dns t')
    (hids : db₁.ids t = insert id (db.ids t)) (hother : ∀ t', t' ≠ t → db₁.ids t' = db.ids t') :
    MappingStep db e (db₁.setMapping t dn id) := by
  refine .written t id dn hobject hm (Database.dns_setMapping_congr hdns) (fun t' k => ?_)
  rw [Database.toObjects_setMapping]
  by_cases ht : t' = t
  · subst ht
    simp [hids, or_comm]
  · simp [hother t' ht, ht]

/-- A write to a stored row after its mapping was displaced, and the mapping. -/
theorem MappingStep.of_update {t : ObjectType} {id : PublicId} {dn : String} {db₁ : Database}
    (hobject : e.object = some (t, id, dn)) (hm : Mapped db e) (hstored : id ∈ db.ids t)
    (hdns : ∀ t', db₁.dns t' = (db.displace t dn id).dns t')
    (hids : ∀ t', db₁.ids t' = db.ids t') :
    MappingStep db e (db₁.setMapping t dn id) := by
  refine .written t id dn hobject hm (fun t' => ?_) (fun t' k => ?_)
  · rw [Database.dns_setMapping_congr hdns, Database.setMapping_displace]
  · rw [Database.toObjects_setMapping, hids]
    constructor
    · exact .inl
    · rintro (h | ⟨rfl, rfl⟩)
      · exact h
      · exact hstored

variable [Runtime]

theorem UserCreated.mapping {new : UserPayload} (hobject : e.object = some (.user, new.id, new.dn))
    (hm : Mapped db e ↔ Mapped db (.userCreate new)) (hc : UserCreated db new db') :
    MappingStep db e db' := by
  cases hc with
  | dropped hs =>
    refine .kept (fun h => ?_) (fun _ => rfl) (fun _ => rfl)
    exact (hm.mp h).2 hs
  | created hs _ hc =>
    refine .of_insert hobject (hm.mpr ⟨hc.fresh, hs⟩) (fun _ => UserManager.dns_insert)
      (Table.keys_insert _ _ _) (fun t' ht => ?_)
    cases t' <;> first | rfl | exact absurd rfl ht
  | stored hs model hstored _ =>
    refine .kept (fun h => ?_) (fun _ => dns_writeUser) (ids_writeUser hstored)
    exact (hm.mp h).1 (Table.mem_keys_of_find? hstored)

theorem GroupCreated.mapping {new : GroupPayload}
    (hobject : e.object = some (.group, new.id, new.dn))
    (hm : Mapped db e ↔ Mapped db (.groupCreate new)) (hc : GroupCreated db new db') :
    MappingStep db e db' := by
  cases hc with
  | dropped hs =>
    refine .kept (fun h => ?_) (fun _ => rfl) (fun _ => rfl)
    exact (hm.mp h).2 hs
  | created school hs _ hc =>
    refine .of_insert hobject (hm.mpr ⟨hc.fresh, by simp [hs]⟩) (fun _ => GroupManager.dns_insert)
      (Table.keys_insert _ _ _) (fun t' ht => ?_)
    cases t' <;> first | rfl | exact absurd rfl ht
  | stored school hs model current hstored _ =>
    refine .kept (fun h => ?_) (fun _ => dns_writeGroup) (ids_writeGroup hstored)
    exact (hm.mp h).1 (Table.mem_keys_of_find? hstored)

theorem SchoolCreated.mapping {new : SchoolPayload}
    (hobject : e.object = some (.school, new.id, new.dn))
    (hm : Mapped db e ↔ Mapped db (.schoolCreate new)) (hc : SchoolCreated db new db') :
    MappingStep db e db' := by
  cases hc with
  | created _ _ _ habsent =>
    refine .of_insert hobject (hm.mpr (Table.not_mem_keys.mpr habsent))
      (fun _ => SchoolManager.dns_insert) (Table.keys_insert _ _ _) (fun t' ht => ?_)
    cases t' <;> first | rfl | exact absurd rfl ht
  | stored _ _ _ current hstored =>
    refine .kept (fun h => ?_) (fun _ => dns_writeSchool) (ids_writeSchool hstored)
    exact (hm.mp h) (Table.mem_keys_of_find? hstored)

omit [Runtime] in
/-- A deleted row and its mapping row. -/
theorem MappingStep.of_erase (t : ObjectType) (id : PublicId) (hobject : e.object = none)
    (hdns : db'.dns t = (db.dns t).erase id) (hids : db'.ids t = (db.ids t).erase id)
    (hother : ∀ t', t' ≠ t → db'.dns t' = db.dns t' ∧ db'.ids t' = db.ids t') :
    MappingStep db e db' := by
  refine .erased t id hobject (fun t' k d => ?_) (fun t' k => ?_)
  · by_cases ht : t' = t
    · subst ht
      rw [hdns, Table.find?_erase]
      by_cases hk : k = id <;> simp [hk]
    · simp [(hother t' ht).1, ht]
  · by_cases ht : t' = t
    · subst ht
      simp [hids, and_comm]
    · simp [(hother t' ht).2, ht]

theorem setSchoolServers_mapping {groupName : String} {hosts : Finset String} {ok : Bool}
    (hm : ¬ Mapped db e) (h : setSchoolServers db groupName hosts ok = .ok db') :
    MappingStep db e db' := by
  rcases setSchoolServers_ok h with rfl | ⟨id, school, kind, hstored, rfl⟩
  · exact .kept hm (fun _ => rfl) (fun _ => rfl)
  · exact .kept hm (fun _ => dns_writeSchool) (ids_writeSchool hstored)

/-- Every handled event makes one of the steps. -/
theorem handle_mapping (hh : handle db e = .ok db') : MappingStep db e db' := by
  cases e with
  | userCreate new => exact (handleUserCreate_ok hh).mapping rfl Iff.rfl
  | userModify new =>
    cases handleUserModify_ok hh with
    | absent habsent hc =>
      have hid : new.id ∉ db.users.keys := Table.not_mem_keys.mpr habsent
      exact hc.mapping rfl (by simp [Mapped, hid])
    | stored model hstored _ =>
      have hid := Table.mem_keys_of_find? hstored
      refine .of_update rfl (.inl hid) hid (fun _ => dns_writeUser) (fun t' => ?_)
      rw [ids_writeUser (by simpa using hstored), Database.toObjects_displace]
  | userDelete old =>
    rcases ignoreNotFound_ok hh with hd | ⟨rfl, -⟩
    · obtain ⟨-, rfl⟩ := UserManager.delete_eq_ok.mp hd
      refine .of_erase .user old.properties.univentionObjectIdentifier rfl rfl
        (Table.keys_erase _ _) (fun t' ht => ?_)
      cases t' <;> first | exact ⟨rfl, rfl⟩ | exact absurd rfl ht
    · exact .kept (fun h => h) (fun _ => rfl) (fun _ => rfl)
  | groupCreate new => exact (handleGroupCreate_ok hh).mapping rfl Iff.rfl
  | groupModify new =>
    cases handleGroupModify_ok hh with
    | absent habsent hc =>
      have hid : new.id ∉ db.groups.keys := Table.not_mem_keys.mpr habsent
      exact hc.mapping rfl (by simp [Mapped, hid])
    | stored model current hstored _ =>
      have hid := Table.mem_keys_of_find? hstored
      refine .of_update rfl (.inl hid) hid (fun _ => dns_writeGroup) (fun t' => ?_)
      rw [ids_writeGroup (by simpa using hstored), Database.toObjects_displace]
  | groupDelete old =>
    rcases ignoreNotFound_ok hh with hd | ⟨rfl, -⟩
    · obtain ⟨-, rfl⟩ := GroupManager.delete_eq_ok.mp hd
      refine .of_erase .group old.properties.univentionObjectIdentifier rfl rfl
        (Table.keys_erase _ _) (fun t' ht => ?_)
      cases t' <;> first | exact ⟨rfl, rfl⟩ | exact absurd rfl ht
    · exact .kept (fun h => h) (fun _ => rfl) (fun _ => rfl)
  | schoolCreate new => exact (handleSchoolCreate_ok hh).mapping rfl Iff.rfl
  | schoolModify new =>
    cases handleSchoolModify_ok hh with
    | absent habsent hc =>
      have hid : new.id ∉ db.schools.keys := Table.not_mem_keys.mpr habsent
      exact hc.mapping rfl (by simp [Mapped, hid])
    | stored _ _ _ current hstored =>
      have hid := Table.mem_keys_of_find? hstored
      refine .of_update rfl trivial hid (fun _ => dns_writeSchool) (fun t' => ?_)
      rw [ids_writeSchool (by simpa using hstored), Database.toObjects_displace]
  | schoolDelete old =>
    rcases ignoreNotFound_ok hh with hd | ⟨rfl, -⟩
    · obtain ⟨-, -, rfl⟩ := SchoolManager.delete_eq_ok.mp hd
      refine .of_erase .school old.properties.univentionObjectIdentifier rfl rfl
        (Table.keys_erase _ _) (fun t' ht => ?_)
      cases t' with
      | school => exact absurd rfl ht
      | group => exact ⟨rfl, rfl⟩
      | user => exact ⟨rfl, Table.keys_mapVals _ _⟩
    · exact .kept (fun h => h) (fun _ => rfl) (fun _ => rfl)
  | hostGroupCreate new =>
    obtain ⟨_, -, hh⟩ := bind_eq_ok.mp hh
    exact setSchoolServers_mapping (fun h => h) hh
  | hostGroupModify new =>
    obtain ⟨_, -, hh⟩ := bind_eq_ok.mp hh
    exact setSchoolServers_mapping (fun h => h) hh
  | hostGroupDelete old => exact setSchoolServers_mapping (fun h => h) hh

/-! ## The entry of one object -/

/-- If the object is stored, the DN is its entry. -/
def MapsTo (t : ObjectType) (id : PublicId) (dn : String) (db : Database) : Prop :=
  id ∈ db.ids t → (db.dns t).find? id = some dn

/-- A create or modify event of the object. -/
def About (t : ObjectType) (id : PublicId) (e : Event) : Prop := ∃ dn, e.object = some (t, id, dn)

/-- The event writes the mapping row of another object with the same DN. -/
def Takes (t : ObjectType) (id : PublicId) (dn : String) (db : Database) (e : Event) : Prop :=
  Mapped db e ∧ ∃ id', id' ≠ id ∧ e.object = some (t, id', dn)

section Entry

variable {t : ObjectType} {id : PublicId} {dn : String}

omit [Runtime] in
theorem not_stored_of_not_mapped (hobject : e.object = some (t, id, dn)) (hm : ¬ Mapped db e)
    (hc : ¬ CreatesStored db e) : id ∉ db.ids t := by
  cases e <;> simp only [Event.object, Option.some.injEq, Prod.mk.injEq, reduceCtorEq] at hobject
  all_goals
    obtain ⟨rfl, rfl, -⟩ := hobject
    intro hid
  case userModify => exact hm (.inl hid)
  case groupModify => exact hm (.inl hid)
  case schoolModify => exact hm trivial
  all_goals exact hc hid

omit [Runtime] in
/-- After its event, a stored object has the DN of the event as its entry, unless the event
created an object that was stored already. -/
theorem MappingStep.mapsTo (hs : MappingStep db e db') (hobject : e.object = some (t, id, dn))
    (hc : ¬ CreatesStored db e) : MapsTo t id dn db' := by
  intro hid
  cases hs with
  | written t' id' dn' hobject' _ hdns _ =>
    cases hobject.symm.trans hobject'
    rw [hdns, Database.find?_setMapping_self]
  | kept hm _ hids =>
    rw [hids] at hid
    exact absurd hid (not_stored_of_not_mapped hobject hm hc)
  | erased _ _ hnone _ _ => simp [hobject] at hnone

omit [Runtime] in
/-- Other events keep the entry, unless they take its DN for another object. -/
theorem MappingStep.mapsTo_of_other (hs : MappingStep db e db') (hm : MapsTo t id dn db)
    (habout : ¬ About t id e) (htakes : ¬ Takes t id dn db e) : MapsTo t id dn db' := by
  intro hid
  cases hs with
  | written t' id' dn' hobject hmapped hdns hids =>
    rw [hids] at hid
    rw [hdns]
    by_cases ht : t = t'
    · subst ht
      have hne : id ≠ id' := by
        rintro rfl
        exact habout ⟨dn', hobject⟩
      have hdn : dn ≠ dn' := by
        rintro rfl
        exact htakes ⟨hmapped, id', hne.symm, hobject⟩
      have hold : id ∈ db.ids t := hid.resolve_right (fun h => hne h.2)
      exact Database.find?_setMapping.mpr (.inr ⟨hne, hdn, hm hold⟩)
    · rw [Database.dns_setMapping_ne ht]
      exact hm (hid.resolve_right (fun h => ht h.1))
  | kept _ hdns hids =>
    rw [hids] at hid
    rw [hdns]
    exact hm hid
  | erased _ _ _ hdns hids =>
    have hold := (hids t id).mp hid
    exact (hdns t id dn).mpr ⟨hm hold.1, hold.2⟩

/-- The entry that an object's last event has written, at the end of the run. -/
theorem mapsTo_replay {es : List Event} (hm : MapsTo t id dn db)
    (h : Along handle (fun db f => Handles handle db f → ¬ About t id f ∧ ¬ Takes t id dn db f)
      db es) : MapsTo t id dn (replay handle db es) := by
  refine replay_invariant (fun db f db' hm hP hh => ?_) hm h
  have hother := hP ⟨db', hh⟩
  exact (handle_mapping hh).mapsTo_of_other hm hother.1 hother.2

end Entry

/-! ## Runs -/

/-- After every run the mappings are injective and lead to stored objects. The entry of a stored
object is the DN of its last handled create or modify event, provided that this was not a create
event of an object that was stored already, and that no later event has taken the DN for
another object. -/
theorem mapping_run (roles : Table PublicId RoleModel) (es : List Event) :
    (∀ t id id' dn, ((replay handle (Database.initial roles) es).dns t).find? id = some dn →
      ((replay handle (Database.initial roles) es).dns t).find? id' = some dn → id = id') ∧
    (∀ t id dn, ((replay handle (Database.initial roles) es).dns t).find? id = some dn →
      id ∈ (replay handle (Database.initial roles) es).ids t) ∧
    ∀ pre e post t id dn, es = pre ++ e :: post → e.object = some (t, id, dn) →
      Handles handle (replay handle (Database.initial roles) pre) e →
      ¬ CreatesStored (replay handle (Database.initial roles) pre) e →
      Along handle (fun db f => Handles handle db f → ¬ About t id f ∧ ¬ Takes t id dn db f)
        (replay handle (Database.initial roles) (pre ++ [e])) post →
      id ∈ (replay handle (Database.initial roles) es).ids t →
        ((replay handle (Database.initial roles) es).dns t).find? id = some dn := by
  have hi : Integrity (replay handle (Database.initial roles) es) :=
    Reachable.integrity ⟨roles, es, rfl⟩
  refine ⟨fun _ _ _ _ h h' => hi.dnInjective h h', fun _ _ _ h => hi.dnStored h, ?_⟩
  intro pre e post t id dn hes hobject hh hc hpost
  obtain ⟨db₁, hstep⟩ := hh
  have hafter : replay handle (Database.initial roles) (pre ++ [e]) = db₁ := by
    rw [replay_append, replay_cons, replay_nil, deliver_of_ok hstep]
  have hend : replay handle (Database.initial roles) es = replay handle db₁ post := by
    rw [hes, ← hafter, ← replay_append, List.append_assoc, List.singleton_append]
  rw [hafter] at hpost
  rw [hend]
  exact mapsTo_replay ((handle_mapping hstep).mapsTo hobject hc) hpost

end Mapping

/-! ## Two students at one DN -/

section

attribute [local instance] asciiRuntime

/-- A student that is created in a school, before another one is. -/
theorem mapping_run_student :
    ((replay handle (Database.initial someRoles)
      [.schoolCreate (schoolEvent 1 "ou=A" "A" (by decide)),
        .userCreate (studentEvent 2 "uid=u,ou=A" "u" ["A"] [] [] [] (by decide)),
        .userCreate (studentEvent 3 "uid=v,ou=A" "v" ["A"] [] [] [] (by decide))]).dns
          .user).find? 2 = some "uid=u,ou=A" := by
  refine (mapping_run someRoles _).2.2 [.schoolCreate (schoolEvent 1 "ou=A" "A" (by decide))] _ _
    .user 2 "uid=u,ou=A" rfl rfl ⟨_, eq_deliver_of_isOk (by decide)⟩ ?_ ⟨fun _ => ⟨?_, ?_⟩,
      trivial⟩ (by decide)
  · unfold CreatesStored
    decide
  · rintro ⟨dn, h⟩
    exact absurd h (by simp [Event.object, studentEvent, UserPayload.id])
  · rintro ⟨-, id', -, h⟩
    exact absurd h (by simp [Event.object, studentEvent])

/-- A student whose DN is given to another one has no entry any more. -/
theorem mapping_taken :
    ¬ ∀ (roles : Table PublicId RoleModel) (es : List Event) (t : ObjectType) (id : PublicId),
      id ∈ (replay handle (Database.initial roles) es).ids t →
        ∃ dn, ((replay handle (Database.initial roles) es).dns t).find? id = some dn := by
  intro h
  obtain ⟨dn, hdn⟩ := h someRoles
    [.schoolCreate (schoolEvent 1 "ou=A" "A" (by decide)),
      .userCreate (studentEvent 2 "uid=u,ou=A" "u" ["A"] [] [] [] (by decide)),
      .userCreate (studentEvent 3 "uid=u,ou=A" "v" ["A"] [] [] [] (by decide))]
    .user 2 (by decide)
  have hnone : ((replay handle (Database.initial someRoles)
    [.schoolCreate (schoolEvent 1 "ou=A" "A" (by decide)),
      .userCreate (studentEvent 2 "uid=u,ou=A" "u" ["A"] [] [] [] (by decide)),
      .userCreate (studentEvent 3 "uid=u,ou=A" "v" ["A"] [] [] [] (by decide))]).dns
        .user).find? 2 = none := by
    decide
  rw [hnone] at hdn
  cases hdn

end

end Kelvin
