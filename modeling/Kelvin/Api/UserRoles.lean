import Kelvin.Connector.Run
import Kelvin.Connector.Resolution
import Kelvin.Lib.RoleStrings

/-!
# Roles of a user, from the event to the v2 resource

A user event lists role strings. The connector stores on each membership the known roles of
the entries that name the school, and the v2 user resource renders the stored roles as role
strings of context type `school`. The connector does not look at the context type of an entry.

* `membershipRoles`, `ucsschoolRoles`: the role strings of the v2 user resource.
* `handled_membership`: the membership that a handled user event leaves.
* `roles_faithful_iff`: the stored and the shown roles of a school are those of the event's school
  role strings if and only if no other entry names the school with a known role.
-/

namespace Kelvin

/-- The role strings that the v2 user resource shows for one membership, in the order of the
ids of the roles. -/
def membershipRoles (db : Objects) (school : SchoolModel) (m : SchoolMembershipModel) :
    List String :=
  (db.roles.rows.filter (fun role => role.1 ∈ m.roles)).map
    (fun role => roleText role.2.name "school" school.name)

/-- `ucsschool_roles` of `_user_to_model`. -/
def ucsschoolRoles (db : Objects) (model : UserModel) : List String :=
  model.schoolMemberships.rows.flatMap (fun row =>
    ((db.schools.find? row.1).map (fun school => membershipRoles db school row.2)).getD [])

section UserRoles

variable [Runtime]

/-- The event creates or modifies a user, and is handled. -/
def HandledUser (db : Database) (new : UserPayload) (db' : Database) : Prop :=
  handle db (.userCreate new) = .ok db' ∨ handle db (.userModify new) = .ok db'

/-- The roles that the event's entries give for a school. -/
def rolesFor (db : Database) (new : UserPayload) (school : SchoolModel) : Finset PublicId :=
  fetchRolesByNames db
    ((new.properties.ucsschoolRole.filter (fun r => r.school == school.name)).map (·.role))

theorem writeUser_rest (db : Database) (id : PublicId) (model : UserModel) (target : User) :
    (writeUser db id model target).schools = db.schools ∧
      (writeUser db id model target).roles = db.roles := by
  unfold writeUser
  split
  · exact ⟨rfl, rfl⟩
  · exact ⟨rfl, rfl⟩

/-- The membership rows of the target that a user event asks for. -/
theorem target_membership {db : Database} {new : UserPayload} {id : PublicId}
    {school : SchoolModel} (hschool : db.schools.find? id = some school)
    (hname : school.name ∈ new.properties.school) :
    ∃ m, (UserManager.toMembershipModels (userTarget db new).schoolMemberships).find? id = some m ∧
      m.roles = rolesFor db new school := by
  have hsearch : (searchSchools db new.properties.school).find? id = some school := by
    rw [searchSchools, Table.find?_filter, hschool]
    simp [hname]
  simp only [UserManager.find?_toMembershipModels, userTarget, newUser, userMemberships,
    buildSchoolMemberships, Table.find?_mapVals, hsearch, Option.map_some]
  exact ⟨_, rfl, rfl⟩

/-- The user's row has the roles of the event's entries in the school. -/
def HasRolesFor (db db' : Database) (new : UserPayload) (id : PublicId) (school : SchoolModel) :
    Prop :=
  ∃ row m, db'.users.find? new.id = some row ∧ row.schoolMemberships.find? id = some m ∧
    m.roles = rolesFor db new school

theorem created_membership {db db' : Database} {new : UserPayload} {id : PublicId}
    {school : SchoolModel} (hc : UserCreated db new db')
    (hschool : db.schools.find? id = some school) (hname : school.name ∈ new.properties.school) :
    (db'.schools = db.schools ∧ db'.roles = db.roles) ∧ HasRolesFor db db' new id school := by
  obtain ⟨m, hm, hroles⟩ := target_membership hschool hname
  cases hc with
  | dropped hschools =>
    have hsearch : (id, school) ∈ (searchSchools db new.properties.school).rows := by
      rw [Table.mem_rows, searchSchools, Table.find?_filter, hschool]
      simp [hname]
    simp [hschools] at hsearch
  | created _ _ _ =>
    unfold HasRolesFor userStored
    rw [Database.toObjects_setMapping]
    exact ⟨⟨rfl, rfl⟩, _, m, Table.find?_insert_self _ _ _, hm, hroles⟩
  | stored _ model hstored _ =>
    obtain ⟨row, hrow, hmemberships⟩ := find?_writeUser_self (userTarget db new) hstored
    exact ⟨writeUser_rest _ _ _ _, row, m, hrow, hmemberships ▸ hm, hroles⟩

/-- A handled user event leaves a membership in every known school that it names, with the roles
of its entries for the school. -/
theorem handled_membership {db db' : Database} {new : UserPayload} {id : PublicId}
    {school : SchoolModel} (h : HandledUser db new db')
    (hschool : db.schools.find? id = some school) (hname : school.name ∈ new.properties.school) :
    (db'.schools = db.schools ∧ db'.roles = db.roles) ∧ HasRolesFor db db' new id school := by
  rcases h with h | h
  · exact created_membership (handleUserCreate_ok h) hschool hname
  · cases handleUserModify_ok h with
    | absent _ hc => exact created_membership hc hschool hname
    | stored model hstored _ =>
      have hobjects : (db.displace .user new.dn new.id).toObjects = db.toObjects := by simp
      have hschool' : (db.displace .user new.dn new.id).schools.find? id = some school := by
        rw [hobjects, hschool]
      have hstored' : (db.displace .user new.dn new.id).users.find? new.id = some model := by
        rw [hobjects, hstored]
      obtain ⟨m, hm, hroles⟩ := target_membership hschool' hname
      obtain ⟨row, hrow, hmemberships⟩ :=
        find?_writeUser_self (userTarget (db.displace .user new.dn new.id) new) hstored'
      have hrolesFor : rolesFor (db.displace .user new.dn new.id) new school =
          rolesFor db new school := fetchRolesByNames_congr (by rw [hobjects])
      unfold HasRolesFor
      rw [Database.toObjects_setMapping]
      refine ⟨?_, row, m, hrow, hmemberships ▸ hm, hroles.trans hrolesFor⟩
      have hrest := writeUser_rest (db.displace .user new.dn new.id) new.id model
        (userTarget (db.displace .user new.dn new.id) new)
      rwa [hobjects] at hrest

omit [Runtime] in
theorem mem_rolesFor {db : Database} {new : UserPayload} {school : SchoolModel} {id : PublicId} :
    id ∈ rolesFor db new school ↔ ∃ role contextType, db.roles.find? id = some role ∧
      ⟨role.name, contextType, school.name⟩ ∈ new.properties.ucsschoolRole := by
  unfold rolesFor
  rw [mem_fetchRolesByNames]
  constructor
  · rintro ⟨role, hrole, hname⟩
    obtain ⟨entry, hentry, hentryName⟩ := List.mem_map.mp hname
    obtain ⟨hmem, hschool⟩ := List.mem_filter.mp hentry
    have heq : entry.school = school.name := by simpa using hschool
    refine ⟨role, entry.context, hrole, ?_⟩
    rw [← hentryName, ← heq]
    exact hmem
  · rintro ⟨role, contextType, hrole, hmem⟩
    refine ⟨role, hrole, List.mem_map.mpr ⟨_, List.mem_filter.mpr ⟨hmem, ?_⟩, rfl⟩⟩
    simp

omit [Runtime] in
theorem mem_membershipRoles {db : Objects} {school : SchoolModel} {m : SchoolMembershipModel}
    {text : String} : text ∈ membershipRoles db school m ↔ ∃ id role, id ∈ m.roles ∧
      db.roles.find? id = some role ∧ text = roleText role.name "school" school.name := by
  unfold membershipRoles
  simp only [List.mem_map, List.mem_filter, decide_eq_true_eq, Prod.exists]
  constructor
  · rintro ⟨id, role, ⟨hmem, hid⟩, rfl⟩
    exact ⟨id, role, hid, Table.mem_rows.mp hmem, rfl⟩
  · rintro ⟨id, role, hid, hrole, rfl⟩
    exact ⟨id, role, ⟨Table.mem_rows.mpr hrole, hid⟩, rfl⟩

/-- The roles that the database holds for a membership, and those that the v2 user resource shows
for it, are the known roles of the school role strings among `texts`. -/
structure RolesFaithful (db : Objects) (school : SchoolModel) (texts : List String)
    (m : SchoolMembershipModel) : Prop where
  stored : ∀ id, id ∈ m.roles ↔ ∃ role, db.roles.find? id = some role ∧
    roleText role.name "school" school.name ∈ texts
  shown : ∀ text, text ∈ membershipRoles db school m ↔ ∃ id role, db.roles.find? id = some role ∧
    text = roleText role.name "school" school.name ∧ text ∈ texts

/-- No entry of another context type names a known role and the context, unless the school role
string of the same role is there too; and no school role string is taken apart otherwise. -/
def OnlySchoolRoles (db : Objects) (texts : List String) (context : String) : Prop :=
  ∀ id role, db.roles.find? id = some role →
    (∀ contextType, contextType ≠ "school" →
      ⟨role.name, contextType, context⟩ ∈ parseRoles texts →
        roleText role.name "school" context ∈ texts) ∧
    (roleText role.name "school" context ∈ texts →
      ':' ∉ role.name.toList ∧ ':' ∉ context.toList)

omit [Runtime] in
/-- The shown roles follow the stored ones. -/
theorem RolesFaithful.of_stored {db : Objects} {school : SchoolModel} {texts : List String}
    {m : SchoolMembershipModel} (h : ∀ id, id ∈ m.roles ↔ ∃ role, db.roles.find? id = some role ∧
      roleText role.name "school" school.name ∈ texts) : RolesFaithful db school texts m := by
  refine ⟨h, fun text => ?_⟩
  rw [mem_membershipRoles]
  constructor
  · rintro ⟨id, role, hid, hrole, rfl⟩
    obtain ⟨role', hrole', htext⟩ := (h id).mp hid
    rw [hrole] at hrole'
    cases hrole'
    exact ⟨id, role, hrole, rfl, htext⟩
  · rintro ⟨id, role, hrole, rfl, htext⟩
    exact ⟨id, role, (h id).mpr ⟨role, hrole, htext⟩, hrole, rfl⟩

/-- After a handled user event, the stored and the shown roles of every cached school of the user
are the known roles of its school role strings, if and only if no other entry names the school. -/
theorem roles_faithful_iff {db db' : Database} {new : UserPayload} {texts : List String}
    {id : PublicId} {school : SchoolModel} (h : HandledUser db new db')
    (htexts : new.properties.ucsschoolRole = parseRoles texts)
    (hschool : db.schools.find? id = some school) (hname : school.name ∈ new.properties.school) :
    (∃ row m, db'.users.find? new.id = some row ∧ row.schoolMemberships.find? id = some m ∧
      RolesFaithful db'.toObjects school texts m) ↔
    OnlySchoolRoles db.toObjects texts school.name := by
  obtain ⟨⟨-, hroles'⟩, row, m, hrow, hm, hmroles⟩ := handled_membership h hschool hname
  have hmem : ∀ k, k ∈ m.roles ↔ ∃ role contextType, db.roles.find? k = some role ∧
      ⟨role.name, contextType, school.name⟩ ∈ parseRoles texts := by
    intro k
    rw [hmroles, mem_rolesFor, htexts]
  constructor
  · rintro ⟨row', m', hrow', hm', hfaithful⟩ k role hrole
    rw [hrow] at hrow'
    cases hrow'
    rw [hm] at hm'
    cases hm'
    have hstored : (∃ contextType, ⟨role.name, contextType, school.name⟩ ∈ parseRoles texts) ↔
        roleText role.name "school" school.name ∈ texts := by
      have hk := (hmem k).symm.trans (hfaithful.stored k)
      rw [hroles'] at hk
      simpa [hrole] using hk
    constructor
    · intro contextType _ hentry
      exact hstored.mp ⟨contextType, hentry⟩
    · intro htext
      obtain ⟨contextType, hentry⟩ := hstored.mpr htext
      obtain ⟨-, hrole, -, hcontext⟩ := mem_parseRoles.mp hentry
      exact ⟨hrole, hcontext⟩
  · intro honly
    refine ⟨row, m, hrow, hm, RolesFaithful.of_stored (fun k => ?_)⟩
    rw [hmem k, hroles']
    constructor
    · rintro ⟨role, contextType, hrole, hentry⟩
      refine ⟨role, hrole, ?_⟩
      by_cases hschoolType : contextType = "school"
      · subst hschoolType
        exact (mem_parseRoles.mp hentry).1
      · exact (honly k role hrole).1 contextType hschoolType hentry
    · rintro ⟨role, hrole, htext⟩
      obtain ⟨hcolon, hcolon'⟩ := (honly k role hrole).2 htext
      exact ⟨role, "school", hrole, mem_parseRoles.mpr ⟨htext, hcolon, by decide, hcolon'⟩⟩

end UserRoles

section Concrete

attribute [local instance] asciiRuntime

theorem parseRoles_ne {role : UcsschoolRole} : [role] ≠ [] := by simp

/-- The event of a student with one role entry. -/
def roleEvent (role : UcsschoolRole) : UserPayload :=
  let new := studentEvent 2 "uid=u,ou=A" "u" ["A"] [] [] [] uidA_ne
  { new with properties :=
      { new.properties with ucsschoolRole := [role], ucsschoolRole_ne := parseRoles_ne } }

/-- The school of the concrete events. -/
def schoolA : SchoolModel :=
  newSchool (schoolEvent 1 "ou=A" "A" ouA_ne).properties none none

theorem roles_faithful_student :
    (∃ row m, (deliver handle oneSchool (.userCreate
        (roleEvent ⟨"student", "school", "A"⟩))).users.find? 2 = some row ∧
      row.schoolMemberships.find? 1 = some m ∧
      RolesFaithful (deliver handle oneSchool (.userCreate
        (roleEvent ⟨"student", "school", "A"⟩))).toObjects schoolA ["student:school:A"] m) ↔
    OnlySchoolRoles oneSchool.toObjects ["student:school:A"] "A" :=
  @roles_faithful_iff _ oneSchool _ (roleEvent ⟨"student", "school", "A"⟩) _ 1 schoolA
    (.inl (eq_deliver_of_isOk (by decide))) (by decide) (by decide)
    (by decide)

/-- The cache after a student whose only role string has another context type. -/
def projectCache : Database :=
  deliver handle oneSchool (.userCreate (roleEvent ⟨"student", "project", "A"⟩))

/-- A student with the role string `student:project:A` gets the role in the school `A`, and the v2
user resource shows `student:school:A`. -/
theorem projectRole_shown :
    HandledUser oneSchool (roleEvent ⟨"student", "project", "A"⟩) projectCache ∧
      (roleEvent ⟨"student", "project", "A"⟩).properties.ucsschoolRole =
        parseRoles ["student:project:A"] ∧
      ¬ ∃ row m, projectCache.users.find? 2 = some row ∧ row.schoolMemberships.find? 1 = some m ∧
        RolesFaithful projectCache.toObjects schoolA ["student:project:A"] m := by
  refine ⟨.inl (eq_deliver_of_isOk (by decide)), by decide, ?_⟩
  rintro ⟨row, m, hrow, hm, hfaithful⟩
  have hshown : (projectCache.users.find? 2).bind (fun row =>
      (row.schoolMemberships.find? 1).map (fun m =>
        decide ("student:school:A" ∈ membershipRoles projectCache.toObjects schoolA m))) =
      some true := by decide
  rw [hrow, Option.bind_some, hm, Option.map_some, Option.some_inj, decide_eq_true_eq] at hshown
  obtain ⟨_, _, _, _, htext⟩ := (hfaithful.shown _).mp hshown
  exact absurd htext (by decide)

end Concrete

end Kelvin
