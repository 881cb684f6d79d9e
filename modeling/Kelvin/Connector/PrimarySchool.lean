import Kelvin.Connector.Run

/-!
# The primary school

Every stored user should have exactly one primary membership; `User.primary_school` raises
for a user without one. The memberships that a create event builds have exactly one primary
among them, since the event is dropped when none of its schools is known. Two events lack
such a guard: a modify event of a stored user that names no known school empties the
memberships, and deleting a school removes the memberships in it by cascade.

* `onePrimary_build`: the memberships of at least one school have exactly one primary.
* `KeepsPrimary`: the condition on an event and the database it meets.
* `primary_step`: a handled event keeps the invariant if and only if it meets the condition.
* `primary_run`: the invariant in every state of a run whose events meet the condition.
-/

namespace Kelvin

/-- Exactly one membership is marked primary. -/
def OnePrimary (memberships : Table PublicId SchoolMembershipModel) : Prop :=
  ∃! s, ∃ m, memberships.find? s = some m ∧ m.isPrimary = true

/-- Every stored user has exactly one primary membership. -/
def PrimaryInvariant (db : Database) : Prop :=
  ∀ id row, db.users.find? id = some row → OnePrimary row.schoolMemberships

/-- The invariant is what `User.primary_school` needs. -/
theorem primarySchool_of_onePrimary {db : Objects} {id : PublicId} {row : UserModel}
    (h : OnePrimary row.schoolMemberships) : ∃ s, (toUser db id row).primarySchool = .ok s := by
  obtain ⟨s, ⟨m, hm, hp⟩, -⟩ := h
  unfold User.primarySchool
  cases hf : (toUser db id row).schoolMemberships.rows.find? (fun m => m.2.isPrimary) with
  | some r => exact ⟨r.1, rfl⟩
  | none =>
    have hs : (toUser db id row).schoolMemberships.find? s =
        some ⟨m.isPrimary, m.roles, db.groupMembers.leftOf ⟨id, s⟩⟩ := by
      simp [toUser, hm]
    have hnot := List.find?_eq_none.mp hf _ (Table.mem_rows.mpr hs)
    exact absurd hp hnot

theorem not_onePrimary_empty : ¬ OnePrimary (Table.empty : Table PublicId SchoolMembershipModel) := by
  rintro ⟨s, ⟨m, hm, -⟩, -⟩
  cases hm

theorem PrimaryInvariant.of_users {db db' : Database} (h : PrimaryInvariant db)
    (husers : db'.users = db.users) : PrimaryInvariant db' := by
  intro id row hrow
  exact h id row (husers ▸ hrow)

/-- Erasing a school keeps the invariant exactly when it is nobody's primary school. -/
theorem primary_schoolErased {db : Database} {id : PublicId} (h : PrimaryInvariant db) :
    PrimaryInvariant (SchoolManager.erase db id) ↔
      ∀ k row m, db.users.find? k = some row → row.schoolMemberships.find? id = some m →
        m.isPrimary = false := by
  constructor
  · intro h' k row m hrow hm
    obtain ⟨s, ⟨m', hm', hp⟩, -⟩ := h' k { row with
      schoolMemberships := row.schoolMemberships.erase id } (by simp [SchoolManager.erase, hrow])
    rw [Table.find?_erase] at hm'
    split at hm'
    · cases hm'
    · next hs =>
      by_contra hprimary
      exact hs ((h k row hrow).unique ⟨m', hm', hp⟩ ⟨m, hm, by simpa using hprimary⟩)
  · intro hk k row' hrow'
    obtain ⟨row, hrow, rfl⟩ := Option.map_eq_some_iff.mp
      ((Table.find?_mapVals _ _ _).symm.trans hrow')
    obtain ⟨s, ⟨m, hm, hp⟩, hunique⟩ := h k row hrow
    have hs : s ≠ id := by
      rintro rfl
      exact absurd hp (by simp [hk k row m hrow hm])
    refine ⟨s, ⟨m, ?_, hp⟩, ?_⟩
    · dsimp only
      rw [Table.find?_erase, if_neg hs]
      exact hm
    · rintro s' ⟨m', hm', hp'⟩
      dsimp only at hm'
      rw [Table.find?_erase] at hm'
      split at hm'
      · cases hm'
      · exact hunique s' ⟨m', hm', hp'⟩

section PrimarySchool

variable [Runtime]

/-! ## The memberships of an event -/

/-- With at least one school, the primary school is one of them. -/
theorem primaryId_mem {schools : Table PublicId SchoolModel} (ou : Option String)
    (hs : schools.rows ≠ []) : ∃ p, primaryId schools ou = some p ∧ p ∈ schools.keys := by
  have hmem : ∀ r ∈ schools.rows, r.1 ∈ schools.keys := by
    intro r hr
    exact Table.mem_keys_of_find? (Table.mem_rows.mp hr)
  obtain ⟨r, rs, hrows⟩ := List.exists_cons_of_ne_nil hs
  unfold primaryId
  dsimp only
  cases hou : ou.bind (fun ou =>
      (schools.rows.find? (fun s => Runtime.lower s.2.name == Runtime.lower ou)).map Prod.fst) with
  | none =>
    refine ⟨r.1, by simp [hrows], hmem r ?_⟩
    rw [hrows]
    exact List.mem_cons_self
  | some p =>
    refine ⟨p, rfl, ?_⟩
    obtain ⟨name, -, hp⟩ := Option.bind_eq_some_iff.mp hou
    obtain ⟨s, hs, rfl⟩ := Option.map_eq_some_iff.mp hp
    exact hmem s (List.mem_of_find?_eq_some hs)

theorem onePrimary_build {db : Database} {schools : Table PublicId SchoolModel}
    {groups : Finset PublicId} {roles : List UcsschoolRole} {ou : Option String}
    (hs : schools.rows ≠ []) :
    OnePrimary (UserManager.toMembershipModels
      (buildSchoolMemberships db schools groups roles ou)) := by
  obtain ⟨p, hp, hmem⟩ := primaryId_mem ou hs
  obtain ⟨school, hschool⟩ := Table.mem_keys.mp hmem
  refine ⟨p, ?_, ?_⟩
  · simp [buildSchoolMemberships, hschool, hp]
  · rintro s ⟨m, hm, hprimary⟩
    simp only [UserManager.find?_toMembershipModels, buildSchoolMemberships, Table.find?_mapVals,
      Option.map_map, Option.map_eq_some_iff, Function.comp_apply] at hm
    obtain ⟨_, -, rfl⟩ := hm
    have hs' : primaryId schools ou = some s := by simpa using hprimary
    exact Option.some.inj (hs'.symm.trans hp)

theorem onePrimary_target {db : Database} {new : UserPayload}
    (hs : (searchSchools db new.properties.school).rows ≠ []) :
    OnePrimary (UserManager.toMembershipModels (userTarget db new).schoolMemberships) :=
  onePrimary_build hs

/-! ## The condition -/

/-- A modify event of a stored user names a known school, and a deleted school is the
primary school of no stored user. -/
def KeepsPrimary (db : Database) : Event → Prop
  | .userModify new =>
    new.id ∈ db.users.keys → (searchSchools db new.properties.school).rows ≠ []
  | .schoolDelete old => ∀ id row m, db.users.find? id = some row →
    row.schoolMemberships.find? old.properties.univentionObjectIdentifier = some m →
      m.isPrimary = false
  | _ => True

/-! ## One event -/

omit [Runtime] in
theorem PrimaryInvariant.setMapping {db : Database} {t : ObjectType} {dn : String} {id : PublicId}
    (h : PrimaryInvariant db) : PrimaryInvariant (db.setMapping t dn id) :=
  h.of_users (by simp)

/-- Bringing one user to a target with exactly one primary membership. -/
theorem PrimaryInvariant.writeUser {db : Database} {id : PublicId} {model : UserModel}
    {target : User} (h : PrimaryInvariant db) (hstored : db.users.find? id = some model)
    (hone : OnePrimary (UserManager.toMembershipModels target.schoolMemberships)) :
    PrimaryInvariant (writeUser db id model target) := by
  intro k row hrow
  by_cases hk : k = id
  · subst hk
    obtain ⟨row', hrow', hm⟩ := find?_writeUser_self target hstored
    rw [hrow] at hrow'
    cases hrow'
    rw [hm]
    exact hone
  · rw [find?_writeUser_ne hk] at hrow
    exact h k row hrow

theorem PrimaryInvariant.userCreated {db db' : Database} {new : UserPayload}
    (h : PrimaryInvariant db) (hc : UserCreated db new db') : PrimaryInvariant db' := by
  cases hc with
  | dropped => exact h
  | created hs _ _ =>
    refine PrimaryInvariant.setMapping (fun k row hrow => ?_)
    simp only [UserManager.insert, Table.find?_insert] at hrow
    split at hrow
    · cases hrow
      exact onePrimary_target hs
    · exact h k row hrow
  | stored hs model hstored _ => exact h.writeUser hstored (onePrimary_target hs)

/-- A user modify event keeps the invariant exactly when it names a known school, or when
the user is not stored. -/
theorem primary_userModified {db db' : Database} {new : UserPayload} (h : PrimaryInvariant db)
    (hm : UserModified db new db') :
    PrimaryInvariant db' ↔ KeepsPrimary db (.userModify new) := by
  cases hm with
  | absent habsent hc =>
    refine iff_of_true (h.userCreated hc) (fun hstored => ?_)
    exact absurd hstored (Table.not_mem_keys.mpr habsent)
  | stored model hstored _ =>
    have hschools : searchSchools (db.displace .user new.dn new.id) new.properties.school =
        searchSchools db new.properties.school := by simp [searchSchools]
    have hstored' : (db.displace .user new.dn new.id).users.find? new.id = some model := by
      rw [Database.toObjects_displace]
      exact hstored
    constructor
    · intro h' _ hempty
      obtain ⟨row, hrow, hmem⟩ := find?_writeUser_self
        (userTarget (db.displace .user new.dn new.id) new) hstored'
      have hone := h' new.id row (by simpa using hrow)
      have hnone : UserManager.toMembershipModels
          (userTarget (db.displace .user new.dn new.id) new).schoolMemberships = .empty := by
        ext1 s
        have hfind : (searchSchools db new.properties.school).find? s = none := by
          simp [Table.find?, hempty]
        simp [userTarget, newUser, userMemberships, buildSchoolMemberships, hschools, hfind]
      rw [hmem, hnone] at hone
      exact not_onePrimary_empty hone
    · intro hk
      have hs := hk (Table.mem_keys_of_find? hstored)
      rw [← hschools] at hs
      have hdisplaced : PrimaryInvariant (db.displace .user new.dn new.id) :=
        h.of_users (by simp)
      exact (hdisplaced.writeUser hstored' (onePrimary_target hs)).setMapping

theorem primary_hostGroup {db db' : Database} {groupName : String} {hosts : Finset String}
    {ok : Bool} (h : PrimaryInvariant db)
    (hs : setSchoolServers db groupName hosts ok = .ok db') : PrimaryInvariant db' := by
  rcases setSchoolServers_ok hs with rfl | ⟨id, school, kind, -, rfl⟩
  · exact h
  · exact h.of_users users_writeSchool

/-- A handled event keeps the invariant if and only if it meets the condition. -/
theorem primary_step {db db' : Database} {e : Event} (hi : Integrity db) (h : PrimaryInvariant db)
    (hh : handle db e = .ok db') : PrimaryInvariant db' ↔ KeepsPrimary db e := by
  cases e with
  | userCreate new => exact iff_of_true (h.userCreated (handleUserCreate_ok hh)) trivial
  | userModify new => exact primary_userModified h (handleUserModify_ok hh)
  | userDelete old =>
    refine iff_of_true ?_ trivial
    rcases ignoreNotFound_ok hh with hd | ⟨rfl, -⟩
    · obtain ⟨-, rfl⟩ := UserManager.delete_eq_ok.mp hd
      intro k row hrow
      simp only [UserManager.erase, Table.find?_erase] at hrow
      split at hrow
      · cases hrow
      · exact h k row hrow
    · exact h
  | groupCreate new =>
    refine iff_of_true ?_ trivial
    cases handleGroupCreate_ok hh with
    | dropped => exact h
    | created => exact h.of_users users_groupStored
    | stored => exact h.of_users users_writeGroup
  | groupModify new =>
    refine iff_of_true ?_ trivial
    cases handleGroupModify_ok hh with
    | absent _ hc =>
      cases hc with
      | dropped => exact h
      | created => exact h.of_users users_groupStored
      | stored => exact h.of_users users_writeGroup
    | stored => exact h.of_users (by simp)
  | groupDelete old =>
    refine iff_of_true ?_ trivial
    rcases ignoreNotFound_ok hh with hd | ⟨rfl, -⟩
    · obtain ⟨-, rfl⟩ := GroupManager.delete_eq_ok.mp hd
      exact h.of_users rfl
    · exact h
  | schoolCreate new =>
    refine iff_of_true ?_ trivial
    cases handleSchoolCreate_ok hh with
    | created => exact h.of_users (by simp [SchoolManager.insert])
    | stored => exact h.of_users users_writeSchool
  | schoolModify new =>
    refine iff_of_true ?_ trivial
    cases handleSchoolModify_ok hh with
    | absent _ hc =>
      cases hc with
      | created => exact h.of_users (by simp [SchoolManager.insert])
      | stored => exact h.of_users users_writeSchool
    | stored => exact h.of_users (by simp)
  | schoolDelete old =>
    rcases ignoreNotFound_ok hh with hd | ⟨rfl, t, ids, hd⟩
    · obtain ⟨-, -, rfl⟩ := SchoolManager.delete_eq_ok.mp hd
      exact primary_schoolErased h
    · refine iff_of_true h (fun k row m hrow hm => ?_)
      exact absurd (hi.membershipSchool hrow hm) (SchoolManager.delete_notFound hd)
  | hostGroupCreate new =>
    obtain ⟨_, -, hh⟩ := bind_eq_ok.mp hh
    exact iff_of_true (primary_hostGroup h hh) trivial
  | hostGroupModify new =>
    obtain ⟨_, -, hh⟩ := bind_eq_ok.mp hh
    exact iff_of_true (primary_hostGroup h hh) trivial
  | hostGroupDelete old => exact iff_of_true (primary_hostGroup h hh) trivial

/-! ## Runs -/

/-- In every run whose handled events meet the condition, every stored user has exactly one
primary membership, and `User.primary_school` finds it. -/
theorem primary_run {roles : Table PublicId RoleModel} {es : List Event}
    (h : Along handle (fun db e => Handles handle db e → KeepsPrimary db e)
      (Database.initial roles) es) :
    ∀ id row, (replay handle (Database.initial roles) es).users.find? id = some row →
      OnePrimary row.schoolMemberships ∧
        ∃ s, (toUser (replay handle (Database.initial roles) es).toObjects id row).primarySchool =
          .ok s := by
  have hinv : Integrity (replay handle (Database.initial roles) es) ∧
      PrimaryInvariant (replay handle (Database.initial roles) es) := by
    refine replay_invariant (I := fun db => Integrity db ∧ PrimaryInvariant db)
      (fun db e db' hI hP hh => ?_) ⟨integrity_initial roles, fun _ _ hrow => by cases hrow⟩ h
    exact ⟨handle_integrity hI.1 hh, (primary_step hI.1 hI.2 hh).mpr (hP ⟨db', hh⟩)⟩
  intro id row hrow
  have hone := hinv.2 id row hrow
  exact ⟨hone, primarySchool_of_onePrimary hone⟩

end PrimarySchool

section

attribute [local instance] asciiRuntime

/-- The run that creates a school and a student in it. -/
def studentRun : List Event :=
  [.schoolCreate (schoolEvent 1 "ou=A" "A" ouA_ne),
    .userCreate (studentEvent 1 "uid=u,ou=A" "u" ["A"] [] [] [] uidA_ne)]

/-- The student of this run has one primary membership. -/
theorem primary_run_student :
    ∃ row, (replay handle (Database.initial someRoles) studentRun).users.find? 1 = some row ∧
      OnePrimary row.schoolMemberships ∧
        ∃ s, (toUser (replay handle (Database.initial someRoles) studentRun).toObjects 1
          row).primarySchool = .ok s := by
  obtain ⟨row, hrow⟩ : ∃ row,
      (replay handle (Database.initial someRoles) studentRun).users.find? 1 = some row :=
    Option.isSome_iff_exists.mp (by decide)
  have hkeeps : Along handle (fun db e => Handles handle db e → KeepsPrimary db e)
      (Database.initial someRoles) studentRun := ⟨fun _ => trivial, fun _ => trivial, trivial⟩
  exact ⟨row, hrow, primary_run hkeeps 1 row hrow⟩

/-- A modify event without schools leaves a stored student without a membership. -/
theorem primary_school_lost :
    ¬ ∀ (roles : Table PublicId RoleModel) (es : List Event) (id : PublicId) (row : UserModel),
      (replay handle (Database.initial roles) es).users.find? id = some row →
        OnePrimary row.schoolMemberships := by
  intro h
  have hrow : ((replay handle (Database.initial someRoles) (studentRun ++
      [.userModify (studentEvent 1 "uid=u,ou=A" "u" [] [] [] [] (by decide))])).users.find? 1).map
        (·.schoolMemberships) = some .empty := by
    decide
  obtain ⟨row, hfind, hempty⟩ := Option.map_eq_some_iff.mp hrow
  have hone := h someRoles _ 1 row hfind
  rw [hempty] at hone
  exact not_onePrimary_empty hone

end

end Kelvin
