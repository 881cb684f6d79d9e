import Kelvin.Connector.Run

/-!
# Validators and stored objects

The validators run on the modify path of the managers only: a modification is rejected unless
the whole patched object passes, while a creation stores what it gets. So the stored objects pass
their validators as long as no creation brings in one that does not.

* `UserColumns.Valid`, `GroupModel.Valid`, `SchoolModel.Valid`: what the validators require, field
  by field.
* `ManagerOperation`, `run`: the creations and modifications of the managers.
* `AllValid.run_iff`: an operation keeps the rows valid if and only if it creates a valid object.
* `validated_run`: after a run that creates valid objects only, every stored object passes its
  validator, and so does every change of it to valid values.
* `reservedName_stored`: a user with a reserved name is stored, and then its email cannot be set.
-/

namespace Kelvin

section Validity

variable [Runtime]

/-! ## The validators, field by field -/

/-- What `UserValidator` requires of the name. -/
structure ValidUserName (name : String) : Prop where
  nonempty : name ≠ ""
  chars : ¬ name.toList.any winInvalidChar
  ending : name.toList.getLast? ≠ some ' ' ∧ name.toList.getLast? ≠ some '.'
  length : name.toList.length ≤ 255
  reserved : Runtime.upper (splitHead '.' name) ∉ winReservedNames

structure UserColumns.Valid (c : UserColumns) : Prop where
  name : ValidUserName c.name
  firstname : c.firstname ≠ ""
  lastname : c.lastname ≠ ""
  recordUid : c.recordUid ≠ ""
  sourceUid : c.sourceUid ≠ ""

structure GroupModel.Valid (g : GroupModel) : Prop where
  name : g.name ≠ ""
  recordUid : g.recordUid ≠ ""
  sourceUid : g.sourceUid ≠ ""
  roles : g.roles ≠ ∅

structure SchoolModel.Valid (s : SchoolModel) : Prop where
  nonempty : s.name ≠ ""
  name : schoolNameMatches s.name = true
  recordUid : s.recordUid ≠ ""
  sourceUid : s.sourceUid ≠ ""

omit [Runtime] in
theorem check_eq_ok {p : Prop} [Decidable p] {message : String} {u : Unit} :
    check p message = .ok u ↔ p := require_eq_ok

omit [Runtime] in
theorem check_bind_eq_ok {α : Type} {p : Prop} [Decidable p] {message : String}
    {f : Unit → Except Exc α} {a : α} :
    check p message >>= f = .ok a ↔ p ∧ f () = .ok a := require_bind_eq_ok

theorem userValidator_eq_ok {user : User} :
    UserValidator.validate user = .ok () ↔ user.toUserColumns.Valid := by
  simp only [UserValidator.validate, check_bind_eq_ok, check_eq_ok]
  constructor
  · rintro ⟨hne, hchars, hending, hlength, hreserved, hfirst, hlast, hrecord, hsource⟩
    exact ⟨⟨hne, hchars, hending, hlength, hreserved⟩, hfirst, hlast, hrecord, hsource⟩
  · rintro ⟨⟨hne, hchars, hending, hlength, hreserved⟩, hfirst, hlast, hrecord, hsource⟩
    exact ⟨hne, hchars, hending, hlength, hreserved, hfirst, hlast, hrecord, hsource⟩

omit [Runtime] in
theorem groupValidator_eq_ok {group : Group} :
    GroupValidator.validate group = .ok () ↔ (GroupManager.toGroupModel group).Valid := by
  simp only [GroupValidator.validate, check_bind_eq_ok, check_eq_ok]
  constructor
  · rintro ⟨hname, hrecord, hsource, hroles⟩
    exact ⟨hname, hrecord, hsource, hroles⟩
  · rintro ⟨hname, hrecord, hsource, hroles⟩
    exact ⟨hname, hrecord, hsource, hroles⟩

theorem schoolValidator_eq_ok {school : School} :
    SchoolValidator.validate school = .ok () ↔ SchoolModel.Valid school := by
  simp only [SchoolValidator.validate, check_bind_eq_ok, check_eq_ok]
  constructor
  · rintro ⟨hne, hname, hrecord, hsource⟩
    exact ⟨hne, hname, hrecord, hsource⟩
  · rintro ⟨hne, hname, hrecord, hsource⟩
    exact ⟨hne, hname, hrecord, hsource⟩

/-! ## Operations of the managers -/

inductive ManagerOperation where
  | createUser (id : PublicId) (data : User)
  | modifyUser (id : PublicId) (patch : UserPatch)
  | createGroup (id : PublicId) (data : Group)
  | modifyGroup (id : PublicId) (patched : Group)
  | createSchool (id : PublicId) (data : School)
  | modifySchool (id : PublicId) (patched : School)

def ManagerOperation.run (db : Database) : ManagerOperation → Except Exc Database
  | .createUser id data => UserManager.create db id data
  | .modifyUser id patch => UserManager.modify db id patch
  | .createGroup id data => GroupManager.create db id data
  | .modifyGroup id patched => GroupManager.modify db id patched
  | .createSchool id data => SchoolManager.create db id data
  | .modifySchool id patched => SchoolManager.modify db id patched

/-- The object that a creation is given passes its validator. -/
def ManagerOperation.CreatesValid : ManagerOperation → Prop
  | .createUser _ data => UserValidator.validate data = .ok ()
  | .createGroup _ data => GroupValidator.validate data = .ok ()
  | .createSchool _ data => SchoolValidator.validate data = .ok ()
  | .modifyUser _ _ | .modifyGroup _ _ | .modifySchool _ _ => True

instance : (op : ManagerOperation) → Decidable op.CreatesValid
  | .createUser _ data => inferInstanceAs (Decidable (UserValidator.validate data = .ok ()))
  | .createGroup _ data => inferInstanceAs (Decidable (GroupValidator.validate data = .ok ()))
  | .createSchool _ data => inferInstanceAs (Decidable (SchoolValidator.validate data = .ok ()))
  | .modifyUser _ _ | .modifyGroup _ _ | .modifySchool _ _ => inferInstanceAs (Decidable True)

/-- Every row has the fields that its validator requires. -/
structure AllValid (db : Objects) : Prop where
  user : ∀ id model, db.users.find? id = some model → model.toUserColumns.Valid
  group : ∀ id model, db.groups.find? id = some model → model.Valid
  school : ∀ id model, db.schools.find? id = some model → model.Valid

theorem allValid_initial (roles : Table PublicId RoleModel) :
    AllValid (Database.initial roles).toObjects := by
  constructor <;> intro id model hfind <;> cases hfind

section Writes

variable {db db' : Database} {id : PublicId}

theorem AllValid.user_insert (hv : AllValid db.toObjects) {data : User} :
    AllValid (UserManager.insert db id data).toObjects ↔ data.toUserColumns.Valid := by
  constructor
  · intro h
    exact h.user id _ (Table.find?_insert_self _ _ _)
  · intro hdata
    exact ⟨Table.forall_insert (P := fun u : UserModel => u.Valid) hv.user hdata, hv.group, hv.school⟩

theorem AllValid.group_insert (hv : AllValid db.toObjects) {data : Group} :
    AllValid (GroupManager.insert db id data).toObjects ↔
      (GroupManager.toGroupModel data).Valid := by
  constructor
  · intro h
    exact h.group id _ (Table.find?_insert_self _ _ _)
  · intro hdata
    exact ⟨hv.user, Table.forall_insert hv.group hdata, hv.school⟩

theorem AllValid.school_insert (hv : AllValid db.toObjects) {data : School} :
    AllValid (SchoolManager.insert db id data).toObjects ↔ SchoolModel.Valid data := by
  constructor
  · intro h
    exact h.school id _ (Table.find?_insert_self _ _ _)
  · intro hdata
    exact ⟨hv.user, hv.group, Table.forall_insert hv.school hdata⟩

/-- The writes of a modification are those of a valid row. -/
theorem AllValid.user_update (hv : AllValid db.toObjects) {model : UserModel} {patch : UserPatch}
    (hpatch : patch.patched.toUserColumns.Valid) :
    AllValid (UserManager.update db id model patch).toObjects :=
  ⟨Table.forall_insert (P := fun u : UserModel => u.Valid) hv.user hpatch, hv.group, hv.school⟩

theorem AllValid.group_update (hv : AllValid db.toObjects) {model : GroupModel}
    {patched current : Group} (hpatched : (GroupManager.toGroupModel patched).Valid) :
    AllValid (GroupManager.update db id model patched current).toObjects :=
  ⟨hv.user, Table.forall_insert hv.group hpatched, hv.school⟩

end Writes

/-- An operation keeps the rows valid if and only if it creates a valid object, when it creates one. -/
theorem AllValid.run_iff {db db' : Database} {op : ManagerOperation} (hv : AllValid db.toObjects)
    (h : op.run db = .ok db') : AllValid db'.toObjects ↔ op.CreatesValid := by
  cases op with
  | createUser id data =>
    obtain ⟨-, rfl⟩ := UserManager.create_ok h
    rw [hv.user_insert, ← userValidator_eq_ok]
    rfl
  | createGroup id data =>
    obtain ⟨-, rfl⟩ := GroupManager.create_ok h
    rw [hv.group_insert, ← groupValidator_eq_ok]
    rfl
  | createSchool id data =>
    obtain ⟨-, rfl⟩ := SchoolManager.create_eq_ok.mp h
    rw [hv.school_insert, ← schoolValidator_eq_ok]
    rfl
  | modifyUser id patch =>
    obtain ⟨model, hm, rfl⟩ := UserManager.modify_ok h
    exact iff_of_true (hv.user_update (userValidator_eq_ok.mp hm.valid)) trivial
  | modifyGroup id patched =>
    obtain ⟨model, current, hm, rfl⟩ := GroupManager.modify_ok h
    exact iff_of_true (hv.group_update (groupValidator_eq_ok.mp hm.valid)) trivial
  | modifySchool id patched =>
    obtain ⟨-, hvalid, -, rfl⟩ := SchoolManager.modify_eq_ok.mp h
    exact iff_of_true (hv.school_insert.mpr (schoolValidator_eq_ok.mp hvalid)) trivial

/-- A run that creates valid objects only keeps the rows valid. -/
theorem AllValid.replay {db : Database} {ops : List ManagerOperation} (hv : AllValid db.toObjects)
    (hops : ∀ op ∈ ops, op.CreatesValid) :
    AllValid (Kelvin.replay ManagerOperation.run db ops).toObjects := by
  induction ops generalizing db with
  | nil => exact hv
  | cons op ops ih =>
    have hop := hops op List.mem_cons_self
    have hstep : AllValid (deliver ManagerOperation.run db op).toObjects :=
      deliver_invariant (I := fun db => AllValid db.toObjects) hv
        (fun db' h => (hv.run_iff h).mpr hop)
    exact ih hstep (fun op' h => hops op' (List.mem_cons_of_mem op h))

/-! ## Changes of stored objects -/

/-- A field keeps its value or gets one that its validator accepts. -/
def Touched {α : Type} (accepts : α → Prop) (old new : α) : Prop := new = old ∨ accepts new

omit [Runtime] in
theorem Touched.accepted {α : Type} {accepts : α → Prop} {old new : α}
    (h : Touched accepts old new) (hold : accepts old) : accepts new := by
  rcases h with rfl | hnew
  · exact hold
  · exact hnew

/-- Every field that `UserValidator` looks at is left alone or set to a valid value. -/
structure UserColumns.TouchedValid (old new : UserColumns) : Prop where
  name : Touched ValidUserName old.name new.name
  firstname : Touched (· ≠ "") old.firstname new.firstname
  lastname : Touched (· ≠ "") old.lastname new.lastname
  recordUid : Touched (· ≠ "") old.recordUid new.recordUid
  sourceUid : Touched (· ≠ "") old.sourceUid new.sourceUid

structure GroupModel.TouchedValid (old new : GroupModel) : Prop where
  name : Touched (· ≠ "") old.name new.name
  recordUid : Touched (· ≠ "") old.recordUid new.recordUid
  sourceUid : Touched (· ≠ "") old.sourceUid new.sourceUid
  roles : Touched (· ≠ ∅) old.roles new.roles

structure SchoolModel.TouchedValid (old new : SchoolModel) : Prop where
  name : Touched (fun name => name ≠ "" ∧ schoolNameMatches name = true) old.name new.name
  recordUid : Touched (· ≠ "") old.recordUid new.recordUid
  sourceUid : Touched (· ≠ "") old.sourceUid new.sourceUid

theorem UserColumns.Valid.touched {old new : UserColumns} (hv : old.Valid)
    (h : old.TouchedValid new) : new.Valid where
  name := h.name.accepted hv.name
  firstname := h.firstname.accepted hv.firstname
  lastname := h.lastname.accepted hv.lastname
  recordUid := h.recordUid.accepted hv.recordUid
  sourceUid := h.sourceUid.accepted hv.sourceUid

omit [Runtime] in
theorem GroupModel.Valid.touched {old new : GroupModel} (hv : old.Valid)
    (h : old.TouchedValid new) : new.Valid where
  name := h.name.accepted hv.name
  recordUid := h.recordUid.accepted hv.recordUid
  sourceUid := h.sourceUid.accepted hv.sourceUid
  roles := h.roles.accepted hv.roles

omit [Runtime] in
theorem SchoolModel.Valid.touched {old new : SchoolModel} (hv : old.Valid)
    (h : old.TouchedValid new) : new.Valid := by
  have hname := h.name.accepted ⟨hv.nonempty, hv.name⟩
  exact ⟨hname.1, hname.2, h.recordUid.accepted hv.recordUid, h.sourceUid.accepted hv.sourceUid⟩

/-- Every stored object passes its validator. -/
structure Validated (db : Objects) : Prop where
  user : ∀ id model, db.users.find? id = some model →
    UserValidator.validate (toUser db id model) = .ok ()
  /-- The group whose row is stored, also where it cannot be converted. -/
  group : ∀ id group, db.groups.find? id = some (GroupManager.toGroupModel group) →
    GroupValidator.validate group = .ok ()
  school : ∀ id school, db.schools.find? id = some school →
    SchoolValidator.validate school = .ok ()

/-- No validator rejects a change of a stored object to valid values. -/
structure ChangesAccepted (db : Objects) : Prop where
  user : ∀ id model patched, db.users.find? id = some model →
    model.toUserColumns.TouchedValid patched.toUserColumns →
      UserValidator.validate patched = .ok ()
  group : ∀ id model patched, db.groups.find? id = some model →
    model.TouchedValid (GroupManager.toGroupModel patched) →
      GroupValidator.validate patched = .ok ()
  school : ∀ id school patched, db.schools.find? id = some school →
    SchoolModel.TouchedValid school patched → SchoolValidator.validate patched = .ok ()

theorem AllValid.validated {db : Objects} (hv : AllValid db) : Validated db where
  user id model h := userValidator_eq_ok.mpr (hv.user id model h)
  group id _ h := groupValidator_eq_ok.mpr (hv.group id _ h)
  school id school h := schoolValidator_eq_ok.mpr (hv.school id school h)

theorem AllValid.changesAccepted {db : Objects} (hv : AllValid db) : ChangesAccepted db where
  user id model _ h ht := userValidator_eq_ok.mpr ((hv.user id model h).touched ht)
  group id model _ h ht := groupValidator_eq_ok.mpr ((hv.group id model h).touched ht)
  school id school _ h ht := schoolValidator_eq_ok.mpr ((hv.school id school h).touched ht)

/-- After a run that creates valid objects only, every stored object passes its validator, and no
change of it to valid values is rejected. -/
theorem validated_run (roles : Table PublicId RoleModel) {ops : List ManagerOperation}
    (hops : ∀ op ∈ ops, op.CreatesValid) :
    Validated (replay ManagerOperation.run (Database.initial roles) ops).toObjects ∧
      ChangesAccepted (replay ManagerOperation.run (Database.initial roles) ops).toObjects := by
  have hv := (allValid_initial roles).replay hops
  exact ⟨hv.validated, hv.changesAccepted⟩

/-- A modification fails with what the validator says of the patched user. -/
theorem UserManager.modify_rejected {db : Database} {id : PublicId} {model : UserModel}
    {patch : UserPatch} {x : Exc} (hstored : db.users.find? id = some model)
    (hrejected : UserValidator.validate patch.patched = .error x) :
    UserManager.modify db id patch = .error x := by
  simp only [UserManager.modify, hstored, hrejected]
  rfl

end Validity

section Concrete

attribute [local instance] asciiRuntime

/-- The `User` that the connector builds for a student of the given name. -/
def student (username : String) : User :=
  let new := studentEvent 2 "uid=u,ou=A" username ["A"] [] [] [] uidA_ne
  newUser new.properties (userMemberships oneSchool new) ∅ ∅

/-- A school and a student are created. -/
def studentOperations (username : String) : List ManagerOperation :=
  [.createSchool 1 (newSchool (schoolEvent 1 "ou=A" "A" ouA_ne).properties none none),
    .createUser 2 (student username)]

theorem validated_student :
    Validated (replay ManagerOperation.run (Database.initial someRoles)
        (studentOperations "anna")).toObjects ∧
      ChangesAccepted (replay ManagerOperation.run (Database.initial someRoles)
        (studentOperations "anna")).toObjects :=
  validated_run someRoles (by decide)

/-- The cache after the creation of a student with a reserved name. -/
def reservedCache : Database :=
  replay ManagerOperation.run (Database.initial someRoles) (studentOperations "con")

/-- The row of a created student. -/
def studentModel (username : String) : UserModel where
  toUserColumns := (student username).toUserColumns
  schoolMemberships := UserManager.toMembershipModels (student username).schoolMemberships

/-- The student `con` is stored, fails its validator, and cannot be given an email address. -/
theorem reservedName_stored :
    ¬ Validated reservedCache.toObjects ∧ ¬ ChangesAccepted reservedCache.toObjects ∧
      UserManager.modify reservedCache 2
          (userPatch (student "con") { student "con" with email := some "con@a.example" }) =
        .error (.valueError "User.name 'con' is a reserved Windows name.") := by
  have hstored : reservedCache.users.find? 2 = some (studentModel "con") := by decide
  have hrejected : UserValidator.validate (student "con") ≠ .ok () := by decide
  refine ⟨?_, ?_, ?_⟩
  · intro h
    have hvalid := userValidator_eq_ok.mp (h.user 2 _ hstored)
    exact hrejected (userValidator_eq_ok.mpr hvalid)
  · intro h
    exact hrejected (h.user 2 _ (student "con") hstored
      ⟨.inl rfl, .inl rfl, .inl rfl, .inl rfl, .inl rfl⟩)
  · exact UserManager.modify_rejected hstored (by decide)

end Concrete

end Kelvin
