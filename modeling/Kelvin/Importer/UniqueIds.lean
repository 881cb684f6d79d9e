import Mathlib.Logic.Function.Basic
import Kelvin.Data.Effects
import Kelvin.Objects.Runtime

/-!
# Identifiers that are used once in an import

`import_user.py`: `validate` compares the record_uid, the name and the email address of a user with
those of the users before it, and adds them to the same store one after the other.

* `checkUnique`: one comparison, with the store in which the other user of the message is looked up.
* `Validation.uniqueness`: the three comparisons in their order.
* `Conflict`: one of the identifiers is registered for another DN.
* `Undisturbed`: the states and users with which the check does not lose its way.
* `checksUniqueness_iff`: in a run of validations the check raises for a conflict and changes nothing
  then, exactly if each of its steps is undisturbed.
-/

namespace Kelvin

namespace Importer

open Effects

/-! ## The store -/

inductive Category where
  | recordUid
  | name
  | email
deriving DecidableEq

/-- `_unique_ids`: the DNs by category and value. -/
abbrev UniqueIds := Category → Option String → Option String

def UniqueIds.put (ids : UniqueIds) (category : Category) (value : Option String) (dn : String) :
    UniqueIds :=
  Function.update ids category (Function.update (ids category) value (some dn))

inductive ValidationExc where
  | missingUid (message : String)
  | usernameToLong (message : String)
  | badPassword (message : String)
  | uniqueIdError (message : String)
  | keyError (key : Option String)
  | other (message : String)
deriving DecidableEq

abbrev Validating := EStateM ValidationExc UniqueIds Unit

section Checks

variable [Runtime]

def reprValue : Option String → String
  | none => "None"
  | some value => Runtime.repr value

/-- The comparison of a value with the registered ones and its registration. -/
def checkUnique (category shownIn : Category) (subject : String) (value : Option String)
    (dn : String) : Validating := fun ids =>
  if (ids category value).getD dn ≠ dn then
    match ids shownIn value with
    | some used =>
      .error (.uniqueIdError (subject ++ " " ++ reprValue value ++
        " has already been used in this import by " ++ Runtime.repr used ++ ".")) ids
    | none => .error (.keyError value) ids
  else .ok () (ids.put category value dn)

/-! ## Validation -/

structure ValidatedUser where
  recordUid : Option String
  name : Option String
  password : Option String
  email : Option String
  dn : String
  inHook : Bool

/-- Neither `None` nor the empty text. -/
def isGiven (value : Option String) : Bool := value ≠ none && value ≠ some ""

structure ValidationConfig where
  usernameMaxLength : Nat
  passwordLength : Nat
  skipUniqueness : Bool

/-- A call of `validate`. The checks that do not read the store are known by their exceptions, if
they raise one: those before the check of uniqueness and those behind it. -/
structure Validation where
  user : ValidatedUser
  checkUsername : Bool
  earlier : Option ValidationExc
  later : Option ValidationExc

def raiseIf : Option ValidationExc → Validating
  | none => pure ()
  | some e => throw e

/-- The checks of the name and the password. -/
def ValidatedUser.usernameError (config : ValidationConfig) (user : ValidatedUser) :
    Option ValidationExc :=
  if isGiven user.name = false then some (.missingUid "No username was created.")
  else if config.usernameMaxLength < (user.name.getD "").length then
    some (.usernameToLong ("Username '" ++ user.name.getD "" ++ "' is longer than allowed."))
  else if isGiven user.password && (user.password.getD "").length < config.passwordLength then
    some (.badPassword
      ("Password is shorter than " ++ toString config.passwordLength ++ " characters."))
  else none

def ValidatedUser.checkRecordUid (user : ValidatedUser) : Validating :=
  checkUnique .recordUid .recordUid "record_uid" user.recordUid user.dn

/-- The message about a name looks it up among the record_uids. -/
def ValidatedUser.checkName (user : ValidatedUser) : Validating :=
  checkUnique .name .recordUid "Username" user.name user.dn

def ValidatedUser.checkEmail (user : ValidatedUser) : Validating :=
  checkUnique .email .email "Email address" user.email user.dn

def Validation.uniqueness (v : Validation) : Validating := do
  v.user.checkRecordUid
  if v.checkUsername then v.user.checkName
  if isGiven v.user.email then v.user.checkEmail

/-- `validate` until the identifiers are checked. -/
def Validation.front (config : ValidationConfig) (v : Validation) : Validating := do
  if v.checkUsername then raiseIf (v.user.usernameError config)
  raiseIf v.earlier
  if v.user.inHook = false ∧ config.skipUniqueness = false then v.uniqueness

def Validation.validate (config : ValidationConfig) (v : Validation) : Validating := do
  v.front config
  raiseIf v.later

end Checks

/-! ## One comparison -/

/-- The value is registered for another DN. -/
def Taken (ids : UniqueIds) (category : Category) (value : Option String) (dn : String) : Prop :=
  ∃ used, ids category value = some used ∧ used ≠ dn

section Comparison

variable {ids : UniqueIds} {category category' shownIn : Category} {subject dn used : String}
  {value value' : Option String}

theorem getD_ne_iff : (ids category value).getD dn ≠ dn ↔ Taken ids category value dn := by
  unfold Taken
  cases hvalue : ids category value with
  | none => simp
  | some used => simp

@[simp] theorem put_self : ids.put category value dn category value = some dn := by
  rw [UniqueIds.put, Function.update_self, Function.update_self]

@[simp] theorem put_of_ne (h : category' ≠ category) :
    ids.put category value dn category' = ids category' := Function.update_of_ne h _ _

theorem put_eq_self_iff : ids.put category value dn = ids ↔ ids category value = some dn := by
  rw [UniqueIds.put, Function.update_eq_self_iff, Function.update_eq_self_iff, eq_comm]

theorem taken_put_of_ne (h : category' ≠ category) :
    Taken (ids.put category value dn) category' value' used ↔ Taken ids category' value' used := by
  rw [Taken, put_of_ne h]
  rfl

variable [Runtime]

theorem checkUnique_of_free (h : ¬Taken ids category value dn) :
    checkUnique category shownIn subject value dn ids = .ok () (ids.put category value dn) :=
  if_neg (fun hne => h (getD_ne_iff.mp hne))

theorem checkUnique_of_shown (h : Taken ids category value dn) (hshown : ids shownIn value = some used) :
    checkUnique category shownIn subject value dn ids =
      .error (.uniqueIdError (subject ++ " " ++ reprValue value ++
        " has already been used in this import by " ++ Runtime.repr used ++ ".")) ids := by
  rw [checkUnique, if_pos (getD_ne_iff.mpr h), hshown]

theorem checkUnique_of_lost (h : Taken ids category value dn) (hlost : ids shownIn value = none) :
    checkUnique category shownIn subject value dn ids = .error (.keyError value) ids := by
  rw [checkUnique, if_pos (getD_ne_iff.mpr h), hlost]

/-- A comparison that shows the other user of its own category raises for it. -/
theorem checkUnique_of_taken (subject : String) (h : Taken ids category value dn) :
    ∃ message, checkUnique category category subject value dn ids =
      .error (.uniqueIdError message) ids := by
  have hshown := h
  obtain ⟨used, hused, -⟩ := hshown
  exact ⟨_, checkUnique_of_shown h hused⟩

end Comparison

/-! ## The three comparisons -/

section Three

variable [Runtime] {user : ValidatedUser} {ids ids' : UniqueIds} {v : Validation}

/-- An identifier of the user is registered for another DN. -/
def Conflict (user : ValidatedUser) (ids : UniqueIds) : Prop :=
  Taken ids .recordUid user.recordUid user.dn ∨ Taken ids .name user.name user.dn ∨
    (isGiven user.email = true ∧ Taken ids .email user.email user.dn)

/-- The first comparison raises or none does, or else the identifiers that are compared before are
registered already, and a name that raises is also a record_uid. -/
def Undisturbed (user : ValidatedUser) (ids : UniqueIds) : Prop :=
  Taken ids .recordUid user.recordUid user.dn ∨ ¬Conflict user ids ∨
    (ids .recordUid user.recordUid = some user.dn ∧
      (Taken ids .name user.name user.dn → ids .recordUid user.name ≠ none) ∧
      (¬Taken ids .name user.name user.dn → ids .name user.name = some user.dn))

theorem uniqueness_of_recordUid (h : Taken ids .recordUid v.user.recordUid v.user.dn) :
    ∃ message, v.uniqueness ids = .error (.uniqueIdError message) ids := by
  obtain ⟨message, hmessage⟩ := checkUnique_of_taken "record_uid" h
  exact ⟨message, bind_of_error hmessage⟩

theorem uniqueness_of_free (h : ¬Taken ids .recordUid v.user.recordUid v.user.dn)
    (hcheck : v.checkUsername = true) :
    v.uniqueness ids =
      (v.user.checkName >>= fun _ => if isGiven v.user.email then v.user.checkEmail else pure ())
        (ids.put .recordUid v.user.recordUid v.user.dn) := by
  have hrecord : v.user.checkRecordUid ids =
      .ok () (ids.put .recordUid v.user.recordUid v.user.dn) := checkUnique_of_free h
  rw [Validation.uniqueness, bind_of_ok hrecord, if_pos hcheck]

omit [Runtime] in
theorem taken_name_iff : Taken (ids.put .recordUid user.recordUid user.dn) .name user.name user.dn ↔
    Taken ids .name user.name user.dn := taken_put_of_ne (by decide)

theorem uniqueness_of_shown (h : ¬Taken ids .recordUid v.user.recordUid v.user.dn)
    (hcheck : v.checkUsername = true) (hname : Taken ids .name v.user.name v.user.dn)
    (hshown : ids.put .recordUid v.user.recordUid v.user.dn .recordUid v.user.name ≠ none) :
    ∃ message, v.uniqueness ids =
      .error (.uniqueIdError message) (ids.put .recordUid v.user.recordUid v.user.dn) := by
  obtain ⟨used, hused⟩ := Option.ne_none_iff_exists'.mp hshown
  rw [uniqueness_of_free h hcheck]
  exact ⟨_, bind_of_error (checkUnique_of_shown (taken_name_iff.mpr hname) hused)⟩

theorem uniqueness_of_lost (h : ¬Taken ids .recordUid v.user.recordUid v.user.dn)
    (hcheck : v.checkUsername = true) (hname : Taken ids .name v.user.name v.user.dn)
    (hlost : ids.put .recordUid v.user.recordUid v.user.dn .recordUid v.user.name = none) :
    v.uniqueness ids =
      .error (.keyError v.user.name) (ids.put .recordUid v.user.recordUid v.user.dn) := by
  rw [uniqueness_of_free h hcheck]
  exact bind_of_error (checkUnique_of_lost (taken_name_iff.mpr hname) hlost)

/-- The store in which the record_uid and the name of a user are registered. -/
def UniqueIds.putBoth (ids : UniqueIds) (user : ValidatedUser) : UniqueIds :=
  (ids.put .recordUid user.recordUid user.dn).put .name user.name user.dn

theorem uniqueness_of_name (h : ¬Taken ids .recordUid v.user.recordUid v.user.dn)
    (hcheck : v.checkUsername = true) (hname : ¬Taken ids .name v.user.name v.user.dn) :
    v.uniqueness ids =
      (if isGiven v.user.email then v.user.checkEmail else pure ()) (ids.putBoth v.user) := by
  rw [uniqueness_of_free h hcheck]
  exact bind_of_ok (checkUnique_of_free (fun hput => hname (taken_name_iff.mp hput)))

omit [Runtime] in
theorem taken_email_iff : Taken (ids.putBoth user) .email user.email user.dn ↔
    Taken ids .email user.email user.dn :=
  (taken_put_of_ne (by decide)).trans (taken_put_of_ne (by decide))

theorem uniqueness_of_email (h : ¬Taken ids .recordUid v.user.recordUid v.user.dn)
    (hcheck : v.checkUsername = true) (hname : ¬Taken ids .name v.user.name v.user.dn)
    (hgiven : isGiven v.user.email = true) (hemail : Taken ids .email v.user.email v.user.dn) :
    ∃ message, v.uniqueness ids = .error (.uniqueIdError message) (ids.putBoth v.user) := by
  rw [uniqueness_of_name h hcheck hname, if_pos hgiven]
  exact checkUnique_of_taken _ (taken_email_iff.mpr hemail)

theorem uniqueness_of_no_conflict (h : ¬Conflict v.user ids) (hcheck : v.checkUsername = true) :
    ∃ ids', v.uniqueness ids = .ok () ids' := by
  have hrecord : ¬Taken ids .recordUid v.user.recordUid v.user.dn := fun ht => h (.inl ht)
  have hname : ¬Taken ids .name v.user.name v.user.dn := fun ht => h (.inr (.inl ht))
  rw [uniqueness_of_name hrecord hcheck hname]
  by_cases hgiven : isGiven v.user.email = true
  · have hemail : ¬Taken ids .email v.user.email v.user.dn := fun ht => h (.inr (.inr ⟨hgiven, ht⟩))
    rw [if_pos hgiven]
    exact ⟨_, checkUnique_of_free (fun ht => hemail (taken_email_iff.mp ht))⟩
  · rw [if_neg hgiven]
    exact ⟨_, rfl⟩

omit [Runtime] in
theorem putBoth_eq_self_iff : ids.putBoth user = ids ↔
    ids .recordUid user.recordUid = some user.dn ∧ ids .name user.name = some user.dn := by
  constructor
  · intro h
    have hname : ids .name user.name = some user.dn := by
      rw [← h]
      exact put_self
    have hrecord : ids .recordUid user.recordUid = some user.dn := by
      rw [← h]
      exact (congrFun (put_of_ne (by decide)) _).trans put_self
    exact ⟨hrecord, hname⟩
  · rintro ⟨hrecord, hname⟩
    rw [UniqueIds.putBoth, put_eq_self_iff.mpr hrecord, put_eq_self_iff.mpr hname]

end Three

/-! ## Validations -/

section Runs

variable [Runtime] {config : ValidationConfig} {v : Validation} {ids ids' : UniqueIds}

/-- No check before those of the identifiers raises, and these are made. -/
structure Validation.Reaches (config : ValidationConfig) (v : Validation) : Prop where
  checkUsername : v.checkUsername = true
  inHook : v.user.inHook = false
  username : v.user.usernameError config = none
  earlier : v.earlier = none

/-- The check raises `UniqueIdError` exactly for a conflict, nothing else, and leaves the store as
it is then. -/
structure ChecksUniqueness (config : ValidationConfig) (v : Validation) (ids : UniqueIds) :
    Prop where
  raises : (∃ message ids', v.front config ids = .error (.uniqueIdError message) ids') ↔
    Conflict v.user ids
  only : ∀ e ids', v.front config ids = .error e ids' → ∃ message, e = .uniqueIdError message
  kept : ∀ e ids', v.front config ids = .error e ids' → ids' = ids

theorem front_eq (hreach : v.Reaches config) (hon : config.skipUniqueness = false) :
    v.front config ids = v.uniqueness ids := by
  unfold Validation.front
  rw [if_pos hreach.checkUsername, hreach.username, hreach.earlier, if_pos ⟨hreach.inHook, hon⟩]
  rfl

theorem checksUniqueness_of_raised {message : String}
    (hfront : v.front config ids = .error (.uniqueIdError message) ids') (hconflict : Conflict v.user ids) :
    ChecksUniqueness config v ids ↔ ids' = ids := by
  constructor
  · intro h
    exact h.kept _ _ hfront
  · rintro rfl
    refine ⟨⟨fun _ => hconflict, fun _ => ⟨message, ids', hfront⟩⟩, ?_, ?_⟩
    · intro e ids'' herror
      rw [hfront] at herror
      cases herror
      exact ⟨message, rfl⟩
    · intro e ids'' herror
      rw [hfront] at herror
      cases herror
      rfl

theorem checksUniqueness_of_ok (hfront : v.front config ids = .ok () ids')
    (hconflict : ¬Conflict v.user ids) : ChecksUniqueness config v ids := by
  have hno : ∀ e ids'', v.front config ids ≠ .error e ids'' := by
    intro e ids'' herror
    rw [hfront] at herror
    cases herror
  refine ⟨⟨?_, fun h => absurd h hconflict⟩, ?_, ?_⟩
  · rintro ⟨message, ids'', herror⟩
    exact absurd herror (hno _ _)
  · intro e ids'' herror
    exact absurd herror (hno _ _)
  · intro e ids'' herror
    exact absurd herror (hno _ _)

theorem not_checksUniqueness_of_lost {key : Option String}
    (hfront : v.front config ids = .error (.keyError key) ids') :
    ¬ChecksUniqueness config v ids := by
  intro h
  obtain ⟨message, hmessage⟩ := h.only _ _ hfront
  cases hmessage

/-- Where the name is taken, the record_uid must be registered and the name be a record_uid. -/
theorem checksUniqueness_name (hreach : v.Reaches config) (hon : config.skipUniqueness = false)
    (hrecord : ¬Taken ids .recordUid v.user.recordUid v.user.dn)
    (hname : Taken ids .name v.user.name v.user.dn) :
    ChecksUniqueness config v ids ↔
      ids .recordUid v.user.recordUid = some v.user.dn ∧ ids .recordUid v.user.name ≠ none := by
  have hconflict : Conflict v.user ids := .inr (.inl hname)
  by_cases hshown : ids.put .recordUid v.user.recordUid v.user.dn .recordUid v.user.name = none
  · have hlost := uniqueness_of_lost hrecord hreach.checkUsername hname hshown
    rw [← front_eq hreach hon] at hlost
    refine iff_of_false (not_checksUniqueness_of_lost hlost) ?_
    rintro ⟨hregistered, hne⟩
    rw [put_eq_self_iff.mpr hregistered] at hshown
    exact hne hshown
  · obtain ⟨message, hmessage⟩ := uniqueness_of_shown hrecord hreach.checkUsername hname hshown
    rw [← front_eq hreach hon] at hmessage
    rw [checksUniqueness_of_raised hmessage hconflict, put_eq_self_iff]
    constructor
    · intro hregistered
      rw [put_eq_self_iff.mpr hregistered] at hshown
      exact ⟨hregistered, hshown⟩
    · intro h
      exact h.1

theorem checksUniqueness_step (hreach : v.Reaches config) (hon : config.skipUniqueness = false) :
    ChecksUniqueness config v ids ↔ Undisturbed v.user ids := by
  by_cases hrecord : Taken ids .recordUid v.user.recordUid v.user.dn
  · obtain ⟨message, hmessage⟩ := uniqueness_of_recordUid hrecord
    rw [← front_eq hreach hon] at hmessage
    exact iff_of_true ((checksUniqueness_of_raised hmessage (.inl hrecord)).mpr rfl) (.inl hrecord)
  · by_cases hname : Taken ids .name v.user.name v.user.dn
    · have hconflict : Conflict v.user ids := .inr (.inl hname)
      rw [checksUniqueness_name hreach hon hrecord hname, Undisturbed, or_iff_right hrecord,
        or_iff_right (fun h => h hconflict)]
      constructor
      · rintro ⟨hregistered, hne⟩
        exact ⟨hregistered, fun _ => hne, fun h => absurd hname h⟩
      · rintro ⟨hregistered, hne, -⟩
        exact ⟨hregistered, hne hname⟩
    · by_cases hconflict : Conflict v.user ids
      · obtain ⟨hgiven, hemail⟩ := (hconflict.resolve_left hrecord).resolve_left hname
        obtain ⟨message, hmessage⟩ :=
          uniqueness_of_email hrecord hreach.checkUsername hname hgiven hemail
        rw [← front_eq hreach hon] at hmessage
        rw [checksUniqueness_of_raised hmessage hconflict, putBoth_eq_self_iff, Undisturbed,
          or_iff_right hrecord, or_iff_right (fun h => h hconflict)]
        constructor
        · rintro ⟨hregistered, hnamed⟩
          exact ⟨hregistered, fun h => absurd h hname, fun _ => hnamed⟩
        · rintro ⟨hregistered, -, hnamed⟩
          exact ⟨hregistered, hnamed hname⟩
      · obtain ⟨ids', hok⟩ := uniqueness_of_no_conflict hconflict hreach.checkUsername
        rw [← front_eq hreach hon] at hok
        exact iff_of_true (checksUniqueness_of_ok hok hconflict) (.inr (.inl hconflict))

/-- **The check is consistent in a run** exactly if each user whose identifiers are checked meets a
store that does not disturb it. -/
theorem checksUniqueness_iff (config : ValidationConfig) (hon : config.skipUniqueness = false)
    (validations : List Validation) (ids : UniqueIds) :
    EachCall (Validation.validate config)
        (fun v ids => v.Reaches config → ChecksUniqueness config v ids) validations ids ↔
      EachCall (Validation.validate config)
        (fun v ids => v.Reaches config → Undisturbed v.user ids) validations ids :=
  eachCall_congr (fun _ _ _ => imp_congr_right fun hreach => checksUniqueness_step hreach hon) ids

end Runs

section Example

attribute [local instance] asciiRuntime

def namedUser (recordUid name dn : String) : Validation where
  user := ⟨some recordUid, some name, none, none, dn, false⟩
  checkUsername := true
  earlier := none
  later := none

def importConfig : ValidationConfig := ⟨20, 8, false⟩

/-- A name that is taken at another school, and no record_uid: the message cannot be written, and
the record_uid stays registered. -/
theorem name_lost :
    ¬EachCall (Validation.validate importConfig)
      (fun v ids => v.Reaches importConfig → ChecksUniqueness importConfig v ids)
      [namedUser "r1" "anna" "uid=anna,ou=A", namedUser "r2" "anna" "uid=anna,ou=B"]
      (fun _ _ => none) := by
  rintro ⟨-, h, -⟩
  have hreach : (namedUser "r2" "anna" "uid=anna,ou=B").Reaches importConfig :=
    ⟨rfl, rfl, by decide, rfl⟩
  have hlost : (namedUser "r2" "anna" "uid=anna,ou=B").front importConfig
      (endState ((namedUser "r1" "anna" "uid=anna,ou=A").validate importConfig
        (fun _ _ => none))) = .error (.keyError (some "anna")) _ := rfl
  exact not_checksUniqueness_of_lost hlost (h hreach)

theorem checksUniqueness_same : EachCall (Validation.validate importConfig)
      (fun v ids => v.Reaches importConfig → ChecksUniqueness importConfig v ids)
      [namedUser "r1" "anna" "uid=anna,ou=A"] (fun _ _ => none) ↔
    EachCall (Validation.validate importConfig)
      (fun v ids => v.Reaches importConfig → Undisturbed v.user ids)
      [namedUser "r1" "anna" "uid=anna,ou=A"] (fun _ _ => none) :=
  checksUniqueness_iff importConfig rfl _ _

end Example

end Importer

end Kelvin
