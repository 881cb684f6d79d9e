import Mathlib.Data.List.Sort
import Kelvin.Data.Outcome
import Kelvin.Importer.Configuration

/-!
# The settings of the import that the setup completes

What `setup_configuration` does to the configuration that is read, `_set_username_maxlength` and
`check_mandatory_attributes`.

* `setUsernameMaxLength`, `checkMandatoryAttributes`: the two steps.
* `prepare`: both of them.
* `prepare_iff`: when they succeed, and what they leave of the configuration.
-/

namespace Kelvin

namespace Importer

namespace Configuration

open Json

/-- What the setup has of Python. -/
class SetupRuntime where
  /-- `int` of a text. -/
  toInt : String → Option Int
  /-- A float less an integer. -/
  floatSub : String → Int → String
  /-- What `list.sort` leaves of a list with items that cannot be compared. -/
  unsorted : List Json → List Json
  unsorted_perm : ∀ items, (unsorted items).Perm items

/-- The variables of the UCR that the setup reads. -/
structure Registry where
  /-- `ucsschool/username/max_length`. -/
  usernameMaxLength : Option String
  /-- `ucsschool/ldap/default/userprefix/exam`. -/
  examPrefix : Option String

/-! ## The lengths of user names -/

/-- `a[key]`. -/
def getItem (key : String) : Json → Except ConfigExc Json
  | .obj fields =>
    match field? key fields with
    | some value => .ok value
    | none => .error (.keyError key)
  | _ => .error .typeError

/-- The dictionary after `a.setdefault(key, value)`. -/
def setDefault (key : String) (value : Json) : Json → Except ConfigExc Json
  | .obj fields =>
    match field? key fields with
    | some _ => .ok (.obj fields)
    | none => .ok (.obj (putField key value fields))
  | _ => .error .attributeError

/-- `config["username"]["max_length"][role]`. -/
def getMaxLength (role : String) (config : Json) : Except ConfigExc Json := do
  let username ← getItem "username" config
  let lengths ← getItem "max_length" username
  getItem role lengths

/-- `config["username"].setdefault("max_length", {})`. -/
def addMaxLengths (config : Json) : Except ConfigExc Json := do
  let username ← getItem "username" config
  let username ← setDefault "max_length" (.obj []) username
  setItem "username" username config

/-- `config["username"]["max_length"][role] = value`. -/
def setMaxLength (role : String) (value config : Json) : Except ConfigExc Json := do
  let username ← getItem "username" config
  let lengths ← getItem "max_length" username
  let lengths ← setItem role value lengths
  let username ← setItem "max_length" lengths username
  setItem "username" username config

section Steps

variable [SetupRuntime]

/-- `int(ucr_username_max_length)`. -/
def Registry.maxLength (reg : Registry) : Except ConfigExc Int :=
  match reg.usernameMaxLength with
  | none => .ok 20
  | some text =>
    match SetupRuntime.toInt text with
    | some n => .ok n
    | none => .error .valueError

/-- `len(exam_prefix)`. -/
def Registry.examPrefixLength (reg : Registry) : Int := (reg.examPrefix.getD "exam-").length

/-- `default - length`. -/
def subtract (length : Int) : Json → Except ConfigExc Json
  | .int n => .ok (.int (n - length))
  | .bool b => .ok (.int ((if b then 1 else 0) - length))
  | .float text => .ok (.float (SetupRuntime.floatSub text length))
  | _ => .error .typeError

/-- The length for all users, and the configuration with it. -/
def setDefaultLength (reg : Registry) (config : Json) : Except ConfigExc (Json × Json) :=
  match getMaxLength "default" config with
  | .ok value => .ok (value, config)
  | .error (.keyError _) => do
    let n ← reg.maxLength
    let config ← addMaxLengths config
    let config ← setMaxLength "default" (.int n) config
    .ok (.int n, config)
  | .error e => .error e

/-- The length for students. -/
def setStudentLength (reg : Registry) (default config : Json) : Except ConfigExc Json :=
  match getMaxLength "student" config with
  | .ok _ => .ok config
  | .error (.keyError _) => do
    let student ← subtract reg.examPrefixLength default
    setMaxLength "student" student config
  | .error e => .error e

/-- `_set_username_maxlength`. What it raises comes before the first change. -/
def setUsernameMaxLength (reg : Registry) (config : Json) : Except ConfigExc Json := do
  let (default, config) ← setDefaultLength reg config
  setStudentLength reg default config

/-! ## The mandatory attributes -/

def minimalAttributes : List String :=
  ["firstname", "lastname", "name", "record_uid", "school", "source_uid"]

def text? : Json → Option String
  | .str text => some text
  | _ => none

/-- `list.sort` of a list that holds texts: all items are texts, or some cannot be compared. -/
def sortAttributes (items : List Json) : Except ConfigExc Unit × List Json :=
  match items.mapM text? with
  | some texts => (.ok (), (texts.insertionSort (· ≤ ·)).map .str)
  | none => (.error .typeError, SetupRuntime.unsorted items)

/-- `missing_mandatory_attributes`. -/
def missingAttributes (items : List Json) : List String :=
  minimalAttributes.filter (fun attr => Json.str attr ∉ items)

/-- `check_mandatory_attributes`, with the configuration that it leaves. -/
def checkMandatoryAttributes (config : Json) : Except ConfigExc Unit × Json :=
  match config with
  | .obj fields =>
    match field? "mandatory_attributes" fields with
    | some (.arr items) =>
      let sorted := sortAttributes (items ++ (missingAttributes items).map .str)
      (sorted.1, .obj (putField "mandatory_attributes" (.arr sorted.2) fields))
    | _ => (.ok (), config)
  | _ => (.ok (), config)

/-- Both steps, with the configuration that they leave. -/
def prepare (reg : Registry) (config : Json) : Except ConfigExc Unit × Json :=
  match setUsernameMaxLength reg config with
  | .ok config => checkMandatoryAttributes config
  | .error e => (.error e, config)

end Steps

/-! ## Where the lengths are kept -/

def lengthPath (role : String) : List String := ["username", "max_length", role]

/-- The dictionaries for the lengths: the inner one may be missing. -/
structure KeepsLengths (config : Json) : Prop where
  username : ∃ inner, valueAt ["username"] config = some (.obj inner)
  lengths : ∀ m, valueAt ["username", "max_length"] config = some m → isObj m = true

section Lengths

variable {a c config v value : Json} {fields inner lengths : Members} {k role : String}
  {path : List String}

theorem valueAt_cons_eq_some (h : valueAt (k :: path) a = some v) :
    ∃ fields c, a = .obj fields ∧ field? k fields = some c ∧ valueAt path c = some v := by
  obtain ⟨fields, rfl⟩ | hobj := obj_or_not a
  · rw [valueAt_cons] at h
    obtain ⟨c, hc, hv⟩ := Option.bind_eq_some_iff.mp h
    exact ⟨fields, c, rfl, hc, hv⟩
  · rw [valueAt_below hobj] at h
    cases h

theorem getItem_some (h : field? k fields = some v) : getItem k (.obj fields) = .ok v := by
  rw [getItem, h]

theorem getItem_none (h : field? k fields = none) :
    getItem k (.obj fields) = .error (.keyError k) := by
  rw [getItem, h]

theorem getItem_not_obj (h : isObj a = false) : getItem k a = .error .typeError := by
  cases a with
  | obj fields => cases h
  | _ => rfl

/-- The dictionaries, one in the other. -/
theorem KeepsLengths.members (h : KeepsLengths config) :
    ∃ fields inner, config = .obj fields ∧ field? "username" fields = some (.obj inner) ∧
      (field? "max_length" inner = none ∨
        ∃ lengths, field? "max_length" inner = some (.obj lengths)) := by
  obtain ⟨inner, hinner⟩ := h.username
  obtain ⟨fields, c, rfl, hc, hcv⟩ := valueAt_cons_eq_some hinner
  cases hcv
  refine ⟨fields, inner, rfl, hc, ?_⟩
  cases hm : field? "max_length" inner with
  | none => exact .inl rfl
  | some m =>
    have hobj : isObj m = true := h.lengths m (by
      rw [valueAt_cons, hc, Option.bind_some, valueAt_singleton, hm])
    obtain ⟨lengths, rfl⟩ | hnot := obj_or_not m
    · exact .inr ⟨lengths, rfl⟩
    · rw [hnot] at hobj
      cases hobj

theorem keepsLengths_of_members (hc : field? "username" fields = some (.obj inner))
    (hm : field? "max_length" inner = some (.obj lengths)) : KeepsLengths (.obj fields) where
  username := ⟨inner, by rw [valueAt_singleton, hc]⟩
  lengths := by
    intro m hm'
    rw [valueAt_cons, hc, Option.bind_some, valueAt_singleton, hm] at hm'
    cases hm'
    rfl

theorem valueAt_lengthPath (hc : field? "username" fields = some (.obj inner)) :
    valueAt (lengthPath role) (.obj fields) =
      (field? "max_length" inner).bind (valueAt [role]) := by
  rw [lengthPath, valueAt_cons, hc, Option.bind_some, valueAt_cons]

theorem getMaxLength_of_missing (hc : field? "username" fields = some (.obj inner))
    (hm : field? "max_length" inner = none) :
    getMaxLength role (.obj fields) = .error (.keyError "max_length") := by
  rw [getMaxLength, getItem_some hc]
  show (getItem "max_length" (.obj inner) >>= fun m => getItem role m) = _
  rw [getItem_none hm]
  rfl

theorem getMaxLength_of_lengths (hc : field? "username" fields = some (.obj inner))
    (hm : field? "max_length" inner = some v) :
    getMaxLength role (.obj fields) = getItem role v := by
  rw [getMaxLength, getItem_some hc]
  show (getItem "max_length" (.obj inner) >>= fun m => getItem role m) = _
  rw [getItem_some hm]
  rfl

theorem getItem_eq_ok : getItem k a = .ok v ↔ valueAt [k] a = some v := by
  obtain ⟨fields, rfl⟩ | hobj := obj_or_not a
  · rw [valueAt_singleton, getItem]
    cases field? k fields <;> simp
  · rw [getItem_not_obj hobj, valueAt_below hobj]
    simp

theorem valueAt_cons_bind : valueAt (k :: path) a = (valueAt [k] a).bind (valueAt path) := by
  obtain ⟨fields, rfl⟩ | hobj := obj_or_not a
  · rw [valueAt_cons, valueAt_singleton]
  · rw [valueAt_below hobj, valueAt_below hobj, Option.bind_none]

theorem getMaxLength_eq_ok :
    getMaxLength role config = .ok v ↔ valueAt (lengthPath role) config = some v := by
  rw [lengthPath, valueAt_cons_bind, Option.bind_eq_some_iff, getMaxLength, bind_eq_ok]
  refine exists_congr (fun u => and_congr getItem_eq_ok ?_)
  rw [valueAt_cons_bind, Option.bind_eq_some_iff, bind_eq_ok]
  exact exists_congr (fun m => and_congr getItem_eq_ok getItem_eq_ok)

theorem members_of_length (h : valueAt (lengthPath role) config = some v) :
    ∃ fields inner lengths, config = .obj fields ∧
      field? "username" fields = some (.obj inner) ∧
      field? "max_length" inner = some (.obj lengths) := by
  obtain ⟨fields, c, rfl, hc, hrest⟩ := valueAt_cons_eq_some h
  obtain ⟨inner, m, rfl, hm, hlast⟩ := valueAt_cons_eq_some hrest
  obtain ⟨lengths, v', rfl, -, -⟩ := valueAt_cons_eq_some hlast
  exact ⟨fields, inner, lengths, rfl, hc, hm⟩

theorem keepsLengths_of_length (h : valueAt (lengthPath role) config = some v) :
    KeepsLengths config := by
  obtain ⟨fields, inner, lengths, rfl, hc, hm⟩ := members_of_length h
  exact keepsLengths_of_members hc hm

theorem getMaxLength_none (hkeeps : KeepsLengths config)
    (h : valueAt (lengthPath role) config = none) :
    ∃ k, getMaxLength role config = .error (.keyError k) := by
  obtain ⟨fields, inner, rfl, hc, hm | ⟨lengths, hm⟩⟩ := hkeeps.members
  · exact ⟨"max_length", getMaxLength_of_missing hc hm⟩
  · rw [valueAt_lengthPath hc, hm, Option.bind_some, valueAt_singleton] at h
    exact ⟨role, by rw [getMaxLength_of_lengths hc hm, getItem_none h]⟩

theorem setItem_obj : setItem k v (.obj fields) = .ok (.obj (putField k v fields)) := rfl

/-- With the inner dictionary, no length changes. -/
theorem addMaxLengths_keeps (h : KeepsLengths config) :
    ∃ fields inner lengths, addMaxLengths config = .ok (.obj fields) ∧
      field? "username" fields = some (.obj inner) ∧
      field? "max_length" inner = some (.obj lengths) ∧ Adds [] config (.obj fields) ∧
      ∀ role, valueAt (lengthPath role) config = field? role lengths := by
  obtain ⟨fields, inner, rfl, hc, hm⟩ := h.members
  have hadd : addMaxLengths (.obj fields) = setDefault "max_length" (.obj []) (.obj inner) >>=
      fun u => setItem "username" u (.obj fields) := by
    rw [addMaxLengths, getItem_some hc]
    rfl
  obtain hm | ⟨lengths, hm⟩ := hm
  · refine ⟨putField "username" (.obj (putField "max_length" (.obj []) inner)) fields,
      putField "max_length" (.obj []) inner, [], ?_, field?_putField_self, field?_putField_self,
      (adds_putField_empty hm).lift hc, fun role => ?_⟩
    · rw [hadd, setDefault, hm]
      rfl
    · rw [valueAt_lengthPath hc, hm]
      rfl
  · refine ⟨putField "username" (.obj inner) fields, inner, lengths, ?_, field?_putField_self, hm,
      (Adds.refl (.obj inner)).lift hc, fun role => ?_⟩
    · rw [hadd, setDefault, hm]
      rfl
    · rw [valueAt_lengthPath hc, hm, Option.bind_some, valueAt_singleton]

theorem keepsLengths_of_addMaxLengths (hget : getMaxLength role config = .error (.keyError k))
    (h : addMaxLengths config = .ok c) : KeepsLengths config := by
  obtain ⟨u, hu, h⟩ := bind_eq_ok.mp h
  obtain ⟨u', hu', -⟩ := bind_eq_ok.mp h
  obtain ⟨inner, rfl⟩ | hobj := obj_or_not u
  · obtain ⟨fields, c', rfl, hc, hnil⟩ := valueAt_cons_eq_some (getItem_eq_ok.mp hu)
    cases hnil
    refine ⟨⟨inner, getItem_eq_ok.mp hu⟩, fun m hm => ?_⟩
    rw [valueAt_cons, hc, Option.bind_some, valueAt_singleton] at hm
    rw [getMaxLength_of_lengths hc hm] at hget
    obtain ⟨lengths, rfl⟩ | hobj := obj_or_not m
    · rfl
    · rw [getItem_not_obj hobj] at hget
      cases hget
  · cases u with
    | obj inner => cases hobj
    | _ => cases hu'

theorem setMaxLength_adds (hc : field? "username" fields = some (.obj inner))
    (hm : field? "max_length" inner = some (.obj lengths)) (hrole : field? role lengths = none)
    (hvalue : isObj value = false) :
    ∃ c, setMaxLength role value (.obj fields) = .ok c ∧
      Adds [(lengthPath role, value)] (.obj fields) c ∧
      valueAt (lengthPath role) c = some value ∧
      ∀ other, other ≠ role →
        valueAt (lengthPath other) c = valueAt (lengthPath other) (.obj fields) := by
  have hset : setMaxLength role value (.obj fields) = .ok (.obj (putField "username"
      (.obj (putField "max_length" (.obj (putField role value lengths)) inner)) fields)) := by
    exact bind_eq_ok.mpr ⟨_, getItem_some hc, bind_eq_ok.mpr ⟨_, getItem_some hm, rfl⟩⟩
  refine ⟨_, hset, ((adds_putField hrole hvalue).lift hm).lift hc, ?_, fun other hother => ?_⟩
  · rw [valueAt_lengthPath field?_putField_self, field?_putField_self, Option.bind_some,
      valueAt_singleton, field?_putField_self]
  rw [valueAt_lengthPath hc, valueAt_lengthPath field?_putField_self, hm, field?_putField_self,
    Option.bind_some, Option.bind_some, valueAt_singleton, valueAt_singleton,
    field?_putField_ne hother]

end Lengths

/-! ## The lengths after the setup -/

section Missing

variable {config c d : Json}

/-- A length that the configuration does not have. -/
def missingLength (role : String) (length? : Option Json) (config : Json) :
    List (List String × Json) :=
  if valueAt (lengthPath role) config = none then
    length?.toList.map (fun length => (lengthPath role, length))
  else []

theorem missingLength_given {role : String} {length? : Option Json} {v : Json}
    (h : valueAt (lengthPath role) config = some v) : missingLength role length? config = [] := by
  rw [missingLength, h, if_neg (Option.some_ne_none v)]

theorem missingLength_missing {role : String} (h : valueAt (lengthPath role) config = none) :
    missingLength role (some d) config = [(lengthPath role, d)] := by
  rw [missingLength, if_pos h]
  rfl

variable [SetupRuntime] {reg : Registry}

/-- The length for all users when the setup is through. -/
def defaultLength (reg : Registry) (config : Json) : Option Json :=
  (valueAt (lengthPath "default") config).or (reg.maxLength.toOption.map .int)

/-- The length for students when the setup is through. -/
def studentLength (reg : Registry) (config : Json) : Option Json :=
  (valueAt (lengthPath "student") config).or
    ((defaultLength reg config).bind (fun d => (subtract reg.examPrefixLength d).toOption))

theorem setDefaultLength_of_keeps (h : KeepsLengths config)
    (hlength : defaultLength reg config = some d) :
    ∃ c, setDefaultLength reg config = .ok (d, c) ∧
      Adds (missingLength "default" (some d) config) config c ∧
      valueAt (lengthPath "default") c = some d ∧
      valueAt (lengthPath "student") c = valueAt (lengthPath "student") config := by
  rw [defaultLength] at hlength
  cases hgiven : valueAt (lengthPath "default") config with
  | some v =>
    rw [hgiven, Option.some_or] at hlength
    cases hlength
    refine ⟨config, ?_, ?_, hgiven, rfl⟩
    · rw [setDefaultLength, getMaxLength_eq_ok.mpr hgiven]
    · rw [missingLength_given hgiven]
      exact Adds.refl config
  | none =>
    rw [hgiven, Option.none_or] at hlength
    cases hn : reg.maxLength with
    | error e =>
      rw [hn] at hlength
      cases hlength
    | ok n =>
      rw [hn] at hlength
      cases hlength
      obtain ⟨k, hk⟩ := getMaxLength_none h hgiven
      obtain ⟨fields, inner, lengths, hadd, hc, hm, hsame, hroles⟩ := addMaxLengths_keeps h
      have hvalue : isObj (.int n) = false := rfl
      obtain ⟨c, hset, hadds, hlength, hothers⟩ :=
        setMaxLength_adds hc hm ((hroles "default").symm.trans hgiven) hvalue
      have hstudent : valueAt (lengthPath "student") (.obj fields) =
          valueAt (lengthPath "student") config := by
        rw [valueAt_lengthPath hc, hm, Option.bind_some, valueAt_singleton, hroles "student"]
      refine ⟨c, ?_, ?_, hlength, (hothers "student" (by decide)).trans hstudent⟩
      · rw [setDefaultLength, hk]
        exact bind_eq_ok.mpr ⟨n, hn, bind_eq_ok.mpr ⟨_, hadd, bind_eq_ok.mpr ⟨c, hset, rfl⟩⟩⟩
      · rw [missingLength_missing hgiven]
        exact hsame.trans hadds

theorem setDefaultLength_none (h : KeepsLengths config) (hlength : defaultLength reg config = none) :
    ∃ e, setDefaultLength reg config = .error e := by
  rw [defaultLength, Option.or_eq_none_iff, Option.map_eq_none_iff] at hlength
  obtain ⟨k, hk⟩ := getMaxLength_none h hlength.1
  rw [setDefaultLength, hk]
  cases hn : reg.maxLength with
  | error e => exact ⟨e, rfl⟩
  | ok n =>
    rw [hn] at hlength
    cases hlength.2

theorem keepsLengths_of_setDefaultLength {r : Json × Json}
    (h : setDefaultLength reg config = .ok r) : KeepsLengths config := by
  rw [setDefaultLength] at h
  cases hget : getMaxLength "default" config with
  | ok v => exact keepsLengths_of_length (getMaxLength_eq_ok.mp hget)
  | error e =>
    rw [hget] at h
    cases e with
    | keyError k =>
      obtain ⟨n, -, h⟩ := bind_eq_ok.mp h
      obtain ⟨c, hadd, -⟩ := bind_eq_ok.mp h
      exact keepsLengths_of_addMaxLengths hget hadd
    | _ => cases h

theorem setStudentLength_given {s : Json} (h : valueAt (lengthPath "student") config = some s) :
    setStudentLength reg d config = .ok config := by
  rw [setStudentLength, getMaxLength_eq_ok.mpr h]

theorem isObj_subtract {length : Int} {s : Json} (h : subtract length d = .ok s) :
    isObj s = false := by
  cases d <;> cases h <;> rfl

theorem setStudentLength_error {e : ConfigExc}
    (hdefault : valueAt (lengthPath "default") config = some d)
    (h : valueAt (lengthPath "student") config = none)
    (he : subtract reg.examPrefixLength d = .error e) :
    setStudentLength reg d config = .error e := by
  obtain ⟨k, hk⟩ := getMaxLength_none (keepsLengths_of_length hdefault) h
  rw [setStudentLength, hk]
  show (subtract reg.examPrefixLength d >>= fun s => setMaxLength "student" s config) = _
  rw [he]
  rfl

theorem setStudentLength_missing {s : Json}
    (hdefault : valueAt (lengthPath "default") config = some d)
    (h : valueAt (lengthPath "student") config = none)
    (hs : subtract reg.examPrefixLength d = .ok s) :
    ∃ c, setStudentLength reg d config = .ok c ∧ Adds [(lengthPath "student", s)] config c ∧
      valueAt (lengthPath "default") c = some d ∧ valueAt (lengthPath "student") c = some s := by
  obtain ⟨k, hk⟩ := getMaxLength_none (keepsLengths_of_length hdefault) h
  obtain ⟨fields, inner, lengths, rfl, hc, hm⟩ := members_of_length hdefault
  have hrole : field? "student" lengths = none := by
    rwa [valueAt_lengthPath hc, hm, Option.bind_some, valueAt_singleton] at h
  obtain ⟨c, hset, hadds, hstudent, hothers⟩ := setMaxLength_adds hc hm hrole (isObj_subtract hs)
  refine ⟨c, ?_, hadds, (hothers "default" (by decide)).trans hdefault, hstudent⟩
  rw [setStudentLength, hk]
  exact bind_eq_ok.mpr ⟨s, hs, hset⟩

theorem setUsernameMaxLength_of_lengths {s : Json} (h : KeepsLengths config)
    (hd : defaultLength reg config = some d) (hs : studentLength reg config = some s) :
    ∃ c, setUsernameMaxLength reg config = .ok c ∧
      Adds (missingLength "default" (some d) config ++ missingLength "student" (some s) config)
        config c ∧
      valueAt (lengthPath "default") c = some d ∧ valueAt (lengthPath "student") c = some s := by
  obtain ⟨c, hset, hadds, hdefault, hsame⟩ := setDefaultLength_of_keeps h hd
  have hstudent : setUsernameMaxLength reg config = setStudentLength reg d c := by
    rw [setUsernameMaxLength, hset]
    rfl
  rw [studentLength, hd, Option.bind_some] at hs
  rw [hstudent]
  cases hgiven : valueAt (lengthPath "student") config with
  | some s' =>
    rw [hgiven, Option.some_or] at hs
    cases hs
    refine ⟨c, setStudentLength_given (hsame.trans hgiven), ?_, hdefault, hsame.trans hgiven⟩
    rw [missingLength_given hgiven, List.append_nil]
    exact hadds
  | none =>
    rw [hgiven, Option.none_or] at hs
    cases hsub : subtract reg.examPrefixLength d with
    | error e =>
      rw [hsub] at hs
      cases hs
    | ok s' =>
      rw [hsub] at hs
      cases hs
      obtain ⟨c', hset', hadds', hlengths⟩ :=
        setStudentLength_missing hdefault (hsame.trans hgiven) hsub
      refine ⟨c', hset', ?_, hlengths⟩
      rw [missingLength_missing hgiven]
      exact hadds.trans hadds'

theorem keepsLengths_of_setUsernameMaxLength (h : setUsernameMaxLength reg config = .ok c) :
    KeepsLengths config := by
  obtain ⟨r, hr, -⟩ := bind_eq_ok.mp h
  exact keepsLengths_of_setDefaultLength hr

theorem defaultLength_of_setUsernameMaxLength (h : setUsernameMaxLength reg config = .ok c) :
    defaultLength reg config ≠ none := by
  intro hnone
  obtain ⟨e, he⟩ := setDefaultLength_none (keepsLengths_of_setUsernameMaxLength h) hnone
  obtain ⟨r, hr, -⟩ := bind_eq_ok.mp h
  cases he.symm.trans hr

theorem studentLength_of_setUsernameMaxLength (h : setUsernameMaxLength reg config = .ok c) :
    studentLength reg config ≠ none := by
  intro hnone
  have hkeeps := keepsLengths_of_setUsernameMaxLength h
  obtain ⟨d, hd⟩ := Option.ne_none_iff_exists'.mp (defaultLength_of_setUsernameMaxLength h)
  obtain ⟨c', hset, -, hdefault, hsame⟩ := setDefaultLength_of_keeps hkeeps hd
  rw [studentLength, Option.or_eq_none_iff, hd, Option.bind_some] at hnone
  cases hsub : subtract reg.examPrefixLength d with
  | error e =>
    have he := setStudentLength_error hdefault (hsame.trans hnone.1) hsub
    obtain ⟨r, hr, hlast⟩ := bind_eq_ok.mp h
    cases hset.symm.trans hr
    cases he.symm.trans hlast
  | ok s =>
    rw [hsub] at hnone
    cases hnone.2

/-- The lengths can be set exactly if there are dictionaries for them, and a number to count from
where one is missing. Nothing else changes. -/
theorem setUsernameMaxLength_iff (reg : Registry) (config : Json) :
    ((∃ c, setUsernameMaxLength reg config = .ok c) ↔ KeepsLengths config ∧
      defaultLength reg config ≠ none ∧ studentLength reg config ≠ none) ∧
      ∀ c, setUsernameMaxLength reg config = .ok c →
        Adds (missingLength "default" (defaultLength reg config) config ++
          missingLength "student" (studentLength reg config) config) config c := by
  have hrun : KeepsLengths config → defaultLength reg config ≠ none →
      studentLength reg config ≠ none → ∃ c, setUsernameMaxLength reg config = .ok c ∧
        Adds (missingLength "default" (defaultLength reg config) config ++
          missingLength "student" (studentLength reg config) config) config c := by
    intro hkeeps hdefault hstudent
    obtain ⟨d, hd⟩ := Option.ne_none_iff_exists'.mp hdefault
    obtain ⟨s, hs⟩ := Option.ne_none_iff_exists'.mp hstudent
    rw [hd, hs]
    obtain ⟨c, hset, hadds, -⟩ := setUsernameMaxLength_of_lengths hkeeps hd hs
    exact ⟨c, hset, hadds⟩
  refine ⟨⟨?_, ?_⟩, fun c h => ?_⟩
  · rintro ⟨c, h⟩
    exact ⟨keepsLengths_of_setUsernameMaxLength h, defaultLength_of_setUsernameMaxLength h,
      studentLength_of_setUsernameMaxLength h⟩
  · rintro ⟨hkeeps, hdefault, hstudent⟩
    obtain ⟨c, h, -⟩ := hrun hkeeps hdefault hstudent
    exact ⟨c, h⟩
  · obtain ⟨c', h', hadds⟩ := hrun (keepsLengths_of_setUsernameMaxLength h)
      (defaultLength_of_setUsernameMaxLength h) (studentLength_of_setUsernameMaxLength h)
    cases h.symm.trans h'
    exact hadds

end Missing

/-! ## The mandatory attributes after the setup -/

/-- The items are texts. -/
def AllTexts (items : List Json) : Prop := ∃ texts : List String, items = texts.map .str

/-- The values but the list of the mandatory attributes. -/
def SameBeside (a b : Json) : Prop :=
  ∀ path v, path ≠ ["mandatory_attributes"] → (LeafAt a path v ↔ LeafAt b path v)

section Texts

variable {items items' : List Json} {texts more : List String} {fields : Members} {config : Json}

theorem mapM_text?_eq_some : items.mapM text? = some texts ↔ items = texts.map .str := by
  induction items generalizing texts with
  | nil => simp [eq_comm]
  | cons item items ih =>
    rw [List.mapM_cons]
    cases item with
    | str text =>
      cases texts with
      | nil => simp [text?, Option.bind_eq_some_iff]
      | cons t texts => simp [text?, ih, Option.bind_eq_some_iff, and_comm]
    | _ => cases texts <;> simp [text?]

theorem allTexts_iff : AllTexts items ↔ ∀ item ∈ items, ∃ text, item = .str text := by
  constructor
  · rintro ⟨texts, rfl⟩ item hitem
    obtain ⟨text, -, rfl⟩ := List.mem_map.mp hitem
    exact ⟨text, rfl⟩
  · intro h
    induction items with
    | nil => exact ⟨[], rfl⟩
    | cons item items ih =>
      obtain ⟨⟨text, rfl⟩, hrest⟩ := List.forall_mem_cons.mp h
      obtain ⟨texts, rfl⟩ := ih hrest
      exact ⟨text :: texts, rfl⟩

theorem AllTexts.perm (h : AllTexts items) (hperm : items.Perm items') : AllTexts items' :=
  allTexts_iff.mpr (fun item hitem => allTexts_iff.mp h item (hperm.mem_iff.mpr hitem))

theorem allTexts_append : AllTexts (items ++ more.map .str) ↔ AllTexts items := by
  constructor
  · rintro ⟨texts, h⟩
    obtain ⟨front, back, rfl, hfront, -⟩ := List.append_eq_map_iff.mp h
    exact ⟨front, hfront.symm⟩
  · rintro ⟨texts, rfl⟩
    exact ⟨texts ++ more, by rw [List.map_append]⟩

theorem mem_missingAttributes {t : String} :
    t ∈ missingAttributes items ↔ t ∈ minimalAttributes ∧ Json.str t ∉ items := by
  rw [missingAttributes, List.mem_filter, decide_eq_true_iff]

/-- Another list under the key. -/
theorem sameBeside_putField {l : List Json}
    (h : field? "mandatory_attributes" fields = some (.arr items)) :
    SameBeside (.obj (putField "mandatory_attributes" (.arr l) fields)) (.obj fields) := by
  intro path v hpath
  cases path with
  | nil => simp [not_leafAt_obj]
  | cons k path =>
    by_cases hk : k = "mandatory_attributes"
    · subst hk
      rw [leafAt_putField_self, leafAt_cons_of_field? h]
      cases path with
      | nil => exact absurd rfl hpath
      | cons k path => simp [not_leafAt_below (show isObj (.arr _) = false from rfl)]
    · exact leafAt_putField_ne hk

theorem list_or_not (config : Json) :
    (∃ fields items, config = .obj fields ∧
      field? "mandatory_attributes" fields = some (.arr items)) ∨
      ∀ items, valueAt ["mandatory_attributes"] config ≠ some (.arr items) := by
  by_cases h : ∃ items, valueAt ["mandatory_attributes"] config = some (.arr items)
  · obtain ⟨items, hlist⟩ := h
    obtain ⟨fields, c, rfl, hc, hnil⟩ := valueAt_cons_eq_some hlist
    cases hnil
    exact .inl ⟨fields, items, rfl, hc⟩
  · exact .inr (not_exists.mp h)

end Texts

section Mandatory

variable [SetupRuntime] {reg : Registry} {config v : Json} {items : List Json} {texts : List String}
  {fields : Members} {path : List String}

theorem sortAttributes_texts :
    sortAttributes (texts.map .str) = (.ok (), (texts.insertionSort (· ≤ ·)).map .str) := by
  rw [sortAttributes, mapM_text?_eq_some.mpr rfl]

theorem sortAttributes_of_not (h : ¬ AllTexts items) :
    sortAttributes items = (.error .typeError, SetupRuntime.unsorted items) := by
  rw [sortAttributes]
  cases hm : items.mapM text? with
  | none => rfl
  | some texts => exact absurd ⟨texts, mapM_text?_eq_some.mp hm⟩ h

theorem checkMandatoryAttributes_list
    (h : field? "mandatory_attributes" fields = some (.arr items)) :
    checkMandatoryAttributes (.obj fields) =
      ((sortAttributes (items ++ (missingAttributes items).map .str)).1,
        .obj (putField "mandatory_attributes"
          (.arr (sortAttributes (items ++ (missingAttributes items).map .str)).2) fields)) := by
  rw [checkMandatoryAttributes, h]

/-- Without a list there is nothing to do. -/
theorem checkMandatoryAttributes_no_list
    (h : ∀ items, valueAt ["mandatory_attributes"] config ≠ some (.arr items)) :
    checkMandatoryAttributes config = (.ok (), config) := by
  cases config with
  | obj fields =>
    rw [checkMandatoryAttributes]
    cases hm : field? "mandatory_attributes" fields with
    | none => rfl
    | some m =>
      cases m with
      | arr items => exact absurd (by rw [valueAt_singleton, hm]) (h items)
      | _ => rfl
  | _ => rfl

theorem sortAttributes_ok_iff : (sortAttributes items).1 = .ok () ↔ AllTexts items := by
  by_cases h : AllTexts items
  · obtain ⟨texts, rfl⟩ := h
    rw [sortAttributes_texts]
    exact ⟨fun _ => ⟨texts, rfl⟩, fun _ => rfl⟩
  · rw [sortAttributes_of_not h]
    exact ⟨fun herror => (by cases herror), fun htexts => absurd htexts h⟩

theorem checkMandatoryAttributes_ok_iff : (checkMandatoryAttributes config).1 = .ok () ↔
    ∀ items, valueAt ["mandatory_attributes"] config = some (.arr items) → AllTexts items := by
  obtain ⟨fields, items, rfl, hlist⟩ | hno := list_or_not config
  · rw [checkMandatoryAttributes_list hlist, sortAttributes_ok_iff, allTexts_append,
      valueAt_singleton, hlist]
    simp
  · rw [checkMandatoryAttributes_no_list hno]
    exact ⟨fun _ items hitems => absurd hitems (hno items), fun _ => rfl⟩

theorem sameBeside_checkMandatoryAttributes :
    SameBeside (checkMandatoryAttributes config).2 config := by
  obtain ⟨fields, items, rfl, hlist⟩ | hno := list_or_not config
  · rw [checkMandatoryAttributes_list hlist]
    exact sameBeside_putField hlist
  · rw [checkMandatoryAttributes_no_list hno]
    exact fun _ _ _ => Iff.rfl

/-- A list that is sorted, of the attributes that were there and the minimal ones. -/
theorem checkMandatoryAttributes_sorted
    (hlist : valueAt ["mandatory_attributes"] config = some (.arr items)) (htexts : AllTexts items) :
    ∃ sorted : List String,
      valueAt ["mandatory_attributes"] (checkMandatoryAttributes config).2 =
        some (.arr (sorted.map .str)) ∧ sorted.Pairwise (· ≤ ·) ∧
      ∀ t, t ∈ sorted ↔ Json.str t ∈ items ∨ t ∈ minimalAttributes := by
  obtain ⟨fields, c, rfl, hc, hnil⟩ := valueAt_cons_eq_some hlist
  cases hnil
  obtain ⟨texts, rfl⟩ := htexts
  rw [checkMandatoryAttributes_list hc, ← List.map_append, sortAttributes_texts, valueAt_singleton,
    field?_putField_self]
  refine ⟨_, rfl, List.pairwise_insertionSort _ _, fun t => ?_⟩
  rw [List.mem_insertionSort, List.mem_append, mem_missingAttributes]
  have hmem : Json.str t ∈ texts.map Json.str ↔ t ∈ texts := by simp
  rw [hmem]
  tauto

theorem checkMandatoryAttributes_error
    (hlist : valueAt ["mandatory_attributes"] config = some (.arr items)) (h : ¬ AllTexts items) :
    (checkMandatoryAttributes config).1 = .error .typeError ∧ ∃ left,
      valueAt ["mandatory_attributes"] (checkMandatoryAttributes config).2 = some (.arr left) ∧
        ¬ AllTexts left := by
  obtain ⟨fields, c, rfl, hc, hnil⟩ := valueAt_cons_eq_some hlist
  cases hnil
  have hnot : ¬ AllTexts (items ++ (missingAttributes items).map .str) :=
    fun h' => h (allTexts_append.mp h')
  rw [checkMandatoryAttributes_list hc, sortAttributes_of_not hnot, valueAt_singleton,
    field?_putField_self]
  exact ⟨rfl, _, rfl, fun h' => hnot (h'.perm (SetupRuntime.unsorted_perm _))⟩

theorem exists_list_of_error {e : ConfigExc} (h : (checkMandatoryAttributes config).1 = .error e) :
    ∃ items, valueAt ["mandatory_attributes"] config = some (.arr items) ∧ ¬ AllTexts items := by
  have hnot : ¬ ∀ items, valueAt ["mandatory_attributes"] config = some (.arr items) →
      AllTexts items := by
    rw [← checkMandatoryAttributes_ok_iff, h]
    intro hok
    cases hok
  obtain ⟨items, hitems⟩ := not_forall.mp hnot
  exact ⟨items, Classical.not_imp.mp hitems⟩

/-- A list that could not be sorted cannot be sorted the next time. -/
theorem checkMandatoryAttributes_again {e : ConfigExc}
    (h : (checkMandatoryAttributes config).1 = .error e) :
    (checkMandatoryAttributes (checkMandatoryAttributes config).2).1 = .error e := by
  obtain ⟨items, hlist, htexts⟩ := exists_list_of_error h
  obtain ⟨herror, left, hleft, hleft'⟩ := checkMandatoryAttributes_error hlist htexts
  rw [(checkMandatoryAttributes_error hleft hleft').1, ← herror, h]

end Mandatory

/-! ## Both steps -/

section Prepare

variable {config v : Json} {path : List String}

theorem mem_missingLength {role : String} {length? : Option Json} :
    (path, v) ∈ missingLength role length? config ↔
      path = lengthPath role ∧ valueAt (lengthPath role) config = none ∧ length? = some v := by
  rw [missingLength]
  by_cases h : valueAt (lengthPath role) config = none
  · rw [if_pos h]
    cases length? with
    | none => simp
    | some length => simp [h, eq_comm]
  · rw [if_neg h]
    simp [h]

variable [SetupRuntime] {reg : Registry}

/-- The lengths that the setup adds. -/
def missingLengths (reg : Registry) (config : Json) : List (List String × Json) :=
  missingLength "default" (defaultLength reg config) config ++
    missingLength "student" (studentLength reg config) config

theorem mem_missingLengths : (path, v) ∈ missingLengths reg config ↔
    (path = lengthPath "default" ∧ valueAt (lengthPath "default") config = none ∧
      defaultLength reg config = some v) ∨
    (path = lengthPath "student" ∧ valueAt (lengthPath "student") config = none ∧
      studentLength reg config = some v) := by
  rw [missingLengths, List.mem_append, mem_missingLength, mem_missingLength]

theorem valueAt_mandatory {c : Json} {items : List Json} (h : Adds (missingLengths reg config) config c) :
    valueAt ["mandatory_attributes"] c = some (.arr items) ↔
      valueAt ["mandatory_attributes"] config = some (.arr items) := by
  have hnew : (["mandatory_attributes"], Json.arr items) ∉ missingLengths reg config := by
    rw [mem_missingLengths]
    rintro (⟨hpath, -⟩ | ⟨hpath, -⟩)
    · exact absurd hpath (by decide)
    · exact absurd hpath (by decide)
  have hleaf := h ["mandatory_attributes"] (.arr items)
  rw [or_iff_left hnew] at hleaf
  exact ⟨fun hv => (hleaf.mp ⟨hv, rfl⟩).1, fun hv => (hleaf.mpr ⟨hv, rfl⟩).1⟩

theorem prepare_of_ok {c : Json} (h : setUsernameMaxLength reg config = .ok c) :
    prepare reg config = checkMandatoryAttributes c := by
  rw [prepare, h]

theorem prepare_of_error {e : ConfigExc} (h : setUsernameMaxLength reg config = .error e) :
    prepare reg config = (.error e, config) := by
  rw [prepare, h]

/-- A setup that succeeds sets the lengths first. -/
theorem exists_of_prepare (h : (prepare reg config).1 = .ok ()) :
    ∃ c, setUsernameMaxLength reg config = .ok c ∧ (checkMandatoryAttributes c).1 = .ok () ∧
      prepare reg config = checkMandatoryAttributes c := by
  cases hset : setUsernameMaxLength reg config with
  | error e =>
    rw [prepare_of_error hset] at h
    cases h
  | ok c => exact ⟨c, rfl, prepare_of_ok hset ▸ h, prepare_of_ok hset⟩

/-- The setup succeeds exactly if the lengths can be set and the attributes can be sorted. It adds
the lengths that are missing, sorts the attributes with the minimal ones among them, and changes
nothing else. -/
theorem prepare_iff (reg : Registry) (config : Json) :
    ((prepare reg config).1 = .ok () ↔ (KeepsLengths config ∧ defaultLength reg config ≠ none ∧
      studentLength reg config ≠ none) ∧
      ∀ items, valueAt ["mandatory_attributes"] config = some (.arr items) → AllTexts items) ∧
    ((prepare reg config).1 = .ok () →
      (∀ path v, (path = ["mandatory_attributes"] →
        ∀ items, valueAt ["mandatory_attributes"] config ≠ some (.arr items)) →
        (LeafAt (prepare reg config).2 path v ↔
          LeafAt config path v ∨ (path, v) ∈ missingLengths reg config)) ∧
      ∀ items, valueAt ["mandatory_attributes"] config = some (.arr items) →
        ∃ sorted : List String, valueAt ["mandatory_attributes"] (prepare reg config).2 =
          some (.arr (sorted.map .str)) ∧ sorted.Pairwise (· ≤ ·) ∧
          ∀ t, t ∈ sorted ↔ Json.str t ∈ items ∨ t ∈ minimalAttributes) := by
  have hlengths := setUsernameMaxLength_iff reg config
  refine ⟨⟨fun h => ?_, ?_⟩, fun h => ?_⟩
  · obtain ⟨c, hset, hcheck, -⟩ := exists_of_prepare h
    refine ⟨hlengths.1.mp ⟨c, hset⟩, fun items hitems => ?_⟩
    exact checkMandatoryAttributes_ok_iff.mp hcheck items
      ((valueAt_mandatory (hlengths.2 c hset)).mpr hitems)
  · rintro ⟨hset, htexts⟩
    obtain ⟨c, hset⟩ := hlengths.1.mpr hset
    rw [prepare_of_ok hset, checkMandatoryAttributes_ok_iff]
    exact fun items hitems => htexts items ((valueAt_mandatory (hlengths.2 c hset)).mp hitems)
  · obtain ⟨c, hset, hcheck, heq⟩ := exists_of_prepare h
    have hadds : Adds (missingLengths reg config) config c := hlengths.2 c hset
    rw [heq]
    refine ⟨fun path v hpath => ?_, fun items hitems => ?_⟩
    · rw [← hadds path v]
      by_cases hmandatory : path = ["mandatory_attributes"]
      · have hno : ∀ items, valueAt ["mandatory_attributes"] c ≠ some (.arr items) :=
          fun items hitems => hpath hmandatory items ((valueAt_mandatory hadds).mp hitems)
        rw [checkMandatoryAttributes_no_list hno]
      · exact sameBeside_checkMandatoryAttributes path v hmandatory
    · have hlist := (valueAt_mandatory hadds).mpr hitems
      exact checkMandatoryAttributes_sorted hlist
        (checkMandatoryAttributes_ok_iff.mp hcheck items hlist)

end Prepare

/-- Texts as the demo has them are no numbers, and its lists can be sorted. -/
@[reducible] def demoRuntime : SetupRuntime where
  toInt := String.toInt?
  floatSub text _ := text
  unsorted items := items
  unsorted_perm := List.Perm.refl

/-- Twenty characters for all users, less the five of `exam-` for students. -/
theorem prepare_demo :
    LeafAt (@prepare demoRuntime ⟨none, none⟩ (.obj demoDefaults)).2
        ["username", "max_length", "student"] (.int 15) ∧
      ∃ sorted : List String, valueAt ["mandatory_attributes"]
          (@prepare demoRuntime ⟨none, none⟩ (.obj demoDefaults)).2 =
        some (.arr (sorted.map .str)) ∧ sorted.Pairwise (· ≤ ·) ∧
        ∀ t, t ∈ sorted ↔
          Json.str t ∈ [Json.str "mailPrimaryAddress"] ∨ t ∈ minimalAttributes := by
  have hdone := (@prepare_iff demoRuntime ⟨none, none⟩ (.obj demoDefaults)).2 rfl
  refine ⟨(hdone.1 _ _ (fun h => absurd h (by decide))).mpr (.inr ?_), hdone.2 _ rfl⟩
  exact (@mem_missingLengths _ _ _ demoRuntime _).mpr (.inr ⟨rfl, rfl, rfl⟩)

/-! ## The setup once more -/

section Again

variable [SetupRuntime] {reg : Registry} {config : Json}

theorem setUsernameMaxLength_given {d s : Json}
    (hd : valueAt (lengthPath "default") config = some d)
    (hs : valueAt (lengthPath "student") config = some s) :
    setUsernameMaxLength reg config = .ok config := by
  have hdefault : setDefaultLength reg config = .ok (d, config) := by
    rw [setDefaultLength, getMaxLength_eq_ok.mpr hd]
  exact bind_eq_ok.mpr ⟨(d, config), hdefault, setStudentLength_given hs⟩

theorem lengths_of_setUsernameMaxLength {c : Json} (h : setUsernameMaxLength reg config = .ok c) :
    ∃ d s, valueAt (lengthPath "default") c = some d ∧ valueAt (lengthPath "student") c = some s := by
  obtain ⟨d, hd⟩ := Option.ne_none_iff_exists'.mp (defaultLength_of_setUsernameMaxLength h)
  obtain ⟨s, hs⟩ := Option.ne_none_iff_exists'.mp (studentLength_of_setUsernameMaxLength h)
  obtain ⟨c', hset, -, hlengths⟩ :=
    setUsernameMaxLength_of_lengths (keepsLengths_of_setUsernameMaxLength h) hd hs
  cases h.symm.trans hset
  exact ⟨d, s, hlengths⟩

theorem valueAt_checkMandatoryAttributes {role : String} :
    valueAt (lengthPath role) (checkMandatoryAttributes config).2 =
      valueAt (lengthPath role) config := by
  obtain ⟨fields, items, rfl, hlist⟩ | hno := list_or_not config
  · rw [checkMandatoryAttributes_list hlist, lengthPath, valueAt_cons, valueAt_cons,
      field?_putField_ne (by decide)]
  · rw [checkMandatoryAttributes_no_list hno]

/-- A setup that fails fails in the same way on what it leaves. -/
theorem prepare_again {e : ConfigExc} (h : (prepare reg config).1 = .error e) :
    (prepare reg (prepare reg config).2).1 = .error e := by
  cases hset : setUsernameMaxLength reg config with
  | error e' =>
    rw [prepare_of_error hset] at h ⊢
    rwa [prepare_of_error hset]
  | ok c =>
    obtain ⟨d, s, hd, hs⟩ := lengths_of_setUsernameMaxLength hset
    rw [prepare_of_ok hset] at h ⊢
    rw [← valueAt_checkMandatoryAttributes] at hd hs
    rw [prepare_of_ok (setUsernameMaxLength_given hd hs)]
    exact checkMandatoryAttributes_again h

end Again

/-! ## What the setup raises -/

section Raises

variable {α β : Type} {x : Except ConfigExc α} {f : α → Except ConfigExc β}

/-- Exceptions of the import are not raised. -/
def PythonOnly (x : Except ConfigExc α) : Prop := ∀ message, x ≠ .error (.importError message)

theorem PythonOnly.bind (hx : PythonOnly x) (hf : ∀ a, PythonOnly (f a)) : PythonOnly (x >>= f) := by
  cases x with
  | error e => exact fun message h => hx message (congrArg Except.error (Except.error.inj h))
  | ok a => exact hf a

theorem pythonOnly_ok (a : α) : PythonOnly (Except.ok a) := by
  intro message h
  cases h

variable {a v config : Json} {k role : String}

theorem pythonOnly_getItem : PythonOnly (getItem k a) := by
  intro message h
  cases a with
  | obj fields =>
    rw [getItem] at h
    cases hk : field? k fields <;> rw [hk] at h <;> cases h
  | _ => cases h

theorem pythonOnly_setItem : PythonOnly (setItem k v a) := by
  intro message h
  cases a <;> cases h

theorem pythonOnly_setDefault : PythonOnly (setDefault k v a) := by
  intro message h
  cases a with
  | obj fields =>
    rw [setDefault] at h
    cases hk : field? k fields <;> rw [hk] at h <;> cases h
  | _ => cases h

theorem pythonOnly_getMaxLength : PythonOnly (getMaxLength role config) :=
  pythonOnly_getItem.bind (fun _ => pythonOnly_getItem.bind (fun _ => pythonOnly_getItem))

theorem pythonOnly_addMaxLengths : PythonOnly (addMaxLengths config) :=
  pythonOnly_getItem.bind (fun _ => pythonOnly_setDefault.bind (fun _ => pythonOnly_setItem))

theorem pythonOnly_setMaxLength : PythonOnly (setMaxLength role v config) :=
  pythonOnly_getItem.bind (fun _ => pythonOnly_getItem.bind (fun _ =>
    pythonOnly_setItem.bind (fun _ => pythonOnly_setItem.bind (fun _ => pythonOnly_setItem))))

variable [SetupRuntime] {reg : Registry}

theorem pythonOnly_maxLength : PythonOnly reg.maxLength := by
  intro message h
  rw [Registry.maxLength] at h
  split at h
  · cases h
  · split at h <;> cases h

theorem pythonOnly_subtract {length : Int} : PythonOnly (subtract length v) := by
  intro message h
  cases v <;> cases h

theorem pythonOnly_setDefaultLength : PythonOnly (setDefaultLength reg config) := by
  rw [setDefaultLength]
  cases hget : getMaxLength "default" config with
  | ok v => exact pythonOnly_ok _
  | error e =>
    cases e with
    | keyError k =>
      exact pythonOnly_maxLength.bind (fun n => pythonOnly_addMaxLengths.bind (fun _ =>
        pythonOnly_setMaxLength.bind (fun _ => pythonOnly_ok _)))
    | importError message => exact absurd hget (pythonOnly_getMaxLength message)
    | _ =>
      intro message h
      cases h

theorem pythonOnly_setStudentLength : PythonOnly (setStudentLength reg v config) := by
  rw [setStudentLength]
  cases hget : getMaxLength "student" config with
  | ok s => exact pythonOnly_ok _
  | error e =>
    cases e with
    | keyError k => exact pythonOnly_subtract.bind (fun _ => pythonOnly_setMaxLength)
    | importError message => exact absurd hget (pythonOnly_getMaxLength message)
    | _ =>
      intro message h
      cases h

theorem pythonOnly_prepare : PythonOnly (prepare reg config).1 := by
  cases hset : setUsernameMaxLength reg config with
  | error e =>
    have hpython : PythonOnly (setUsernameMaxLength reg config) :=
      pythonOnly_setDefaultLength.bind (fun _ => pythonOnly_setStudentLength)
    rw [prepare_of_error hset]
    intro message h
    cases h
    exact hpython message hset
  | ok c =>
    rw [prepare_of_ok hset]
    intro message h
    obtain ⟨items, hlist, htexts⟩ := exists_list_of_error h
    cases h.symm.trans (checkMandatoryAttributes_error hlist htexts).1

end Raises

end Configuration

end Importer

end Kelvin
