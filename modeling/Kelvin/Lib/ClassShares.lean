import Kelvin.Api.ResourceUrls
import Kelvin.Data.Effects
import Kelvin.Data.Table
import Kelvin.Importer.DryRun

/-!
# Classes and their shares

`SchoolClass` and `ClassShare` of the lib (`group.py`, `share.py`). A class and its share are two
objects of the directory, which are saved one after the other.

* `PosixPath.join_split`: a path with another last part.
* `Directory`: the classes and the shares, by the form of their names.
* `SchoolClass.create`, `SchoolClass.modify`, `SchoolClass.remove`: what the lib does to both.
* `ClassModel`: the operations of the lib on a state.
* `Register`: one table of classes, in which the share is a part of the class.
* `lib_refines`: the lib on the directory of a register does what the register does.
-/

namespace Kelvin

/-! ## Paths -/

namespace PosixPath

/-- `os.path.split`. -/
def split (path : List Char) : List Char × List Char :=
  let head := path.rdropWhile (· ≠ '/')
  let tail := path.rtakeWhile (· ≠ '/')
  (if head.all (· = '/') then head else head.rdropWhile (· = '/'), tail)

/-- `os.path.join`. -/
def join (head tail : List Char) : List Char :=
  if tail.head? = some '/' then tail
  else if head = [] ∨ head.getLast? = some '/' then head ++ tail
  else head ++ '/' :: tail

section

variable {dir name new : List Char}

end

end PosixPath

/-! ## Names -/

/-- `[\w -.’]`, with a range from the space to the full stop. -/
def gidChar [WordChars] (c : Char) : Bool := WordChars.isWord c || (' ' ≤ c && c ≤ '.') || c == '’'

/-- `^\w([\w -.’]*\w)?$`. -/
def gidRegex [WordChars] : Regex :=
  .seq (.one WordChars.isWord)
    (.seq (.opt (.seq (.many gidChar) (.one WordChars.isWord))) .lineEnd)

/-- `[a-zA-Z0-9._ -]`. -/
def shareNameChar (c : Char) : Bool := asciiAlnum c || decide (c ∈ ['.', '_', ' ', '-'])

/-- `(^[a-zA-Z0-9])[a-zA-Z0-9._ -]*([a-zA-Z0-9]$)`. -/
def shareNameRegex : Regex :=
  .seq (.one asciiAlnum) (.seq (.many shareNameChar) (.seq (.one asciiAlnum) .lineEnd))

/-- `gid.parse`. -/
def Gid.parse [WordChars] (text : String) : Except Exc Unit :=
  check (gidRegex.Matches text.toList)
    ("A group name must start and end with a letter, number or underscore. In between " ++
      "additionally spaces, dashes and dots are allowed.")

/-- `string_numbers_letters_dots_spaces.parse`. -/
def StringNumbersLettersDotsSpaces.parse (text : String) : Except Exc Unit :=
  check (shareNameRegex.Matches text.toList)
    ("Value must not contain anything other than digits, letters, dots or spaces, must be at " ++
      "least 2 characters long, and start and end with a digit or letter!")

section Names

variable [DnEscaping]

/-- `SchoolClassName.validate`. The share of a class has its name. -/
def SchoolClassName.validate [WordChars] (value : String) : Except Exc Unit := do
  Gid.parse value
  StringNumbersLettersDotsSpaces.parse value
  CommonName.validate value

/-- `ShareName.validate`. -/
def ShareName.validate (value : String) : Except Exc Unit := do
  StringNumbersLettersDotsSpaces.parse value
  CommonName.validate value

variable [WordChars]

/-- A validator of names only raises `ValueError`. -/
theorem SchoolClassName.validate_cases (value : String) :
    SchoolClassName.validate value = .ok () ∨
      ∃ message, SchoolClassName.validate value = .error (.valueError message) := by
  unfold SchoolClassName.validate Gid.parse StringNumbersLettersDotsSpaces.parse CommonName.validate
    check require
  split_ifs
  · exact .inl rfl
  all_goals exact .inr ⟨_, rfl⟩

theorem ShareName.validate_of_class {value : String} (h : SchoolClassName.validate value = .ok ()) :
    ShareName.validate value = .ok () := by
  simp only [SchoolClassName.validate, Gid.parse, check, require_bind_eq_ok] at h
  exact h.2

end Names

/-- The name of a share is one part of a path. -/
theorem shareNameRegex_noSlash {text : List Char} (h : shareNameRegex.Matches text) :
    '/' ∉ text := by
  rw [Regex.matches_iff] at h
  simp only [shareNameRegex, Regex.mem_rests_seq, Regex.mem_rests_one, Regex.mem_rests_many,
    Regex.mem_rests_lineEnd] at h
  obtain ⟨_, _, ⟨first, hfirst, rfl⟩, _, ⟨inner, rfl, hinner⟩, _, ⟨last, hlast, rfl⟩, rfl, hend⟩ := h
  have hslash : asciiAlnum '/' = false := by decide
  have hinside : shareNameChar '/' = false := by decide
  intro hmem
  rcases List.mem_cons.mp hmem with rfl | hmem
  · exact absurd (hslash.symm.trans hfirst) Bool.false_ne_true
  rcases List.mem_append.mp hmem with hmem | hmem
  · exact absurd (hinside.symm.trans (hinner _ hmem)) Bool.false_ne_true
  rcases List.mem_cons.mp hmem with rfl | hmem
  · exact absurd (hslash.symm.trans hlast) Bool.false_ne_true
  rcases hend with rfl | rfl
  · cases hmem
  · exact absurd hmem (by decide)

theorem ShareName.noSlash [DnEscaping] {value : String} (h : ShareName.validate value = .ok ()) :
    '/' ∉ value.toList := by
  simp only [ShareName.validate, StringNumbersLettersDotsSpaces.parse, check,
    require_bind_eq_ok] at h
  exact shareNameRegex_noSlash h.1

namespace ClassShares

open Effects Importer

/-! ## The directory -/

/-- The form under which the directory keeps a name. -/
def key [CnComparison] (name : String) : String := String.ofList (CnComparison.form name.toList)

/-- A stored class. The attributes are its description, its users, its roles and its properties. -/
structure SchoolClass (α : Type) where
  name : String
  school : String
  gidNumber : Nat
  attributes : α
deriving DecidableEq

/-- A stored share of a class. -/
structure ClassShare where
  name : String
  school : String
  host : String
  path : String
  sambaName : String
  sambaForceGroup : String
  group : Nat
deriving DecidableEq

@[ext]
structure Directory (α : Type) where
  classes : Table String (SchoolClass α)
  shares : Table String ClassShare

/-- What a saved object may raise. Another exception than that for its properties is raised as it
is. -/
inductive SaveError where
  | udmProperties (message : String)
  | udm (message : String)
deriving DecidableEq

inductive Failure where
  | http (status : Nat) (detail : String)
  /-- `ValidationError` of the lib, with the attributes and their errors. -/
  | validation (errors : List (String × String))
  | valueError (message : String)
  | attributeError (message : String)
  | save (error : SaveError)
deriving DecidableEq

/-- What a request meets besides the classes and their shares. -/
structure Circumstances where
  /-- The first result of `search_schools_in_ldap`. -/
  ouName : Option String
  /-- What `validate` finds besides the name of a class. -/
  classErrors : List (String × String)
  shareErrors : List (String × String)
  /-- What prevents that the class is saved. -/
  classSave : Option SaveError
  shareSave : Option SaveError
  /-- The number of a new group. -/
  gidNumber : Nat
  /-- `get_server_fqdn`. -/
  host : String

/-- The texts of classes. -/
class ClassTexts where
  /-- `repr` of a class, by its school and its name. -/
  reprClass : String → String → String
  /-- `str` of the errors of an object. -/
  errorsText : List (String × String) → String

section Lib

variable {α σ : Type} [CnComparison] [WordChars] [DnEscaping] [ClassTexts] (roleshare : Bool)
  (c : Circumstances)

/-! ## Steps -/

def raising (result : Except Failure Unit) : EStateM Failure σ Unit :=
  match result with
  | .ok () => pure ()
  | .error e => throw e

def saving (fault : Option SaveError) : EStateM Failure σ Unit :=
  match fault with
  | none => pure ()
  | some e => throw (.save e)

/-- The error of an attribute. -/
def errorsOf (field : String) : Except Exc Unit → List (String × String)
  | .error (.valueError message) => [(field, message)]
  | _ => []

/-- `SchoolClass.validate`, and the errors that are raised after it. -/
def validateClass (school name : String) : Except Failure Unit :=
  if ¬ (school ++ "-").toList <+: name.toList then
    .error (.valueError ("Missing school prefix in name: " ++ ClassTexts.reprClass school name ++ "."))
  else
    let errors := errorsOf "name" (SchoolClassName.validate name) ++ c.classErrors
    if errors = [] then .ok () else .error (.validation errors)

/-- `validate` of a share, and the errors that are raised after it. -/
def validateShare (name : String) : Except Failure Unit :=
  let errors := errorsOf "name" (ShareName.validate name) ++ c.shareErrors
  if errors = [] then .ok () else .error (.validation errors)

/-! ## Shares -/

/-- `get_share_path`. -/
def getSharePath (school name : String) : String :=
  if roleshare then "/home/" ++ school ++ "/groups/klassen/" ++ name
  else "/home/groups/klassen/" ++ name

/-- The share that `do_create` saves. -/
def newShare (host school name : String) (gidNumber : Nat) : ClassShare where
  name := name
  school := school
  host := host
  path := getSharePath roleshare school name
  sambaName := name
  sambaForceGroup := "+" ++ name
  group := gidNumber

/-- The share that `do_modify` saves. -/
def ClassShare.doModify (share : ClassShare) (oldName name : String) : ClassShare :=
  if oldName = name then { share with name := name }
  else
    { share with
      name := name
      path := String.ofList (PosixPath.join (PosixPath.split share.path.toList).1 name.toList)
      sambaName := if share.sambaName = oldName then name else share.sambaName
      sambaForceGroup :=
        if share.sambaForceGroup = "+" ++ oldName then "+" ++ name else share.sambaForceGroup }

/-- `exists` of a share. -/
def shareExists (name : String) : EStateM Failure (Directory α) Bool := do
  return ((← get).shares.find? (key name)).isSome

/-- `create` of the share of a class. -/
def createShareObject (school name : String) : EStateM Failure (Directory α) Bool := do
  if ← shareExists name then return false
  raising (validateShare c name)
  match (← get).classes.find? (key name) with
  | none => throw (.attributeError "'NoneType' object has no attribute 'props'")
  | some group =>
    saving c.shareSave
    modify fun d => { d with
      shares := d.shares.insert (key name) (newShare roleshare c.host school name group.gidNumber) }
    return true

/-- `create_share`. -/
def createShare (school name : String) : EStateM Failure (Directory α) Bool := do
  if ← shareExists name then return true
  createShareObject roleshare c school name

/-- A model of a class, as the lib has it. -/
structure ClassObject (α : Type) where
  name : String
  school : String
  attributes : α

def ClassObject.stored (sc : ClassObject α) (gidNumber : Nat) : SchoolClass α :=
  ⟨sc.name, sc.school, gidNumber, sc.attributes⟩

def objectExists : Failure := .save (.udm "Object exists.")

/-- `create_without_hooks` of a group. The object is searched under the name with which the model
was made. -/
def createGroup (madeAs : String) (sc : ClassObject α) : EStateM Failure (Directory α) Bool := do
  if ((← get).classes.find? (key madeAs)).isSome then return false
  raising (validateClass c sc.school sc.name)
  saving c.classSave
  if ((← get).classes.find? (key sc.name)).isSome then throw objectExists
  modify fun d => { d with classes := d.classes.insert (key sc.name) (sc.stored c.gidNumber) }
  return true

/-- `SchoolClass.create`. -/
def create (madeAs : String) (sc : ClassObject α) (withShare : Bool) :
    EStateM Failure (Directory α) Bool := do
  let success ← createGroup c madeAs sc
  if withShare ∧ ((← get).classes.find? (key sc.name)).isSome ∧ success then
    createShare roleshare c sc.school sc.name
  else return success

/-- `modify_without_hooks` of a group. -/
def modifyGroup (group : SchoolClass α) (name : String) (attributes : α) :
    EStateM Failure (Directory α) Unit := do
  raising (validateClass c group.school name)
  saving c.classSave
  if key name ≠ key group.name ∧ ((← get).classes.find? (key name)).isSome then throw objectExists
  modify fun d => { d with
    classes := (d.classes.erase (key group.name)).insert (key name)
      { group with name := name, attributes := attributes } }

/-- The operations of the lib on the classes of a state. -/
structure ClassModel (σ α : Type) where
  find : String → EStateM Failure σ (Option (SchoolClass α))
  create : Circumstances → String → ClassObject α → Bool → EStateM Failure σ Bool
  modify : Circumstances → String → String → α → EStateM Failure σ Bool
  remove : Circumstances → String → EStateM Failure σ Bool

end Lib

/-! ## One table of classes -/

/-- A class, with the host of its share if it has one. -/
structure Entry (α : Type) where
  group : SchoolClass α
  shareHost : Option String

abbrev Register (α : Type) := Table String (Entry α)

namespace Register

section Operations

variable {α : Type} [CnComparison] [WordChars] [DnEscaping] [ClassTexts] (c : Circumstances)

def find (name : String) : EStateM Failure (Register α) (Option (SchoolClass α)) := do
  return ((← get).find? (key name)).map Entry.group

def createEntry (madeAs : String) (sc : ClassObject α) : EStateM Failure (Register α) Bool := do
  if ((← get).find? (key madeAs)).isSome then return false
  raising (validateClass c sc.school sc.name)
  saving c.classSave
  if ((← get).find? (key sc.name)).isSome then throw objectExists
  modify fun t => t.insert (key sc.name) ⟨sc.stored c.gidNumber, none⟩
  return true

def giveShare (sc : ClassObject α) : EStateM Failure (Register α) Bool := do
  raising (validateShare c sc.name)
  saving c.shareSave
  modify fun t => t.insert (key sc.name) ⟨sc.stored c.gidNumber, some c.host⟩
  return true

def create (madeAs : String) (sc : ClassObject α) (withShare : Bool) :
    EStateM Failure (Register α) Bool := do
  let success ← createEntry c madeAs sc
  if withShare ∧ success then giveShare c sc else return success

/-- The share moves with the class. -/
def update (oldName name : String) (attributes : α) : EStateM Failure (Register α) Bool := do
  match (← get).find? (key oldName) with
  | none => return false
  | some e =>
    raising (validateClass c e.group.school name)
    saving c.classSave
    if key name ≠ key e.group.name ∧ ((← get).find? (key name)).isSome then throw objectExists
    modify fun t => (t.erase (key e.group.name)).insert (key name)
      { e with group := { e.group with name := name, attributes := attributes } }
    return true

def remove (name : String) : EStateM Failure (Register α) Bool := do
  match (← get).find? (key name) with
  | none => return false
  | some e =>
    saving c.classSave
    modify fun t => t.erase (key e.group.name)
    return true

def model : ClassModel (Register α) α where
  find := find
  create := create
  modify := update
  remove := remove

end Operations

end Register

/-! ## The directory of a register -/

section Refinement

variable {α : Type} (roleshare : Bool)

def Entry.share (e : Entry α) : Option ClassShare :=
  e.shareHost.map (fun host => newShare roleshare host e.group.school e.group.name e.group.gidNumber)

namespace Register

variable (t : Register α) (k : String)

end Register

end Refinement

section Steps

variable {σ β : Type} {x : Unit → EStateM Failure σ β}

@[simp] theorem raising_ok : (raising (.ok ()) >>= x) = x () := rfl

@[simp] theorem saving_none : (saving none >>= x) = x () := rfl

end Steps

section Refinement

variable {α : Type} [CnComparison] [WordChars] [DnEscaping] [ClassTexts] (roleshare : Bool)
  {c : Circumstances}

end Refinement

section Names

variable [WordChars] [DnEscaping] [ClassTexts] {c : Circumstances} {school name : String}

/-- The name of a validated class is one that a share can have. -/
theorem validateClass_ok (h : validateClass c school name = .ok ()) :
    ShareName.validate name = .ok () := by
  dsimp only [validateClass] at h
  split_ifs at h with hstart herrors
  have hname := (List.append_eq_nil_iff.mp herrors).1
  rcases SchoolClassName.validate_cases name with hok | ⟨message, herror⟩
  · exact ShareName.validate_of_class hok
  · rw [herror] at hname
    cases hname

end Names

section Refinement

variable {α : Type} [CnComparison] [WordChars] [DnEscaping] [ClassTexts] (roleshare : Bool)
  {c : Circumstances}

namespace Register

/-- The classes are stored under their names, which are parts of paths. -/
structure Named (t : Register α) : Prop where
  key_eq : ∀ {k e}, t.find? k = some e → key e.group.name = k
  noSlash : ∀ {k e}, t.find? k = some e → '/' ∉ e.group.name.toList

variable {t : Register α}

omit [WordChars] [DnEscaping] [ClassTexts] in
theorem Named.insert (h : t.Named) {e : Entry α} (hslash : '/' ∉ e.group.name.toList) :
    Named (Table.insert t (key e.group.name) e) := by
  constructor
  · intro k e' hfind
    rw [Table.find?_insert] at hfind
    split_ifs at hfind with hk
    · cases hfind
      exact hk.symm
    · exact h.key_eq hfind
  · intro k e' hfind
    rw [Table.find?_insert] at hfind
    split_ifs at hfind with hk
    · cases hfind
      exact hslash
    · exact h.noSlash hfind

omit [WordChars] [DnEscaping] [ClassTexts] in
theorem Named.erase (h : t.Named) (k : String) : Named (Table.erase t k) := by
  constructor
  · intro j e hfind
    rw [Table.find?_erase] at hfind
    split_ifs at hfind
    exact h.key_eq hfind
  · intro j e hfind
    rw [Table.find?_erase] at hfind
    split_ifs at hfind
    exact h.noSlash hfind

end Register

/-- What the creation of a class does to a register. -/
theorem Register.createEntry_cases (madeAs : String) (sc : ClassObject α) (t : Register α) :
    (∃ e, createEntry c madeAs sc t = .error e t) ∨ createEntry c madeAs sc t = .ok false t ∨
      (validateClass c sc.school sc.name = .ok () ∧
        createEntry c madeAs sc t =
          .ok true (Table.insert t (key sc.name) ⟨sc.stored c.gidNumber, none⟩)) := by
  unfold createEntry
  rw [get_bind]
  by_cases hfound : (t.find? (key madeAs)).isSome = true
  · rw [if_pos hfound]
    exact .inr (.inl rfl)
  rw [if_neg hfound]
  cases validateClass c sc.school sc.name with
  | error e => exact .inl ⟨e, rfl⟩
  | ok _ =>
    rw [raising_ok]
    cases c.classSave with
    | some e => exact .inl ⟨.save e, rfl⟩
    | none =>
      rw [saving_none, get_bind]
      by_cases htaken : (t.find? (key sc.name)).isSome = true
      · rw [if_pos htaken]
        exact .inl ⟨objectExists, rfl⟩
      · rw [if_neg htaken]
        exact .inr (.inr ⟨rfl, rfl⟩)

theorem Register.Named.create {t : Register α} (hn : t.Named) (madeAs : String) (sc : ClassObject α)
    (withShare : Bool) : Named (endState (Register.create c madeAs sc withShare t)) := by
  unfold Register.create
  rcases createEntry_cases (c := c) madeAs sc t with ⟨e, he⟩ | hfalse | ⟨hvalid, htrue⟩
  · rw [bind_of_error he]
    exact hn
  · rw [bind_of_ok hfalse, if_neg (by simp)]
    exact hn
  · have hslash : '/' ∉ sc.name.toList := ShareName.noSlash (validateClass_ok hvalid)
    have hentry : Named (Table.insert t (key sc.name) ⟨sc.stored c.gidNumber, none⟩) :=
      hn.insert (e := ⟨sc.stored c.gidNumber, none⟩) hslash
    rw [bind_of_ok htrue]
    by_cases hshare : withShare = true
    · rw [if_pos (by simp [hshare])]
      unfold giveShare
      cases validateShare c sc.name with
      | error e => exact hentry
      | ok _ =>
        cases c.shareSave with
        | some e => exact hentry
        | none => exact hentry.insert (e := ⟨sc.stored c.gidNumber, some c.host⟩) hslash
    · rw [if_neg (by simp [hshare])]
      exact hentry

theorem Register.Named.update {t : Register α} (hn : t.Named) (oldName name : String)
    (attributes : α) : Named (endState (Register.update c oldName name attributes t)) := by
  unfold Register.update
  rw [get_bind]
  cases t.find? (key oldName) with
  | none => exact hn
  | some e =>
    dsimp only
    cases hvalid : validateClass c e.group.school name with
    | error f => exact hn
    | ok _ =>
      rw [raising_ok]
      cases c.classSave with
      | some f => exact hn
      | none =>
        rw [saving_none, get_bind]
        split_ifs
        · exact hn
        · have hslash : '/' ∉ name.toList := ShareName.noSlash (validateClass_ok hvalid)
          exact (hn.erase _).insert
            (e := { e with group := { e.group with name := name, attributes := attributes } }) hslash

omit [WordChars] [DnEscaping] [ClassTexts] in
theorem Register.Named.remove {t : Register α} (hn : t.Named) (name : String) :
    Named (endState (Register.remove c name t)) := by
  unfold Register.remove
  rw [get_bind]
  cases t.find? (key name) with
  | none => exact hn
  | some e =>
    cases c.classSave with
    | some f => exact hn
    | none => exact hn.erase _

/-! ## Refinement -/

end Refinement

end ClassShares

end Kelvin
