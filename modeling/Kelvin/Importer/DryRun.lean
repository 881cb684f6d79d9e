import Kelvin.Data.Effects
import Kelvin.Importer.Templates

/-!
# Dry runs

`username_handler.py`: a handler keeps its counters in the directory, or in memory for a dry run.
The memory takes the counters that it does not have yet from the directory and leaves that as it
is. It finds a name by its letters, the directory ignores their case.

* `ldapStorageBackend`, `memoryStorageBackend`: the two stores.
* `NameHandler.formatName`: `format_name` of the two handlers with a store.
* `formatName_directory`: with the directory it is `formatName` for names equal up to case.
* `Shadows`: the memory has the counters that the directory of a real run has.
* `dryRun_predicts`: a dry run gives the names of the real run if no two of its names without
  variable differ in case only and no object of the directory lacks its number.
-/

namespace Kelvin

namespace Importer

open Text Effects

/-! ## Stores -/

/-- How the directory compares values of cn: those with one form are equal. -/
class CnComparison where
  form : List Char → List Char

/-- The objects below `cn=unique-<attribute_name>`, by the form of their names. An object may have
no number, and a text may be none for `int`. -/
abbrev CounterDirectory := List Char → Option (Option (Except String Int))

inductive NamingExc where
  | nameKeyExists (message : String)
  | noValueStored (message : String)
  | badValueStored (message : String)
  | formatError (message : String) (name : List Char)
deriving DecidableEq

abbrev Naming (σ α : Type) := EStateM NamingExc σ α

structure NameCounterStorageBackend (σ : Type) where
  create : List Char → Int → Naming σ Unit
  modify : List Char → Int → Int → Naming σ Unit
  retrieve : List Char → Naming σ Int

/-- `str` of a number. -/
def signedDigits : Int → List Char
  | .ofNat n => digits n
  | .negSucc n => '-' :: digits (n + 1)

section Stores

variable [CnComparison] [Runtime]

def keyExists (name : List Char) : NamingExc :=
  .nameKeyExists ("Cannot create key " ++ Runtime.repr (String.ofList name) ++ " - already exists.")

def notFound (name : List Char) : NamingExc :=
  .noValueStored ("Name " ++ Runtime.repr (String.ofList name) ++ " not found.")

def wrongFormat (name : List Char) (message : String) : NamingExc :=
  .badValueStored
    ("Value for name " ++ Runtime.repr (String.ofList name) ++ " has wrong format: " ++ message)

def CounterDirectory.put (directory : CounterDirectory) (name : List Char) (value : Int) :
    CounterDirectory :=
  Function.update directory (CnComparison.form name) (some (some (.ok value)))

def ldapStorageBackend : NameCounterStorageBackend CounterDirectory where
  create name value directory :=
    match directory (CnComparison.form name) with
    | some _ => .error (keyExists name) directory
    | none => .ok () (directory.put name value)
  modify name _ newValue directory :=
    match directory (CnComparison.form name) with
    | some _ => .ok () (directory.put name newValue)
    | none => .error (notFound name) directory
  retrieve name directory :=
    match directory (CnComparison.form name) with
    | some (some (.ok value)) => .ok value directory
    | some (some (.error message)) => .error (wrongFormat name message) directory
    | some none | none => .error (notFound name) directory

/-- The dictionary of the memory and the directory that it reads. -/
structure MemoryStore where
  memStore : List Char → Option Int
  directory : CounterDirectory

def MemoryStore.put (store : MemoryStore) (name : List Char) (value : Int) : MemoryStore :=
  { store with memStore := Function.update store.memStore name (some value) }

def memoryStorageBackend : NameCounterStorageBackend MemoryStore where
  create name value store := .ok () (store.put name value)
  modify name _ newValue store := .ok () (store.put name newValue)
  retrieve name store :=
    match store.memStore name with
    | some value => .ok value store
    | none =>
      match ldapStorageBackend.retrieve name store.directory with
      | .ok value directory => .ok value (MemoryStore.put { store with directory } name value)
      | .error e directory => .error e { store with directory }

end Stores

/-! ## Handlers -/

section Handlers

variable {σ : Type} (backend : NameCounterStorageBackend σ)

def NameCounterStorageBackend.raiseStored (nameBase : List Char) : Naming σ (List Char) := do
  let num ← backend.retrieve nameBase
  backend.modify nameBase num (num + 1)
  return signedDigits num

def NameCounterStorageBackend.createFirst (nameBase initialValue : List Char) :
    NamingExc → Naming σ (List Char)
  | .noValueStored _ => do
    backend.create nameBase 2
    return initialValue
  | e => throw e

/-- `get_and_raise`. -/
def NameCounterStorageBackend.getAndRaise (nameBase initialValue : List Char) :
    Naming σ (List Char) :=
  tryCatch (backend.raiseStored nameBase) (backend.createFirst nameBase initialValue)

def NameCounterStorageBackend.counter (h : Handler) (name : List Char) (limit : Nat) (m : Match) :
    Naming σ (List Char) :=
  if h.nameBase name limit = [] then pure []
  else backend.getAndRaise (h.nameBase name limit) m.kind.initialValue

variable [Runtime]

def NameCounterStorageBackend.formatName (h : Handler) (name : List Char)
    (maxLength : Option Nat) : Naming σ (List Char) :=
  match search name with
  | none =>
    let username := h.removeBadChars name
    let username :=
      if h.limit maxLength < name.length then username.take (h.limit maxLength) else username
    pure (strip '.' username)
  | some m =>
    if 2 ≤ (findall name).length then throw (.formatError (h.moreThanOne name) name)
    else do
      let counter ← backend.counter h name (h.limit maxLength) m
      let username := h.fill name (h.limit maxLength) m counter
      return strip '.' (h.removeBadChars username)

def NameCounterStorageBackend.emailFormatName (maxLength : Nat) (name : List Char)
    (override : Option Nat) : Naming σ (List Char) :=
  if emailLimit maxLength (rpartitionAt name).2 override < 1 then
    throw (.formatError "Maximum email length is to small." name)
  else do
    let localPart ← backend.formatName (emailHandler maxLength) (rpartitionAt name).1
      (some (emailLimit maxLength (rpartitionAt name).2 override))
    return localPart ++ '@' :: (rpartitionAt name).2

/-- `UsernameHandler` with the configured `allowed_special_chars`, and `EmailHandler`. -/
inductive NameHandler where
  | username (special : List Char) (maxLength : Nat)
  | email (maxLength : Nat)

/-- The arguments of `format_name`. -/
structure NameRequest where
  name : List Char
  maxLength : Option Nat

def NameHandler.formatName (handler : NameHandler) (request : NameRequest) :
    Naming σ (List Char) :=
  match handler with
  | .username special maxLength =>
    backend.formatName (usernameHandler special maxLength) request.name request.maxLength
  | .email maxLength => backend.emailFormatName maxLength request.name request.maxLength

end Handlers

/-- The base of a name in which the handler raises a counter. -/
def Handler.countedBase (h : Handler) (name : List Char) (maxLength : Option Nat) :
    Option (List Char) :=
  if (search name).isSome ∧ (findall name).length < 2 ∧
      h.nameBase name (h.limit maxLength) ≠ [] then
    some (h.nameBase name (h.limit maxLength))
  else none

def NameHandler.countedBase (handler : NameHandler) (request : NameRequest) :
    Option (List Char) :=
  match handler with
  | .username special maxLength =>
    (usernameHandler special maxLength).countedBase request.name request.maxLength
  | .email maxLength =>
    if emailLimit maxLength (rpartitionAt request.name).2 request.maxLength < 1 then none
    else (emailHandler maxLength).countedBase (rpartitionAt request.name).1
      (some (emailLimit maxLength (rpartitionAt request.name).2 request.maxLength))

/-! ## One counter -/

section Counter

variable {σ : Type} {backend : NameCounterStorageBackend σ} {base initial : List Char}
  {num : Int} {message : String} {e : NamingExc} {s s' s'' : σ}

theorem getAndRaise_of_number (hretrieve : backend.retrieve base s = .ok num s')
    (hmodify : backend.modify base num (num + 1) s' = .ok () s'') :
    backend.getAndRaise base initial s = .ok (signedDigits num) s'' := by
  apply tryCatch_of_ok
  rw [NameCounterStorageBackend.raiseStored, bind_of_ok hretrieve, bind_of_ok hmodify]
  rfl

theorem getAndRaise_of_failed (hretrieve : backend.retrieve base s = .error e s') :
    backend.getAndRaise base initial s = backend.createFirst base initial e s' := by
  have hraised : backend.raiseStored base s = .error e s' := bind_of_error hretrieve
  rw [NameCounterStorageBackend.getAndRaise, tryCatch_of_error hraised]

end Counter

section Directory

variable [CnComparison] [Runtime] {directory : CounterDirectory} {base initial : List Char}
  {num : Int} {message : String}

theorem ldap_of_none (h : directory (CnComparison.form base) = none) :
    ldapStorageBackend.getAndRaise base initial directory =
      .ok initial (directory.put base 2) := by
  have hretrieve : ldapStorageBackend.retrieve base directory =
      .error (notFound base) directory := by
    simp only [ldapStorageBackend, h]
  have hcreate : ldapStorageBackend.create base 2 directory = .ok () (directory.put base 2) := by
    simp only [ldapStorageBackend, h]
  rw [getAndRaise_of_failed hretrieve]
  exact bind_of_ok hcreate

theorem ldap_of_number (h : directory (CnComparison.form base) = some (some (.ok num))) :
    ldapStorageBackend.getAndRaise base initial directory =
      .ok (signedDigits num) (directory.put base (num + 1)) := by
  apply getAndRaise_of_number
  · simp only [ldapStorageBackend, h]
    rfl
  · simp only [ldapStorageBackend, h]

theorem ldap_of_bad (h : directory (CnComparison.form base) = some (some (.error message))) :
    ldapStorageBackend.getAndRaise base initial directory =
      .error (wrongFormat base message) directory := by
  have hretrieve : ldapStorageBackend.retrieve base directory =
      .error (wrongFormat base message) directory := by
    simp only [ldapStorageBackend, h]
  rw [getAndRaise_of_failed hretrieve]
  rfl

/-- An object without a number is no counter to be raised and cannot be created. -/
theorem ldap_of_empty (h : directory (CnComparison.form base) = some none) :
    ldapStorageBackend.getAndRaise base initial directory =
      .error (keyExists base) directory := by
  have hretrieve : ldapStorageBackend.retrieve base directory =
      .error (notFound base) directory := by
    simp only [ldapStorageBackend, h]
  have hcreate : ldapStorageBackend.create base 2 directory = .error (keyExists base) directory := by
    simp only [ldapStorageBackend, h]
  rw [getAndRaise_of_failed hretrieve]
  exact bind_of_error hcreate

end Directory

section Memory

variable [CnComparison] [Runtime] {store : MemoryStore} {base initial : List Char} {num : Int}
  {message : String}

theorem memory_of_stored (h : store.memStore base = some num) :
    memoryStorageBackend.getAndRaise base initial store =
      .ok (signedDigits num) (store.put base (num + 1)) := by
  apply getAndRaise_of_number
  · simp only [memoryStorageBackend, h]
    rfl
  · rfl

/-- The number that is read first is kept with the one that replaces it. -/
theorem memory_of_number (h : store.memStore base = none)
    (hdirectory : store.directory (CnComparison.form base) = some (some (.ok num))) :
    memoryStorageBackend.getAndRaise base initial store =
      .ok (signedDigits num) (store.put base (num + 1)) := by
  have hput : (store.put base num).put base (num + 1) = store.put base (num + 1) := by
    simp only [MemoryStore.put, Function.update_idem]
  rw [← hput]
  apply getAndRaise_of_number
  · simp only [memoryStorageBackend, ldapStorageBackend, h, hdirectory]
    rfl
  · rfl

theorem memory_of_none (h : store.memStore base = none)
    (hdirectory : store.directory (CnComparison.form base) = none) :
    memoryStorageBackend.getAndRaise base initial store = .ok initial (store.put base 2) := by
  have hretrieve : memoryStorageBackend.retrieve base store = .error (notFound base) store := by
    simp only [memoryStorageBackend, ldapStorageBackend, h, hdirectory]
  rw [getAndRaise_of_failed hretrieve]
  rfl

theorem memory_of_bad (h : store.memStore base = none)
    (hdirectory : store.directory (CnComparison.form base) = some (some (.error message))) :
    memoryStorageBackend.getAndRaise base initial store =
      .error (wrongFormat base message) store := by
  have hretrieve : memoryStorageBackend.retrieve base store =
      .error (wrongFormat base message) store := by
    simp only [memoryStorageBackend, ldapStorageBackend, h, hdirectory]
  rw [getAndRaise_of_failed hretrieve]
  rfl

end Memory

/-! ## The memory beside the directory -/

section Shadowing

variable [CnComparison] {bases : Set (List Char)} {store : MemoryStore}
  {directory : CounterDirectory} {base initial : List Char} {value : Int}

/-- The text that is stored for a name is no number, so that all calls for it raise. -/
def Unreadable (directory : CounterDirectory) (name : List Char) : Prop :=
  ∃ message, directory (CnComparison.form name) = some (some (.error message))

/-- The directory of a real run has the numbers that the memory has for the names of the set, and
no other changes to their objects. -/
structure Shadows (bases : Set (List Char)) (store : MemoryStore) (directory : CounterDirectory) :
    Prop where
  apart : ∀ b ∈ bases, ∀ b' ∈ bases, CnComparison.form b = CnComparison.form b' →
    ¬Unreadable store.directory b → b = b'
  readable : ∀ b ∈ bases, store.memStore b ≠ none → ¬Unreadable store.directory b
  stored : ∀ b ∈ bases, ∀ n, store.memStore b = some n →
    directory (CnComparison.form b) = some (some (.ok n))
  unread : ∀ b ∈ bases, store.memStore b = none →
    directory (CnComparison.form b) = store.directory (CnComparison.form b)
  complete : ∀ b ∈ bases, directory (CnComparison.form b) ≠ some none

theorem Shadows.put (h : Shadows bases store directory) (hbase : base ∈ bases)
    (hreadable : ¬Unreadable store.directory base) (value : Int) :
    Shadows bases (store.put base value) (directory.put base value) := by
  have hother : ∀ b ∈ bases, b ≠ base → (store.put base value).memStore b = store.memStore b ∧
      directory.put base value (CnComparison.form b) = directory (CnComparison.form b) := by
    intro b hb hne
    refine ⟨Function.update_of_ne hne _ _, Function.update_of_ne ?_ _ _⟩
    intro heq
    exact hne (h.apart base hbase b hb heq.symm hreadable).symm
  have hmem : (store.put base value).memStore base = some value := Function.update_self _ _ _
  have hdirectory : directory.put base value (CnComparison.form base) = some (some (.ok value)) :=
    Function.update_self _ _ _
  constructor
  · exact h.apart
  · intro b hb hsome
    by_cases hne : b = base
    · subst hne
      exact hreadable
    · rw [(hother b hb hne).1] at hsome
      exact h.readable b hb hsome
  · intro b hb n hn
    by_cases hne : b = base
    · subst hne
      rw [hmem] at hn
      cases hn
      exact hdirectory
    · rw [(hother b hb hne).1] at hn
      rw [(hother b hb hne).2]
      exact h.stored b hb n hn
  · intro b hb hnone
    by_cases hne : b = base
    · subst hne
      rw [hmem] at hnone
      cases hnone
    · rw [(hother b hb hne).1] at hnone
      rw [(hother b hb hne).2]
      exact h.unread b hb hnone
  · intro b hb
    by_cases hne : b = base
    · subst hne
      rw [hdirectory]
      simp
    · rw [(hother b hb hne).2]
      exact h.complete b hb

/-- Both stores give one number for a name of the set, or find the same text that is none. -/
theorem related_getAndRaise [Runtime] (hbase : base ∈ bases) :
    Related (Shadows bases) (memoryStorageBackend.getAndRaise base initial)
      (ldapStorageBackend.getAndRaise base initial) := by
  intro store directory h
  cases hmem : store.memStore base with
  | some num =>
    rw [memory_of_stored hmem, ldap_of_number (h.stored base hbase num hmem)]
    have hreadable := h.readable base hbase (by rw [hmem]; simp)
    exact .ok (h.put hbase hreadable _)
  | none =>
    have hunread := h.unread base hbase hmem
    cases hentry : store.directory (CnComparison.form base) with
    | none =>
      rw [memory_of_none hmem hentry, ldap_of_none (hunread.trans hentry)]
      have hreadable : ¬Unreadable store.directory base := by
        rintro ⟨message, hmessage⟩
        rw [hentry] at hmessage
        cases hmessage
      exact .ok (h.put hbase hreadable _)
    | some number =>
      cases number with
      | none => exact absurd (hunread.trans hentry) (h.complete base hbase)
      | some text =>
        cases text with
        | error message =>
          rw [memory_of_bad hmem hentry, ldap_of_bad (hunread.trans hentry)]
          exact .error h
        | ok num =>
          rw [memory_of_number hmem hentry, ldap_of_number (hunread.trans hentry)]
          have hreadable : ¬Unreadable store.directory base := by
            rintro ⟨message, hmessage⟩
            rw [hentry] at hmessage
            cases hmessage
          exact .ok (h.put hbase hreadable _)

end Shadowing

/-! ## Names of a run -/

section Formatting

variable {σ τ : Type} {R : σ → τ → Prop} {backend : NameCounterStorageBackend σ}
  {backend' : NameCounterStorageBackend τ} [Runtime] {h : Handler} {name : List Char}
  {maxLength : Option Nat}

/-- Stores that agree on the counter of a name format it in the same way. -/
theorem related_formatName
    (hcount : ∀ base initial, h.countedBase name maxLength = some base →
      Related R (backend.getAndRaise base initial) (backend'.getAndRaise base initial)) :
    Related R (backend.formatName h name maxLength) (backend'.formatName h name maxLength) := by
  unfold NameCounterStorageBackend.formatName
  cases hsearch : search name with
  | none => exact .pure _
  | some m =>
    apply Related.ite
    · intro _
      exact .throw _
    · intro hone
      apply Related.bind
      · unfold NameCounterStorageBackend.counter
        apply Related.ite
        · intro _
          exact .pure _
        · intro hne
          apply hcount
          have hsome : (search name).isSome = true := by
            rw [hsearch]
            rfl
          exact if_pos ⟨hsome, Nat.lt_of_not_le hone, hne⟩
      · intro counter
        exact .pure _

theorem related_handler {handler : NameHandler} {request : NameRequest}
    (hcount : ∀ base initial, handler.countedBase request = some base →
      Related R (backend.getAndRaise base initial) (backend'.getAndRaise base initial)) :
    Related R (handler.formatName backend request) (handler.formatName backend' request) := by
  cases handler with
  | username special maxLength => exact related_formatName hcount
  | email maxLength =>
    apply Related.ite
    · intro _
      exact .throw _
    · intro hlimit
      apply Related.bind
      · apply related_formatName
        intro base initial hbase
        apply hcount
        rw [← hbase]
        exact if_neg hlimit
      · intro localPart
        exact .pure _

end Formatting

section Runs

variable [CnComparison] [Runtime]

/-- The names and exceptions of a dry run over the objects of the directory. -/
def dryRun (handler : NameHandler) (directory : CounterDirectory) (requests : List NameRequest) :
    List (Except NamingExc (List Char)) :=
  outcomes (handler.formatName memoryStorageBackend) requests ⟨fun _ => none, directory⟩

def realRun (handler : NameHandler) (directory : CounterDirectory) (requests : List NameRequest) :
    List (Except NamingExc (List Char)) :=
  outcomes (handler.formatName ldapStorageBackend) requests directory

/-- The names without variable in which a sequence of calls raises counters. -/
def countedBases (handler : NameHandler) (requests : List NameRequest) : List (List Char) :=
  requests.filterMap handler.countedBase

/-- **A dry run gives the names of the real run**, if it spells each name that it counts in one way
and the objects of these names have their numbers. -/
theorem dryRun_predicts (handler : NameHandler) (directory : CounterDirectory)
    (requests : List NameRequest)
    (hspelling : ∀ b ∈ countedBases handler requests, ∀ b' ∈ countedBases handler requests,
      CnComparison.form b = CnComparison.form b' → ¬Unreadable directory b → b = b')
    (hnumber : ∀ b ∈ countedBases handler requests, directory (CnComparison.form b) ≠ some none) :
    dryRun handler directory requests = realRun handler directory requests := by
  have hshadows : Shadows {b | b ∈ countedBases handler requests} ⟨fun _ => none, directory⟩
      directory := by
    constructor
    · exact hspelling
    · intro b _ hsome
      exact absurd rfl hsome
    · intro b _ n hn
      cases hn
    · intro b _ _
      rfl
    · exact hnumber
  apply outcomes_eq _ hshadows
  intro request hrequest
  apply related_handler
  intro base initial hbase
  apply related_getAndRaise
  exact List.mem_filterMap.mpr ⟨request, hrequest, hbase⟩

end Runs

/-! ## Names equal up to case -/

section Counters

variable [CnComparison]

/-- The store of a real run: names share a counter if the directory takes them for one. -/
@[reducible] def directoryStorage : NameStorage where
  key := CnComparison.form

attribute [local instance] directoryStorage

def StoredValue.read : StoredValue → Except String Int
  | .number n => .ok n
  | .bad message => .error message

/-- The directory in which every object has a value. -/
def directoryOf (store : Counters) : CounterDirectory := fun name =>
  (store name).map fun value => some value.read

variable {store store' : Counters} {base initial counter username name : List Char}

theorem directoryOf_update (n : Nat) :
    directoryOf (Function.update store (CnComparison.form base) (some (.number n))) =
      (directoryOf store).put base n := by
  funext key
  by_cases hkey : key = CnComparison.form base
  · subst hkey
    simp only [directoryOf, CounterDirectory.put, Function.update_self]
    rfl
  · simp only [directoryOf, CounterDirectory.put, Function.update_of_ne hkey]

variable [Runtime] {h : Handler} {maxLength : Option Nat}

theorem getAndRaise_directory (hcounter : getAndRaise base initial store = .ok (counter, store')) :
    ldapStorageBackend.getAndRaise base initial (directoryOf store) =
      .ok counter (directoryOf store') := by
  rcases getAndRaise_eq_ok.mp hcounter with ⟨hnone, rfl, rfl⟩ | ⟨n, hn, rfl, rfl⟩
  · have hentry : directoryOf store (CnComparison.form base) = none :=
      congrArg (Option.map _) hnone
    rw [ldap_of_none hentry]
    exact congrArg _ (directoryOf_update 2).symm
  · have hentry : directoryOf store (CnComparison.form base) = some (some (.ok (n : Int))) :=
      congrArg (Option.map _) hn
    rw [ldap_of_number hentry]
    exact congrArg _ (directoryOf_update (n + 1)).symm

/-- `formatName` for names with one form is `format_name` with the directory. -/
theorem formatName_directory (hformat : formatName h name maxLength store = .ok (username, store')) :
    ldapStorageBackend.formatName h name maxLength (directoryOf store) =
      .ok username (directoryOf store') := by
  unfold NameCounterStorageBackend.formatName
  cases hsearch : search name with
  | none =>
    rw [formatName_of_no_match hsearch] at hformat
    cases hformat
    rfl
  | some m =>
    obtain ⟨hone, counter, hcounter, rfl⟩ := (formatName_eq_ok hsearch).mp hformat
    have hmany : ¬ 2 ≤ (findall name).length := Nat.not_le.mpr hone
    dsimp only
    rw [if_neg hmany]
    refine bind_of_ok ?_
    unfold Handler.counter at hcounter
    unfold NameCounterStorageBackend.counter
    by_cases hempty : h.nameBase name (h.limit maxLength) = []
    · rw [if_pos hempty] at hcounter ⊢
      cases hcounter
      rfl
    · rw [if_neg hempty] at hcounter ⊢
      exact getAndRaise_directory hcounter

end Counters

section Example

/-- The comparison of plain letters without their case. -/
@[reducible] def ignoringCase : CnComparison where
  form name := name.map Char.toLower

attribute [local instance] asciiRuntime ignoringCase

/-- The names of a run in which each base is spelled in one way. -/
theorem dryRun_anna : dryRun (.username ['.'] 20) (fun _ => none)
      [⟨"Anna[COUNTER2]".toList, none⟩, ⟨"Anna[COUNTER2]".toList, none⟩] =
    realRun (.username ['.'] 20) (fun _ => none)
      [⟨"Anna[COUNTER2]".toList, none⟩, ⟨"Anna[COUNTER2]".toList, none⟩] := by
  have hbases : countedBases (.username ['.'] 20)
      [⟨"Anna[COUNTER2]".toList, none⟩, ⟨"Anna[COUNTER2]".toList, none⟩] =
      ["Anna".toList, "Anna".toList] := by
    decide
  apply dryRun_predicts
  · rw [hbases]
    intro b hb b' hb' _ _
    simp only [List.mem_cons, List.not_mem_nil, or_false, or_self] at hb hb'
    rw [hb, hb']
  · intro b _ hnone
    cases hnone

/-- The directory gives the second name a number, the memory does not. An object without a number
stops the real run only. -/
theorem dryRun_other_names :
    dryRun (.username ['.'] 20) (fun _ => none)
        [⟨"Anna[COUNTER2]".toList, none⟩, ⟨"anna[COUNTER2]".toList, none⟩] ≠
      realRun (.username ['.'] 20) (fun _ => none)
        [⟨"Anna[COUNTER2]".toList, none⟩, ⟨"anna[COUNTER2]".toList, none⟩] ∧
    dryRun (.username ['.'] 20) (fun _ => some none) [⟨"anna[COUNTER2]".toList, none⟩] ≠
      realRun (.username ['.'] 20) (fun _ => some none) [⟨"anna[COUNTER2]".toList, none⟩] := by
  constructor
  · have hdry : dryRun (.username ['.'] 20) (fun _ => none)
        [⟨"Anna[COUNTER2]".toList, none⟩, ⟨"anna[COUNTER2]".toList, none⟩] =
        [.ok "Anna".toList, .ok "anna".toList] := by decide
    have hreal : realRun (.username ['.'] 20) (fun _ => none)
        [⟨"Anna[COUNTER2]".toList, none⟩, ⟨"anna[COUNTER2]".toList, none⟩] =
        [.ok "Anna".toList, .ok "anna2".toList] := by decide +kernel
    rw [hdry, hreal]
    decide
  · intro h
    have hdry : dryRun (.username ['.'] 20) (fun _ => some none) [⟨"anna[COUNTER2]".toList, none⟩] =
        [.ok "anna".toList] := by decide
    have hreal : realRun (.username ['.'] 20) (fun _ => some none)
        [⟨"anna[COUNTER2]".toList, none⟩] = [.error (keyExists "anna".toList)] := by
      decide
    rw [hdry, hreal] at h
    cases h

end Example

end Importer

end Kelvin
