import Kelvin.Data.Effects
import Kelvin.Importer.Setup

/-!
# The import framework inside the API

`init_ucs_school_import_framework` and `get_import_config` of `import_config.py`, which set up the
configuration once in a process, with the singleton of `configuration.py` below them.

* `Framework`: what the process keeps.
* `getImportConfig`: one call.
* `settled_run`: a call that returns, or raises an exception of the import, settles the later ones.
* `history`: what the calls of a process come to when no hooks are installed.
* `outcomes_eq_history`: and that they do.
-/

namespace Kelvin

namespace ImportConfig

open Json Importer.Configuration Effects

/-! ## One call -/

/-- `Configuration._instance`, and whether it has been closed. -/
structure Instance where
  config : Json
  closed : Bool

/-- What a process keeps of its calls. -/
structure Framework where
  current : Option Instance
  initialized : Bool
  error : Option String

def Framework.fresh : Framework := ⟨none, false, none⟩

/-- What a call finds: the files, and the code that is plugged in. -/
structure Surroundings where
  files : List ConfFile
  /-- `run_import_pyhooks`: hooks may change the configuration. -/
  hooks : Json → Except ConfigExc Unit × Json
  /-- `run_configuration_checks`. -/
  checks : Json → Except ConfigExc Unit
  /-- `setup_factory`. -/
  factory : Json → Except ConfigExc Unit

def readOnlyMessage : String := "Changing the configuration is not allowed."

/-- `config.update({})`, which a closed configuration refuses. -/
def update : EStateM ConfigExc Instance Unit := do
  if (← get).closed then throw (.importError readOnlyMessage)

/-- A step that changes the configuration, also when it raises. -/
def change (f : Json → Except ConfigExc Unit × Json) : EStateM ConfigExc Instance Unit :=
  fun i =>
    match f i.config with
    | (.ok (), config) => .ok () { i with config := config }
    | (.error e, config) => .error e { i with config := config }

/-- `close`. -/
def close : EStateM ConfigExc Instance Unit := modify (fun i => { i with closed := true })

/-- A step that only reads the configuration. -/
def inspect (f : Json → Except ConfigExc Unit) : EStateM ConfigExc Instance Unit := do
  match f (← get).config with
  | .ok () => pure ()
  | .error e => throw e

/-- `x in value`. -/
def contains (name : String) : Json → Except ConfigExc Bool
  | .arr items => .ok (decide (Json.str name ∈ items))
  | .obj fields => .ok (field? name fields).isSome
  | .str text => .ok (decide (name.toList <:+: text.toList))
  | _ => .error .typeError

/-- `config.get("configuration_checks", [])`. -/
def configurationChecks : Json → Json
  | .obj fields => (field? "configuration_checks" fields).getD (.arr [])
  | _ => .arr []

def missingMessage (name : String) : String :=
  "Missing \"" ++ name ++ "\" in configuration checks, e.g.: \x7b.., \"configuration_checks\": " ++
    "[\"defaults\", \"mapped_udm_properties\", \"class_overwrites\"], ..\x7d"

def requireCheck (name : String) (config : Json) : Except ConfigExc Unit := do
  let found ← contains name (configurationChecks config)
  if found then .ok () else .error (.importError (missingMessage name))

/-- A step that leaves the configuration as it is when it raises. -/
def leaving (f : Json → Except ConfigExc Json) (config : Json) : Except ConfigExc Unit × Json :=
  match f config with
  | .ok config => (.ok (), config)
  | .error e => (.error e, config)

section Calls

variable [SetupRuntime]

/-- `setup_configuration`, on the configuration that is read. -/
def setupInstance (reg : Registry) (m : Surroundings) : EStateM ConfigExc Instance Unit := do
  update
  change (leaving (setUsernameMaxLength reg))
  change m.hooks
  change checkMandatoryAttributes
  close
  inspect m.checks

/-- `Configuration(filenames)`. -/
def configuration (files : List ConfFile) : EStateM ConfigExc Framework Instance := do
  match (← get).current with
  | some i => pure i
  | none =>
    match load files with
    | .ok config =>
      modify (fun s => { s with current := some ⟨config, false⟩ })
      pure ⟨config, false⟩
    | .error e => throw e

def onInstance (x : EStateM ConfigExc Instance Unit) (i : Instance) :
    EStateM ConfigExc Framework Json :=
  fun s =>
    match x i with
    | .ok _ i => .ok i.config { s with current := some i }
    | .error e i => .error e { s with current := some i }

/-- `setup_configuration`. -/
def setupConfiguration (reg : Registry) (m : Surroundings) : EStateM ConfigExc Framework Json := do
  let i ← configuration m.files
  onInstance (setupInstance reg m) i

/-- What the API requires of the configuration. -/
def verify (m : Surroundings) (config : Json) : Except ConfigExc Unit := do
  requireCheck "mapped_udm_properties" config
  requireCheck "class_overwrites" config
  let name ← getItem "factory" config
  m.factory name

/-- The `try` block. -/
def attempt (reg : Registry) (m : Surroundings) : EStateM ConfigExc Framework Json := do
  let config ← setupConfiguration reg m
  match verify m config with
  | .ok () => pure config
  | .error e => throw e

/-- The `except` clause. -/
def remember : ConfigExc → EStateM ConfigExc Framework Json
  | .importError message => do
    modify (fun s => { s with error := some message })
    throw (.importError message)
  | e => throw e

/-- `init_ucs_school_import_framework`, without arguments. -/
def initFramework (reg : Registry) (m : Surroundings) : EStateM ConfigExc Framework Json := do
  let s ← get
  if s.initialized then
    let i ← configuration []
    pure i.config
  else
    match s.error with
    | some message => throw (.initialisationError message)
    | none =>
      let config ← tryCatch (attempt reg m) remember
      modify (fun s => { s with initialized := true })
      pure config

/-- `get_import_config`. -/
def getImportConfig (reg : Registry) (m : Surroundings) : EStateM ConfigExc Framework Json := do
  if (← get).initialized then
    let i ← configuration []
    pure i.config
  else initFramework reg m

end Calls

/-! ## Calls that settle the later ones -/

/-- The configuration is there. -/
def Ready (config : Json) (s : Framework) : Prop :=
  s.initialized = true ∧ ∃ i, s.current = some i ∧ i.config = config

/-- The calls are refused. -/
def Refusing (message : String) (s : Framework) : Prop :=
  s.initialized = false ∧ s.error = some message

/-- A process that is initialized has a configuration. -/
def Sound (s : Framework) : Prop := s.initialized = true → ∃ config, Ready config s

section Singleton

variable {files : List ConfFile} {i : Instance} {config : Json} {message : String} {e : ConfigExc}
  {s s₁ : Framework}

theorem configuration_some (h : s.current = some i) :
    configuration files s = .ok i s := by
  rw [configuration, get_bind, h]
  rfl

theorem configuration_ok (h : s.current = none)
    (hload : load files = .ok config) :
    configuration files s = .ok ⟨config, false⟩ { s with current := some ⟨config, false⟩ } := by
  rw [configuration, get_bind, h, hload]
  rfl

theorem configuration_error (h : s.current = none)
    (hload : load files = .error e) : configuration files s = .error e s := by
  rw [configuration, get_bind, h, hload]
  rfl

theorem change_of_ok {f : Json → Except ConfigExc Unit × Json} {b : Bool} (h : (f config).1 = .ok ()) :
    change f ⟨config, b⟩ = .ok () ⟨(f config).2, b⟩ := by
  rw [change]
  cases hf : f config with
  | mk r c =>
    rw [hf] at h
    cases h
    rfl

theorem change_of_error {f : Json → Except ConfigExc Unit × Json} {b : Bool}
    (h : (f config).1 = .error e) : change f ⟨config, b⟩ = .error e ⟨(f config).2, b⟩ := by
  rw [change]
  cases hf : f config with
  | mk r c =>
    rw [hf] at h
    cases h
    rfl

theorem inspect_ok {f : Json → Except ConfigExc Unit} (h : f i.config = .ok ()) :
    inspect f i = .ok () i := by
  rw [inspect, get_bind, h]
  rfl

theorem inspect_error {f : Json → Except ConfigExc Unit} (h : f i.config = .error e) :
    inspect f i = .error e i := by
  rw [inspect, get_bind, h]
  rfl

/-- The singleton leaves the rest of the process alone. -/
theorem configuration_cases (files : List ConfFile) (s : Framework) :
    (∃ e, configuration files s = .error e s) ∨
      ∃ i s₁, configuration files s = .ok i s₁ ∧ s₁.initialized = s.initialized ∧
        s₁.error = s.error := by
  cases hcurrent : s.current with
  | some i => exact .inr ⟨i, s, configuration_some hcurrent, rfl, rfl⟩
  | none =>
    cases hload : load files with
    | error e => exact .inl ⟨e, configuration_error hcurrent hload⟩
    | ok config => exact .inr ⟨_, _, configuration_ok hcurrent hload, rfl, rfl⟩

/-- What a call leaves behind. -/
structure Leaves (r : Except ConfigExc Json) (s : Framework) : Prop where
  sound : Sound s
  ready : ∀ config, r = .ok config → Ready config s
  refusing : ∀ message, r = .error (.importError message) → Refusing message s

theorem leaves_error (h : Sound s) (he : ∀ message, e ≠ .importError message) :
    Leaves (.error e) s where
  sound := h
  ready := by
    intro config hconfig
    cases hconfig
  refusing := by
    intro message hmessage
    exact absurd (Except.error.inj hmessage) (he message)

theorem leaves_ok (h : Ready config s) : Leaves (.ok config) s where
  sound := fun _ => ⟨config, h⟩
  ready := by
    rintro _ ⟨⟩
    exact h
  refusing := by
    intro message hmessage
    cases hmessage

theorem leaves_refused (h : Refusing message s) : Leaves (.error (.importError message)) s where
  sound := by
    intro hinit
    cases h.1.symm.trans hinit
  ready := by
    intro config hconfig
    cases hconfig
  refusing := by
    rintro _ ⟨⟩
    exact h

end Singleton

section Settled

variable [SetupRuntime] {reg : Registry} {m : Surroundings} {config : Json} {message : String}
  {i i' : Instance} {e : ConfigExc} {s s' s₁ : Framework}

theorem getImportConfig_of_ready (h : Ready config s) : getImportConfig reg m s = .ok config s := by
  obtain ⟨hinit, i, hi, rfl⟩ := h
  rw [getImportConfig, get_bind, if_pos hinit, bind_of_ok (configuration_some hi)]
  rfl

theorem getImportConfig_of_refusing (h : Refusing message s) :
    getImportConfig reg m s = .error (.initialisationError message) s := by
  have hnot : ¬ s.initialized = true := by simp [h.1]
  rw [getImportConfig, get_bind, if_neg hnot, initFramework, get_bind, if_neg hnot, h.2]
  rfl

theorem getImportConfig_of_open (hinit : s.initialized = false) (herror : s.error = none) :
    getImportConfig reg m s = (tryCatch (attempt reg m) remember >>= fun config => do
      modify (fun s => { s with initialized := true })
      pure config) s := by
  have hnot : ¬ s.initialized = true := by simp [hinit]
  rw [getImportConfig, get_bind, if_neg hnot, initFramework, get_bind, if_neg hnot, herror]

theorem getImportConfig_ok (hinit : s.initialized = false) (herror : s.error = none)
    (h : attempt reg m s = .ok config s') :
    getImportConfig reg m s = .ok config { s' with initialized := true } := by
  rw [getImportConfig_of_open hinit herror, bind_of_ok (tryCatch_of_ok h)]
  rfl

theorem getImportConfig_import (hinit : s.initialized = false) (herror : s.error = none)
    (h : attempt reg m s = .error (.importError message) s') :
    getImportConfig reg m s = .error (.importError message) { s' with error := some message } := by
  rw [getImportConfig_of_open hinit herror]
  apply bind_of_error
  rw [tryCatch_of_error h]
  rfl

theorem getImportConfig_other {e : ConfigExc} (he : ∀ message, e ≠ .importError message)
    (hinit : s.initialized = false) (herror : s.error = none)
    (h : attempt reg m s = .error e s') : getImportConfig reg m s = .error e s' := by
  rw [getImportConfig_of_open hinit herror]
  apply bind_of_error
  rw [tryCatch_of_error h]
  cases e with
  | importError message => exact absurd rfl (he message)
  | _ => rfl

theorem attempt_of_configuration_error (h : configuration m.files s = .error e s) :
    attempt reg m s = .error e s :=
  bind_of_error (bind_of_error h)

theorem attempt_of_setup_error (h : configuration m.files s = .ok i s₁)
    (hsetup : setupInstance reg m i = .error e i') :
    attempt reg m s = .error e { s₁ with current := some i' } := by
  apply bind_of_error
  rw [setupConfiguration, bind_of_ok h, onInstance, hsetup]

theorem setupConfiguration_ok (h : configuration m.files s = .ok i s₁)
    (hsetup : setupInstance reg m i = .ok () i') :
    setupConfiguration reg m s = .ok i'.config { s₁ with current := some i' } := by
  rw [setupConfiguration, bind_of_ok h, onInstance, hsetup]

theorem attempt_of_verify_error (h : configuration m.files s = .ok i s₁)
    (hsetup : setupInstance reg m i = .ok () i') (hverify : verify m i'.config = .error e) :
    attempt reg m s = .error e { s₁ with current := some i' } := by
  rw [attempt, bind_of_ok (setupConfiguration_ok h hsetup), hverify]
  rfl

theorem attempt_of_ok (h : configuration m.files s = .ok i s₁)
    (hsetup : setupInstance reg m i = .ok () i') (hverify : verify m i'.config = .ok ()) :
    attempt reg m s = .ok i'.config { s₁ with current := some i' } := by
  rw [attempt, bind_of_ok (setupConfiguration_ok h hsetup), hverify]
  rfl

/-- An attempt leaves the rest of the process alone, and returns the configuration of the
singleton. -/
theorem attempt_cases (reg : Registry) (m : Surroundings) (s : Framework) :
    (∃ e s', attempt reg m s = .error e s' ∧ s'.initialized = s.initialized ∧
        s'.error = s.error) ∨
      ∃ i s', attempt reg m s = .ok i.config s' ∧ s'.current = some i := by
  obtain ⟨e, h⟩ | ⟨i, s₁, h, hinit, herror⟩ := configuration_cases m.files s
  · exact .inl ⟨e, s, attempt_of_configuration_error h, rfl, rfl⟩
  · cases hsetup : setupInstance reg m i with
    | error e i' => exact .inl ⟨e, _, attempt_of_setup_error h hsetup, hinit, herror⟩
    | ok u i' =>
      cases hverify : verify m i'.config with
      | error e => exact .inl ⟨e, _, attempt_of_verify_error h hsetup hverify, hinit, herror⟩
      | ok u => exact .inr ⟨i', _, attempt_of_ok h hsetup hverify, rfl⟩

theorem getImportConfig_leaves (h : Sound s) :
    Leaves (outcome (getImportConfig reg m s)) (endState (getImportConfig reg m s)) := by
  cases hinit : s.initialized with
  | true =>
    obtain ⟨config, hready⟩ := h hinit
    rw [getImportConfig_of_ready hready]
    exact leaves_ok hready
  | false =>
    have hsound : ∀ {s' : Framework}, s'.initialized = s.initialized → Sound s' :=
      fun hs' hinit' => absurd (hinit'.symm.trans (hs'.trans hinit)) (by decide)
    cases herror : s.error with
    | some message =>
      rw [getImportConfig_of_refusing ⟨hinit, herror⟩]
      exact leaves_error h (by rintro _ ⟨⟩)
    | none =>
      obtain ⟨e, s', hattempt, hinit', -⟩ | ⟨i, s', hattempt, hcurrent⟩ := attempt_cases reg m s
      · by_cases he : ∃ message, e = .importError message
        · obtain ⟨message, rfl⟩ := he
          rw [getImportConfig_import hinit herror hattempt]
          exact leaves_refused ⟨hinit'.trans hinit, rfl⟩
        · rw [getImportConfig_other (not_exists.mp he) hinit herror hattempt]
          exact leaves_error (hsound hinit') (not_exists.mp he)
      · rw [getImportConfig_ok hinit herror hattempt]
        exact leaves_ok ⟨rfl, i, hcurrent, rfl⟩

theorem outcomes_of_ready {calls : List Surroundings} (h : Ready config s) :
    outcomes (getImportConfig reg) calls s = calls.map (fun _ => .ok config) := by
  refine outcomes_settled (fun m _ s hs => ?_) h
  rw [getImportConfig_of_ready hs]
  exact ⟨rfl, hs⟩

theorem outcomes_of_refusing {calls : List Surroundings} (h : Refusing message s) :
    outcomes (getImportConfig reg) calls s =
      calls.map (fun _ => .error (.initialisationError message)) := by
  refine outcomes_settled (fun m _ s hs => ?_) h
  rw [getImportConfig_of_refusing hs]
  exact ⟨rfl, hs⟩

/-- What the later calls of a process come to after a call. -/
structure Settles (earlier later : Except ConfigExc Json) : Prop where
  config : ∀ config, earlier = .ok config → later = .ok config
  refusal : ∀ message, earlier = .error (.importError message) →
    later = .error (.initialisationError message)

theorem settles_of_leaves {r later : Except ConfigExc Json} {calls : List Surroundings}
    (h : Leaves r s) (hlater : later ∈ outcomes (getImportConfig reg) calls s) :
    Settles r later where
  config := by
    intro config hconfig
    rw [outcomes_of_ready (h.ready config hconfig)] at hlater
    obtain ⟨m, -, rfl⟩ := List.mem_map.mp hlater
    rfl
  refusal := by
    intro message hmessage
    rw [outcomes_of_refusing (h.refusing message hmessage)] at hlater
    obtain ⟨m, -, rfl⟩ := List.mem_map.mp hlater
    rfl

theorem pairwise_settles (calls : List Surroundings) (h : Sound s) :
    (outcomes (getImportConfig reg) calls s).Pairwise Settles := by
  induction calls generalizing s with
  | nil => exact List.Pairwise.nil
  | cons m calls ih =>
    have hleaves : Leaves (outcome (getImportConfig reg m s)) (endState (getImportConfig reg m s)) :=
      getImportConfig_leaves h
    rw [outcomes_cons, List.pairwise_cons]
    exact ⟨fun later hlater => settles_of_leaves hleaves hlater, ih hleaves.sound⟩

/-- A call that returns the configuration makes all later ones return the same, whatever they
find. A call that raises an exception of the import makes all later ones raise its message. -/
theorem settled_run (reg : Registry) (calls : List Surroundings) :
    (outcomes (getImportConfig reg) calls .fresh).Pairwise Settles := by
  apply pairwise_settles
  intro hinit
  cases hinit

end Settled

/-! ## Calls without hooks -/

section History

variable [SetupRuntime]

def noHooks (config : Json) : Except ConfigExc Unit × Json := (.ok (), config)

/-- All that is checked of a configuration that is set up. -/
def verifyAll (m : Surroundings) (config : Json) : Except ConfigExc Unit := do
  m.checks config
  verify m config

/-- A call that raises an exception of the import, and the later ones. -/
def refused (message : String) (later : List Surroundings) : List (Except ConfigExc Json) :=
  .error (.importError message) :: later.map (fun _ => .error (.initialisationError message))

/-- The calls after one that leaves a closed configuration behind and no exception. -/
def abandoned : List Surroundings → List (Except ConfigExc Json)
  | [] => []
  | _ :: later => refused readOnlyMessage later

/-- A call that sets the configuration up, and the later ones. -/
def judged (m : Surroundings) (config : Json) (later : List Surroundings) :
    List (Except ConfigExc Json) :=
  match verifyAll m config with
  | .ok () => .ok config :: later.map (fun _ => .ok config)
  | .error (.importError message) => refused message later
  | .error e => .error e :: abandoned later

/-- The first call whose files make a configuration, and the later ones. -/
def decided (reg : Registry) (base : Json) (m : Surroundings) (later : List Surroundings) :
    List (Except ConfigExc Json) :=
  match prepare reg base with
  | (.error e, _) => .error e :: later.map (fun _ => .error e)
  | (.ok (), config) => judged m config later

/-- What the calls of a process come to. -/
def history (reg : Registry) : List Surroundings → List (Except ConfigExc Json)
  | [] => []
  | m :: later =>
    match load m.files with
    | .ok base => decided reg base m later
    | .error (.importError message) => refused message later
    | .error e => .error e :: history reg later

variable {reg : Registry} {m : Surroundings} {calls : List Surroundings} {base config c : Json}
  {message : String} {i : Instance} {e : ConfigExc} {s s₁ : Framework}

theorem setupInstance_closed (h : i.closed = true) :
    setupInstance reg m i = .error (.importError readOnlyMessage) i := by
  apply bind_of_error
  rw [update, get_bind, if_pos h]
  rfl

theorem change_leaving_ok (h : setUsernameMaxLength reg config = .ok c) :
    change (leaving (setUsernameMaxLength reg)) ⟨config, false⟩ = .ok () ⟨c, false⟩ := by
  rw [change, leaving, h]

theorem change_leaving_error (h : setUsernameMaxLength reg config = .error e) :
    change (leaving (setUsernameMaxLength reg)) ⟨config, false⟩ = .error e ⟨config, false⟩ := by
  rw [change, leaving, h]

/-- Without hooks, `check_mandatory_attributes` follows the lengths. -/
theorem setupInstance_of_lengths (hhooks : m.hooks = noHooks)
    (h : setUsernameMaxLength reg config = .ok c) :
    setupInstance reg m ⟨config, false⟩ = (change checkMandatoryAttributes >>= fun _ => do
      close
      inspect m.checks) ⟨c, false⟩ := by
  have hupdate : update ⟨config, false⟩ = .ok () ⟨config, false⟩ := rfl
  have hhook : change m.hooks ⟨c, false⟩ = .ok () ⟨c, false⟩ := by
    rw [hhooks]
    rfl
  rw [setupInstance, bind_of_ok hupdate, bind_of_ok (change_leaving_ok h), bind_of_ok hhook]

/-- The steps up to the closing are those of `prepare`. -/
theorem setupInstance_error (hhooks : m.hooks = noHooks) (h : (prepare reg config).1 = .error e) :
    setupInstance reg m ⟨config, false⟩ = .error e ⟨(prepare reg config).2, false⟩ := by
  have hupdate : update ⟨config, false⟩ = .ok () ⟨config, false⟩ := rfl
  cases hset : setUsernameMaxLength reg config with
  | error e' =>
    rw [prepare_of_error hset] at h ⊢
    cases h
    rw [setupInstance, bind_of_ok hupdate]
    exact bind_of_error (change_leaving_error hset)
  | ok c =>
    rw [prepare_of_ok hset] at h ⊢
    rw [setupInstance_of_lengths hhooks hset]
    exact bind_of_error (change_of_error h)

theorem setupInstance_prepared (hhooks : m.hooks = noHooks) (h : (prepare reg config).1 = .ok ()) :
    setupInstance reg m ⟨config, false⟩ = inspect m.checks ⟨(prepare reg config).2, true⟩ := by
  obtain ⟨c, hset, hcheck, heq⟩ := exists_of_prepare h
  rw [setupInstance_of_lengths hhooks hset, bind_of_ok (change_of_ok hcheck), heq]
  rfl

/-- A first attempt, on files that make a configuration that cannot be set up. -/
theorem attempt_unprepared (hhooks : m.hooks = noHooks)
    (hconf : configuration m.files s = .ok ⟨config, false⟩ s₁)
    (h : (prepare reg config).1 = .error e) :
    attempt reg m s =
      .error e { s₁ with current := some ⟨(prepare reg config).2, false⟩ } :=
  attempt_of_setup_error hconf (setupInstance_error hhooks h)

/-- An attempt that comes to the checks. -/
theorem attempt_prepared (hhooks : m.hooks = noHooks)
    (hconf : configuration m.files s = .ok ⟨config, false⟩ s₁)
    (h : (prepare reg config).1 = .ok ()) :
    (verifyAll m (prepare reg config).2 = .ok () → attempt reg m s =
      .ok (prepare reg config).2 { s₁ with current := some ⟨(prepare reg config).2, true⟩ }) ∧
    ∀ e, verifyAll m (prepare reg config).2 = .error e → attempt reg m s =
      .error e { s₁ with current := some ⟨(prepare reg config).2, true⟩ } := by
  have hsetup := setupInstance_prepared hhooks h
  cases hchecks : m.checks (prepare reg config).2 with
  | error e' =>
    rw [inspect_error hchecks] at hsetup
    refine ⟨fun hverify => ?_, fun e hverify => ?_⟩
    · rw [verifyAll, hchecks] at hverify
      cases hverify
    · rw [verifyAll, hchecks] at hverify
      cases hverify
      exact attempt_of_setup_error hconf hsetup
  | ok u =>
    have hrest : verifyAll m (prepare reg config).2 = verify m (prepare reg config).2 := by
      rw [verifyAll, hchecks]
      rfl
    rw [inspect_ok hchecks] at hsetup
    rw [hrest]
    exact ⟨attempt_of_ok hconf hsetup, fun e => attempt_of_verify_error hconf hsetup⟩

theorem outcomes_of_import {s' : Framework} (hinit : s.initialized = false) (herror : s.error = none)
    (h : attempt reg m s = .error (.importError message) s')
    (hinit' : s'.initialized = false) :
    outcomes (getImportConfig reg) (m :: calls) s = refused message calls := by
  rw [outcomes_cons, getImportConfig_import hinit herror h]
  exact congrArg _ (outcomes_of_refusing ⟨hinit', rfl⟩)

/-- A configuration that cannot be set up is not read again. -/
theorem outcomes_of_unprepared (hhooks : ∀ m ∈ calls, m.hooks = noHooks)
    (h : (prepare reg config).1 = .error e) :
    outcomes (getImportConfig reg) calls ⟨some ⟨config, false⟩, false, none⟩ =
      calls.map (fun _ => .error e) := by
  have he : ∀ message, e ≠ .importError message := fun message heq =>
    pythonOnly_prepare message (h.trans (congrArg Except.error heq))
  refine outcomes_settled (P := fun s => ∃ config, s = ⟨some ⟨config, false⟩, false, none⟩ ∧
    (prepare reg config).1 = .error e) ?_ ⟨config, rfl, h⟩
  rintro m hm s ⟨config, rfl, h⟩
  have hconf : configuration m.files ⟨some ⟨config, false⟩, false, none⟩ =
      .ok ⟨config, false⟩ ⟨some ⟨config, false⟩, false, none⟩ := configuration_some rfl
  rw [getImportConfig_other he rfl rfl (attempt_unprepared (hhooks m hm) hconf h)]
  exact ⟨rfl, _, rfl, prepare_again h⟩

theorem outcomes_of_closed :
    outcomes (getImportConfig reg) calls ⟨some ⟨config, true⟩, false, none⟩ = abandoned calls := by
  cases calls with
  | nil => rfl
  | cons m calls =>
    have hconf : configuration m.files ⟨some ⟨config, true⟩, false, none⟩ =
        .ok ⟨config, true⟩ ⟨some ⟨config, true⟩, false, none⟩ := configuration_some rfl
    exact outcomes_of_import rfl rfl
      (attempt_of_setup_error hconf (setupInstance_closed rfl)) rfl

theorem decided_error {later : List Surroundings} (h : (prepare reg base).1 = .error e) :
    decided reg base m later = .error e :: later.map (fun _ => .error e) := by
  rw [decided]
  cases hprepare : prepare reg base with
  | mk r config =>
    rw [hprepare] at h
    cases h
    rfl

theorem decided_ok {later : List Surroundings} (h : (prepare reg base).1 = .ok ()) :
    decided reg base m later = judged m (prepare reg base).2 later := by
  rw [decided]
  cases hprepare : prepare reg base with
  | mk r config =>
    rw [hprepare] at h
    cases h
    rfl

/-- The call that comes to the checks. -/
theorem outcomes_of_prepared (hhooks : m.hooks = noHooks) (hload : load m.files = .ok base)
    (h : (prepare reg base).1 = .ok ()) :
    outcomes (getImportConfig reg) (m :: calls) .fresh = judged m (prepare reg base).2 calls := by
  have hconf : configuration m.files .fresh =
      .ok ⟨base, false⟩ ⟨some ⟨base, false⟩, false, none⟩ := configuration_ok rfl hload
  obtain ⟨hok, herror⟩ := attempt_prepared hhooks hconf h
  rw [judged]
  cases hverify : verifyAll m (prepare reg base).2 with
  | ok u =>
    rw [outcomes_cons, getImportConfig_ok rfl rfl (hok hverify)]
    exact congrArg _ (outcomes_of_ready ⟨rfl, _, rfl, rfl⟩)
  | error e =>
    have hattempt := herror e hverify
    by_cases he : ∃ message, e = .importError message
    · obtain ⟨message, rfl⟩ := he
      exact outcomes_of_import rfl rfl hattempt rfl
    · rw [outcomes_cons, getImportConfig_other (not_exists.mp he) rfl rfl hattempt]
      cases e with
      | importError message => exact absurd rfl (not_exists.mp he message)
      | _ => exact congrArg _ outcomes_of_closed

/-- The call whose files make a configuration decides about the later ones. -/
theorem outcomes_of_load (hhooks : ∀ m' ∈ m :: calls, m'.hooks = noHooks)
    (hload : load m.files = .ok base) :
    outcomes (getImportConfig reg) (m :: calls) .fresh = decided reg base m calls := by
  rw [List.forall_mem_cons] at hhooks
  cases h : (prepare reg base).1 with
  | error e =>
    have hconf : configuration m.files .fresh =
        .ok ⟨base, false⟩ ⟨some ⟨base, false⟩, false, none⟩ := configuration_ok rfl hload
    have he : ∀ message, e ≠ .importError message := fun message heq =>
      pythonOnly_prepare message (h.trans (congrArg Except.error heq))
    rw [decided_error h, outcomes_cons,
      getImportConfig_other he rfl rfl (attempt_unprepared hhooks.1 hconf h)]
    exact congrArg _ (outcomes_of_unprepared hhooks.2 (prepare_again h))
  | ok u =>
    rw [decided_ok h]
    exact outcomes_of_prepared hhooks.1 hload h

theorem outcomes_of_load_error (hload : load m.files = .error e)
    (he : ∀ message, e ≠ .importError message) :
    outcomes (getImportConfig reg) (m :: calls) .fresh =
      .error e :: outcomes (getImportConfig reg) calls .fresh := by
  have hattempt : attempt reg m .fresh = .error e .fresh :=
    attempt_of_configuration_error (configuration_error rfl hload)
  rw [outcomes_cons, getImportConfig_other he rfl rfl hattempt]
  rfl

/-- Without hooks, the calls of a process come to this: as long as the files do not go over each
other, each call raises that. The first call whose files make a configuration decides about all
later ones, which do not read theirs. -/
theorem outcomes_eq_history (reg : Registry) (calls : List Surroundings)
    (hhooks : ∀ m ∈ calls, m.hooks = noHooks) :
    outcomes (getImportConfig reg) calls .fresh = history reg calls := by
  induction calls with
  | nil => rfl
  | cons m calls ih =>
    rw [history]
    cases hload : load m.files with
    | ok base => exact outcomes_of_load hhooks hload
    | error e =>
      have hrest := ih (List.forall_mem_cons.mp hhooks).2
      cases e with
      | importError message =>
        exact outcomes_of_import rfl rfl
          (attempt_of_configuration_error (configuration_error rfl hload)) rfl
      | _ =>
        rw [outcomes_of_load_error hload (by rintro message ⟨⟩), hrest]

end History

/-- A call whose files ask for no configuration checks. -/
def demoCall : Surroundings := ⟨demoFiles, noHooks, fun _ => .ok (), fun _ => .ok ()⟩

/-- The first call raises what is missing, and the second one raises it again. -/
theorem outcomes_demo : outcomes (@getImportConfig demoRuntime ⟨none, none⟩) [demoCall, demoCall]
    .fresh = [.error (.importError (missingMessage "mapped_udm_properties")),
      .error (.initialisationError (missingMessage "mapped_udm_properties"))] := by
  have hhooks : ∀ m ∈ [demoCall, demoCall], m.hooks = noHooks := by
    intro m hm
    obtain rfl : m = demoCall := by simpa using hm
    rfl
  rw [@outcomes_eq_history demoRuntime ⟨none, none⟩ [demoCall, demoCall] hhooks]
  rfl

end ImportConfig

end Kelvin
