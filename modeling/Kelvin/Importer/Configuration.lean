import Kelvin.Data.JsonDiff
import Kelvin.Data.Overlay

/-!
# The configuration of the import

`Configuration` and `setup_configuration` of `configuration.py`, with which the API reads the
configuration of the import framework.

* `typedUpdate`: a dictionary over another one.
* `Configuration.load`: the files, one after the other.
* `load_iff`: when the files go together, and the value that each path has then.
-/

namespace Kelvin

namespace Importer

namespace Configuration

open Json

/-- What is raised. Of the exceptions of Python only the kind is kept. -/
inductive ConfigExc where
  | attributeError
  | typeError
  | valueError
  | keyError (key : String)
  /-- `UcsSchoolImportError` and what is derived from it. -/
  | importError (message : String)
  /-- `InitialisationError` of `import_config.py`, which is not derived from it. -/
  | initialisationError (message : String)
  /-- What is raised by code that is plugged in. -/
  | other (name : String)
deriving DecidableEq

/-! ## Dictionaries -/

/-- `a.get(key, {})`. -/
def getItemOrEmpty (key : String) : Json → Except ConfigExc Json
  | .obj fields => .ok ((field? key fields).getD (.obj []))
  | _ => .error .attributeError

/-- `a[key] = value`. -/
def setItem (key : String) (value : Json) : Json → Except ConfigExc Json
  | .obj fields => .ok (.obj (putField key value fields))
  | _ => .error .typeError

mutual

/-- One item of `_recursive_typed_update`. A value that is no dictionary is converted to its own
type, which leaves it as it is. -/
def updateItem (a : Json) (key : String) : Json → Except ConfigExc Json
  | .obj fields => do
    let old ← getItemOrEmpty key a
    let new ← typedUpdate old fields
    setItem key new a
  | value => setItem key value a

/-- `_recursive_typed_update`. -/
def typedUpdate (a : Json) : Members → Except ConfigExc Json
  | [] => .ok a
  | (key, value) :: rest => do
    let a' ← updateItem a key value
    typedUpdate a' rest

end

/-- The dictionary of a file. -/
structure Document where
  fields : Members
  decoded : Decoded (.obj fields)

def Document.json (d : Document) : Json := .obj d.fields

/-- `ConfigurationFile.read`, for files that hold dictionaries. -/
inductive Reading where
  | document (d : Document)
  | valueError (message : String)
  | ioError (message : String)

structure ConfFile where
  filename : String
  reading : Reading

/-- A configuration that is empty so far is replaced by the dictionary of the next file. -/
def addDocument (config : Json) (d : Document) : Except ConfigExc Json :=
  if config = .obj [] then .ok d.json else typedUpdate config d.fields

/-- The next file. -/
def addFile (config : Json) (file : ConfFile) : Except ConfigExc Json :=
  match file.reading with
  | .document d => addDocument config d
  | .valueError message =>
    .error (.importError ("Error in configuration file '" ++ file.filename ++ "': " ++ message ++ "."))
  | .ioError message =>
    .error (.importError ("Error reading configuration file " ++ message ++ "."))

/-- `Configuration`. -/
def load (files : List ConfFile) : Except ConfigExc Json :=
  if files.isEmpty then .error (.importError "Configuration not yet loaded.")
  else files.foldlM addFile (.obj [])

/-! ## One dictionary over another -/

section Updates

variable {a c v : Json} {k : String} {fa b : Members} {path : List String}

/-- What becomes of the value under a key. -/
def updateChild (old : Option Json) : Json → Except ConfigExc Json
  | .obj fields => typedUpdate (old.getD (.obj [])) fields
  | value => .ok value

theorem updateChild_obj {old : Option Json} (h : updateChild old (.obj b) = .ok c) :
    typedUpdate (old.getD (.obj [])) b = .ok c := h

theorem updateChild_not_obj {old : Option Json} (hv : isObj v = false)
    (h : updateChild old v = .ok c) : c = v := by
  cases v with
  | obj fields => cases hv
  | _ => cases h; rfl

theorem updateItem_obj : updateItem (.obj fa) k v =
    (updateChild (field? k fa) v).map (fun c => .obj (putField k c fa)) := by
  cases v with
  | obj fields =>
    simp only [updateItem, updateChild, getItemOrEmpty, setItem]
    show (typedUpdate ((field? k fa).getD (.obj [])) fields >>=
      fun new => Except.ok (Json.obj (putField k new fa))) = _
    cases typedUpdate ((field? k fa).getD (.obj [])) fields <;> rfl
  | _ => rfl

theorem updateItem_not_obj (h : isObj a = false) : ∃ e, updateItem a k v = .error e := by
  cases v <;> cases a <;> first | exact absurd h Bool.noConfusion | exact ⟨_, rfl⟩

/-- A value that is no dictionary only takes an empty one over it. -/
theorem typedUpdate_not_obj (h : isObj a = false) : typedUpdate a b = .ok c ↔ b = [] ∧ c = a := by
  cases b with
  | nil =>
    rw [typedUpdate, Except.ok.injEq, eq_comm (a := a)]
    simp
  | cons f rest =>
    obtain ⟨e, he⟩ := updateItem_not_obj (k := f.1) (v := f.2) h
    rw [typedUpdate, he]
    constructor
    · intro hok
      cases hok
    · rintro ⟨hnil, -⟩
      cases hnil

/-- An updated dictionary, key by key. -/
structure Updated (fa b fc : Members) : Prop where
  kept : ∀ k, field? k b = none → field? k fc = field? k fa
  given : ∀ k v, field? k b = some v →
    ∃ c, updateChild (field? k fa) v = .ok c ∧ field? k fc = some c

theorem field?_of_not_mem (h : k ∉ b.map Prod.fst) : field? k b = none :=
  not_not.mp (fun hne => h (field?_ne_none.mp hne))

theorem typedUpdate_obj (hb : (b.map Prod.fst).Nodup) (h : typedUpdate (.obj fa) b = .ok c) :
    ∃ fc, c = .obj fc ∧ Updated fa b fc := by
  induction b generalizing fa with
  | nil =>
    cases h
    exact ⟨fa, rfl, fun _ _ => rfl, fun k v hv => absurd hv (by simp [field?_nil])⟩
  | cons f rest ih =>
    obtain ⟨key, value⟩ := f
    rw [List.map_cons, List.nodup_cons] at hb
    have hrest : field? key rest = none := field?_of_not_mem hb.1
    rw [typedUpdate, updateItem_obj] at h
    cases hchild : updateChild (field? key fa) value with
    | error e =>
      rw [hchild] at h
      cases h
    | ok new =>
      rw [hchild] at h
      obtain ⟨fc, rfl, hupdated⟩ := ih hb.2 h
      have hother : ∀ {k}, k ≠ key → field? k (putField key new fa) = field? k fa := fun hk =>
        field?_putField_ne hk
      refine ⟨fc, rfl, fun k hk => ?_, fun k v hv => ?_⟩
      · rw [field?_cons] at hk
        split_ifs at hk with hkey
        rw [hupdated.kept k hk, hother (Ne.symm hkey)]
      · rw [field?_cons] at hv
        split_ifs at hv with hkey
        · cases hkey
          cases hv
          refine ⟨new, hchild, ?_⟩
          rw [hupdated.kept key hrest, field?_putField_self]
        · rw [← hother (Ne.symm hkey)]
          exact hupdated.given k v hv

theorem exists_typedUpdate (hb : (b.map Prod.fst).Nodup)
    (h : ∀ k v, field? k b = some v → ∃ c, updateChild (field? k fa) v = .ok c) :
    ∃ c, typedUpdate (.obj fa) b = .ok c := by
  induction b generalizing fa with
  | nil => exact ⟨.obj fa, rfl⟩
  | cons f rest ih =>
    obtain ⟨key, value⟩ := f
    rw [List.map_cons, List.nodup_cons] at hb
    obtain ⟨new, hnew⟩ := h key value (by rw [field?_cons, if_pos rfl])
    rw [typedUpdate, updateItem_obj, hnew]
    refine ih hb.2 (fun k v hv => ?_)
    have hkey : k ≠ key := by
      rintro rfl
      rw [field?_of_not_mem hb.1] at hv
      cases hv
    rw [field?_putField_ne hkey]
    exact h k v (by rw [field?_cons, if_neg hkey.symm, hv])

/-! ## Values at paths -/

/-- A key that is missing is as good as one with an empty dictionary. -/
theorem leafAt_getD {old : Option Json} :
    LeafAt (old.getD (.obj [])) path v ↔ ∃ o, old = some o ∧ LeafAt o path v := by
  cases old with
  | none =>
    refine ⟨fun hv => absurd hv not_leafAt_empty, ?_⟩
    rintro ⟨o, ho, -⟩
    cases ho
  | some o => simp

/-- The values of an updated document are those that are laid over it, and its own where none of
them is on the way. -/
theorem leafAt_typedUpdate (hb : Decoded (.obj b)) (h : typedUpdate a b = .ok c) :
    LeafAt c path v ↔ LeafAt (.obj b) path v ∨ (LeafAt a path v ∧ ¬ Settles (.obj b) path) := by
  induction path generalizing a b c with
  | nil =>
    obtain ⟨fa, rfl⟩ | hobj := obj_or_not a
    · obtain ⟨fc, rfl, -⟩ := typedUpdate_obj hb.keys h
      exact ⟨fun hv => absurd hv not_leafAt_obj,
        fun hv => absurd (hv.resolve_left not_leafAt_obj).1 not_leafAt_obj⟩
    · obtain ⟨rfl, rfl⟩ := (typedUpdate_not_obj hobj).mp h
      exact ⟨fun hv => .inr ⟨hv, not_settles_nil⟩, fun hv => (hv.resolve_left not_leafAt_obj).1⟩
  | cons k path ih =>
    obtain ⟨fa, rfl⟩ | hobj := obj_or_not a
    · obtain ⟨fc, rfl, hupdated⟩ := typedUpdate_obj hb.keys h
      rw [leafAt_cons, leafAt_cons, leafAt_cons, settles_cons]
      cases hgiven : field? k b with
      | none =>
        rw [hupdated.kept k hgiven]
        simp
      | some w =>
        obtain ⟨new, hnew, hfound⟩ := hupdated.given k w hgiven
        rw [hfound]
        simp only [Option.some.injEq, exists_eq_left']
        obtain ⟨fw, rfl⟩ | hw := obj_or_not w
        · rw [ih (hb.child hgiven) (updateChild_obj hnew), leafAt_getD]
        · rw [updateChild_not_obj hw hnew]
          exact ⟨.inl, fun hv => hv.resolve_right (fun hold => hold.2 (settles_of_not_obj hw))⟩
    · obtain ⟨rfl, rfl⟩ := (typedUpdate_not_obj hobj).mp h
      exact ⟨fun hv => absurd hv (not_leafAt_below hobj),
        fun hv => (hv.resolve_left not_leafAt_empty).1⟩

theorem fits_getD {old : Option Json} {d : Json} :
    Fits (old.getD (.obj [])) d ↔ ∀ o, old = some o → Fits o d := by
  cases old with
  | none =>
    refine ⟨fun _ o ho => ?_, fun _ => fits_empty⟩
    cases ho
  | some o => simp

theorem updateChild_of_not_obj {old : Option Json} (hv : isObj v = false) :
    updateChild old v = .ok v := by
  cases v with
  | obj fields => cases hv
  | _ => rfl

/-- A dictionary goes over a value exactly if it has nothing below what is there. -/
theorem typedUpdate_ok_iff (hb : Decoded (.obj b)) :
    (∃ c, typedUpdate a b = .ok c) ↔ Fits a (.obj b) := by
  induction hsize : sizeOf (Json.obj b) using Nat.strong_induction_on generalizing a b with
  | _ n ih =>
    -- a dictionary under a key is smaller
    have hchild : ∀ {k fw} (old : Option Json), field? k b = some (.obj fw) →
        ((∃ c, updateChild old (.obj fw) = .ok c) ↔ ∀ o, old = some o → Fits o (.obj fw)) := by
      intro k fw old hw
      rw [← fits_getD]
      exact ih _ (hsize ▸ sizeOf_field? hw) (hb.child hw) rfl
    obtain ⟨fa, rfl⟩ | hobj := obj_or_not a
    · rw [fits_obj]
      constructor
      · rintro ⟨c, hc⟩ k old w hold hw
        obtain ⟨fc, -, hupdated⟩ := typedUpdate_obj hb.keys hc
        obtain ⟨new, hnew, -⟩ := hupdated.given k w hw
        obtain ⟨fw, rfl⟩ | hw' := obj_or_not w
        · exact (hchild (field? k fa) hw).mp ⟨new, hnew⟩ old hold
        · exact fits_of_not_obj hw'
      · intro hfits
        refine exists_typedUpdate hb.keys (fun k w hw => ?_)
        obtain ⟨fw, rfl⟩ | hw' := obj_or_not w
        · exact (hchild (field? k fa) hw).mpr (fun o ho => hfits k o _ ho hw)
        · exact ⟨w, updateChild_of_not_obj hw'⟩
    · rw [fits_not_obj hobj]
      constructor
      · rintro ⟨c, hc⟩
        exact ((typedUpdate_not_obj hobj).mp hc).1
      · intro hnil
        exact ⟨a, (typedUpdate_not_obj hobj).mpr ⟨hnil, rfl⟩⟩

end Updates

/-! ## Reading the files -/

section Load

variable {a c v : Json} {d : Document} {docs : List Document} {file : ConfFile}
  {files : List ConfFile} {path : List String}

theorem addDocument_empty : addDocument (.obj []) d = .ok d.json := if_pos rfl

theorem addDocument_ne (ha : a ≠ .obj []) : addDocument a d = typedUpdate a d.fields := if_neg ha

theorem addDocument_ok_iff : (∃ c, addDocument a d = .ok c) ↔ Fits a d.json := by
  by_cases ha : a = .obj []
  · subst ha
    exact ⟨fun _ => fits_empty, fun _ => ⟨d.json, addDocument_empty⟩⟩
  · rw [addDocument_ne ha]
    exact typedUpdate_ok_iff d.decoded

theorem leafAt_addDocument (h : addDocument a d = .ok c) :
    LeafAt c path v ↔ LeafAt d.json path v ∨ (LeafAt a path v ∧ ¬ Settles d.json path) := by
  by_cases ha : a = .obj []
  · subst ha
    cases addDocument_empty.symm.trans h
    exact ⟨.inl, fun hv => hv.resolve_right (fun hold => not_leafAt_empty hold.1)⟩
  · rw [addDocument_ne ha] at h
    exact leafAt_typedUpdate d.decoded h

/-- The files can be read, and hold these dictionaries. -/
def Reads (files : List ConfFile) (docs : List Document) : Prop :=
  files.map ConfFile.reading = docs.map Reading.document

theorem reads_nil : Reads [] docs ↔ docs = [] := by
  rw [Reads, List.map_nil, eq_comm, List.map_eq_nil_iff]

theorem reads_append_singleton : Reads (files ++ [file]) docs ↔
    ∃ docs' d, docs = docs' ++ [d] ∧ Reads files docs' ∧ file.reading = .document d := by
  constructor
  · intro h
    obtain rfl | ⟨docs', d, rfl⟩ := docs.eq_nil_or_concat'
    · simp [Reads] at h
    · rw [Reads, List.map_append, List.map_append] at h
      obtain ⟨hfiles, hfile⟩ := List.append_inj' h rfl
      exact ⟨docs', d, rfl, hfiles, List.singleton_inj.mp hfile⟩
  · rintro ⟨docs', d, rfl, hfiles, hfile⟩
    rw [Reads, List.map_append, List.map_append, List.map_singleton, List.map_singleton, hfile]
    exact congrArg (fun rs => rs ++ [Reading.document d]) hfiles

/-- What the files that are read so far have made of the configuration. -/
structure Laid (files : List ConfFile) (result : Except ConfigExc Json) : Prop where
  ok_iff : (∃ config, result = .ok config) ↔
    ∃ docs, Reads files docs ∧ Layered (docs.map Document.json)
  leaves : ∀ config docs, result = .ok config → Reads files docs →
    ∀ path v, LeafAt config path v ↔ LastGiven (docs.map Document.json) path v

theorem laid_nil : Laid [] (.ok (.obj [])) where
  ok_iff := ⟨fun _ => ⟨[], reads_nil.mpr rfl, layered_nil⟩, fun _ => ⟨.obj [], rfl⟩⟩
  leaves := by
    rintro config docs hconfig hdocs path v
    cases hconfig
    rw [reads_nil.mp hdocs]
    exact ⟨fun hv => absurd hv not_leafAt_empty, fun hv => absurd hv lastGiven_nil⟩

/-- A file that is not read, or that comes after an exception. -/
theorem laid_error {e : ConfigExc}
    (h : ∀ docs, Reads files docs → ¬ Layered (docs.map Document.json)) :
    Laid files (.error e) where
  ok_iff := by
    constructor
    · rintro ⟨config, hconfig⟩
      cases hconfig
    · rintro ⟨docs, hdocs, hlayered⟩
      exact absurd hlayered (h docs hdocs)
  leaves := by
    rintro config docs hconfig
    cases hconfig

theorem map_json_append : (docs ++ [d]).map Document.json = docs.map Document.json ++ [d.json] :=
  List.map_append

theorem Laid.add_unread (hread : ∀ d, file.reading ≠ .document d) {e : ConfigExc} :
    Laid (files ++ [file]) (.error e) := by
  refine laid_error (fun docs hdocs => ?_)
  obtain ⟨docs', d, -, -, hfile⟩ := reads_append_singleton.mp hdocs
  exact absurd hfile (hread d)

theorem Laid.after_error {e : ConfigExc} (h : Laid files (.error e)) :
    Laid (files ++ [file]) (.error e) := by
  refine laid_error (fun docs hdocs hlayered => ?_)
  obtain ⟨docs', d, rfl, hdocs', -⟩ := reads_append_singleton.mp hdocs
  rw [map_json_append, layered_append_singleton] at hlayered
  obtain ⟨config, hconfig⟩ := h.ok_iff.mpr ⟨docs', hdocs', hlayered.1⟩
  cases hconfig

theorem Laid.add_document (h : Laid files (.ok a)) (hfile : file.reading = .document d) :
    Laid (files ++ [file]) (addDocument a d) := by
  obtain ⟨docs₀, hdocs₀, hlayered₀⟩ := h.ok_iff.mp ⟨a, rfl⟩
  have hunique : ∀ docs, Reads files docs → docs = docs₀ := fun docs hdocs =>
    (List.map_inj_right (fun _ _ hd => Reading.document.inj hd)).mp (hdocs.symm.trans hdocs₀)
  have hleaves := h.leaves a docs₀ rfl hdocs₀
  have hadded : ∀ docs, Reads (files ++ [file]) docs ↔ docs = docs₀ ++ [d] := by
    intro docs
    rw [reads_append_singleton]
    constructor
    · rintro ⟨docs', d', rfl, hdocs', hfile'⟩
      cases hfile.symm.trans hfile'
      rw [hunique docs' hdocs']
    · rintro rfl
      exact ⟨docs₀, d, rfl, hdocs₀, hfile⟩
  have hfits : Fits a d.json ↔ ∀ path v k, LastGiven (docs₀.map Document.json) path v →
      valueAt (path ++ [k]) d.json = none :=
    forall₃_congr (fun path v k => by rw [hleaves path v])
  refine ⟨?_, fun c docs hc hdocs path v => ?_⟩
  · rw [addDocument_ok_iff]
    constructor
    · intro hok
      refine ⟨docs₀ ++ [d], (hadded _).mpr rfl, ?_⟩
      rw [map_json_append, layered_append_singleton]
      exact ⟨hlayered₀, hfits.mp hok⟩
    · rintro ⟨docs, hdocs, hlayered⟩
      rw [(hadded docs).mp hdocs, map_json_append, layered_append_singleton] at hlayered
      exact hfits.mpr hlayered.2
  · rw [(hadded docs).mp hdocs, map_json_append, lastGiven_append_singleton, ← hleaves path v]
    exact leafAt_addDocument hc

theorem laid_foldlM (files : List ConfFile) : Laid files (files.foldlM addFile (.obj [])) := by
  induction files using List.reverseRecOn with
  | nil => exact laid_nil
  | append_singleton files file ih =>
    have hstep : (files ++ [file]).foldlM addFile (.obj []) =
        files.foldlM addFile (.obj []) >>= fun config => addFile config file := by
      simp only [List.foldlM_append, List.foldlM_cons, List.foldlM_nil, bind_pure]
    rw [hstep]
    cases hconfig : files.foldlM addFile (.obj []) with
    | error e => exact (hconfig ▸ ih).after_error
    | ok config =>
      show Laid (files ++ [file]) (addFile config file)
      rw [addFile]
      cases hfile : file.reading with
      | document d => exact (hconfig ▸ ih).add_document hfile
      | valueError message => exact Laid.add_unread (fun d hd => by cases hfile.symm.trans hd)
      | ioError message => exact Laid.add_unread (fun d hd => by cases hfile.symm.trans hd)

/-- The files make a configuration exactly if all of them are read, there is one, and none has
something below a value that the files before it leave. Each path has the value of the last file
that settles it then. -/
theorem load_iff (files : List ConfFile) :
    ((∃ config, load files = .ok config) ↔
      ∃ docs, docs ≠ [] ∧ Reads files docs ∧ Layered (docs.map Document.json)) ∧
      ∀ config docs, load files = .ok config → Reads files docs →
        ∀ path v, LeafAt config path v ↔ LastGiven (docs.map Document.json) path v := by
  cases files with
  | nil =>
    refine ⟨⟨?_, ?_⟩, ?_⟩
    · rintro ⟨config, hconfig⟩
      cases hconfig
    · rintro ⟨docs, hne, hdocs, -⟩
      exact absurd (reads_nil.mp hdocs) hne
    · rintro config docs hconfig
      cases hconfig
  | cons file files =>
    have hlaid : Laid (file :: files) (load (file :: files)) := laid_foldlM (file :: files)
    have hne : ∀ docs, Reads (file :: files) docs → docs ≠ [] := by
      rintro docs hdocs rfl
      cases hdocs
    refine ⟨hlaid.ok_iff.trans (exists_congr (fun docs => ?_)), hlaid.leaves⟩
    exact ⟨fun h => ⟨hne docs h.1, h⟩, fun h => h.2⟩

def demoDefaults : Members :=
  [("mandatory_attributes", .arr [.str "mailPrimaryAddress"]),
    ("username", .obj [("max_length", .obj [("default", .int 20)])])]

def demoUser : Members := [("username", .obj [("max_length", .obj [("student", .int 15)])])]

theorem decoded_demoDefaults : Decoded (.obj demoDefaults) := by
  refine decoded_obj (by decide) (List.forall_mem_cons.mpr ⟨decoded_of_not_obj rfl, ?_⟩)
  refine List.forall_mem_singleton.mpr (decoded_obj (by decide) (List.forall_mem_singleton.mpr ?_))
  exact decoded_obj (by decide) (List.forall_mem_singleton.mpr (decoded_of_not_obj rfl))

theorem decoded_demoUser : Decoded (.obj demoUser) := by
  refine decoded_obj (by decide) (List.forall_mem_singleton.mpr ?_)
  refine decoded_obj (by decide) (List.forall_mem_singleton.mpr ?_)
  exact decoded_obj (by decide) (List.forall_mem_singleton.mpr (decoded_of_not_obj rfl))

def demoDocs : List Document := [⟨demoDefaults, decoded_demoDefaults⟩, ⟨demoUser, decoded_demoUser⟩]

def demoFiles : List ConfFile :=
  [⟨"user_import_defaults.json", .document ⟨demoDefaults, decoded_demoDefaults⟩⟩,
    ⟨"user_import.json", .document ⟨demoUser, decoded_demoUser⟩⟩]

def demoConfig : Json := .obj
  [("mandatory_attributes", .arr [.str "mailPrimaryAddress"]),
    ("username", .obj [("max_length", .obj [("default", .int 20), ("student", .int 15)])])]

theorem load_demoFiles : load demoFiles = .ok demoConfig := by rfl

theorem load_demo :
    (∃ docs, docs ≠ [] ∧ Reads demoFiles docs ∧ Layered (docs.map Document.json)) ∧
      LastGiven (demoDocs.map Document.json) ["username", "max_length", "default"] (.int 20) :=
  ⟨(load_iff demoFiles).1.mp ⟨demoConfig, load_demoFiles⟩,
    ((load_iff demoFiles).2 demoConfig demoDocs load_demoFiles rfl _ _).mp ⟨rfl, rfl⟩⟩

end Load

end Configuration

end Importer

end Kelvin
