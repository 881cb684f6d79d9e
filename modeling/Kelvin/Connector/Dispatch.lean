import Kelvin.Connector.Acknowledgement
import Kelvin.Connector.Deletion
import Kelvin.Connector.HostGroups

/-!
# Dispatch of group events

The filter accepts the event of a group because of a role, or because of its name. The hooks
then look at the name only, and the handler of host groups reads the school and the type from
the name again.

* `GroupMessage`: a message about a group, with the hook that is called for it.
* `hostGroupMatch_hostGroupName_iff`: the name of a host group gives its school and type back.
* `groupDispatch_iff`: which handler is called.
-/

namespace Kelvin

/-! ## The name of a host group -/

theorem not_mem_of_hostGroupRest {text school : List Char} {kind : HostGroupType}
    (h : hostGroupRest text = some (school, kind)) : '\n' ∉ school := by
  induction text generalizing school with
  | nil => cases h
  | cons c cs ih =>
    rw [hostGroupRest, Option.or_eq_some_iff] at h
    rcases h with h | ⟨-, h⟩
    · split at h
      · cases h
      · next hc =>
        obtain ⟨⟨rest, kind'⟩, hrest, heq⟩ := Option.map_eq_some_iff.mp h
        cases heq
        intro hmem
        rcases List.mem_cons.mp hmem with rfl | hmem
        · exact hc rfl
        · exact ih hrest hmem
    · have hschool : school = [] := by
        split at h
        · cases h
          rfl
        · split at h
          · cases h
            rfl
          · cases h
      rw [hschool]
      exact List.not_mem_nil

theorem hostGroupRest_suffix (kind : HostGroupType) :
    hostGroupRest kind.suffix.toList = some ([], kind) := by
  cases kind <;> decide

theorem hostGroupRest_append {school : List Char} (kind : HostGroupType) (h : '\n' ∉ school) :
    hostGroupRest (school ++ kind.suffix.toList) = some (school, kind) := by
  induction school with
  | nil => exact hostGroupRest_suffix kind
  | cons c cs ih =>
    obtain ⟨hc, hcs⟩ := not_or.mp (List.mem_cons.not.mp h)
    rw [List.cons_append, hostGroupRest, ih hcs, if_neg (Ne.symm hc)]
    rfl

/-- The name of a host group gives its school and type back, if the school is on one line. -/
theorem hostGroupMatch_hostGroupName_iff {school : String} {kind : HostGroupType} :
    hostGroupMatch (hostGroupName school kind) = some (school, kind) ↔ '\n' ∉ school.toList := by
  have hname : (hostGroupName school kind).toList =
      'O' :: 'U' :: (school.toList ++ kind.suffix.toList) := by
    simp [hostGroupName]
  unfold hostGroupMatch
  rw [hname]
  simp only [Option.map_eq_some_iff, Prod.exists, Prod.mk.injEq]
  constructor
  · rintro ⟨name, kind', hrest, rfl, rfl⟩
    rw [String.toList_ofList]
    exact not_mem_of_hostGroupRest hrest
  · intro hline
    exact ⟨_, _, hostGroupRest_append kind hline, String.ofList_toList, rfl⟩

/-! ## Errors of payloads -/

/-- Every error names the model that was read. -/
def NamesModel {α : Type} (model : String) (x : Except Exc α) : Prop :=
  ∀ e, x = .error e → ∃ field, e = .validationError model field

namespace NamesModel

variable {α β : Type} {model : String}

theorem readField (place name : String) (value : Option Json → Option α) (fields : Fields) :
    NamesModel model (readField model place name value fields) := by
  intro e h
  unfold Kelvin.readField at h
  split at h
  · cases h
  · cases h
    exact ⟨_, rfl⟩

theorem pure (a : α) : NamesModel model (Pure.pure a) := by
  intro e h
  cases h

theorem bind {x : Except Exc α} {f : α → Except Exc β} (hx : NamesModel model x)
    (hf : ∀ a, NamesModel model (f a)) : NamesModel model (x >>= f) := by
  intro e h
  cases x with
  | error e' =>
    cases h
    exact hx _ rfl
  | ok a => exact hf a e h

variable [Runtime]

theorem payload {properties : String → Fields → Except Exc α} {fields : Fields}
    (h : ∀ props, NamesModel model (properties model props)) :
    NamesModel model (Payload.validate model properties fields) := by
  unfold Payload.validate
  refine bind (readField _ _ _ _) (fun dn => ?_)
  refine bind (readField _ _ _ _) (fun _ => ?_)
  refine bind (readField _ _ _ _) (fun _ => ?_)
  refine bind (readField _ _ _ _) (fun _ => ?_)
  split
  · exact bind (h _) (fun _ => pure _)
  · rintro e ⟨⟩
    exact ⟨_, rfl⟩

theorem group (fields : Fields) : NamesModel "GroupPayload" (GroupPayload.validate fields) := by
  refine payload (fun props => ?_)
  unfold GroupProperties.validate
  repeat refine bind (readField _ _ _ _) (fun _ => ?_)
  exact pure _

theorem hostGroup (fields : Fields) :
    NamesModel "HostGroupPayload" (HostGroupPayload.validate fields) := by
  refine payload (fun props => ?_)
  unfold HostGroupProperties.validate
  repeat refine bind (readField _ _ _ _) (fun _ => ?_)
  exact pure _

theorem deleted (fields : Fields) : NamesModel "DeletePayload" (DeletePayload.validate fields) := by
  refine payload (fun props => ?_)
  unfold DeletedObjectProperties.validate
  repeat refine bind (readField _ _ _ _) (fun _ => ?_)
  exact pure _

omit [Runtime] in
/-- Payloads of two models are never read alike, if they are made events of two kinds. -/
theorem map_ne {γ : Type} {other : String} {x : Except Exc α} {y : Except Exc β} {f : α → γ}
    {g : β → γ} (hx : NamesModel model x) (hy : NamesModel other y) (hne : model ≠ other)
    (hfg : ∀ a b, f a ≠ g b) : f <$> x ≠ g <$> y := by
  intro h
  cases x with
  | error e =>
    cases y with
    | error e' =>
      obtain ⟨field, rfl⟩ := hx _ rfl
      obtain ⟨field', rfl⟩ := hy _ rfl
      cases h
      exact hne rfl
    | ok b => cases h
  | ok a =>
    cases y with
    | error e' => cases h
    | ok b => exact hfg a b (Except.ok.inj h)

end NamesModel

/-! ## The handler -/

namespace KelvinConnectorEventHandler

variable [Runtime]

/-- The event for the group handler. -/
def groupEvent (fields : Fields) : Hook → Except Exc Event
  | .create _ => Event.groupCreate <$> GroupPayload.validate fields
  | .modify _ _ => Event.groupModify <$> GroupPayload.validate fields
  | .remove _ => Event.groupDelete <$> DeletePayload.validate fields

/-- The event for the handler of host groups. -/
def hostGroupEvent (fields : Fields) : Hook → Except Exc Event
  | .create _ => Event.hostGroupCreate <$> HostGroupPayload.validate fields
  | .modify _ _ => Event.hostGroupModify <$> HostGroupPayload.validate fields
  | .remove _ => Event.hostGroupDelete <$> HostGroupPayload.validate fields

/-- The side of a body gives no state. -/
def Absent (side : Option Json) : Prop := side = none ∨ side = some (.obj [])

/-- The hook is called for the body, and judges the state with these fields. -/
inductive Judges (body : Dict) (fields : Fields) : Hook → Prop where
  | create (hnew : body.find? "new" = some (.obj fields)) (hold : Absent (body.find? "old")) :
      Judges body fields (.create (.obj fields))
  | modify (old oldProps : Fields) (hnew : body.find? "new" = some (.obj fields))
      (hold : body.find? "old" = some (.obj old))
      (hprops : Json.field? "properties" old = some (.obj oldProps))
      (hroles : (Json.field? "ucsschoolRole" oldProps).isSome = true) :
      Judges body fields (.modify (.obj old) (.obj fields))
  | remove (hold : body.find? "old" = some (.obj fields)) (hnew : Absent (body.find? "new")) :
      Judges body fields (.remove (.obj fields))

/-- A message about a group, with its name and its role strings. -/
structure GroupMessage (body : Dict) (hook : Hook) (fields : Fields) (name : String)
    (roles : Json) : Prop where
  judges : Judges body fields hook
  objectType : Json.field? "objectType" fields = some (.str "groups/group")
  state : ∃ props, Json.field? "properties" fields = some (.obj props) ∧
    Json.field? "ucsschoolRole" props = some roles ∧ groupName props = .str name

variable {body : Dict} {hook : Hook} {fields : Fields} {name : String} {roles : Json}

omit [Runtime] in
theorem sideProperties_obj {props : Json} (h : Json.field? "properties" fields = some props) :
    sideProperties (some (.obj fields)) = .ok props := by
  show Except.ok ((Json.field? "properties" fields).getD .null) = _
  rw [h, Option.getD_some]

omit [Runtime] in
theorem sideProperties_absent {side : Option Json} (h : Absent side) :
    sideProperties side = .ok .null := by
  rcases h with rfl | rfl
  · rfl
  · rfl

/-- The filter judges the roles and the name of the group. -/
theorem GroupMessage.isRelevant_eq (h : GroupMessage body hook fields name roles) :
    isRelevant "groups/group" body = filter "groups/group" roles name := by
  obtain ⟨props, hprops, hroles, hname⟩ := h.state
  have hne : fields ≠ [] := by
    rintro rfl
    cases hprops
  have hstr : pyStr ((Json.field? "name" props).getD (.str "")) = name := by
    rw [← groupName, hname]
    rfl
  have hdn : ∃ holder, requireGet (pyOr ((body.find? "new").getD .null)
      (pyOr ((body.find? "old").getD .null) (.obj []))) = .ok holder := by
    cases h.judges with
    | create hnew hold => exact ⟨fields, by simp [hnew, pyOr, truthy, hne, requireGet]⟩
    | modify old oldProps hnew hold hprops hroles =>
      exact ⟨fields, by simp [hnew, pyOr, truthy, hne, requireGet]⟩
    | remove hold hnew =>
      rcases hnew with hnew | hnew
      · exact ⟨fields, by simp [hnew, hold, pyOr, truthy, hne, requireGet]⟩
      · exact ⟨fields, by simp [hnew, hold, pyOr, truthy, hne, requireGet]⟩
  obtain ⟨holder, hdn⟩ := hdn
  have hsides : ∃ old new, sideProperties (body.find? "old") = .ok old ∧
      sideProperties (body.find? "new") = .ok new ∧ matchRoles old new = some (roles, props) := by
    cases h.judges with
    | create hnew hold =>
      refine ⟨.null, .obj props, sideProperties_absent hold, ?_, ?_⟩
      · rw [hnew, sideProperties_obj hprops]
      · rw [matchRoles, hroles, Option.map_some]
    | modify old oldProps hnew hold hprops' hroles' =>
      obtain ⟨oldRoles, hroles'⟩ := Option.isSome_iff_exists.mp hroles'
      refine ⟨.obj oldProps, .obj props, ?_, ?_, ?_⟩
      · rw [hold, sideProperties_obj hprops']
      · rw [hnew, sideProperties_obj hprops]
      · rw [matchRoles, hroles, hroles', Option.bind_some, Option.map_some]
    | remove hold hnew =>
      refine ⟨.obj props, .null, ?_, sideProperties_absent hnew, ?_⟩
      · rw [hold, sideProperties_obj hprops]
      · rw [matchRoles, hroles, Option.map_some]
  obtain ⟨old, new, hold, hnew, hmatch⟩ := hsides
  unfold isRelevant
  rw [hold, hnew]
  simp only [bind, Except.bind, hdn, hmatch]
  rw [hstr]

/-- The hooks look at the name of the group only. -/
theorem GroupMessage.hookEvent_eq (h : GroupMessage body hook fields name roles) :
    hookEvent hook = if (hostGroupMatch name).isSome then some <$> hostGroupEvent fields hook
      else some <$> groupEvent fields hook := by
  obtain ⟨props, hprops, -, hname⟩ := h.state
  unfold groupName at hname
  cases h.judges with
  | create | modify | remove =>
    simp only [hookEvent, handleCreate, handleModify, handleRemove, eventOf, requireGet, hprops,
      h.objectType, hname, Option.getD_some, bind, Except.bind, hostGroupEvent, groupEvent]
    rfl

theorem hostGroupEvent_ne_groupEvent (h : Judges body fields hook) :
    some <$> hostGroupEvent fields hook ≠ some <$> groupEvent fields hook := by
  have hsome : ∀ x y : Except Exc Event, some <$> x = some <$> y → x = y := by
    intro x y hxy
    cases x with
    | error e => cases y <;> cases hxy; rfl
    | ok a => cases y <;> cases hxy; rfl
  have hne : hostGroupEvent fields hook ≠ groupEvent fields hook := by
    cases h with
    | create _ _ =>
      exact NamesModel.map_ne (.hostGroup fields) (.group fields) (by decide) (by simp)
    | modify _ _ _ _ _ _ =>
      exact NamesModel.map_ne (.hostGroup fields) (.group fields) (by decide) (by simp)
    | remove _ _ =>
      exact NamesModel.map_ne (.hostGroup fields) (.deleted fields) (by decide) (by simp)
  exact fun h => hne (hsome _ _ h)

theorem hostGroupProperties_name {model : String} {props : Fields} {p : HostGroupProperties}
    (h : HostGroupProperties.validate model props = .ok p) (hname : groupName props = .str name) :
    p.name = name := by
  simp only [HostGroupProperties.validate, bind_eq_ok, readField_eq_ok, pure_eq_ok] at h
  obtain ⟨id, -, description, -, read, hread, hosts, -, rfl⟩ := h
  obtain ⟨j, hj, hvalue⟩ := Option.bind_eq_some_iff.mp hread
  rw [groupName, hj, Option.getD_some] at hname
  subst hname
  exact (Option.some.inj hvalue).symm

/-- An event for the handler of host groups has the name that the hook looked at. -/
theorem GroupMessage.hostGroup?_eq (h : GroupMessage body hook fields name roles) {e : Event}
    (he : hostGroupEvent fields hook = .ok e) : e.hostGroup? = some name := by
  obtain ⟨props, hprops, -, hname⟩ := h.state
  have hpayload : ∀ p, HostGroupPayload.validate fields = .ok p → p.properties.name = name := by
    intro p hp
    obtain ⟨-, props', hprops', hread⟩ := Payload.validate_eq_ok.mp hp
    cases hprops.symm.trans hprops'
    exact hostGroupProperties_name hread hname
  cases hook with
  | create new | modify old new | remove old =>
    obtain ⟨p, hp, rfl⟩ := map_eq_ok.mp he
    exact congrArg some (hpayload p hp)

/-- The group handler is called for a group with the role of a class or a workgroup if and only if
its name is not that of a host group. The handler of host groups is called for a host group, with
the school and the type that its name is made of, if and only if the school is on one line. -/
theorem groupDispatch_iff (body : Dict) (hook : Hook) (fields : Fields) (name : String)
    (roles : Json) (h : GroupMessage body hook fields name roles) :
    (anyRole isClassRole roles = .ok true →
      isRelevant "groups/group" body = .ok true ∧
        (hookEvent hook = some <$> groupEvent fields hook ↔ hostGroupMatch name = none)) ∧
    (∀ school kind, name = hostGroupName school kind → anyRole isClassRole roles = .ok false →
      (isRelevant "groups/group" body = .ok true ∧
        hookEvent hook = some <$> hostGroupEvent fields hook ∧
        (∀ e, hostGroupEvent fields hook = .ok e → e.hostGroup? = some name) ∧
        hostGroupMatch name = some (school, kind) ↔ '\n' ∉ school.toList)) := by
  refine ⟨?_, ?_⟩
  · intro hclass
    refine ⟨?_, ?_⟩
    · rw [h.isRelevant_eq, filter, if_pos rfl, hclass]
      rfl
    · rw [h.hookEvent_eq]
      cases hmatch : hostGroupMatch name with
      | none => simp
      | some host => simp [hostGroupEvent_ne_groupEvent h.judges]
  · rintro school kind rfl hclass
    constructor
    · rintro ⟨-, -, -, hmatch⟩
      exact hostGroupMatch_hostGroupName_iff.mp hmatch
    · intro hline
      have hmatch := (@hostGroupMatch_hostGroupName_iff _ kind).mpr hline
      refine ⟨?_, ?_, fun e he => h.hostGroup?_eq he, hmatch⟩
      · rw [h.isRelevant_eq, filter, if_pos rfl, hclass, hmatch]
        rfl
      · rw [h.hookEvent_eq, hmatch]
        rfl

end KelvinConnectorEventHandler

section Example

open KelvinConnectorEventHandler

attribute [local instance] asciiRuntime

/-- The state of a group in an event. -/
def groupStateFields (name : String) (roles : List String) : Fields :=
  [("dn", .str ("cn=" ++ name)), ("id", .str name), ("objectType", .str "groups/group"),
    ("position", .str "cn=groups"),
    ("properties", .obj [("univentionObjectIdentifier", .str "1"), ("name", .str name),
      ("ucsschoolRole", Json.strs roles), ("users", .arr []), ("hosts", .arr []),
      ("allowedEmailUsers", .arr []), ("allowedEmailGroups", .arr []),
      ("guardianMemberRoles", .arr [])])]

def createBody (fields : Fields) : Dict := Table.empty.insert "new" (.obj fields)

theorem groupMessage_create (name : String) (roles : List String) :
    GroupMessage (createBody (groupStateFields name roles)) (.create (.obj (groupStateFields name roles)))
      (groupStateFields name roles) name (Json.strs roles) where
  judges := .create (Table.find?_insert_self _ _ _) (.inl rfl)
  objectType := rfl
  state := ⟨_, rfl, rfl, rfl⟩

/-- The class `DC-Edukativnetz` of the school `OUa` is taken for a host group. -/
theorem class_taken_for_hostGroup :
    ¬ ∀ body hook fields name roles, GroupMessage body hook fields name roles →
      anyRole isClassRole roles = .ok true →
        hookEvent hook = some <$> groupEvent fields hook := by
  intro h
  have hmessage := groupMessage_create "OUa-DC-Edukativnetz" ["school_class:school:OUa"]
  have hgroup := h _ _ _ _ _ hmessage (by decide)
  have hmatch : (hostGroupMatch "OUa-DC-Edukativnetz").isSome = true := by decide
  rw [hmessage.hookEvent_eq, if_pos hmatch] at hgroup
  exact hostGroupEvent_ne_groupEvent hmessage.judges hgroup

theorem groupDispatch_iff_examples :
    hookEvent (.create (.obj (groupStateFields "a-1" ["school_class:school:a"]))) =
        some <$> Event.groupCreate <$> GroupPayload.validate
          (groupStateFields "a-1" ["school_class:school:a"]) ∧
      hostGroupMatch "OUa-DC-b-DC-Verwaltungsnetz" = some ("a-DC-b", .verwaltungsnetz) := by
  have hclass := groupDispatch_iff _ _ _ _ _ (groupMessage_create "a-1" ["school_class:school:a"])
  have hhost := groupDispatch_iff _ _ _ _ _ (groupMessage_create "OUa-DC-b-DC-Verwaltungsnetz" [])
  exact ⟨((hclass.1 (by decide)).2).mpr (by decide),
    ((hhost.2 "a-DC-b" .verwaltungsnetz (by decide) rfl).mpr (by decide)).2.2.2⟩

end Example

end Kelvin
