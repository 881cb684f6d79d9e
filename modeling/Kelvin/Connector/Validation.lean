import Kelvin.Connector.Models
import Kelvin.Data.Outcome

/-!
# Validation of payloads

The models of `models.py` read from JSON, as pydantic reads them: numbers and truth values
stand for their texts where a text is expected, an optional field may be missing or null, and a
field with a default may be missing but not null. A payload that cannot be read is a
`validationError` that names the model and the first field that is rejected.

* `strValue`, `boolValue`, `uuidValue`, `listValue`: the values of the field types.
* `required`, `optional`, `withDefault`: the kinds of fields.
* `UserPayload.validate` and its companions: the models.
-/

namespace Kelvin

/-- The fields of a JSON object. -/
abbrev Fields := List (String × Json)

section Validation

variable {α : Type}

/-! ## Fields -/

def required (value : Json → Option α) (j : Option Json) : Option α := j.bind value

def optional (value : Json → Option α) : Option Json → Option (Option α)
  | none | some .null => some none
  | some j => (value j).map some

def withDefault (default : α) (value : Json → Option α) : Option Json → Option α
  | none => some default
  | some j => value j

/-- Reads one field. The error names it with the place of its object in the model. -/
def readField (model place name : String) (value : Option Json → Option α) (fields : Fields) :
    Except Exc α :=
  match value (Json.field? name fields) with
  | some a => .ok a
  | none => .error (.validationError model (place ++ name))

theorem readField_eq_ok {model place name : String} {value : Option Json → Option α}
    {fields : Fields} {a : α} :
    readField model place name value fields = .ok a ↔
      value (Json.field? name fields) = some a := by
  unfold readField
  split <;> simp_all

/-- The fields of an object that the model does not declare. -/
def extraFields (declared : List String) (fields : Fields) : Dict :=
  (fields.foldl (fun d f => d.insert f.1 f.2) (Table.empty : Dict)).filter
    (fun key _ => key ∉ declared)

def listValue (item : Json → Option α) : Json → Option (List α)
  | .arr items => items.mapM item
  | _ => none

/-- `min_items=1`. -/
def atLeastOne (items : List α) : Option {items : List α // items ≠ []} :=
  if h : items ≠ [] then some ⟨items, h⟩ else none

/-- `min_length=1`. -/
def nonEmpty (text : String) : Option {text : String // text ≠ ""} :=
  if h : text ≠ "" then some ⟨text, h⟩ else none

variable [Runtime]

/-! ## Values -/

def strValue : Json → Option String
  | .null | .arr _ | .obj _ => none
  | j => some (pyStr j)

def boolValue : Json → Option Bool
  | .bool b => some b
  | .int n => if n = 1 then some true else if n = 0 then some false else none
  | .float text =>
    if text = "1.0" then some true
    else if text ∈ ["0.0", "-0.0"] then some false else none
  | .str s =>
    if Runtime.lower s ∈ ["1", "on", "t", "true", "y", "yes"] then some true
    else if Runtime.lower s ∈ ["0", "off", "f", "false", "n", "no"] then some false else none
  | _ => none

/-- `UUID4`. -/
def uuidValue : Json → Option PublicId
  | .str s => Runtime.uuid4 s
  | _ => none

/-- `a, b, c = text.split(":")`. -/
def splitThree (text : String) : Option (String × String × String) :=
  match text.toList.splitOn ':' with
  | [a, b, c] => some (String.ofList a, String.ofList b, String.ofList c)
  | _ => none

/-- `_parse_ucsschool_role_item`, and the fields of a role. -/
def ucsschoolRoleValue : Json → Option UcsschoolRole
  | .str s => (splitThree s).map (fun p => ⟨p.1, p.2.1, p.2.2⟩)
  | .obj fields => do
    let role ← required strValue (Json.field? "role" fields)
    let context ← required strValue (Json.field? "context" fields)
    let school ← required strValue (Json.field? "school" fields)
    some ⟨role, context, school⟩
  | _ => none

/-- What a loop over the value goes through. -/
def iterate : Json → Option (List Json)
  | .arr items => some items
  | .obj fields => some (fields.map (fun f => .str f.1))
  | .str s => some (s.toList.map (fun c => .str (String.singleton c)))
  | _ => none

/-- `_parse_ucsschool_roles`: strings that are not roles are skipped. -/
def ucsschoolRolesValue (j : Json) : Option (List UcsschoolRole) :=
  (iterate j).bind (fun items =>
    (items.filter (fun
      | .str s => (splitThree s).isSome
      | _ => true)).mapM ucsschoolRoleValue)

/-- `_parse_guardian_role_item`, and the fields of a role. -/
def guardianRoleValue : Json → Option GuardianRole
  | .str s => (splitThree s).map (fun p => ⟨p.1, p.2.1, p.2.2⟩)
  | .obj fields => do
    let app ← required strValue (Json.field? "app" fields)
    let nameSpace ← required strValue (Json.field? "namespace" fields)
    let roleName ← required strValue (Json.field? "role_name" fields)
    some ⟨app, nameSpace, roleName⟩
  | _ => none

/-! ## Models -/

def UserProperties.validate (model : String) (fields : Fields) : Except Exc UserProperties := do
  let univentionObjectIdentifier ←
    readField model "properties." "univentionObjectIdentifier" (required uuidValue) fields
  let ucsschoolRole ← readField model "properties." "ucsschoolRole"
    (required (fun j => (ucsschoolRolesValue j).bind atLeastOne)) fields
  let username ← readField model "properties." "username" (required strValue) fields
  let school ← readField model "properties." "school" (required (listValue strValue)) fields
  let groups ← readField model "properties." "groups" (required (listValue strValue)) fields
  let ucsschoolLegalWard ← readField model "properties." "ucsschoolLegalWard"
    (withDefault [] (listValue strValue)) fields
  let ucsschoolLegalGuardian ← readField model "properties." "ucsschoolLegalGuardian"
    (withDefault [] (listValue strValue)) fields
  let disabled ← readField model "properties." "disabled" (required boolValue) fields
  let firstname ← readField model "properties." "firstname" (required strValue) fields
  let lastname ← readField model "properties." "lastname" (required strValue) fields
  let ucsschoolRecordUID ←
    readField model "properties." "ucsschoolRecordUID" (optional strValue) fields
  let ucsschoolSourceUID ←
    readField model "properties." "ucsschoolSourceUID" (optional strValue) fields
  let mailPrimaryAddress ←
    readField model "properties." "mailPrimaryAddress" (optional strValue) fields
  let birthday ← readField model "properties." "birthday" (optional Runtime.date) fields
  let userexpiry ← readField model "properties." "userexpiry" (optional Runtime.date) fields
  pure
    { univentionObjectIdentifier := univentionObjectIdentifier
      ucsschoolRole := ucsschoolRole.1
      ucsschoolRole_ne := ucsschoolRole.2
      username := username
      school := school
      groups := groups
      ucsschoolLegalWard := ucsschoolLegalWard
      ucsschoolLegalGuardian := ucsschoolLegalGuardian
      disabled := disabled
      firstname := firstname
      lastname := lastname
      ucsschoolRecordUID := ucsschoolRecordUID
      ucsschoolSourceUID := ucsschoolSourceUID
      mailPrimaryAddress := mailPrimaryAddress
      birthday := birthday
      userexpiry := userexpiry
      extra := extraFields
        ["univentionObjectIdentifier", "ucsschoolRole", "username", "school", "groups",
          "ucsschoolLegalWard", "ucsschoolLegalGuardian", "disabled", "firstname", "lastname",
          "ucsschoolRecordUID", "ucsschoolSourceUID", "mailPrimaryAddress", "birthday",
          "userexpiry"] fields }

def GroupProperties.validate (model : String) (fields : Fields) : Except Exc GroupProperties := do
  let univentionObjectIdentifier ←
    readField model "properties." "univentionObjectIdentifier" (required uuidValue) fields
  let ucsschoolRole ← readField model "properties." "ucsschoolRole"
    (required (fun j => (ucsschoolRolesValue j).bind atLeastOne)) fields
  let name ← readField model "properties." "name" (required strValue) fields
  let allowedEmailUsers ←
    readField model "properties." "allowedEmailUsers" (required (listValue strValue)) fields
  let allowedEmailGroups ←
    readField model "properties." "allowedEmailGroups" (required (listValue strValue)) fields
  let users ← readField model "properties." "users" (required (listValue strValue)) fields
  let mailAddress ← readField model "properties." "mailAddress" (optional strValue) fields
  let description ← readField model "properties." "description" (optional strValue) fields
  let guardianMemberRoles ← readField model "properties." "guardianMemberRoles"
    (required (listValue guardianRoleValue)) fields
  pure
    { univentionObjectIdentifier := univentionObjectIdentifier
      ucsschoolRole := ucsschoolRole.1
      ucsschoolRole_ne := ucsschoolRole.2
      name := name
      allowedEmailUsers := allowedEmailUsers
      allowedEmailGroups := allowedEmailGroups
      users := users
      mailAddress := mailAddress
      description := description
      guardianMemberRoles := guardianMemberRoles
      extra := extraFields
        ["univentionObjectIdentifier", "ucsschoolRole", "name", "allowedEmailUsers",
          "allowedEmailGroups", "users", "mailAddress", "description", "guardianMemberRoles"]
        fields }

def SchoolProperties.validate (model : String) (fields : Fields) :
    Except Exc SchoolProperties := do
  let univentionObjectIdentifier ←
    readField model "properties." "univentionObjectIdentifier" (required uuidValue) fields
  let name ← readField model "properties." "name" (required strValue) fields
  let displayName ← readField model "properties." "displayName" (required strValue) fields
  let ucsschoolClassShareFileServer ←
    readField model "properties." "ucsschoolClassShareFileServer" (optional strValue) fields
  let ucsschoolHomeShareFileServer ←
    readField model "properties." "ucsschoolHomeShareFileServer" (optional strValue) fields
  pure
    { univentionObjectIdentifier := univentionObjectIdentifier
      name := name
      displayName := displayName
      ucsschoolClassShareFileServer := ucsschoolClassShareFileServer
      ucsschoolHomeShareFileServer := ucsschoolHomeShareFileServer
      extra := extraFields
        ["univentionObjectIdentifier", "name", "displayName", "ucsschoolClassShareFileServer",
          "ucsschoolHomeShareFileServer"] fields }

def HostGroupProperties.validate (model : String) (fields : Fields) :
    Except Exc HostGroupProperties := do
  let univentionObjectIdentifier ←
    readField model "properties." "univentionObjectIdentifier" (required uuidValue) fields
  let description ← readField model "properties." "description" (optional strValue) fields
  let name ← readField model "properties." "name" (required strValue) fields
  let hosts ← readField model "properties." "hosts" (required (listValue strValue)) fields
  pure
    { univentionObjectIdentifier := univentionObjectIdentifier
      description := description
      name := name
      hosts := hosts }

def DeletedObjectProperties.validate (model : String) (fields : Fields) :
    Except Exc DeletedObjectProperties := do
  let univentionObjectIdentifier ←
    readField model "properties." "univentionObjectIdentifier" (required uuidValue) fields
  let username ← readField model "properties." "username" (withDefault "" strValue) fields
  let name ← readField model "properties." "name" (withDefault "" strValue) fields
  pure
    { univentionObjectIdentifier := univentionObjectIdentifier
      username := username
      name := name }

/-- `EventPayload`, with the model of its properties. -/
def Payload.validate {P : Type} (model : String)
    (properties : String → Fields → Except Exc P) (fields : Fields) : Except Exc (Payload P) := do
  let dn ← readField model "" "dn" (required (fun j => (strValue j).bind nonEmpty)) fields
  let _ ← readField model "" "id" (required strValue) fields
  let _ ← readField model "" "position" (required strValue) fields
  let _ ← readField model "" "objectType" (required strValue) fields
  match Json.field? "properties" fields with
  | some (.obj props) => do
    let properties ← properties model props
    pure { dn := dn.1, dn_ne := dn.2, properties := properties }
  | _ => .error (.validationError model "properties")

/-- The fields around the properties can be read. -/
structure EnvelopeReadable (fields : Fields) (dn : String) : Prop where
  dn : required strValue (Json.field? "dn" fields) = some dn
  id : ∃ text, required strValue (Json.field? "id" fields) = some text
  position : ∃ text, required strValue (Json.field? "position" fields) = some text
  objectType : ∃ text, required strValue (Json.field? "objectType" fields) = some text

theorem required_nonEmpty {j : Option Json} {text : {text : String // text ≠ ""}} :
    required (fun j => (strValue j).bind nonEmpty) j = some text ↔
      required strValue j = some text.1 := by
  obtain ⟨text, hne⟩ := text
  simp only [required, Option.bind_eq_some_iff, nonEmpty]
  constructor
  · rintro ⟨value, hj, text', htext, h⟩
    split at h
    · cases h
      exact ⟨value, hj, htext⟩
    · cases h
  · rintro ⟨value, hj, htext⟩
    exact ⟨value, hj, text, htext, dif_pos hne⟩

theorem Payload.validate_eq_ok {P : Type} {model : String}
    {properties : String → Fields → Except Exc P} {fields : Fields} {p : Payload P} :
    Payload.validate model properties fields = .ok p ↔ EnvelopeReadable fields p.dn ∧
      ∃ props, Json.field? "properties" fields = some (.obj props) ∧
        properties model props = .ok p.properties := by
  simp only [Payload.validate, bind_eq_ok, readField_eq_ok, required_nonEmpty]
  constructor
  · rintro ⟨dn, hdn, id, hid, position, hposition, objectType, hobjectType, h⟩
    split at h
    · next props hprops =>
      obtain ⟨read, hread, h⟩ := bind_eq_ok.mp h
      cases h
      exact ⟨⟨hdn, ⟨id, hid⟩, ⟨position, hposition⟩, ⟨objectType, hobjectType⟩⟩, props, hprops, hread⟩
    · cases h
  · rintro ⟨⟨hdn, ⟨id, hid⟩, ⟨position, hposition⟩, ⟨objectType, hobjectType⟩⟩, props, hprops, hread⟩
    refine ⟨⟨p.dn, p.dn_ne⟩, hdn, id, hid, position, hposition, objectType, hobjectType, ?_⟩
    rw [hprops]
    exact bind_eq_ok.mpr ⟨p.properties, hread, rfl⟩

theorem DeletedObjectProperties.validate_eq_ok {model : String} {fields : Fields}
    {p : DeletedObjectProperties} :
    DeletedObjectProperties.validate model fields = .ok p ↔
      required uuidValue (Json.field? "univentionObjectIdentifier" fields) =
        some p.univentionObjectIdentifier ∧
      withDefault "" strValue (Json.field? "username" fields) = some p.username ∧
      withDefault "" strValue (Json.field? "name" fields) = some p.name := by
  simp only [DeletedObjectProperties.validate, bind_eq_ok, readField_eq_ok, pure_eq_ok]
  constructor
  · rintro ⟨id, hid, username, husername, name, hname, rfl⟩
    exact ⟨hid, husername, hname⟩
  · rintro ⟨hid, husername, hname⟩
    exact ⟨_, hid, _, husername, _, hname, rfl⟩

def UserPayload.validate : Fields → Except Exc UserPayload :=
  Payload.validate "UserPayload" UserProperties.validate

def GroupPayload.validate : Fields → Except Exc GroupPayload :=
  Payload.validate "GroupPayload" GroupProperties.validate

def SchoolPayload.validate : Fields → Except Exc SchoolPayload :=
  Payload.validate "SchoolPayload" SchoolProperties.validate

def HostGroupPayload.validate : Fields → Except Exc HostGroupPayload :=
  Payload.validate "HostGroupPayload" HostGroupProperties.validate

def DeletePayload.validate : Fields → Except Exc DeletePayload :=
  Payload.validate "DeletePayload" DeletedObjectProperties.validate

end Validation

end Kelvin
