import Kelvin.Connector.Run
import Kelvin.Connector.Validation

/-!
# The consumer

The relevance filter, the hooks that turn the body of a message into an event, and the retry
policy (`consumer.py`). Bodies are any JSON objects: an operation that the program applies to
a value of the wrong type raises what Python raises. Which hook is called for a body is
decided by the consumer library, which is a parameter (`Library`).

* `KelvinConnectorEventHandler.isRelevant`: the filter on a message.
* `KelvinConnectorEventHandler.handleEvent`: the hook and the handler of a message.
* `KelvinConsumerModule.processOneEvent`: what is stored, acknowledged and raised.
-/

namespace Kelvin

/-- A message that was fetched from the queue. -/
structure Message where
  topic : String
  body : Dict
  numDelivered : Nat

/-- The hooks of the event handler, with the parts of the body they are called with. -/
inductive Hook where
  | create (new : Json)
  | modify (old new : Json)
  | remove (old : Json)

class Library where
  /-- The hook that `UDMEventHandler.handle_event` calls for a body. Without one it returns that
  the event was not handled. -/
  dispatch : Dict → Except Exc (Option Hook)

/-- One side of a body, if there is an object with fields. -/
def Dict.side (body : Dict) (name : String) : Option Json :=
  match body.find? name with
  | some (.obj (field :: fields)) => some (.obj (field :: fields))
  | _ => none

/-- A library to evaluate the model with: it finds the hook by the sides of the body. -/
@[reducible] def sidesLibrary : Library where
  dispatch body := .ok (match body.side "old", body.side "new" with
    | none, some new => some (.create new)
    | some old, some new => some (.modify old new)
    | some old, none => some (.remove old)
    | none, none => none)

variable [Runtime]

namespace KelvinConnectorEventHandler

/-! ## The filter -/

/-- The loop of `any(test(role) for role in roles)`. -/
def anyItem (test : String → Bool) : List Json → Except Exc Bool
  | [] => .ok false
  | .str role :: items => if test role then .ok true else anyItem test items
  | _ :: _ => .error (.attributeError "startswith")

def anyRole (test : String → Bool) (roles : Json) : Except Exc Bool :=
  match iterate roles with
  | some items => anyItem test items
  | none => .error (.typeError "object is not iterable")

def isClassRole (role : String) : Bool := startsWith role "school_class" || startsWith role "workgroup"

def isExamRole (role : String) : Bool := startsWith role "exam_user:"

/-- `_filter`. -/
def filter (objectType : String) (roles : Json) (name : String) : Except Exc Bool :=
  if objectType = "groups/group" then do
    let isClass ← anyRole isClassRole roles
    pure (isClass || (hostGroupMatch name).isSome)
  else if objectType = "users/user" then do
    let isExamUser ← anyRole isExamRole roles
    pure (!isExamUser)
  else .ok (objectType == "container/ou")

/-- `body[side]["properties"]`, if both are there. -/
def sideProperties : Option Json → Except Exc Json
  | none => .ok .null
  | some (.obj fields) => .ok ((Json.field? "properties" fields).getD .null)
  | some (.arr items) =>
    if .str "properties" ∈ items then .error (.typeError "list indices must be integers or slices")
    else .ok .null
  | some (.str s) =>
    if "properties".toList <:+: s.toList then .error (.typeError "string indices must be integers")
    else .ok .null
  | some _ => .error (.typeError "argument is not iterable")

/-- The truth value of a JSON value. -/
def truthy : Json → Bool
  | .null => false
  | .bool b => b
  | .int n => n ≠ 0
  | .float text => text ∉ ["0.0", "-0.0"]
  | .str s => s ≠ ""
  | .arr items => items ≠ []
  | .obj fields => fields ≠ []

/-- `a or b`. -/
def pyOr (a b : Json) : Json := if truthy a then a else b

/-- The attribute `get` of a value. -/
def requireGet : Json → Except Exc Fields
  | .obj fields => .ok fields
  | _ => .error (.attributeError "get")

/-- The cases of the `match` statement: the roles to judge, and the properties they are from. -/
def matchRoles : Json → Json → Option (Json × Fields)
  | .obj old, .null => (Json.field? "ucsschoolRole" old).map (fun roles => (roles, old))
  | .null, .obj new => (Json.field? "ucsschoolRole" new).map (fun roles => (roles, new))
  | .obj old, .obj new => (Json.field? "ucsschoolRole" old).bind (fun _ =>
    (Json.field? "ucsschoolRole" new).map (fun roles => (roles, new)))
  | _, _ => none

/-- `is_relevant`. -/
def isRelevant (topic : String) (body : Dict) : Except Exc Bool := do
  let propertiesOld ← sideProperties (body.find? "old")
  let propertiesNew ← sideProperties (body.find? "new")
  -- the `dn` for the log
  let _ ← requireGet (pyOr ((body.find? "new").getD .null)
    (pyOr ((body.find? "old").getD .null) (.obj [])))
  match matchRoles propertiesOld propertiesNew with
  | some (roles, properties) =>
    filter topic roles (pyStr ((Json.field? "name" properties).getD (.str "")))
  | none => .ok false

/-! ## The hooks -/

/-- The part that the hooks share: the event of a payload by its object type. -/
def eventOf (user group school hostGroup : Fields → Except Exc Event) (payload : Json) :
    Except Exc (Option Event) := do
  let fields ← requireGet payload
  let _ ← requireGet ((Json.field? "properties" fields).getD (.obj []))
  match Json.field? "objectType" fields with
  | none => .error (.keyError "objectType")
  | some objectType =>
    if objectType = .str "users/user" then some <$> user fields
    else if objectType = .str "groups/group" then
      match Json.field? "properties" fields with
      | none => .error (.keyError "properties")
      | some properties => do
        let properties ← requireGet properties
        match (Json.field? "name" properties).getD (.str "") with
        | .str name =>
          if (hostGroupMatch name).isSome then some <$> hostGroup fields
          else some <$> group fields
        | _ => .error (.typeError "expected string or bytes-like object")
    else if objectType = .str "container/ou" then some <$> school fields
    else .ok none -- unknown object types are skipped

/-- `_handle_create`. -/
def handleCreate (new : Json) : Except Exc (Option Event) :=
  eventOf (fun fields => Event.userCreate <$> UserPayload.validate fields)
    (fun fields => Event.groupCreate <$> GroupPayload.validate fields)
    (fun fields => Event.schoolCreate <$> SchoolPayload.validate fields)
    (fun fields => Event.hostGroupCreate <$> HostGroupPayload.validate fields) new

/-- `_handle_modify`. -/
def handleModify (new : Json) : Except Exc (Option Event) :=
  eventOf (fun fields => Event.userModify <$> UserPayload.validate fields)
    (fun fields => Event.groupModify <$> GroupPayload.validate fields)
    (fun fields => Event.schoolModify <$> SchoolPayload.validate fields)
    (fun fields => Event.hostGroupModify <$> HostGroupPayload.validate fields) new

/-- `_handle_remove`. -/
def handleRemove (old : Json) : Except Exc (Option Event) :=
  eventOf (fun fields => Event.userDelete <$> DeletePayload.validate fields)
    (fun fields => Event.groupDelete <$> DeletePayload.validate fields)
    (fun fields => Event.schoolDelete <$> DeletePayload.validate fields)
    (fun fields => Event.hostGroupDelete <$> HostGroupPayload.validate fields) old

/-- The event that a hook hands to the synchronization manager. -/
def hookEvent : Hook → Except Exc (Option Event)
  | .create new => handleCreate new
  | .modify _ new => handleModify new
  | .remove old => handleRemove old

variable [Library]

/-- `handle_event`: the database afterwards, and whether the event was handled. -/
def handleEvent (db : Database) (body : Dict) : Except Exc (Database × Bool) := do
  match ← Library.dispatch body with
  | none => pure (db, false)
  | some hook =>
    match ← hookEvent hook with
    | none => pure (db, true)
    | some e => do
      let db ← handle db e
      pure (db, true)

end KelvinConnectorEventHandler

namespace KelvinConsumerModule

open KelvinConnectorEventHandler

/-- What comes of a message. -/
structure Processed where
  db : Database
  acknowledged : Bool
  raised : Option Exc

/-- `DEFAULT_MAX_DELIVERIES`. -/
def defaultMaxDeliveries : Nat := 3

variable [Library] {maxDeliveries : Nat}

/-- `process_one_event`, for a message that was fetched. A failed handler rolls back. -/
def processOneEvent (maxDeliveries : Nat) (db : Database) (m : Message) : Processed :=
  match isRelevant m.topic m.body with
  | .error e => { db := db, acknowledged := false, raised := some e }
  | .ok false => { db := db, acknowledged := true, raised := none }
  | .ok true =>
    match handleEvent db m.body with
    | .ok (db', handled) => { db := db', acknowledged := handled, raised := none }
    | .error (.validationError _ _) => { db := db, acknowledged := true, raised := none }
    | .error e =>
      { db := db, acknowledged := decide (maxDeliveries ≤ m.numDelivered), raised := some e }

/-- The database after a list of messages. -/
def processAll (maxDeliveries : Nat) (db : Database) (ms : List Message) : Database :=
  ms.foldl (fun db m => (processOneEvent maxDeliveries db m).db) db

/-! ## What comes of a message -/

section ProcessOneEvent

variable {db : Database} {m : Message}

theorem processOneEvent_unreadable {e : Exc} (h : isRelevant m.topic m.body = .error e) :
    processOneEvent maxDeliveries db m = ⟨db, false, some e⟩ := by
  simp only [processOneEvent, h]

theorem processOneEvent_irrelevant (h : isRelevant m.topic m.body = .ok false) :
    processOneEvent maxDeliveries db m = ⟨db, true, none⟩ := by
  simp only [processOneEvent, h]

theorem processOneEvent_ok {db' : Database} {handled : Bool}
    (h : isRelevant m.topic m.body = .ok true) (hh : handleEvent db m.body = .ok (db', handled)) :
    processOneEvent maxDeliveries db m = ⟨db', handled, none⟩ := by
  simp only [processOneEvent, h, hh]

theorem processOneEvent_malformed {model field : String} (h : isRelevant m.topic m.body = .ok true)
    (hh : handleEvent db m.body = .error (.validationError model field)) :
    processOneEvent maxDeliveries db m = ⟨db, true, none⟩ := by
  simp only [processOneEvent, h, hh]

theorem processOneEvent_failed {e : Exc} (h : isRelevant m.topic m.body = .ok true)
    (hh : handleEvent db m.body = .error e) (he : ∀ model field, e ≠ .validationError model field) :
    processOneEvent maxDeliveries db m =
      ⟨db, decide (maxDeliveries ≤ m.numDelivered), some e⟩ := by
  simp only [processOneEvent, h, hh]

end ProcessOneEvent

@[simp] theorem processAll_nil {db : Database} : processAll maxDeliveries db [] = db := rfl

@[simp] theorem processAll_cons {db : Database} {m : Message} {ms : List Message} :
    processAll maxDeliveries db (m :: ms) =
      processAll maxDeliveries (processOneEvent maxDeliveries db m).db ms := rfl

theorem processAll_append {db : Database} {ms ms' : List Message} :
    processAll maxDeliveries db (ms ++ ms') =
      processAll maxDeliveries (processAll maxDeliveries db ms) ms' := by
  simp [processAll]

end KelvinConsumerModule

/-! ## Concrete messages -/

/-- The payload of an object. -/
def payloadOf (objectType dn : String) (properties : Fields) : Json :=
  .obj [("dn", .str dn), ("id", .str dn), ("objectType", .str objectType), ("position", .str ""),
    ("properties", .obj properties)]

def schoolFields (id name : String) : Fields :=
  [("displayName", .str name), ("name", .str name),
    ("ucsschoolRole", .strs ["school:school:" ++ name]), ("univentionObjectIdentifier", .str id)]

def groupFields (id name role : String) : Fields :=
  [("allowedEmailGroups", .arr []), ("allowedEmailUsers", .arr []),
    ("guardianMemberRoles", .arr []), ("name", .str name), ("ucsschoolRole", .strs [role]),
    ("univentionObjectIdentifier", .str id), ("users", .arr [])]

def userFields (id username role school : String) : Fields :=
  [("disabled", .bool false), ("firstname", .str username), ("groups", .arr []),
    ("lastname", .str username), ("school", .strs [school]), ("ucsschoolRole", .strs [role]),
    ("univentionObjectIdentifier", .str id), ("username", .str username)]

def createMessage (topic : String) (new : Json) : Message :=
  ⟨topic, Table.empty.insert "new" new, 1⟩

def modifyMessage (topic : String) (old new : Json) : Message :=
  ⟨topic, (Table.empty.insert "old" old).insert "new" new, 1⟩

def deleteMessage (topic : String) (old : Json) (numDelivered : Nat) : Message :=
  ⟨topic, Table.empty.insert "old" old, numDelivered⟩

end Kelvin
