import Kelvin.Objects.Runtime

/-!
# Event models

The payloads of `models.py` after validation. What validation guarantees of a payload is
a field of it: a DN has at least one character, and users and groups have at least one
role. Fields that no handler reads (`id`, `position`, `objectType`, the time stamp and the
sequence number) are left out; `extra` holds the properties without a field of their own.
-/

namespace Kelvin

structure UcsschoolRole where
  role : String
  context : String
  school : String
deriving DecidableEq

structure GuardianRole where
  app : String
  nameSpace : String
  roleName : String
deriving DecidableEq

structure UserProperties where
  univentionObjectIdentifier : PublicId
  ucsschoolRole : List UcsschoolRole
  ucsschoolRole_ne : ucsschoolRole ≠ []
  username : String
  school : List String
  groups : List String
  ucsschoolLegalWard : List String
  ucsschoolLegalGuardian : List String
  disabled : Bool
  firstname : String
  lastname : String
  ucsschoolRecordUID : Option String
  ucsschoolSourceUID : Option String
  mailPrimaryAddress : Option String
  birthday : Option Date
  userexpiry : Option Date
  extra : Dict

structure GroupProperties where
  univentionObjectIdentifier : PublicId
  ucsschoolRole : List UcsschoolRole
  ucsschoolRole_ne : ucsschoolRole ≠ []
  name : String
  allowedEmailUsers : List String
  allowedEmailGroups : List String
  users : List String
  mailAddress : Option String
  description : Option String
  guardianMemberRoles : List GuardianRole
  extra : Dict

structure SchoolProperties where
  univentionObjectIdentifier : PublicId
  name : String
  displayName : String
  ucsschoolClassShareFileServer : Option String
  ucsschoolHomeShareFileServer : Option String
  extra : Dict

structure HostGroupProperties where
  univentionObjectIdentifier : PublicId
  description : Option String
  name : String
  hosts : List String

/-- Of a deleted object only the identifier is required. -/
structure DeletedObjectProperties where
  univentionObjectIdentifier : PublicId
  username : String
  name : String

/-- `EventPayload` with typed properties. -/
structure Payload (P : Type) where
  dn : String
  dn_ne : dn ≠ ""
  properties : P

abbrev UserPayload := Payload UserProperties
abbrev GroupPayload := Payload GroupProperties
abbrev SchoolPayload := Payload SchoolProperties
abbrev HostGroupPayload := Payload HostGroupProperties
abbrev DeletePayload := Payload DeletedObjectProperties

def UserPayload.id (new : UserPayload) : PublicId := new.properties.univentionObjectIdentifier

def GroupPayload.id (new : GroupPayload) : PublicId := new.properties.univentionObjectIdentifier

def SchoolPayload.id (new : SchoolPayload) : PublicId := new.properties.univentionObjectIdentifier

/-! ## Properties as JSON (`json.loads(properties.json())`) -/

section Json

def Json.strs (texts : List String) : Json := .arr (texts.map .str)

def Json.optStr : Option String → Json
  | some s => .str s
  | none => .null

variable [Runtime]

def Json.optDate : Option Date → Json
  | some d => .str (Runtime.isoformat d)
  | none => .null

def UcsschoolRole.json (r : UcsschoolRole) : Json :=
  .obj [("context", .str r.context), ("role", .str r.role), ("school", .str r.school)]

def GuardianRole.json (r : GuardianRole) : Json :=
  .obj [("app", .str r.app), ("namespace", .str r.nameSpace), ("role_name", .str r.roleName)]

def UserProperties.json (p : UserProperties) : Dict :=
  p.extra
    |>.insert "univentionObjectIdentifier" (.str (Runtime.uuidText p.univentionObjectIdentifier))
    |>.insert "ucsschoolRole" (.arr (p.ucsschoolRole.map (·.json)))
    |>.insert "username" (.str p.username)
    |>.insert "school" (.strs p.school)
    |>.insert "groups" (.strs p.groups)
    |>.insert "ucsschoolLegalWard" (.strs p.ucsschoolLegalWard)
    |>.insert "ucsschoolLegalGuardian" (.strs p.ucsschoolLegalGuardian)
    |>.insert "disabled" (.bool p.disabled)
    |>.insert "firstname" (.str p.firstname)
    |>.insert "lastname" (.str p.lastname)
    |>.insert "ucsschoolRecordUID" (.optStr p.ucsschoolRecordUID)
    |>.insert "ucsschoolSourceUID" (.optStr p.ucsschoolSourceUID)
    |>.insert "mailPrimaryAddress" (.optStr p.mailPrimaryAddress)
    |>.insert "birthday" (.optDate p.birthday)
    |>.insert "userexpiry" (.optDate p.userexpiry)

def GroupProperties.json (p : GroupProperties) : Dict :=
  p.extra
    |>.insert "univentionObjectIdentifier" (.str (Runtime.uuidText p.univentionObjectIdentifier))
    |>.insert "ucsschoolRole" (.arr (p.ucsschoolRole.map (·.json)))
    |>.insert "name" (.str p.name)
    |>.insert "allowedEmailUsers" (.strs p.allowedEmailUsers)
    |>.insert "allowedEmailGroups" (.strs p.allowedEmailGroups)
    |>.insert "users" (.strs p.users)
    |>.insert "mailAddress" (.optStr p.mailAddress)
    |>.insert "description" (.optStr p.description)
    |>.insert "guardianMemberRoles" (.arr (p.guardianMemberRoles.map (·.json)))

def SchoolProperties.json (p : SchoolProperties) : Dict :=
  p.extra
    |>.insert "univentionObjectIdentifier" (.str (Runtime.uuidText p.univentionObjectIdentifier))
    |>.insert "name" (.str p.name)
    |>.insert "displayName" (.str p.displayName)
    |>.insert "ucsschoolClassShareFileServer" (.optStr p.ucsschoolClassShareFileServer)
    |>.insert "ucsschoolHomeShareFileServer" (.optStr p.ucsschoolHomeShareFileServer)

end Json

end Kelvin
