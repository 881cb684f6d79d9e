import Kelvin.Data.Like
import Kelvin.Objects.DnMapper
import Kelvin.Connector.Models

/-!
# The synchronization manager

The event handlers of `sync.py`. A handler reads the database, and returns the database
after its transaction or the exception that rolls it back. The modify handlers of stored
objects set the DN mapping first: they resolve references in the displaced database and
the new mapping row is flushed with their other writes.

* `fetchUsersByDns`, `fetchGroupsByDns`, `fetchMembersByDns`: the resolution of DNs.
* `buildSchoolMemberships`: one membership per school of a user.
* `handleUserCreate` and its companions: the handlers.
-/

namespace Kelvin

variable [Runtime]

/-! ## Texts -/

/-- `_school_ou_from_dn`: the value of the first RDN that starts with `ou=` in any case. -/
def schoolOuFromDn (dn : String) : Option String :=
  ((dn.toList.splitOn ',').find? (fun c =>
      (c.take 3).map Char.toLower == ['o', 'u', '='] && c.drop 3 != [])).map
    (fun c => String.ofList (c.drop 3))

/-- `_UNSYNCABLE_GROUP_CN_PREFIXES`. -/
def unsyncableGroupCnPrefixes : List String :=
  ["Domain Users ", "schueler-", "lehrer-", "sorgeberechtigte-", "mitarbeiter-"]

/-- `str.startswith`. -/
def startsWith (text start : String) : Bool := start.toList.isPrefixOf text.toList

/-- `_is_unsyncable_group_dn`. -/
def isUnsyncableGroupDn (dn : String) : Bool :=
  if ",cn=ouadmins,".toList <:+: (Runtime.lower dn).toList then true
  else match Runtime.parseDN dn with
    | none => false -- unparseable DN: keep it, let the mapper decide
    | some parsed => match parsed.parent with
      | none => false
      | some (attr, value) =>
        if (Runtime.lower attr, Runtime.lower value) ≠ ("cn", "groups") then false
        else unsyncableGroupCnPrefixes.any (startsWith parsed.rdn.2)

/-- `_server_hostname`. -/
def serverHostname : Option String → Except Exc (Option String)
  | none => .ok none
  | some value =>
    if value = "" then .ok none
    else if '=' ∈ value.toList then match Runtime.parseDN value with
      | none => .error (.valueError value)
      | some parsed => .ok (some parsed.rdn.2)
    else .ok (some value)

/-- `value or default`. -/
def orDefault (value : Option String) (default : String) : String :=
  match value with
  | none => default
  | some s => if s = "" then default else s

/-- `_UDM_PROPERTIES_DENYLIST`. -/
def udmPropertiesDenylist : List String := ["jpegPhoto", "password"]

/-- `_udm_properties`, of the properties as JSON. -/
def udmProperties (json : Dict) : Dict := json.filter (fun key _ => key ∉ udmPropertiesDenylist)

/-! ## Shared fetch helpers -/

/-- `_fetch_users_by_dns`. -/
def fetchUsersByDns (db : Database) (dns : List String) : Finset PublicId :=
  db.dnsToPublicIds .user dns ∩ db.users.keys

/-- `_fetch_groups_by_dns`. -/
def fetchGroupsByDns (db : Database) (dns : List String) : Finset PublicId :=
  db.dnsToPublicIds .group (dns.filter (fun dn => ¬ isUnsyncableGroupDn dn)) ∩ db.groups.keys

/-- `_fetch_members_by_dns`: the known users that hold a membership for the school. -/
def fetchMembersByDns (db : Database) (dns : List String) (school : PublicId) :
    Finset PublicId :=
  (db.dnsToPublicIds .user dns).filter (db.IsMember school)

/-- `_fetch_roles_by_names`. -/
def fetchRolesByNames (db : Database) (names : List String) : Finset PublicId :=
  db.roles.collect (fun id r => if r.name ∈ names then {id} else ∅)

/-- The schools whose name is one of the given, in the order of their public ids. -/
def searchSchools (db : Database) (names : List String) : Table PublicId SchoolModel :=
  db.schools.filter (fun _ s => s.name ∈ names)

/-- The school that `_build_school_memberships` marks as primary. -/
def primaryId (schools : Table PublicId SchoolModel) (primarySchool : Option String) :
    Option PublicId :=
  let byOu := primarySchool.bind (fun ou =>
    (schools.rows.find? (fun s => Runtime.lower s.2.name == Runtime.lower ou)).map Prod.fst)
  -- none of the schools matches: the first one
  byOu.or (schools.rows.head?.map Prod.fst)

/-- `_build_school_memberships`. -/
def buildSchoolMemberships (db : Database) (schools : Table PublicId SchoolModel)
    (groups : Finset PublicId) (roles : List UcsschoolRole) (primarySchool : Option String) :
    Table PublicId SchoolMembership :=
  schools.mapVals (fun id school =>
    { isPrimary := primaryId schools primarySchool == some id
      roles := fetchRolesByNames db
        ((roles.filter (fun r => r.school == school.name)).map (·.role))
      groups := groups.filter (fun g => (db.groups.find? g).map (·.school) = some id) })

/-! ## User event handlers -/

/-- The memberships that a user event asks for. -/
def userMemberships (db : Database) (new : UserPayload) : Table PublicId SchoolMembership :=
  buildSchoolMemberships db (searchSchools db new.properties.school)
    (fetchGroupsByDns db new.properties.groups) new.properties.ucsschoolRole
    (schoolOuFromDn new.dn)

/-- The `User` that `_handle_user_create` builds. -/
def newUser (props : UserProperties) (memberships : Table PublicId SchoolMembership)
    (legalWards legalGuardians : Finset PublicId) : User where
  name := props.username
  firstname := props.firstname
  lastname := props.lastname
  active := !props.disabled
  email := props.mailPrimaryAddress
  birthday := props.birthday
  expirationDate := props.userexpiry
  recordUid := orDefault props.ucsschoolRecordUID props.username
  sourceUid := orDefault props.ucsschoolSourceUID "nubus"
  schoolMemberships := memberships
  legalWards := legalWards
  legalGuardians := legalGuardians
  udmProperties := udmProperties props.json

/-- `_apply_user_changes`. -/
def applyUserChanges (user : User) (props : UserProperties)
    (memberships : Table PublicId SchoolMembership)
    (legalWards legalGuardians : Finset PublicId) : User :=
  { user with
    name := props.username
    firstname := props.firstname
    lastname := props.lastname
    active := !props.disabled
    email := props.mailPrimaryAddress
    birthday := props.birthday
    expirationDate := props.userexpiry
    recordUid := orDefault props.ucsschoolRecordUID props.username
    sourceUid := orDefault props.ucsschoolSourceUID "nubus"
    schoolMemberships := memberships
    legalWards := legalWards
    legalGuardians := legalGuardians
    udmProperties := udmProperties props.json }

def handleUserCreate (db : Database) (new : UserPayload) : Except Exc Database :=
  let props := new.properties
  if (searchSchools db props.school).rows.isEmpty then
    .ok db -- no school of the user is known: the event is dropped
  else
    let memberships := userMemberships db new
    let legalWards := fetchUsersByDns db props.ucsschoolLegalWard
    let legalGuardians := fetchUsersByDns db props.ucsschoolLegalGuardian
    match db.users.find? new.id with
    | none => do
      let db ← UserManager.create db new.id (newUser props memberships legalWards legalGuardians)
      pure (db.setMapping .user new.dn new.id)
    | some model =>
      let current := toUser db.toObjects new.id model
      match createUserPatch current
          (applyUserChanges current props memberships legalWards legalGuardians) with
      | some patch => UserManager.modify db new.id patch
      | none => .ok db

def handleUserModify (db : Database) (new : UserPayload) : Except Exc Database :=
  let props := new.properties
  match db.users.find? new.id with
  | none => handleUserCreate db new
  | some model =>
    -- the rows displaced by the new mapping are gone for the lookups below
    let db := db.displace .user new.dn new.id
    let memberships := userMemberships db new
    let legalWards := fetchUsersByDns db props.ucsschoolLegalWard
    let legalGuardians := fetchUsersByDns db props.ucsschoolLegalGuardian
    let current := toUser db.toObjects new.id model
    match createUserPatch current
        (applyUserChanges current props memberships legalWards legalGuardians) with
    | some patch => do
      let db ← UserManager.modify db new.id patch
      pure (db.addMapping .user new.dn new.id)
    | none => .ok (db.addMapping .user new.dn new.id)

/-- A delete of an object that is not stored is ignored. -/
def ignoreNotFound (db : Database) (result : Except Exc Database) : Except Exc Database :=
  match result with
  | .error (.notFound _ _) => .ok db
  | r => r

def handleUserDelete (db : Database) (old : DeletePayload) : Except Exc Database :=
  ignoreNotFound db (UserManager.delete db old.properties.univentionObjectIdentifier)

/-! ## Group event handlers -/

/-- The name of the school a group event belongs to. -/
def groupSchoolName (props : GroupProperties) : String :=
  match props.ucsschoolRole with
  | r :: _ => r.school
  | [] => splitHead '-' props.name

/-- The first school of that name. -/
def findSchool (db : Database) (name : String) : Option PublicId :=
  (searchSchools db [name]).rows.head?.map Prod.fst

/-- The `Group` that `_handle_group_create` builds. -/
def newGroup (props : GroupProperties) (school : PublicId)
    (roles allowedEmailSendersUsers allowedEmailSendersGroups members memberRoles :
      Finset PublicId) : Group where
  name := props.name
  displayName := props.name
  recordUid := props.name
  sourceUid := "kelvin-connector"
  email := props.mailAddress
  school := school
  allowedEmailSendersUsers := allowedEmailSendersUsers
  allowedEmailSendersGroups := allowedEmailSendersGroups
  members := members
  createShare := true
  roles := roles
  memberRoles := memberRoles
  description := props.description
  udmProperties := udmProperties props.json

/-- `_apply_group_changes`. An `UNLOADED` school is `none`. -/
def applyGroupChanges (group : Group) (props : GroupProperties) (school : Option PublicId)
    (roles allowedEmailSendersUsers allowedEmailSendersGroups members memberRoles :
      Finset PublicId) : Group :=
  { group with
    name := props.name
    displayName := props.name
    recordUid := props.name
    email := if props.mailAddress ≠ none then props.mailAddress else group.email
    school := school.getD group.school
    roles := roles
    allowedEmailSendersUsers := allowedEmailSendersUsers
    allowedEmailSendersGroups := allowedEmailSendersGroups
    members := members
    memberRoles := memberRoles
    createShare := true
    description := props.description
    udmProperties := udmProperties props.json }

/-- `_fetch_roles_by_entries` of a group event. -/
def groupRoles (db : Database) (props : GroupProperties) : Finset PublicId :=
  fetchRolesByNames db (props.ucsschoolRole.map (·.role))

/-- `_fetch_roles_by_guardian_entries` of a group event. -/
def groupMemberRoles (db : Database) (props : GroupProperties) : Finset PublicId :=
  fetchRolesByNames db (props.guardianMemberRoles.map (·.roleName))

def handleGroupCreate (db : Database) (new : GroupPayload) : Except Exc Database :=
  let props := new.properties
  match findSchool db (groupSchoolName props) with
  | none => .ok db -- the school is not known: the event is dropped
  | some school =>
    let senderUsers := fetchUsersByDns db props.allowedEmailUsers
    let senderGroups := fetchGroupsByDns db props.allowedEmailGroups
    let members := fetchMembersByDns db props.users school
    let roles := groupRoles db props
    let memberRoles := groupMemberRoles db props
    match db.groups.find? new.id with
    | none => do
      let db ← GroupManager.create db new.id
        (newGroup props school roles senderUsers senderGroups members memberRoles)
      pure (db.setMapping .group new.dn new.id)
    | some model => do
      let current ← toGroup db.toObjects new.id model
      match createPatch Group.toJson current
          (applyGroupChanges current props (some school) roles senderUsers senderGroups members
            memberRoles) with
      | some patched => GroupManager.modify db new.id patched
      | none => .ok db

def handleGroupModify (db : Database) (new : GroupPayload) : Except Exc Database :=
  let props := new.properties
  match db.groups.find? new.id with
  | none => handleGroupCreate db new
  | some model => do
    let current ← toGroup db.toObjects new.id model
    -- the rows displaced by the new mapping are gone for the lookups below
    let db := db.displace .group new.dn new.id
    let school := findSchool db (groupSchoolName props)
    let senderUsers := fetchUsersByDns db props.allowedEmailUsers
    let senderGroups := fetchGroupsByDns db props.allowedEmailGroups
    let members := fetchMembersByDns db props.users (school.getD current.school)
    let roles := groupRoles db props
    let memberRoles := groupMemberRoles db props
    match createPatch Group.toJson current
        (applyGroupChanges current props school roles senderUsers senderGroups members
          memberRoles) with
    | some patched =>
      let db ← GroupManager.modify db new.id patched
      pure (db.addMapping .group new.dn new.id)
    | none => pure (db.addMapping .group new.dn new.id)

def handleGroupDelete (db : Database) (old : DeletePayload) : Except Exc Database :=
  ignoreNotFound db (GroupManager.delete db old.properties.univentionObjectIdentifier)

/-! ## School event handlers -/

/-- The `School` that `_handle_school_create` builds. -/
def newSchool (props : SchoolProperties) (classServer homeServer : Option String) : School where
  name := props.name
  displayName := props.displayName
  recordUid := props.name
  sourceUid := "kelvin-connector"
  educationalServers := ∅
  administrativeServers := ∅
  classShareFileServer := classServer
  homeShareFileServer := homeServer
  udmProperties := udmProperties props.json

/-- The assignments that both school handlers make to a stored school. -/
def applySchoolChanges (school : School) (props : SchoolProperties)
    (classServer homeServer : Option String) : School :=
  { school with
    name := props.name
    displayName := props.displayName
    classShareFileServer := classServer
    homeShareFileServer := homeServer
    udmProperties := udmProperties props.json }

def handleSchoolCreate (db : Database) (new : SchoolPayload) : Except Exc Database := do
  let props := new.properties
  let classServer ← serverHostname props.ucsschoolClassShareFileServer
  let homeServer ← serverHostname props.ucsschoolHomeShareFileServer
  match db.schools.find? new.id with
  | none =>
    let db ← SchoolManager.create db new.id (newSchool props classServer homeServer)
    pure (db.setMapping .school new.dn new.id)
  | some current =>
    match createPatch School.toJson current
        (applySchoolChanges current props classServer homeServer) with
    | some patched => SchoolManager.modify db new.id patched
    | none => pure db

def handleSchoolModify (db : Database) (new : SchoolPayload) : Except Exc Database :=
  let props := new.properties
  match db.schools.find? new.id with
  | none => handleSchoolCreate db new
  | some current => do
    let db := db.displace .school new.dn new.id
    let classServer ← serverHostname props.ucsschoolClassShareFileServer
    let homeServer ← serverHostname props.ucsschoolHomeShareFileServer
    match createPatch School.toJson current
        (applySchoolChanges current props classServer homeServer) with
    | some patched =>
      let db ← SchoolManager.modify db new.id patched
      pure (db.addMapping .school new.dn new.id)
    | none => pure (db.addMapping .school new.dn new.id)

def handleSchoolDelete (db : Database) (old : DeletePayload) : Except Exc Database :=
  ignoreNotFound db (SchoolManager.delete db old.properties.univentionObjectIdentifier)

/-! ## Host group event handlers -/

/-- Which servers of a school a host group lists. -/
inductive HostGroupType where
  | edukativnetz
  | verwaltungsnetz
deriving DecidableEq

/-- The part of `HOST_GROUP_NAME_RE` behind `OU`: the longest school name without a line
feed that a suffix `-DC-Edukativnetz` or `-DC-Verwaltungsnetz` follows. -/
def hostGroupRest : List Char → Option (List Char × HostGroupType)
  | [] => none
  | c :: cs =>
    let longer := if c = '\n' then none else (hostGroupRest cs).map (fun m => (c :: m.1, m.2))
    longer.or
      (if "-DC-Edukativnetz".toList.isPrefixOf (c :: cs) then some ([], .edukativnetz)
      else if "-DC-Verwaltungsnetz".toList.isPrefixOf (c :: cs) then some ([], .verwaltungsnetz)
      else none)

/-- `HOST_GROUP_NAME_RE.match`: the school name and the type of a host group. -/
def hostGroupMatch (name : String) : Option (String × HostGroupType) :=
  match name.toList with
  | 'O' :: 'U' :: rest => (hostGroupRest rest).map (fun m => (String.ofList m.1, m.2))
  | _ => none

def setServers (school : School) (kind : HostGroupType) (hosts : Finset String) : School :=
  match kind with
  | .edukativnetz => { school with educationalServers := hosts }
  | .verwaltungsnetz => { school with administrativeServers := hosts }

/-- `_set_school_servers`. -/
def setSchoolServers (db : Database) (groupName : String) (hosts : Finset String)
    (missingSchoolOk : Bool) : Except Exc Database :=
  match hostGroupMatch groupName with
  | none => .error (.synchronizationException
      ("Unexpected host group name " ++ Runtime.repr groupName ++ "."))
  | some (schoolName, kind) =>
    let schools := db.schools.filter (fun _ s =>
      globMatches (Runtime.lower schoolName).toList (Runtime.lower s.name).toList)
    match schools.rows.head? with
    | none =>
      if missingSchoolOk then .ok db
      else .error (.synchronizationException
        ("Unable to find school with name=" ++ schoolName ++ " in database."))
    | some (id, school) =>
      match createPatch School.toJson school (setServers school kind hosts) with
      | some patched => SchoolManager.modify db id patched
      | none => .ok db

/-- The host names of a host group event. -/
def hostnames (hosts : List String) : Except Exc (Finset String) := do
  let names ← hosts.mapM (fun host => match Runtime.parseDN host with
    | none => .error (.valueError host)
    | some parsed => .ok parsed.rdn.2)
  pure names.toFinset

/-- `_handle_host_group_change`. -/
def handleHostGroupChange (db : Database) (new : HostGroupPayload) : Except Exc Database := do
  let hosts ← hostnames new.properties.hosts
  setSchoolServers db new.properties.name hosts false

def handleHostGroupDelete (db : Database) (old : HostGroupPayload) : Except Exc Database :=
  setSchoolServers db old.properties.name ∅ true

end Kelvin
