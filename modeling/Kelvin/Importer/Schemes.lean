import Kelvin.Api.GroupNames
import Kelvin.Data.Guards
import Kelvin.Importer.Usernames
import Kelvin.Lib.RoleStrings

/-!
# Schemes

`import_user.py`: the properties of a user that are formatted from schemes. A scheme refers to other
properties, whose `make_*` methods are called before.

* `propsUsedInScheme`: the properties in a scheme.
* `ImportUser`, `Environment`: the user that is prepared, and what does not change meanwhile.
* `need`, `ready`, `finish`: what `solve_format_dependencies` and the `make_*` methods do.
* `formatFromScheme`: `format_from_scheme`.
-/

namespace Kelvin

namespace Importer

/-! ## The properties of a scheme -/

/-- `_prop_regex.findall`. A match begins at a `<` and ends at the next `>`, which stands on the same
line. -/
def findProps : ℕ → List Char → List (List Char)
  | _, [] => []
  | 0, c :: cs =>
    let body := cs.takeWhile (· ≠ '>')
    if c = '<' ∧ body.length < cs.length ∧ '\n' ∉ body then
      body.takeWhile (· ≠ ':') :: findProps (body.length + 1) cs
    else findProps 0 cs
  | skip + 1, _ :: cs => findProps skip cs

def propsUsedInScheme (scheme : String) : List String :=
  ((findProps 0 scheme.toList).filter (· ≠ [])).map String.ofList

example : propsUsedInScheme "<:umlauts><firstname>[0].<lastname:lower,trim>" =
    ["firstname", "lastname"] := by
  decide

/-! ## The user -/

/-- The attributes that the methods here read or write. -/
inductive Attribute where
  | name
  | firstname
  | lastname
  | birthday
  | expirationDate
  | email
  | recordUid
  | sourceUid
  | school
  | schools
  | ucsschoolRoles
  | legalGuardians
  | legalWards
deriving DecidableEq

def Attribute.text : Attribute → String
  | .name => "name"
  | .firstname => "firstname"
  | .lastname => "lastname"
  | .birthday => "birthday"
  | .expirationDate => "expiration_date"
  | .email => "email"
  | .recordUid => "record_uid"
  | .sourceUid => "source_uid"
  | .school => "school"
  | .schools => "schools"
  | .ucsschoolRoles => "ucsschool_roles"
  | .legalGuardians => "legal_guardians"
  | .legalWards => "legal_wards"

def attributes : List Attribute :=
  [.name, .firstname, .lastname, .birthday, .expirationDate, .email, .recordUid, .sourceUid,
    .school, .schools, .ucsschoolRoles, .legalGuardians, .legalWards]

/-- The user, with the counters of the handlers for names. -/
structure ImportUser where
  values : Attribute → Json
  udmProperties : Table String Json
  counters : Counters

/-- The truth value of a value. -/
def truthy : Json → Bool
  | .null => false
  | .bool b => b
  | .int n => n ≠ 0
  | .float text => text ∉ ["0.0", "-0.0"]
  | .str s => s ≠ ""
  | .arr items => items ≠ []
  | .obj fields => fields ≠ []

namespace ImportUser

def set (u : ImportUser) (a : Attribute) (value : Json) : ImportUser :=
  { u with values := Function.update u.values a value }

/-- The attribute has a value. -/
def has (u : ImportUser) (a : Attribute) : Bool := truthy (u.values a)

/-- `udm_properties.get(name)` has a value. -/
def hasUdm (u : ImportUser) (name : String) : Bool := (u.udmProperties.find? name).any truthy

end ImportUser

/-! ## The methods -/

inductive Method where
  | makeBirthday
  | makeExpirationDate
  | makeFirstname
  | makeLastname
  | makeEmail
  | makeRecordUid
  | makeSourceUid
  | makeSchool
  | makeUsername
  | makeUcsschoolRoles
  | makeLegalGuardians
  | makeLegalWards
  | makeUdmProperty (name : String)
deriving DecidableEq

/-- `_prop_providers`. -/
def propProviders : List (String × Method) :=
  [("birthday", .makeBirthday), ("expiration_date", .makeExpirationDate),
    ("firstname", .makeFirstname), ("lastname", .makeLastname), ("email", .makeEmail),
    ("record_uid", .makeRecordUid), ("source_uid", .makeSourceUid), ("school", .makeSchool),
    ("name", .makeUsername), ("username", .makeUsername),
    ("ucsschool_roles", .makeUcsschoolRoles), ("legal_guardians", .makeLegalGuardians),
    ("legal_wards", .makeLegalWards)]

/-- The method that makes a property. -/
def provider (name : String) : Method :=
  (propProviders.lookup name).getD (.makeUdmProperty name)

inductive ImportExc where
  | initialisationError (message : String)
  | missingMailDomain (message : String)
  | noUsernameAtAll (message : String)
  | emptyFormatResult (message scheme : String)
  | missingSchoolName (message : String)
  | notSupported (message : String)
  | invalidLegalGuardian (message : String)
  | invalidLegalWard (message : String)
  | name (e : NameExc)
  /-- An exception of the replacement or of a format hook. -/
  | format (message : String)

/-- The configuration and the rest of the user. -/
structure Environment where
  /-- `config["scheme"]`, but for the schemes of the user names. -/
  scheme : Table String String
  /-- `config["scheme"]["username"]`. -/
  usernameSchemes : Option (Table String String)
  roleString : String
  defaultRoles : List String
  configSourceUid : String
  /-- The source UID is not checked. -/
  skipsGlobalSourceUid : Bool
  configSchool : String
  normalizesFirstname : Bool
  normalizesLastname : Bool
  /-- The domain of the configuration, or the first one of the system. -/
  maildomain : Option String
  emailMandatory : Bool
  allowedSpecialChars : List Char
  usernameMaxLength : Nat
  /-- `no_overwrite_attributes`. -/
  noOverwrite : List String
  /-- `getattr(old_user, name, None)` of the user in the directory. -/
  oldUser : Option (String → Json)
  /-- `old_dn` has a value. -/
  hasOldDn : Bool
  /-- The position has been set. -/
  hasPosition : Bool
  /-- The value of another attribute of the object is true. -/
  otherAttribute : String → Bool
  /-- `get_ldap_mapping_for_udm_property`. -/
  ldapMapping : String → String
  /-- `searchDn`, by the name of an account. -/
  searchDn : String → List String
  /-- `str.strip`. -/
  strip : String → String
  normalize : String → String
  /-- `parse_date`. A `ValueError` is `none`. -/
  parseDate : String → Option String
  /-- The text for a property and its scheme: the fields of the user, the format hooks and
  `_replace`. -/
  replace : String → String → ImportUser → Except ImportExc String

section Methods

variable [NameStorage] [Runtime] (env : Environment)

/-- The property is in `config["scheme"]`. -/
def Environment.hasScheme (name : String) : Bool :=
  if name = "username" then env.usernameSchemes.isSome else (env.scheme.find? name).isSome

/-- `_schema_write_check`. -/
def schemaWriteCheck (schemeAttr ucsschoolAttr ldapAttr : String) : Bool :=
  env.hasScheme schemeAttr ∧
    (¬ env.oldUser.any (fun old => truthy (old ucsschoolAttr)) ∨ ldapAttr ∉ env.noOverwrite)

/-- `username_scheme`. -/
def usernameScheme : Except ImportExc String :=
  match env.usernameSchemes.bind (fun schemes =>
      (schemes.find? env.roleString).or (schemes.find? "default")) with
  | some scheme => .ok ("<:umlauts>" ++ scheme)
  | none => .error (.noUsernameAtAll ("Cannot find scheme to create username for role '" ++
      env.roleString ++ "' or 'default'."))

/-- The scheme with which a property is formatted. -/
def schemeOf (prop : String) : String :=
  if prop = "username" then (usernameScheme env).toOption.getD ""
  else (env.scheme.find? prop).getD ""

/-- The names of the additional arguments with which a property is formatted. -/
def formatKwargs (prop : String) : List String := if prop = "email" then ["maildomain"] else []

/-- The text of a value that stands in a message. -/
def messageText : Json → String
  | .str s => s
  | value => Runtime.str value

/-- What a method does that takes the attribute from a scheme, or else from the old user. -/
def makeAttribute (a : Attribute) (formats : Bool) (given fromOld unset : Json → Json)
    (u : ImportUser) : Option (Except ImportExc ImportUser) :=
  if u.has a then some (.ok (u.set a (given (u.values a))))
  else if formats then none
  else
    match env.oldUser with
    | some old => some (.ok (u.set a (fromOld (old a.text))))
    | none => some (.ok (u.set a (unset (u.values a))))

/-- The empty text is no value. -/
def emptyToNone : Json → Json
  | .str s => if s = "" then .null else .str s
  | value => value

/-- The date of a text, if it can be parsed. -/
def parsedDate : Json → Json
  | .str s => .str ((env.parseDate s).getD s)
  | value => value

def normalized (normalizes : Bool) : Json → Json
  | .str s => .str (if normalizes then env.normalize s else s)
  | value => value

def makeBirthday : ImportUser → Option (Except ImportExc ImportUser) :=
  makeAttribute env .birthday (schemaWriteCheck env "birthday" "birthday" "univentionBirthday")
    (parsedDate env) id emptyToNone

def makeExpirationDate : ImportUser → Option (Except ImportExc ImportUser) :=
  makeAttribute env .expirationDate
    (["krb5ValidEnd", "shadowExpire", "sambaKickoffTime"].all
      (fun ldapAttr => schemaWriteCheck env "expiration_date" "userexpiry" ldapAttr))
    (fun value => emptyToNone (parsedDate env value)) emptyToNone emptyToNone

def makeFirstname : ImportUser → Option (Except ImportExc ImportUser) :=
  makeAttribute env .firstname (schemaWriteCheck env "firstname" "firstname" "givenName")
    (normalized env env.normalizesFirstname) id id

def makeLastname : ImportUser → Option (Except ImportExc ImportUser) :=
  makeAttribute env .lastname (schemaWriteCheck env "lastname" "lastname" "sn")
    (normalized env env.normalizesLastname) id id

def makeRecordUid : ImportUser → Option (Except ImportExc ImportUser) :=
  makeAttribute env .recordUid (schemaWriteCheck env "record_uid" "record_uid" "ucsschoolRecordUID")
    id id id

def makeEmail (u : ImportUser) : Option (Except ImportExc ImportUser) :=
  if u.values .email ≠ .null then some (.ok u)
  else if u.hasUdm "mailPrimaryAddress" then
    some (.ok { u.set .email ((u.udmProperties.find? "mailPrimaryAddress").getD .null) with
      udmProperties := u.udmProperties.erase "mailPrimaryAddress" })
  else if schemaWriteCheck env "email" "email" "mailPrimaryAddress" then
    if env.maildomain.isSome then none
    else if env.emailMandatory then
      some (.error (.missingMailDomain
        "Could not retrieve mail domain from configuration nor from UCRV mail/hosteddomains."))
    else some (.ok u)
  else
    match env.oldUser with
    | some old => some (.ok (u.set .email (old "email")))
    | none => some (.ok u)

def makeUsername (u : ImportUser) : Option (Except ImportExc ImportUser) :=
  if u.has .name then some (.ok u)
  else if u.hasUdm "username" then
    some (.ok { u.set .name ((u.udmProperties.find? "username").getD .null) with
      udmProperties := u.udmProperties.erase "username" })
  else if schemaWriteCheck env "username" "name" "uid" then
    match usernameScheme env with
    | .ok _ => none
    | .error e => some (.error e)
  else
    match env.oldUser with
    | some old => some (.ok (u.set .name (old "name")))
    | none => some (.ok u)

def makeUdmProperty (name : String) (u : ImportUser) : Option (Except ImportExc ImportUser) :=
  if (u.udmProperties.find? name).isSome then some (.ok u)
  else if schemaWriteCheck env name name (env.ldapMapping name) then none
  else some (.ok u)

def makeSourceUid (u : ImportUser) : Except ImportExc ImportUser :=
  if u.has .sourceUid then
    if u.values .sourceUid ≠ .str env.configSourceUid ∧ ¬ env.skipsGlobalSourceUid then
      .error (.notSupported ("Source_uid '" ++ messageText (u.values .sourceUid) ++
        "' differs to configured source_uid '" ++ env.configSourceUid ++ "'."))
    else .ok u
  else .ok (u.set .sourceUid (.str env.configSourceUid))

/-- The texts in a list, or the characters of a text. -/
def textItems : Json → List String
  | .arr items => items.filterMap (fun | .str s => some s | _ => none)
  | .str s => s.toList.map (fun c => String.ofList [c])
  | _ => []

/-- `sorted(schools)[0]`. -/
def firstSchool (schools : List String) : String := (sortedTexts schools).headD ""

/-- `schools` of a text with commas. -/
def splitSchools (schools : String) : List String :=
  sortedTexts (((Text.strip ',' schools.toList).splitOn ',').map
    (fun part => env.normalize (env.strip (String.ofList part)))).dedup

def makeSchool (u : ImportUser) : Except ImportExc ImportUser :=
  match u.has .school, u.values .school with
  | true, .str school => .ok (u.set .school (.str (env.normalize school)))
  | true, _ => .ok u
  | false, _ =>
    if env.configSchool ≠ "" then .ok (u.set .school (.str env.configSchool))
    else
      match u.has .schools, u.values .schools with
      | true, .arr schools =>
        .ok (u.set .school (.str (env.normalize (firstSchool (textItems (.arr schools))))))
      | true, .str schools =>
        -- `make_schools` makes a list of the text, and `make_school` takes its first school
        let split := splitSchools env schools
        let school := env.normalize (firstSchool split)
        .ok ((u.set .schools (.arr (split.map .str))).set .school
          (.str (if school ∈ split then school else firstSchool split)))
      | _, _ => .error (.missingSchoolName ("Primary school name (ou) was not set on the cmdline " ++
          "or in the configuration file and was not found in the input data."))

/-- `make_schools`, where there are none. -/
def makeSchools (u : ImportUser) : Except ImportExc ImportUser :=
  (if u.has .school then .ok u else makeSchool env u).map (fun u =>
    u.set .schools (.arr [u.values .school]))

def makeUcsschoolRoles (u : ImportUser) : Except ImportExc ImportUser :=
  if u.has .ucsschoolRoles then .ok u
  else (if u.has .schools then .ok u else makeSchools env u).map (fun u =>
    u.set .ucsschoolRoles (.arr (env.defaultRoles.flatMap (fun role =>
      (textItems (u.values .schools)).map (fun school => .str (roleText role "school" school))))))

/-- The DN of an account, or a DN itself. -/
def accountDn (exc : String → ImportExc) (one owner : String) (u : ImportUser) (username : String) :
    Except ImportExc String :=
  if startsWith username "uid=" then .ok username
  else
    match env.searchDn username with
    | [dn] => .ok dn
    | [] => .error (exc ("Couldn't find " ++ one ++ " " ++ username ++ " for " ++ owner ++ " " ++
        messageText (u.values .name)))
    | _ => .error (exc ("Couldn't find distinct " ++ one ++ " " ++ username ++ " for " ++ owner ++
        " " ++ messageText (u.values .name)))

def makeLegal (a : Attribute) (exc : String → ImportExc) (maxCount : Nat) (many one owner : String)
    (u : ImportUser) : Except ImportExc ImportUser :=
  if u.values a = .null then .ok u
  else if maxCount < (textItems (u.values a)).length then
    .error (exc ("User " ++ messageText (u.values .name) ++ " has more " ++ many ++ " (" ++
      toString (textItems (u.values a)).length ++ ") than allowed (" ++ toString maxCount ++ ")"))
  else ((textItems (u.values a)).mapM (accountDn env exc one owner u)).map (fun dns =>
    u.set a (.arr (dns.map .str)))

def makeLegalGuardians : ImportUser → Except ImportExc ImportUser :=
  makeLegal env .legalGuardians .invalidLegalGuardian 4 "legal guardians" "legal guardian" "student"

def makeLegalWards : ImportUser → Except ImportExc ImportUser :=
  makeLegal env .legalWards .invalidLegalWard 10 "students" "student" "legal guardian"

/-! ## The properties that a scheme needs -/

/-- `hasattr(self, name) and getattr(self, name)`. -/
def attributeValue (u : ImportUser) (name : String) : Bool :=
  match attributes.find? (·.text = name) with
  | some a => u.has a
  | none =>
    let position := env.hasPosition || u.has .school
    if name = "position" then position
    else if name = "dn" then u.has .name && position || env.hasOldDn
    else if name = "roles_as_dicts" then rolesAsDicts (textItems (u.values .ucsschoolRoles)) ≠ []
    else if name = "udm_properties" then u.udmProperties.rows ≠ []
    else env.otherAttribute name

/-- "property exists and has value". -/
def hasValue (u : ImportUser) (name : String) : Bool :=
  attributeValue env u name || u.hasUdm name ||
    name = "username" && (u.has .name || u.hasUdm "username")

def need (u : ImportUser) (name : String) : Resolution.Need Method :=
  if hasValue env u name then .present
  else if (propProviders.lookup name).isNone ∧ (u.udmProperties.find? name).isNone ∧
      ¬ env.hasScheme name then .missing
  else .make (provider name)

def noProvider (prop dependency : String) : ImportExc :=
  .initialisationError ("Cannot find data provider for dependency " ++ Runtime.repr dependency ++
    " for formatting of property " ++ Runtime.repr prop ++ " with scheme " ++
    Runtime.repr (schemeOf env prop) ++ ".")

def ready (u : ImportUser) : Method → Option (Except ImportExc ImportUser)
  | .makeBirthday => makeBirthday env u
  | .makeExpirationDate => makeExpirationDate env u
  | .makeFirstname => makeFirstname env u
  | .makeLastname => makeLastname env u
  | .makeEmail => makeEmail env u
  | .makeRecordUid => makeRecordUid env u
  | .makeSourceUid => some (makeSourceUid env u)
  | .makeSchool => some (makeSchool env u)
  | .makeUsername => makeUsername env u
  | .makeUcsschoolRoles => some (makeUcsschoolRoles env u)
  | .makeLegalGuardians => some (makeLegalGuardians env u)
  | .makeLegalWards => some (makeLegalWards env u)
  | .makeUdmProperty name => makeUdmProperty env name u

/-- The property that a method formats. Only the first ones do. -/
def Method.target : Method → String
  | .makeBirthday => "birthday"
  | .makeExpirationDate => "expiration_date"
  | .makeFirstname => "firstname"
  | .makeLastname => "lastname"
  | .makeEmail => "email"
  | .makeRecordUid => "record_uid"
  | .makeUsername => "username"
  | .makeUdmProperty name => name
  | .makeSourceUid => "source_uid"
  | .makeSchool => "school"
  | .makeUcsschoolRoles => "ucsschool_roles"
  | .makeLegalGuardians => "legal_guardians"
  | .makeLegalWards => "legal_wards"

def finishEmail (text : String) (u : ImportUser) : Except ImportExc ImportUser :=
  match emailFormatName 254 (Runtime.lower text).toList none u.counters with
  | .ok (email, counters) =>
    .ok { u.set .email (.str (String.ofList email)) with counters := counters }
  | .error e => .error (.name e)

def finishUsername (text : String) (u : ImportUser) : Except ImportExc ImportUser :=
  if text = "" then
    .error (.emptyFormatResult
      ("No username was created from scheme '" ++ schemeOf env "username" ++ "'.")
      (schemeOf env "username"))
  else
    match formatName (usernameHandler env.allowedSpecialChars env.usernameMaxLength) text.toList none
        u.counters with
    | .ok ([], _) =>
      .error (.emptyFormatResult "Username handler transformed '' to empty username."
        (schemeOf env "username"))
    | .ok (c :: cs, counters) =>
      .ok { u.set .name (.str (String.ofList (c :: cs))) with counters := counters }
    | .error e => .error (.name e)

/-- What a method does with the text of its scheme. -/
def assign (text : String) (u : ImportUser) : Method → Except ImportExc ImportUser
  | .makeBirthday => .ok (u.set .birthday (.str text))
  | .makeExpirationDate => .ok (u.set .expirationDate (emptyToNone (.str text)))
  | .makeFirstname => .ok (u.set .firstname (.str text))
  | .makeLastname => .ok (u.set .lastname (.str text))
  | .makeEmail => finishEmail text u
  | .makeRecordUid => .ok (u.set .recordUid (.str text))
  | .makeUsername => finishUsername env text u
  | .makeUdmProperty name => .ok { u with udmProperties := u.udmProperties.insert name (.str text) }
  | _ => .ok u

/-- A method goes on when the properties of its scheme are made. -/
def finish (m : Method) (u : ImportUser) : Except ImportExc ImportUser := do
  let text ← env.replace m.target (schemeOf env m.target) u
  assign env text u m

/-! ## Formatting -/

/-- What `solve_format_dependencies` runs on. -/
def schemes : Resolution.System ImportUser String String Method ImportExc where
  deps prop := (propsUsedInScheme (schemeOf env prop)).filter (· ∉ formatKwargs prop)
  need := need env
  missing := noProvider env
  ready := ready env
  target := Method.target
  finish := finish env

/-- `solve_format_dependencies`, for the scheme of the property. -/
def solveFormatDependencies (n : ℕ) (prop : String) (u : ImportUser)
    (usedMethods : String → List Method) :
    Except (Resolution.Stop String ImportExc) (ImportUser × (String → List Method)) :=
  (schemes env).run n prop u usedMethods

/-- `format_from_scheme`, for the scheme of the property. -/
def formatFromScheme (n : ℕ) (prop : String) (u : ImportUser) (usedMethods : String → List Method) :
    Except (Resolution.Stop String ImportExc) (String × ImportUser) := do
  let solved ← solveFormatDependencies env n prop u usedMethods
  let text ← Resolution.raising (env.replace prop (schemeOf env prop) solved.1)
  return (text, solved.1)

end Methods

end Importer

end Kelvin
