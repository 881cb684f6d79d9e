import Mathlib.Data.List.ReduceOption
import Kelvin.Data.JsonOperations
import Kelvin.Objects.MembershipFlushes
import Kelvin.Objects.Patch

/-!
# The documents that modify patches

`to_json` of a stored user or group, and what the managers read of a patched document. A reference
is a document with the public id of an object; what else it shows depends on what the session has
loaded, and is never read.

* `userDocument`, `groupDocument`: the documents before a patch.
* `readUserColumns`, `readGroupColumns`, `extractPublicIds`, `readMemberships`: what is read of the
  documents after it.
* `NamedItems`, `ProperEntry`: values of which nothing is passed over.
-/

namespace Kelvin

open Json

/-! ## Documents -/

inductive ReferencedType where
  | role
  | school
  | group
  | user

/-- What a session shows of sets of objects: the order in which it lists them, and the attributes
that it has loaded of each. -/
class LoadedObjects where
  listing : Finset PublicId → List PublicId
  mem_listing : ∀ ids id, id ∈ listing ids ↔ id ∈ ids
  attributes : ReferencedType → PublicId → Members

def nullable {α : Type} (toJson : α → Json) : Option α → Json
  | none => .null
  | some a => toJson a

/-- The marker of a relation that is not loaded. -/
def unloadedMarker : Json := .obj [("__sentinel__", .str "UNLOADED")]

section Documents

variable [Runtime] [LoadedObjects]

def reference (t : ReferencedType) (id : PublicId) : Json :=
  .obj (putField "public_id" (.str (Runtime.uuidText id)) (LoadedObjects.attributes t id))

def references (t : ReferencedType) (ids : Finset PublicId) : Json :=
  .arr (sortItems pyStr ((LoadedObjects.listing ids).map (reference t)))

def membershipDocument (school : PublicId) (m : SchoolMembership) : Json :=
  .obj [("groups", references .group m.groups), ("is_primary", .bool m.isPrimary),
    ("roles", references .role m.roles), ("school", reference .school school)]

def membershipsDocument (memberships : Memberships) : Json :=
  .obj (Patch.dictMembers
    (memberships.rows.map (fun m => (Runtime.uuidText m.1, membershipDocument m.1 m.2))))

end Documents

/-- The relations of a user that are loaded on demand. -/
inductive UserRelation where
  | schoolMemberships
  | legalGuardians
  | legalWards
deriving DecidableEq

def UserRelation.name : UserRelation → String
  | schoolMemberships => "school_memberships"
  | legalGuardians => "legal_guardians"
  | legalWards => "legal_wards"

def userAttributes : List String :=
  ["active", "birthday", "email", "expiration_date", "firstname", "lastname", "legal_guardians",
    "legal_wards", "name", "public_id", "record_uid", "school_memberships", "source_uid",
    "udm_properties"]

def groupAttributes : List String :=
  ["allowed_email_senders_groups", "allowed_email_senders_users", "create_share", "description",
    "display_name", "email", "member_roles", "members", "name", "public_id", "record_uid", "roles",
    "school", "source_uid", "udm_properties"]

section ToDocument

variable [Runtime] [LoadedObjects]

/-- The value of a relation in the document of a user. -/
def userRelation (u : User) : UserRelation → Json
  | .schoolMemberships => membershipsDocument u.schoolMemberships
  | .legalGuardians => references .user u.legalGuardians
  | .legalWards => references .user u.legalWards

/-- `to_json` of a user with some relations loaded. -/
def userDocument (id : PublicId) (u : User) (loaded : UserRelation → Bool) : Members :=
  let relation r := if loaded r then userRelation u r else unloadedMarker
  [("active", .bool u.active),
    ("birthday", nullable (fun d => .str (Runtime.isoformat d)) u.birthday),
    ("email", nullable .str u.email),
    ("expiration_date", nullable (fun d => .str (Runtime.isoformat d)) u.expirationDate),
    ("firstname", .str u.firstname),
    ("lastname", .str u.lastname),
    ("legal_guardians", relation .legalGuardians),
    ("legal_wards", relation .legalWards),
    ("name", .str u.name),
    ("public_id", .str (Runtime.uuidText id)),
    ("record_uid", .str u.recordUid),
    ("school_memberships", relation .schoolMemberships),
    ("source_uid", .str u.sourceUid),
    ("udm_properties", .obj u.udmProperties.normalise.rows)]

/-- `to_json` of a group. -/
def groupDocument (id : PublicId) (g : Group) : Members :=
  [("allowed_email_senders_groups", references .group g.allowedEmailSendersGroups),
    ("allowed_email_senders_users", references .user g.allowedEmailSendersUsers),
    ("create_share", .bool g.createShare),
    ("description", nullable .str g.description),
    ("display_name", .str g.displayName),
    ("email", nullable .str g.email),
    ("member_roles", references .role g.memberRoles),
    ("members", references .user g.members),
    ("name", .str g.name),
    ("public_id", .str (Runtime.uuidText id)),
    ("record_uid", .str g.recordUid),
    ("roles", references .role g.roles),
    ("school", reference .school g.school),
    ("source_uid", .str g.sourceUid),
    ("udm_properties", .obj g.udmProperties.normalise.rows)]

end ToDocument

/-! ## Reading patched documents -/

/-- `patched[name]`. -/
def item (fields : Members) (name : String) : Except Exc Json :=
  match field? name fields with
  | some j => .ok j
  | none => .error (.keyError name)

/-! The values that the columns of a row take. -/

def strColumn : Json → Except Exc String
  | .str s => .ok s
  | _ => .error (.typeError "str")

def optStrColumn : Json → Except Exc (Option String)
  | .null => .ok none
  | .str s => .ok (some s)
  | _ => .error (.typeError "str")

def boolColumn : Json → Except Exc Bool
  | .bool b => .ok b
  | .int 0 => .ok false
  | .int 1 => .ok true
  | _ => .error (.typeError "bool")

def dictColumn : Json → Except Exc Dict
  | .obj fields => .ok (fields.foldl (fun t f => t.insert f.1 f.2) .empty)
  | _ => .error (.typeError "dict")

section Read

variable [Runtime]

def optDateColumn : Json → Except Exc (Option Date)
  | .null => .ok none
  | j =>
    match Runtime.date j with
    | some d => .ok (some d)
    | none => .error (.valueError "Invalid isoformat string")

def readUserColumns (fields : Members) : Except Exc UserColumns := do
  let recordUid ← item fields "record_uid" >>= strColumn
  let sourceUid ← item fields "source_uid" >>= strColumn
  let name ← item fields "name" >>= strColumn
  let firstname ← item fields "firstname" >>= strColumn
  let lastname ← item fields "lastname" >>= strColumn
  let email ← item fields "email" >>= optStrColumn
  let active ← item fields "active" >>= boolColumn
  let birthday ← item fields "birthday" >>= optDateColumn
  let expirationDate ← item fields "expiration_date" >>= optDateColumn
  let udmProperties ← item fields "udm_properties" >>= dictColumn
  pure { recordUid, sourceUid, name, firstname, lastname, active, email, birthday, expirationDate,
         udmProperties }

omit [Runtime] in
def readGroupColumns (fields : Members) : Except Exc GroupColumns := do
  let recordUid ← item fields "record_uid" >>= strColumn
  let sourceUid ← item fields "source_uid" >>= strColumn
  let name ← item fields "name" >>= strColumn
  let displayName ← item fields "display_name" >>= strColumn
  let email ← item fields "email" >>= optStrColumn
  let createShare ← item fields "create_share" >>= boolColumn
  let description ← item fields "description" >>= optStrColumn
  let udmProperties ← item fields "udm_properties" >>= dictColumn
  pure { recordUid, sourceUid, name, displayName, createShare, email, description, udmProperties }

end Read

section References

variable [UuidRuntime]

/-- The public id that `extract_public_ids` takes from an item, if it has one. -/
def extractPublicId : Json → Except Exc (Option PublicId)
  | .obj fields =>
    match field? "public_id" fields with
    | none => .ok none
    | some .null => .ok none
    | some raw =>
      match UuidRuntime.uuid (pyStr raw) with
      | some id => .ok (some id)
      | none => .error (.valueError "badly formed hexadecimal UUID string")
  | _ => .error (.attributeError "public_id")

/-- `extract_public_ids`: an empty object or text has no items to iterate over. -/
def extractPublicIds : Json → Except Exc (Finset PublicId)
  | .arr items => do
    let ids ← items.mapM extractPublicId
    pure ids.reduceOption.toFinset
  | .obj fields => if fields = [] then .ok ∅ else .error (.attributeError "public_id")
  | .str s => if s = "" then .ok ∅ else .error (.attributeError "public_id")
  | _ => .error (.typeError "object is not iterable")

/-- `extract_public_ids(fields.get(name, []))`. -/
def getPublicIds (fields : Members) (name : String) : Except Exc (Finset PublicId) :=
  match field? name fields with
  | some j => extractPublicIds j
  | none => .ok ∅

/-- The members that the membership sync gets from an entry. -/
def readEntry : Json → Except Exc MembershipEntry
  | .obj fields => do
    let isPrimary ← match field? "is_primary" fields with
      | some j => (boolColumn j).map some
      | none => .ok none
    let groups ← getPublicIds fields "groups"
    let roles ← getPublicIds fields "roles"
    pure { isPrimary, groups, roles }
  | _ => .error (.attributeError "get")

def readNamedEntry (f : String × Json) : Except Exc (String × MembershipEntry) :=
  (readEntry f.2).map (fun entry => (f.1, entry))

/-- `patched.get("school_memberships", {})`, with what is got from its entries. -/
def readMemberships (fields : Members) : Except Exc (List (String × MembershipEntry)) :=
  match field? "school_memberships" fields with
  | some (.obj memberships) => memberships.mapM readNamedEntry
  | some _ => .error (.attributeError "items")
  | none => .ok []

/-! ## Values of which nothing is passed over -/

variable [LoadedObjects]

omit [UuidRuntime] [LoadedObjects] in
/-- A dictionary has the members that it was built from. -/
theorem dictMembers_perm {fields : Members} (h : (fields.map Prod.fst).Nodup) :
    (Patch.dictMembers fields).Perm fields := by
  have hinserts : Patch.dictMembers fields =
      (runAll .empty (fields.map (fun f => .insert f.1 f.2)) : Dict).rows := by
    rw [Patch.dictMembers, runAll, List.foldl_map]
    rfl
  have hkeys : ((fields.map (fun f => Statement.insert f.1 f.2)).map Statement.key).Nodup := by
    rw [List.map_map]
    exact h
  rw [hinserts]
  refine (List.perm_ext_iff_of_nodup (.of_map _ (Table.nodup_keys _)) (.of_map _ h)).mpr ?_
  rintro ⟨k, v⟩
  rw [Table.mem_rows]
  constructor
  · intro hfind
    by_cases hk : ∃ f ∈ fields, f.1 = k
    · obtain ⟨f, hf, rfl⟩ := hk
      have hrun := find?_runAll_of_mem (t := .empty) hkeys (List.mem_map_of_mem hf)
      cases hfind.symm.trans hrun
      exact hf
    · have hrun : (runAll .empty (fields.map (fun f => .insert f.1 f.2)) : Dict).find? k = none := by
        refine (find?_runAll_of_not_mem ?_).trans (Table.find?_empty k)
        intro s hs
        obtain ⟨f, hf, rfl⟩ := List.mem_map.mp hs
        exact fun hk' => hk ⟨f, hf, hk'⟩
      cases hfind.symm.trans hrun
  · intro hf
    exact find?_runAll_of_mem hkeys (List.mem_map_of_mem hf)

omit [LoadedObjects] in
theorem uuidText_injective : Function.Injective (Runtime.uuidText : PublicId → String) := by
  intro a b h
  have huuid := congrArg UuidRuntime.uuid h
  rw [UuidRuntime.uuid_uuidText, UuidRuntime.uuid_uuidText] at huuid
  exact Option.some.inj huuid

end References

end Kelvin
