import Mathlib.Data.Finset.Sort
import Kelvin.Data.JsonPatch
import Kelvin.Objects.Database

/-!
# Patches of domain objects

`core/domain/patch.py` and the part of `core/domain/json.py` that it uses. A patch is the library's
diff of two documents, but the values under the replace fields are taken out of both first and
written as a whole where their references differ.

* `DomainValue.toJson`, `toJson`: a domain object as a document.
* `referenceKey`: what the values of a replaced field are compared by.
* `collectReplaceOps`: what one replace field takes out of two documents.
* `patchOps`, `createPatch`: the operations; `applyPatch`: their application.
-/

namespace Kelvin.Patch

open Json

/-! ## Domain objects as documents -/

/-- A key of a dictionary. -/
inductive Key where
  | text (s : String)
  | uuid (id : PublicId)

/-- A value of a domain object. Lists and sets are lists of items; a domain object is the list of
its serialized attributes. -/
inductive DomainValue where
  | none
  | bool (b : Bool)
  | int (n : Int)
  | float (text : String)
  | str (s : String)
  | uuid (id : PublicId)
  | date (d : Date)
  | unset
  | unloaded
  | items (values : List DomainValue)
  | dict (entries : List (Key × DomainValue))
  | object (attributes : List (String × DomainValue))

/-- `serialized_domain_field_name`. -/
def serializedDomainFieldName (fieldName : String) : String :=
  match fieldName.toList with
  | '_' :: name => String.ofList name
  | _ => fieldName

/-- The members of a dictionary, in the order of their names. -/
def dictMembers (entries : Members) : Members :=
  (entries.foldl (fun t f => t.insert f.1 f.2) (.empty : Dict)).rows

section ToJson

variable [Runtime]

def Key.normalise : Key → String
  | .text s => s
  | .uuid id => Runtime.uuidText id

mutual

/-- `normalise(_serialize_value(value))`. -/
def DomainValue.toJson : DomainValue → Json
  | .none => .null
  | .bool b => .bool b
  | .int n => .int n
  | .float t => .float t
  | .str s => .str s
  | .uuid id => .str (Runtime.uuidText id)
  | .date d => .str (Runtime.isoformat d)
  | .unset => .obj [("__sentinel__", .str "UNSET")]
  | .unloaded => .obj [("__sentinel__", .str "UNLOADED")]
  | .items values => .arr (sortItems pyStr (itemsToJson values))
  | .dict entries => .obj (dictMembers (entriesToJson entries))
  | .object attributes => .obj (dictMembers (attributesToJson attributes))

def itemsToJson : List DomainValue → List Json
  | [] => []
  | v :: values => v.toJson :: itemsToJson values

def entriesToJson : List (Key × DomainValue) → Members
  | [] => []
  | (k, v) :: entries => (k.normalise, v.toJson) :: entriesToJson entries

def attributesToJson : List (String × DomainValue) → Members
  | [] => []
  | (name, v) :: attributes =>
    (serializedDomainFieldName name, v.toJson) :: attributesToJson attributes

end

/-- `__serialize_fields__` of `School`, `Group` and `User`. -/
def serializeFields : ObjectType → List String
  | .school =>
    ["public_id", "_record_uid", "_source_uid", "_name", "_display_name", "_educational_servers",
      "_administrative_servers", "_class_share_file_server", "_home_share_file_server",
      "_udm_properties"]
  | .group =>
    ["public_id", "_record_uid", "_source_uid", "_name", "_display_name", "_create_share", "_roles",
      "_allowed_email_senders_users", "_allowed_email_senders_groups", "_members", "_member_roles",
      "_school", "_email", "_description", "_udm_properties"]
  | .user =>
    ["public_id", "_record_uid", "_source_uid", "_name", "_firstname", "_lastname", "_active",
      "_school_memberships", "_legal_wards", "_legal_guardians", "_email", "_birthday",
      "_expiration_date", "_udm_properties"]

/-- A school, group or user, by the values of its attributes. -/
abbrev Attributes := String → DomainValue

/-- `to_json` of a school, group or user. -/
def toJson (t : ObjectType) (obj : Attributes) : Members :=
  dictMembers (attributesToJson ((serializeFields t).map (fun name => (name, obj name))))

end ToJson

/-! ## Reference keys -/

/-- What `_reference_key` reduces a value to: the public ids of a list of references, or a value. -/
inductive ReferenceKey where
  | ids (publicIds : Finset String)
  | value (j : Json)
deriving DecidableEq

/-- The public id of an item of a list of references. -/
def itemPublicId : Json → Option String
  | .obj item =>
    match field? "public_id" item with
    | some (.str id) => some id
    | _ => none
  | _ => none

/-- `_reference_key`. -/
def referenceKey : Json → ReferenceKey
  | .arr items =>
    match items.mapM itemPublicId with
    | some ids => .ids ids.toFinset
    | none => .value (.arr items)
  | .obj fields =>
    match field? "public_id" fields with
    | some id => .value id
    | none => .value (.obj fields)
  | j => .value j

/-- A popped value is compared, and written, as `None` where there is none. -/
def poppedValue (v : Option Json) : Json := v.getD .null

/-! ## The replaced fields -/

/-- A value that `_pop_replace_op` takes out of both documents, with the path it was found at. -/
structure Popped where
  path : List String
  src : Option Json
  dst : Option Json
deriving DecidableEq

/-- The references differ, so that an operation is made. -/
def Popped.Changed (p : Popped) : Prop :=
  referenceKey (poppedValue p.src) ≠ referenceKey (poppedValue p.dst)

instance (p : Popped) : Decidable p.Changed :=
  inferInstanceAs (Decidable (referenceKey (poppedValue p.src) ≠ referenceKey (poppedValue p.dst)))

/-- The popped value below a key. -/
def Popped.under (key : String) (p : Popped) : Popped := { p with path := key :: p.path }

/-- Two documents on their way through `_collect_replace_ops`, and what was taken out of them. -/
structure Collected where
  src : Members
  dst : Members
  popped : List Popped

/-- `_pop_replace_op`, without the comparison. -/
def pop (field : String) (src dst : Members) : Collected where
  src := eraseField field src
  dst := eraseField field dst
  popped := [⟨[field], field? field src, field? field dst⟩]

/-- `_descend_replace_ops` at a key. Documents from which nothing is popped stay as they are. -/
def descend (collect : Members → Members → Collected) (key : String) (src dst : Members) :
    Collected :=
  match field? key src, field? key dst with
  | some (.obj a), some (.obj b) =>
    let child := collect a b
    if child.popped = [] then ⟨src, dst, []⟩
    else
      { src := setField key (.obj child.src) src
        dst := setField key (.obj child.dst) dst
        popped := child.popped.map (·.under key) }
  | _, _ => ⟨src, dst, []⟩

/-- One step after another, on the documents that the one before leaves. -/
def Collected.andThen (c : Collected) (step : Members → Members → Collected) : Collected :=
  let next := step c.src c.dst
  { next with popped := c.popped ++ next.popped }

/-- The keys of both documents, sorted. -/
def commonKeys (src dst : Members) : List String :=
  ((src.map Prod.fst).filter (fun k => (field? k dst).isSome)).insertionSort (· ≤ ·)

/-- `_collect_replace_ops`. -/
def collectReplaceOps : List String → Members → Members → Collected
  | [], src, dst => ⟨src, dst, []⟩
  | [head], src, dst => pop head src dst
  | head :: part :: parts, src, dst =>
    if head = "*" then
      (commonKeys src dst).foldl
        (fun c key => c.andThen (descend (collectReplaceOps (part :: parts)) key)) ⟨src, dst, []⟩
    else descend (collectReplaceOps (part :: parts)) head src dst

/-- The parts of a replace field, `field_path.split("/")`. -/
def fieldParts (fieldPath : String) : List String :=
  (fieldPath.toList.splitOn '/').map String.ofList

/-- What all replace fields take out of two documents. -/
def collect (src dst : Members) (replaceFields : Finset String) : Collected :=
  (replaceFields.sort (· ≤ ·)).foldl (fun c f => c.andThen (collectReplaceOps (fieldParts f)))
    ⟨src, dst, []⟩

/-! ## Operations -/

section Operations

variable [JsonPatch]

/-- An operation of a patch: one that `_pop_replace_op` makes, or a change of the library. -/
inductive Operation where
  | replace (path : String) (value : Json)
  | change (c : JsonPatch.Change)

def Popped.operation? (p : Popped) : Option Operation :=
  if p.Changed then some (.replace (pointerText p.path) (poppedValue p.dst)) else none

/-- The constructor of `JsonPatch` reads the paths of all operations. -/
def Operation.wellFormed : Operation → Bool
  | .replace path _ => (pointerTokens path).isSome
  | .change _ => true

/-- The replacements, and the diff of what is left of the documents. -/
def Collected.operations (c : Collected) : List Operation :=
  c.popped.filterMap Popped.operation? ++
    (JsonPatch.fromDiff (.obj c.src) (.obj c.dst)).map .change

/-- `_patch_ops`. -/
def patchOps (src dst : Members) (replaceFields : Finset String) : Option (List Operation) :=
  let operations := (collect src dst replaceFields).operations
  if operations.all Operation.wellFormed then some operations else none

def Operation.apply : Operation → Json → Option Json
  | .replace path value, doc => (pointerTokens path).bind (fun tokens => replaceAt tokens value doc)
  | .change c, doc => JsonPatch.perform c doc

/-- `_create_patch`. -/
def createPatch [Runtime] (t : ObjectType) (src dst : Attributes) (replaceFields : Finset String) :
    Option (List Operation) :=
  patchOps (toJson t src) (toJson t dst) replaceFields

end Operations

end Kelvin.Patch
