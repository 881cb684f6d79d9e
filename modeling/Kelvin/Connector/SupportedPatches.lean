import Kelvin.Objects.PatchPositions
import Kelvin.Objects.GroupOperations
import Kelvin.Connector.Sync

/-!
# The connector's patches and the managers' path checks

A handler loads an object with all its fields, applies the changes of the event and gives the patch
between the two documents to the manager. How deep a referenced object is loaded shows in the
documents, but where the references are replaced as a whole it makes no operation. The school of a
membership is the only reference that stays, and both documents show it with all its columns.

* `userReplaceFields`, `groupReplaceFields`: the replace fields of the handlers.
* `storedUserDocument`, `changedUserDocument`: the documents of a user with what is loaded.
* `Classified`, `WithinDepth`: paths to which the user and the group manager have no objection.
* `trackedPatches_supported`: no manager refuses a path of the connector's patches.
-/

namespace Kelvin

open Json Patch

/-- A runtime in which the text of a UUID needs no escapes. -/
class UuidTextRuntime extends UuidRuntime where
  uuidText_plain : ∀ id, plainKey (uuidText id) = true

theorem asciiRuntime_uuidText_plain (id : PublicId) :
    plainKey (asciiRuntime.uuidText id) = true := by
  have htext : (asciiRuntime.uuidText id).toList = List.replicate id '1' := String.toList_ofList
  rw [plainKey_iff, htext]
  exact ⟨fun h => absurd (List.eq_of_mem_replicate h) (by decide),
    fun h => absurd (List.eq_of_mem_replicate h) (by decide)⟩

@[reducible] def asciiUuidTextRuntime : UuidTextRuntime where
  toUuidRuntime := asciiUuidRuntime
  uuidText_plain := asciiRuntime_uuidText_plain

/-! ## The parts of a path -/

theorem pathParts_pointerText {k : String} {rest : List String}
    (h : ∀ key ∈ k :: rest, '/' ∉ key.toList) (hk : k ≠ "") :
    pathParts (pointerText (k :: rest)) = k :: rest := by
  have hparts : (k :: rest).flatMap (fun key => key.toList.splitOn '/') =
      (k :: rest).map String.toList := by
    generalize k :: rest = path at h
    induction path with
    | nil => rfl
    | cons key path ih =>
      obtain ⟨hkey, hpath⟩ := List.forall_mem_cons.mp h
      rw [List.flatMap_cons, List.splitOn_eq_singleton hkey, ih hpath]
      rfl
  have hne : k.toList ≠ [] := fun heq => hk (String.toList_eq_nil_iff.mp heq)
  have hsplit := splitOn_pointerText (k :: rest)
  rw [hparts, List.map_cons] at hsplit
  rw [pathParts, splitOn_dropWhile hsplit hne, ← List.map_cons, List.map_map]
  exact (List.map_congr_left (fun key _ => String.ofList_toList)).trans (List.map_id _)

theorem pathParts_escapedPointer {k : String} {rest : List String} (hk : k ≠ "") :
    pathParts (escapedPointer (k :: rest)) = escape k :: rest.map escape := by
  rw [escapedPointer, List.map_cons]
  refine pathParts_pointerText ?_ (fun heq => hk ?_)
  · intro key hkey
    rw [← List.map_cons] at hkey
    obtain ⟨key, -, rfl⟩ := List.mem_map.mp hkey
    exact no_slash_escape key
  · have hempty : escape "" = "" := rfl
    exact escape_injective (heq.trans hempty.symm)

/-! ## The documents -/

/-- `school_scalar_columns`. -/
def schoolScalarColumns : List String :=
  ["record_uid", "source_uid", "name", "display_name", "educational_servers",
    "administrative_servers", "class_share_file_server", "home_share_file_server",
    "udm_properties"]

/-- The columns of `SchoolModel`, all of which are loaded without load options. -/
def schoolColumns : List String := ["id", "public_id"] ++ schoolScalarColumns

theorem name_isTrans : IsTrans String (· ≤ ·) := ⟨fun _ _ _ => le_trans⟩

theorem name_antisymm : Std.Antisymm (α := String) (· ≤ ·) := ⟨fun _ _ => le_antisymm⟩

section

attribute [local instance] name_isTrans name_antisymm

def nameList (names : Finset String) : Json := .arr ((names.sort (· ≤ ·)).map .str)

end

section Documents

variable [Runtime]

/-- The attributes of a school, with a marker in the place of a column that is not loaded. -/
def loadedSchool (columns : List String) (s : SchoolModel) : Members :=
  let column name value := (name, if name ∈ columns then value else unloadedMarker)
  [column "administrative_servers" (nameList s.administrativeServers),
    column "class_share_file_server" (nullable .str s.classShareFileServer),
    column "display_name" (.str s.displayName),
    column "educational_servers" (nameList s.educationalServers),
    column "home_share_file_server" (nullable .str s.homeShareFileServer),
    column "name" (.str s.name),
    column "record_uid" (.str s.recordUid),
    column "source_uid" (.str s.sourceUid),
    column "udm_properties" (.obj s.udmProperties.normalise.rows)]

/-- What a session shows of objects, with some columns of the stored schools loaded. -/
@[reducible] def LoadedObjects.withSchools (shown : LoadedObjects) (db : Database)
    (columns : List String) : LoadedObjects :=
  { shown with
    attributes := fun t id =>
      match t with
      | .school => (db.schools.find? id).elim [] (loadedSchool columns)
      | t => shown.attributes t id }

/-- `to_json` of a user that `users.get` has loaded with all fields. -/
def storedUserDocument (shown : LoadedObjects) (db : Database) (id : PublicId) (u : User) :
    Members :=
  @userDocument _ (shown.withSchools db schoolScalarColumns) id u (fun _ => true)

/-- `to_json` of a user whose schools come from `schools.search`. -/
def changedUserDocument (shown : LoadedObjects) (db : Database) (id : PublicId) (u : User) :
    Members :=
  @userDocument _ (shown.withSchools db schoolColumns) id u (fun _ => true)

/-- `to_json` of a school. -/
def schoolDocument (id : PublicId) (s : School) : Members :=
  putField "public_id" (.str (Runtime.uuidText id)) (loadedSchool schoolColumns s)

theorem loadedSchool_columns (s : SchoolModel) :
    loadedSchool schoolScalarColumns s = loadedSchool schoolColumns s := by
  simp [loadedSchool, schoolColumns, schoolScalarColumns]

/-- The school of a membership is the same on both sides. -/
theorem reference_school (shown shown' : LoadedObjects) (db : Database) (id : PublicId) :
    @reference _ (shown.withSchools db schoolScalarColumns) .school id =
      @reference _ (shown'.withSchools db schoolColumns) .school id := by
  have hcolumns : loadedSchool schoolScalarColumns = loadedSchool schoolColumns :=
    funext loadedSchool_columns
  change Json.obj (putField _ _ ((db.schools.find? id).elim [] (loadedSchool schoolScalarColumns))) =
    Json.obj (putField _ _ ((db.schools.find? id).elim [] (loadedSchool schoolColumns)))
  rw [hcolumns]

end Documents

/-! ## Users -/

/-- `_USER_REPLACE_FIELDS`. -/
def userReplaceFields : Finset String :=
  {"legal_wards", "legal_guardians", "school_memberships/*/groups", "school_memberships/*/roles"}

theorem placeOf_userReplaceFields {path : List String} :
    (∃ f ∈ userReplaceFields, PlaceOf (fieldParts f) path) ↔
      path = ["legal_wards"] ∨ path = ["legal_guardians"] ∨
        ∃ key, path = ["school_memberships", key, "groups"] ∨
          path = ["school_memberships", key, "roles"] := by
  have hwards : fieldParts "legal_wards" = ["legal_wards"] := by decide
  have hguardians : fieldParts "legal_guardians" = ["legal_guardians"] := by decide
  have hgroups : fieldParts "school_memberships/*/groups" =
      ["school_memberships", "*", "groups"] := by decide
  have hroles : fieldParts "school_memberships/*/roles" =
      ["school_memberships", "*", "roles"] := by decide
  have hkeys : ∀ field : String, PlaceOf ["school_memberships", "*", field] path ↔
      ∃ key, path = ["school_memberships", key, field] := by
    intro field
    constructor
    · rintro ⟨k, _, rfl, hk, key, _, rfl, -, rfl⟩
      obtain rfl := hk.resolve_left (by decide)
      exact ⟨key, rfl⟩
    · rintro ⟨key, rfl⟩
      exact ⟨_, _, rfl, .inr rfl, key, _, rfl, .inl rfl, rfl⟩
  simp only [userReplaceFields, Finset.mem_insert, Finset.mem_singleton, exists_eq_or_imp,
    exists_eq_left, hwards, hguardians, hgroups, hroles, hkeys, exists_or]
  rfl

/-- The path of an operation to which `_classify_patch_operation` has no objection. -/
def Classified [Runtime] (text : String) : Prop :=
  ∃ relation, classifyPatchOperation (pathParts text) = .ok relation

theorem classified_other [Runtime] {k : String} {rest : List String} (hk : k ≠ "")
    (hr : ∀ r : UserRelation, k ≠ r.name) : Classified (escapedPointer (k :: rest)) := by
  have hname : ∀ r : UserRelation, escape k ≠ r.name := by
    intro r heq
    have hplain : escape r.name = r.name := escape_plain (by cases r <;> decide)
    exact hr r (escape_injective (heq.trans hplain.symm))
  refine ⟨none, ?_⟩
  rw [pathParts_escapedPointer hk, classifyPatchOperation]
  exact (if_neg (hname .schoolMemberships)).trans
    ((if_neg (hname .legalGuardians)).trans (if_neg (hname .legalWards)))

/-! ### The operations of the patch -/

theorem checkModifyOperations_ok [Runtime] {ops : List PatchOperation}
    (h : ∀ op ∈ ops, Classified op.path) :
    ∃ relations, checkModifyOperations ops = .ok relations := by
  have hkeys : ∃ keys,
      ops.mapM (fun op => classifyPatchOperation (pathParts op.path)) = .ok keys := by
    induction ops with
    | nil => exact ⟨[], rfl⟩
    | cons op ops ih =>
      obtain ⟨⟨key, hkey⟩, hrest⟩ := List.forall_mem_cons.mp h
      obtain ⟨keys, hkeys⟩ := ih hrest
      exact ⟨key :: keys, by rw [List.mapM_cons, hkey, hkeys]; rfl⟩
  obtain ⟨keys, hkeys⟩ := hkeys
  exact ⟨_, bind_eq_ok.mpr ⟨keys, hkeys, rfl⟩⟩

theorem mem_of_field? {key : String} {fields : Members} {j : Json} (h : field? key fields = some j) :
    (key, j) ∈ fields := by
  obtain ⟨f, hf, rfl⟩ := Option.map_eq_some_iff.mp h
  obtain rfl : f.1 = key := by simpa using List.find?_some hf
  exact List.mem_of_find?_eq_some hf

theorem differsAt_names {k : String} {rest : List String} {a b : Members}
    (h : DiffersAt (.obj a) (.obj b) (k :: rest)) : k ∈ a.map Prod.fst ∨ k ∈ b.map Prod.fst := by
  rw [← field?_ne_none, ← field?_ne_none]
  cases h with
  | member h =>
    by_contra hnone
    obtain ⟨ha, hb⟩ := not_or.mp hnone
    exact h (by rw [not_not.mp ha, not_not.mp hb])
  | inner ha _ _ => exact .inl (by simp [ha])

section Users

variable [UuidTextRuntime]

theorem fields_userDocument (shown : LoadedObjects) (id : PublicId) (u : User)
    (loaded : UserRelation → Bool) :
    (@userDocument _ shown id u loaded).map Prod.fst = userAttributes := rfl

theorem field?_schoolMemberships (shown : LoadedObjects) (id : PublicId) (u : User) :
    field? "school_memberships" (@userDocument _ shown id u (fun _ => true)) =
      some (@membershipsDocument _ shown u.schoolMemberships) := rfl

/-- The document of a membership is under the text of its school's id. -/
theorem exists_of_membershipsDocument {shown : LoadedObjects} {memberships : Memberships}
    {key : String} {fields : Members} {j : Json}
    (hfields : @membershipsDocument _ shown memberships = .obj fields)
    (hj : field? key fields = some j) :
    ∃ id m, key = Runtime.uuidText id ∧ j = @membershipDocument _ shown id m := by
  obtain rfl := Json.obj.inj hfields
  have hkeys : ((memberships.rows.map (fun m =>
      (Runtime.uuidText m.1, @membershipDocument _ shown m.1 m.2))).map Prod.fst).Nodup := by
    have hnodup := memberships.nodup_keys.map uuidText_injective
    rw [List.map_map] at hnodup ⊢
    exact hnodup
  have hmem := (dictMembers_perm hkeys).mem_iff.mp (mem_of_field? hj)
  obtain ⟨m, -, heq⟩ := List.mem_map.mp hmem
  obtain ⟨rfl, rfl⟩ := Prod.mk.inj heq
  exact ⟨m.1, m.2, rfl, rfl⟩

theorem classified_plain {k : String} {rest : List String}
    (h : ∀ key ∈ k :: rest, plainKey key = true) (hk : k ≠ "")
    (hclass : ∃ relation, classifyPatchOperation (k :: rest) = .ok relation) :
    Classified (pointerText (k :: rest)) := by
  obtain ⟨relation, hrelation⟩ := hclass
  refine ⟨relation, ?_⟩
  rwa [pathParts_pointerText (fun key hkey => (plainKey_iff.mp (h key hkey)).1) hk]

theorem classified_escaped {k : String} {rest : List String} (hk : k ≠ "")
    (hclass : ∃ relation, classifyPatchOperation (escape k :: rest.map escape) = .ok relation) :
    Classified (escapedPointer (k :: rest)) := by
  obtain ⟨relation, hrelation⟩ := hclass
  exact ⟨relation, by rwa [pathParts_escapedPointer hk]⟩

variable {shown shown' : LoadedObjects} {db : Database} {id : PublicId} {current target : User}

/-- A membership of the stored document. -/
theorem exists_membership {key : String} {j : Json}
    (h : valueAt ["school_memberships", key] (.obj (storedUserDocument shown db id current)) =
      some j) :
    ∃ school m, key = Runtime.uuidText school ∧
      j = @membershipDocument _ (shown.withSchools db schoolScalarColumns) school m := by
  rw [valueAt_cons, storedUserDocument, field?_schoolMemberships, Option.bind_some] at h
  obtain ⟨fields, hfields⟩ : ∃ fields, @membershipsDocument _
      (shown.withSchools db schoolScalarColumns) current.schoolMemberships = .obj fields := ⟨_, rfl⟩
  rw [hfields, valueAt_singleton] at h
  exact exists_of_membershipsDocument hfields h

theorem classified_relations {key : String} {field : String} (hkey : plainKey key = true)
    (hfield : field = "groups" ∨ field = "roles") :
    (∀ part ∈ ["school_memberships", key, field], plainKey part = true) ∧
      Classified (pointerText ["school_memberships", key, field]) := by
  have hplain : ∀ part ∈ ["school_memberships", key, field], plainKey part = true := by
    have htop : plainKey "school_memberships" = true := by decide
    have hlast : plainKey field = true := by
      rcases hfield with rfl | rfl <;> decide
    simp [htop, hkey, hlast]
  refine ⟨hplain, classified_plain hplain (by decide) ⟨some .schoolMemberships, ?_⟩⟩
  rcases hfield with rfl | rfl <;> rfl

/-- The replacements of the patch of a user. -/
theorem classified_replaced {path : List String} {f : String} (hf : f ∈ userReplaceFields)
    (hplace : PlaceOf (fieldParts f) path)
    (hcontainer : valueAt path.dropLast (.obj (storedUserDocument shown db id current)) ≠ none) :
    (∀ key ∈ path, plainKey key = true) ∧ Classified (pointerText path) := by
  have hkey : ∀ key, valueAt ["school_memberships", key]
      (.obj (storedUserDocument shown db id current)) ≠ none → plainKey key = true := by
    intro key h
    obtain ⟨j, hj⟩ := Option.ne_none_iff_exists'.mp h
    obtain ⟨school, m, rfl, -⟩ := exists_membership hj
    exact UuidTextRuntime.uuidText_plain school
  rcases placeOf_userReplaceFields.mp ⟨f, hf, hplace⟩ with rfl | rfl | ⟨key, rfl | rfl⟩
  · have hplain : ∀ key ∈ ["legal_wards"], plainKey key = true := by decide
    exact ⟨hplain, classified_plain hplain (by decide) ⟨some .legalWards, rfl⟩⟩
  · have hplain : ∀ key ∈ ["legal_guardians"], plainKey key = true := by decide
    exact ⟨hplain, classified_plain hplain (by decide) ⟨some .legalGuardians, rfl⟩⟩
  · exact classified_relations (hkey key hcontainer) (.inl rfl)
  · exact classified_relations (hkey key hcontainer) (.inr rfl)

/-- Two documents of memberships for one school differ in what is replaced, or in the flag. -/
theorem differsAt_membershipDocument {school : PublicId} {m m' : SchoolMembership}
    {path : List String}
    (h : DiffersAt (@membershipDocument _ (shown.withSchools db schoolScalarColumns) school m)
      (@membershipDocument _ (shown'.withSchools db schoolColumns) school m') path) :
    path = ["is_primary"] ∨ ["groups"] <+: path ∨ ["roles"] <+: path := by
  have hschool := reference_school shown shown' db school
  unfold membershipDocument at h
  obtain ⟨k, rest, rfl⟩ := List.exists_cons_of_ne_nil h.ne_nil
  by_cases hgroups : k = "groups"
  · exact .inr (.inl ⟨rest, by rw [hgroups]; rfl⟩)
  by_cases hroles : k = "roles"
  · exact .inr (.inr ⟨rest, by rw [hroles]; rfl⟩)
  by_cases hprimary : k = "is_primary"
  · subst hprimary
    cases h with
    | member h => exact absurd rfl h
    | inner ha hb h =>
      obtain rfl := Option.some.inj ha
      obtain rfl := Option.some.inj hb
      cases h with
      | value _ _ => exact .inl rfl
  have hsame : field? k [("groups", @references _ (shown.withSchools db schoolScalarColumns) .group
      m.groups), ("is_primary", .bool m.isPrimary),
      ("roles", @references _ (shown.withSchools db schoolScalarColumns) .role m.roles),
      ("school", @reference _ (shown.withSchools db schoolScalarColumns) .school school)] =
      field? k [("groups", @references _ (shown'.withSchools db schoolColumns) .group m'.groups),
      ("is_primary", .bool m'.isPrimary),
      ("roles", @references _ (shown'.withSchools db schoolColumns) .role m'.roles),
      ("school", @reference _ (shown'.withSchools db schoolColumns) .school school)] := by
    simp only [field?_cons, Ne.symm hgroups, Ne.symm hroles, Ne.symm hprimary, if_false, hschool]
  cases h with
  | member h => exact absurd (congrArg Option.isSome hsame) h
  | inner ha hb h => exact absurd (Option.some.inj (ha.symm.trans (hsame.trans hb))) h.ne

/-- The changes of the patch of a user. -/
theorem classified_changed {front below : List String}
    (hdiffers : DiffersAt (.obj (storedUserDocument shown db id current))
      (.obj (changedUserDocument shown' db id target)) front)
    (hout : ∀ place, (∃ f ∈ userReplaceFields, PlaceOf (fieldParts f) place) → ¬ place <+: front)
    (hbelow : below ≠ [] → ∃ xs,
      valueAt front (.obj (storedUserDocument shown db id current)) = some (.arr xs)) :
    Classified (escapedPointer (front ++ below)) := by
  have hmemberships : escape "school_memberships" = "school_memberships" :=
    escape_plain (by decide)
  have hflag : escape "is_primary" = "is_primary" := escape_plain (by decide)
  obtain ⟨k, rest, rfl⟩ := List.exists_cons_of_ne_nil hdiffers.ne_nil
  by_cases hk : ∃ r : UserRelation, k = r.name
  · obtain ⟨r, rfl⟩ := hk
    cases r with
    | legalWards =>
      exact absurd ⟨rest, rfl⟩ (hout ["legal_wards"] (placeOf_userReplaceFields.mpr (.inl rfl)))
    | legalGuardians =>
      exact absurd ⟨rest, rfl⟩
        (hout ["legal_guardians"] (placeOf_userReplaceFields.mpr (.inr (.inl rfl))))
    | schoolMemberships =>
      obtain ⟨stored, hstored⟩ : ∃ fields, @membershipsDocument _
        (shown.withSchools db schoolScalarColumns) current.schoolMemberships = .obj fields := ⟨_, rfl⟩
      obtain ⟨changed, hchanged⟩ : ∃ fields, @membershipsDocument _
        (shown'.withSchools db schoolColumns) target.schoolMemberships = .obj fields := ⟨_, rfl⟩
      have hinner : DiffersAt (.obj stored) (.obj changed) rest := by
        refine differsAt_below ?_ ?_ hdiffers
        · exact (field?_schoolMemberships _ _ _).trans (congrArg some hstored)
        · exact (field?_schoolMemberships _ _ _).trans (congrArg some hchanged)
      obtain ⟨key, rest, rfl⟩ := List.exists_cons_of_ne_nil hinner.ne_nil
      have hwhole : below = [] → rest = [] ∨ rest = ["is_primary"] →
          Classified (escapedPointer ("school_memberships" :: key :: rest ++ below)) := by
        rintro rfl (rfl | rfl)
        · refine classified_escaped (by decide) ⟨some .schoolMemberships, ?_⟩
          rw [hmemberships]
          rfl
        · refine classified_escaped (by decide) ⟨some .schoolMemberships, ?_⟩
          change classifyPatchOperation
            [escape "school_memberships", escape key, escape "is_primary"] = _
          rw [hmemberships, hflag]
          rfl
      have hcontainer : ∀ j, valueAt ["school_memberships", key]
          (.obj (storedUserDocument shown db id current)) = some j → ∃ school m,
            j = @membershipDocument _ (shown.withSchools db schoolScalarColumns) school m := by
        intro j hj
        obtain ⟨school, m, -, hm⟩ := exists_membership hj
        exact ⟨school, m, hm⟩
      cases hinner with
      | member _ =>
        refine hwhole (by_contra fun hne => ?_) (.inl rfl)
        obtain ⟨xs, hxs⟩ := hbelow hne
        obtain ⟨school, m, hm⟩ := hcontainer _ hxs
        cases hm
      | @inner _ _ _ _ x y ha hb h =>
        obtain ⟨school, m, hkey, rfl⟩ := exists_of_membershipsDocument hstored ha
        obtain ⟨school', m', hkey', rfl⟩ := exists_of_membershipsDocument hchanged hb
        obtain rfl := uuidText_injective (hkey.symm.trans hkey')
        rcases differsAt_membershipDocument h with rfl | hgroups | hroles
        · refine hwhole (by_contra fun hne => ?_) (.inr rfl)
          obtain ⟨xs, hxs⟩ := hbelow hne
          change valueAt ["school_memberships", key, "is_primary"] _ = _ at hxs
          rw [valueAt_cons, storedUserDocument, field?_schoolMemberships, Option.bind_some, hstored,
            valueAt_cons, ha] at hxs
          cases hxs
        · exact absurd (List.cons_prefix_cons.mpr ⟨rfl, List.cons_prefix_cons.mpr ⟨rfl, hgroups⟩⟩)
            (hout _ (placeOf_userReplaceFields.mpr (.inr (.inr ⟨key, .inl rfl⟩))))
        · exact absurd (List.cons_prefix_cons.mpr ⟨rfl, List.cons_prefix_cons.mpr ⟨rfl, hroles⟩⟩)
            (hout _ (placeOf_userReplaceFields.mpr (.inr (.inr ⟨key, .inr rfl⟩))))
  · refine classified_other ?_ (not_exists.mp hk)
    have hname : k ∈ userAttributes := (differsAt_names hdiffers).elim (fun h => h) (fun h => h)
    rintro rfl
    exact absurd hname (by decide)

/-- No operation of the patch of a user is refused. -/
theorem userPatch_supported [LocatedPatch] (shown shown' : LoadedObjects) (db : Database)
    (id : PublicId) (current target : User) :
    ∃ ops, patchOps (storedUserDocument shown db id current)
        (changedUserDocument shown' db id target) userReplaceFields = some ops ∧
      ∃ relations, checkModifyOperations (ops.map Operation.patchOperation) = .ok relations := by
  obtain ⟨ops, hops⟩ := @patchOps_isSome _ (storedUserDocument shown db id current)
    (changedUserDocument shown' db id target) userReplaceFields
    (fun f hf path hplace hcontainer => (classified_replaced hf hplace hcontainer).1)
  refine ⟨ops, hops, ?_⟩
  have hclassified : ∀ op ∈ ops.map Operation.patchOperation, Classified op.path := by
    intro _ hmem
    obtain ⟨op, hop, rfl⟩ := List.mem_map.mp hmem
    have hplaced := operations_placed hops hop
    generalize op.patchOperation.path = text at hplaced ⊢
    cases hplaced with
    | replaced hf hplace hcontainer => exact (classified_replaced hf hplace hcontainer).2
    | changed hdiffers hout hbelow =>
      refine classified_changed hdiffers ?_ hbelow
      rintro place ⟨f, hf, hplace⟩
      exact hout f hf place hplace
  exact checkModifyOperations_ok hclassified

end Users

/-! ## Groups -/

/-- The replace fields of both group handlers. -/
def groupReplaceFields : Finset String :=
  {"school", "roles", "allowed_email_senders_users", "allowed_email_senders_groups", "members",
    "member_roles"}

theorem placeOf_groupReplaceFields {path : List String} :
    (∃ f ∈ groupReplaceFields, PlaceOf (fieldParts f) path) ↔
      ∃ f ∈ groupReplaceFields, path = [f] := by
  have hparts : ∀ f ∈ groupReplaceFields, fieldParts f = [f] := by decide
  refine exists_congr fun f => and_congr_right fun hf => ?_
  rw [hparts f hf]
  rfl

/-- The operation is not deeper than `_MAX_PATCH_DEPTH` allows. -/
def WithinDepth (text : String) : Prop :=
  ∀ top rest, pathParts text = top :: rest →
    ∀ depth, maxPatchDepth top = some depth → rest.length + 1 ≤ depth

theorem maxPatchDepth_pos {top : String} {depth : Nat} (h : maxPatchDepth top = some depth) :
    1 ≤ depth ∧ top ∈ groupReplaceFields := by
  unfold maxPatchDepth at h
  repeat
    split at h
    · next htop =>
      subst htop
      exact ⟨by cases h; decide, by decide⟩
  cases h

theorem withinDepth_of_parts {text top : String} {rest : List String}
    (hparts : pathParts text = top :: rest)
    (h : ∀ depth, maxPatchDepth top = some depth → rest.length + 1 ≤ depth) : WithinDepth text := by
  intro top' rest' hparts'
  obtain ⟨rfl, rfl⟩ := List.cons.inj (hparts.symm.trans hparts')
  exact h

theorem GroupManager.checkModifyOperations_ok [Runtime] {ops : List PatchOperation}
    (h : ∀ op ∈ ops, WithinDepth op.path) : GroupManager.checkModifyOperations ops = .ok () := by
  refine forM_eq_ok.mpr (fun op hop => ?_)
  split
  · rfl
  · next top rest hparts => exact require_eq_ok.mpr (h op hop top rest hparts)

theorem plain_groupReplaceFields : ∀ f ∈ groupReplaceFields, plainKey f = true ∧ f ≠ "" := by
  decide

section Groups

variable [UuidTextRuntime]

/-- An operation of the patch of a group is at a replaced field or apart from these fields. -/
theorem withinDepth_placed {shown shown' : LoadedObjects} {id : PublicId} {current target : Group}
    {text : String} (h : Placed (@groupDocument _ shown id current) (@groupDocument _ shown' id target)
      groupReplaceFields text) : WithinDepth text := by
  cases h with
  | @replaced path f hf hplace _ =>
    obtain ⟨f, hf, rfl⟩ := placeOf_groupReplaceFields.mp ⟨f, hf, hplace⟩
    obtain ⟨hplain, hne⟩ := plain_groupReplaceFields f hf
    have hparts : pathParts (pointerText [f]) = [f] :=
      pathParts_pointerText (by simpa using (plainKey_iff.mp hplain).1) hne
    exact withinDepth_of_parts hparts (fun depth hdepth => (maxPatchDepth_pos hdepth).1)
  | @changed front below hdiffers hout _ =>
    obtain ⟨k, rest, rfl⟩ := List.exists_cons_of_ne_nil hdiffers.ne_nil
    have hname : k ∈ groupAttributes := (differsAt_names hdiffers).elim (fun h => h) (fun h => h)
    have hne : k ≠ "" := by
      rintro rfl
      exact absurd hname (by decide)
    refine withinDepth_of_parts (pathParts_escapedPointer hne) (fun depth hdepth => ?_)
    have hf := (maxPatchDepth_pos hdepth).2
    have hplain := (plain_groupReplaceFields _ hf).1
    have hself : escape k = k := escape_injective (escape_plain hplain)
    rw [hself] at hf
    obtain ⟨f, hf', hplace⟩ := placeOf_groupReplaceFields.mpr ⟨k, hf, rfl⟩
    exact absurd ⟨rest, rfl⟩ (hout f hf' [k] hplace)

/-- No operation of the patch of a group is refused. -/
theorem groupPatch_supported [LocatedPatch] (shown shown' : LoadedObjects) (id : PublicId)
    (current target : Group) :
    ∃ ops, patchOps (@groupDocument _ shown id current) (@groupDocument _ shown' id target)
        groupReplaceFields = some ops ∧
      GroupManager.checkModifyOperations (ops.map Operation.patchOperation) = .ok () := by
  obtain ⟨ops, hops⟩ := @patchOps_isSome _ (@groupDocument _ shown id current)
    (@groupDocument _ shown' id target) groupReplaceFields (fun f hf path hplace _ => by
      obtain ⟨f, hf, rfl⟩ := placeOf_groupReplaceFields.mp ⟨f, hf, hplace⟩
      simpa using (plain_groupReplaceFields f hf).1)
  refine ⟨ops, hops, GroupManager.checkModifyOperations_ok ?_⟩
  intro _ hmem
  obtain ⟨op, hop, rfl⟩ := List.mem_map.mp hmem
  exact withinDepth_placed (operations_placed hops hop)

end Groups

/-! ## Schools -/

theorem require_bind_eq_error {p : Prop} [Decidable p] {e x : Exc} {β : Type}
    {f : Unit → Except Exc β} (h : require p e >>= f = .error x) : x = e ∨ f () = .error x := by
  unfold require at h
  split at h
  · exact .inr h
  · exact .inl (Except.error.inj h).symm

theorem SchoolValidator.validate_error [Runtime] {school : School} {x : Exc}
    (h : SchoolValidator.validate school = .error x) : ∃ message, x = .valueError message := by
  rcases require_bind_eq_error h with rfl | h
  · exact ⟨_, rfl⟩
  rcases require_bind_eq_error h with rfl | h
  · exact ⟨_, rfl⟩
  rcases require_bind_eq_error h with rfl | h
  · exact ⟨_, rfl⟩
  unfold check require at h
  split at h
  · cases h
  · exact ⟨_, (Except.error.inj h).symm⟩

/-- The school manager checks no paths. -/
theorem SchoolManager.modify_supported [Runtime] (db : Database) (id : PublicId) (patched : School)
    (message : String) :
    SchoolManager.modify db id patched ≠ .error (.unsupportedOperation message) := by
  intro h
  unfold SchoolManager.modify at h
  split at h
  · cases h
  · cases hvalid : SchoolValidator.validate patched with
    | error x =>
      obtain ⟨text, rfl⟩ := SchoolValidator.validate_error hvalid
      rw [hvalid] at h
      cases h
    | ok _ =>
      rw [hvalid] at h
      rcases require_bind_eq_error h with hx | h
      · cases hx
      · cases h

/-! ## The patches of the handlers -/

/-- Whatever an event changes, the patch of a stored object is made and no manager refuses one of
its paths. -/
theorem trackedPatches_supported [UuidTextRuntime] [LocatedPatch] (shown shown' : LoadedObjects)
    (db : Database) (id : PublicId) :
    (∀ (model : UserModel) (props : UserProperties) (memberships : Memberships)
        (legalWards legalGuardians : Finset PublicId),
      ∃ ops, patchOps (storedUserDocument shown db id (toUser db.toObjects id model))
          (changedUserDocument shown' db id (applyUserChanges (toUser db.toObjects id model) props
            memberships legalWards legalGuardians)) userReplaceFields = some ops ∧
        ∃ relations, checkModifyOperations (ops.map Operation.patchOperation) = .ok relations) ∧
    (∀ (current : Group) (props : GroupProperties) (school : Option PublicId)
        (roles senderUsers senderGroups members memberRoles : Finset PublicId),
      ∃ ops, patchOps (@groupDocument _ shown id current)
          (@groupDocument _ shown' id (applyGroupChanges current props school roles senderUsers
            senderGroups members memberRoles)) groupReplaceFields = some ops ∧
        GroupManager.checkModifyOperations (ops.map Operation.patchOperation) = .ok ()) ∧
    ∀ (current : School) (props : SchoolProperties) (classServer homeServer : Option String),
      (∃ ops, patchOps (schoolDocument id current)
          (schoolDocument id (applySchoolChanges current props classServer homeServer)) ∅ =
            some ops) ∧
        ∀ patched message, SchoolManager.modify db id patched ≠
          .error (.unsupportedOperation message) := by
  refine ⟨?_, ?_, ?_⟩
  · intro model props memberships legalWards legalGuardians
    exact userPatch_supported shown shown' db id _ _
  · intro current props school roles senderUsers senderGroups members memberRoles
    exact groupPatch_supported shown shown' id _ _
  · intro current props classServer homeServer
    refine ⟨patchOps_isSome (fun f hf => ?_), SchoolManager.modify_supported db id⟩
    exact absurd hf (Finset.notMem_empty f)

end Kelvin
