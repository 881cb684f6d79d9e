import Kelvin.Data.UnitOfWork
import Kelvin.Objects.GroupMembers

/-!
# Patches of school memberships

`_apply_membership_relation_changes` of the user manager, with its flushes. The memberships of the
patched document are a dictionary whose keys are texts of UUIDs; the memberships of the stored user
are compared with it by their UUIDs, but their groups and roles by the text of the key.

* `documentMemberships`: the memberships that the document describes.
* `applyMembershipRelationChanges`: the units of work that are flushed.
* `find?_demote`, `find?_syncPatched`, `new_syncPatched`: what the two loops do.
-/

namespace Kelvin

/-- A membership of a patched document, by what `get` reads of it. The groups and roles are the
public ids of the references. -/
structure MembershipEntry where
  isPrimary : Option Bool
  groups : Finset PublicId
  roles : Finset PublicId
deriving DecidableEq

/-- An entry with its key and the UUID of the key. -/
structure PatchedMembership extends MembershipEntry where
  key : String
  school : PublicId
deriving DecidableEq

/-- The membership that an entry describes. -/
def MembershipEntry.membership (e : MembershipEntry) : SchoolMembership where
  isPrimary := e.isPrimary.getD false
  roles := e.roles
  groups := e.groups

/-- A membership row and its links. -/
abbrev Memberships := Table PublicId SchoolMembership

/-- The unique `primary_user_constraint`, for the rows with their links. -/
abbrev UniquePrimary : Memberships → Prop := AtMostOne (fun m => m.isPrimary = true)

/-- The memberships that a document describes. -/
def documentMemberships (entries : List PatchedMembership) : Memberships :=
  runAll .empty (entries.map (fun e => .insert e.school e.membership))

section Apply

variable [UuidRuntime]

/-- `UUID(key)`. -/
def readKey (entry : String × MembershipEntry) : Except Exc PatchedMembership :=
  match UuidRuntime.uuid entry.1 with
  | some school => .ok { toMembershipEntry := entry.2, key := entry.1, school := school }
  | none => .error (.valueError "badly formed hexadecimal UUID string")

/-- `current_memberships.get(key)`: the document of the stored user has the texts of the schools
as its keys. -/
def currentMembership? (stored : Memberships) (key : String) : Option SchoolMembership :=
  (stored.rows.find? (fun m => Runtime.uuidText m.1 = key)).map Prod.snd

/-- `removed_school_uuids`. -/
def removedSchools (stored : Memberships) (entries : List PatchedMembership) : List PublicId :=
  (stored.rows.map Prod.fst).filter (fun school => school ∉ entries.map (·.school))

/-- One turn of the loop that demotes, on the kept memberships and the flag `demoted`. -/
def demote (acc : Memberships × Bool) (e : PatchedMembership) : Memberships × Bool :=
  match acc.1.find? e.school with
  | some m =>
    if m.isPrimary ∧ e.isPrimary.getD true = false then
      (acc.1.insert e.school { m with isPrimary := false }, true)
    else acc
  | none => acc

/-- `sync_collection`: the relation is only set where the ids differ from those of the current
document. -/
def syncIds (patched current kept : Finset PublicId) : Finset PublicId :=
  if current = patched then kept else patched

/-- `_sync_membership_links`. -/
def syncMembershipLinks (stored : Memberships) (e : PatchedMembership) (m : SchoolMembership) :
    SchoolMembership :=
  let current := (currentMembership? stored e.key).getD ⟨false, ∅, ∅⟩
  { m with
    groups := syncIds e.groups current.groups m.groups
    roles := syncIds e.roles current.roles m.roles }

/-- The fetches of `_sync_membership_links`. -/
def fetchMembershipLinks (db : Objects) (stored : Memberships) (e : PatchedMembership) :
    Except Exc Unit := do
  let current := (currentMembership? stored e.key).getD ⟨false, ∅, ∅⟩
  syncCollection "Group" db.groups.keys e.groups current.groups
  syncCollection "Role" db.roles.keys e.roles current.roles

/-- The new membership of `_create_membership`, before its links are synchronised. -/
def createdMembership (e : PatchedMembership) : SchoolMembership := ⟨e.isPrimary.getD false, ∅, ∅⟩

/-- The kept membership with the flag of the entry, if it has one. -/
def flaggedMembership (e : PatchedMembership) (m : SchoolMembership) : SchoolMembership :=
  { m with isPrimary := e.isPrimary.getD m.isPrimary }

/-- One turn of the loop that creates and promotes. -/
def syncPatched (stored : Memberships) (u : UnitOfWork PublicId SchoolMembership)
    (e : PatchedMembership) : UnitOfWork PublicId SchoolMembership :=
  match u.objects.find? e.school with
  | none =>
    { u with new := u.new ++ [(e.school, syncMembershipLinks stored e (createdMembership e))] }
  | some m =>
    { u with
      objects := u.objects.insert e.school
        (syncMembershipLinks stored e (flaggedMembership e m)) }

/-- The fetches of this turn. -/
def fetchPatched (db : Objects) (stored : Memberships) (u : UnitOfWork PublicId SchoolMembership)
    (e : PatchedMembership) : Except Exc Unit := do
  onlyIf (u.objects.find? e.school = none) (bulkFetch "School" db.schools.keys {e.school})
  fetchMembershipLinks db stored e

/-- The memberships that are not removed, after the loop that demotes, and the flag `demoted`. -/
def demotedMemberships (stored : Memberships) (entries : List PatchedMembership) :
    Memberships × Bool :=
  entries.foldl demote
    (stored.filter (fun school _ => school ∉ removedSchools stored entries), false)

/-- What the session holds before the loop that creates and promotes. -/
def releasedSlot (stored : Memberships) (entries : List PatchedMembership) :
    UnitOfWork PublicId SchoolMembership where
  rows := stored
  objects := (demotedMemberships stored entries).1
  deleted := removedSchools stored entries
  new := []

/-- `removed_school_uuids or demoted`: the slot is flushed on its own. -/
def flushesSlot (stored : Memberships) (entries : List PatchedMembership) : Bool :=
  removedSchools stored entries ≠ [] || (demotedMemberships stored entries).2

/-- What the session holds after this flush, if it is made. -/
def afterRelease (stored : Memberships) (entries : List PatchedMembership) :
    UnitOfWork PublicId SchoolMembership :=
  if flushesSlot stored entries then
    { rows := (releasedSlot stored entries).flushed
      objects := (releasedSlot stored entries).flushed
      deleted := []
      new := [] }
  else releasedSlot stored entries

/-- `_apply_membership_relation_changes`: the units of work that are flushed, one after the other,
the last of them at the end of the transaction. -/
def applyMembershipRelationChanges (db : Objects) (stored : Memberships)
    (patched : List (String × MembershipEntry)) :
    Except Exc (List (UnitOfWork PublicId SchoolMembership)) := do
  let entries ← patched.mapM readKey
  let last ← entries.foldlM (fun u e => do
    fetchPatched db stored u e
    pure (syncPatched stored u e)) (afterRelease stored entries)
  pure (if flushesSlot stored entries then [releasedSlot stored entries, last] else [last])

/-- `modify` of a user, as far as it is about the memberships. -/
def UserManager.modifyMemberships (db : Database) (id : PublicId)
    (patched : List (String × MembershipEntry)) :
    Except Exc (List (UnitOfWork PublicId SchoolMembership)) :=
  match db.users.find? id with
  | none => .error (.notFound "User" {id})
  | some model =>
    applyMembershipRelationChanges db.toObjects (toUser db.toObjects id model).schoolMemberships
      patched

/-! ## The kept memberships -/

section Kept

variable {stored : Memberships} {entries : List PatchedMembership} {e : PatchedMembership}

theorem readKey_eq_ok {entry : String × MembershipEntry} :
    readKey entry = .ok e ↔
      UuidRuntime.uuid entry.1 = some e.school ∧ e.key = entry.1 ∧
        e.toMembershipEntry = entry.2 := by
  obtain ⟨entry', key, school⟩ := e
  unfold readKey
  cases UuidRuntime.uuid entry.1 with
  | none => simp
  | some s =>
    simp only [Except.ok.injEq, PatchedMembership.mk.injEq, Option.some_inj]
    constructor
    · rintro ⟨rfl, rfl, rfl⟩
      exact ⟨rfl, rfl, rfl⟩
    · rintro ⟨rfl, rfl, rfl⟩
      exact ⟨rfl, rfl, rfl⟩

/-- The current document only has the key that is the text of the school. -/
theorem currentMembership?_eq (hkey : UuidRuntime.uuid e.key = some e.school) :
    currentMembership? stored e.key =
      if e.key = Runtime.uuidText e.school then stored.find? e.school else none := by
  have htext : ∀ s, Runtime.uuidText s = e.key ↔ e.key = Runtime.uuidText e.school ∧ s = e.school := by
    intro s
    constructor
    · intro h
      rw [← h, UuidRuntime.uuid_uuidText] at hkey
      cases hkey
      exact ⟨h.symm, rfl⟩
    · rintro ⟨h, rfl⟩
      exact h.symm
  unfold currentMembership? Table.find?
  simp only [htext]
  split
  · next h => simp [h]
  · next h => simp [h]

/-- The membership after the loop that demotes. -/
def demotedMembership (e : PatchedMembership) (m : SchoolMembership) : SchoolMembership :=
  if m.isPrimary ∧ e.isPrimary.getD true = false then { m with isPrimary := false } else m

omit [UuidRuntime] in
theorem find?_demote (acc : Memberships × Bool) (e : PatchedMembership) (k : PublicId) :
    (demote acc e).1.find? k =
      if k = e.school then (acc.1.find? k).map (demotedMembership e) else acc.1.find? k := by
  unfold demote demotedMembership
  cases h : acc.1.find? e.school with
  | none =>
    dsimp only
    split
    · next hk => rw [hk, h, Option.map_none]
    · rfl
  | some m =>
    dsimp only
    by_cases hcond : m.isPrimary ∧ e.isPrimary.getD true = false
    · rw [if_pos hcond, Table.find?_insert]
      split
      · next hk => rw [hk, h, Option.map_some, if_pos hcond]
      · rfl
    · rw [if_neg hcond]
      split
      · next hk => rw [hk, h, Option.map_some, if_neg hcond]
      · rfl

omit [UuidRuntime] in
/-- Where nothing was demoted, the memberships are as they were. -/
theorem foldl_demote_eq_self (acc : Memberships × Bool) (h : (entries.foldl demote acc).2 = false) :
    (entries.foldl demote acc).1 = acc.1 ∧ acc.2 = false := by
  induction entries generalizing acc with
  | nil => exact ⟨rfl, h⟩
  | cons e entries ih =>
    obtain ⟨hrest, hflag⟩ := ih (demote acc e) h
    have hstep : demote acc e = acc ∨ (demote acc e).2 = true := by
      unfold demote
      split
      · split
        · exact .inr rfl
        · exact .inl rfl
      · exact .inl rfl
    have hsame : demote acc e = acc := hstep.resolve_right (by simp [hflag])
    rw [hsame] at hrest hflag
    exact ⟨by rw [List.foldl_cons, hsame]; exact hrest, hflag⟩

/-- A kept membership after the loop that creates and promotes. -/
def syncedMembership (stored : Memberships) (e : PatchedMembership) (m : SchoolMembership) :
    SchoolMembership := syncMembershipLinks stored e (flaggedMembership e m)

theorem find?_syncPatched (u : UnitOfWork PublicId SchoolMembership) (e : PatchedMembership)
    (k : PublicId) :
    (syncPatched stored u e).objects.find? k =
      if k = e.school then (u.objects.find? k).map (syncedMembership stored e)
      else u.objects.find? k := by
  unfold syncPatched
  cases h : u.objects.find? e.school with
  | none =>
    dsimp only
    split
    · next hk => rw [hk, h, Option.map_none]
    · rfl
  | some m =>
    dsimp only
    rw [Table.find?_insert]
    split
    · next hk =>
      rw [hk, h]
      rfl
    · rfl

theorem rows_syncPatched (u : UnitOfWork PublicId SchoolMembership) :
    (entries.foldl (syncPatched stored) u).rows = u.rows ∧
      (entries.foldl (syncPatched stored) u).deleted = u.deleted := by
  induction entries generalizing u with
  | nil => exact ⟨rfl, rfl⟩
  | cons e entries ih =>
    rw [List.foldl_cons, (ih _).1, (ih _).2]
    unfold syncPatched
    split <;> exact ⟨rfl, rfl⟩

/-- The memberships that are new, in the order of their entries. -/
theorem new_syncPatched (u : UnitOfWork PublicId SchoolMembership) :
    (entries.foldl (syncPatched stored) u).new =
      u.new ++ (entries.filter (fun e => u.objects.find? e.school = none)).map
        (fun e => (e.school, syncMembershipLinks stored e (createdMembership e))) := by
  induction entries generalizing u with
  | nil => simp
  | cons e entries ih =>
    have hkept : ∀ k, (syncPatched stored u e).objects.find? k = none ↔
        u.objects.find? k = none := by
      intro k
      rw [find?_syncPatched]
      split <;> simp
    rw [List.foldl_cons, ih]
    simp only [hkept, List.filter_cons, decide_eq_true_eq]
    cases h : u.objects.find? e.school with
    | none => simp [syncPatched, h]
    | some m => simp [syncPatched, h]

end Kept

end Apply

end Kelvin
