import Kelvin.Objects.Managers

/-!
# The DN mapper

`adapters/sqlalchemy/dn_mapper.py`. Setting a mapping first deletes the row of the object
and the row that holds the DN (`displace`), then adds the new row (`addMapping`). The
session sends the deletion at once and the addition at the next flush, so the lookups of
a handler that sets the mapping first read the displaced tables.
-/

namespace Kelvin

namespace Database

variable {db : Database} {t t' : ObjectType} {dn d : String} {id k : PublicId} {dns : List String}

/-- The values of `dns_to_public_ids`: the objects that the listed DNs are mapped to. -/
def dnsToPublicIds (db : Database) (t : ObjectType) (dns : List String) : Finset PublicId :=
  (db.dns t).collect (fun id dn => if dn ∈ dns then {id} else ∅)

/-- The database without the mapping rows of the object and of the DN. -/
def displace (db : Database) (t : ObjectType) (dn : String) (id : PublicId) : Database :=
  db.withDns t ((db.dns t).filter (fun id' dn' => dn' ≠ dn && id' ≠ id))

def addMapping (db : Database) (t : ObjectType) (dn : String) (id : PublicId) : Database :=
  db.withDns t ((db.dns t).insert id dn)

def setMapping (db : Database) (t : ObjectType) (dn : String) (id : PublicId) : Database :=
  (db.displace t dn id).addMapping t dn id

@[simp] theorem toObjects_displace : (db.displace t dn id).toObjects = db.toObjects :=
  toObjects_withDns _ _ _

@[simp] theorem toObjects_addMapping : (db.addMapping t dn id).toObjects = db.toObjects :=
  toObjects_withDns _ _ _

@[simp] theorem toObjects_setMapping : (db.setMapping t dn id).toObjects = db.toObjects := by
  simp [setMapping]

theorem mem_dnsToPublicIds :
    id ∈ db.dnsToPublicIds t dns ↔ ∃ dn ∈ dns, (db.dns t).find? id = some dn := by
  simp only [dnsToPublicIds, Table.mem_collect]
  constructor
  · rintro ⟨k, dn, hk, hid⟩
    split at hid
    · next h =>
      rw [Finset.mem_singleton] at hid
      exact ⟨dn, h, hid ▸ hk⟩
    · simp at hid
  · rintro ⟨dn, hdn, hid⟩
    exact ⟨id, dn, hid, by simp [hdn]⟩

theorem find?_displace :
    ((db.displace t dn id).dns t).find? k = some d ↔
      (db.dns t).find? k = some d ∧ d ≠ dn ∧ k ≠ id := by
  simp [displace, Option.filter_eq_some_iff]

theorem find?_setMapping :
    ((db.setMapping t dn id).dns t).find? k = some d ↔
      (k = id ∧ d = dn) ∨ (k ≠ id ∧ d ≠ dn ∧ (db.dns t).find? k = some d) := by
  rw [setMapping, addMapping, dns_withDns_self, Table.find?_insert]
  split
  · next h => simp [h, eq_comm]
  · next h =>
    rw [find?_displace]
    simp only [h, false_and, ne_eq, not_false_eq_true, true_and, and_true, false_or]
    exact and_comm

@[simp] theorem find?_setMapping_self : ((db.setMapping t dn id).dns t).find? id = some dn :=
  find?_setMapping.mpr (.inl ⟨rfl, rfl⟩)

theorem dns_displace_ne (h : t' ≠ t) : (db.displace t dn id).dns t' = db.dns t' :=
  dns_withDns_ne _ _ _ h

theorem dns_addMapping_ne (h : t' ≠ t) : (db.addMapping t dn id).dns t' = db.dns t' :=
  dns_withDns_ne _ _ _ h

theorem dns_setMapping_ne (h : t' ≠ t) : (db.setMapping t dn id).dns t' = db.dns t' := by
  rw [setMapping, dns_addMapping_ne h, dns_displace_ne h]

/-- Displacing rows that are not there changes nothing. -/
theorem displace_eq_self (h : ∀ k d, (db.dns t).find? k = some d → d ≠ dn ∧ k ≠ id) :
    db.displace t dn id = db := by
  refine ext_dns (by simp) (fun t' => ?_)
  by_cases ht : t' = t
  · subst ht
    ext1 k
    apply Option.ext
    intro d
    rw [find?_displace]
    exact ⟨fun hd => hd.1, fun hd => ⟨hd, h k d hd⟩⟩
  · rw [dns_displace_ne ht]

/-- A mapping added where its rows have been displaced is a mapping that is set. -/
theorem addMapping_eq_setMapping {db' : Database}
    (h : db'.dns t = (db.displace t dn id).dns t) :
    db'.addMapping t dn id = db'.setMapping t dn id := by
  rw [setMapping, displace_eq_self]
  intro k d hd
  rw [h] at hd
  exact (find?_displace.mp hd).2

end Database

end Kelvin
