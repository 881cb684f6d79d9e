import Kelvin.Connector.Resolution
import Kelvin.Data.Arrival

/-!
# Snapshots

A finite set of users and groups, and the create events that bring them into a cache in which
the schools are known already. `Arrived` describes the cache after some of the events: which
rows and which mappings it has, in terms of the events alone. From it every resolution of
a DN is known at every point of every order of the events.

* `Snapshot`, `Snapshot.events`: the objects and their create events.
* `Arrived`: the rows and mappings after some events.
* `Arrived.userCreate`, `Arrived.groupCreate`: the next event.
-/

namespace Kelvin

/-- Users and groups as their create events carry them, with distinct ids and DNs. -/
structure Snapshot where
  users : List UserPayload
  groups : List GroupPayload
  userIds : (users.map UserPayload.id).Nodup
  userDns : (users.map (·.dn)).Nodup
  groupIds : (groups.map GroupPayload.id).Nodup
  groupDns : (groups.map (·.dn)).Nodup

namespace Snapshot

variable {S : Snapshot} {u v : UserPayload} {g h : GroupPayload}

def events (S : Snapshot) : List Event :=
  S.users.map Event.userCreate ++ S.groups.map Event.groupCreate

@[simp] theorem userCreate_mem : Event.userCreate u ∈ S.events ↔ u ∈ S.users := by
  simp [events]

@[simp] theorem groupCreate_mem : Event.groupCreate g ∈ S.events ↔ g ∈ S.groups := by
  simp [events]

theorem mem_events {e : Event} : e ∈ S.events ↔
    (∃ u ∈ S.users, e = .userCreate u) ∨ (∃ g ∈ S.groups, e = .groupCreate g) := by
  simp [events, eq_comm]

theorem user_eq_of_id (hu : u ∈ S.users) (hv : v ∈ S.users) (hid : u.id = v.id) : u = v :=
  List.inj_on_of_nodup_map S.userIds hu hv hid

theorem user_eq_of_dn (hu : u ∈ S.users) (hv : v ∈ S.users) (hdn : u.dn = v.dn) : u = v :=
  List.inj_on_of_nodup_map S.userDns hu hv hdn

theorem group_eq_of_id (hg : g ∈ S.groups) (hh : h ∈ S.groups) (hid : g.id = h.id) : g = h :=
  List.inj_on_of_nodup_map S.groupIds hg hh hid

theorem group_eq_of_dn (hg : g ∈ S.groups) (hh : h ∈ S.groups) (hdn : g.dn = h.dn) : g = h :=
  List.inj_on_of_nodup_map S.groupDns hg hh hdn

theorem nodup_events : S.events.Nodup := by
  refine List.Nodup.append ?_ ?_ ?_
  · exact S.userIds.of_map.map (fun _ _ h => Event.userCreate.inj h)
  · exact S.groupIds.of_map.map (fun _ _ h => Event.groupCreate.inj h)
  · intro e he he'
    obtain ⟨u, -, rfl⟩ := List.mem_map.mp he
    obtain ⟨g, -, hg⟩ := List.mem_map.mp he'
    cases hg

end Snapshot

/-- `e` is the next event of the snapshot after `pre`. -/
structure Next (S : Snapshot) (pre : List Event) (e : Event) : Prop where
  seen : ∀ x ∈ pre, x ∈ S.events
  here : e ∈ S.events
  fresh : e ∉ pre

/-- In an order of the snapshot's events, every event is the next one in its turn. -/
theorem next_of_perm {S : Snapshot} {pre post es : List Event} {e : Event}
    (hperm : es.Perm S.events) (hsplit : pre ++ e :: post = es) : Next S pre e := by
  have hnodup : (pre ++ e :: post).Nodup := hsplit ▸ hperm.nodup_iff.mpr S.nodup_events
  have hmem : ∀ x ∈ pre ++ e :: post, x ∈ S.events :=
    fun x hx => hperm.mem_iff.mp (hsplit ▸ hx)
  refine ⟨fun x hx => hmem x (List.mem_append_left _ hx), hmem e (by simp), fun he => ?_⟩
  exact (List.disjoint_of_nodup_append hnodup) he List.mem_cons_self

/-- One of the schools of the user is known. -/
def Kept (db₀ : Database) (u : UserPayload) : Prop :=
  (searchSchools db₀ u.properties.school).rows ≠ []

/-- The schools of the user that are known. -/
def schoolsOf (db₀ : Database) (u : UserPayload) : Finset PublicId :=
  (searchSchools db₀ u.properties.school).keys

/-- The school of the group, if it is known. -/
def schoolOf (db₀ : Database) (g : GroupPayload) : Option PublicId :=
  findSchool db₀ (groupSchoolName g.properties)

/-- The rows and mappings of a cache that had the schools of `db₀` and no other objects, after
the create events `pre`. -/
structure Arrived (db₀ : Database) (pre : List Event) (db : Database) : Prop where
  schools : db.schools = db₀.schools
  isMember : ∀ id s, db.IsMember s id ↔
    ∃ u, .userCreate u ∈ pre ∧ u.id = id ∧ s ∈ schoolsOf db₀ u
  userKeys : ∀ id, id ∈ db.users.keys ↔ ∃ u, .userCreate u ∈ pre ∧ Kept db₀ u ∧ u.id = id
  userDns : ∀ id dn, (db.dns .user).find? id = some dn ↔
    ∃ u, .userCreate u ∈ pre ∧ Kept db₀ u ∧ u.id = id ∧ u.dn = dn
  groups : ∀ id s, (db.groups.find? id).map (·.school) = some s ↔
    ∃ g, .groupCreate g ∈ pre ∧ schoolOf db₀ g = some s ∧ g.id = id
  groupDns : ∀ id dn, (db.dns .group).find? id = some dn ↔
    ∃ g, .groupCreate g ∈ pre ∧ schoolOf db₀ g ≠ none ∧ g.id = id ∧ g.dn = dn

/-- A cache without users and groups. -/
theorem arrived_nil {db₀ : Database} (hi : Integrity db₀) (husers : db₀.users = .empty)
    (hgroups : db₀.groups = .empty) : Arrived db₀ [] db₀ where
  schools := rfl
  isMember := by simp [Objects.isMember_iff, husers]
  userKeys := by simp [husers]
  userDns := by
    intro id dn
    simp only [List.not_mem_nil, false_and, exists_false, iff_false]
    intro h
    have hstored : id ∈ db₀.users.keys := hi.dnStored (t := .user) h
    simp [husers] at hstored
  groups := by simp [hgroups]
  groupDns := by
    intro id dn
    simp only [List.not_mem_nil, false_and, exists_false, iff_false]
    intro h
    have hstored : id ∈ db₀.groups.keys := hi.dnStored (t := .group) h
    simp [hgroups] at hstored

theorem kept_of_mem_schoolsOf {db₀ : Database} {u : UserPayload} {s : PublicId}
    (h : s ∈ schoolsOf db₀ u) : Kept db₀ u := by
  intro hempty
  rw [schoolsOf, Table.keys, hempty] at h
  simp at h

variable {S : Snapshot} {db₀ db db' : Database} {pre : List Event} {k s : PublicId}
  {dns : List String}

theorem Next.user_ne {u : UserPayload} (hn : Next S pre (.userCreate u)) {v : UserPayload}
    (hv : Event.userCreate v ∈ pre) : v.id ≠ u.id ∧ v.dn ≠ u.dn := by
  have hv' := Snapshot.userCreate_mem.mp (hn.seen _ hv)
  have hu' := Snapshot.userCreate_mem.mp hn.here
  constructor
  · exact fun h => hn.fresh (Snapshot.user_eq_of_id hv' hu' h ▸ hv)
  · exact fun h => hn.fresh (Snapshot.user_eq_of_dn hv' hu' h ▸ hv)

theorem Next.group_ne {g : GroupPayload} (hn : Next S pre (.groupCreate g)) {h : GroupPayload}
    (hh : Event.groupCreate h ∈ pre) : h.id ≠ g.id ∧ h.dn ≠ g.dn := by
  have hh' := Snapshot.groupCreate_mem.mp (hn.seen _ hh)
  have hg' := Snapshot.groupCreate_mem.mp hn.here
  constructor
  · exact fun hid => hn.fresh (Snapshot.group_eq_of_id hh' hg' hid ▸ hh)
  · exact fun hdn => hn.fresh (Snapshot.group_eq_of_dn hh' hg' hdn ▸ hh)

theorem Arrived.userDropped (ha : Arrived db₀ pre db) {u : UserPayload} (hdropped : ¬ Kept db₀ u) :
    Arrived db₀ (pre ++ [.userCreate u]) db where
  schools := ha.schools
  isMember := by
    intro id s
    rw [ha.isMember]
    simp only [List.mem_append, List.mem_singleton, Event.userCreate.injEq]
    constructor
    · rintro ⟨v, hv, hid, hs⟩
      exact ⟨v, .inl hv, hid, hs⟩
    · rintro ⟨v, hv | rfl, hid, hs⟩
      · exact ⟨v, hv, hid, hs⟩
      · exact absurd (kept_of_mem_schoolsOf hs) hdropped
  userKeys := by
    intro id
    rw [ha.userKeys]
    simp only [List.mem_append, List.mem_singleton, Event.userCreate.injEq]
    constructor
    · rintro ⟨v, hv, hk⟩
      exact ⟨v, .inl hv, hk⟩
    · rintro ⟨v, hv | rfl, hk, hid⟩
      · exact ⟨v, hv, hk, hid⟩
      · exact absurd hk hdropped
  userDns := by
    intro id dn
    rw [ha.userDns]
    simp only [List.mem_append, List.mem_singleton, Event.userCreate.injEq]
    constructor
    · rintro ⟨v, hv, hk⟩
      exact ⟨v, .inl hv, hk⟩
    · rintro ⟨v, hv | rfl, hk, hid⟩
      · exact ⟨v, hv, hk, hid⟩
      · exact absurd hk hdropped
  groups := by
    intro id s
    simpa using ha.groups id s
  groupDns := by
    intro id dn
    simpa using ha.groupDns id dn

/-! ## Resolutions -/

theorem Arrived.mem_fetchUsers (ha : Arrived db₀ pre db) : k ∈ fetchUsersByDns db dns ↔
    ∃ u, .userCreate u ∈ pre ∧ Kept db₀ u ∧ u.id = k ∧ u.dn ∈ dns := by
  rw [mem_fetchUsersByDns]
  constructor
  · rintro ⟨-, d, hd, hfind⟩
    obtain ⟨u, hu, hkept, hid, rfl⟩ := (ha.userDns k d).mp hfind
    exact ⟨u, hu, hkept, hid, hd⟩
  · rintro ⟨u, hu, hkept, hid, hd⟩
    exact ⟨(ha.userKeys k).mpr ⟨u, hu, hkept, hid⟩, u.dn, hd,
      (ha.userDns k u.dn).mpr ⟨u, hu, hkept, hid, rfl⟩⟩

theorem Arrived.mem_fetchMembers (ha : Arrived db₀ pre db) (hpre : ∀ x ∈ pre, x ∈ S.events) :
    k ∈ fetchMembersByDns db dns s ↔
      ∃ u, .userCreate u ∈ pre ∧ u.id = k ∧ u.dn ∈ dns ∧ s ∈ schoolsOf db₀ u := by
  rw [mem_fetchMembersByDns, ha.isMember]
  constructor
  · rintro ⟨⟨u, hu, hid, hs⟩, d, hd, hfind⟩
    obtain ⟨v, hv, -, hid', rfl⟩ := (ha.userDns k d).mp hfind
    have huv : u = v := Snapshot.user_eq_of_id (Snapshot.userCreate_mem.mp (hpre _ hu))
      (Snapshot.userCreate_mem.mp (hpre _ hv)) (hid.trans hid'.symm)
    exact ⟨u, hu, hid, huv ▸ hd, hs⟩
  · rintro ⟨u, hu, hid, hd, hs⟩
    exact ⟨⟨u, hu, hid, hs⟩, u.dn, hd,
      (ha.userDns k u.dn).mpr ⟨u, hu, kept_of_mem_schoolsOf hs, hid, rfl⟩⟩

variable [Runtime]

theorem Arrived.mem_fetchGroups (ha : Arrived db₀ pre db) : k ∈ fetchGroupsByDns db dns ↔
    ∃ g, .groupCreate g ∈ pre ∧ schoolOf db₀ g ≠ none ∧ g.id = k ∧ g.dn ∈ dns ∧
      isUnsyncableGroupDn g.dn = false := by
  rw [mem_fetchGroupsByDns]
  constructor
  · rintro ⟨-, d, hd, hsync, hfind⟩
    obtain ⟨g, hg, hschool, hid, rfl⟩ := (ha.groupDns k d).mp hfind
    exact ⟨g, hg, hschool, hid, hd, hsync⟩
  · rintro ⟨g, hg, hschool, hid, hd, hsync⟩
    obtain ⟨s, hs⟩ := Option.ne_none_iff_exists'.mp hschool
    have hrow : (db.groups.find? k).map (·.school) = some s := (ha.groups k s).mpr ⟨g, hg, hs, hid⟩
    obtain ⟨row, hfind, -⟩ := Option.map_eq_some_iff.mp hrow
    exact ⟨Table.mem_keys_of_find? hfind, g.dn, hd, hsync,
      (ha.groupDns k g.dn).mpr ⟨g, hg, hschool, hid, rfl⟩⟩

/-! ## The next event -/

/-- The next user is dropped, if none of its schools is known, or else created. -/
theorem Arrived.userCreate (ha : Arrived db₀ pre db) {u : UserPayload}
    (hn : Next S pre (.userCreate u)) (hh : handleUserCreate db u = .ok db') :
    (¬ Kept db₀ u ∧ db' = db) ∨ (Kept db₀ u ∧ db' = userStored db u) := by
  have hschools : searchSchools db u.properties.school = searchSchools db₀ u.properties.school :=
    searchSchools_congr ha.schools
  cases handleUserCreate_ok hh with
  | dropped hs =>
    rw [hschools] at hs
    exact .inl ⟨fun h => h hs, rfl⟩
  | created hs _ _ =>
    rw [hschools] at hs
    exact .inr ⟨hs, rfl⟩
  | stored _ model hstored _ =>
    obtain ⟨v, hv, -, hid⟩ := (ha.userKeys u.id).mp (Table.mem_keys_of_find? hstored)
    have huv : v = u := Snapshot.user_eq_of_id (Snapshot.userCreate_mem.mp (hn.seen _ hv))
      (Snapshot.userCreate_mem.mp hn.here) hid
    exact absurd (huv ▸ hv) hn.fresh

/-- The next group is dropped, if its school is not known, or else created. -/
theorem Arrived.groupCreate (ha : Arrived db₀ pre db) {g : GroupPayload}
    (hn : Next S pre (.groupCreate g)) (hh : handleGroupCreate db g = .ok db') :
    (schoolOf db₀ g = none ∧ db' = db) ∨
      ∃ s, schoolOf db₀ g = some s ∧ db' = groupStored db g s := by
  have hschool : findSchool db (groupSchoolName g.properties) = schoolOf db₀ g :=
    findSchool_congr ha.schools
  cases handleGroupCreate_ok hh with
  | dropped hs =>
    rw [hschool] at hs
    exact .inl ⟨hs, rfl⟩
  | created s hs _ _ =>
    rw [hschool] at hs
    exact .inr ⟨s, hs, rfl⟩
  | stored s _ model _ hstored _ =>
    have hrow : (db.groups.find? g.id).map (·.school) = some model.school := by rw [hstored]; rfl
    obtain ⟨h, hh, -, hid⟩ := (ha.groups g.id model.school).mp hrow
    have hgh : h = g := Snapshot.group_eq_of_id (Snapshot.groupCreate_mem.mp (hn.seen _ hh))
      (Snapshot.groupCreate_mem.mp hn.here) hid
    exact absurd (hgh ▸ hh) hn.fresh

theorem Arrived.userStored (ha : Arrived db₀ pre db) {u : UserPayload}
    (hn : Next S pre (.userCreate u)) (hkept : Kept db₀ u) :
    Arrived db₀ (pre ++ [.userCreate u]) (userStored db u) where
  schools := by
    rw [toObjects_userStored]
    exact ha.schools
  isMember := by
    intro id s
    rw [isMember_userStored, searchSchools_congr ha.schools, ha.isMember]
    simp only [List.mem_append, List.mem_singleton, Event.userCreate.injEq]
    constructor
    · rintro (⟨rfl, hs⟩ | ⟨-, v, hv, hid, hs⟩)
      · exact ⟨u, .inr rfl, rfl, hs⟩
      · exact ⟨v, .inl hv, hid, hs⟩
    · rintro ⟨v, hv | rfl, rfl, hs⟩
      · exact .inr ⟨(hn.user_ne hv).1, v, hv, rfl, hs⟩
      · exact .inl ⟨rfl, hs⟩
  userKeys := by
    intro id
    have hids : (Kelvin.userStored db u).users.keys = insert u.id db.users.keys := ids_userStored
    rw [hids, Finset.mem_insert, ha.userKeys]
    simp only [List.mem_append, List.mem_singleton, Event.userCreate.injEq]
    constructor
    · rintro (rfl | ⟨v, hv, hk, hid⟩)
      · exact ⟨u, .inr rfl, hkept, rfl⟩
      · exact ⟨v, .inl hv, hk, hid⟩
    · rintro ⟨v, hv | rfl, hk, rfl⟩
      · exact .inr ⟨v, hv, hk, rfl⟩
      · exact .inl rfl
  userDns := by
    intro id dn
    rw [dns_userStored, Database.find?_setMapping, ha.userDns]
    simp only [List.mem_append, List.mem_singleton, Event.userCreate.injEq]
    constructor
    · rintro (⟨rfl, rfl⟩ | ⟨-, -, v, hv, hk, hid, hdn⟩)
      · exact ⟨u, .inr rfl, hkept, rfl, rfl⟩
      · exact ⟨v, .inl hv, hk, hid, hdn⟩
    · rintro ⟨v, hv | rfl, hk, rfl, rfl⟩
      · exact .inr ⟨(hn.user_ne hv).1, (hn.user_ne hv).2, v, hv, hk, rfl, rfl⟩
      · exact .inl ⟨rfl, rfl⟩
  groups := by
    intro id s
    rw [groups_userStored]
    simpa using ha.groups id s
  groupDns := by
    intro id dn
    rw [dns_userStored_ne (by decide)]
    simpa using ha.groupDns id dn

theorem Arrived.groupStored (ha : Arrived db₀ pre db) {g : GroupPayload} {s : PublicId}
    (hn : Next S pre (.groupCreate g)) (hschool : schoolOf db₀ g = some s) :
    Arrived db₀ (pre ++ [.groupCreate g]) (groupStored db g s) where
  schools := by
    rw [toObjects_groupStored]
    exact ha.schools
  isMember := by
    intro id s'
    rw [isMember_congr users_groupStored]
    simpa using ha.isMember id s'
  userKeys := by
    intro id
    rw [users_groupStored]
    simpa using ha.userKeys id
  userDns := by
    intro id dn
    rw [dns_groupStored_ne (by decide)]
    simpa using ha.userDns id dn
  groups := by
    intro id s'
    simp only [List.mem_append, List.mem_singleton, Event.groupCreate.injEq]
    by_cases hid : id = g.id
    · rw [hid, find?_groupStored]
      constructor
      · intro h
        exact ⟨g, .inr rfl, hschool.trans h, rfl⟩
      · rintro ⟨h, hh | rfl, hs, heq⟩
        · exact absurd heq (hn.group_ne hh).1
        · rw [← hs, hschool]
          rfl
    · rw [find?_groupStored_ne hid, ha.groups]
      constructor
      · rintro ⟨h, hh, hs, heq⟩
        exact ⟨h, .inl hh, hs, heq⟩
      · rintro ⟨h, hh | rfl, hs, heq⟩
        · exact ⟨h, hh, hs, heq⟩
        · exact absurd heq.symm hid
  groupDns := by
    intro id dn
    rw [dns_groupStored, Database.find?_setMapping, ha.groupDns]
    simp only [List.mem_append, List.mem_singleton, Event.groupCreate.injEq]
    constructor
    · rintro (⟨rfl, rfl⟩ | ⟨-, -, h, hh, hs, hid, hdn⟩)
      · exact ⟨g, .inr rfl, by simp [hschool], rfl, rfl⟩
      · exact ⟨h, .inl hh, hs, hid, hdn⟩
    · rintro ⟨h, hh | rfl, hs, rfl, rfl⟩
      · exact .inr ⟨(hn.group_ne hh).1, (hn.group_ne hh).2, h, hh, hs, rfl, rfl⟩
      · exact .inl ⟨rfl, rfl⟩

end Kelvin
