import Kelvin.Connector.Snapshot

/-!
# Convergence of links

A membership is carried by the user's event and by the group's event, and a guardian by the
events of both relatives. Whichever event comes second finds the other object in the cache and
sets the link, so that after all create events of a consistent snapshot the links do not depend
on the order. Groups whose DN is one of those that are never looked up are left out, and so are
users that are their own guardian and users without a school, which are not stored at all.

* `Snapshot.Consistent`, `Snapshot.Syncable`: the assumptions.
* `Linked`: the links after some of the events.
* `convergence`: the links after all of them.
-/

namespace Kelvin

section Convergence

variable [Runtime]

/-! ## The snapshot's own links -/

/-- Every school is known, and both ends of a relation list it. -/
structure Snapshot.Consistent (S : Snapshot) (db₀ : Database) : Prop where
  userSchools : ∀ u ∈ S.users, ∀ name ∈ u.properties.school,
    ∃ id school, db₀.schools.find? id = some school ∧ school.name = name
  groupSchools : ∀ g ∈ S.groups, schoolOf db₀ g ≠ none
  members : ∀ u ∈ S.users, ∀ g ∈ S.groups, g.dn ∈ u.properties.groups ↔ u.dn ∈ g.properties.users
  guardians : ∀ u ∈ S.users, ∀ v ∈ S.users,
    v.dn ∈ u.properties.ucsschoolLegalWard ↔ u.dn ∈ v.properties.ucsschoolLegalGuardian
  inSchool : ∀ u ∈ S.users, ∀ g ∈ S.groups, ∀ s, u.dn ∈ g.properties.users →
    schoolOf db₀ g = some s → s ∈ schoolsOf db₀ u

/-- The objects that the connector can link: no group has a DN that is never looked up, no user
is its own guardian, and every user has a school. -/
structure Snapshot.Syncable (S : Snapshot) : Prop where
  groupDns : ∀ g ∈ S.groups, isUnsyncableGroupDn g.dn = false
  wards : ∀ u ∈ S.users, u.dn ∉ u.properties.ucsschoolLegalWard
  schools : ∀ u ∈ S.users, u.properties.school ≠ []

def Snapshot.memberLinks (S : Snapshot) (db₀ : Database) : Set (PublicId × MembershipKey) :=
  {l | ∃ g ∈ S.groups, ∃ u ∈ S.users, u.dn ∈ g.properties.users ∧ g.id = l.1 ∧ u.id = l.2.user ∧
    schoolOf db₀ g = some l.2.school}

/-- Guardians and wards. -/
def Snapshot.guardianLinks (S : Snapshot) : Set (PublicId × PublicId) :=
  {l | ∃ u ∈ S.users, ∃ v ∈ S.users, v.dn ∈ u.properties.ucsschoolLegalWard ∧ u.id = l.1 ∧
    v.id = l.2}

/-- Every order of the create events, once all are handled, leaves exactly the links of the
snapshot. -/
def Snapshot.Converges (S : Snapshot) (db₀ : Database) : Prop :=
  ∀ (events : List Event) (db : Database), events.Perm S.events → Handled handle db₀ events db →
    (↑db.groupMembers : Set (PublicId × MembershipKey)) = S.memberLinks db₀ ∧
      (↑db.legalGuardians : Set (PublicId × PublicId)) = S.guardianLinks

omit [Runtime] in
theorem Snapshot.kept {S : Snapshot} {db₀ : Database} {u : UserPayload} (hc : S.Consistent db₀)
    (hu : u ∈ S.users) (hschool : u.properties.school ≠ []) : Kept db₀ u := by
  obtain ⟨name, hname⟩ := List.exists_mem_of_ne_nil _ hschool
  obtain ⟨id, school, hfind, rfl⟩ := hc.userSchools u hu name hname
  have hsearch : (searchSchools db₀ u.properties.school).find? id = some school := by
    simp [searchSchools, hfind, Option.filter, hname]
  exact List.ne_nil_of_mem (Table.mem_rows.mpr hsearch)

/-! ## The links after some events -/

/-- The links between the objects whose events have been handled. -/
structure Linked (db₀ : Database) (pre : List Event) (db : Database) : Prop
    extends Arrived db₀ pre db where
  members : ∀ id k, (id, k) ∈ db.groupMembers ↔ ∃ g u, .groupCreate g ∈ pre ∧
    .userCreate u ∈ pre ∧ u.dn ∈ g.properties.users ∧ g.id = id ∧ u.id = k.user ∧
      schoolOf db₀ g = some k.school
  guardians : ∀ a b, (a, b) ∈ db.legalGuardians ↔ ∃ u v, .userCreate u ∈ pre ∧
    .userCreate v ∈ pre ∧ v.dn ∈ u.properties.ucsschoolLegalWard ∧ u.id = a ∧ v.id = b

omit [Runtime] in
theorem linked_nil {db₀ : Database} (hi : Integrity db₀) (husers : db₀.users = .empty)
    (hgroups : db₀.groups = .empty) : Linked db₀ [] db₀ where
  toArrived := arrived_nil hi husers hgroups
  members := by
    intro id k
    simp only [List.not_mem_nil, false_and, exists_false, iff_false]
    intro h
    have hstored := hi.memberGroup h
    simp [hgroups] at hstored
  guardians := by
    intro a b
    simp only [List.not_mem_nil, false_and, exists_false, and_false, iff_false]
    intro h
    have hstored := (hi.guardian h).1
    simp [husers] at hstored

variable {S : Snapshot} {db₀ db db' : Database} {pre : List Event}

/-- The groups that the next user's memberships are linked to. -/
theorem Arrived.mem_userMemberships (ha : Arrived db₀ pre db) (hpre : ∀ x ∈ pre, x ∈ S.events)
    {u : UserPayload} {s id : PublicId} :
    (∃ m, (userMemberships db u).find? s = some m ∧ id ∈ m.groups) ↔
      s ∈ schoolsOf db₀ u ∧ ∃ g, .groupCreate g ∈ pre ∧ schoolOf db₀ g = some s ∧ g.id = id ∧
        g.dn ∈ u.properties.groups ∧ isUnsyncableGroupDn g.dn = false := by
  have hgroups : ∀ row, (searchSchools db u.properties.school).find? s = some row →
      ((∃ m, (userMemberships db u).find? s = some m ∧ id ∈ m.groups) ↔
        id ∈ fetchGroupsByDns db u.properties.groups ∧
          (db.groups.find? id).map (·.school) = some s) := by
    intro row hrow
    simp only [userMemberships, buildSchoolMemberships, Table.find?_mapVals, hrow, Option.map_some,
      Option.some_inj]
    constructor
    · rintro ⟨m, rfl, hm⟩
      exact Finset.mem_filter.mp hm
    · intro hm
      exact ⟨_, rfl, Finset.mem_filter.mpr hm⟩
  have hschools : schoolsOf db₀ u = (searchSchools db u.properties.school).keys := by
    rw [schoolsOf, searchSchools_congr ha.schools]
  rw [hschools]
  constructor
  · rintro ⟨m, hm, hid⟩
    have hkey : s ∈ (searchSchools db u.properties.school).keys := by
      have h := Table.mem_keys_of_find? hm
      rwa [userMemberships, buildSchoolMemberships, Table.keys_mapVals] at h
    obtain ⟨row, hrow⟩ := Table.mem_keys.mp hkey
    obtain ⟨hfetch, hschool⟩ := (hgroups row hrow).mp ⟨m, hm, hid⟩
    obtain ⟨g, hg, -, rfl, hdn, hsync⟩ := ha.mem_fetchGroups.mp hfetch
    obtain ⟨h, hh, hs, heq⟩ := (ha.groups g.id s).mp hschool
    have hgh : h = g := Snapshot.group_eq_of_id (Snapshot.groupCreate_mem.mp (hpre _ hh))
      (Snapshot.groupCreate_mem.mp (hpre _ hg)) heq
    exact ⟨hkey, g, hg, hgh ▸ hs, rfl, hdn, hsync⟩
  · rintro ⟨hkey, g, hg, hs, rfl, hdn, hsync⟩
    obtain ⟨row, hrow⟩ := Table.mem_keys.mp hkey
    refine (hgroups row hrow).mpr ⟨?_, (ha.groups g.id s).mpr ⟨g, hg, hs, rfl⟩⟩
    exact ha.mem_fetchGroups.mpr ⟨g, hg, by simp [hs], rfl, hdn, hsync⟩

/-- The next user is linked to the groups and relatives that came before it. -/
theorem Linked.userStored (hl : Linked db₀ pre db) (hc : S.Consistent db₀) (hs : S.Syncable)
    {u : UserPayload} (hn : Next S pre (.userCreate u)) :
    Linked db₀ (pre ++ [.userCreate u]) (userStored db u) where
  toArrived := hl.toArrived.userStored hn
    (Snapshot.kept hc (Snapshot.userCreate_mem.mp hn.here)
      (hs.schools u (Snapshot.userCreate_mem.mp hn.here)))
  members := by
    intro id k
    have hu := Snapshot.userCreate_mem.mp hn.here
    have hlinks : (Kelvin.userStored db u).groupMembers =
        UserManager.relink db.groupMembers u.id (userMemberships db u) := by
      rw [toObjects_userStored]
      rfl
    rw [hlinks, UserManager.mem_relink, hl.toArrived.mem_userMemberships hn.seen, hl.members]
    simp only [List.mem_append, List.mem_singleton, Event.userCreate.injEq, reduceCtorEq, or_false]
    constructor
    · rintro (⟨-, g, v, hg, hv, hdn, hid, huser, hschool⟩ | ⟨huser, hkey, g, hg, hschool, hid, hdn, -⟩)
      · exact ⟨g, v, hg, .inl hv, hdn, hid, huser, hschool⟩
      · have hg' := Snapshot.groupCreate_mem.mp (hn.seen _ hg)
        exact ⟨g, u, hg, .inr rfl, (hc.members u hu g hg').mp hdn, hid, huser.symm, hschool⟩
    · rintro ⟨g, v, hg, hv | rfl, hdn, hid, huser, hschool⟩
      · exact .inl ⟨huser ▸ (hn.user_ne hv).1, g, v, hg, hv, hdn, hid, huser, hschool⟩
      · have hg' := Snapshot.groupCreate_mem.mp (hn.seen _ hg)
        exact .inr ⟨huser.symm, hc.inSchool v hu g hg' _ hdn hschool, g, hg, hschool, hid,
          (hc.members v hu g hg').mpr hdn, hs.groupDns g hg'⟩
  guardians := by
    intro a b
    have hu := Snapshot.userCreate_mem.mp hn.here
    have hlinks : (Kelvin.userStored db u).legalGuardians =
        (db.legalGuardians.coassign u.id
          (fetchUsersByDns db u.properties.ucsschoolLegalGuardian)).assign u.id
            (fetchUsersByDns db u.properties.ucsschoolLegalWard) := by
      rw [toObjects_userStored]
      rfl
    rw [hlinks, Links.mem_assign, Links.mem_coassign, hl.guardians, hl.mem_fetchUsers,
      hl.mem_fetchUsers]
    simp only [List.mem_append, List.mem_singleton, Event.userCreate.injEq]
    constructor
    · rintro (⟨rfl, v, hv, -, hid, hdn⟩ | ⟨-, ⟨rfl, v, hv, -, hid, hdn⟩ | ⟨-, v, w, hv, hw, hdn, hva, hwb⟩⟩)
      · exact ⟨u, v, .inr rfl, .inl hv, hdn, rfl, hid⟩
      · have hv' := Snapshot.userCreate_mem.mp (hn.seen _ hv)
        exact ⟨v, u, .inl hv, .inr rfl, (hc.guardians v hv' u hu).mpr hdn, hid, rfl⟩
      · exact ⟨v, w, .inl hv, .inl hw, hdn, hva, hwb⟩
    · have hkept : ∀ v, Event.userCreate v ∈ pre → Kept db₀ v := fun v hv =>
        Snapshot.kept hc (Snapshot.userCreate_mem.mp (hn.seen _ hv))
          (hs.schools v (Snapshot.userCreate_mem.mp (hn.seen _ hv)))
      rintro ⟨v, w, hv | rfl, hw | rfl, hdn, rfl, rfl⟩
      · exact .inr ⟨(hn.user_ne hv).1, .inr ⟨(hn.user_ne hw).1, v, w, hv, hw, hdn, rfl, rfl⟩⟩
      · have hv' := Snapshot.userCreate_mem.mp (hn.seen _ hv)
        exact .inr ⟨(hn.user_ne hv).1, .inl ⟨rfl, v, hv, hkept v hv, rfl,
          (hc.guardians v hv' w hu).mp hdn⟩⟩
      · exact .inl ⟨rfl, w, hw, hkept w hw, rfl, hdn⟩
      · exact absurd hdn (hs.wards _ hu)

/-- The next group is linked to the users that came before it. -/
theorem Linked.groupStored (hl : Linked db₀ pre db) (hc : S.Consistent db₀) {g : GroupPayload}
    {s : PublicId} (hn : Next S pre (.groupCreate g)) (hschool : schoolOf db₀ g = some s) :
    Linked db₀ (pre ++ [.groupCreate g]) (groupStored db g s) where
  toArrived := hl.toArrived.groupStored hn hschool
  members := by
    rintro id ⟨user, school⟩
    have hg := Snapshot.groupCreate_mem.mp hn.here
    have hlinks : (Kelvin.groupStored db g s).groupMembers = db.groupMembers.assign g.id
        ((fetchMembersByDns db g.properties.users s).image (⟨·, s⟩)) := by
      rw [toObjects_groupStored]
      rfl
    rw [hlinks, Links.mem_assign, hl.members]
    simp only [Finset.mem_image, MembershipKey.mk.injEq, hl.toArrived.mem_fetchMembers hn.seen,
      List.mem_append, List.mem_singleton, Event.groupCreate.injEq, reduceCtorEq, or_false]
    constructor
    · rintro (⟨rfl, _, ⟨v, hv, rfl, hdn, -⟩, rfl, rfl⟩ | ⟨-, h, v, hh, hv, hdn, hid, huser, hs⟩)
      · exact ⟨g, v, .inr rfl, hv, hdn, rfl, rfl, hschool⟩
      · exact ⟨h, v, .inl hh, hv, hdn, hid, huser, hs⟩
    · rintro ⟨h, v, hh | rfl, hv, hdn, rfl, rfl, hs⟩
      · exact .inr ⟨(hn.group_ne hh).1, h, v, hh, hv, hdn, rfl, rfl, hs⟩
      · have hv' := Snapshot.userCreate_mem.mp (hn.seen _ hv)
        refine .inl ⟨rfl, v.id, ⟨v, hv, rfl, hdn, ?_⟩, rfl, Option.some.inj (hschool.symm.trans hs)⟩
        exact hc.inSchool v hv' h hg s hdn hschool
  guardians := by
    intro a b
    have hlinks : (Kelvin.groupStored db g s).legalGuardians = db.legalGuardians := by
      rw [toObjects_groupStored]
      rfl
    rw [hlinks, hl.guardians]
    simp

/-- The next event of a consistent snapshot. -/
theorem Linked.step (hl : Linked db₀ pre db) (hc : S.Consistent db₀) (hs : S.Syncable) {e : Event}
    (hn : Next S pre e) (hh : handle db e = .ok db') : Linked db₀ (pre ++ [e]) db' := by
  rcases Snapshot.mem_events.mp hn.here with ⟨u, hu, rfl⟩ | ⟨g, hg, rfl⟩
  · rcases hl.toArrived.userCreate hn hh with ⟨hdropped, -⟩ | ⟨-, rfl⟩
    · exact absurd (Snapshot.kept hc hu (hs.schools u hu)) hdropped
    · exact hl.userStored hc hs hn
  · rcases hl.toArrived.groupCreate hn hh with ⟨hdropped, -⟩ | ⟨s, hschool, rfl⟩
    · exact absurd hdropped (hc.groupSchools g hg)
    · exact hl.groupStored hc hn hschool

/-- After all create events of a consistent snapshot, in any order, the links are those of the
snapshot. -/
theorem convergence (hr : Reachable db₀) (husers : db₀.users = .empty)
    (hgroups : db₀.groups = .empty) (hc : S.Consistent db₀) (hs : S.Syncable) :
    S.Converges db₀ := by
  intro events db hperm hh
  have hl : Linked db₀ events db := hh.history
    (fun _ _ _ _ _ hsplit hl he => hl.step hc hs (next_of_perm hperm hsplit) he)
    (linked_nil hr.integrity husers hgroups)
  have hmem : ∀ e, e ∈ events ↔ e ∈ S.events := fun _ => hperm.mem_iff
  constructor
  · ext ⟨id, k⟩
    rw [Finset.mem_coe, hl.members]
    simp only [hmem, Snapshot.groupCreate_mem, Snapshot.userCreate_mem, Snapshot.memberLinks,
      Set.mem_ofPred_eq]
    constructor
    · rintro ⟨g, u, hg, hu, h⟩
      exact ⟨g, hg, u, hu, h⟩
    · rintro ⟨g, hg, u, hu, h⟩
      exact ⟨g, u, hg, hu, h⟩
  · ext ⟨a, b⟩
    rw [Finset.mem_coe, hl.guardians]
    simp only [hmem, Snapshot.userCreate_mem, Snapshot.guardianLinks, Set.mem_ofPred_eq]
    constructor
    · rintro ⟨u, v, hu, hv, h⟩
      exact ⟨u, hu, v, hv, h⟩
    · rintro ⟨u, hu, v, hv, h⟩
      exact ⟨u, v, hu, hv, h⟩

end Convergence

/-! ## A student and a class -/

section

attribute [local instance] asciiRuntime

theorem oneSchool_stored :
    ∃ id school, oneSchool.schools.find? id = some school ∧ school.name = "A" := by
  have hstored : (oneSchool.schools.find? 1).map (·.name) = some "A" := by decide
  obtain ⟨school, hfind, hname⟩ := Option.map_eq_some_iff.mp hstored
  exact ⟨1, school, hfind, hname⟩

/-- The event of a student that lists a group. -/
def memberEvent (groupDn : String) : UserPayload :=
  studentEvent 2 "uid=u,ou=A" "u" ["A"] [groupDn] [] [] uidA_ne

/-- The event of a class that lists the student. -/
def classOfMember (groupDn : String) (hdn : groupDn ≠ "") : GroupPayload :=
  classEvent 3 groupDn "c" "A" ["uid=u,ou=A"] [] [] none hdn

/-- The student and the class, at a DN of the class. -/
def memberSnapshot (groupDn : String) (hdn : groupDn ≠ "") : Snapshot where
  users := [memberEvent groupDn]
  groups := [classOfMember groupDn hdn]
  userIds := List.nodup_singleton _
  userDns := List.nodup_singleton _
  groupIds := List.nodup_singleton _
  groupDns := List.nodup_singleton _

theorem memberSnapshot_consistent (groupDn : String) (hdn : groupDn ≠ "") :
    (memberSnapshot groupDn hdn).Consistent oneSchool where
  userSchools := by
    intro u hu name hname
    cases List.mem_singleton.mp hu
    cases List.mem_singleton.mp hname
    exact oneSchool_stored
  groupSchools := by
    intro g hg
    cases List.mem_singleton.mp hg
    have hfind : findSchool oneSchool "A" = some 1 := by decide
    exact Option.ne_none_iff_exists'.mpr ⟨1, hfind⟩
  members := by
    intro u hu g hg
    cases List.mem_singleton.mp hu
    cases List.mem_singleton.mp hg
    exact iff_of_true (List.mem_singleton_self _) (List.mem_singleton_self _)
  guardians := by
    intro u hu v hv
    cases List.mem_singleton.mp hu
    cases List.mem_singleton.mp hv
    exact iff_of_false List.not_mem_nil List.not_mem_nil
  inSchool := by
    intro u hu g hg s hmember hs
    cases List.mem_singleton.mp hu
    cases List.mem_singleton.mp hg
    have hfind : findSchool oneSchool "A" = some 1 := by decide
    cases hfind.symm.trans hs
    have hkey : 1 ∈ (searchSchools oneSchool ["A"]).keys := by decide
    exact hkey

theorem convergence_member :
    (memberSnapshot "cn=c,ou=A" (by decide)).Converges oneSchool := by
  refine convergence ⟨someRoles, _, rfl⟩ (by decide) (by decide)
    (memberSnapshot_consistent _ _) ⟨?_, ?_, ?_⟩
  · intro g hg
    cases List.mem_singleton.mp hg
    decide
  · intro u hu
    cases List.mem_singleton.mp hu
    exact List.not_mem_nil
  · intro u hu
    cases List.mem_singleton.mp hu
    exact List.cons_ne_nil _ _

/-- A class at a DN that is never looked up keeps no member whose event comes after its own. -/
theorem unsyncable_not_converges :
    ¬ (memberSnapshot "cn=schueler-x,cn=groups,ou=A" (by decide)).Converges oneSchool := by
  intro h
  have hlinks := (h [.groupCreate (classOfMember "cn=schueler-x,cn=groups,ou=A" (by decide)),
      .userCreate (memberEvent "cn=schueler-x,cn=groups,ou=A")] _ (List.Perm.swap _ _ _)
    ⟨_, eq_deliver_of_isOk (by decide), _, eq_deliver_of_isOk (by decide), rfl⟩).1
  have hlink : (3, MembershipKey.mk 2 1) ∈
      (memberSnapshot "cn=schueler-x,cn=groups,ou=A" (by decide)).memberLinks oneSchool :=
    ⟨_, List.mem_singleton_self _, _, List.mem_singleton_self _, List.mem_singleton_self _, rfl, rfl,
      by decide⟩
  rw [← hlinks, Finset.mem_coe] at hlink
  exact absurd hlink (by decide)

/-- A snapshot of relatives. -/
def relatives (users : List UserPayload) (userIds : (users.map UserPayload.id).Nodup)
    (userDns : (users.map (·.dn)).Nodup) : Snapshot where
  users := users
  groups := []
  userIds := userIds
  userDns := userDns
  groupIds := List.nodup_nil
  groupDns := List.nodup_nil

theorem relatives_consistent {users : List UserPayload}
    {userIds : (users.map UserPayload.id).Nodup} {userDns : (users.map (·.dn)).Nodup}
    (hschools : ∀ u ∈ users, ∀ name ∈ u.properties.school, name = "A")
    (hguardians : ∀ u ∈ users, ∀ v ∈ users,
      v.dn ∈ u.properties.ucsschoolLegalWard ↔ u.dn ∈ v.properties.ucsschoolLegalGuardian) :
    (relatives users userIds userDns).Consistent oneSchool where
  userSchools := fun u hu name hname => hschools u hu name hname ▸ oneSchool_stored
  groupSchools := fun _ hg => absurd hg List.not_mem_nil
  members := fun _ _ _ hg => absurd hg List.not_mem_nil
  guardians := hguardians
  inSchool := fun _ _ _ hg => absurd hg List.not_mem_nil

/-- A student that is its own guardian. -/
def ownGuardian : Snapshot :=
  relatives [studentEvent 2 "uid=u,ou=A" "u" ["A"] [] ["uid=u,ou=A"] ["uid=u,ou=A"] uidA_ne]
    (List.nodup_singleton _) (List.nodup_singleton _)

/-- A user without a school that is the guardian of a student. -/
def noSchool : Snapshot :=
  relatives
    [studentEvent 2 "uid=g" "g" [] [] ["uid=u,ou=A"] [] uidG_ne,
      studentEvent 3 "uid=u,ou=A" "u" ["A"] [] [] ["uid=g"] uidA_ne]
    (by decide) (by decide)

theorem ownGuardian_not_converges : ¬ ownGuardian.Converges oneSchool := by
  intro h
  have hlinks := (h ownGuardian.events _ (List.Perm.refl _)
    ⟨_, eq_deliver_of_isOk (by decide), rfl⟩).2
  have hlink : (2, 2) ∈ ownGuardian.guardianLinks :=
    ⟨_, List.mem_singleton_self _, _, List.mem_singleton_self _, List.mem_singleton_self _, rfl, rfl⟩
  rw [← hlinks, Finset.mem_coe] at hlink
  exact absurd hlink (by decide)

theorem noSchool_not_converges : ¬ noSchool.Converges oneSchool := by
  intro h
  have hlinks := (h noSchool.events _ (List.Perm.refl _)
    ⟨_, eq_deliver_of_isOk (by decide), _, eq_deliver_of_isOk (by decide), rfl⟩).2
  have hlink : (2, 3) ∈ noSchool.guardianLinks :=
    ⟨_, List.mem_cons_self, _, List.mem_cons_of_mem _ List.mem_cons_self, List.mem_singleton_self _,
      rfl, rfl⟩
  rw [← hlinks, Finset.mem_coe] at hlink
  exact absurd hlink (by decide)

/-- Each of the three conditions is needed: a group at a DN that is never looked up, a user that
is its own guardian, and a guardian without a school keep a consistent snapshot from
converging. -/
theorem convergence_fails :
    (Reachable oneSchool ∧ oneSchool.users = .empty ∧ oneSchool.groups = .empty) ∧
    ((memberSnapshot "cn=schueler-x,cn=groups,ou=A" (by decide)).Consistent oneSchool ∧
      ¬ (memberSnapshot "cn=schueler-x,cn=groups,ou=A" (by decide)).Converges oneSchool) ∧
    (ownGuardian.Consistent oneSchool ∧ ¬ ownGuardian.Converges oneSchool) ∧
    (noSchool.Consistent oneSchool ∧ ¬ noSchool.Converges oneSchool) :=
  ⟨⟨⟨someRoles, _, rfl⟩, by decide, by decide⟩,
    ⟨memberSnapshot_consistent _ _, unsyncable_not_converges⟩,
    ⟨relatives_consistent (by decide) (by decide), ownGuardian_not_converges⟩,
    ⟨relatives_consistent (by decide) (by decide), noSchool_not_converges⟩⟩

end

end Kelvin
