import Kelvin.Objects.DnMapper

/-!
# Integrity of the database

The foreign keys, the unique primary slot and the two unique columns of the DN mappings,
as one invariant. Each write of the managers and of the DN mapper keeps it; the deletes
keep it because of their cascades.

* `Consistent`: the references between object tables lead to stored rows.
* `Integrity`: `Consistent`, and the DN mappings are injective and lead to stored objects.
* `Integrity.user_insert` and its companions: the writes keep the invariant.
-/

namespace Kelvin

/-- References between the object tables lead to stored rows, and no user has two primary
memberships. -/
structure Consistent (o : Objects) : Prop where
  membershipSchool : ∀ {u row s m}, o.users.find? u = some row →
    row.schoolMemberships.find? s = some m → s ∈ o.schools.keys
  primary : ∀ {u row}, o.users.find? u = some row → AtMostOnePrimary row.schoolMemberships
  groupSchool : ∀ {g row}, o.groups.find? g = some row → row.school ∈ o.schools.keys
  memberGroup : ∀ {g k}, (g, k) ∈ o.groupMembers → g ∈ o.groups.keys
  memberMembership : ∀ {g k}, (g, k) ∈ o.groupMembers → o.IsMember k.school k.user
  senderUser : ∀ {g u}, (g, u) ∈ o.emailSenderUsers → g ∈ o.groups.keys ∧ u ∈ o.users.keys
  senderGroup : ∀ {g h}, (g, h) ∈ o.emailSenderGroups → g ∈ o.groups.keys ∧ h ∈ o.groups.keys
  guardian : ∀ {g w}, (g, w) ∈ o.legalGuardians → g ∈ o.users.keys ∧ w ∈ o.users.keys

structure Integrity (db : Database) : Prop extends Consistent db.toObjects where
  dnStored : ∀ {t id dn}, (db.dns t).find? id = some dn → id ∈ db.ids t
  dnInjective : ∀ {t id id' dn}, (db.dns t).find? id = some dn →
    (db.dns t).find? id' = some dn → id = id'

theorem integrity_initial (roles : Table PublicId RoleModel) :
    Integrity (Database.initial roles) where
  membershipSchool := by intro _ _ _ _ h; cases h
  primary := by intro _ _ h; cases h
  groupSchool := by intro _ _ h; cases h
  memberGroup := by intro _ _ h; simp [Database.initial] at h
  memberMembership := by intro _ _ h; simp [Database.initial] at h
  senderUser := by intro _ _ h; simp [Database.initial] at h
  senderGroup := by intro _ _ h; simp [Database.initial] at h
  guardian := by intro _ _ h; simp [Database.initial] at h
  dnStored := by intro t _ _ h; cases t <;> cases h
  dnInjective := by intro t _ _ _ h; cases t <;> cases h

variable {db db' : Database} {id : PublicId}

/-- A write that adds no mapping rows, and keeps the objects of those it leaves. -/
theorem Integrity.of_dns (hi : Integrity db) (hc : Consistent db'.toObjects)
    (h : ∀ t k d, (db'.dns t).find? k = some d →
      (db.dns t).find? k = some d ∧ k ∈ db'.ids t) : Integrity db' where
  toConsistent := hc
  dnStored := fun hd => (h _ _ _ hd).2
  dnInjective := fun hd hd' => hi.dnInjective (h _ _ _ hd).1 (h _ _ _ hd').1

/-- The same where the mappings stay and the stored objects only grow. -/
theorem Integrity.of_objects (hi : Integrity db) (hc : Consistent db'.toObjects)
    (hdns : ∀ t, db'.dns t = db.dns t) (hids : ∀ t, db.ids t ⊆ db'.ids t) :
    Integrity db' := by
  refine hi.of_dns hc (fun t k d h => ?_)
  rw [hdns] at h
  exact ⟨h, hids t (hi.dnStored h)⟩

theorem Integrity.setMapping {t : ObjectType} {dn : String} (hi : Integrity db)
    (hid : id ∈ db.ids t) : Integrity (db.setMapping t dn id) where
  toConsistent := by
    rw [Database.toObjects_setMapping]
    exact hi.toConsistent
  dnStored := by
    intro t' k d h
    rw [Database.toObjects_setMapping]
    by_cases ht : t' = t
    · subst ht
      rcases Database.find?_setMapping.mp h with ⟨rfl, -⟩ | ⟨-, -, h⟩
      · exact hid
      · exact hi.dnStored h
    · rw [Database.dns_setMapping_ne ht] at h
      exact hi.dnStored h
  dnInjective := by
    intro t' k k' d h h'
    by_cases ht : t' = t
    · subst ht
      rcases Database.find?_setMapping.mp h with ⟨rfl, rfl⟩ | ⟨-, hd, h⟩ <;>
        rcases Database.find?_setMapping.mp h' with ⟨rfl, hd'⟩ | ⟨-, hd', h'⟩
      · rfl
      · exact absurd rfl hd'
      · exact absurd hd' hd
      · exact hi.dnInjective h h'
    · rw [Database.dns_setMapping_ne ht] at h h'
      exact hi.dnInjective h h'

/-! ## Schools -/

/-- Writing a school row, new or old. -/
theorem Integrity.school_insert {data : School} (hi : Integrity db) :
    Integrity (SchoolManager.insert db id data) := by
  refine hi.of_objects ?_ (fun t => by cases t <;> rfl) (fun t => ?_)
  · exact
      { hi.toConsistent with
        membershipSchool := fun hu hm => by simp [SchoolManager.insert, hi.membershipSchool hu hm]
        groupSchool := fun hg => by simp [SchoolManager.insert, hi.groupSchool hg]
        memberMembership := fun h => hi.memberMembership h }
  · cases t
    · simp [Objects.ids, SchoolManager.insert]
    · exact Finset.Subset.refl _
    · exact Finset.Subset.refl _

theorem isMember_school_erase {s u : PublicId} :
    (SchoolManager.erase db id).IsMember s u ↔ db.IsMember s u ∧ s ≠ id := by
  simp only [Objects.isMember_iff, SchoolManager.erase, Table.find?_mapVals,
    Option.map_eq_some_iff]
  constructor
  · rintro ⟨_, m, ⟨row, hrow, rfl⟩, hm⟩
    rw [Table.find?_erase] at hm
    split at hm
    · cases hm
    · next hs => exact ⟨⟨row, m, hrow, hm⟩, hs⟩
  · rintro ⟨⟨row, m, hrow, hm⟩, hs⟩
    refine ⟨_, m, ⟨row, hrow, rfl⟩, ?_⟩
    rw [Table.find?_erase, if_neg hs]
    exact hm

theorem Integrity.school_erase (hi : Integrity db)
    (hgroups : ∀ g ∈ db.groups.rows, g.2.school ≠ id) :
    Integrity (SchoolManager.erase db id) := by
  refine hi.of_dns ?_ ?_
  · refine
      { hi.toConsistent with
        membershipSchool := ?_
        primary := ?_
        groupSchool := ?_
        memberGroup := ?_
        memberMembership := ?_
        senderUser := ?_
        guardian := ?_ }
    · intro u row s m hu hm
      obtain ⟨row', hu', rfl⟩ := Option.map_eq_some_iff.mp ((Table.find?_mapVals _ _ _).symm.trans hu)
      rw [Table.find?_erase] at hm
      split at hm
      · cases hm
      · next hs =>
        simp only [SchoolManager.erase, Table.keys_erase, Finset.mem_erase]
        exact ⟨hs, hi.membershipSchool hu' hm⟩
    · intro u row hu
      obtain ⟨row', hu', rfl⟩ := Option.map_eq_some_iff.mp ((Table.find?_mapVals _ _ _).symm.trans hu)
      intro a ha b hb
      exact hi.primary hu' a (List.mem_filter.mp ha).1 b (List.mem_filter.mp hb).1
    · intro g row hg
      simp only [SchoolManager.erase, Table.keys_erase, Finset.mem_erase]
      exact ⟨hgroups (g, row) (Table.mem_rows.mpr hg), hi.groupSchool hg⟩
    · intro g k hgk
      exact hi.memberGroup (Finset.mem_filter.mp hgk).1
    · intro g k hgk
      obtain ⟨hgk, hs⟩ := Finset.mem_filter.mp hgk
      exact isMember_school_erase.mpr ⟨hi.memberMembership hgk, by simpa using hs⟩
    · intro g u hgu
      simpa [SchoolManager.erase] using hi.senderUser hgu
    · intro g w hgw
      simpa [SchoolManager.erase] using hi.guardian hgw
  · intro t k d hd
    cases t with
    | school =>
      change (db.schoolDns.erase id).find? k = some d at hd
      rw [Table.find?_erase] at hd
      split at hd
      · cases hd
      · next hk =>
        have hstored : k ∈ db.ids .school := hi.dnStored hd
        exact ⟨hd, by simpa [Objects.ids, SchoolManager.erase, hk] using hstored⟩
    | group => exact ⟨hd, hi.dnStored (t := .group) hd⟩
    | user =>
      have hstored : k ∈ db.ids .user := hi.dnStored (t := .user) hd
      exact ⟨hd, by simpa [Objects.ids, SchoolManager.erase] using hstored⟩

/-! ## Groups -/

/-- Writing a group row and its links: all that they refer to is stored. -/
theorem Integrity.write_group {model : GroupModel} {links : Links PublicId MembershipKey}
    {senderUsers senderGroups : Finset PublicId} (hi : Integrity db)
    (hschool : model.school ∈ db.schools.keys)
    (hlinks : ∀ g k, (g, k) ∈ links →
      (g = id ∧ db.IsMember k.school k.user) ∨ (g, k) ∈ db.groupMembers)
    (husers : senderUsers ⊆ db.users.keys) (hgroups : senderGroups ⊆ db.groups.keys) :
    Integrity
      { db with
        groups := db.groups.insert id model
        groupMembers := links
        emailSenderUsers := db.emailSenderUsers.assign id senderUsers
        emailSenderGroups := db.emailSenderGroups.assign id senderGroups } := by
  refine hi.of_objects ?_ (fun t => by cases t <;> rfl) (fun t => ?_)
  · refine
      { hi.toConsistent with
        groupSchool := ?_
        memberGroup := ?_
        memberMembership := ?_
        senderUser := ?_
        senderGroup := ?_ }
    · intro g row hg
      rw [Table.find?_insert] at hg
      split at hg
      · cases hg
        exact hschool
      · exact hi.groupSchool hg
    · intro g k hgk
      rw [Table.keys_insert, Finset.mem_insert]
      rcases hlinks g k hgk with ⟨rfl, -⟩ | h
      · exact .inl rfl
      · exact .inr (hi.memberGroup h)
    · intro g k hgk
      rcases hlinks g k hgk with ⟨-, h⟩ | h
      · exact h
      · exact hi.memberMembership h
    · intro g u hgu
      rw [Table.keys_insert, Finset.mem_insert]
      rcases Links.mem_assign.mp hgu with ⟨rfl, hu⟩ | ⟨-, h⟩
      · exact ⟨.inl rfl, husers hu⟩
      · exact ⟨.inr (hi.senderUser h).1, (hi.senderUser h).2⟩
    · intro g g' hgg
      rw [Table.keys_insert, Finset.mem_insert, Finset.mem_insert]
      rcases Links.mem_assign.mp hgg with ⟨rfl, hg⟩ | ⟨-, h⟩
      · exact ⟨.inl rfl, .inr (hgroups hg)⟩
      · exact ⟨.inr (hi.senderGroup h).1, .inr (hi.senderGroup h).2⟩
  · cases t
    · exact Finset.Subset.refl _
    · simp [Objects.ids]
    · exact Finset.Subset.refl _

theorem Integrity.group_insert {data : Group} (hi : Integrity db)
    (hc : GroupManager.Creatable db id data) : Integrity (GroupManager.insert db id data) := by
  refine hi.write_group hc.school (fun g k hgk => ?_) hc.senderUsers hc.senderGroups
  rcases Links.mem_assign.mp hgk with ⟨rfl, hk⟩ | ⟨-, h⟩
  · obtain ⟨u, hu, rfl⟩ := Finset.mem_image.mp hk
    exact .inl ⟨rfl, hc.members u hu⟩
  · exact .inr h

theorem mem_syncGroupMembers {model : GroupModel} {patched current : Finset PublicId}
    {g : PublicId} {k : MembershipKey}
    (h : (g, k) ∈ GroupManager.syncGroupMembers db id model patched current) :
    (g = id ∧ k.school = model.school ∧ k.user ∈ patched ∧ db.IsMember k.school k.user) ∨
      (g, k) ∈ db.groupMembers := by
  unfold GroupManager.syncGroupMembers at h
  split at h
  · exact .inr h
  · rcases Links.mem_assign.mp h with ⟨rfl, hk⟩ | ⟨-, h⟩
    · obtain ⟨u, hu, rfl⟩ := Finset.mem_image.mp hk
      obtain ⟨hu, hmember⟩ := Finset.mem_filter.mp hu
      exact .inl ⟨rfl, rfl, hu, hmember⟩
    · exact .inr h

theorem Integrity.group_update [Runtime] {model : GroupModel} {current patched : Group}
    (hi : Integrity db) (hm : GroupManager.Modifiable db id model current patched) :
    Integrity (GroupManager.update db id model patched current) := by
  obtain ⟨-, rfl⟩ := GroupManager.toGroup_eq_ok.mp hm.loaded
  refine hi.write_group ?_ (fun g k hgk => ?_) ?_ ?_
  · change patched.school ∈ db.schools.keys
    rcases hm.school with h | h
    · rw [h]
      exact hi.groupSchool hm.stored
    · exact h
  · rcases mem_syncGroupMembers hgk with ⟨rfl, -, -, h⟩ | h
    · exact .inl ⟨rfl, h⟩
    · exact .inr h
  · rcases hm.senderUsers with h | h
    · intro u hu
      exact (hi.senderUser (Links.mem_rightOf.mp (h ▸ hu))).2
    · exact h
  · rcases hm.senderGroups with h | h
    · intro g hg
      exact (hi.senderGroup (Links.mem_rightOf.mp (h ▸ hg))).2
    · exact h

theorem Integrity.group_erase (hi : Integrity db) : Integrity (GroupManager.erase db id) := by
  refine hi.of_dns ?_ ?_
  · refine
      { hi.toConsistent with
        groupSchool := ?_
        memberGroup := ?_
        memberMembership := ?_
        senderUser := ?_
        senderGroup := ?_ }
    · intro g row hg
      simp only [GroupManager.erase, Table.find?_erase] at hg
      split at hg
      · cases hg
      · exact hi.groupSchool hg
    · intro g k hgk
      obtain ⟨hgk, hg⟩ := Links.mem_dropLeft.mp hgk
      simpa [GroupManager.erase] using ⟨hg, hi.memberGroup hgk⟩
    · intro g k hgk
      exact hi.memberMembership (Links.mem_dropLeft.mp hgk).1
    · intro g u hgu
      obtain ⟨hgu, hg⟩ := Links.mem_dropLeft.mp hgu
      simpa [GroupManager.erase] using ⟨⟨hg, (hi.senderUser hgu).1⟩, (hi.senderUser hgu).2⟩
    · intro g g' hgg
      obtain ⟨hgg, hg'⟩ := Links.mem_dropRight.mp hgg
      obtain ⟨hgg, hg⟩ := Links.mem_dropLeft.mp hgg
      simpa [GroupManager.erase] using
        ⟨⟨hg, (hi.senderGroup hgg).1⟩, hg', (hi.senderGroup hgg).2⟩
  · intro t k d hd
    cases t with
    | school => exact ⟨hd, hi.dnStored (t := .school) hd⟩
    | group =>
      change (db.groupDns.erase id).find? k = some d at hd
      rw [Table.find?_erase] at hd
      split at hd
      · cases hd
      · next hk =>
        have hstored : k ∈ db.ids .group := hi.dnStored hd
        exact ⟨hd, by simpa [Objects.ids, GroupManager.erase, hk] using hstored⟩
    | user => exact ⟨hd, hi.dnStored (t := .user) hd⟩

/-! ## Users -/

/-- Writing a user row with its memberships and guardian links. -/
theorem Integrity.write_user {row : UserModel} {members : Links PublicId MembershipKey}
    {guardians : Links PublicId PublicId} (hi : Integrity db)
    (hschools : row.schoolMemberships.keys ⊆ db.schools.keys)
    (hprimary : AtMostOnePrimary row.schoolMemberships)
    (hmembers : ∀ g k, (g, k) ∈ members → g ∈ db.groups.keys ∧
      ((k.user = id ∧ k.school ∈ row.schoolMemberships.keys) ∨
        (k.user ≠ id ∧ (g, k) ∈ db.groupMembers)))
    (hguardians : ∀ g w, (g, w) ∈ guardians →
      (g = id ∨ g ∈ db.users.keys) ∧ (w = id ∨ w ∈ db.users.keys)) :
    Integrity
      { db with
        users := db.users.insert id row
        groupMembers := members
        legalGuardians := guardians } := by
  refine hi.of_objects ?_ (fun t => by cases t <;> rfl) (fun t => ?_)
  · refine
      { hi.toConsistent with
        membershipSchool := ?_
        primary := ?_
        memberGroup := ?_
        memberMembership := ?_
        senderUser := ?_
        guardian := ?_ }
    · intro u r s m hu hm
      rw [Table.find?_insert] at hu
      split at hu
      · cases hu
        exact hschools (Table.mem_keys_of_find? hm)
      · exact hi.membershipSchool hu hm
    · intro u r hu
      rw [Table.find?_insert] at hu
      split at hu
      · cases hu
        exact hprimary
      · exact hi.primary hu
    · intro g k hgk
      exact (hmembers g k hgk).1
    · intro g k hgk
      rw [Objects.isMember_iff]
      rcases (hmembers g k hgk).2 with ⟨hu, hs⟩ | ⟨hu, h⟩
      · obtain ⟨m, hm⟩ := Table.mem_keys.mp hs
        refine ⟨row, m, ?_, hm⟩
        rw [Table.find?_insert, if_pos hu]
      · obtain ⟨r, m, hr, hm⟩ := Objects.isMember_iff.mp (hi.memberMembership h)
        refine ⟨r, m, ?_, hm⟩
        rw [Table.find?_insert, if_neg hu]
        exact hr
    · intro g u hgu
      rw [Table.keys_insert, Finset.mem_insert]
      exact ⟨(hi.senderUser hgu).1, .inr (hi.senderUser hgu).2⟩
    · intro g w hgw
      simpa [Table.keys_insert] using hguardians g w hgw
  · cases t
    · exact Finset.Subset.refl _
    · exact Finset.Subset.refl _
    · simp [Objects.ids]

theorem keys_toMembershipModels {memberships : Table PublicId SchoolMembership} :
    (UserManager.toMembershipModels memberships).keys = memberships.keys := by
  simp [UserManager.toMembershipModels]

theorem Integrity.user_insert {data : User} (hi : Integrity db)
    (hc : UserManager.Creatable db id data) : Integrity (UserManager.insert db id data) := by
  refine hi.write_user ?_ hc.primary (fun g k hgk => ?_) (fun g w hgw => ?_)
  · rw [keys_toMembershipModels]
    exact hc.schools
  · rcases UserManager.mem_relink.mp hgk with ⟨hu, h⟩ | ⟨hu, m, hm, hg⟩
    · exact ⟨hi.memberGroup h, .inr ⟨hu, h⟩⟩
    · refine ⟨hc.groups _ _ hm hg, .inl ⟨hu, ?_⟩⟩
      rw [keys_toMembershipModels]
      exact Table.mem_keys_of_find? hm
  · rcases Links.mem_assign.mp hgw with ⟨rfl, hw⟩ | ⟨-, h⟩
    · exact ⟨.inl rfl, .inr (hc.wards hw)⟩
    · rcases Links.mem_coassign.mp h with ⟨rfl, hg⟩ | ⟨-, h⟩
      · exact ⟨.inr (hc.guardians hg), .inl rfl⟩
      · exact ⟨.inr (hi.guardian h).1, .inr (hi.guardian h).2⟩

theorem mem_setLegalGuardians {links : Links PublicId PublicId} {patch : UserPatch}
    {current : User} {g w : PublicId}
    (h : (g, w) ∈ UserManager.setLegalGuardians links id patch current) :
    (g, w) ∈ links ∨ (w = id ∧ g ∈ patch.patched.legalGuardians ∧ patch.legalGuardians = true ∧
      current.legalGuardians ≠ patch.patched.legalGuardians) := by
  unfold UserManager.setLegalGuardians at h
  split at h
  · next hp =>
    rcases Links.mem_coassign.mp h with ⟨rfl, hg⟩ | ⟨-, h⟩
    · exact .inr ⟨rfl, hg, hp⟩
    · exact .inl h
  · exact .inl h

theorem mem_setLegalWards {links : Links PublicId PublicId} {patch : UserPatch}
    {current : User} {g w : PublicId}
    (h : (g, w) ∈ UserManager.setLegalWards links id patch current) :
    (g, w) ∈ links ∨ (g = id ∧ w ∈ patch.patched.legalWards ∧ patch.legalWards = true ∧
      current.legalWards ≠ patch.patched.legalWards) := by
  unfold UserManager.setLegalWards at h
  split at h
  · next hp =>
    rcases Links.mem_assign.mp h with ⟨rfl, hw⟩ | ⟨-, h⟩
    · exact .inr ⟨rfl, hw, hp⟩
    · exact .inl h
  · exact .inl h

theorem Integrity.user_update [Runtime] {model : UserModel} {patch : UserPatch} (hi : Integrity db)
    (hm : UserManager.Modifiable db id model patch) :
    Integrity (UserManager.update db id model patch) := by
  refine hi.write_user ?_ ?_ (fun g k hgk => ?_) (fun g w hgw => ?_)
  · intro s hs
    obtain ⟨m, hms⟩ := Table.mem_keys.mp hs
    split at hms
    · next hp =>
      obtain ⟨m', hm', -⟩ := Option.map_eq_some_iff.mp
        (UserManager.find?_toMembershipModels.symm.trans hms)
      rcases (UserManager.syncMembership_ok (hm.memberships hp s m' hm')).1 with h | h
      · exact h
      · have hs' : s ∈ model.schoolMemberships.keys := by simpa [toUser] using h
        obtain ⟨m'', hm''⟩ := Table.mem_keys.mp hs'
        exact hi.membershipSchool hm.stored hm''
    · exact hi.membershipSchool hm.stored hms
  · dsimp only
    split
    · next hp => exact hm.primary hp
    · exact hi.primary hm.stored
  · dsimp only at hgk ⊢
    split at hgk
    · next hp =>
      rw [if_pos hp, keys_toMembershipModels]
      rcases UserManager.mem_relink.mp hgk with ⟨hu, h⟩ | ⟨hu, m, hms, hg⟩
      · exact ⟨hi.memberGroup h, .inr ⟨hu, h⟩⟩
      · refine ⟨?_, .inl ⟨hu, Table.mem_keys_of_find? hms⟩⟩
        rcases (UserManager.syncMembership_ok (hm.memberships hp _ m hms)).2 with h | ⟨m', hm', h⟩
        · exact h hg
        · -- the groups are those the membership is linked to already
          obtain ⟨m'', -, rfl⟩ := Option.map_eq_some_iff.mp
            ((Table.find?_mapVals _ _ _).symm.trans hm')
          rw [← h, Links.mem_leftOf] at hg
          exact hi.memberGroup hg
    · next hp =>
      rw [if_neg hp]
      refine ⟨hi.memberGroup hgk, ?_⟩
      by_cases hu : k.user = id
      · obtain ⟨r, m, hr, hms⟩ := Objects.isMember_iff.mp (hi.memberMembership hgk)
        rw [hu, hm.stored] at hr
        cases hr
        exact .inl ⟨hu, Table.mem_keys_of_find? hms⟩
      · exact .inr ⟨hu, hgk⟩
  · rcases mem_setLegalWards hgw with h | ⟨rfl, hw, hp, hne⟩
    · rcases mem_setLegalGuardians h with h | ⟨rfl, hg, hp, hne⟩
      · exact ⟨.inr (hi.guardian h).1, .inr (hi.guardian h).2⟩
      · exact ⟨.inr (((hm.guardians hp).resolve_left hne) hg), .inl rfl⟩
    · exact ⟨.inl rfl, .inr (((hm.wards hp).resolve_left hne) hw)⟩

theorem isMember_user_erase {s u : PublicId} :
    (UserManager.erase db id).IsMember s u ↔ db.IsMember s u ∧ u ≠ id := by
  simp only [Objects.isMember_iff, UserManager.erase, Table.find?_erase]
  by_cases h : u = id <;> simp [h]

theorem Integrity.user_erase (hi : Integrity db) : Integrity (UserManager.erase db id) := by
  refine hi.of_dns ?_ ?_
  · refine
      { hi.toConsistent with
        membershipSchool := ?_
        primary := ?_
        memberGroup := ?_
        memberMembership := ?_
        senderUser := ?_
        guardian := ?_ }
    · intro u row s m hu hm
      simp only [UserManager.erase, Table.find?_erase] at hu
      split at hu
      · cases hu
      · exact hi.membershipSchool hu hm
    · intro u row hu
      simp only [UserManager.erase, Table.find?_erase] at hu
      split at hu
      · cases hu
      · exact hi.primary hu
    · intro g k hgk
      exact hi.memberGroup (Finset.mem_filter.mp hgk).1
    · intro g k hgk
      obtain ⟨hgk, hu⟩ := Finset.mem_filter.mp hgk
      exact isMember_user_erase.mpr ⟨hi.memberMembership hgk, by simpa using hu⟩
    · intro g u hgu
      obtain ⟨hgu, hu⟩ := Links.mem_dropRight.mp hgu
      simpa [UserManager.erase] using ⟨(hi.senderUser hgu).1, hu, (hi.senderUser hgu).2⟩
    · intro g w hgw
      obtain ⟨hgw, hw⟩ := Links.mem_dropRight.mp hgw
      obtain ⟨hgw, hg⟩ := Links.mem_dropLeft.mp hgw
      simpa [UserManager.erase] using
        ⟨⟨hg, (hi.guardian hgw).1⟩, hw, (hi.guardian hgw).2⟩
  · intro t k d hd
    cases t with
    | school => exact ⟨hd, hi.dnStored (t := .school) hd⟩
    | group => exact ⟨hd, hi.dnStored (t := .group) hd⟩
    | user =>
      change (db.userDns.erase id).find? k = some d at hd
      rw [Table.find?_erase] at hd
      split at hd
      · cases hd
      · next hk =>
        have hstored : k ∈ db.ids .user := hi.dnStored hd
        exact ⟨hd, by simpa [Objects.ids, UserManager.erase, hk] using hstored⟩

end Kelvin
