import Kelvin.Connector.Readback
import Kelvin.Connector.Resolution

/-!
# Senders of a modified group

A group modify event sets the DN mapping of the group first: the old rows are deleted at once,
and the new row is pending until the flush behind all lookups. The senders are therefore
resolved in the displaced mapping, in which the group has no DN at all, and groups whose DN
matches the patterns of `_is_unsyncable_group_dn` are not looked up.

* `ListedSenders`: the senders of a group are the cached objects whose current DN is listed.
* `Resolves`: the sender links are those that a database resolves; `groupModified_resolves`.
* `listedSenders_iff`: when the senders after a modify event are the listed objects.
-/

namespace Kelvin

section SenderResolution

variable [Runtime] {db db' : Database} {new : GroupPayload}

/-- The sender links of the group of an event are the cached objects whose DN is listed. -/
structure ListedSenders (db : Database) (new : GroupPayload) : Prop where
  groups : ∀ k, (new.id, k) ∈ db.emailSenderGroups ↔ k ∈ db.groups.keys ∧
    ∃ dn ∈ new.properties.allowedEmailGroups, (db.dns .group).find? k = some dn
  users : ∀ k, (new.id, k) ∈ db.emailSenderUsers ↔ k ∈ db.users.keys ∧
    ∃ dn ∈ new.properties.allowedEmailUsers, (db.dns .user).find? k = some dn

/-- The sender links after an event are those that are resolved in `src`. -/
structure Resolves (src : Database) (new : GroupPayload) (db : Database) : Prop where
  groups : ∀ k, (new.id, k) ∈ db.emailSenderGroups ↔
    k ∈ fetchGroupsByDns src new.properties.allowedEmailGroups
  users : ∀ k, (new.id, k) ∈ db.emailSenderUsers ↔
    k ∈ fetchUsersByDns src new.properties.allowedEmailUsers

/-- A group brought to `target` has the senders of `target`. -/
theorem senders_writeGroup {model : GroupModel} {current : Group} {id : PublicId} (target : Group)
    (hcur : toGroup db.toObjects id model = .ok current) :
    (∀ k, (id, k) ∈ (writeGroup db id model current target).emailSenderGroups ↔
        k ∈ target.allowedEmailSendersGroups) ∧
      ∀ k, (id, k) ∈ (writeGroup db id model current target).emailSenderUsers ↔
        k ∈ target.allowedEmailSendersUsers := by
  unfold writeGroup
  split
  · next hsame =>
    have hgroups : current.allowedEmailSendersGroups = target.allowedEmailSendersGroups := by
      have h := congrArg Group.allowedEmailSendersGroups hsame
      exact h
    have husers : current.allowedEmailSendersUsers = target.allowedEmailSendersUsers := by
      have h := congrArg Group.allowedEmailSendersUsers hsame
      exact h
    rw [← hgroups, ← husers]
    obtain ⟨-, rfl⟩ := GroupManager.toGroup_eq_ok.mp hcur
    exact ⟨fun k => Links.mem_rightOf.symm, fun k => Links.mem_rightOf.symm⟩
  · constructor
    · intro k
      rw [GroupManager.update, Links.mem_assign]
      simp [Group.toJson]
    · intro k
      rw [GroupManager.update, Links.mem_assign]
      simp [Group.toJson]

/-- The mapping in which the handler resolves the senders: displaced if the group is stored. -/
def senderSource (db : Database) (new : GroupPayload) : Database :=
  if new.id ∈ db.groups.keys then db.displace .group new.dn new.id else db

/-- What a handled modify event that leaves the group stored has done: the senders are those
that `senderSource` resolves, the mapping is set, and no other object came or went. -/
structure SendersResolved (db : Database) (new : GroupPayload) (db' : Database) : Prop where
  resolves : Resolves (senderSource db new) new db'
  dns : ∀ t, db'.dns t = (db.setMapping .group new.dn new.id).dns t
  users : db'.users.keys = db.users.keys
  groups : db'.groups.keys = insert new.id db.groups.keys

theorem sendersResolved_groupStored {school : PublicId} (habsent : new.id ∉ db.groups.keys) :
    SendersResolved db new (groupStored db new school) := by
  have hsource : senderSource db new = db := by rw [senderSource, if_neg habsent]
  refine ⟨⟨fun k => ?_, fun k => ?_⟩, fun t => ?_, ?_, ids_groupStored⟩
  · rw [hsource, toObjects_groupStored]
    change (new.id, k) ∈ Links.assign _ _ _ ↔ _
    rw [Links.mem_assign]
    simp [groupCreateTarget, newGroup]
  · rw [hsource, toObjects_groupStored]
    change (new.id, k) ∈ Links.assign _ _ _ ↔ _
    rw [Links.mem_assign]
    simp [groupCreateTarget, newGroup]
  · by_cases ht : t = .group
    · rw [ht]
      exact dns_groupStored
    · rw [dns_groupStored_ne ht, Database.dns_setMapping_ne ht]
  · rw [users_groupStored]

theorem sendersResolved_writeGroup {model : GroupModel} {current : Group}
    {school : Option PublicId} (hstored : db.groups.find? new.id = some model)
    (hcur : toGroup (db.displace .group new.dn new.id).toObjects new.id model = .ok current) :
    SendersResolved db new
      ((writeGroup (db.displace .group new.dn new.id) new.id model current
        (groupTarget (db.displace .group new.dn new.id) new current school)).setMapping
          .group new.dn new.id) := by
  have hkey : new.id ∈ db.groups.keys := Table.mem_keys_of_find? hstored
  have hsource : senderSource db new = db.displace .group new.dn new.id := by
    rw [senderSource, if_pos hkey]
  have hstored' : (db.displace .group new.dn new.id).groups.find? new.id = some model := by
    rw [Database.toObjects_displace]
    exact hstored
  have hids : ∀ t, ((writeGroup (db.displace .group new.dn new.id) new.id model current
      (groupTarget (db.displace .group new.dn new.id) new current school)).setMapping
        .group new.dn new.id).ids t = db.ids t := by
    intro t
    rw [Database.toObjects_setMapping, ids_writeGroup hstored', Database.toObjects_displace]
  obtain ⟨hgroups, husers⟩ := senders_writeGroup
    (groupTarget (db.displace .group new.dn new.id) new current school) hcur
  refine ⟨⟨fun k => ?_, fun k => ?_⟩, fun t => ?_, hids .user, ?_⟩
  · rw [hsource, Database.toObjects_setMapping, hgroups]
    rfl
  · rw [hsource, Database.toObjects_setMapping, husers]
    rfl
  · rw [← Database.addMapping_eq_setMapping dns_writeGroup]
    by_cases ht : t = .group
    · subst ht
      simp [Database.setMapping, Database.addMapping]
    · rw [Database.dns_addMapping_ne ht, dns_writeGroup, Database.dns_displace_ne ht,
        Database.dns_setMapping_ne ht]
  · rw [Finset.insert_eq_of_mem hkey]
    exact hids .group

theorem handleGroupModify_sendersResolved (h : handleGroupModify db new = .ok db')
    (hstored : new.id ∈ db'.groups.keys) : SendersResolved db new db' := by
  cases handleGroupModify_ok h with
  | absent habsent hc =>
    cases hc with
    | dropped =>
      exact absurd hstored (Table.not_mem_keys.mpr habsent)
    | created => exact sendersResolved_groupStored (Table.not_mem_keys.mpr habsent)
    | stored _ _ _ _ hfound => cases habsent.symm.trans hfound
  | stored model current hfound hw => exact sendersResolved_writeGroup hfound hw.loaded

omit [Runtime] in
theorem find?_senderSource {k : PublicId} {dn : String} (hne : k ≠ new.id) (hdn : dn ≠ new.dn) :
    ((senderSource db new).dns .group).find? k = some dn ↔ (db.dns .group).find? k = some dn := by
  unfold senderSource
  split
  · rw [Database.find?_displace]
    simp [hne, hdn]
  · rfl

omit [Runtime] in
theorem senderSource_frame : (senderSource db new).users = db.users ∧
    (senderSource db new).groups = db.groups ∧ (senderSource db new).dns .user = db.dns .user := by
  unfold senderSource
  split
  · refine ⟨?_, ?_, Database.dns_displace_ne (by decide)⟩
    · rw [Database.toObjects_displace]
    · rw [Database.toObjects_displace]
  · exact ⟨rfl, rfl, rfl⟩

/-- The group itself is never found: its own row is displaced, or it is not stored yet. -/
theorem self_not_mem_senderSource (dns : List String) :
    new.id ∉ fetchGroupsByDns (senderSource db new) dns := by
  rw [mem_fetchGroupsByDns]
  rintro ⟨hkey, d, -, -, hfind⟩
  rw [senderSource_frame.2.1] at hkey
  rw [senderSource, if_pos hkey] at hfind
  exact (Database.find?_displace.mp hfind).2.2 rfl

theorem SendersResolved.listedUsers (h : SendersResolved db new db') (k : PublicId) :
    (new.id, k) ∈ db'.emailSenderUsers ↔ k ∈ db'.users.keys ∧
      ∃ dn ∈ new.properties.allowedEmailUsers, (db'.dns .user).find? k = some dn := by
  obtain ⟨husers, -, hdns⟩ := @senderSource_frame db new
  rw [h.resolves.users, mem_fetchUsersByDns, husers, hdns, h.users, h.dns,
    Database.dns_setMapping_ne (by decide)]

/-- The sender groups that are cached and listed, without the group itself. -/
def OtherSendersSyncable (db : Database) (new : GroupPayload) : Prop :=
  ∀ k ∈ db.groups.keys, k ≠ new.id → ∀ dn ∈ new.properties.allowedEmailGroups,
    (db.dns .group).find? k = some dn → isUnsyncableGroupDn dn = false

theorem SendersResolved.listedGroups_iff (h : SendersResolved db new db') :
    (∀ k, (new.id, k) ∈ db'.emailSenderGroups ↔ k ∈ db'.groups.keys ∧
      ∃ dn ∈ new.properties.allowedEmailGroups, (db'.dns .group).find? k = some dn) ↔
    new.dn ∉ new.properties.allowedEmailGroups ∧ OtherSendersSyncable db new := by
  have hlink : ∀ k, (new.id, k) ∈ db'.emailSenderGroups ↔
      k ∈ fetchGroupsByDns (senderSource db new) new.properties.allowedEmailGroups :=
    h.resolves.groups
  have hfind : ∀ k dn, (db'.dns .group).find? k = some dn ↔
      (k = new.id ∧ dn = new.dn) ∨
        (k ≠ new.id ∧ dn ≠ new.dn ∧ (db.dns .group).find? k = some dn) := by
    intro k dn
    rw [h.dns]
    exact Database.find?_setMapping
  constructor
  · intro hlisted
    -- the group itself would have to be found under its new DN
    have hself : new.dn ∉ new.properties.allowedEmailGroups := by
      intro hdn
      have hsender : (new.id, new.id) ∈ db'.emailSenderGroups := by
        refine (hlisted new.id).mpr ⟨?_, new.dn, hdn, (hfind _ _).mpr (.inl ⟨rfl, rfl⟩)⟩
        rw [h.groups]
        exact Finset.mem_insert_self _ _
      exact self_not_mem_senderSource _ ((hlink _).mp hsender)
    refine ⟨hself, ?_⟩
    intro k hk hne dn hdn hmap
    have hdn' : dn ≠ new.dn := fun heq => hself (heq ▸ hdn)
    have hsender : (new.id, k) ∈ db'.emailSenderGroups := by
      refine (hlisted k).mpr ⟨?_, dn, hdn, (hfind _ _).mpr (.inr ⟨hne, hdn', hmap⟩)⟩
      rw [h.groups]
      exact Finset.mem_insert_of_mem hk
    obtain ⟨-, d, -, hsync, hd⟩ := mem_fetchGroupsByDns.mp ((hlink _).mp hsender)
    by_cases heq : d = new.dn
    · -- a row with the new DN is displaced
      subst heq
      rw [senderSource] at hd
      split at hd
      · exact absurd rfl (Database.find?_displace.mp hd).2.1
      · cases hd.symm.trans hmap
        exact absurd rfl hdn'
    · rw [find?_senderSource hne heq] at hd
      cases hd.symm.trans hmap
      exact hsync
  · rintro ⟨hself, hsync⟩ k
    rw [hlink, mem_fetchGroupsByDns, senderSource_frame.2.1, h.groups, Finset.mem_insert]
    by_cases hne : k = new.id
    · subst hne
      have hnot := @self_not_mem_senderSource _ db new new.properties.allowedEmailGroups
      rw [mem_fetchGroupsByDns, senderSource_frame.2.1] at hnot
      refine iff_of_false hnot ?_
      rintro ⟨-, dn, hdn, hmap⟩
      rcases (hfind _ _).mp hmap with ⟨-, rfl⟩ | ⟨hne, -⟩
      · exact hself hdn
      · exact hne rfl
    · constructor
      · rintro ⟨hk, dn, hdn, -, hmap⟩
        have hdn' : dn ≠ new.dn := fun heq => hself (heq ▸ hdn)
        rw [find?_senderSource hne hdn'] at hmap
        exact ⟨.inr hk, dn, hdn, (hfind _ _).mpr (.inr ⟨hne, hdn', hmap⟩)⟩
      · rintro ⟨hk, dn, hdn, hmap⟩
        have hk' : k ∈ db.groups.keys := hk.resolve_left hne
        have hmap' : (db.dns .group).find? k = some dn := by
          rcases (hfind _ _).mp hmap with ⟨heq, -⟩ | ⟨-, -, hmap⟩
          · exact absurd heq hne
          · exact hmap
        have hdn' : dn ≠ new.dn := fun heq => hself (heq ▸ hdn)
        refine ⟨hk', dn, hdn, hsync k hk' hne dn hdn hmap', ?_⟩
        rw [find?_senderSource hne hdn']
        exact hmap'

/-- The senders after a modify event are the listed objects if and only if the event does not
list the group itself and no other cached group is listed under a DN that is not looked up. -/
theorem listedSenders_iff (h : handleGroupModify db new = .ok db')
    (hstored : new.id ∈ db'.groups.keys) :
    ListedSenders db' new ↔
      new.dn ∉ new.properties.allowedEmailGroups ∧ OtherSendersSyncable db new := by
  have hresolved := handleGroupModify_sendersResolved h hstored
  rw [← hresolved.listedGroups_iff]
  exact ⟨fun hlisted => hlisted.groups, fun hgroups => ⟨hgroups, hresolved.listedUsers⟩⟩

end SenderResolution

/-! ## A class whose members may write to it -/

section

attribute [local instance] asciiRuntime

def plainClass : GroupPayload := classEvent 3 "cn=c,ou=A" "c" "A" [] [] [] none cnA_ne

/-- The event that makes the class its own sender. -/
def selfSendingClass : GroupPayload :=
  classEvent 3 "cn=c,ou=A" "c" "A" [] [] ["cn=c,ou=A"] none cnA_ne

/-- The class, with its mapping. -/
def oneClass : Database :=
  replay handle (Database.initial someRoles)
    [.schoolCreate (schoolEvent 1 "ou=A" "A" ouA_ne), .groupCreate plainClass]

theorem listedSenders_class :
    ListedSenders (deliver handle oneClass (.groupModify plainClass)) plainClass ↔
      plainClass.dn ∉ plainClass.properties.allowedEmailGroups ∧
        OtherSendersSyncable oneClass plainClass :=
  listedSenders_iff (eq_deliver_of_isOk (by decide)) (by decide)

/-- A class that lists its own DN is not among its senders. -/
theorem selfSendingClass_not_listed :
    ¬ ∀ (db db' : Database) (new : GroupPayload), Reachable db →
      handleGroupModify db new = .ok db' → new.id ∈ db'.groups.keys → ListedSenders db' new := by
  intro h
  have hlisted := h oneClass _ selfSendingClass ⟨someRoles, _, rfl⟩
    (eq_deliver_of_isOk (by decide)) (by decide)
  have hlink := (hlisted.groups 3).mpr
    ⟨by decide, "cn=c,ou=A", List.mem_singleton_self _, by decide⟩
  exact absurd hlink (by decide)

end

end Kelvin
