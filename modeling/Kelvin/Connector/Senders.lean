import Kelvin.Connector.Snapshot

/-!
# Allowed email senders

A sender reference is carried by the group's event alone, so it is resolved once, when the
group is created, and a sender whose own event comes later is never linked. The senders of all
groups are exact after the create events of a snapshot if and only if every listed sender stands
before the group in the order of the events.

* `Sent`: the sender links after some of the events.
* `SendersFirst`: the condition on the order.
* `senders_iff`: the senders are exact if and only if the condition holds.
-/

namespace Kelvin

section Senders

variable [Runtime]

/-- The sender links after the events `pre`: those to objects that came before the group. -/
structure Sent (db₀ : Database) (pre : List Event) (db : Database) : Prop
    extends Arrived db₀ pre db where
  senderUsers : ∀ a b, (a, b) ∈ db.emailSenderUsers ↔ ∃ g u,
    Before pre (.userCreate u) (.groupCreate g) ∧ Kept db₀ u ∧ u.dn ∈ g.properties.allowedEmailUsers ∧
      g.id = a ∧ u.id = b
  senderGroups : ∀ a b, (a, b) ∈ db.emailSenderGroups ↔ ∃ g h,
    Before pre (.groupCreate h) (.groupCreate g) ∧ isUnsyncableGroupDn h.dn = false ∧
      h.dn ∈ g.properties.allowedEmailGroups ∧ g.id = a ∧ h.id = b

theorem sent_nil {db₀ : Database} (hi : Integrity db₀) (husers : db₀.users = .empty)
    (hgroups : db₀.groups = .empty) : Sent db₀ [] db₀ where
  toArrived := arrived_nil hi husers hgroups
  senderUsers := by
    intro a b
    simp only [not_before_nil, false_and, exists_false, iff_false]
    intro h
    have hstored := (hi.senderUser h).1
    simp [hgroups] at hstored
  senderGroups := by
    intro a b
    simp only [not_before_nil, false_and, exists_false, iff_false]
    intro h
    have hstored := (hi.senderGroup h).1
    simp [hgroups] at hstored

variable {S : Snapshot} {db₀ db db' : Database} {pre : List Event}

/-- A user's event comes after the groups that are there, and changes no sender. -/
theorem Sent.of_user (hs : Sent db₀ pre db) {u : UserPayload}
    (ha : Arrived db₀ (pre ++ [.userCreate u]) db')
    (husers : db'.emailSenderUsers = db.emailSenderUsers)
    (hgroups : db'.emailSenderGroups = db.emailSenderGroups) :
    Sent db₀ (pre ++ [.userCreate u]) db' where
  toArrived := ha
  senderUsers := by
    intro a b
    rw [husers, hs.senderUsers]
    simp [before_concat]
  senderGroups := by
    intro a b
    rw [hgroups, hs.senderGroups]
    simp [before_concat]

/-- A group's event resolves its senders among the objects that came before it. -/
theorem Sent.groupStored (hs : Sent db₀ pre db) {g : GroupPayload} {s : PublicId}
    (hn : Next S pre (.groupCreate g)) (hschools : ∀ g ∈ S.groups, schoolOf db₀ g ≠ none)
    (hschool : schoolOf db₀ g = some s) :
    Sent db₀ (pre ++ [.groupCreate g]) (groupStored db g s) where
  toArrived := hs.toArrived.groupStored hn hschool
  senderUsers := by
    intro a b
    have hlinks : (Kelvin.groupStored db g s).emailSenderUsers = db.emailSenderUsers.assign g.id
        (fetchUsersByDns db g.properties.allowedEmailUsers) := by
      rw [toObjects_groupStored]
      rfl
    rw [hlinks, Links.mem_assign, hs.senderUsers, hs.toArrived.mem_fetchUsers]
    simp only [before_concat, Event.groupCreate.injEq]
    constructor
    · rintro (⟨rfl, u, hu, hk, hid, hdn⟩ | ⟨-, h, u, hb, hk, hdn, hh, hid⟩)
      · exact ⟨g, u, .inr ⟨hu, rfl⟩, hk, hdn, rfl, hid⟩
      · exact ⟨h, u, .inl hb, hk, hdn, hh, hid⟩
    · rintro ⟨h, u, hb | ⟨hu, rfl⟩, hk, hdn, rfl, hid⟩
      · exact .inr ⟨(hn.group_ne hb.mem_right).1, h, u, hb, hk, hdn, rfl, hid⟩
      · exact .inl ⟨rfl, u, hu, hk, hid, hdn⟩
  senderGroups := by
    intro a b
    have hlinks : (Kelvin.groupStored db g s).emailSenderGroups = db.emailSenderGroups.assign g.id
        (fetchGroupsByDns db g.properties.allowedEmailGroups) := by
      rw [toObjects_groupStored]
      rfl
    rw [hlinks, Links.mem_assign, hs.senderGroups, hs.toArrived.mem_fetchGroups]
    simp only [before_concat, Event.groupCreate.injEq]
    constructor
    · rintro (⟨rfl, f, hf, -, hid, hdn, hsync⟩ | ⟨-, h, f, hb, hsync, hdn, hh, hid⟩)
      · exact ⟨g, f, .inr ⟨hf, rfl⟩, hsync, hdn, rfl, hid⟩
      · exact ⟨h, f, .inl hb, hsync, hdn, hh, hid⟩
    · rintro ⟨h, f, hb | ⟨hf, rfl⟩, hsync, hdn, rfl, hid⟩
      · exact .inr ⟨(hn.group_ne hb.mem_right).1, h, f, hb, hsync, hdn, rfl, hid⟩
      · have hf' := Snapshot.groupCreate_mem.mp (hn.seen _ hf)
        exact .inl ⟨rfl, f, hf, hschools f hf', hid, hdn, hsync⟩

theorem Sent.step (hs : Sent db₀ pre db) (hschools : ∀ g ∈ S.groups, schoolOf db₀ g ≠ none)
    {e : Event} (hn : Next S pre e) (hh : handle db e = .ok db') : Sent db₀ (pre ++ [e]) db' := by
  rcases Snapshot.mem_events.mp hn.here with ⟨u, -, rfl⟩ | ⟨g, hg, rfl⟩
  · rcases hs.toArrived.userCreate hn hh with ⟨hdropped, rfl⟩ | ⟨hkept, rfl⟩
    · exact hs.of_user (hs.toArrived.userDropped hdropped) rfl rfl
    · refine hs.of_user (hs.toArrived.userStored hn hkept) ?_ ?_ <;>
        (rw [toObjects_userStored]; rfl)
  · rcases hs.toArrived.groupCreate hn hh with ⟨hdropped, -⟩ | ⟨s, hschool, rfl⟩
    · exact absurd hdropped (hschools g hg)
    · exact hs.groupStored hn hschools hschool

/-! ## Exact senders -/

/-- The senders of every group are the objects of the snapshot that its event lists. -/
structure Snapshot.ExactSenders (S : Snapshot) (db : Database) : Prop where
  users : ∀ g ∈ S.groups, ∀ id, (g.id, id) ∈ db.emailSenderUsers ↔
    ∃ u ∈ S.users, u.dn ∈ g.properties.allowedEmailUsers ∧ u.id = id
  groups : ∀ g ∈ S.groups, ∀ id, (g.id, id) ∈ db.emailSenderGroups ↔
    ∃ h ∈ S.groups, h.dn ∈ g.properties.allowedEmailGroups ∧ h.id = id

/-- Every listed sender has its event before the group's. Listed users name a known school,
and the DNs of listed groups are not those that are never looked up. -/
structure Snapshot.SendersFirst (S : Snapshot) (db₀ : Database) (events : List Event) : Prop where
  users : ∀ g ∈ S.groups, ∀ u ∈ S.users, u.dn ∈ g.properties.allowedEmailUsers →
    Kept db₀ u ∧ Before events (.userCreate u) (.groupCreate g)
  groups : ∀ g ∈ S.groups, ∀ h ∈ S.groups, h.dn ∈ g.properties.allowedEmailGroups →
    isUnsyncableGroupDn h.dn = false ∧ Before events (.groupCreate h) (.groupCreate g)

theorem Sent.exact_iff {events : List Event} (hs : Sent db₀ events db)
    (hmem : ∀ e ∈ events, e ∈ S.events) : S.ExactSenders db ↔ S.SendersFirst db₀ events := by
  constructor
  · intro h
    constructor
    · intro g hg u hu hdn
      obtain ⟨g', u', hb, hk, -, hgid, huid⟩ :=
        (hs.senderUsers g.id u.id).mp ((h.users g hg u.id).mpr ⟨u, hu, hdn, rfl⟩)
      have hg' := Snapshot.groupCreate_mem.mp (hmem _ hb.mem_right)
      have hu' := Snapshot.userCreate_mem.mp (hmem _ hb.mem_left)
      obtain rfl := Snapshot.group_eq_of_id hg' hg hgid
      obtain rfl := Snapshot.user_eq_of_id hu' hu huid
      exact ⟨hk, hb⟩
    · intro g hg f hf hdn
      obtain ⟨g', f', hb, hsync, -, hgid, hfid⟩ :=
        (hs.senderGroups g.id f.id).mp ((h.groups g hg f.id).mpr ⟨f, hf, hdn, rfl⟩)
      have hg' := Snapshot.groupCreate_mem.mp (hmem _ hb.mem_right)
      have hf' := Snapshot.groupCreate_mem.mp (hmem _ hb.mem_left)
      obtain rfl := Snapshot.group_eq_of_id hg' hg hgid
      obtain rfl := Snapshot.group_eq_of_id hf' hf hfid
      exact ⟨hsync, hb⟩
  · intro h
    constructor
    · intro g hg id
      rw [hs.senderUsers]
      constructor
      · rintro ⟨g', u, hb, -, hdn, hgid, huid⟩
        have hg' := Snapshot.groupCreate_mem.mp (hmem _ hb.mem_right)
        obtain rfl := Snapshot.group_eq_of_id hg' hg hgid
        exact ⟨u, Snapshot.userCreate_mem.mp (hmem _ hb.mem_left), hdn, huid⟩
      · rintro ⟨u, hu, hdn, huid⟩
        obtain ⟨hk, hb⟩ := h.users g hg u hu hdn
        exact ⟨g, u, hb, hk, hdn, rfl, huid⟩
    · intro g hg id
      rw [hs.senderGroups]
      constructor
      · rintro ⟨g', f, hb, -, hdn, hgid, hfid⟩
        have hg' := Snapshot.groupCreate_mem.mp (hmem _ hb.mem_right)
        obtain rfl := Snapshot.group_eq_of_id hg' hg hgid
        exact ⟨f, Snapshot.groupCreate_mem.mp (hmem _ hb.mem_left), hdn, hfid⟩
      · rintro ⟨f, hf, hdn, hfid⟩
        obtain ⟨hsync, hb⟩ := h.groups g hg f hf hdn
        exact ⟨g, f, hb, hsync, hdn, rfl, hfid⟩

/-- After all create events of a snapshot, the senders are exact if and only if every sender
came before the groups that list it. -/
theorem senders_iff {events : List Event} (hr : Reachable db₀) (husers : db₀.users = .empty)
    (hgroups : db₀.groups = .empty) (hschools : ∀ g ∈ S.groups, schoolOf db₀ g ≠ none)
    (hperm : events.Perm S.events) (hh : Handled handle db₀ events db) :
    S.ExactSenders db ↔ S.SendersFirst db₀ events := by
  have hs : Sent db₀ events db := hh.history
    (fun _ _ _ _ _ hsplit hs he => hs.step hschools (next_of_perm hperm hsplit) he)
    (sent_nil hr.integrity husers hgroups)
  exact hs.exact_iff (fun _ he => hperm.mem_iff.mp he)

end Senders

/-! ## A student that may write to a class -/

section

attribute [local instance] asciiRuntime

def senderEvent : UserPayload := studentEvent 2 "uid=u,ou=A" "u" ["A"] [] [] [] uidA_ne

def classWithSender : GroupPayload :=
  classEvent 3 "cn=c,ou=A" "c" "A" [] ["uid=u,ou=A"] [] none cnA_ne

/-- A student, and a class that lists it as a sender. -/
def senderSnapshot : Snapshot where
  users := [senderEvent]
  groups := [classWithSender]
  userIds := List.nodup_singleton _
  userDns := List.nodup_singleton _
  groupIds := List.nodup_singleton _
  groupDns := List.nodup_singleton _

theorem senderSnapshot_schools : ∀ g ∈ senderSnapshot.groups, schoolOf oneSchool g ≠ none := by
  intro g hg
  cases List.mem_singleton.mp hg
  decide

theorem senders_iff_student :
    senderSnapshot.ExactSenders (replay handle oneSchool senderSnapshot.events) ↔
      senderSnapshot.SendersFirst oneSchool senderSnapshot.events :=
  senders_iff ⟨someRoles, _, rfl⟩ (by decide) (by decide) senderSnapshot_schools
    (List.Perm.refl _)
    ⟨_, eq_deliver_of_isOk (by decide), _, eq_deliver_of_isOk (by decide), rfl⟩

/-- A sender whose event comes after the class is not linked. -/
theorem sender_too_late :
    ¬ ∀ (S : Snapshot) (db₀ db : Database) (events : List Event), Reachable db₀ →
      db₀.users = .empty → db₀.groups = .empty →
        (∀ u ∈ S.users, Kept db₀ u) → (∀ g ∈ S.groups, schoolOf db₀ g ≠ none) →
          events.Perm S.events → Handled handle db₀ events db → S.ExactSenders db := by
  intro h
  have hexact := h senderSnapshot oneSchool _
    [.groupCreate classWithSender, .userCreate senderEvent] ⟨someRoles, _, rfl⟩
    (by decide) (by decide)
    (fun u hu => by
      cases List.mem_singleton.mp hu
      unfold Kept
      decide)
    senderSnapshot_schools (List.Perm.swap _ _ _)
    ⟨_, eq_deliver_of_isOk (by decide), _, eq_deliver_of_isOk (by decide), rfl⟩
  have hlink := (hexact.users classWithSender (List.mem_singleton_self _) 2).mpr
    ⟨senderEvent, List.mem_singleton_self _, List.mem_singleton_self _, rfl⟩
  exact absurd hlink (by decide)

end

end Kelvin
