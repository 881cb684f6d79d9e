import Kelvin.Connector.Run
import Kelvin.Data.Arrival

/-!
# Servers of a school

The educational and the administrative servers of a school are the hosts of its two host groups,
which the library names after the school in lower case. The connector reads the school and the
kind back from the name of the group and looks the school up regardless of letter case. Names
with text behind the kind, or with a wildcard in place of the school, reach a school as well;
nothing is said about runs with such groups.

* `LastValue`: the last event of a school's host group since the school was created.
* `RegularStep`: the schools are told apart by their names, and no school is renamed.
* `servers_follow`: the stored servers are those of the last event of the host group.
-/

namespace Kelvin

def HostGroupType.suffix : HostGroupType → String
  | .edukativnetz => "-DC-Edukativnetz"
  | .verwaltungsnetz => "-DC-Verwaltungsnetz"

/-- `OU<school>-DC-<kind>`. -/
def hostGroupName (school : String) (kind : HostGroupType) : String :=
  "OU" ++ school ++ kind.suffix

def SchoolModel.servers (school : SchoolModel) : HostGroupType → Finset String
  | .edukativnetz => school.educationalServers
  | .verwaltungsnetz => school.administrativeServers

/-- The name of the group of a host group event. -/
def Event.hostGroup? : Event → Option String
  | .hostGroupCreate new | .hostGroupModify new => some new.properties.name
  | .hostGroupDelete old => some old.properties.name
  | _ => none

/-- The name of a host group determines its school and its kind. -/
theorem hostGroupName_inj {a b : String} {k l : HostGroupType}
    (h : hostGroupName a k = hostGroupName b l) : a = b ∧ k = l := by
  have hlists := congrArg String.toList h
  simp only [hostGroupName, String.toList_append] at hlists
  have hends := congrArg List.reverse hlists
  simp only [List.reverse_append] at hends
  have hkind : k = l := by
    cases k <;> cases l
    · rfl
    · simp [HostGroupType.suffix] at hends
    · simp [HostGroupType.suffix] at hends
    · rfl
  subst hkind
  have hfront := List.append_cancel_right hlists
  exact ⟨String.toList_injective (List.append_cancel_left hfront), rfl⟩

section HostGroups

variable [Runtime]

/-- The group is named after the school and the kind, in any letter case of the school. -/
def NamedFor (school : String) (kind : HostGroupType) (name : String) : Prop :=
  ∃ schoolName, name = hostGroupName schoolName kind ∧
    Runtime.lower schoolName = Runtime.lower school

/-- The hosts that an event of a group gives: none where the group is deleted. -/
inductive GivesHosts (own : String → Prop) : Event → Finset String → Prop where
  | create (new : HostGroupPayload) (hosts : Finset String) (hown : own new.properties.name)
      (hhosts : hostnames new.properties.hosts = .ok hosts) :
      GivesHosts own (.hostGroupCreate new) hosts
  | modify (new : HostGroupPayload) (hosts : Finset String) (hown : own new.properties.name)
      (hhosts : hostnames new.properties.hosts = .ok hosts) :
      GivesHosts own (.hostGroupModify new) hosts
  | delete (old : HostGroupPayload) (hown : own old.properties.name) :
      GivesHosts own (.hostGroupDelete old) ∅

/-- The names of the cached schools differ in more than letter case, the event renames no
school, and the host group it is about, if any, is named after a school and a kind. -/
structure RegularStep (db : Database) (e : Event) : Prop where
  distinct : ∀ i j s t, db.schools.find? i = some s → db.schools.find? j = some t →
    Runtime.lower s.name = Runtime.lower t.name → i = j
  kept : ∀ id s s', db.schools.find? id = some s →
    (deliver handle db e).schools.find? id = some s' → s'.name = s.name
  named : ∀ name schoolName kind, e.hostGroup? = some name →
    hostGroupMatch name = some (schoolName, kind) →
      name = hostGroupName schoolName kind ∧ '*' ∉ (Runtime.lower schoolName).toList

/-- The servers that a database has for a school, none where the school is not cached. -/
def storedServers (db : Database) (id : PublicId) (kind : HostGroupType) : Finset String :=
  ((db.schools.find? id).map (·.servers kind)).getD ∅

/-- Every school of the second database has the servers that the first one has for it. -/
def KeepsServers (db db' : Database) : Prop :=
  ∀ id s' kind, db'.schools.find? id = some s' → s'.servers kind = storedServers db id kind

variable {db db' : Database}

omit [Runtime] in
theorem storedServers_eq {id : PublicId} {s : SchoolModel} {kind : HostGroupType}
    (h : db.schools.find? id = some s) : storedServers db id kind = s.servers kind := by
  simp [storedServers, h]

omit [Runtime] in
theorem keepsServers_of_eq (h : db'.schools = db.schools) : KeepsServers db db' := by
  intro id s' kind h'
  rw [h] at h'
  exact (storedServers_eq h').symm

/-! ## Events of users, groups and schools -/

theorem UserCreated.schools {new : UserPayload} (h : UserCreated db new db') :
    db'.schools = db.schools := by
  cases h with
  | dropped _ => rfl
  | created _ _ _ =>
    rw [userStored, Database.toObjects_setMapping]
    rfl
  | stored _ _ _ _ => exact schools_writeUser

theorem UserModified.schools {new : UserPayload} (h : UserModified db new db') :
    db'.schools = db.schools := by
  cases h with
  | absent _ hc => exact hc.schools
  | stored _ _ _ => simp

theorem GroupCreated.schools {new : GroupPayload} (h : GroupCreated db new db') :
    db'.schools = db.schools := by
  cases h with
  | dropped => rfl
  | created _ _ _ _ =>
    rw [groupStored, Database.toObjects_setMapping]
    rfl
  | stored _ _ _ _ _ _ => exact schools_writeGroup

theorem GroupModified.schools {new : GroupPayload} (h : GroupModified db new db') :
    db'.schools = db.schools := by
  cases h with
  | absent _ hc => exact hc.schools
  | stored _ _ _ _ => simp

/-- A school reads with the servers it was written with. -/
theorem servers_of_toJson {row target : School} (h : row.toJson = target.toJson)
    (kind : HostGroupType) : row.servers kind = target.servers kind := by
  have hservers := congrArg (fun s => SchoolModel.servers s kind) h
  cases kind <;> exact hservers

/-- Writing a school with its own servers keeps the servers of every school. -/
theorem keepsServers_writeSchool {id : PublicId} {current target : School}
    (hstored : db.schools.find? id = some current)
    (htarget : ∀ kind, target.servers kind = current.servers kind) :
    KeepsServers db (writeSchool db id current target) := by
  intro k s' kind h'
  by_cases hid : k = id
  · subst hid
    obtain ⟨row, hrow, hread⟩ := school_written target hstored
    obtain rfl : row = s' := Option.some.inj (hrow.symm.trans h')
    rw [storedServers_eq hstored, ← htarget kind]
    exact servers_of_toJson hread kind
  · rw [find?_writeSchool_ne hid] at h'
    exact (storedServers_eq h').symm

theorem SchoolCreated.keepsServers {new : SchoolPayload} (h : SchoolCreated db new db') :
    KeepsServers db db' := by
  cases h with
  | created c hm _ habsent =>
    intro k s' kind h'
    rw [Database.toObjects_setMapping] at h'
    by_cases hid : k = new.id
    · subst hid
      obtain rfl : newSchool new.properties c hm = s' :=
        Option.some.inj (SchoolManager.find?_insert.symm.trans h')
      rw [storedServers, habsent]
      cases kind <;> rfl
    · have hother : db.schools.find? k = some s' :=
        (Table.find?_insert_ne hid).symm.trans h'
      exact (storedServers_eq hother).symm
  | stored c hm _ current hstored =>
    refine keepsServers_writeSchool hstored (fun kind => ?_)
    cases kind <;> rfl

theorem SchoolModified.keepsServers {new : SchoolPayload} (h : SchoolModified db new db') :
    KeepsServers db db' := by
  cases h with
  | absent _ hc => exact hc.keepsServers
  | stored c hm _ current hstored =>
    have hobjects : (db.displace .school new.dn new.id).toObjects = db.toObjects :=
      Database.toObjects_displace
    have hwritten : KeepsServers (db.displace .school new.dn new.id)
        (writeSchool (db.displace .school new.dn new.id) new.id current
          (applySchoolChanges current new.properties c hm)) := by
      refine keepsServers_writeSchool (by rw [hobjects, hstored]) (fun kind => ?_)
      cases kind <;> rfl
    intro k s' kind h'
    rw [Database.toObjects_setMapping] at h'
    have hservers := hwritten k s' kind h'
    unfold storedServers at hservers ⊢
    rwa [hobjects] at hservers

/-- An event that is not about a host group keeps the servers of every school. -/
theorem keepsServers_of_other {e : Event} (he : e.hostGroup? = none)
    (h : handle db e = .ok db') : KeepsServers db db' := by
  cases e with
  | userCreate new => exact keepsServers_of_eq (handleUserCreate_ok h).schools
  | userModify new => exact keepsServers_of_eq (handleUserModify_ok h).schools
  | userDelete old =>
    rcases ignoreNotFound_ok h with hd | ⟨rfl, -⟩
    · obtain ⟨-, rfl⟩ := UserManager.delete_eq_ok.mp hd
      exact keepsServers_of_eq rfl
    · exact keepsServers_of_eq rfl
  | groupCreate new => exact keepsServers_of_eq (handleGroupCreate_ok h).schools
  | groupModify new => exact keepsServers_of_eq (handleGroupModify_ok h).schools
  | groupDelete old =>
    rcases ignoreNotFound_ok h with hd | ⟨rfl, -⟩
    · obtain ⟨-, rfl⟩ := GroupManager.delete_eq_ok.mp hd
      exact keepsServers_of_eq rfl
    · exact keepsServers_of_eq rfl
  | schoolCreate new => exact (handleSchoolCreate_ok h).keepsServers
  | schoolModify new => exact (handleSchoolModify_ok h).keepsServers
  | schoolDelete old =>
    rcases ignoreNotFound_ok h with hd | ⟨rfl, -⟩
    · obtain ⟨-, -, rfl⟩ := SchoolManager.delete_eq_ok.mp hd
      intro k s' kind h'
      have hstored : db.schools.find? k = some s' := by
        simp only [SchoolManager.erase, Table.find?_erase] at h'
        split at h'
        · cases h'
        · exact h'
      exact (storedServers_eq hstored).symm
    · exact keepsServers_of_eq rfl
  | hostGroupCreate new => cases he
  | hostGroupModify new => cases he
  | hostGroupDelete old => cases he

/-! ## Host group events -/

/-- A pattern that matches a cached school finds a school. -/
theorem hostSchool_ne_none {schoolName : String} {id : PublicId} {s : School}
    (hs : db.schools.find? id = some s)
    (hname : globMatches (Runtime.lower schoolName).toList (Runtime.lower s.name).toList = true) :
    hostSchool db schoolName ≠ none := by
  intro hnone
  have hempty := List.head?_eq_none_iff.mp hnone
  have hmem := Table.mem_rows.mpr ((Table.find?_filter
    (fun _ s => globMatches (Runtime.lower schoolName).toList (Runtime.lower s.name).toList)
    db.schools id).trans (by rw [hs, Option.filter_some, if_pos hname]))
  rw [hempty] at hmem
  cases hmem

/-- What a handled host group event leaves of the servers of a cached school: the hosts of the
event, if the group is the school's, and else the servers as they were. -/
theorem HostGroupSet.servers {e : Event} {name : String} {hosts : Finset String}
    {id : PublicId} {s s' : School} (kind : HostGroupType) (hset : HostGroupSet db name hosts db')
    (he : e.hostGroup? = some name) (hr : RegularStep db e) (hs : db.schools.find? id = some s)
    (hs' : db'.schools.find? id = some s') :
    (NamedFor s.name kind name ∧ s'.servers kind = hosts) ∨
      (¬ NamedFor s.name kind name ∧ s'.servers kind = s.servers kind) := by
  cases hset with
  | missing schoolName k hmatch hnone =>
    obtain ⟨hname, hstar⟩ := hr.named name schoolName k he hmatch
    obtain rfl : s = s' := Option.some.inj (hs.symm.trans hs')
    refine .inr ⟨?_, rfl⟩
    rintro ⟨other, hother, hlower⟩
    obtain ⟨rfl, -⟩ := hostGroupName_inj (hname.symm.trans hother)
    exact hostSchool_ne_none hs ((globMatches_iff hstar).mpr (congrArg String.toList hlower)) hnone
  | stored schoolName k hmatch i school hfound =>
    obtain ⟨hname, hstar⟩ := hr.named name schoolName k he hmatch
    obtain ⟨hschool, hglob⟩ := hostSchool_eq_some hfound
    have hlower : Runtime.lower schoolName = Runtime.lower school.name :=
      String.toList_injective ((globMatches_iff hstar).mp hglob)
    by_cases hid : id = i
    · subst hid
      obtain rfl : s = school := Option.some.inj (hs.symm.trans hschool)
      obtain ⟨row, hrow, hread⟩ := school_written (setServers s k hosts) hs
      obtain rfl : row = s' := Option.some.inj (hrow.symm.trans hs')
      rw [servers_of_toJson hread kind]
      by_cases hkind : kind = k
      · subst hkind
        refine .inl ⟨⟨schoolName, hname, hlower⟩, ?_⟩
        cases kind <;> rfl
      · refine .inr ⟨?_, ?_⟩
        · rintro ⟨other, hother, -⟩
          exact hkind (hostGroupName_inj (hname.symm.trans hother)).2.symm
        · cases k <;> cases kind <;> first | rfl | exact absurd rfl hkind
    · rw [find?_writeSchool_ne hid] at hs'
      obtain rfl : s = s' := Option.some.inj (hs.symm.trans hs')
      refine .inr ⟨?_, rfl⟩
      rintro ⟨other, hother, hsame⟩
      obtain ⟨rfl, -⟩ := hostGroupName_inj (hname.symm.trans hother)
      exact hid (hr.distinct id i s school hs hschool (hsame.symm.trans hlower))

/-- A handled event gives a cached school new servers exactly if it is one of its host group. -/
theorem handle_servers {e : Event} {id : PublicId} {s s' : School} (kind : HostGroupType)
    (hr : RegularStep db e) (h : handle db e = .ok db') (hs : db.schools.find? id = some s)
    (hs' : db'.schools.find? id = some s') :
    GivesHosts (NamedFor s.name kind) e (s'.servers kind) ∨
      ((∀ hosts, ¬ GivesHosts (NamedFor s.name kind) e hosts) ∧
        s'.servers kind = s.servers kind) := by
  have hother : e.hostGroup? = none → (∀ hosts, ¬ GivesHosts (NamedFor s.name kind) e hosts) ∧
      s'.servers kind = s.servers kind := by
    intro he
    refine ⟨?_, ?_⟩
    · rintro hosts ⟨⟩ <;> cases he
    · exact (keepsServers_of_other he h id s' kind hs').trans (storedServers_eq hs)
  have hset : ∀ name hosts, e.hostGroup? = some name → HostGroupSet db name hosts db' →
      (∀ given, GivesHosts (NamedFor s.name kind) e given → NamedFor s.name kind name) →
      (NamedFor s.name kind name → GivesHosts (NamedFor s.name kind) e hosts) →
      GivesHosts (NamedFor s.name kind) e (s'.servers kind) ∨
        ((∀ hosts, ¬ GivesHosts (NamedFor s.name kind) e hosts) ∧
          s'.servers kind = s.servers kind) := by
    intro name hosts he hset hown hgives
    rcases hset.servers kind he hr hs hs' with ⟨hname, hservers⟩ | ⟨hname, hservers⟩
    · rw [hservers]
      exact .inl (hgives hname)
    · exact .inr ⟨fun given hgiven => hname (hown given hgiven), hservers⟩
  cases e with
  | hostGroupCreate new =>
    obtain ⟨hosts, hhosts, h⟩ := bind_eq_ok.mp h
    refine hset _ hosts rfl (setSchoolServers_outcome h) ?_ (.create new hosts · hhosts)
    rintro _ ⟨⟩
    assumption
  | hostGroupModify new =>
    obtain ⟨hosts, hhosts, h⟩ := bind_eq_ok.mp h
    refine hset _ hosts rfl (setSchoolServers_outcome h) ?_ (.modify new hosts · hhosts)
    rintro _ ⟨⟩
    assumption
  | hostGroupDelete old =>
    refine hset _ ∅ rfl (setSchoolServers_outcome h) ?_ (.delete old)
    rintro _ ⟨⟩
    assumption
  | _ => exact .inr (hother rfl)

/-! ## Runs -/

/-- The school is cached. -/
def cached (id : PublicId) (db : Database) : Bool := (db.schools.find? id).isSome

/-- The events of a run that were handled since a school was created. -/
def eventsSinceCreation (id : PublicId) (db : Database) (es : List Event) : List Event :=
  handledSince handle (cached id) db es

/-- The hosts that the last event of a school's host group gave, and none without an event. -/
def LastHosts (own : String → Prop) (evs : List Event) (hosts : Finset String) : Prop :=
  LastValue (GivesHosts own) ∅ evs hosts

/-- Every cached school has the servers that its last host group event gave it. -/
def FollowsHostGroups (id : PublicId) (evs : List Event) (db : Database) : Prop :=
  ∀ s kind, db.schools.find? id = some s →
    LastHosts (NamedFor s.name kind) evs (s.servers kind)

/-- A school that an event brings into the cache has no servers. -/
theorem servers_of_created {e : Event} {id : PublicId} {s' : School} (kind : HostGroupType)
    (h : handle db e = .ok db') (habsent : db.schools.find? id = none)
    (hs' : db'.schools.find? id = some s') : s'.servers kind = ∅ := by
  have hset : ∀ name hosts, ¬ HostGroupSet db name hosts db' := by
    intro name hosts hset
    cases hset with
    | missing _ _ _ _ => simp [habsent] at hs'
    | stored _ _ _ i school hfound =>
      have hid : id ≠ i := by
        rintro rfl
        exact absurd (hostSchool_eq_some hfound).1 (by simp [habsent])
      rw [find?_writeSchool_ne hid, habsent] at hs'
      cases hs'
  cases e with
  | hostGroupCreate new =>
    obtain ⟨hosts, -, h⟩ := bind_eq_ok.mp h
    exact absurd (setSchoolServers_outcome h) (hset _ hosts)
  | hostGroupModify new =>
    obtain ⟨hosts, -, h⟩ := bind_eq_ok.mp h
    exact absurd (setSchoolServers_outcome h) (hset _ hosts)
  | hostGroupDelete old => exact absurd (setSchoolServers_outcome h) (hset _ ∅)
  | _ =>
    rw [keepsServers_of_other rfl h id s' kind hs', storedServers, habsent]
    rfl

theorem followsHostGroups_begin {e : Event} {id : PublicId} (habsent : cached id db = false)
    (h : handle db e = .ok db') : FollowsHostGroups id [] db' := by
  intro s kind hs
  have hnone : db.schools.find? id = none := by simpa [cached] using habsent
  rw [servers_of_created kind h hnone hs]
  exact lastValue_nil

theorem followsHostGroups_step {evs : List Event} {e : Event} {id : PublicId}
    (hcached : cached id db = true) (hI : FollowsHostGroups id evs db) (hr : RegularStep db e)
    (h : handle db e = .ok db') : FollowsHostGroups id (evs ++ [e]) db' := by
  intro s' kind hs'
  obtain ⟨s, hs⟩ := Option.isSome_iff_exists.mp hcached
  have hname : s'.name = s.name := hr.kept id s s' hs (by rw [deliver_of_ok h, hs'])
  rw [hname]
  rcases handle_servers kind hr h hs hs' with hgives | ⟨hnone, hkept⟩
  · exact lastValue_set hgives
  · rw [hkept]
    exact (hI s kind hs).keep hnone

/-- The servers of a cached school are the hosts of the last create or modify event of its host
group that was handled since the school was created, and none if there was no such event or the
group was deleted afterwards. No other event changes them. -/
theorem servers_follow {roles : Table PublicId RoleModel} {es : List Event}
    (h : Along handle RegularStep (Database.initial roles) es) :
    (∀ id s kind, (replay handle (Database.initial roles) es).schools.find? id = some s →
      LastHosts (NamedFor s.name kind) (eventsSinceCreation id (Database.initial roles) es)
        (s.servers kind)) ∧
    Along handle (fun db e => ∀ id s s' kind, db.schools.find? id = some s →
      (deliver handle db e).schools.find? id = some s' →
      (∀ hosts, ¬ GivesHosts (NamedFor s.name kind) e hosts) →
      s'.servers kind = s.servers kind) (Database.initial roles) es := by
  constructor
  · intro id s kind hs
    refine handledSince_invariant (I := FollowsHostGroups id) ?_ ?_ ?_ h s kind hs
    · intro s kind hs
      simp [Database.initial] at hs
    · intro db e db' habsent _ hh
      exact followsHostGroups_begin habsent hh
    · intro evs db e db' hcached hI hr hh
      exact followsHostGroups_step hcached hI hr hh
  · refine h.imp (fun db e hr id s s' kind hs hs' hnone => ?_)
    cases hh : handle db e with
    | error x =>
      rw [deliver_of_error hh, hs] at hs'
      rw [Option.some.inj hs']
    | ok db' =>
      rw [deliver_of_ok hh] at hs'
      rcases handle_servers kind hr hh hs hs' with hgives | ⟨-, hkept⟩
      · exact absurd hgives (hnone _)
      · exact hkept

/-- The ids and names of the cached schools. -/
def schoolNames (db : Database) : List (PublicId × String) :=
  db.schools.rows.map (fun row => (row.1, row.2.name))

omit [Runtime] in
theorem mem_schoolNames {id : PublicId} {s : School} (h : db.schools.find? id = some s) :
    (id, s.name) ∈ schoolNames db :=
  List.mem_map.mpr ⟨(id, s), Table.mem_rows.mpr h, rfl⟩

theorem regularStep_of_names {e : Event}
    (distinct : ∀ p ∈ schoolNames db, ∀ q ∈ schoolNames db,
      Runtime.lower p.2 = Runtime.lower q.2 → p.1 = q.1)
    (kept : ∀ p ∈ schoolNames db, ∀ q ∈ schoolNames (deliver handle db e), p.1 = q.1 → q.2 = p.2)
    (named : ∀ name ∈ e.hostGroup?.toList, ∀ m ∈ (hostGroupMatch name).toList,
      name = hostGroupName m.1 m.2 ∧ '*' ∉ (Runtime.lower m.1).toList) : RegularStep db e where
  distinct i j s t hs ht hname := distinct _ (mem_schoolNames hs) _ (mem_schoolNames ht) hname
  kept id s s' hs hs' := kept _ (mem_schoolNames hs) _ (mem_schoolNames hs') rfl
  named name schoolName kind he hm := by
    refine named name ?_ (schoolName, kind) ?_
    · rw [he, Option.toList_some, List.mem_singleton]
    · rw [hm, Option.toList_some, List.mem_singleton]

end HostGroups

/-! ## A school with a host group -/

section

attribute [local instance] asciiRuntime

theorem cnG_ne : "cn=g" ≠ "" := by decide

def hostGroupEvent (id : PublicId) (dn name : String) (hosts : List String) (hdn : dn ≠ "") :
    HostGroupPayload where
  dn := dn
  dn_ne := hdn
  properties := { univentionObjectIdentifier := id, description := none, name := name, hosts := hosts }

/-- The run that creates a school and its educational host group. The library names the group
after the school in lower case. -/
def hostGroupRun : List Event :=
  [.schoolCreate (schoolEvent 1 "ou=A" "A" ouA_ne),
    .hostGroupCreate (hostGroupEvent 2 "cn=g" "OUa-DC-Edukativnetz" ["cn=h,ou=A"] cnG_ne)]

theorem hostGroupRun_regular :
    Along handle RegularStep (Database.initial someRoles) hostGroupRun := by
  refine ⟨regularStep_of_names ?_ ?_ ?_, regularStep_of_names ?_ ?_ ?_, trivial⟩
  all_goals decide

theorem hostGroupRun_school :
    ∃ s, (replay handle (Database.initial someRoles) hostGroupRun).schools.find? 1 = some s ∧
      s.name = "A" ∧ s.servers .edukativnetz = {"h"} := by
  obtain ⟨s, hs⟩ : ∃ s,
      (replay handle (Database.initial someRoles) hostGroupRun).schools.find? 1 = some s :=
    Option.isSome_iff_exists.mp (by decide)
  have hnames : schoolNames (replay handle (Database.initial someRoles) hostGroupRun) =
      [(1, "A")] := by decide
  have hstored : storedServers (replay handle (Database.initial someRoles) hostGroupRun) 1
      .edukativnetz = {"h"} := by decide
  refine ⟨s, hs, ?_, ?_⟩
  · simpa [hnames] using mem_schoolNames hs
  · rwa [storedServers_eq hs] at hstored

/-- The hosts of the group are the servers of the school. -/
theorem servers_follow_lowercase :
    ∃ s, (replay handle (Database.initial someRoles) hostGroupRun).schools.find? 1 = some s ∧
      s.servers .edukativnetz = {"h"} ∧
      LastHosts (NamedFor s.name .edukativnetz)
        (eventsSinceCreation 1 (Database.initial someRoles) hostGroupRun)
        (s.servers .edukativnetz) := by
  obtain ⟨s, hs, -, hservers⟩ := hostGroupRun_school
  exact ⟨s, hs, hservers, (servers_follow hostGroupRun_regular).1 1 s .edukativnetz hs⟩

/-- No event of the run is about a group named after the school in its own letter case. -/
theorem servers_of_other_case :
    Along handle RegularStep (Database.initial someRoles) hostGroupRun ∧
      ∃ s, (replay handle (Database.initial someRoles) hostGroupRun).schools.find? 1 = some s ∧
        schoolNameMatches s.name = true ∧
        ¬ LastHosts (· = hostGroupName s.name .edukativnetz)
          (eventsSinceCreation 1 (Database.initial someRoles) hostGroupRun)
          (s.servers .edukativnetz) := by
  obtain ⟨s, hs, hname, hservers⟩ := hostGroupRun_school
  have hnone : ∀ e ∈ hostGroupRun, ∀ hosts,
      ¬ GivesHosts (· = hostGroupName "A" .edukativnetz) e hosts := by
    intro e he hosts hgives
    rcases List.mem_cons.mp he with rfl | he
    · cases hgives
    · obtain rfl := List.mem_singleton.mp he
      cases hgives with
      | create _ _ hown _ => exact absurd hown (by decide)
  refine ⟨hostGroupRun_regular, s, hs, ?_, ?_⟩
  · rw [hname]
    decide
  · rw [hname, hservers]
    rintro (⟨hempty, -⟩ | ⟨pre, e, post, hevents, hgives, -⟩)
    · simp at hempty
    · have hmem : e ∈ eventsSinceCreation 1 (Database.initial someRoles) hostGroupRun := by
        simp [hevents]
      exact hnone e (mem_of_mem_handledSince hmem) _ hgives

end

end Kelvin
