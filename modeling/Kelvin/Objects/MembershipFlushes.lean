import Kelvin.Objects.MembershipPatch

/-!
# What membership patches leave

The first flush only takes the primary flag from memberships and deletes memberships, so that the
slot is free when the second one inserts and promotes. The second flush leaves the memberships of
the document where each entry states enough.

* `KeepsExact`: what an entry of a kept membership must state.
* `sound_released`, `sound_lastUnit`: the two units of work are sound.
* `memberships_exact_iff`: when the flushes are safe and leave the memberships of the document.
* `documentOf_exact`: the documents of domain users are written as `UserManager.update` has it.
-/

namespace Kelvin

section Flushes

variable [UuidRuntime]

/-- The target documents: one entry for a school, at most one of them primary, and all references
lead to stored objects. -/
structure Admissible (db : Objects) (entries : List PatchedMembership) : Prop where
  schoolsNodup : (entries.map (·.school)).Nodup
  onePrimary : ∀ e ∈ entries, ∀ e' ∈ entries, e.isPrimary = some true → e'.isPrimary = some true →
    e.school = e'.school
  schools : ∀ e ∈ entries, e.school ∈ db.schools.keys
  groups : ∀ e ∈ entries, e.groups ⊆ db.groups.keys
  roles : ∀ e ∈ entries, e.roles ⊆ db.roles.keys

/-- An entry of a kept membership states the primary flag, or the flag was not set; under a key
that is not the text of its UUID it does not ask for the removal of all groups or all roles. -/
def KeepsExact (stored : Memberships) (e : PatchedMembership) : Prop :=
  ∀ m, stored.find? e.school = some m →
    (e.isPrimary = none → m.isPrimary = false) ∧
      (e.key ≠ Runtime.uuidText e.school →
        (e.groups = ∅ → m.groups = ∅) ∧ (e.roles = ∅ → m.roles = ∅))

section Leaves

variable {db : Objects} {stored : Memberships} {entries : List PatchedMembership}
  {e : PatchedMembership} {m : SchoolMembership}

omit [UuidRuntime] in
theorem getD_false_eq_true {o : Option Bool} : o.getD false = true ↔ o = some true := by
  cases o <;> simp

omit [UuidRuntime] in
theorem syncIds_eq_iff {patched current kept : Finset PublicId} :
    syncIds patched current kept = patched ↔ (current = patched → kept = patched) := by
  unfold syncIds
  split
  · next h => simp [h]
  · next h => simp [h]

theorem syncedMembership_eq_iff (hkey : UuidRuntime.uuid e.key = some e.school)
    (hm : stored.find? e.school = some m) :
    syncedMembership stored e (demotedMembership e m) = e.membership ↔
      (e.isPrimary = none → m.isPrimary = false) ∧
        (e.key ≠ Runtime.uuidText e.school →
          (e.groups = ∅ → m.groups = ∅) ∧ (e.roles = ∅ → m.roles = ∅)) := by
  have hgroups : (demotedMembership e m).groups = m.groups := by
    unfold demotedMembership
    split <;> rfl
  have hroles : (demotedMembership e m).roles = m.roles := by
    unfold demotedMembership
    split <;> rfl
  have hflag : e.isPrimary.getD (demotedMembership e m).isPrimary = e.isPrimary.getD false ↔
      (e.isPrimary = none → m.isPrimary = false) := by
    cases h : e.isPrimary with
    | none => simp [demotedMembership, h]
    | some b => simp
  have hfields : syncedMembership stored e (demotedMembership e m) = e.membership ↔
      e.isPrimary.getD (demotedMembership e m).isPrimary = e.isPrimary.getD false ∧
        syncIds e.roles ((currentMembership? stored e.key).getD ⟨false, ∅, ∅⟩).roles m.roles =
            e.roles ∧
          syncIds e.groups ((currentMembership? stored e.key).getD ⟨false, ∅, ∅⟩).groups m.groups =
            e.groups := by
    rw [← hgroups, ← hroles]
    simp only [syncedMembership, syncMembershipLinks, flaggedMembership,
      MembershipEntry.membership, SchoolMembership.mk.injEq]
  rw [hfields, hflag, syncIds_eq_iff, syncIds_eq_iff, currentMembership?_eq hkey, hm]
  by_cases hcanonical : e.key = Runtime.uuidText e.school
  · simp [hcanonical]
  · rw [if_neg hcanonical]
    simp only [Option.getD_none, eq_comm (a := (∅ : Finset PublicId)), hcanonical, not_false_eq_true,
      true_imp_iff, ne_eq]
    constructor
    · rintro ⟨hprimary, hr, hg⟩
      exact ⟨hprimary, fun h => (hg h).trans h, fun h => (hr h).trans h⟩
    · rintro ⟨hprimary, hg, hr⟩
      exact ⟨hprimary, fun h => (hr h).trans h.symm, fun h => (hg h).trans h.symm⟩

/-- A new membership is the one that its entry describes. -/
theorem syncMembershipLinks_created (hkey : UuidRuntime.uuid e.key = some e.school)
    (hm : stored.find? e.school = none) :
    syncMembershipLinks stored e (createdMembership e) = e.membership := by
  have hcurrent : currentMembership? stored e.key = none := by
    rw [currentMembership?_eq hkey, hm, ite_self]
  have hsync : ∀ ids : Finset PublicId, syncIds ids ∅ ∅ = ids := by
    intro ids
    exact syncIds_eq_iff.mpr id
  simp [syncMembershipLinks, hcurrent, createdMembership, hsync, MembershipEntry.membership]

omit [UuidRuntime] in
/-- The session before the last loop: the demoted memberships are as they are stored. -/
theorem afterRelease_eq : afterRelease stored entries =
    { rows := (releasedSlot stored entries).objects
      objects := (releasedSlot stored entries).objects
      deleted := []
      new := [] } := by
  unfold afterRelease
  split
  · rfl
  · next hflush =>
    simp only [flushesSlot, ne_eq, decide_not, Bool.or_eq_true, Bool.not_eq_true',
      decide_eq_false_iff_not, not_or, not_not, Bool.not_eq_true] at hflush
    obtain ⟨hremoved, hdemoted⟩ := hflush
    have hsame : (demotedMemberships stored entries).1 = stored := by
      refine (foldl_demote_eq_self _ hdemoted).1.trans ?_
      ext1 k
      rw [hremoved, Table.find?_filter]
      cases stored.find? k <;> rfl
    simp only [releasedSlot, hsame, hremoved]

omit [UuidRuntime] in
theorem mem_removedSchools {k : PublicId} :
    k ∈ removedSchools stored entries ↔ k ∈ stored.keys ∧ ∀ e ∈ entries, e.school ≠ k := by
  simp [removedSchools, Table.keys, eq_comm]

omit [UuidRuntime] in
/-- The object of a kept membership. -/
theorem find?_released_of_mem (hnodup : (entries.map (·.school)).Nodup) (he : e ∈ entries) :
    (releasedSlot stored entries).objects.find? e.school =
      (stored.find? e.school).map (demotedMembership e) := by
  have hkept : (stored.filter (fun school _ => school ∉ removedSchools stored entries)).find?
      e.school = stored.find? e.school := by
    have hmem : e.school ∉ removedSchools stored entries := fun h =>
      (mem_removedSchools.mp h).2 e he rfl
    rw [Table.find?_filter]
    cases stored.find? e.school <;> simp [hmem]
  rw [← hkept]
  exact Table.find?_foldl_of_mem Prod.fst find?_demote hnodup he

omit [UuidRuntime] in
theorem find?_released_of_not_mem {k : PublicId} (hk : ∀ e ∈ entries, e.school ≠ k) :
    (releasedSlot stored entries).objects.find? k = none := by
  have hkept : (stored.filter (fun school _ => school ∉ removedSchools stored entries)).find? k =
      none := by
    rw [Table.find?_filter]
    cases hm : stored.find? k with
    | none => rfl
    | some m =>
      have hmem : k ∈ removedSchools stored entries :=
        mem_removedSchools.mpr ⟨Table.mem_keys_of_find? hm, hk⟩
      simp [hmem]
  exact (Table.find?_foldl_of_not_mem Prod.fst find?_demote hk).trans hkept

omit [UuidRuntime] in
theorem sound_released (hnodup : (entries.map (·.school)).Nodup) :
    (releasedSlot stored entries).Sound where
  stored := by
    intro k
    by_cases hk : ∀ e ∈ entries, e.school ≠ k
    · have hobject : k ∉ (releasedSlot stored entries).objects.keys :=
        Table.not_mem_keys.mpr (find?_released_of_not_mem hk)
      change k ∈ stored.keys ↔ _ ∨ k ∈ removedSchools stored entries
      rw [mem_removedSchools]
      simp only [hobject, false_or]
      exact ⟨fun h => ⟨h, hk⟩, fun h => h.1⟩
    · push Not at hk
      obtain ⟨e, he, rfl⟩ := hk
      have hobject : e.school ∈ (releasedSlot stored entries).objects.keys ↔
          e.school ∈ stored.keys := by
        rw [Table.mem_keys, find?_released_of_mem hnodup he, Table.mem_keys]
        simp
      change e.school ∈ stored.keys ↔ _ ∨ e.school ∈ removedSchools stored entries
      rw [hobject, mem_removedSchools]
      exact ⟨.inl, fun h => h.elim id (fun h => h.1)⟩
  disjoint := by
    intro k hk
    exact Table.not_mem_keys.mpr (find?_released_of_not_mem (mem_removedSchools.mp hk).2)
  deletedNodup := stored.nodup_keys.filter _
  fresh := by intro n hn; cases hn
  newNodup := .nil

/-- What the session holds at the end. -/
def lastUnit (stored : Memberships) (entries : List PatchedMembership) :
    UnitOfWork PublicId SchoolMembership :=
  entries.foldl (syncPatched stored) (afterRelease stored entries)

theorem lastUnit_rows : (lastUnit stored entries).rows = (releasedSlot stored entries).objects ∧
    (lastUnit stored entries).deleted = [] := by
  obtain ⟨hrows, hdeleted⟩ :=
    @rows_syncPatched _ stored entries (afterRelease stored entries)
  rw [lastUnit, hrows, hdeleted, afterRelease_eq]
  exact ⟨rfl, rfl⟩

theorem mem_lastUnit_new {n : PublicId × SchoolMembership} :
    n ∈ (lastUnit stored entries).new ↔
      ∃ e ∈ entries, (releasedSlot stored entries).objects.find? e.school = none ∧
        n = (e.school, syncMembershipLinks stored e (createdMembership e)) := by
  rw [lastUnit, new_syncPatched, afterRelease_eq]
  simp [eq_comm, and_assoc]

theorem find?_lastUnit_of_mem (hnodup : (entries.map (·.school)).Nodup) (he : e ∈ entries) :
    (lastUnit stored entries).objects.find? e.school =
      (stored.find? e.school).map
        (fun m => syncedMembership stored e (demotedMembership e m)) := by
  have hloop := Table.find?_foldl_of_mem (s := afterRelease stored entries) UnitOfWork.objects
    (@find?_syncPatched _ stored) hnodup he
  rw [lastUnit, hloop, afterRelease_eq]
  change ((releasedSlot stored entries).objects.find? e.school).map _ = _
  rw [find?_released_of_mem hnodup he, Option.map_map]
  rfl

theorem find?_lastUnit_of_not_mem {k : PublicId} (hk : ∀ e ∈ entries, e.school ≠ k) :
    (lastUnit stored entries).objects.find? k = none := by
  have hloop := Table.find?_foldl_of_not_mem (s := afterRelease stored entries) UnitOfWork.objects
    (@find?_syncPatched _ stored) hk
  rw [lastUnit, hloop, afterRelease_eq]
  exact find?_released_of_not_mem hk

theorem sound_lastUnit (hnodup : (entries.map (·.school)).Nodup) :
    (lastUnit stored entries).Sound where
  stored := by
    intro k
    rw [lastUnit_rows.1, lastUnit_rows.2]
    simp only [List.not_mem_nil, or_false]
    by_cases hk : ∀ e ∈ entries, e.school ≠ k
    · rw [← not_iff_not, Table.not_mem_keys, Table.not_mem_keys, find?_released_of_not_mem hk,
        find?_lastUnit_of_not_mem hk]
    · push Not at hk
      obtain ⟨e, he, rfl⟩ := hk
      rw [← not_iff_not, Table.not_mem_keys, Table.not_mem_keys, find?_released_of_mem hnodup he,
        find?_lastUnit_of_mem hnodup he, Option.map_eq_none_iff, Option.map_eq_none_iff]
  disjoint := by
    intro k hk
    rw [lastUnit_rows.2] at hk
    cases hk
  deletedNodup := by
    rw [lastUnit_rows.2]
    exact .nil
  fresh := by
    intro n hn
    obtain ⟨e, -, hnone, rfl⟩ := mem_lastUnit_new.mp hn
    rw [lastUnit_rows.1]
    exact Table.not_mem_keys.mpr hnone
  newNodup := by
    rw [lastUnit, new_syncPatched, afterRelease_eq, List.nil_append, List.map_map]
    exact hnodup.sublist (List.filter_sublist.map _)

/-- The memberships at the end. -/
theorem find?_flushed_lastUnit (hkey : UuidRuntime.uuid e.key = some e.school)
    (hnodup : (entries.map (·.school)).Nodup) (he : e ∈ entries) :
    (lastUnit stored entries).flushed.find? e.school =
      some ((stored.find? e.school).elim e.membership
        (fun m => syncedMembership stored e (demotedMembership e m))) := by
  cases hm : stored.find? e.school with
  | none =>
    have hnone : (releasedSlot stored entries).objects.find? e.school = none := by
      rw [find?_released_of_mem hnodup he, hm, Option.map_none]
    have hnew : (e.school, e.membership) ∈ (lastUnit stored entries).new := by
      refine mem_lastUnit_new.mpr ⟨e, he, hnone, ?_⟩
      rw [syncMembershipLinks_created hkey hm]
    exact (sound_lastUnit hnodup).find?_flushed_new hnew
  | some m =>
    have hobject := @find?_lastUnit_of_mem _ stored entries e hnodup he
    rw [hm, Option.map_some] at hobject
    have hold : ∀ n ∈ (lastUnit stored entries).new, n.1 ≠ e.school := by
      intro n hn hschool
      obtain ⟨e', -, hnone, rfl⟩ := mem_lastUnit_new.mp hn
      dsimp only at hschool
      rw [hschool, find?_released_of_mem hnodup he, hm] at hnone
      cases hnone
    rw [UnitOfWork.find?_flushed_of_not_new hold, hobject]
    rfl

theorem find?_flushed_lastUnit_of_not_mem {k : PublicId} (hk : ∀ e ∈ entries, e.school ≠ k) :
    (lastUnit stored entries).flushed.find? k = none := by
  rw [UnitOfWork.find?_flushed_of_not_new, find?_lastUnit_of_not_mem hk]
  intro n hn
  obtain ⟨e, he, -, rfl⟩ := mem_lastUnit_new.mp hn
  exact hk e he

omit [UuidRuntime] in
theorem find?_documentMemberships (hnodup : (entries.map (·.school)).Nodup) (he : e ∈ entries) :
    (documentMemberships entries).find? e.school = some e.membership := by
  have hkeys : ((entries.map (fun e => Statement.insert e.school e.membership)).map
      Statement.key).Nodup := by
    rw [List.map_map]
    exact hnodup
  exact find?_runAll_of_mem hkeys (List.mem_map_of_mem he)

omit [UuidRuntime] in
theorem find?_documentMemberships_of_not_mem {k : PublicId} (hk : ∀ e ∈ entries, e.school ≠ k) :
    (documentMemberships entries).find? k = none := by
  refine (find?_runAll_of_not_mem ?_).trans (Table.find?_empty k)
  intro s hs
  obtain ⟨e, he, rfl⟩ := List.mem_map.mp hs
  exact hk e he

/-- The memberships at the end are those of the document, if and only if every entry of a kept
membership states enough. -/
theorem flushed_lastUnit_eq_iff (hkeys : ∀ e ∈ entries, UuidRuntime.uuid e.key = some e.school)
    (hnodup : (entries.map (·.school)).Nodup) :
    (lastUnit stored entries).flushed = documentMemberships entries ↔
      ∀ e ∈ entries, KeepsExact stored e := by
  constructor
  · intro h e he m hm
    have hafter := @find?_flushed_lastUnit _ stored entries e (hkeys e he) hnodup he
    rw [h, find?_documentMemberships hnodup he, hm, Option.some_inj] at hafter
    exact (syncedMembership_eq_iff (hkeys e he) hm).mp hafter.symm
  · intro h
    ext1 k
    by_cases hk : ∀ e ∈ entries, e.school ≠ k
    · rw [find?_flushed_lastUnit_of_not_mem hk, find?_documentMemberships_of_not_mem hk]
    · push Not at hk
      obtain ⟨e, he, rfl⟩ := hk
      rw [find?_flushed_lastUnit (hkeys e he) hnodup he, find?_documentMemberships hnodup he]
      cases hm : stored.find? e.school with
      | none => rfl
      | some m =>
        rw [Option.some_inj]
        exact (syncedMembership_eq_iff (hkeys e he) hm).mpr (h e he m hm)

theorem key_of_readKey {patched : List (String × MembershipEntry)}
    (hread : patched.mapM readKey = .ok entries) :
    ∀ e ∈ entries, UuidRuntime.uuid e.key = some e.school := by
  intro e he
  obtain ⟨entry, -, hentry⟩ := exists_of_mem_right (mapM_eq_ok.mp hread) he
  obtain ⟨huuid, hkey, -⟩ := readKey_eq_ok.mp hentry
  rw [hkey]
  exact huuid

/-- All fetches of an admissible document succeed. -/
theorem applyMembershipRelationChanges_eq {patched : List (String × MembershipEntry)}
    (hread : patched.mapM readKey = .ok entries) (ha : Admissible db entries) :
    applyMembershipRelationChanges db stored patched =
      .ok (if flushesSlot stored entries then
        [releasedSlot stored entries, lastUnit stored entries] else [lastUnit stored entries]) := by
  have hfetch : ∀ e ∈ entries, ∀ u, fetchPatched db stored u e = .ok () := by
    intro e he u
    have hschool : onlyIf (u.objects.find? e.school = none)
        (bulkFetch "School" db.schools.keys {e.school}) = .ok () := by
      refine onlyIf_eq_ok.mpr fun _ => bulkFetch_eq_ok.mpr ?_
      exact Finset.singleton_subset_iff.mpr (ha.schools e he)
    have hlinks : fetchMembershipLinks db stored e = .ok () := by
      refine bind_eq_ok.mpr ⟨(), ?_, ?_⟩
      · exact syncCollection_eq_ok.mpr (.inr (ha.groups e he))
      · exact syncCollection_eq_ok.mpr (.inr (ha.roles e he))
    exact bind_eq_ok.mpr ⟨(), hschool, hlinks⟩
  refine bind_eq_ok.mpr ⟨entries, hread, bind_eq_ok.mpr ⟨lastUnit stored entries, ?_, rfl⟩⟩
  exact foldlM_of_checks hfetch _

/-- The rows that the last flush starts from, where it is the only one. -/
theorem lastUnit_rows_of_not_flushesSlot (hflush : ¬ flushesSlot stored entries = true) :
    (lastUnit stored entries).rows = stored := by
  rw [lastUnit, (rows_syncPatched _).1, afterRelease, if_neg hflush]
  rfl

omit [UuidRuntime] in
/-- The flush that releases the slot only takes the flag from memberships. -/
theorem accepted_released (hnodup : (entries.map (·.school)).Nodup) (hone : UniquePrimary stored)
    {statements : List (Statement PublicId SchoolMembership)}
    (h : (releasedSlot stored entries).Emits statements) :
    Accepted UniquePrimary stored statements := by
  refine (sound_released hnodup).accepted
    (fun k => ∃ m, stored.find? k = some m ∧ m.isPrimary = true) ?_ ?_ ?_ ?_ h
  · rintro k k' ⟨m, hm, hp⟩ ⟨m', hm', hp'⟩
    exact atMostOne_iff.mp hone _ _ _ _ hm hm' hp hp'
  · exact fun k m hm hp => ⟨m, hm, hp⟩
  · intro n hn
    cases hn
  · intro k m hm hp
    by_cases hk : ∀ e ∈ entries, e.school ≠ k
    · rw [find?_released_of_not_mem hk] at hm
      cases hm
    · push Not at hk
      obtain ⟨e, he, rfl⟩ := hk
      rw [find?_released_of_mem hnodup he] at hm
      obtain ⟨m', hm', rfl⟩ := Option.map_eq_some_iff.mp hm
      refine ⟨m', hm', ?_⟩
      unfold demotedMembership at hp
      split at hp
      · cases hp
      · exact hp

/-- In the last flush only the primary membership of the document is or becomes primary. -/
theorem accepted_lastUnit (ha : Admissible db entries)
    (hkeys : ∀ e ∈ entries, UuidRuntime.uuid e.key = some e.school)
    (hkeep : ∀ e ∈ entries, KeepsExact stored e)
    {statements : List (Statement PublicId SchoolMembership)}
    (h : (lastUnit stored entries).Emits statements) :
    Accepted UniquePrimary (lastUnit stored entries).rows statements := by
  have hnodup := ha.schoolsNodup
  refine (sound_lastUnit hnodup).accepted
    (fun k => ∃ e ∈ entries, e.school = k ∧ e.isPrimary = some true) ?_ ?_ ?_ ?_ h
  · rintro k k' ⟨e, he, rfl, hp⟩ ⟨e', he', rfl, hp'⟩
    exact ha.onePrimary e he e' he' hp hp'
  · -- a membership that is still primary was not demoted, and its entry states the flag
    intro k m hm hp
    rw [lastUnit_rows.1] at hm
    by_cases hk : ∀ e ∈ entries, e.school ≠ k
    · rw [find?_released_of_not_mem hk] at hm
      cases hm
    · push Not at hk
      obtain ⟨e, he, rfl⟩ := hk
      rw [find?_released_of_mem hnodup he] at hm
      obtain ⟨m', hm', rfl⟩ := Option.map_eq_some_iff.mp hm
      refine ⟨e, he, rfl, ?_⟩
      unfold demotedMembership at hp
      split at hp
      · cases hp
      · next hcond =>
        cases hflag : e.isPrimary with
        | none => exact absurd hp (by simp [(hkeep e he m' hm').1 hflag])
        | some b =>
          cases b with
          | false => exact absurd ⟨hp, by rw [hflag]; rfl⟩ hcond
          | true => rfl
  · intro n hn hp
    obtain ⟨e, he, -, rfl⟩ := mem_lastUnit_new.mp hn
    exact ⟨e, he, rfl, getD_false_eq_true.mp hp⟩
  · intro k m hm hp
    by_cases hk : ∀ e ∈ entries, e.school ≠ k
    · rw [find?_lastUnit_of_not_mem hk] at hm
      cases hm
    · push Not at hk
      obtain ⟨e, he, rfl⟩ := hk
      rw [find?_lastUnit_of_mem hnodup he] at hm
      obtain ⟨m', hm', rfl⟩ := Option.map_eq_some_iff.mp hm
      rw [(syncedMembership_eq_iff (hkeys e he) hm').mpr (hkeep e he m' hm')] at hp
      exact ⟨e, he, rfl, getD_false_eq_true.mp hp⟩

theorem applyMembershipRelationChanges_leaves_iff {patched : List (String × MembershipEntry)}
    (hone : UniquePrimary stored) (hread : patched.mapM readKey = .ok entries)
    (ha : Admissible db entries) :
    (∃ flushes, applyMembershipRelationChanges db stored patched = .ok flushes ∧
        UnitOfWork.Leaves UniquePrimary (documentMemberships entries) stored flushes) ↔
      ∀ e ∈ entries, KeepsExact stored e := by
  have hnodup := ha.schoolsNodup
  have hkeys := key_of_readKey hread
  have hlast : UnitOfWork.Leaves UniquePrimary (documentMemberships entries)
      (lastUnit stored entries).rows [lastUnit stored entries] ↔
        ∀ e ∈ entries, KeepsExact stored e := by
    rw [(sound_lastUnit hnodup).leaves_cons_iff, UnitOfWork.Leaves,
      flushed_lastUnit_eq_iff hkeys hnodup]
    exact ⟨fun h => h.2, fun h => ⟨fun _ => accepted_lastUnit ha hkeys h, h⟩⟩
  simp only [applyMembershipRelationChanges_eq hread ha, Except.ok.injEq, exists_eq_left']
  split
  · have hrows : (releasedSlot stored entries).flushed = (lastUnit stored entries).rows :=
      lastUnit_rows.1.symm
    change UnitOfWork.Leaves _ _ (releasedSlot stored entries).rows _ ↔ _
    rw [(sound_released hnodup).leaves_cons_iff, hrows, hlast]
    exact ⟨fun h => h.2, fun h => ⟨fun _ => accepted_released hnodup hone, h⟩⟩
  · next hflush => rw [← hlast, lastUnit_rows_of_not_flushesSlot hflush]

omit [UuidRuntime] in
theorem uniquePrimary_toUser {db : Objects} {id : PublicId} {model : UserModel}
    (hone : AtMostOnePrimary model.schoolMemberships) :
    UniquePrimary (toUser db id model).schoolMemberships := by
  rw [UniquePrimary, atMostOne_iff]
  intro k m k' m' hm hm' hp hp'
  rw [toUser, Table.find?_mapVals] at hm hm'
  obtain ⟨row, hrow, rfl⟩ := Option.map_eq_some_iff.mp hm
  obtain ⟨row', hrow', rfl⟩ := Option.map_eq_some_iff.mp hm'
  exact hone _ (Table.mem_rows.mpr hrow) _ (Table.mem_rows.mpr hrow') hp hp'

/-- The flushes of a membership patch violate no constraint in any order and leave the memberships
of the document, if and only if every entry of a kept membership states enough. -/
theorem memberships_exact_iff {db : Database} {id : PublicId} {model : UserModel}
    {patched : List (String × MembershipEntry)} (hstored : db.users.find? id = some model)
    (hone : AtMostOnePrimary model.schoolMemberships) (hread : patched.mapM readKey = .ok entries)
    (ha : Admissible db.toObjects entries) :
    (∃ flushes, UserManager.modifyMemberships db id patched = .ok flushes ∧
        UnitOfWork.Leaves UniquePrimary (documentMemberships entries)
          (toUser db.toObjects id model).schoolMemberships flushes) ↔
      ∀ e ∈ entries, KeepsExact (toUser db.toObjects id model).schoolMemberships e := by
  have happly : UserManager.modifyMemberships db id patched =
      applyMembershipRelationChanges db.toObjects
        (toUser db.toObjects id model).schoolMemberships patched := by
    rw [UserManager.modifyMemberships, hstored]
  rw [happly]
  exact applyMembershipRelationChanges_leaves_iff (uniquePrimary_toUser hone) hread ha

/-! ## Documents of domain users -/

/-- The memberships of the document of a domain user. -/
def documentOf (memberships : Memberships) : List (String × MembershipEntry) :=
  memberships.rows.map (fun m => (Runtime.uuidText m.1, ⟨some m.2.isPrimary, m.2.groups, m.2.roles⟩))

/-- The same with the keys read. -/
def entriesOf (memberships : Memberships) : List PatchedMembership :=
  memberships.rows.map (fun m =>
    { isPrimary := some m.2.isPrimary
      groups := m.2.groups
      roles := m.2.roles
      key := Runtime.uuidText m.1
      school := m.1 })

theorem readKey_documentOf (memberships : Memberships) :
    (documentOf memberships).mapM readKey = .ok (entriesOf memberships) := by
  rw [mapM_eq_ok, documentOf, entriesOf, List.forall₂_map_left_iff, List.forall₂_map_right_iff,
    List.forall₂_same]
  intro m _
  rw [readKey_eq_ok]
  exact ⟨UuidRuntime.uuid_uuidText _, rfl, rfl⟩

theorem nodup_entriesOf (memberships : Memberships) :
    ((entriesOf memberships).map (·.school)).Nodup := by
  rw [entriesOf, List.map_map]
  exact memberships.nodup_keys

theorem documentMemberships_entriesOf (memberships : Memberships) :
    documentMemberships (entriesOf memberships) = memberships := by
  ext1 k
  cases hm : memberships.find? k with
  | none =>
    refine find?_documentMemberships_of_not_mem ?_
    intro e he
    obtain ⟨m, hmem, rfl⟩ := List.mem_map.mp he
    rintro rfl
    rw [Table.mem_rows.mp hmem] at hm
    cases hm
  | some m =>
    have he := List.mem_map_of_mem (f := fun m : PublicId × SchoolMembership =>
      ({ isPrimary := some m.2.isPrimary
         groups := m.2.groups
         roles := m.2.roles
         key := Runtime.uuidText m.1
         school := m.1 } : PatchedMembership)) (Table.mem_rows.mpr hm)
    exact find?_documentMemberships (nodup_entriesOf memberships) he

/-- The entries of a domain user state everything. -/
theorem keepsExact_of_mem_entriesOf {target : Memberships} (he : e ∈ entriesOf target) :
    KeepsExact stored e := by
  intro m _
  obtain ⟨m', -, rfl⟩ := List.mem_map.mp he
  exact ⟨(fun h => nomatch h), fun h => absurd rfl h⟩

/-- The memberships of a domain user are written without a violation, whatever is stored: what
`UserManager.update` writes at once is what the flushes leave. -/
theorem documentOf_exact {target : Memberships} (hone : UniquePrimary stored)
    (htarget : UniquePrimary target) (hschools : target.keys ⊆ db.schools.keys)
    (hgroups : ∀ s m, target.find? s = some m → m.groups ⊆ db.groups.keys)
    (hroles : ∀ s m, target.find? s = some m → m.roles ⊆ db.roles.keys) :
    ∃ flushes, applyMembershipRelationChanges db stored (documentOf target) = .ok flushes ∧
      UnitOfWork.Leaves UniquePrimary target stored flushes := by
  have ha : Admissible db (entriesOf target) := by
    refine ⟨nodup_entriesOf target, ?_, ?_, ?_, ?_⟩
    · intro e he e' he' hp hp'
      obtain ⟨m, hm, rfl⟩ := List.mem_map.mp he
      obtain ⟨m', hm', rfl⟩ := List.mem_map.mp he'
      exact htarget m hm m' hm' (Option.some.inj hp) (Option.some.inj hp')
    · intro e he
      obtain ⟨m, hm, rfl⟩ := List.mem_map.mp he
      exact hschools (Table.mem_keys_of_find? (Table.mem_rows.mp hm))
    · intro e he
      obtain ⟨m, hm, rfl⟩ := List.mem_map.mp he
      exact hgroups m.1 m.2 (Table.mem_rows.mp hm)
    · intro e he
      obtain ⟨m, hm, rfl⟩ := List.mem_map.mp he
      exact hroles m.1 m.2 (Table.mem_rows.mp hm)
  have hleaves := (applyMembershipRelationChanges_leaves_iff hone (readKey_documentOf target)
    ha).mpr (fun _ => keepsExact_of_mem_entriesOf)
  rwa [documentMemberships_entriesOf] at hleaves

end Leaves

end Flushes

/-! ## A student that leaves its class -/

section

attribute [local instance] asciiUuidRuntime

/-- The database with the class and its only member. -/
def withClassmate : Database :=
  (created.bind (fun db => GroupManager.modify db 5 (classOf 1 {3}))).toOption.getD
    (Database.initial .empty)

/-- The student of the class. -/
def classmate : UserModel where
  toUserColumns := (studentOf 1 "u").toUserColumns
  schoolMemberships := Table.empty.insert 1 ⟨true, {1}⟩

/-- The document without groups, with some text for the UUID of the school. -/
def leavesClass (key : String) : List (String × MembershipEntry) := [(key, ⟨some true, ∅, {1}⟩)]

def leavesClassEntries (key : String) : List PatchedMembership :=
  [{ isPrimary := some true, groups := ∅, roles := {1}, key := key, school := 1 }]

theorem admissible_leavesClass (key : String) :
    Admissible withClassmate.toObjects (leavesClassEntries key) where
  schoolsNodup := List.nodup_singleton _
  onePrimary := by
    intro e he e' he' _ _
    rw [List.mem_singleton.mp he, List.mem_singleton.mp he']
  schools := by
    intro e he
    cases List.mem_singleton.mp he
    change (1 : PublicId) ∈ _
    decide
  groups := by
    intro e he
    cases List.mem_singleton.mp he
    exact Finset.empty_subset _
  roles := by
    intro e he
    cases List.mem_singleton.mp he
    change ({1} : Finset PublicId) ⊆ _
    decide

/-- The document with the text of the UUID is written. -/
theorem memberships_exact_classmate :
    (∃ flushes, UserManager.modifyMemberships withClassmate 3 (leavesClass "1") = .ok flushes ∧
        UnitOfWork.Leaves UniquePrimary (documentMemberships (leavesClassEntries "1"))
          (toUser withClassmate.toObjects 3 classmate).schoolMemberships flushes) ↔
      ∀ e ∈ leavesClassEntries "1",
        KeepsExact (toUser withClassmate.toObjects 3 classmate).schoolMemberships e :=
  memberships_exact_iff (by decide) (by decide) (by decide)
    (admissible_leavesClass "1")

/-- With another text for the same UUID the student stays in the class. -/
theorem classmate_stays :
    ¬ ∀ (db : Database) (id : PublicId) (model : UserModel)
      (patched : List (String × MembershipEntry)) (entries : List PatchedMembership),
      db.users.find? id = some model → AtMostOnePrimary model.schoolMemberships →
        patched.mapM readKey = .ok entries → Admissible db.toObjects entries →
          ∃ flushes, UserManager.modifyMemberships db id patched = .ok flushes ∧
            UnitOfWork.Leaves UniquePrimary (documentMemberships entries)
              (toUser db.toObjects id model).schoolMemberships flushes := by
  intro h
  have hread : (leavesClass "I").mapM readKey = .ok (leavesClassEntries "I") := by
    decide
  obtain ⟨flushes, hflushes, hleaves⟩ := h withClassmate 3 classmate (leavesClass "I")
    (leavesClassEntries "I") (by decide) (by decide) hread
    (admissible_leavesClass "I")
  have hone : UniquePrimary (toUser withClassmate.toObjects 3 classmate).schoolMemberships :=
    uniquePrimary_toUser (by decide)
  have hkeep := (applyMembershipRelationChanges_leaves_iff hone hread
    (admissible_leavesClass "I")).mp ⟨flushes, hflushes, hleaves⟩ _ (List.mem_singleton_self _)
    ⟨true, {1}, {5}⟩ (by decide)
  have hgroups := (hkeep.2 (by decide)).1 rfl
  exact absurd hgroups (by decide)

end

end Kelvin
