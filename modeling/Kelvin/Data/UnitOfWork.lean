import Kelvin.Data.Table

/-!
# Flushes of a unit of work

A session collects changes of the rows of a table and emits them as statements when it is flushed:
the inserts and the updates in some order, and then the deletes. Constraints are checked at every
statement.

* `Statement`, `Accepted`: statements, and lists of which each statement leaves a valid table.
* `accepted_of_slot`: rows of one kind that share one slot are accepted in any order.
* `UnitOfWork`, `Emits`: what a session holds, and the lists of statements of its flush.
* `Sound.runAll_emits`, `Sound.leaves_cons_iff`: the flush leaves the same table in any order.
-/

namespace Kelvin

/-- A statement on the rows of a table. -/
inductive Statement (κ ρ : Type*) where
  | insert (k : κ) (r : ρ)
  | update (k : κ) (r : ρ)
  | delete (k : κ)

variable {κ ρ : Type*} [LinearOrder κ]

namespace Statement

def key : Statement κ ρ → κ
  | insert k _ => k
  | update k _ => k
  | delete k => k

/-- The row that the statement leaves under its key. -/
def row? : Statement κ ρ → Option ρ
  | insert _ r => some r
  | update _ r => some r
  | delete _ => none

/-- An insert needs a free key, and the other statements a row. -/
def Fits (t : Table κ ρ) : Statement κ ρ → Prop
  | insert k _ => k ∉ t.keys
  | update k _ => k ∈ t.keys
  | delete k => k ∈ t.keys

instance (t : Table κ ρ) (s : Statement κ ρ) : Decidable (s.Fits t) :=
  match s with
  | insert k _ => inferInstanceAs (Decidable (k ∉ t.keys))
  | update k _ => inferInstanceAs (Decidable (k ∈ t.keys))
  | delete k => inferInstanceAs (Decidable (k ∈ t.keys))

def run (t : Table κ ρ) : Statement κ ρ → Table κ ρ
  | insert k r => t.insert k r
  | update k r => t.insert k r
  | delete k => t.erase k

theorem find?_run (t : Table κ ρ) (s : Statement κ ρ) (k : κ) :
    (s.run t).find? k = if k = s.key then s.row? else t.find? k := by
  cases s with
  | insert k' r => exact Table.find?_insert t k' k r
  | update k' r => exact Table.find?_insert t k' k r
  | delete k' => exact Table.find?_erase t k' k

/-- A statement under another key does not matter. -/
theorem fits_run {t : Table κ ρ} {s s' : Statement κ ρ} (h : s.key ≠ s'.key) :
    s.Fits (s'.run t) ↔ s.Fits t := by
  have hkey : s.key ∈ (s'.run t).keys ↔ s.key ∈ t.keys := by
    rw [Table.mem_keys, Table.mem_keys, find?_run, if_neg h]
  cases s with
  | insert k r => exact not_congr hkey
  | update k r => exact hkey
  | delete k => exact hkey

end Statement

/-- The table after a list of statements. -/
def runAll (t : Table κ ρ) (statements : List (Statement κ ρ)) : Table κ ρ :=
  statements.foldl Statement.run t

/-- Every statement fits and leaves a valid table. -/
def Accepted (Valid : Table κ ρ → Prop) : Table κ ρ → List (Statement κ ρ) → Prop
  | _, [] => True
  | t, s :: statements =>
    s.Fits t ∧ Valid (s.run t) ∧ Accepted Valid (s.run t) statements

instance decidableAccepted (Valid : Table κ ρ → Prop) [DecidablePred Valid] (t : Table κ ρ)
    (statements : List (Statement κ ρ)) : Decidable (Accepted Valid t statements) :=
  match statements with
  | [] => .isTrue trivial
  | s :: statements =>
    have := decidableAccepted Valid (s.run t) statements
    inferInstanceAs (Decidable (s.Fits t ∧ Valid (s.run t) ∧ Accepted Valid (s.run t) statements))

/-- A unique constraint for the rows of one kind: all of them stand under the same key. -/
def AtMostOne (p : ρ → Prop) (t : Table κ ρ) : Prop :=
  ∀ a ∈ t.rows, ∀ b ∈ t.rows, p a.2 → p b.2 → a.1 = b.1

instance (p : ρ → Prop) [DecidablePred p] (t : Table κ ρ) : Decidable (AtMostOne p t) :=
  inferInstanceAs (Decidable (∀ a ∈ t.rows, ∀ b ∈ t.rows, p a.2 → p b.2 → a.1 = b.1))

theorem atMostOne_iff {p : ρ → Prop} {t : Table κ ρ} : AtMostOne p t ↔
    ∀ k r k' r', t.find? k = some r → t.find? k' = some r' → p r → p r' → k = k' := by
  simp only [AtMostOne, Prod.forall, Table.mem_rows]
  exact ⟨fun h k r k' r' hr hr' => h k r hr k' r' hr', fun h k r hr k' r' hr' =>
    h k r k' r' hr hr'⟩

section Statements

variable {t : Table κ ρ} {statements : List (Statement κ ρ)} {s : Statement κ ρ} {k : κ}

theorem find?_runAll_of_not_mem (h : ∀ s ∈ statements, s.key ≠ k) :
    (runAll t statements).find? k = t.find? k := by
  induction statements generalizing t with
  | nil => rfl
  | cons s statements ih =>
    rw [List.forall_mem_cons] at h
    rw [runAll, List.foldl_cons]
    exact (ih h.2).trans (by rw [Statement.find?_run, if_neg h.1.symm])

theorem find?_runAll_of_mem (hnodup : (statements.map Statement.key).Nodup)
    (hs : s ∈ statements) : (runAll t statements).find? s.key = s.row? := by
  induction statements generalizing t with
  | nil => cases hs
  | cons s' statements ih =>
    rw [List.map_cons, List.nodup_cons] at hnodup
    rw [runAll, List.foldl_cons]
    rcases List.mem_cons.mp hs with rfl | hs
    · -- no later statement is about this key
      have hlater : ∀ s' ∈ statements, s'.key ≠ s.key := fun s' hs' hkey =>
        hnodup.1 (hkey ▸ List.mem_map_of_mem hs')
      refine (find?_runAll_of_not_mem hlater).trans ?_
      rw [Statement.find?_run, if_pos rfl]
    · exact ih hnodup.2 hs

/-- Statements under different keys are accepted in any order, if all rows of the kind `p` that
they find and write stand in one slot. -/
theorem accepted_of_slot {p : ρ → Prop} {slot : κ → Prop}
    (hslot : ∀ k k', slot k → slot k' → k = k') (hnodup : (statements.map Statement.key).Nodup)
    (hfits : ∀ s ∈ statements, s.Fits t) (hrows : ∀ k r, t.find? k = some r → p r → slot k)
    (hwrites : ∀ s ∈ statements, ∀ r, s.row? = some r → p r → slot s.key) :
    Accepted (AtMostOne p) t statements := by
  induction statements generalizing t with
  | nil => trivial
  | cons s statements ih =>
    rw [List.map_cons, List.nodup_cons] at hnodup
    rw [List.forall_mem_cons] at hfits hwrites
    have hrows' : ∀ k r, (s.run t).find? k = some r → p r → slot k := by
      intro k r hr hp
      rw [Statement.find?_run] at hr
      split at hr
      · next hk => exact hk ▸ hwrites.1 r hr hp
      · exact hrows k r hr hp
    refine ⟨hfits.1, ?_, ?_⟩
    · rw [atMostOne_iff]
      intro k r k' r' hr hr' hp hp'
      exact hslot k k' (hrows' k r hr hp) (hrows' k' r' hr' hp')
    · refine ih hnodup.2 ?_ hrows' hwrites.2
      intro s' hs'
      have hkey : s'.key ≠ s.key := fun h => hnodup.1 (h ▸ List.mem_map_of_mem hs')
      exact (Statement.fits_run hkey).mpr (hfits.2 s' hs')

end Statements

/-! ## Units of work -/

/-- What a session holds of a table: the rows as they are stored, the objects of rows that stay,
with the values they have now, the keys of rows that are to be deleted, and new rows. -/
structure UnitOfWork (κ ρ : Type*) [LinearOrder κ] where
  rows : Table κ ρ
  objects : Table κ ρ
  deleted : List κ
  new : List (κ × ρ)

namespace UnitOfWork

section Emits

variable [DecidableEq ρ]

def writes (u : UnitOfWork κ ρ) : List (Statement κ ρ) :=
  (u.objects.rows.filter (fun o => u.rows.find? o.1 ≠ some o.2)).map (fun o => .update o.1 o.2) ++
    u.new.map (fun n => .insert n.1 n.2)

def deletes (u : UnitOfWork κ ρ) : List (Statement κ ρ) := u.deleted.map .delete

/-- A flush emits the writes in some order, and then the deletes. -/
def Emits (u : UnitOfWork κ ρ) (statements : List (Statement κ ρ)) : Prop :=
  ∃ ws ds, ws.Perm u.writes ∧ ds.Perm u.deletes ∧ statements = ws ++ ds

theorem Emits.perm {u : UnitOfWork κ ρ} {statements : List (Statement κ ρ)}
    (h : u.Emits statements) : statements.Perm (u.writes ++ u.deletes) := by
  obtain ⟨ws, ds, hws, hds, rfl⟩ := h
  exact hws.append hds

theorem emits_self (u : UnitOfWork κ ρ) : u.Emits (u.writes ++ u.deletes) :=
  ⟨_, _, .refl _, .refl _, rfl⟩

/-- In every order the flushes are accepted, from the table `t` on, and they leave `final`. -/
def Leaves (Valid : Table κ ρ → Prop) (final : Table κ ρ) :
    Table κ ρ → List (UnitOfWork κ ρ) → Prop
  | t, [] => t = final
  | t, u :: us => ∀ statements, u.Emits statements →
    Accepted Valid t statements ∧ Leaves Valid final (runAll t statements) us

/-- The table after the flushes in the order of the writes, if all of it is accepted. -/
def commit (Valid : Table κ ρ → Prop) [DecidablePred Valid] :
    Table κ ρ → List (UnitOfWork κ ρ) → Option (Table κ ρ)
  | t, [] => some t
  | t, u :: us =>
    if Accepted Valid t (u.writes ++ u.deletes) then
      commit Valid (runAll t (u.writes ++ u.deletes)) us
    else none

end Emits

/-- The rows after a flush. -/
def flushed (u : UnitOfWork κ ρ) : Table κ ρ :=
  runAll u.objects (u.new.map (fun n => .insert n.1 n.2))

/-- The objects are those of stored rows, every stored row has an object or is deleted, and the
new rows have keys of their own. -/
structure Sound (u : UnitOfWork κ ρ) : Prop where
  stored : ∀ k, k ∈ u.rows.keys ↔ k ∈ u.objects.keys ∨ k ∈ u.deleted
  disjoint : ∀ k ∈ u.deleted, k ∉ u.objects.keys
  deletedNodup : u.deleted.Nodup
  fresh : ∀ n ∈ u.new, n.1 ∉ u.rows.keys
  newNodup : (u.new.map Prod.fst).Nodup

section Sound

variable {u : UnitOfWork κ ρ}

theorem keys_inserts : (u.new.map (fun n => Statement.insert n.1 n.2)).map Statement.key =
    u.new.map Prod.fst := by
  rw [List.map_map]
  rfl

theorem Sound.find?_flushed_new (hs : u.Sound) {n : κ × ρ} (hn : n ∈ u.new) :
    u.flushed.find? n.1 = some n.2 := by
  have hnodup : ((u.new.map (fun n => Statement.insert n.1 n.2)).map Statement.key).Nodup := by
    rw [keys_inserts]
    exact hs.newNodup
  exact find?_runAll_of_mem hnodup (List.mem_map_of_mem hn)

theorem find?_flushed_of_not_new {k : κ} (h : ∀ n ∈ u.new, n.1 ≠ k) :
    u.flushed.find? k = u.objects.find? k := by
  refine find?_runAll_of_not_mem ?_
  intro s hs
  obtain ⟨n, hn, rfl⟩ := List.mem_map.mp hs
  exact h n hn

variable [DecidableEq ρ] {statements : List (Statement κ ρ)}

theorem mem_writes {s : Statement κ ρ} : s ∈ u.writes ↔
    (∃ n ∈ u.new, s = .insert n.1 n.2) ∨
      ∃ k r, u.objects.find? k = some r ∧ u.rows.find? k ≠ some r ∧ s = .update k r := by
  simp only [writes, List.mem_append, List.mem_map, List.mem_filter, decide_eq_true_eq]
  constructor
  · rintro (⟨o, ⟨ho, hne⟩, rfl⟩ | ⟨n, hn, rfl⟩)
    · exact .inr ⟨o.1, o.2, Table.mem_rows.mp ho, hne, rfl⟩
    · exact .inl ⟨n, hn, rfl⟩
  · rintro (⟨n, hn, rfl⟩ | ⟨k, r, hr, hne, rfl⟩)
    · exact .inr ⟨n, hn, rfl⟩
    · exact .inl ⟨(k, r), ⟨Table.mem_rows.mpr hr, hne⟩, rfl⟩

omit [DecidableEq ρ] in
theorem mem_deletes {s : Statement κ ρ} : s ∈ u.deletes ↔ ∃ k ∈ u.deleted, s = .delete k := by
  simp [deletes, eq_comm]

theorem Sound.keys_nodup (hs : u.Sound) :
    ((u.writes ++ u.deletes).map Statement.key).Nodup := by
  have hkeys : (u.writes ++ u.deletes).map Statement.key =
      (u.objects.rows.filter (fun o => u.rows.find? o.1 ≠ some o.2)).map Prod.fst ++
        (u.new.map Prod.fst ++ u.deleted) := by
    simp only [writes, deletes, List.map_append, List.map_map, List.append_assoc]
    have hdeleted : u.deleted.map (Statement.key ∘ (Statement.delete : κ → Statement κ ρ)) =
        u.deleted := List.map_id _
    rw [hdeleted]
    rfl
  have hobjects : ∀ k ∈ (u.objects.rows.filter (fun o => u.rows.find? o.1 ≠ some o.2)).map Prod.fst,
      k ∈ u.objects.keys := by
    intro k hk
    obtain ⟨o, ho, rfl⟩ := List.mem_map.mp hk
    exact Table.mem_keys_of_find? (Table.mem_rows.mp (List.mem_filter.mp ho).1)
  have hfresh : ∀ k ∈ u.new.map Prod.fst, k ∉ u.objects.keys ∧ k ∉ u.deleted := by
    intro k hk
    obtain ⟨n, hn, rfl⟩ := List.mem_map.mp hk
    exact not_or.mp (fun h => hs.fresh n hn ((hs.stored n.1).mpr h))
  rw [hkeys, List.nodup_append', List.nodup_append']
  refine ⟨?_, ⟨hs.newNodup, hs.deletedNodup, fun k hk => (hfresh k hk).2⟩, ?_⟩
  · exact u.objects.nodup_keys.sublist (List.filter_sublist.map _)
  · intro k hk hother
    rcases List.mem_append.mp hother with hnew | hdel
    · exact (hfresh k hnew).1 (hobjects k hk)
    · exact hs.disjoint k hdel (hobjects k hk)

theorem Sound.fits (hs : u.Sound) : ∀ s ∈ u.writes ++ u.deletes, s.Fits u.rows := by
  intro s hmem
  rcases List.mem_append.mp hmem with hw | hd
  · rcases mem_writes.mp hw with ⟨n, hn, rfl⟩ | ⟨k, r, hr, -, rfl⟩
    · exact hs.fresh n hn
    · exact (hs.stored k).mpr (.inl (Table.mem_keys_of_find? hr))
  · obtain ⟨k, hk, rfl⟩ := mem_deletes.mp hd
    exact (hs.stored k).mpr (.inr hk)

/-- A flush is accepted in any order, if the rows of the kind `p` before it and among its writes
stand in one slot. -/
theorem Sound.accepted (hs : u.Sound) {p : ρ → Prop} (slot : κ → Prop)
    (hslot : ∀ k k', slot k → slot k' → k = k')
    (hrows : ∀ k r, u.rows.find? k = some r → p r → slot k)
    (hnew : ∀ n ∈ u.new, p n.2 → slot n.1)
    (hobjects : ∀ k r, u.objects.find? k = some r → p r → slot k) (h : u.Emits statements) :
    Accepted (AtMostOne p) u.rows statements := by
  refine accepted_of_slot hslot ((h.perm.map _).nodup_iff.mpr hs.keys_nodup) ?_ hrows ?_
  · exact fun s hmem => hs.fits s (h.perm.mem_iff.mp hmem)
  · intro s hmem r hr hp
    rcases List.mem_append.mp (h.perm.mem_iff.mp hmem) with hw | hd
    · rcases mem_writes.mp hw with ⟨n, hn, rfl⟩ | ⟨k, r', hr', -, rfl⟩
      · cases hr
        exact hnew n hn hp
      · cases hr
        exact hobjects k r hr' hp
    · obtain ⟨k, -, rfl⟩ := mem_deletes.mp hd
      cases hr

/-- The table after a flush does not depend on the order of its statements. -/
theorem Sound.runAll_emits (hs : u.Sound) (h : u.Emits statements) :
    runAll u.rows statements = u.flushed := by
  have hnodup := (h.perm.map Statement.key).nodup_iff.mpr hs.keys_nodup
  have hrun : ∀ s ∈ u.writes ++ u.deletes, (runAll u.rows statements).find? s.key = s.row? :=
    fun s hmem => find?_runAll_of_mem hnodup (h.perm.mem_iff.mpr hmem)
  ext1 k
  by_cases hnew : ∃ n ∈ u.new, n.1 = k
  · obtain ⟨n, hn, rfl⟩ := hnew
    rw [hs.find?_flushed_new hn]
    exact hrun (.insert n.1 n.2) (List.mem_append_left _ (mem_writes.mpr (.inl ⟨n, hn, rfl⟩)))
  rw [find?_flushed_of_not_new (fun n hn hk => hnew ⟨n, hn, hk⟩)]
  by_cases hdel : k ∈ u.deleted
  · rw [Table.not_mem_keys.mp (hs.disjoint k hdel)]
    exact hrun (.delete k) (List.mem_append_right _ (mem_deletes.mpr ⟨k, hdel, rfl⟩))
  by_cases hsame : u.rows.find? k = u.objects.find? k
  · -- no statement is about the key
    rw [← hsame]
    refine find?_runAll_of_not_mem ?_
    intro s hmem hk
    rcases List.mem_append.mp (h.perm.mem_iff.mp hmem) with hw | hd
    · rcases mem_writes.mp hw with ⟨n, hn, rfl⟩ | ⟨k', r, hr, hne, rfl⟩
      · exact hnew ⟨n, hn, hk⟩
      · cases hk
        exact hne (hsame.trans hr)
    · obtain ⟨k', hk', rfl⟩ := mem_deletes.mp hd
      cases hk
      exact hdel hk'
  · cases hobject : u.objects.find? k with
    | none =>
      have hstored : k ∉ u.rows.keys := by
        rw [hs.stored]
        rintro (hk | hk)
        · exact Table.not_mem_keys.mpr hobject hk
        · exact hdel hk
      exact absurd ((Table.not_mem_keys.mp hstored).trans hobject.symm) hsame
    | some r =>
      rw [hobject] at hsame
      exact hrun (.update k r)
        (List.mem_append_left _ (mem_writes.mpr (.inr ⟨k, r, hobject, hsame, rfl⟩)))

/-- The first of some flushes is accepted in every order, and the others go on from what it
leaves. -/
theorem Sound.leaves_cons_iff (hs : u.Sound) {Valid : Table κ ρ → Prop} {final : Table κ ρ}
    {us : List (UnitOfWork κ ρ)} :
    Leaves Valid final u.rows (u :: us) ↔
      (∀ statements, u.Emits statements → Accepted Valid u.rows statements) ∧
        Leaves Valid final u.flushed us := by
  constructor
  · intro h
    refine ⟨fun statements he => (h statements he).1, ?_⟩
    have hrest := (h _ u.emits_self).2
    rwa [hs.runAll_emits u.emits_self] at hrest
  · rintro ⟨haccepted, hrest⟩ statements he
    refine ⟨haccepted statements he, ?_⟩
    rw [hs.runAll_emits he]
    exact hrest

end Sound

end UnitOfWork

end Kelvin
