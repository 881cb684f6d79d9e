import Mathlib.Data.Finset.Union
import Mathlib.Data.List.Sort
import Mathlib.Order.Basic

/-!
# Sorted tables

A `Table κ ρ` is a finite map from keys to rows, kept as a list of pairs whose keys
increase strictly. The order is a field of the structure, so an unsorted table or one
with two rows under one key cannot be built, and reading `rows` from front to back is
reading the table in the order of its keys.

* `find?_insert`, `find?_erase`, `find?_filter`, `find?_mapVals`: how the four writes act
  on a lookup. Nothing outside this file unfolds the writes.
* `ext`: two tables with the same lookups are equal.
* `mem_rows`: the rows are exactly the successful lookups.
-/

namespace Kelvin

variable {κ ρ σ : Type*} [LinearOrder κ]

/-- A finite map with rows in increasing order of their keys. -/
structure Table (κ ρ : Type*) [LinearOrder κ] where
  rows : List (κ × ρ)
  sorted : rows.Pairwise (fun a b => a.1 < b.1)
deriving DecidableEq

namespace Table

/-- The row under a key. -/
def find? (t : Table κ ρ) (k : κ) : Option ρ :=
  (t.rows.find? (fun r => r.1 = k)).map Prod.snd

def empty : Table κ ρ := ⟨[], .nil⟩

/-- The rows whose key and value satisfy `p`. -/
def filter (p : κ → ρ → Bool) (t : Table κ ρ) : Table κ ρ :=
  ⟨t.rows.filter (fun r => p r.1 r.2), t.sorted.filter _⟩

/-- Every row rewritten in place. -/
def mapVals (f : κ → ρ → σ) (t : Table κ ρ) : Table κ σ :=
  ⟨t.rows.map (fun r => (r.1, f r.1 r.2)), by
    rw [List.pairwise_map]
    exact t.sorted⟩

def erase (t : Table κ ρ) (k : κ) : Table κ ρ := t.filter (fun k' _ => k' ≠ k)

/-- Writes a row, over the old row under the same key if there is one. -/
def insert (t : Table κ ρ) (k : κ) (r : ρ) : Table κ ρ where
  rows := t.rows.filter (fun a => a.1 < k) ++ (k, r) :: t.rows.filter (fun a => k < a.1)
  sorted := by
    refine List.pairwise_append.mpr ⟨t.sorted.filter _, ?_, ?_⟩
    · refine List.pairwise_cons.mpr ⟨?_, t.sorted.filter _⟩
      intro a ha
      simpa using (List.mem_filter.mp ha).2
    · intro a ha b hb
      have hak : a.1 < k := by simpa using (List.mem_filter.mp ha).2
      rcases List.mem_cons.mp hb with rfl | hb
      · exact hak
      · have hkb : k < b.1 := by simpa using (List.mem_filter.mp hb).2
        exact hak.trans hkb

/-- The keys that have a row. -/
def keys (t : Table κ ρ) : Finset κ := (t.rows.map Prod.fst).toFinset

/-- The union of a set read off each row. -/
def collect {α : Type*} [DecidableEq α] (f : κ → ρ → Finset α) (t : Table κ ρ) : Finset α :=
  t.keys.biUnion (fun k => ((t.find? k).map (f k)).getD ∅)

/-! ## Rows and lookups -/

theorem nodup_keys (t : Table κ ρ) : (t.rows.map Prod.fst).Nodup :=
  (List.pairwise_map.mpr t.sorted).imp (fun h => ne_of_lt h)

theorem rows_unique {t : Table κ ρ} {k : κ} {r s : ρ} (hr : (k, r) ∈ t.rows)
    (hs : (k, s) ∈ t.rows) : r = s :=
  (Prod.mk.inj (List.inj_on_of_nodup_map t.nodup_keys hr hs rfl)).2

theorem mem_rows {t : Table κ ρ} {k : κ} {r : ρ} : (k, r) ∈ t.rows ↔ t.find? k = some r := by
  unfold find?
  constructor
  · intro h
    cases hf : t.rows.find? (fun r => r.1 = k) with
    | none => simpa using List.find?_eq_none.mp hf (k, r) h
    | some a =>
      obtain ⟨k', s⟩ := a
      have hk : k' = k := by simpa using List.find?_some hf
      subst hk
      simp [rows_unique (List.mem_of_find?_eq_some hf) h]
  · intro h
    obtain ⟨a, ha, rfl⟩ := Option.map_eq_some_iff.mp h
    have hk : a.1 = k := by simpa using List.find?_some ha
    subst hk
    exact List.mem_of_find?_eq_some ha

/-- Tables with the same lookups are equal. -/
@[ext]
theorem ext {t u : Table κ ρ} (h : ∀ k, t.find? k = u.find? k) : t = u := by
  have hmem : ∀ a, a ∈ t.rows ↔ a ∈ u.rows := by
    rintro ⟨k, r⟩
    rw [mem_rows, mem_rows, h k]
  have : Std.Antisymm (fun a b : κ × ρ => a.1 < b.1) := ⟨fun _ _ h h' => (h.asymm h').elim⟩
  have : Std.Irrefl (fun a b : κ × ρ => a.1 < b.1) := ⟨fun _ => lt_irrefl _⟩
  have hrows : t.rows = u.rows := t.sorted.eq_of_mem_iff u.sorted hmem
  cases t
  cases u
  simpa using hrows

theorem mem_keys {t : Table κ ρ} {k : κ} : k ∈ t.keys ↔ ∃ r, t.find? k = some r := by
  simp [keys, ← mem_rows]

theorem not_mem_keys {t : Table κ ρ} {k : κ} : k ∉ t.keys ↔ t.find? k = none := by
  rw [mem_keys, Option.eq_none_iff_forall_ne_some]
  simp

theorem mem_keys_of_find? {t : Table κ ρ} {k : κ} {r : ρ} (h : t.find? k = some r) :
    k ∈ t.keys := mem_keys.mpr ⟨r, h⟩

theorem mem_collect {α : Type*} [DecidableEq α] {f : κ → ρ → Finset α} {t : Table κ ρ} {a : α} :
    a ∈ t.collect f ↔ ∃ k r, t.find? k = some r ∧ a ∈ f k r := by
  simp only [collect, Finset.mem_biUnion, mem_keys]
  constructor
  · rintro ⟨k, ⟨r, hr⟩, ha⟩
    rw [hr] at ha
    exact ⟨k, r, hr, ha⟩
  · rintro ⟨k, r, hr, ha⟩
    refine ⟨k, ⟨r, hr⟩, ?_⟩
    rw [hr]
    exact ha

/-- The first row is the one under the least key. -/
theorem head?_eq_some {t : Table κ ρ} {k : κ} {r : ρ} :
    t.rows.head? = some (k, r) ↔ t.find? k = some r ∧ ∀ k' s, t.find? k' = some s → k ≤ k' := by
  obtain ⟨rows, hsorted⟩ := t
  cases rows with
  | nil => simp [find?]
  | cons a rows =>
    have hle : ∀ k' s, (k', s) ∈ a :: rows → a.1 ≤ k' := by
      intro k' s hmem
      rcases List.mem_cons.mp hmem with rfl | hmem
      · exact le_refl _
      · exact le_of_lt ((List.pairwise_cons.mp hsorted).1 _ hmem)
    simp only [List.head?_cons, Option.some_inj, ← mem_rows]
    constructor
    · rintro rfl
      exact ⟨List.mem_cons_self, hle⟩
    · rintro ⟨hmem, hleast⟩
      rcases List.mem_cons.mp hmem with h | h
      · exact h.symm
      · have hlt : a.1 < k := (List.pairwise_cons.mp hsorted).1 _ h
        exact absurd (hleast a.1 a.2 List.mem_cons_self) (not_le.mpr hlt)

/-! ## Lookups after a write -/

@[simp] theorem find?_empty (k : κ) : (empty : Table κ ρ).find? k = none := rfl

@[simp] theorem find?_filter (p : κ → ρ → Bool) (t : Table κ ρ) (k : κ) :
    (t.filter p).find? k = (t.find? k).filter (p k) := by
  ext r
  rw [← mem_rows, Option.filter_eq_some_iff, ← mem_rows]
  simp [filter]

@[simp] theorem find?_mapVals (f : κ → ρ → σ) (t : Table κ ρ) (k : κ) :
    (t.mapVals f).find? k = (t.find? k).map (f k) := by
  ext s
  rw [← mem_rows, Option.map_eq_some_iff]
  simp only [← mem_rows]
  simp only [mapVals, List.mem_map, Prod.exists, Prod.mk.injEq]
  constructor
  · rintro ⟨k', r, hr, rfl, hs⟩
    exact ⟨r, hr, hs⟩
  · rintro ⟨r, hr, hs⟩
    exact ⟨k, r, hr, rfl, hs⟩

theorem find?_erase (t : Table κ ρ) (k k' : κ) :
    (t.erase k).find? k' = if k' = k then none else t.find? k' := by
  rw [erase, find?_filter]
  by_cases h : k' = k
  · simp [h, Option.filter]
    cases t.find? k <;> rfl
  · cases t.find? k' <;> simp [h]

@[simp] theorem find?_erase_self (t : Table κ ρ) (k : κ) : (t.erase k).find? k = none := by
  rw [find?_erase, if_pos rfl]

theorem find?_insert (t : Table κ ρ) (k k' : κ) (r : ρ) :
    (t.insert k r).find? k' = if k' = k then some r else t.find? k' := by
  ext s
  rw [← mem_rows]
  simp only [insert, List.mem_append, List.mem_cons, List.mem_filter, Prod.mk.injEq,
    decide_eq_true_eq]
  by_cases h : k' = k
  · subst h
    simp [eq_comm]
  · rw [if_neg h, ← mem_rows]
    rcases lt_or_gt_of_ne h with hlt | hlt <;> simp [h, hlt, hlt.not_gt]

@[simp] theorem find?_insert_self (t : Table κ ρ) (k : κ) (r : ρ) :
    (t.insert k r).find? k = some r := by
  rw [find?_insert, if_pos rfl]

theorem find?_insert_ne {t : Table κ ρ} {k k' : κ} {r : ρ} (h : k' ≠ k) :
    (t.insert k r).find? k' = t.find? k' := by
  rw [find?_insert, if_neg h]

@[simp] theorem mem_keys_empty (k : κ) : k ∉ (empty : Table κ ρ).keys := by
  simp [not_mem_keys]

@[simp] theorem keys_insert (t : Table κ ρ) (k : κ) (r : ρ) :
    (t.insert k r).keys = Insert.insert k t.keys := by
  ext k'
  simp only [mem_keys, find?_insert, Finset.mem_insert]
  by_cases h : k' = k <;> simp [h]

@[simp] theorem keys_erase (t : Table κ ρ) (k : κ) : (t.erase k).keys = t.keys.erase k := by
  ext k'
  simp only [mem_keys, find?_erase, Finset.mem_erase]
  by_cases h : k' = k <;> simp [h]

@[simp] theorem keys_mapVals (f : κ → ρ → σ) (t : Table κ ρ) : (t.mapVals f).keys = t.keys := by
  ext k'
  simp [mem_keys]

/-- Only the last write under a key counts. -/
@[simp] theorem insert_insert (t : Table κ ρ) (k : κ) (r s : ρ) :
    (t.insert k r).insert k s = t.insert k s := by
  ext1 k'
  by_cases hk : k' = k
  · rw [hk, find?_insert_self, find?_insert_self]
  · rw [find?_insert_ne hk, find?_insert_ne hk, find?_insert_ne hk]

/-- A condition that every row and a new row meet is kept when the new row is written. -/
theorem forall_insert {t : Table κ ρ} {P : ρ → Prop} (h : ∀ k r, t.find? k = some r → P r)
    {k : κ} {r : ρ} (hr : P r) : ∀ k' r', (t.insert k r).find? k' = some r' → P r' := by
  intro k' r' hfind
  rw [find?_insert] at hfind
  split at hfind
  · cases hfind
    exact hr
  · exact h k' r' hfind

/-- Erasing a key without a row changes nothing. -/
theorem erase_eq_self {t : Table κ ρ} {k : κ} (h : t.find? k = none) : t.erase k = t := by
  ext1 k'
  rw [find?_erase]
  split
  · next hk => rw [hk, h]
  · rfl

/-! ## Loops that change one row in each turn -/

section Loops

variable {τ α : Type*} (view : τ → Table κ ρ) {step : τ → α → τ} {key : α → κ} {change : α → ρ → ρ}
  {s : τ} {l : List α} {k : κ}

theorem find?_foldl_of_not_mem
    (hstep : ∀ s a k, (view (step s a)).find? k =
      if k = key a then ((view s).find? k).map (change a) else (view s).find? k)
    (hk : ∀ a ∈ l, key a ≠ k) : (view (l.foldl step s)).find? k = (view s).find? k := by
  induction l generalizing s with
  | nil => rfl
  | cons a l ih =>
    rw [List.forall_mem_cons] at hk
    rw [List.foldl_cons, ih hk.2, hstep, if_neg hk.1.symm]

/-- A loop that changes the row under the key of each item, for different keys. -/
theorem find?_foldl_of_mem
    (hstep : ∀ s a k, (view (step s a)).find? k =
      if k = key a then ((view s).find? k).map (change a) else (view s).find? k)
    (hnodup : (l.map key).Nodup) {a : α} (ha : a ∈ l) :
    (view (l.foldl step s)).find? (key a) = ((view s).find? (key a)).map (change a) := by
  induction l generalizing s with
  | nil => cases ha
  | cons b l ih =>
    rw [List.map_cons, List.nodup_cons] at hnodup
    rw [List.foldl_cons]
    rcases List.mem_cons.mp ha with rfl | ha
    · have hlater : ∀ b ∈ l, key b ≠ key a := fun b hb hkey =>
        hnodup.1 (hkey ▸ List.mem_map_of_mem hb)
      rw [find?_foldl_of_not_mem view hstep hlater, hstep, if_pos rfl]
    · have hne : key a ≠ key b := fun hkey => hnodup.1 (hkey ▸ List.mem_map_of_mem ha)
      rw [ih hnodup.2 ha, hstep, if_neg hne]

end Loops

end Table

end Kelvin
