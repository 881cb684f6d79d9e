import Mathlib.Data.List.AList

/-!
# Renaming the keys of a dictionary

A dictionary keeps one value under a key. A key is renamed by taking its value away and storing it
under the new key, where it takes the place of another value.

* `OrderedDict.rename`: `d[new] = d.pop(old)`.
* `OrderedDict.renameAll`: some keys are renamed one after the other.
* `lookup_renameAll`: what is under a key afterwards. Of the keys that are renamed to it the last one
  counts.
-/

namespace Kelvin

/-- A dictionary, with its items in an order. -/
abbrev OrderedDict (κ ρ : Type*) := AList (fun _ : κ => ρ)

namespace OrderedDict

variable {κ ρ : Type*} [DecidableEq κ] {d d' : OrderedDict κ ρ} {old new k x : κ} {ks : List κ}
  {target : κ → Option κ}

/-- `d[new] = d.pop(old)`, unless there is no such key. -/
def rename (d : OrderedDict κ ρ) (old new : κ) : Option (OrderedDict κ ρ) :=
  (d.lookup old).map (fun value => (d.erase old).insert new value)

theorem rename_eq_some : d.rename old new = some d' ↔
    ∃ value, d.lookup old = some value ∧ (d.erase old).insert new value = d' :=
  Option.map_eq_some_iff

theorem rename_isSome (h : old ∈ d) : ∃ d', d.rename old new = some d' := by
  obtain ⟨value, hvalue⟩ := Option.isSome_iff_exists.mp (AList.lookup_isSome.mpr h)
  exact ⟨_, rename_eq_some.mpr ⟨value, hvalue, rfl⟩⟩

theorem lookup_rename_new (h : d.rename old new = some d') : d'.lookup new = d.lookup old := by
  obtain ⟨value, hvalue, rfl⟩ := rename_eq_some.mp h
  rw [AList.lookup_insert, hvalue]

theorem lookup_rename_old (h : d.rename old new = some d') (hne : old ≠ new) :
    d'.lookup old = none := by
  obtain ⟨value, -, rfl⟩ := rename_eq_some.mp h
  rw [AList.lookup_insert_ne hne, AList.lookup_erase]

theorem lookup_rename_of_ne (h : d.rename old new = some d') (hold : x ≠ old) (hnew : x ≠ new) :
    d'.lookup x = d.lookup x := by
  obtain ⟨value, -, rfl⟩ := rename_eq_some.mp h
  rw [AList.lookup_insert_ne hnew, AList.lookup_erase_ne hold]

theorem mem_rename (h : d.rename old new = some d') (hold : x ≠ old) (hx : x ∈ d) : x ∈ d' := by
  obtain ⟨value, -, rfl⟩ := rename_eq_some.mp h
  exact (AList.mem_insert _).mpr (.inr (AList.mem_erase.mpr ⟨hold, hx⟩))

/-- Renames the keys that have a target. -/
def renameAll (target : κ → Option κ) : List κ → OrderedDict κ ρ → Option (OrderedDict κ ρ)
  | [], d => some d
  | k :: ks, d =>
    match target k with
    | none => renameAll target ks d
    | some new => (d.rename k new).bind (renameAll target ks)

/-- The last key that is renamed to a key. -/
def lastTo (target : κ → Option κ) (x : κ) (ks : List κ) : Option κ :=
  ks.reverse.find? (fun k => target k = some x)

theorem lastTo_cons_of_ne (h : target k ≠ some x) :
    lastTo target x (k :: ks) = lastTo target x ks := by
  simp [lastTo, h]

theorem lastTo_cons_of_eq (h : target k = some x) :
    lastTo target x (k :: ks) = some ((lastTo target x ks).getD k) := by
  rw [lastTo, List.reverse_cons, List.find?_append, lastTo]
  cases ks.reverse.find? (fun k => target k = some x) <;> simp [h]

theorem lastTo_eq_none : lastTo target x ks = none ↔ ∀ k ∈ ks, target k ≠ some x := by
  simp [lastTo]

/-- After the last key that is renamed to a key no other one is. -/
theorem lastTo_eq_some : lastTo target x ks = some k ↔
    target k = some x ∧ ∃ before after, ks = before ++ k :: after ∧
      ∀ k' ∈ after, target k' ≠ some x := by
  rw [lastTo, List.find?_eq_some_iff_append]
  simp only [decide_eq_true_eq, Bool.not_eq_true', decide_eq_false_iff_not]
  refine and_congr_right fun _ => ?_
  constructor
  · rintro ⟨after, before, heq, hafter⟩
    refine ⟨before.reverse, after.reverse, ?_, fun k' hk' => hafter k' (List.mem_reverse.mp hk')⟩
    rw [← List.reverse_reverse ks, heq]
    simp
  · rintro ⟨before, after, rfl, hafter⟩
    exact ⟨after.reverse, before.reverse, by simp,
      fun k' hk' => hafter k' (List.mem_reverse.mp hk')⟩

/-- What is under a key after the renaming. A key that others are renamed to stays itself. -/
theorem lookup_renameAll (htarget : ∀ k new, target k = some new → target new = none)
    (hnodup : ks.Nodup) (hmem : ∀ k ∈ ks, k ∈ d) :
    ∃ d', renameAll target ks d = some d' ∧ ∀ x, d'.lookup x =
      (lastTo target x ks).elim (if x ∈ ks ∧ target x ≠ none then none else d.lookup x)
        (fun k => d.lookup k) := by
  induction ks generalizing d with
  | nil => exact ⟨d, rfl, fun x => by simp [lastTo]⟩
  | cons first ks ih =>
    obtain ⟨hfirst, hnodup⟩ := List.nodup_cons.mp hnodup
    cases hnew : target first with
    | none =>
      obtain ⟨d', hrun, hlookup⟩ := ih hnodup fun k hk => hmem k (List.mem_cons_of_mem _ hk)
      refine ⟨d', by simp only [renameAll, hnew, hrun], fun x => ?_⟩
      rw [hlookup, lastTo_cons_of_ne (by rw [hnew]; exact (Option.some_ne_none x).symm)]
      by_cases hx : x = first
      · subst hx
        simp [hnew]
      · simp [hx]
    | some new =>
      have hne : first ≠ new := by
        rintro rfl
        rw [htarget _ _ hnew] at hnew
        cases hnew
      obtain ⟨d₁, hrename⟩ := @rename_isSome _ _ _ d first new (hmem first List.mem_cons_self)
      have hkeep : ∀ k ∈ ks, k ≠ first := fun k hk heq => hfirst (heq ▸ hk)
      obtain ⟨d', hrun, hlookup⟩ := ih hnodup fun k hk =>
        mem_rename hrename (hkeep k hk) (hmem k (List.mem_cons_of_mem _ hk))
      refine ⟨d', by simp only [renameAll, hnew, hrename, Option.bind_some, hrun], fun x => ?_⟩
      rw [hlookup]
      cases hlast : lastTo target x ks with
      | some k =>
        obtain ⟨htarget', before, after, rfl, -⟩ := lastTo_eq_some.mp hlast
        have hk : k ≠ new := by
          rintro rfl
          rw [htarget _ _ hnew] at htarget'
          cases htarget'
        have hsame := lookup_rename_of_ne hrename (hkeep k (by simp)) hk
        by_cases hx : target first = some x
        · rw [lastTo_cons_of_eq hx, hlast]
          exact hsame
        · rw [lastTo_cons_of_ne hx, hlast]
          exact hsame
      | none =>
        by_cases hx : target first = some x
        · obtain rfl := Option.some.inj (hnew.symm.trans hx)
          rw [lastTo_cons_of_eq hx, hlast, htarget _ _ hx]
          simpa using lookup_rename_new hrename
        · rw [lastTo_cons_of_ne hx, hlast]
          have hxnew : x ≠ new := fun heq => hx (heq ▸ hnew)
          by_cases hold : x = first
          · subst hold
            simp [hnew, lookup_rename_old hrename hne, hfirst]
          · simp only [List.mem_cons, hold, false_or, Option.elim_none,
              lookup_rename_of_ne hrename hold hxnew]

end OrderedDict

end Kelvin
